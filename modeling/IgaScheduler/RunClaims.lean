import IgaScheduler.RunControl

namespace IgaScheduler

/-!
# Creating and claiming runs

`createRun` with the documents of the tick and of run-now, the two ways a
`QUEUED` run is claimed, and the fenced writes a worker may send afterwards.
A tick inserts inside its own transaction; nobody sees the row before that
transaction commits, so the insert is one step here, at the commit.
-/

namespace CreateRun

/-- Where a new run comes from. -/
inductive Origin where
  | tick
      (runId : String)
      (jobInstance : InstanceDocument)
      (scheduledFireTime nowIso : Timestamp)
      (executionMetadata : Option Json)
  | runNow
      (jobInstance : InstanceDocument)
      (nowIso : Timestamp)
      (uuid : Uuid)

/-- The document that is inserted. -/
def Origin.document : Origin → RunDocument
  | .tick runId jobInstance scheduledFireTime nowIso executionMetadata =>
      buildRunDocument runId jobInstance scheduledFireTime nowIso
        executionMetadata
  | .runNow jobInstance nowIso uuid =>
      runNowDocument jobInstance nowIso uuid

inductive Local where
  | start (origin : Origin)
  | done (outcome : Except CallError Bool)

def issue :
    Local →
      Environment →
      Option RunStatement
  | .start origin, _ => some (.createRun origin.document)
  | .done _, _ => none

def resume :
    Local →
      Environment →
      RunReply →
      Local
  | .start _, _, reply => .done (.ok reply.exists?)
  | .done outcome, _, _ => .done outcome

/-- The awaited statement threw. -/
def raise : Local → Local
  | .done outcome => .done outcome
  | _ => .done (.error .raised)

end CreateRun

namespace ClaimRun

/-- The value `claimRun` returns. -/
inductive Result where
  | claimed (dispatchId : Option String)
  | notClaimed (missing : Bool)
  deriving DecidableEq, Repr

inductive Local where
  | start
      (runId : String)
      (startedAt : Timestamp)
      (status : Option Json)
  /-- The update matched no row; `SELECT 1` tells a missing run apart. -/
  | missed (runId : String)
  | done (outcome : Except CallError Result)

def issue :
    Local →
      Environment →
      Option RunStatement
  | .start runId startedAt status, environment =>
      some (.update runId (.claimRun startedAt status environment.uuid))
  | .missed runId, _ => some (.runExists runId)
  | .done _, _ => none

def resume :
    Local →
      Environment →
      RunReply →
      Local
  | .start runId _ _, _, reply =>
      match reply.found? with
      | none => .missed runId
      | some claimed => .done (.ok (.claimed claimed.dispatchId))
  | .missed _, _, reply => .done (.ok (.notClaimed !reply.exists?))
  | .done outcome, _, _ => .done outcome

/-- The awaited statement threw. -/
def raise : Local → Local
  | .done outcome => .done outcome
  | _ => .done (.error .raised)

end ClaimRun

namespace ClaimNextQueued

structure Arguments where
  limit : Nat
  startedAt : Timestamp
  deriving DecidableEq, Repr

inductive Local where
  | start (arguments : Arguments)
  /-- The transaction has begun. -/
  | selecting (arguments : Arguments)
  /-- The candidates still to update, and the pairs already in `claimed`. -/
  | claiming
      (arguments : Arguments)
      (candidates : List String)
      (claimed : List (String × String))
  /-- A statement threw; the transaction is still open. -/
  | rollingBack (arguments : Arguments)
  | done
      (arguments : Arguments)
      (outcome : Except CallError (List (String × String)))

def issue :
    Local →
      Environment →
      Option RunStatement
  | .start _, _ => some .begin
  | .selecting arguments, _ =>
      some (.selectQueuedForUpdate arguments.limit)
  | .claiming arguments (runId :: _) _, environment =>
      some (.claimCandidate runId arguments.startedAt environment.uuid)
  | .claiming _ [] claimed, _ => some (.commitClaims claimed)
  | .rollingBack _, _ => some .rollback
  | .done .., _ => none

def resume :
    Local →
      Environment →
      RunReply →
      Local
  | .start arguments, _, _ => .selecting arguments
  | .selecting arguments, _, reply =>
      .claiming arguments reply.listed []
  | .claiming arguments (runId :: rest) claimed, environment, _ =>
      -- pushed whether or not the update matched the row
      .claiming arguments rest
        (claimed ++ [(runId, environment.uuid.text)])
  | .claiming arguments [] claimed, _, _ =>
      .done arguments (.ok claimed)
  | .rollingBack arguments, _, _ => .done arguments (.error .raised)
  | .done arguments outcome, _, _ => .done arguments outcome

/-- The awaited statement threw. -/
def raise : Local → Local
  | .start arguments => .rollingBack arguments
  | .selecting arguments => .rollingBack arguments
  | .claiming arguments _ _ => .rollingBack arguments
  | .rollingBack arguments => .done arguments (.error .raised)
  | .done arguments outcome => .done arguments outcome

/-- A `ROLLBACK` that throws has lost its connection: the server rolls back. -/
def raiseStatement : Local → RunStatement
  | .rollingBack _ => .rollback
  | _ => .skip

end ClaimNextQueued

namespace FencedWrite

/-- The writes a worker fences with the `dispatchId` of its claim. -/
inductive Kind where
  | recordRuntimeExecution
      (runtimeExecution : Option Json)
      (startedAt : Timestamp)
      (status : Option Json)
  | markSucceeded
      (endedAt : Timestamp)
      (result status : Option Json)
  | markFailed
      (endedAt : Timestamp)
      (error status : Option Json)
  | touchHeartbeat (heartbeatAt : Timestamp)

structure Arguments where
  runId : String
  dispatchId : String
  kind : Kind

def Arguments.write (arguments : Arguments) : RunWrite :=
  match arguments.kind with
  | .recordRuntimeExecution runtimeExecution startedAt status =>
      .recordRuntimeExecution runtimeExecution startedAt status
        (some arguments.dispatchId)
  | .markSucceeded endedAt result status =>
      .markSucceeded endedAt result status (some arguments.dispatchId)
  | .markFailed endedAt error status =>
      .markFailed endedAt error status (some arguments.dispatchId)
  | .touchHeartbeat heartbeatAt =>
      .touchHeartbeat arguments.dispatchId heartbeatAt

inductive Local where
  | start (arguments : Arguments)
  /-- `touchHeartbeat` returns the state, the other writes whether one exists. -/
  | done (outcome : Except CallError (Option RunState))

def issue :
    Local →
      Environment →
      Option RunStatement
  | .start arguments, _ => some (.update arguments.runId arguments.write)
  | .done _, _ => none

def resume :
    Local →
      Environment →
      RunReply →
      Local
  | .start _, _, reply =>
      .done (.ok (reply.found?.map fun written => written.state))
  | .done outcome, _, _ => .done outcome

/-- The awaited statement threw. -/
def raise : Local → Local
  | .done outcome => .done outcome
  | _ => .done (.error .raised)

end FencedWrite

end IgaScheduler

import IgaScheduler.RunStatements

namespace IgaScheduler

/-!
# `RunControlService`

The three operator calls as control-flow machines: between two awaited
statements a call is one local state, and anything else may happen to the run
before its next statement.
-/

/-- How a service call ends when it does not return. -/
inductive CallError where
  /-- `transitionError(statusCode, message)`. -/
  | transitionError (statusCode : Nat) (message : String)
  /-- An awaited statement threw. -/
  | raised
  deriving DecidableEq, Repr

def runNotFound (runId : String) : CallError :=
  .transitionError 404 s!"run {runId} was not found"

def runIdRequired : CallError :=
  .transitionError 400 "runId is required"

namespace RetryRun

/-- The value `retryRun` returns. -/
structure Result where
  runId : String
  attempt : Nat
  dispatchId : String
  deriving DecidableEq, Repr

inductive Local where
  | start (runId : String)
  /-- `getRun` returned a `FAILED` run. -/
  | loaded (runId : String) (existing : RunDocument) (nowIso : Timestamp)
  /-- The transition found the run in another state. -/
  | missed (runId : String)
  | done (outcome : Except CallError Result)

def nextAttempt (existing : RunDocument) : Nat :=
  existing.attempt + 1

def issue :
    Local →
      Environment →
      Option RunStatement
  | .start runId, _ =>
      if runId = "" then some .skip else some (.getRun runId)
  | .loaded runId existing nowIso, environment =>
      some (.update runId
        (.retry (nextAttempt existing) environment.uuid nowIso
          environment.databaseNow))
  | .missed runId, _ => some (.getRun runId)
  | .done _, _ => none

def resume :
    Local →
      Environment →
      RunReply →
      Local
  | .start runId, environment, reply =>
      if runId = "" then
        .done (.error runIdRequired)
      else
        match reply.found? with
        | none => .done (.error (runNotFound runId))
        | some existing =>
            if existing.state = .failed then
              .loaded runId existing environment.now
            else
              .done (.error (.transitionError 409
                s!"run {runId} cannot be retried from state {existing.state.text}"))
  | .loaded runId existing _, environment, reply =>
      match reply.found? with
      | none => .missed runId
      | some _ =>
          .done (.ok {
            runId := runId
            attempt := nextAttempt existing
            dispatchId := environment.uuid.text
          })
  | .missed runId, _, reply =>
      match reply.found? with
      | none => .done (.error (runNotFound runId))
      | some _ =>
          .done (.error (.transitionError 409
            s!"run {runId} changed during transition"))
  | .done outcome, _, _ => .done outcome

/-- The awaited statement threw. -/
def raise : Local → Local
  | .done outcome => .done outcome
  | _ => .done (.error .raised)

end RetryRun

namespace CancelRun

/-- The arguments of `cancelRun`; an absent `reason` is the empty string. -/
structure Arguments where
  runId : String
  reason : String
  cancelledBy : String
  /-- The service was built with a `runtimeLauncher` that can cancel. -/
  launcher : Bool
  deriving DecidableEq, Repr

/-- The value `cancelRun` returns; its `status` is the state in lower case. -/
structure Result where
  runId : String
  state : RunState
  idempotent : Bool
  deriving DecidableEq, Repr

inductive Local where
  | start (arguments : Arguments)
  /-- `getRun` returned a `QUEUED` or `RUNNING` run. -/
  | loaded
      (arguments : Arguments)
      (run : RunDocument)
      (nowIso : Timestamp)
  /-- The run is `CANCELLING`; the launcher is asked to kill it. -/
  | signalling (arguments : Arguments) (run : RunDocument)
  /-- The launcher confirmed the kill. -/
  | killed
      (arguments : Arguments)
      (run : RunDocument)
      (nowIso : Timestamp)
  | done (outcome : Except CallError Result)

def acknowledged
    (arguments : Arguments)
    (state : RunState) :
    Local :=
  .done (.ok {
    runId := arguments.runId
    state := state
    idempotent := false
  })

def issue :
    Local →
      Environment →
      Option RunStatement
  | .start arguments, _ =>
      if arguments.runId = "" then
        some .skip
      else
        some (.getRun arguments.runId)
  | .loaded arguments run nowIso, environment =>
      if run.state = .running then
        some (.update arguments.runId
          (.cancelRunning arguments.reason arguments.cancelledBy nowIso
            environment.databaseNow))
      else
        some (.update arguments.runId
          (.cancelQueued arguments.reason arguments.cancelledBy nowIso
            environment.databaseNow))
  | .signalling .., _ => some .skip
  | .killed _ run nowIso, environment =>
      some (.update run.runId
        (.killed run.cancelReason nowIso environment.databaseNow))
  | .done _, _ => none

def resume :
    Local →
      Environment →
      RunReply →
      Local
  | .start arguments, environment, reply =>
      if arguments.runId = "" then
        .done (.error runIdRequired)
      else
        match reply.found? with
        | none => .done (.error (runNotFound arguments.runId))
        | some run =>
            match run.state with
            | .cancelled =>
                .done (.ok ⟨arguments.runId, .cancelled, true⟩)
            | .cancelling =>
                .done (.ok ⟨arguments.runId, .cancelling, true⟩)
            | .running => .loaded arguments run environment.now
            | .queued => .loaded arguments run environment.now
            | state =>
                .done (.error (.transitionError 409
                  s!"run {arguments.runId} cannot be cancelled from state {state.text}"))
  | .loaded arguments run _, _, reply =>
      if run.state = .running then
        match reply.found? with
        | none => acknowledged arguments .cancelling
        | some updated =>
            if arguments.launcher then
              .signalling arguments updated
            else
              acknowledged arguments .cancelling
      else
        -- the reply of the transition from `QUEUED` is not looked at
        acknowledged arguments .cancelled
  | .signalling arguments run, environment, _ =>
      if environment.answer = some "killed" then
        .killed arguments run environment.now
      else
        acknowledged arguments .cancelling
  | .killed arguments _ _, _, _ => acknowledged arguments .cancelling
  | .done outcome, _, _ => .done outcome

/-- The awaited statement threw; a launcher that throws is ignored. -/
def raise : Local → Local
  | .signalling arguments _ => acknowledged arguments .cancelling
  | .done outcome => .done outcome
  | _ => .done (.error .raised)

end CancelRun

namespace RedriveRun

/-- The value `redriveRun` returns. -/
structure Result where
  sourceRunId : String
  runId : String
  dispatchId : String
  deriving DecidableEq, Repr

inductive Local where
  | start (runId : String)
  /-- `getRun` returned a finished run. -/
  | loaded (runId : String) (run : RunDocument) (nowIso : Timestamp)
  | done (outcome : Except CallError Result)

/-- `REDRIVABLE_STATES`. -/
def redrivable : List RunState :=
  [.succeeded, .failed, .cancelled]

def issue :
    Local →
      Environment →
      Option RunStatement
  | .start runId, _ =>
      if runId = "" then some .skip else some (.getRun runId)
  | .loaded _ run nowIso, environment =>
      some (.createRun
        (redriveDocument run nowIso environment.uuid
          environment.secondUuid))
  | .done _, _ => none

def resume :
    Local →
      Environment →
      RunReply →
      Local
  | .start runId, environment, reply =>
      if runId = "" then
        .done (.error runIdRequired)
      else
        match reply.found? with
        | none => .done (.error (runNotFound runId))
        | some run =>
            if run.state ∈ redrivable then
              .loaded runId run environment.now
            else
              .done (.error (.transitionError 409
                s!"run {runId} cannot be re-driven from state {run.state.text}"))
  | .loaded runId run nowIso, environment, _ =>
      .done (.ok {
        sourceRunId := runId
        runId :=
          (redriveDocument run nowIso environment.uuid
            environment.secondUuid).runId
        dispatchId := environment.secondUuid.text
      })
  | .done outcome, _, _ => .done outcome

/-- The awaited statement threw. -/
def raise : Local → Local
  | .done outcome => .done outcome
  | _ => .done (.error .raised)

end RedriveRun

end IgaScheduler

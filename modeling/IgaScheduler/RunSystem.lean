import IgaScheduler.InterleavedPool
import IgaScheduler.StaleRunSweeper
import IgaScheduler.WorkerExecution

namespace IgaScheduler

open Relational Interleaving

/-!
# Everything that happens to `job_runs`

Any number of calls of every service, interleaved statement by statement.  A
process is idle until some call is started on it; a call that works for a
claim can only be started with the pair that the claim returned.
-/

/-- The local state of one service call. -/
inductive RunCall where
  | idle
  | createRun (call : CreateRun.Local)
  | claimRun (call : ClaimRun.Local)
  | claimNextQueued (call : ClaimNextQueued.Local)
  | fencedWrite (call : FencedWrite.Local)
  | executeClaimedRun (call : Execution.Local)
  | retryRun (call : RetryRun.Local)
  | cancelRun (call : CancelRun.Local)
  | redriveRun (call : RedriveRun.Local)
  | sweep (call : Sweep.Local)

/-- The calls that can be started, with their arguments. -/
inductive RunRequest where
  | createRun (origin : CreateRun.Origin)
  | claimRun
      (runId : String)
      (startedAt : Timestamp)
      (status : Option Json)
  | claimNextQueued (arguments : ClaimNextQueued.Arguments)
  | fencedWrite (arguments : FencedWrite.Arguments)
  | executeClaimedRun (runId dispatchId : String)
  | retryRun (runId : String)
  | cancelRun (arguments : CancelRun.Arguments)
  | redriveRun (runId : String)
  | sweep (options : Sweep.Options)

namespace RunRequest

/-- The first local state of a started call. -/
def call : RunRequest → RunCall
  | .createRun origin => .createRun (.start origin)
  | .claimRun runId startedAt status =>
      .claimRun (.start runId startedAt status)
  | .claimNextQueued arguments => .claimNextQueued (.start arguments)
  | .fencedWrite arguments => .fencedWrite (.start arguments)
  | .executeClaimedRun runId dispatchId =>
      .executeClaimedRun (.start runId dispatchId)
  | .retryRun runId => .retryRun (.start runId)
  | .cancelRun arguments => .cancelRun (.start arguments)
  | .redriveRun runId => .redriveRun (.start runId)
  | .sweep options => .sweep (.listRunning options)

/-- A call that works for a claim has to show that claim. -/
def admission : RunRequest → RunStatement
  | .fencedWrite arguments =>
      .present arguments.runId arguments.dispatchId
  | .executeClaimedRun runId dispatchId => .present runId dispatchId
  | _ => .skip

end RunRequest

/-- What the schedule chooses for a step. -/
inductive RunInput where
  /-- Start a call on an idle process. -/
  | start (request : RunRequest)
  /-- The awaited statement is executed. -/
  | proceed (environment : Environment)
  /-- The awaited statement throws without effect. -/
  | raise (environment : Environment)

namespace RunCall

/-- The next statement of a call that is in progress. -/
def next :
    RunCall →
      Environment →
      Option RunStatement
  | .idle, _ => none
  | .createRun call, environment => CreateRun.issue call environment
  | .claimRun call, environment => ClaimRun.issue call environment
  | .claimNextQueued call, environment =>
      ClaimNextQueued.issue call environment
  | .fencedWrite call, environment => FencedWrite.issue call environment
  | .executeClaimedRun call, environment =>
      Execution.issue call environment
  | .retryRun call, environment => RetryRun.issue call environment
  | .cancelRun call, environment => CancelRun.issue call environment
  | .redriveRun call, environment => RedriveRun.issue call environment
  | .sweep call, environment => Sweep.issue call environment

/-- What reaches the server when the awaited statement throws. -/
def raiseStatement : RunCall → RunStatement
  | .claimNextQueued call => ClaimNextQueued.raiseStatement call
  | _ => .skip

def issue
    (call : RunCall) :
    RunInput →
      Option RunStatement
  | .start request =>
      match call with
      | .idle => some request.admission
      | _ => none
  | .proceed environment => call.next environment
  | .raise environment =>
      (call.next environment).map fun _ => call.raiseStatement

/-- Resume a call in progress with the reply of its statement. -/
def resumed :
    RunCall →
      Environment →
      RunReply →
      RunCall
  | .idle, _, _ => .idle
  | .createRun call, environment, reply =>
      .createRun (CreateRun.resume call environment reply)
  | .claimRun call, environment, reply =>
      .claimRun (ClaimRun.resume call environment reply)
  | .claimNextQueued call, environment, reply =>
      .claimNextQueued (ClaimNextQueued.resume call environment reply)
  | .fencedWrite call, environment, reply =>
      .fencedWrite (FencedWrite.resume call environment reply)
  | .executeClaimedRun call, environment, reply =>
      .executeClaimedRun (Execution.resume call environment reply)
  | .retryRun call, environment, reply =>
      .retryRun (RetryRun.resume call environment reply)
  | .cancelRun call, environment, reply =>
      .cancelRun (CancelRun.resume call environment reply)
  | .redriveRun call, environment, reply =>
      .redriveRun (RedriveRun.resume call environment reply)
  | .sweep call, environment, reply =>
      .sweep (Sweep.resume call environment reply)

/-- Resume a call in progress whose awaited statement threw. -/
def raised :
    RunCall →
      Environment →
      RunCall
  | .idle, _ => .idle
  | .createRun call, _ => .createRun (CreateRun.raise call)
  | .claimRun call, _ => .claimRun (ClaimRun.raise call)
  | .claimNextQueued call, _ =>
      .claimNextQueued (ClaimNextQueued.raise call)
  | .fencedWrite call, _ => .fencedWrite (FencedWrite.raise call)
  | .executeClaimedRun call, environment =>
      .executeClaimedRun (Execution.raise call environment)
  | .retryRun call, _ => .retryRun (RetryRun.raise call)
  | .cancelRun call, _ => .cancelRun (CancelRun.raise call)
  | .redriveRun call, _ => .redriveRun (RedriveRun.raise call)
  | .sweep call, _ => .sweep (Sweep.raise call)

def resume
    (call : RunCall) :
    RunInput →
      RunReply →
      RunCall
  | .start request, _ => request.call
  | .proceed environment, reply => call.resumed environment reply
  | .raise environment, _ => call.raised environment

/-- Which call issues which statement, and on which input. -/
inductive Issues : RunCall → RunInput → RunStatement → Prop where
  | admitted
      (request : RunRequest) :
      Issues .idle (.start request) .skip
  | admittedWrite
      (arguments : FencedWrite.Arguments) :
      Issues .idle (.start (.fencedWrite arguments))
        (.present arguments.runId arguments.dispatchId)
  | admittedExecution
      (runId dispatchId : String) :
      Issues .idle (.start (.executeClaimedRun runId dispatchId))
        (.present runId dispatchId)
  | thrown
      (call : RunCall)
      (environment : Environment) :
      Issues call (.raise environment) .skip
  | disconnected
      (arguments : ClaimNextQueued.Arguments)
      (environment : Environment) :
      Issues (.claimNextQueued (.rollingBack arguments))
        (.raise environment) .rollback
  | waited
      (call : RunCall)
      (environment : Environment) :
      Issues call (.proceed environment) .skip
  | createRun
      (origin : CreateRun.Origin)
      (environment : Environment) :
      Issues (.createRun (.start origin)) (.proceed environment)
        (.createRun origin.document)
  | claimRun
      (runId : String)
      (startedAt : Timestamp)
      (status : Option Json)
      (environment : Environment) :
      Issues (.claimRun (.start runId startedAt status))
        (.proceed environment)
        (.update runId (.claimRun startedAt status environment.uuid))
  | claimRunMissed
      (runId : String)
      (environment : Environment) :
      Issues (.claimRun (.missed runId)) (.proceed environment)
        (.runExists runId)
  | begin
      (arguments : ClaimNextQueued.Arguments)
      (environment : Environment) :
      Issues (.claimNextQueued (.start arguments)) (.proceed environment)
        .begin
  | select
      (arguments : ClaimNextQueued.Arguments)
      (environment : Environment) :
      Issues (.claimNextQueued (.selecting arguments))
        (.proceed environment)
        (.selectQueuedForUpdate arguments.limit)
  | claimCandidate
      (arguments : ClaimNextQueued.Arguments)
      (runId : String)
      (rest : List String)
      (claimed : List (String × String))
      (environment : Environment) :
      Issues (.claimNextQueued (.claiming arguments (runId :: rest) claimed))
        (.proceed environment)
        (.claimCandidate runId arguments.startedAt environment.uuid)
  | commitClaims
      (arguments : ClaimNextQueued.Arguments)
      (claimed : List (String × String))
      (environment : Environment) :
      Issues (.claimNextQueued (.claiming arguments [] claimed))
        (.proceed environment) (.commitClaims claimed)
  | rollback
      (arguments : ClaimNextQueued.Arguments)
      (environment : Environment) :
      Issues (.claimNextQueued (.rollingBack arguments))
        (.proceed environment) .rollback
  | fencedWrite
      (arguments : FencedWrite.Arguments)
      (write : RunWrite)
      (environment : Environment)
      (shape : write = arguments.write) :
      Issues (.fencedWrite (.start arguments)) (.proceed environment)
        (.update arguments.runId write)
  | load
      (runId dispatchId : String)
      (environment : Environment) :
      Issues (.executeClaimedRun (.start runId dispatchId))
        (.proceed environment) (.getRun runId)
  | succeed
      (run : RunDocument)
      (result : Json)
      (environment : Environment) :
      Issues (.executeClaimedRun (.executed run result))
        (.proceed environment)
        (.update run.runId
          (.markSucceeded environment.now (some result) none
            run.dispatchId))
  | fail
      (run : RunDocument)
      (error : Json)
      (environment : Environment) :
      Issues (.executeClaimedRun (.failing run error))
        (.proceed environment)
        (.update run.runId
          (.markFailed environment.now (some error) none run.dispatchId))
  | retryLoad
      (runId : String)
      (environment : Environment) :
      Issues (.retryRun (.start runId)) (.proceed environment)
        (.getRun runId)
  | retry
      (runId : String)
      (existing : RunDocument)
      (nowIso : Timestamp)
      (environment : Environment) :
      Issues (.retryRun (.loaded runId existing nowIso))
        (.proceed environment)
        (.update runId
          (.retry (RetryRun.nextAttempt existing) environment.uuid nowIso
            environment.databaseNow))
  | retryMissed
      (runId : String)
      (environment : Environment) :
      Issues (.retryRun (.missed runId)) (.proceed environment)
        (.getRun runId)
  | cancelLoad
      (arguments : CancelRun.Arguments)
      (environment : Environment) :
      Issues (.cancelRun (.start arguments)) (.proceed environment)
        (.getRun arguments.runId)
  | cancelRunning
      (arguments : CancelRun.Arguments)
      (run : RunDocument)
      (nowIso : Timestamp)
      (environment : Environment)
      (running : run.state = .running) :
      Issues (.cancelRun (.loaded arguments run nowIso))
        (.proceed environment)
        (.update arguments.runId
          (.cancelRunning arguments.reason arguments.cancelledBy nowIso
            environment.databaseNow))
  | cancelQueued
      (arguments : CancelRun.Arguments)
      (run : RunDocument)
      (nowIso : Timestamp)
      (environment : Environment)
      (notRunning : run.state ≠ .running) :
      Issues (.cancelRun (.loaded arguments run nowIso))
        (.proceed environment)
        (.update arguments.runId
          (.cancelQueued arguments.reason arguments.cancelledBy nowIso
            environment.databaseNow))
  | kill
      (arguments : CancelRun.Arguments)
      (run : RunDocument)
      (nowIso : Timestamp)
      (environment : Environment) :
      Issues (.cancelRun (.killed arguments run nowIso))
        (.proceed environment)
        (.update run.runId
          (.killed run.cancelReason nowIso environment.databaseNow))
  | redriveLoad
      (runId : String)
      (environment : Environment) :
      Issues (.redriveRun (.start runId)) (.proceed environment)
        (.getRun runId)
  | redrive
      (runId : String)
      (run : RunDocument)
      (nowIso : Timestamp)
      (environment : Environment) :
      Issues (.redriveRun (.loaded runId run nowIso))
        (.proceed environment)
        (.createRun
          (redriveDocument run nowIso environment.uuid
            environment.secondUuid))
  | sweepListRunning
      (options : Sweep.Options)
      (environment : Environment) :
      Issues (.sweep (.listRunning options)) (.proceed environment)
        (.listStaleRunningIds options.thresholdMs options.batchSize
          environment.databaseNow)
  | sweepFail
      (options : Sweep.Options)
      (runId : String)
      (dispatchId : Option String)
      (rest : List (String × Option String))
      (write : RunWrite)
      (environment : Environment)
      (shape : write = Sweep.failWrite environment.now dispatchId) :
      Issues (.sweep (.failing options ((runId, dispatchId) :: rest)))
        (.proceed environment) (.update runId write)
  | sweepListCancelling
      (options : Sweep.Options)
      (environment : Environment) :
      Issues (.sweep (.listCancelling options)) (.proceed environment)
        (.listStaleCancellingIds options.thresholdMs options.batchSize
          environment.databaseNow)
  | sweepCancel
      (options : Sweep.Options)
      (runId : String)
      (rest : List String)
      (write : RunWrite)
      (environment : Environment)
      (shape : write = Sweep.cancelWrite environment.now) :
      Issues (.sweep (.cancelling options (runId :: rest)))
        (.proceed environment) (.update runId write)

/-- Every issued statement is one of those listed. -/
theorem issues_of_issue
    {call : RunCall}
    {input : RunInput}
    {statement : RunStatement}
    (issued : call.issue input = some statement) :
    Issues call input statement := by
  cases input with
  | start request =>
      cases call with
      | idle =>
          cases request with
          | fencedWrite arguments =>
              cases issued
              exact .admittedWrite arguments
          | executeClaimedRun runId dispatchId =>
              cases issued
              exact .admittedExecution runId dispatchId
          | _ =>
              cases issued
              exact .admitted _
      | _ =>
          cases issued
  | raise environment =>
      obtain ⟨_, -, shape⟩ := Option.map_eq_some_iff.mp issued
      subst shape
      cases call with
      | claimNextQueued call =>
          cases call with
          | rollingBack arguments =>
              exact .disconnected arguments environment
          | _ =>
              exact .thrown _ environment
      | _ =>
          exact .thrown _ environment
  | proceed environment =>
      change call.next environment = _ at issued
      cases call with
      | idle =>
          cases issued
      | createRun call =>
          cases call <;> cases issued
          exact .createRun _ environment
      | claimRun call =>
          cases call <;> cases issued
          · exact .claimRun _ _ _ environment
          · exact .claimRunMissed _ environment
      | claimNextQueued call =>
          cases call with
          | claiming arguments candidates claimed =>
              cases candidates with
              | nil =>
                  cases issued
                  exact .commitClaims arguments claimed environment
              | cons runId rest =>
                  cases issued
                  exact .claimCandidate arguments runId rest claimed
                    environment
          | start arguments =>
              cases issued
              exact .begin arguments environment
          | selecting arguments =>
              cases issued
              exact .select arguments environment
          | rollingBack arguments =>
              cases issued
              exact .rollback arguments environment
          | done arguments outcome =>
              cases issued
      | fencedWrite call =>
          cases call <;> cases issued
          exact .fencedWrite _ _ environment rfl
      | executeClaimedRun call =>
          cases call <;> cases issued
          · exact .load _ _ environment
          · exact .waited _ environment
          · exact .succeed _ _ environment
          · exact .waited _ environment
          · exact .fail _ _ environment
          · exact .waited _ environment
      | retryRun call =>
          cases call with
          | start runId =>
              simp only [next, RetryRun.issue] at issued
              split at issued <;> cases issued
              · exact .waited _ environment
              · exact .retryLoad runId environment
          | loaded runId existing nowIso =>
              cases issued
              exact .retry runId existing nowIso environment
          | missed runId =>
              cases issued
              exact .retryMissed runId environment
          | done outcome =>
              cases issued
      | cancelRun call =>
          cases call with
          | start arguments =>
              simp only [next, CancelRun.issue] at issued
              split at issued <;> cases issued
              · exact .waited _ environment
              · exact .cancelLoad arguments environment
          | loaded arguments run nowIso =>
              by_cases running : run.state = .running
              · simp only [next, CancelRun.issue, running, if_true] at issued
                cases issued
                exact .cancelRunning arguments run nowIso environment running
              · simp only [next, CancelRun.issue, running, if_false]
                  at issued
                cases issued
                exact .cancelQueued arguments run nowIso environment running
          | signalling arguments run =>
              cases issued
              exact .waited _ environment
          | killed arguments run nowIso =>
              cases issued
              exact .kill arguments run nowIso environment
          | done outcome =>
              cases issued
      | redriveRun call =>
          cases call with
          | start runId =>
              simp only [next, RedriveRun.issue] at issued
              split at issued <;> cases issued
              · exact .waited _ environment
              · exact .redriveLoad runId environment
          | loaded runId run nowIso =>
              cases issued
              exact .redrive runId run nowIso environment
          | done outcome =>
              cases issued
      | sweep call =>
          cases call with
          | listRunning options =>
              cases issued
              exact .sweepListRunning options environment
          | failing options staleRuns =>
              cases staleRuns with
              | nil =>
                  cases issued
                  exact .waited _ environment
              | cons first rest =>
                  cases issued
                  exact .sweepFail options first.1 first.2 rest _
                    environment rfl
          | listCancelling options =>
              cases issued
              exact .sweepListCancelling options environment
          | cancelling options runIds =>
              cases runIds with
              | nil =>
                  cases issued
                  exact .waited _ environment
              | cons runId rest =>
                  cases issued
                  exact .sweepCancel options runId rest _ environment rfl
          | done =>
              cases issued

end RunCall

/-- The services on `job_runs` as one system of interleaved calls. -/
def runSystem :
    System RunDatabase RunCall RunInput RunStatement RunReply where
  issue := RunCall.issue
  resume := RunCall.resume
  exec process _ statement shared := shared.exec process statement

/-- The shared state and all calls in progress. -/
abbrev RunPool := Pool RunDatabase RunCall

/-- No call has been started on the stored rows yet. -/
def RunPool.initial (rows : JobRuns) : RunPool where
  shared := {
    database := .ofTable rows
    log := []
    minted := rows.entries.filterMap fun entry => entry.2.dispatchId
  }
  locals _ := .idle

/-- A pool that some schedule leads to from the stored rows. -/
def RunPool.Reachable
    (rows : JobRuns)
    (pool : RunPool) :
    Prop :=
  ∃ schedule,
    runSystem.run? (RunPool.initial rows) schedule = some pool

namespace RunPool

/-- What one scheduled step of a call consists of. -/
theorem step_moves
    {pool next : RunPool}
    {label : Label RunInput}
    (stepped : runSystem.step? pool label = some next) :
    ∃ statement reply,
      (pool.locals label.1).issue label.2 = some statement ∧
        pool.shared.exec label.1 statement = some (next.shared, reply) ∧
        next.locals label.1 =
          (pool.locals label.1).resume label.2 reply :=
  System.step?_moves stepped

theorem Reachable.initial (rows : JobRuns) :
    Reachable rows (RunPool.initial rows) :=
  ⟨[], rfl⟩

theorem Reachable.run
    {rows : JobRuns}
    {pool next : RunPool}
    {schedule : List (Label RunInput)}
    (reachable : Reachable rows pool)
    (ran : runSystem.run? pool schedule = some next) :
    Reachable rows next := by
  obtain ⟨earlier, ranEarlier⟩ := reachable
  exact ⟨earlier ++ schedule,
    System.run?_append_eq_some.mpr ⟨pool, ranEarlier, ran⟩⟩

theorem Reachable.step
    {rows : JobRuns}
    {pool next : RunPool}
    {label : Label RunInput}
    (reachable : Reachable rows pool)
    (stepped : runSystem.step? pool label = some next) :
    Reachable rows next :=
  reachable.run (System.run?_singleton.trans stepped)

/-- A property that every step keeps holds of every reachable pool. -/
theorem Reachable.invariant
    {rows : JobRuns}
    {pool : RunPool}
    (invariant : RunPool → Prop)
    (reachable : Reachable rows pool)
    (atStart : invariant (RunPool.initial rows))
    (preserved :
      ∀ {pool next : RunPool} {label : Label RunInput},
        invariant pool →
        runSystem.step? pool label = some next →
        invariant next) :
    invariant pool := by
  obtain ⟨schedule, ran⟩ := reachable
  exact System.run?_invariant invariant atStart preserved ran

/-- A property of the shared state kept by every statement holds throughout. -/
theorem Reachable.shared_invariant
    {rows : JobRuns}
    {pool : RunPool}
    (invariant : RunDatabase → Prop)
    (reachable : Reachable rows pool)
    (atStart : invariant (RunPool.initial rows).shared)
    (preserved :
      ∀ {process : Nat} {statement : RunStatement}
        {shared next : RunDatabase} {reply : RunReply},
        invariant shared →
        shared.exec process statement = some (next, reply) →
        invariant next) :
    invariant pool.shared := by
  obtain ⟨schedule, ran⟩ := reachable
  exact System.run?_shared_invariant invariant atStart
    (fun holds executed => preserved holds executed) ran

end RunPool

/-! ## Pieces of example schedules -/

/-- An instance that fires at midnight. -/
def nightly : InstanceDocument where
  instanceId := "nightly"
  tenantId := none
  definitionId := "report"
  definitionVersion := 1
  definitionParameterSchema := []
  enabled := true
  state := .active
  schedule := ⟨"cron", some "0 0 * * *", none, none⟩
  nextFireAt := some 0
  lastFireAt := none
  parameters := []
  createdAt := 0
  updatedAt := 0

/-- The run that `queueNightly` creates. -/
def nightlyRunId : String := "nightly:manual:a"

def environmentAt
    (now : Timestamp)
    (uuid : Uuid) :
    Environment where
  now := now
  databaseNow := now
  uuid := uuid
  secondUuid := uuid

def manualUuid : Uuid := ⟨"a", by decide⟩

def unusedUuid : Uuid := ⟨"unused", by decide⟩

def firstUuid : Uuid := ⟨"first", by decide⟩

def secondUuid : Uuid := ⟨"second", by decide⟩

def retriedUuid : Uuid := ⟨"retried", by decide⟩

def staleUuid : Uuid := ⟨"stale", by decide⟩

/-- Process 0 queues a run by hand. -/
def queueNightly : List (Label RunInput) :=
  [(0, .start (.createRun (.runNow nightly 5 manualUuid))),
    (0, .proceed (environmentAt 5 unusedUuid))]

/-- A process claims the run. -/
def claimNightly
    (process : Nat)
    (dispatchId : Uuid) :
    List (Label RunInput) :=
  [(process, .start (.claimRun nightlyRunId 6 none)),
    (process, .proceed (environmentAt 6 dispatchId))]

/-- A process executes the claimed run up to its job. -/
def executeNightly
    (process : Nat)
    (dispatchId : String) :
    List (Label RunInput) :=
  (process, .start (.executeClaimedRun nightlyRunId dispatchId)) ::
    List.replicate 7 (process, .proceed (environmentAt 7 unusedUuid))

/-- A process executes the claimed run, whose metadata cannot be loaded. -/
def failNightly
    (process : Nat)
    (dispatchId : String) :
    List (Label RunInput) :=
  [(process, .start (.executeClaimedRun nightlyRunId dispatchId)),
    (process, .proceed (environmentAt 7 unusedUuid)),
    (process, .raise (environmentAt 8 unusedUuid)),
    (process, .proceed (environmentAt 9 unusedUuid))]

/-- A process retries the run. -/
def retryNightly
    (process : Nat)
    (dispatchId : Uuid) :
    List (Label RunInput) :=
  [(process, .start (.retryRun nightlyRunId)),
    (process, .proceed (environmentAt 10 dispatchId)),
    (process, .proceed (environmentAt 10 dispatchId))]

end IgaScheduler

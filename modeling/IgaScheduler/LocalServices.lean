import IgaScheduler.LocalExecution
import IgaScheduler.LocalRefinement
import IgaScheduler.RunHistory

namespace IgaScheduler

open Relational Interleaving

/-!
# The services of the local application

`app.local.js` builds the services on `LocalRunStore`: ticks and run-now,
`RunControlService`, and a dispatcher whose `executeRun` is
`executeRunLocally`.  There are no pull workers and no sweeper, so an
execution that has claimed a run is the only one to write its outcome, and no
fence would ever have refused one of its writes.
-/

namespace RunWrite

/-- What `RunControlService` hands to `transition`. -/
def asked? :
    RunWrite →
      Option (List RunState × RunStore.TransitionSet × Timestamp)
  | .retry nextAttempt dispatchId nowIso now =>
      some ([.failed], {
        state := .queued
        attempt := some nextAttempt
        dispatchId := some (some dispatchId.text)
        startedAt := some none
        endedAt := some none
        heartbeatAt := some none
        updatedAt := some nowIso
        status := some (some (statusJson "queued" "Run queued for retry"))
        error := some none
        runtimeExecution := some none
      }, now)
  | .cancelRunning reason cancelledBy nowIso now =>
      let message :=
        if reason = "" then "Run cancellation requested" else reason
      some ([.running], {
        state := .cancelling
        cancelRequestedAt := some (some nowIso)
        cancelledBy := some (some cancelledBy)
        cancelReason := some (some message)
        updatedAt := some nowIso
        status := some (some (statusJson "cancelling" message))
      }, now)
  | .cancelQueued reason cancelledBy nowIso now =>
      let message := if reason = "" then "Run cancelled" else reason
      some ([.queued], {
        state := .cancelled
        endedAt := some (some nowIso)
        heartbeatAt := some (some nowIso)
        cancelledAt := some (some nowIso)
        cancelledBy := some (some cancelledBy)
        cancelReason := some (some message)
        updatedAt := some nowIso
        status := some (some (statusJson "cancelled" message))
        error := some (some (errorJson "RUN_CANCELLED" message))
      }, now)
  | _ => none

end RunWrite

/-- The calls of a store that a statement belongs to. -/
def RunStatement.storeCalls : RunStatement → List StoreCall
  | .getRun runId => [.getRun runId]
  | .createRun document => [.createRun document]
  | .update runId (.claimRun startedAt status dispatchId) =>
      [.claimRun runId startedAt status dispatchId]
  | .update runId (.markSucceeded endedAt result status dispatchId) =>
      [.markSucceeded runId endedAt result status dispatchId]
  | .update runId (.markFailed endedAt error status dispatchId) =>
      [.markFailed runId endedAt error status dispatchId]
  | .update runId write =>
      match write.asked? with
      | some (fromStates, set, now) =>
          [.transition runId fromStates set now]
      | none => []
  | _ => []

namespace LocalServices

open LocalRunStore (Given GivesObjects Readable)

/-- What can happen in the local application; objects are as built in JavaScript. -/
def servedLocally : RunInput ⊕ LocalExecution.Input → Bool
  | .inl (.start (.createRun origin)) =>
      JavaScript.built (PublicRuns.parametersJson origin.document.params)
  | .inl (.start (.retryRun _)) => true
  | .inl (.start (.cancelRun arguments)) => !arguments.launcher
  | .inl (.start (.redriveRun _)) => true
  | .inl (.start _) => false
  | .inl _ => true
  | .inr (.start (.executeRunLocally ..)) => true
  | .inr (.start _) => false
  | .inr (.proceed environment) =>
      JavaScript.built (.obj environment.fields)
  | .inr (.raise environment) =>
      JavaScript.built (.obj environment.fields)

/-- The calls of its store that a step of a service makes. -/
def stepCalls
    (pool : WorkerPool)
    (label : WorkerStep) :
    List StoreCall :=
  match workerSystem.issue (pool.locals label.1) label.2 with
  | some (.inl statement) => statement.storeCalls
  | some (.inr statement) => statement.storeCalls
  | none => []

/-- The calls of its store that the services make along a schedule. -/
def storeHistory : WorkerPool → List WorkerStep → List StoreCall
  | _, [] => []
  | pool, label :: rest =>
      match workerSystem.step? pool label with
      | none => []
      | some next => stepCalls pool label ++ storeHistory next rest

/-! ## Statements as calls of a store -/

/-- A statement that the local services issue. -/
def issuedLocally : RunStatement → Bool
  | .skip => true
  | .getRun _ => true
  | .runExists _ => true
  | .createRun _ => true
  | .update _ (.recordRuntimeExecution ..) => false
  | .update _ (.touchHeartbeat ..) => false
  | .update _ (.markCancelled ..) => false
  | .update _ (.killed ..) => false
  | .update .. => true
  | _ => false

/-- Nobody holds a transaction open. -/
def Unlocked (shared : RunDatabase) : Prop :=
  shared.database.transactions = ∅

theorem Unlocked.isLocked
    {shared : RunDatabase}
    (unlocked : Unlocked shared)
    (runId : String) :
    shared.database.isLocked runId = false := by
  rw [Database.isLocked, unlocked]
  rfl

/-- A statement does to the table what the queries of `RunStore` do. -/
theorem exec_storeCalls
    {process : Nat}
    {statement : RunStatement}
    {shared next : RunDatabase}
    {reply : RunReply}
    (unlocked : Unlocked shared)
    (served : issuedLocally statement = true)
    (executed : shared.exec process statement = some (next, reply)) :
    Unlocked next ∧
      next.database.committed =
        Answering.after RunStore.query shared.database.committed
          statement.storeCalls := by
  obtain ⟨-, performed, ran, rfl⟩ := RunDatabase.exec_eq_some executed
  have free := unlocked.isLocked
  cases statement with
  | skip | getRun | runExists =>
      cases ran
      exact ⟨unlocked, rfl⟩
  | createRun document =>
      simp only [RunDatabase.perform, Database.insert?, free,
        Bool.false_eq_true, if_false, Option.map_some] at ran
      cases ran
      exact ⟨unlocked, rfl⟩
  | update runId write =>
      simp only [RunDatabase.perform, Database.update?, free,
        Bool.false_eq_true, if_false, Option.map_some] at ran
      cases ran
      refine ⟨unlocked, ?_⟩
      cases write with
      | recordRuntimeExecution | touchHeartbeat | markCancelled | killed =>
          cases served
      | _ =>
          rfl
  | _ =>
      cases served

/-! ## The calls of the services -/

/-- A call that the local application makes. -/
def ServiceReady : RunCall → Prop
  | .idle => True
  | .createRun (.start origin) => Readable origin.document.toJobRun
  | .createRun (.done _) => True
  | .retryRun _ => True
  | .cancelRun (.start arguments) => arguments.launcher = false
  | .cancelRun (.loaded arguments _ _) => arguments.launcher = false
  | .cancelRun (.done _) => True
  | .redriveRun (.loaded _ run _) => Readable run.toJobRun
  | .redriveRun _ => True
  | _ => False

/-- The calls of a statement are given objects, and fit whatever there is. -/
def ServedAlike (statement : RunStatement) : Prop :=
  ∀ call ∈ statement.storeCalls,
    GivesObjects call ∧ ∀ table, call.fits table = true

theorem servedAlike_nil
    {statement : RunStatement}
    (none_made : statement.storeCalls = []) :
    ServedAlike statement := by
  rintro call member
  rw [none_made] at member
  cases member

theorem servedAlike_getRun (runId : String) :
    ServedAlike (.getRun runId) := by
  rintro call member
  rw [List.mem_singleton.mp member]
  exact ⟨trivial, fun _ => rfl⟩

theorem servedAlike_createRun
    {document : RunDocument}
    (readable : Readable document.toJobRun) :
    ServedAlike (.createRun document) := by
  rintro call member
  rw [List.mem_singleton.mp member]
  exact ⟨readable, fun _ => rfl⟩

theorem given_statusJson (phase message : String) :
    Given (some (statusJson phase message)) := by
  rintro json ⟨⟩
  exact ⟨⟨_, rfl⟩, LocalRunStore.built_statusJson phase message⟩

theorem given_errorJson (code message : String) :
    Given (some (errorJson code message)) := by
  have ordered : JavaScript.precedes "code" "message" = true := by decide
  rintro json ⟨⟩
  refine ⟨⟨_, rfl⟩, ?_⟩
  simp [errorJson, JavaScript.built, JavaScript.builtFields, ordered]

theorem given_none : Given none := by
  rintro json ⟨⟩

/-- The transitions of `RunControlService` are given objects. -/
theorem servedAlike_asked
    {runId : String}
    {write : RunWrite}
    (asked : write.asked?.isSome = true) :
    ServedAlike (.update runId write) := by
  have each
      {value : Option Json}
      (given : Given value)
      {set : Option Json}
      (member : set ∈ some value) :
      Given set := by
    cases member
    exact given
  cases write with
  | retry | cancelRunning | cancelQueued =>
      rintro call member
      rw [List.mem_singleton.mp member]
      refine ⟨⟨?_, ?_, ?_⟩, fun _ => rfl⟩
      all_goals
        first
        | exact fun _ => each (given_statusJson _ _)
        | exact fun _ => each (given_errorJson _ _)
        | exact fun _ => each given_none
        | exact fun _ member => by cases member
  | _ =>
      cases asked

/-- A document that a service makes has JSON columns that can be read back. -/
theorem readable_created
    {origin : CreateRun.Origin}
    (built :
      JavaScript.built (PublicRuns.parametersJson origin.document.params) =
        true) :
    Readable origin.document.toJobRun := by
  cases origin with
  | tick | runNow =>
      exact {
        params := built
        status := (given_statusJson _ _).built
        result := LocalRunStore.built_none
        error := LocalRunStore.built_none
        runtimeExecution := LocalRunStore.built_none
      }

theorem readable_redriveDocument
    {run : RunDocument}
    (readable : Readable run.toJobRun)
    (nowIso : Timestamp)
    (redriveUuid dispatchUuid : Uuid) :
    Readable
      (redriveDocument run nowIso redriveUuid dispatchUuid).toJobRun where
  params := readable.params
  status := (given_statusJson _ _).built
  result := LocalRunStore.built_none
  error := LocalRunStore.built_none
  runtimeExecution := LocalRunStore.built_none

/-- What `cancelRun` makes of the run it has read. -/
theorem cancelLoaded_ready
    {arguments : CancelRun.Arguments}
    {environment : Environment}
    {reply : RunReply}
    (noLauncher : arguments.launcher = false) :
    ServiceReady
      (.cancelRun (CancelRun.resume (.start arguments) environment reply)) := by
  simp only [CancelRun.resume]
  split
  · trivial
  split
  · trivial
  split
  · trivial
  · trivial
  · exact noLauncher
  · exact noLauncher
  · trivial

/-- Without a launcher, `cancelRun` is over after its transition. -/
theorem cancelAcknowledged_ready
    {arguments : CancelRun.Arguments}
    {run : RunDocument}
    {nowIso : Timestamp}
    {environment : Environment}
    {reply : RunReply}
    (noLauncher : arguments.launcher = false) :
    ServiceReady
      (.cancelRun
        (CancelRun.resume (.loaded arguments run nowIso) environment
          reply)) := by
  simp only [CancelRun.resume, noLauncher, Bool.false_eq_true, if_false]
  split
  · cases reply.found? <;> trivial
  · trivial

/-- A run that `redriveRun` has read is as the store holds it. -/
theorem redriveLoaded_ready
    {process : Nat}
    {shared next : RunDatabase}
    {runId : String}
    {environment : Environment}
    {reply : RunReply}
    (readable :
      ∀ {runId : String} {run : JobRun},
        shared.row runId = some run → Readable run)
    (executed :
      shared.exec process (.getRun runId) = some (next, reply)) :
    ServiceReady
      (.redriveRun
        (RedriveRun.resume (.start runId) environment reply)) := by
  obtain ⟨rfl, answer⟩ := RunDatabase.exec_getRun executed
  simp only [RedriveRun.resume, answer]
  split
  · trivial
  · cases found : next.row runId with
    | none =>
        trivial
    | some run =>
        simp only [Option.map_some]
        split
        · exact readable found
        · trivial

/-- The next statement of a service, and what it makes of the service. -/
theorem service_step
    {process : Nat}
    {call : RunCall}
    {input : RunInput}
    {statement : RunStatement}
    {shared next : RunDatabase}
    {reply : RunReply}
    (ready : ServiceReady call)
    (served : servedLocally (.inl input) = true)
    (readable :
      ∀ {runId : String} {run : JobRun},
        shared.row runId = some run → Readable run)
    (issued : call.issue input = some statement)
    (executed : shared.exec process statement = some (next, reply)) :
    issuedLocally statement = true ∧
      ServedAlike statement ∧
      (∀ runId endedAt error status dispatchId,
        statement ≠
          .update runId (.markFailed endedAt error status dispatchId)) ∧
      ServiceReady (call.resume input reply) := by
  cases RunCall.issues_of_issue issued with
  | admitted request =>
      refine ⟨rfl, servedAlike_nil rfl, by simp, ?_⟩
      cases request with
      | createRun origin =>
          exact readable_created served
      | cancelRun arguments =>
          exact Bool.not_eq_true' _ |>.mp served
      | retryRun | redriveRun =>
          trivial
      | _ =>
          cases served
  | admittedWrite | admittedExecution =>
      cases served
  | thrown environment =>
      refine ⟨rfl, servedAlike_nil rfl, by simp, ?_⟩
      cases call with
      | redriveRun call | createRun call =>
          cases call <;> trivial
      | cancelRun call =>
          cases call <;> trivial
      | idle | retryRun =>
          trivial
      | _ =>
          exact ready.elim
  | createRun origin =>
      exact ⟨rfl, servedAlike_createRun ready, by simp, trivial⟩
  | retryLoad | retryMissed =>
      exact ⟨rfl, servedAlike_getRun _, by simp, trivial⟩
  | cancelLoad arguments =>
      exact ⟨rfl, servedAlike_getRun _, by simp,
        cancelLoaded_ready ready⟩
  | retry =>
      exact ⟨rfl, servedAlike_asked rfl, by simp, trivial⟩
  | cancelRunning arguments run nowIso environment running =>
      exact ⟨rfl, servedAlike_asked rfl, by simp,
        cancelAcknowledged_ready ready⟩
  | cancelQueued arguments run nowIso environment notRunning =>
      exact ⟨rfl, servedAlike_asked rfl, by simp,
        cancelAcknowledged_ready ready⟩
  | redriveLoad runId =>
      exact ⟨rfl, servedAlike_getRun _, by simp,
        redriveLoaded_ready readable executed⟩
  | redrive runId run nowIso =>
      exact ⟨rfl,
        servedAlike_createRun (readable_redriveDocument ready _ _ _),
        by simp, trivial⟩
  | waited environment =>
      refine ⟨rfl, servedAlike_nil rfl, by simp, ?_⟩
      cases call with
      | redriveRun call =>
          cases call with
          | start runId =>
              simp only [RunCall.issue, RunCall.next, RedriveRun.issue]
                at issued
              split at issued
              · rename_i absent
                simp only [RunCall.resume, RunCall.resumed,
                  RedriveRun.resume, absent, if_true]
                trivial
              · cases issued
          | loaded | done =>
              cases issued
      | createRun call =>
          cases call <;> cases issued
      | cancelRun call =>
          cases call with
          | start arguments =>
              exact cancelLoaded_ready ready
          | loaded =>
              exact cancelAcknowledged_ready ready
          | done =>
              trivial
          | _ =>
              exact ready.elim
      | idle | retryRun =>
          trivial
      | _ =>
          exact ready.elim
  | _ =>
      exact ready.elim

/-! ## The executions -/

/-- An execution that the local application has started. -/
def ExecutionReady : LocalExecution.Local → Prop
  | .call (.claim run (.start runId _ status)) _ =>
      runId = run.runId ∧ status = none
  | .call (.execution (.start ..)) _ => False
  | .call (.execution (.executed _ result)) _ => Given (some result)
  | .call (.execution (.failing _ error)) _ => Given (some error)
  | _ => True

/-- The run that an execution has claimed and has not settled yet. -/
def held : LocalExecution.Local → Option RunDocument
  | .call (.claimAudit run) _ => some run
  | .call (.startAudit run) _ => some run
  | .call (.execution (.preparing run _)) _ => some run
  | .call (.execution (.executed run _)) _ => some run
  | .call (.execution (.succeeded run)) _ => some run
  | .call (.execution (.failing run _)) _ => some run
  | _ => none

/-- The row of a claimed run still bears the claim, and waits for nobody. -/
def Holds
    (shared : RunDatabase)
    (run : RunDocument) :
    Prop :=
  ∃ row,
    shared.row run.runId = some row ∧
      row.dispatchId = run.dispatchId ∧
      row.state ≠ .queued ∧
      row.state ≠ .failed

/-- A run stays claimed unless its own execution fails it. -/
theorem Holds.exec
    {process : Nat}
    {statement : RunStatement}
    {shared next : RunDatabase}
    {reply : RunReply}
    {run : RunDocument}
    (holds : Holds shared run)
    (served : issuedLocally statement = true)
    (notFailed :
      ∀ endedAt error status dispatchId,
        statement ≠
          .update run.runId (.markFailed endedAt error status dispatchId))
    (executed : shared.exec process statement = some (next, reply)) :
    Holds next run := by
  obtain ⟨row, found, bears, notQueued, notFailedYet⟩ := holds
  have effect := RunDatabase.exec_rowEffect executed run.runId
  unfold Holds
  generalize next.row run.runId = after at effect ⊢
  cases effect with
  | kept =>
      exact ⟨row, found, bears, notQueued, notFailedYet⟩
  | created document sameRun absent =>
      rw [found] at absent
      cases absent
  | written write stored storedThere admitted =>
      cases found.symm.trans storedThere
      refine ⟨_, rfl, ?_⟩
      have source := RunWrite.state_mem_sources admitted
      rw [RunWrite.set_dispatchId, RunWrite.set_state]
      cases write with
      | claimRun | cancelQueued =>
          exact (notQueued (List.mem_singleton.mp source)).elim
      | retry =>
          exact (notFailedYet (List.mem_singleton.mp source)).elim
      | markFailed endedAt error status dispatchId =>
          exact (notFailed endedAt error status dispatchId rfl).elim
      | recordRuntimeExecution | touchHeartbeat | markCancelled | killed =>
          cases served
      | markSucceeded | cancelRunning =>
          exact ⟨bears, by simp [RunWrite.target],
            by simp [RunWrite.target]⟩
  | published =>
      cases served

/-- The fence of a claimed run's execution holds. -/
theorem Holds.fenceHolds
    {shared : RunDatabase}
    {run : RunDocument}
    (holds : Holds shared run) :
    StoreCall.fenceHolds shared.database.committed run.runId
      run.dispatchId = true := by
  obtain ⟨row, found, bears, -⟩ := holds
  have stored : shared.database.committed.lookup run.runId = some row :=
    found
  rw [StoreCall.fenceHolds, stored]
  simp only [ne_eq, Bool.or_eq_true]
  right
  unfold RunStore.fencing
  rw [bears]
  cases run.dispatchId <;> simp

/-- The calls of a statement are given objects, and fit this table. -/
def AnsweredAlike
    (table : JobRuns)
    (statement : RunStatement) :
    Prop :=
  ∀ call ∈ statement.storeCalls,
    GivesObjects call ∧ call.fits table = true

theorem ServedAlike.answeredAlike
    {statement : RunStatement}
    (alike : ServedAlike statement)
    (table : JobRuns) :
    AnsweredAlike table statement :=
  fun call member => ⟨(alike call member).1, (alike call member).2 table⟩

/-- What a step makes of what its execution holds. -/
inductive HeldAfter
    (statement : RunStatement)
    (reply : RunReply)
    (before after : Option RunDocument) :
    Prop where
  | claimed
      {run written : RunDocument}
      {startedAt : Timestamp}
      {uuid : Uuid}
      (claim : statement = .update run.runId (.claimRun startedAt none uuid))
      (answered : reply.found? = some written)
      (holds :
        after = some { run with dispatchId := written.dispatchId })
  | released (gone : after = none)
  | kept
      (same : after = before)
      (goesOn :
        ∀ runId endedAt error status dispatchId,
          statement ≠
            .update runId (.markFailed endedAt error status dispatchId))

/-- A step of an execution that makes no call of the store but a reading one. -/
structure ExecutionStep
    (table : JobRuns)
    (statement : RunStatement)
    (reply : RunReply)
    (before after : LocalExecution.Local) :
    Prop where
  issued : issuedLocally statement = true
  alike : AnsweredAlike table statement
  failing :
    ∀ runId endedAt error status dispatchId,
      statement =
          .update runId (.markFailed endedAt error status dispatchId) →
        ∃ run ∈ held before, run.runId = runId
  ready : ExecutionReady after
  held : HeldAfter statement reply (held before) (held after)

section ExecutionSteps

variable {shared : RunDatabase} {statement : RunStatement}
variable {reply : RunReply} {environment : Environment}
variable {trail laterTrail : List AuditEvent}

/-- A step that claims nothing, when nothing is held. -/
theorem ExecutionStep.idle
    {table : JobRuns}
    {before after : LocalExecution.Local}
    (issued : issuedLocally statement = true)
    (alike : ServedAlike statement)
    (noFailure :
      ∀ runId endedAt error status dispatchId,
        statement ≠
          .update runId (.markFailed endedAt error status dispatchId))
    (ready : ExecutionReady after)
    (nothing : LocalServices.held after = none) :
    ExecutionStep table statement reply before after where
  issued := issued
  alike := alike.answeredAlike table
  failing := fun runId endedAt error status dispatchId failed =>
    (noFailure runId endedAt error status dispatchId failed).elim
  ready := ready
  held := .released nothing

/-- A step that goes on with what is held. -/
theorem ExecutionStep.onward
    {table : JobRuns}
    {before after : LocalExecution.Local}
    (ready : ExecutionReady after)
    (same : LocalServices.held after = LocalServices.held before) :
    ExecutionStep table .skip reply before after where
  issued := rfl
  alike := (servedAlike_nil rfl).answeredAlike table
  failing := by simp
  ready := ready
  held := .kept same (by simp)

/-- The claim of a run, whether or not it is granted. -/
theorem execution_claims
    {run : RunDocument}
    {claim : ClaimRun.Local}
    (ready :
      ExecutionReady (.call (.claim run claim) trail))
    (issued :
      LocalExecution.Awaiting.issue (.claim run claim) environment =
        some statement) :
    ExecutionStep shared.database.committed statement reply
      (.call (.claim run claim) trail)
      (.call (LocalExecution.Awaiting.resume (.claim run claim) environment
        reply) laterTrail) := by
  cases claim with
  | start runId startedAt status =>
      obtain ⟨rfl, rfl⟩ := ready
      cases issued
      have alike :
          ServedAlike (.update run.runId
            (.claimRun startedAt none environment.uuid)) := by
        rintro call member
        rw [List.mem_singleton.mp member]
        exact ⟨given_none, fun _ => rfl⟩
      simp only [LocalExecution.Awaiting.resume, ClaimRun.resume]
      cases answered : reply.found? with
      | none =>
          exact .idle rfl alike (by simp) trivial rfl
      | some written =>
          exact {
            issued := rfl
            alike := alike.answeredAlike _
            failing := by simp
            ready := trivial
            held := .claimed rfl answered rfl
          }
  | missed runId =>
      cases issued
      exact .idle rfl (servedAlike_nil rfl) (by simp) trivial rfl
  | done outcome =>
      cases issued

/-- A step of `_runClaimedLocally`. -/
theorem execution_executes
    {call : Execution.Local}
    (ready : ExecutionReady (.call (.execution call) trail))
    (built : JavaScript.built (.obj environment.fields) = true)
    (holds :
      ∀ run ∈ held (.call (.execution call) trail), Holds shared run)
    (issued : Execution.issue call environment = some statement) :
    ExecutionStep shared.database.committed statement reply
      (.call (.execution call) trail)
      (.call (.execution (Execution.resume call environment reply))
        laterTrail) := by
  have given : Given (some (.obj environment.fields)) := by
    rintro json ⟨⟩
    exact ⟨⟨_, rfl⟩, built⟩
  cases call with
  | start runId dispatchId =>
      exact ready.elim
  | preparing run stage =>
      cases issued
      simp only [Execution.resume]
      cases stage.next? with
      | none =>
          exact .onward given rfl
      | some next =>
          exact .onward trivial rfl
  | executed run result =>
      cases issued
      have fence := (holds run rfl).fenceHolds
      have alike :
          AnsweredAlike shared.database.committed
            (.update run.runId (.markSucceeded environment.now (some result)
              none run.dispatchId)) := by
        rintro call member
        rw [List.mem_singleton.mp member]
        exact ⟨⟨ready, given_none⟩, fence⟩
      simp only [Execution.resume]
      cases reply.found? with
      | none =>
          exact ⟨rfl, alike, by simp, trivial, .released rfl⟩
      | some written =>
          exact ⟨rfl, alike, by simp, trivial, .kept rfl (by simp)⟩
  | succeeded run =>
      cases issued
      exact .idle rfl (servedAlike_nil rfl) (by simp) trivial rfl
  | failing run error =>
      cases issued
      have fence := (holds run rfl).fenceHolds
      refine ⟨rfl, ?_, ?_, trivial, .released rfl⟩
      · rintro call member
        rw [List.mem_singleton.mp member]
        exact ⟨⟨ready, given_none⟩, fence⟩
      · rintro runId endedAt failure status dispatchId ⟨⟩
        exact ⟨run, rfl, rfl⟩
  | failed run =>
      cases issued
      exact .idle rfl (servedAlike_nil rfl) (by simp) trivial rfl
  | settled runId dispatchId outcome =>
      cases issued

/-- The awaited step of an execution. -/
theorem execution_proceeds
    {awaiting : LocalExecution.Awaiting}
    (ready : ExecutionReady (.call awaiting trail))
    (built : JavaScript.built (.obj environment.fields) = true)
    (holds : ∀ run ∈ held (.call awaiting trail), Holds shared run)
    (issued : awaiting.issue environment = some statement) :
    ExecutionStep shared.database.committed statement reply
      (.call awaiting trail)
      (.call (awaiting.resume environment reply) laterTrail) := by
  cases awaiting with
  | received | missingAudit | skipAudit =>
      cases issued
      exact .idle rfl (servedAlike_nil rfl) (by simp) trivial rfl
  | attemptAudit =>
      cases issued
      exact .idle rfl (servedAlike_nil rfl) (by simp) ⟨rfl, rfl⟩ rfl
  | load runId =>
      cases issued
      simp only [LocalExecution.Awaiting.resume]
      cases reply.found? with
      | none =>
          exact .idle rfl (servedAlike_getRun runId) (by simp) trivial rfl
      | some run =>
          simp only [LocalExecution.Awaiting.onRun]
          split
          · exact .idle rfl (servedAlike_getRun runId) (by simp) trivial rfl
          · exact .idle rfl (servedAlike_getRun runId) (by simp) trivial rfl
  | claim run claim =>
      exact execution_claims ready issued
  | latest runId =>
      cases issued
      exact .idle rfl (servedAlike_getRun runId) (by simp) trivial rfl
  | claimAudit run | startAudit run =>
      cases issued
      exact .onward trivial rfl
  | execution call =>
      exact execution_executes ready built holds issued

/-- The awaited step of an execution throws. -/
theorem execution_raises
    {awaiting : LocalExecution.Awaiting}
    (ready : ExecutionReady (.call awaiting trail))
    (built : JavaScript.built (.obj environment.fields) = true)
    (noAudit : awaiting.audit? = none)
    (issued : (awaiting.issue environment).isSome = true) :
    ExecutionStep shared.database.committed .skip reply
      (.call awaiting trail)
      (.call (awaiting.raise environment) laterTrail) := by
  have given : Given (some (.obj environment.fields)) := by
    rintro json ⟨⟩
    exact ⟨⟨_, rfl⟩, built⟩
  have ends
      {after : LocalExecution.Local}
      (afterReady : ExecutionReady after)
      (nothing : held after = none) :
      ExecutionStep shared.database.committed .skip reply
        (.call awaiting trail) after :=
    .idle rfl (servedAlike_nil rfl) (by simp) afterReady nothing
  cases awaiting with
  | load | latest =>
      exact ends trivial rfl
  | claim run claim =>
      cases claim with
      | start | missed =>
          exact ends trivial rfl
      | done =>
          cases issued
  | execution call =>
      cases call with
      | start =>
          exact ready.elim
      | preparing run stage | executed run stage =>
          exact .onward given rfl
      | failing =>
          exact ends trivial rfl
      | settled =>
          cases issued
      | succeeded | failed =>
          cases noAudit
  | _ =>
      cases noAudit

/-- The next statement of an execution, and what it makes of the execution. -/
theorem execution_step
    {call : LocalExecution.Local}
    {input : LocalExecution.Input}
    (ready : ExecutionReady call)
    (served : servedLocally (.inr input) = true)
    (holds : ∀ run ∈ held call, Holds shared run)
    (issued : LocalExecution.issue call input = some statement) :
    ExecutionStep shared.database.committed statement reply call
      (LocalExecution.resume call input reply) := by
  cases input with
  | start request =>
      cases call with
      | call =>
          cases issued
      | idle =>
          cases issued
          cases request with
          | executeClaimedRun =>
              cases served
          | executeRunLocally runId atLimit =>
              simp only [LocalExecution.resume,
                LocalExecution.Request.awaiting]
              split
              · exact .idle rfl (servedAlike_nil rfl)
                  (by simp [LocalExecution.Request.admission]) trivial rfl
              · exact .idle rfl (servedAlike_nil rfl)
                  (by simp [LocalExecution.Request.admission]) trivial rfl
  | proceed environment =>
      cases call with
      | idle =>
          cases issued
      | call awaiting trail =>
          exact execution_proceeds ready served holds issued
  | raise environment =>
      cases call with
      | idle =>
          cases issued
      | call awaiting trail =>
          simp only [LocalExecution.issue] at issued
          split at issued
          · cases issued
          · rename_i noAudit
            obtain ⟨awaited, made, rfl⟩ := Option.map_eq_some_iff.mp issued
            exact execution_raises ready served noAudit
              (by rw [made]; rfl)

end ExecutionSteps

end LocalServices

end IgaScheduler

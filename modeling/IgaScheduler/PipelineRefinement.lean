import IgaScheduler.ExecutionPipeline

namespace IgaScheduler

/-!
# Executions with data are executions

The state machine of an execution lets its environment choose what the steps
compute and which of them throws.  Every execution with its data is a course of
that machine: the same statements, the same audit events and the same end.
-/

open Tracing (Traced)
open Tracing.Traced (Course Fits Follows)

namespace Execution

open WorkerRunService (Effect)

section Machine

-- The row that is loaded, and the row that the outcome is written to.
variable (fetched row : Option JobRun)

/-- What `job_runs` answers. -/
def answer : RunStatement → RunReply
  | .getRun runId => .document (fetched.map (rowToDocument runId))
  | .update runId write =>
      .document ((row.filter write.update.guard).map fun row =>
        rowToDocument runId (write.update.set row))
  | _ => .done

/-- The effects of a step that issues the statement. -/
def Shows
    (call : Local)
    (statement : RunStatement)
    (effects : List Effect) :
    Prop :=
  match audit? call, statement with
  | some kind, _ =>
      ∃ event : WorkerRunService.WorkerAuditEvent,
        event.event = kind ∧ effects = [.audited event]
  | none, .update _ write => effects = [.wrote write]
  | none, _ =>
      ∃ accesses : List SecretAccess, effects = accesses.map .accessed

/-- A step of the machine; the write of an audit event never throws. -/
inductive Advances : Local → List Effect → Local → Prop where
  | proceeds
      {call : Local}
      {statement : RunStatement}
      {effects : List Effect}
      (environment : Environment)
      (issued : issue call environment = some statement)
      (shown : Shows call statement effects) :
      Advances call effects
        (resume call environment (answer fetched row statement))
  | raises
      {call : Local}
      (environment : Environment)
      (issued : (issue call environment).isSome = true)
      (unaudited : audit? call = none)
      (accesses : List SecretAccess) :
      Advances call (accesses.map .accessed) (raise call environment)

end Machine

/-- How the machine settles for an outcome. -/
def settledAs : Except WorkerRunService.WorkerFailure Outcome → Outcome
  | .ok outcome => outcome
  | .error _ => .threw

end Execution

namespace WorkerRunService

open Execution (Advances Local Stage settledAs)

/-! ## What the environment supplies -/

/-- The fields of a value that is written as an object. -/
def objectFields : Option Json → List (String × Json)
  | some (.obj fields) => fields
  | _ => []

/-- What the `catch` block writes for an error. -/
def errorFields (error : WorkerFailure) : List (String × Json) :=
  objectFields
    (serializeError error (RetryClassifier.classifyWorkerError error.fields))

def supplying
    (now : Timestamp)
    (fields : List (String × Json)) :
    Environment where
  now
  databaseNow := now
  uuid := unusedUuid
  secondUuid := unusedUuid
  fields

theorem object_of_serializeError
    {error : WorkerFailure}
    {classification : RetryClassifier.Classification}
    {value : Json}
    (built : serializeError error classification = some value) :
    ∃ fields, value = .obj fields := by
  unfold serializeError at built
  cases carried : error.execution with
  | none =>
      rw [carried] at built
      cases built
      exact ⟨_, rfl⟩
  | some result =>
      rw [carried] at built
      obtain ⟨execution, -, finished⟩ := Option.bind_eq_some_iff.mp built
      cases finished
      exact ⟨_, rfl⟩

theorem object_of_normalizeExecutionResult
    {result : ExitClassification.Execution}
    {value : Json}
    (built : normalizeExecutionResult result = some value) :
    ∃ fields, value = .obj fields := by
  unfold normalizeExecutionResult at built
  obtain ⟨stdout, -, rest⟩ := Option.bind_eq_some_iff.mp built
  obtain ⟨stderr, -, finished⟩ := Option.bind_eq_some_iff.mp rest
  cases finished
  exact ⟨_, rfl⟩

/-- The column takes the object that was built for it. -/
theorem object_of_jsonb
    {column : Option Json}
    {value : Json}
    (objects : ∀ {json}, column = some json → ∃ fields, json = .obj fields)
    (stored : jsonb column = some value) :
    value = .obj (objectFields column) := by
  obtain ⟨built, -⟩ := Option.filter_eq_some_iff.mp stored
  obtain ⟨fields, rfl⟩ := objects built
  rw [built]
  rfl

/-! ## The steps -/

section Following

variable {β : Type}
variable {worker : Worker β}
variable {run : RunDocument}
variable {fetched row : Option JobRun}
variable {startedAt : Timestamp}

/-- An error of the `try` block has been caught. -/
def Caught (run : RunDocument) (error : WorkerFailure) (call : Local) : Prop :=
  call = .failing run (.obj (errorFields error))

/-- A step before the job, which may call the secret manager. -/
theorem follows_stage
    {α : Type}
    {stage next : Stage}
    (comesNext : stage.next? = some next)
    (unaudited : Execution.audit? (.preparing run stage) = none)
    (accesses : List SecretAccess)
    (outcome : Except WorkerFailure α) :
    Follows (Advances fetched row) (.preparing run stage)
      ⟨accesses.map .accessed, outcome⟩
      (fun _ call => call = .preparing run next) (Caught run) := by
  cases outcome with
  | ok value =>
      refine .one (.proceeds (supplying 0 []) rfl ?_) ?_
      · unfold Execution.Shows
        rw [unaudited]
        exact ⟨accesses, rfl⟩
      · change Execution.resume _ _ _ = _
        rw [Execution.resume, comesNext]
  | error error =>
      exact .one (.raises (supplying 0 (errorFields error)) rfl unaudited _)
        rfl

/-- The write of an audit event. -/
theorem follows_audit
    {call after : Local}
    {event : WorkerAuditEvent}
    {throws : WorkerFailure → Local → Prop}
    (issued : Execution.issue call (supplying 0 []) = some .skip)
    (audited : Execution.audit? call = some event.event)
    (resumed : Execution.resume call (supplying 0 []) .done = after) :
    Follows (Advances fetched row) call (audit event)
      (fun _ call => call = after) throws := by
  refine .one (.proceeds (supplying 0 []) issued ?_) resumed
  unfold Execution.Shows
  rw [audited]
  exact ⟨event, rfl, rfl⟩

theorem follows_prepare :
    Follows (Advances fetched row) (.preparing run .metadata)
      (prepare worker run startedAt)
      (fun _ call => call = .preparing run .parameters) (Caught run) := by
  refine (follows_stage rfl rfl [] _).bind ?_
  rintro execution _ rfl
  refine (follows_audit rfl rfl rfl).bind ?_
  rintro _ _ rfl
  refine (follows_stage rfl rfl [] _).bind ?_
  rintro verification _ rfl
  refine (follows_audit rfl rfl rfl).bind ?_
  rintro _ _ rfl
  refine (follows_audit rfl rfl rfl).bind ?_
  rintro _ _ rfl
  exact .wait rfl

/-- The process is started, and the execution is still at its last stage. -/
theorem follows_launch
    {α : Type}
    (outcome : Except WorkerFailure α) :
    Follows (Advances fetched row) (.preparing run .execute)
      (Traced.ofExcept outcome)
      (fun _ call => call = .preparing run .execute) (Caught run) := by
  cases outcome with
  | ok value =>
      exact .wait rfl
  | error error =>
      exact .one (.raises (supplying 0 (errorFields error)) rfl rfl []) rfl

theorem follows_runJob (prepared : Prepared β) :
    Follows (Advances fetched row) (.preparing run .parameters)
      (runJob worker run prepared)
      (fun result call =>
        call =
          .executed run
            (.obj (objectFields (normalizeExecutionResult result))))
      (Caught run) := by
  refine (follows_stage rfl rfl _ _).bind ?_
  rintro params _ rfl
  refine (follows_launch (launch worker run prepared.execution
    prepared.verification params)).bind ?_
  rintro spawn _ rfl
  cases settle worker run prepared.execution (worker.process spawn) with
  | ok result =>
      exact .one (.proceeds (supplying 0 (objectFields
        (normalizeExecutionResult result))) rfl ⟨[], rfl⟩) rfl
  | error error =>
      exact .one (.raises (supplying 0 (errorFields error)) rfl rfl []) rfl

variable (run) in
/-- The statement that writes an outcome, if the column takes the value. -/
theorem follows_update
    {call : Local}
    {column : Option Json}
    {write : Json → RunWrite}
    {returns : Bool → Local → Prop}
    {throws : WorkerFailure → Local → Prop}
    (unaudited : Execution.audit? call = none)
    (taken :
      ∀ value, jsonb column = some value →
        ∃ environment,
          Execution.issue call environment =
              some (.update run.runId (write value)) ∧
            returns (row.any (write value).update.guard)
              (Execution.resume call environment
                (Execution.answer fetched row
                  (.update run.runId (write value)))))
    (thrown :
      ∃ environment,
        (Execution.issue call environment).isSome = true ∧
          throws worker.refusal (Execution.raise call environment)) :
    Follows (Advances fetched row) call (update worker row column write)
      returns throws := by
  unfold update
  cases stored : jsonb column with
  | none =>
      obtain ⟨environment, issued, raised⟩ := thrown
      exact .one (.raises environment issued unaudited []) raised
  | some value =>
      obtain ⟨environment, issued, resumed⟩ := taken value stored
      refine .one (.proceeds environment issued ?_) resumed
      unfold Execution.Shows
      rw [unaudited]
      rfl

/-- How an execution goes on behind the write of its success. -/
theorem resume_executed
    (run : RunDocument)
    (result : Json)
    (environment : Environment)
    (runId : String)
    (write : RunWrite) :
    Execution.resume (.executed run result) environment
        (Execution.answer fetched row (.update runId write)) =
      if row.any write.update.guard then .succeeded run
      else Execution.settle run (.skipped "CANCELLED") := by
  cases row with
  | none =>
      rfl
  | some row =>
      cases admitted : write.update.guard row <;>
        simp [Execution.resume, Execution.answer, RunReply.found?,
          Option.filter, admitted]

theorem follows_reportSuccess
    (prepared : Prepared β)
    (result : ExitClassification.Execution) :
    Follows (Advances fetched row)
      (.executed run (.obj (objectFields (normalizeExecutionResult result))))
      (reportSuccess worker run row startedAt prepared result)
      (fun outcome call => call = Execution.settle run outcome)
      (Caught run) := by
  have written :
      Follows (Advances fetched row)
        (.executed run
          (.obj (objectFields (normalizeExecutionResult result))))
        (markSucceeded worker run row (normalizeExecutionResult result))
        (fun updated call =>
          call = if updated then .succeeded run
            else Execution.settle run (.skipped "CANCELLED"))
        (Caught run) := by
    refine follows_update run rfl ?_
      ⟨supplying 0 (errorFields worker.refusal), rfl, rfl⟩
    intro value stored
    obtain rfl := object_of_jsonb object_of_normalizeExecutionResult stored
    exact ⟨supplying worker.endedAt [], rfl, resume_executed _ _ _ _ _⟩
  refine written.bind ?_
  rintro updated _ rfl
  cases updated with
  | false =>
      exact .wait rfl
  | true =>
      refine (follows_audit rfl rfl rfl).bind ?_
      rintro _ _ rfl
      exact .wait rfl

theorem follows_recover (error : WorkerFailure) :
    Follows (Advances fetched row)
      (.failing run (.obj (errorFields error)))
      (recover worker run row startedAt error)
      (fun outcome call => call = Execution.settle run outcome)
      (fun _ call => call = Execution.settle run .threw) := by
  have written :
      Follows (Advances fetched row)
        (.failing run (.obj (errorFields error)))
        (markFailed worker run row error
          (RetryClassifier.classifyWorkerError error.fields))
        (fun _ call => call = .failed run)
        (fun _ call => call = Execution.settle run .threw) := by
    refine follows_update run rfl ?_ ⟨supplying 0 [], rfl, rfl⟩
    intro value stored
    obtain rfl := object_of_jsonb object_of_serializeError stored
    exact ⟨supplying worker.failedAt [], rfl, rfl⟩
  refine written.bind ?_
  rintro _ _ rfl
  refine (follows_audit rfl rfl rfl).bind ?_
  rintro _ _ rfl
  exact .wait rfl

theorem follows_runClaimedLocally
    (worker : Worker β)
    (run : RunDocument)
    (fetched row : Option JobRun)
    (startedAt : Timestamp) :
    Follows (Advances fetched row) (.preparing run .metadata)
      (runClaimedLocally worker run row startedAt)
      (fun outcome call => call = Execution.settle run outcome)
      (fun _ call => call = Execution.settle run .threw) := by
  have tried :
      Follows (Advances fetched row) (.preparing run .metadata)
        (attempt worker run row startedAt)
        (fun outcome call => call = Execution.settle run outcome)
        (Caught run) := by
    refine follows_prepare.bind ?_
    rintro prepared _ rfl
    refine (follows_runJob prepared).bind ?_
    rintro result _ rfl
    exact follows_reportSuccess prepared result
  refine tried.orCatch ?_
  rintro error _ rfl
  exact follows_recover error

end Following

/--
An execution with its data takes the machine from the call to its end: the
statements it issues, the audit events it writes and what it settles with are
those of one of the courses of the machine.
-/
theorem execution_refines_machine
    {β : Type}
    (worker : Worker β)
    (row : Option JobRun)
    (runId dispatchId : String)
    (fetched : Option JobRun)
    (startedAt : Timestamp) :
    let execution :=
      executeClaimedRun worker row runId dispatchId fetched startedAt
    Course (Advances fetched row) (.start runId dispatchId)
      execution.effects
      (.settled runId (some dispatchId) (settledAs execution.outcome)) := by
  have unshown :
      Execution.Shows (.start runId dispatchId) (.getRun runId) [] :=
    ⟨[], rfl⟩
  cases fetched with
  | none =>
      exact .one (.proceeds (supplying 0 []) rfl unshown)
  | some fetched =>
      have loaded :
          Advances (some fetched) row (.start runId dispatchId) []
            (.preparing
              { rowToDocument runId fetched with dispatchId := some dispatchId }
              .metadata) :=
        .proceeds (supplying 0 []) rfl unshown
      intro execution
      obtain ⟨final, course, fits⟩ :=
        follows_runClaimedLocally worker
          { rowToDocument runId fetched with dispatchId := some dispatchId }
          (some fetched) row startedAt
      have settled :
          final =
            .settled runId (some dispatchId) (settledAs execution.outcome) := by
        change Fits _ _ execution.outcome final at fits
        cases ended : execution.outcome with
        | ok outcome =>
            rw [ended] at fits
            exact fits
        | error error =>
            rw [ended] at fits
            exact fits
      exact settled ▸ .next loaded course

end WorkerRunService

end IgaScheduler

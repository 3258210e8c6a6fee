import IgaScheduler.LocalExecution
import IgaScheduler.ExecutionSettlement

namespace IgaScheduler

open Relational Interleaving

/-!
# The audit trail against the transitions

An execution writes `worker.execution.succeeded` only after its `markSucceeded`
has changed the row, but `worker.execution.failed` whatever its `markFailed` has
done, and also when it has found no run at all.
-/

/-- The run and the state an execution is about to write as its outcome. -/
def Execution.outcome? : Execution.Local → Option (String × RunState)
  | .executed run _ => some (run.runId, .succeeded)
  | .failing run _ => some (run.runId, .failed)
  | _ => none

/-- An outcome write answers a row exactly when it has changed its state. -/
theorem RunDatabase.exec_update_outcome
    {process : Nat}
    {shared next : RunDatabase}
    {reply : RunReply}
    {runId : String}
    {write : RunWrite}
    {state : RunState}
    (executed :
      shared.exec process (.update runId write) = some (next, reply))
    (sources : write.sources = [.running])
    (target : write.target .running = state)
    (different : RunState.running ≠ state) :
    reply.found? ≠ none ↔
      ∃ before after,
        shared.row runId = some before ∧
          next.row runId = some after ∧
          before.state ≠ state ∧
          after.state = state := by
  obtain ⟨answer, written⟩ := exec_update executed
  rw [answer]
  constructor
  · intro given
    obtain ⟨document, found⟩ := Option.ne_none_iff_exists'.mp given
    obtain ⟨returned, hit, -⟩ := Option.map_eq_some_iff.mp found
    obtain ⟨before, stored, returning⟩ := Option.bind_eq_some_iff.mp hit
    obtain ⟨admitted, -⟩ := RowUpdate.returning_eq_some.mp returning
    have running : before.state = .running := by
      simpa [sources] using RunWrite.state_mem_sources admitted
    rw [stored, Option.map_some, RowUpdate.apply_of_guard admitted]
      at written
    refine ⟨before, _, stored, written, ?_, ?_⟩
    · rw [running]
      exact different
    · rw [RunWrite.set_state, running]
      exact target
  · rintro ⟨before, after, stored, writtenRow, notYet, reached⟩ missed
    have missedRow :
        (shared.row runId).bind write.update.returning = none :=
      Option.map_eq_none_iff.mp missed
    have same := (exec_update_missed executed missedRow).2 runId
    rw [same, stored] at writtenRow
    cases writtenRow
    exact notYet reached

/-- An update answers no row exactly when no row passes its guard. -/
theorem RunDatabase.exec_update_found?_eq_none
    {process : Nat}
    {shared next : RunDatabase}
    {reply : RunReply}
    {runId : String}
    {write : RunWrite}
    (executed :
      shared.exec process (.update runId write) = some (next, reply)) :
    reply.found? = none ↔
      ∀ row ∈ shared.row runId, write.update.guard row = false := by
  obtain ⟨answer, -⟩ := exec_update executed
  rw [answer]
  change Option.map _ _ = none ↔ _
  rw [Option.map_eq_none_iff, Option.bind_eq_none_iff]
  constructor
  · intro missed row stored
    cases admitted : write.update.guard row with
    | false =>
        rfl
    | true =>
        have returning := missed row stored
        rw [RowUpdate.returning_eq_some.mpr ⟨admitted, rfl⟩] at returning
        cases returning
  · intro refused row stored
    rw [RowUpdate.returning, refused row stored]
    rfl

namespace WorkerPool

/-- In this step the execution's own outcome write changes the row. -/
def WritesOutcome
    (process : Nat)
    (state : RunState)
    (label : WorkerStep)
    (pool next : WorkerPool) :
    Prop :=
  ∃ environment call trail runId before after,
    label = (process, .inr (.proceed environment)) ∧
      pool.second.locals process = .call (.execution call) trail ∧
      Execution.outcome? call = some (runId, state) ∧
      pool.shared.row runId = some before ∧
      next.shared.row runId = some after ∧
      before.state ≠ state ∧
      after.state = state

/--
In this step the execution does not find its run: `executeRunLocally` loads a
run that is not stored, or the `catch` block's `markFailed` meets no row that
is `RUNNING` under the execution's `dispatchId`.
-/
def MissesRun
    (process : Nat)
    (label : WorkerStep)
    (pool _next : WorkerPool) :
    Prop :=
  ∃ environment,
    label = (process, .inr (.proceed environment)) ∧
      ((∃ runId trail,
        pool.second.locals process = .call (.load runId) trail ∧
          pool.shared.row runId = none) ∨
        ∃ run error trail,
          pool.second.locals process =
              .call (.execution (.failing run error)) trail ∧
            ∀ row ∈ pool.shared.row run.runId,
              ¬ (row.state = .running ∧
                RunStore.fencing run.dispatchId row = true))

/-- Neither outcome event has been written. -/
def NoOutcome (trail : List AuditEvent) : Prop :=
  .executionSucceeded ∉ trail ∧ .executionFailed ∉ trail

/--
How far a call has come with its events, its own outcome writes and the steps
that missed the run.
-/
def Accounted
    (call : LocalExecution.Local)
    (succeeded failed missed : Prop) :
    Prop :=
  match call with
  | .idle => ¬ succeeded ∧ ¬ failed ∧ ¬ missed
  | .call awaiting trail =>
      match awaiting with
      | .missingAudit _ =>
          NoOutcome trail ∧ ¬ succeeded ∧ ¬ failed ∧ missed
      | .execution (.succeeded _) =>
          NoOutcome trail ∧ succeeded ∧ ¬ failed ∧ ¬ missed
      | .execution (.failed _) =>
          NoOutcome trail ∧ ¬ succeeded ∧ (failed ↔ ¬ missed)
      | .execution (.settled ..) =>
          (.executionSucceeded ∈ trail ↔ succeeded) ∧
            (.executionFailed ∈ trail ↔ failed ∨ missed) ∧
            ¬ (failed ∧ missed)
      | _ => NoOutcome trail ∧ ¬ succeeded ∧ ¬ failed ∧ ¬ missed

section Steps

variable {process : Nat}
variable {state : RunState}
variable {label : WorkerStep}
variable {pool next : WorkerPool}
variable {awaiting : LocalExecution.Awaiting}
variable {trail : List AuditEvent}
variable {environment : Environment}

/-- The rest of the world writes no outcome of this execution. -/
theorem not_writesOutcome_of_other
    (other :
      ∀ environment, label ≠ (process, .inr (.proceed environment))) :
    ¬ WritesOutcome process state label pool next := by
  rintro ⟨environment, _, _, _, _, _, own, -⟩
  exact other environment own

theorem not_missesRun_of_other
    (other :
      ∀ environment, label ≠ (process, .inr (.proceed environment))) :
    ¬ MissesRun process label pool next := by
  rintro ⟨environment, own, -⟩
  exact other environment own

/-- A call that awaits something else writes no outcome. -/
theorem not_writesOutcome_of_awaiting
    (calling : pool.second.locals process = .call awaiting trail)
    (elsewhere :
      ∀ call runId,
        awaiting = .execution call →
        Execution.outcome? call ≠ some (runId, state)) :
    ¬ WritesOutcome process state label pool next := by
  rintro ⟨_, call, _, runId, _, _, -, writing, outcome, -⟩
  rw [calling] at writing
  cases writing
  exact elsewhere call runId rfl outcome

theorem not_missesRun_of_awaiting
    (calling : pool.second.locals process = .call awaiting trail)
    (found :
      ∀ runId,
        awaiting = .load runId → pool.shared.row runId ≠ none)
    (elsewhere :
      ∀ run error, awaiting ≠ .execution (.failing run error)) :
    ¬ MissesRun process label pool next := by
  rintro ⟨_, -, ⟨runId, _, loading, absent⟩ |
    ⟨run, error, _, failing, -⟩⟩
  · rw [calling] at loading
    cases loading
    exact found runId rfl absent
  · rw [calling] at failing
    cases failing
    exact elsewhere run error rfl

theorem NoOutcome.append
    (quiet : NoOutcome trail)
    {event : Option AuditEvent}
    (notSucceeded : event ≠ some .executionSucceeded)
    (notFailed : event ≠ some .executionFailed) :
    NoOutcome (trail ++ event.toList) := by
  constructor
  · intro member
    rcases List.mem_append.mp member with old | new
    · exact quiet.1 old
    · exact notSucceeded (Option.mem_toList.mp new)
  · intro member
    rcases List.mem_append.mp member with old | new
    · exact quiet.2 old
    · exact notFailed (Option.mem_toList.mp new)

/-- Before its outcome, a call has come to this and nothing else. -/
def Working
    (trail : List AuditEvent)
    (succeeded failed missed : Prop) :
    Prop :=
  NoOutcome trail ∧ ¬ succeeded ∧ ¬ failed ∧ ¬ missed

/-- A step that is neither an outcome nor a miss goes on with the work. -/
theorem Working.quiet
    {succeeded failed missed succeeds fails misses : Prop}
    (working : Working trail succeeded failed missed)
    (noSuccess : ¬ succeeds)
    (noFailure : ¬ fails)
    (noMiss : ¬ misses) :
    Working trail (succeeded ∨ succeeds) (failed ∨ fails)
      (missed ∨ misses) := by
  obtain ⟨quiet, notSucceeded, notFailed, notMissed⟩ := working
  exact ⟨quiet, not_or.mpr ⟨notSucceeded, noSuccess⟩,
    not_or.mpr ⟨notFailed, noFailure⟩, not_or.mpr ⟨notMissed, noMiss⟩⟩

/-- A call that settles without an outcome. -/
theorem accounted_settled
    {succeeded failed missed : Prop}
    {runId : String}
    {dispatchId : Option String}
    {outcome : Execution.Outcome}
    (working : Working trail succeeded failed missed) :
    Accounted
      (.call (.execution (.settled runId dispatchId outcome)) trail)
      succeeded failed missed := by
  obtain ⟨⟨noSuccess, noFailure⟩, notSucceeded, notFailed, notMissed⟩ :=
    working
  refine ⟨⟨fun member => (noSuccess member).elim,
    fun impossible => (notSucceeded impossible).elim⟩, ⟨?_, ?_⟩, ?_⟩
  · intro member
    exact (noFailure member).elim
  · rintro (impossible | impossible)
    · exact (notFailed impossible).elim
    · exact (notMissed impossible).elim
  · rintro ⟨impossible, -⟩
    exact notFailed impossible

/-- A step of an audited execution, read off its two pools. -/
theorem execution_step
    {input : LocalExecution.Input}
    (stepped :
      workerSystem.step? pool (process, .inr input) = some next) :
    ∃ statement reply,
      LocalExecution.issue (pool.second.locals process) input =
          some statement ∧
        pool.shared.exec process statement =
          some (next.shared, reply) ∧
        next.second.locals process =
          LocalExecution.resume (pool.second.locals process) input
            reply := by
  rcases System.step?_beside stepped with
    ⟨_, impossible, -, -⟩ | ⟨own, same, moved, -⟩
  · cases impossible
  · cases same
    exact System.step?_moves moved

/-- Nobody else's step moves the execution. -/
theorem execution_rests
    (stepped : workerSystem.step? pool label = some next)
    (other : ∀ input, label ≠ (process, .inr input)) :
    next.second.locals process = pool.second.locals process := by
  rcases System.step?_beside stepped with
    ⟨_, -, -, rests⟩ | ⟨input, shape, moved, -⟩
  · rw [rests]
  · refine System.step?_locals_other moved ?_
    rintro rfl
    exact other input (Prod.ext rfl shape)

/-- An execution's outcome write is one exactly when it answers a row. -/
theorem writesOutcome_iff
    {call : Execution.Local}
    {runId : String}
    {write : RunWrite}
    {reply : RunReply}
    (calling :
      pool.second.locals process = .call (.execution call) trail)
    (outcome : Execution.outcome? call = some (runId, state))
    (executed :
      pool.shared.exec process (.update runId write) =
        some (next.shared, reply))
    (sources : write.sources = [.running])
    (target : write.target .running = state)
    (different : RunState.running ≠ state) :
    WritesOutcome process state (process, .inr (.proceed environment))
        pool next ↔
      reply.found? ≠ none := by
  rw [RunDatabase.exec_update_outcome executed sources target different]
  constructor
  · rintro ⟨_, _, _, owner, before, after, -, writing, own, changed⟩
    rw [calling] at writing
    cases writing
    cases own.symm.trans outcome
    exact ⟨before, after, changed⟩
  · rintro ⟨before, after, changed⟩
    exact ⟨environment, call, trail, runId, before, after, rfl, calling,
      outcome, changed⟩

/-- Sending `markFailed` misses the run exactly when it answers no row. -/
theorem missesRun_failing_iff
    {run : RunDocument}
    {error : Json}
    {reply : RunReply}
    (calling :
      pool.second.locals process =
        .call (.execution (.failing run error)) trail)
    (executed :
      pool.shared.exec process
          (.update run.runId
            (.markFailed environment.now (some error) none
              run.dispatchId)) =
        some (next.shared, reply)) :
    MissesRun process (process, .inr (.proceed environment)) pool next ↔
      reply.found? = none := by
  have guard (row : JobRun) :
      (RunWrite.markFailed environment.now (some error) none
          run.dispatchId).update.guard row = false ↔
        ¬ (row.state = .running ∧
          RunStore.fencing run.dispatchId row = true) := by
    rw [← Bool.not_eq_true]
    exact not_congr
      (Bool.and_eq_true_iff.trans (and_congr_left' decide_eq_true_iff))
  rw [RunDatabase.exec_update_found?_eq_none executed]
  constructor
  · rintro ⟨_, -, ⟨_, _, loading, -⟩ | ⟨_, _, _, failing, missed⟩⟩ row
      stored
    · rw [calling] at loading
      cases loading
    · rw [calling] at failing
      cases failing
      exact (guard row).mpr (missed row stored)
  · intro refused
    exact ⟨environment, rfl, .inr ⟨run, error, trail, calling,
      fun row stored => (guard row).mp (refused row stored)⟩⟩

/-- An execution that is not at its outcome write goes on with its audit. -/
theorem accounted_audit
    {succeeded failed missed : Prop}
    {call : Execution.Local}
    {statement : RunStatement}
    (accounted :
      Accounted (.call (.execution call) trail) succeeded failed missed)
    (quiet : Execution.outcome? call = none)
    (issued : Execution.issue call environment = some statement)
    (reply : RunReply) :
    Accounted
      (.call (.execution (Execution.resume call environment reply))
        (trail ++ (Execution.audit? call).toList))
      succeeded failed missed := by
  cases call with
  | start runId dispatchId =>
      have working : Working trail succeeded failed missed := accounted
      simp only [Execution.resume, Execution.audit?, Option.toList_none,
        List.append_nil]
      cases reply.found? with
      | none =>
          exact accounted_settled working
      | some fetched =>
          exact working
  | preparing run stage =>
      have working : Working trail succeeded failed missed := accounted
      have appended :
          NoOutcome
            (trail ++
              (Execution.audit? (.preparing run stage)).toList) := by
        refine working.1.append ?_ ?_
        · cases stage <;> simp [Execution.audit?]
        · cases stage <;> simp [Execution.audit?]
      simp only [Execution.resume]
      cases stage.next? with
      | none =>
          exact ⟨appended, working.2⟩
      | some next =>
          exact ⟨appended, working.2⟩
  | executed run result | failing run error =>
      cases quiet
  | succeeded run =>
      obtain ⟨⟨noSuccess, noFailure⟩, success, notFailed, notMissed⟩ :=
        accounted
      refine ⟨⟨fun _ => success, fun _ => by simp [Execution.audit?]⟩,
        ⟨?_, ?_⟩, ?_⟩
      · intro member
        simp [Execution.audit?, noFailure] at member
      · rintro (impossible | impossible)
        · exact (notFailed impossible).elim
        · exact (notMissed impossible).elim
      · rintro ⟨impossible, -⟩
        exact notFailed impossible
  | failed run =>
      obtain ⟨⟨noSuccess, noFailure⟩, notSucceeded, either⟩ := accounted
      refine ⟨⟨?_, fun impossible => (notSucceeded impossible).elim⟩,
        ⟨fun _ => ?_, fun _ => by simp [Execution.audit?]⟩, ?_⟩
      · intro member
        simp [Execution.audit?, noSuccess] at member
      · rw [either]
        exact (Classical.em missed).symm
      · rintro ⟨failure, missing⟩
        exact either.mp failure missing
  | settled =>
      cases issued

section Outcomes

variable {succeeded failed missed : Prop}
variable {run : RunDocument}
variable {reply : RunReply}

/-- After `markSucceeded`, the execution has succeeded or has lost its run. -/
theorem accounted_executed
    {result : Json}
    (working : Working trail succeeded failed missed)
    (calling :
      pool.second.locals process =
        .call (.execution (.executed run result)) trail)
    (executed :
      pool.shared.exec process
          (.update run.runId
            (.markSucceeded environment.now (some result) none
              run.dispatchId)) =
        some (next.shared, reply))
    (noFailure :
      ¬ WritesOutcome process .failed
        (process, .inr (.proceed environment)) pool next)
    (noMiss :
      ¬ MissesRun process (process, .inr (.proceed environment)) pool
        next) :
    Accounted
      (.call
        (.execution
          (Execution.resume (.executed run result) environment reply))
        trail)
      (succeeded ∨
        WritesOutcome process .succeeded
          (process, .inr (.proceed environment)) pool next)
      (failed ∨
        WritesOutcome process .failed
          (process, .inr (.proceed environment)) pool next)
      (missed ∨
        MissesRun process (process, .inr (.proceed environment)) pool
          next) := by
  have outcome :
      WritesOutcome process .succeeded
          (process, .inr (.proceed environment)) pool next ↔
        reply.found? ≠ none :=
    writesOutcome_iff calling rfl executed rfl rfl (by simp)
  simp only [Execution.resume]
  cases answer : reply.found? with
  | none =>
      have noSuccess :
          ¬ WritesOutcome process .succeeded
            (process, .inr (.proceed environment)) pool next :=
        fun impossible => outcome.mp impossible answer
      exact accounted_settled (working.quiet noSuccess noFailure noMiss)
  | some written =>
      have success :
          WritesOutcome process .succeeded
            (process, .inr (.proceed environment)) pool next :=
        outcome.mpr (by simp [answer])
      obtain ⟨quiet, -, notFailed, notMissed⟩ := working
      exact ⟨quiet, .inr success, not_or.mpr ⟨notFailed, noFailure⟩,
        not_or.mpr ⟨notMissed, noMiss⟩⟩

/-- After `markFailed`, the execution has failed or has missed its run. -/
theorem accounted_failing
    {error : Json}
    (working : Working trail succeeded failed missed)
    (calling :
      pool.second.locals process =
        .call (.execution (.failing run error)) trail)
    (executed :
      pool.shared.exec process
          (.update run.runId
            (.markFailed environment.now (some error) none
              run.dispatchId)) =
        some (next.shared, reply))
    (noSuccess :
      ¬ WritesOutcome process .succeeded
        (process, .inr (.proceed environment)) pool next) :
    Accounted
      (.call
        (.execution
          (Execution.resume (.failing run error) environment reply))
        trail)
      (succeeded ∨
        WritesOutcome process .succeeded
          (process, .inr (.proceed environment)) pool next)
      (failed ∨
        WritesOutcome process .failed
          (process, .inr (.proceed environment)) pool next)
      (missed ∨
        MissesRun process (process, .inr (.proceed environment)) pool
          next) := by
  obtain ⟨quiet, notSucceeded, notFailed, notMissed⟩ := working
  have outcome :
      WritesOutcome process .failed
          (process, .inr (.proceed environment)) pool next ↔
        reply.found? ≠ none :=
    writesOutcome_iff calling rfl executed rfl rfl (by simp)
  have miss :
      MissesRun process (process, .inr (.proceed environment)) pool next ↔
        reply.found? = none :=
    missesRun_failing_iff calling executed
  simp only [Execution.resume]
  refine ⟨quiet, not_or.mpr ⟨notSucceeded, noSuccess⟩, ?_⟩
  rw [or_iff_right notFailed, or_iff_right notMissed, outcome, miss]

end Outcomes

/-- The steps of an execution keep its account. -/
theorem accounted_execution
    {succeeded failed missed : Prop}
    {call : Execution.Local}
    {statement : RunStatement}
    {reply : RunReply}
    (accounted :
      Accounted (.call (.execution call) trail) succeeded failed missed)
    (calling :
      pool.second.locals process = .call (.execution call) trail)
    (issued : Execution.issue call environment = some statement)
    (executed :
      pool.shared.exec process statement = some (next.shared, reply)) :
    Accounted
      (.call (.execution (Execution.resume call environment reply))
        (trail ++ (Execution.audit? call).toList))
      (succeeded ∨
        WritesOutcome process .succeeded
          (process, .inr (.proceed environment)) pool next)
      (failed ∨
        WritesOutcome process .failed
          (process, .inr (.proceed environment)) pool next)
      (missed ∨
        MissesRun process (process, .inr (.proceed environment)) pool
          next) := by
  have writesNothing
      (state : RunState)
      (elsewhere : ∀ runId, Execution.outcome? call ≠ some (runId, state)) :
      ¬ WritesOutcome process state
        (process, .inr (.proceed environment)) pool next :=
    not_writesOutcome_of_awaiting calling fun own runId same => by
      cases same
      exact elsewhere runId
  have missesNothing
      (elsewhere : ∀ run error, call ≠ .failing run error) :
      ¬ MissesRun process (process, .inr (.proceed environment)) pool
        next :=
    not_missesRun_of_awaiting calling
      (fun runId impossible => by cases impossible)
      fun run error same => by
        cases same
        exact elsewhere run error rfl
  cases outcome : Execution.outcome? call with
  | none =>
      have noSuccess :=
        writesNothing .succeeded fun runId same => by
          cases outcome.symm.trans same
      have noFailure :=
        writesNothing .failed fun runId same => by
          cases outcome.symm.trans same
      have noMiss := missesNothing fun run error same => by
        subst same
        cases outcome
      rw [or_iff_left noSuccess, or_iff_left noFailure, or_iff_left noMiss]
      exact accounted_audit accounted outcome issued reply
  | some written =>
      cases call with
      | executed run result =>
          cases issued
          simp only [Execution.audit?, Option.toList_none, List.append_nil]
          exact accounted_executed accounted calling executed
            (writesNothing .failed fun _ impossible => by cases impossible)
            (missesNothing fun _ _ impossible => by cases impossible)
      | failing run error =>
          cases issued
          simp only [Execution.audit?, Option.toList_none, List.append_nil]
          exact accounted_failing accounted calling executed
            (writesNothing .succeeded fun _ impossible => by
              cases impossible)
      | start | preparing | succeeded | failed | settled =>
          cases outcome

/-- Whatever `claimRun` answers, there is no outcome yet. -/
theorem accounted_onClaim
    {succeeded failed missed : Prop}
    {run : RunDocument}
    {call : ClaimRun.Local}
    (working : Working trail succeeded failed missed) :
    Accounted
      (.call (LocalExecution.Awaiting.onClaim run call) trail)
      succeeded failed missed := by
  unfold LocalExecution.Awaiting.onClaim
  split
  · exact working
  · exact working
  · exact accounted_settled working
  · exact working

/-- A started call has no account yet. -/
theorem accounted_start
    {succeeded failed missed : Prop}
    (nothing : ¬ succeeded ∧ ¬ failed ∧ ¬ missed)
    (request : LocalExecution.Request) :
    Accounted (.call request.awaiting []) succeeded failed missed := by
  have working : Working [] succeeded failed missed :=
    ⟨⟨List.not_mem_nil, List.not_mem_nil⟩, nothing⟩
  cases request with
  | executeClaimedRun runId dispatchId =>
      exact working
  | executeRunLocally runId atLimit =>
      simp only [LocalExecution.Request.awaiting]
      split
      · exact accounted_settled working
      · exact working

/-- A step that throws brings no outcome, and no failure event yet. -/
theorem accounted_raise
    {succeeded failed missed : Prop}
    (accounted :
      Accounted (.call awaiting trail) succeeded failed missed)
    (notAudit : awaiting.audit? = none)
    (waiting : awaiting.issue environment ≠ none) :
    Accounted (.call (awaiting.raise environment) trail) succeeded failed
      missed := by
  cases awaiting with
  | received | missingAudit | attemptAudit | skipAudit | claimAudit
    | startAudit =>
      cases notAudit
  | load | latest =>
      exact accounted_settled accounted
  | claim run call =>
      exact accounted_onClaim accounted
  | execution call =>
      cases call with
      | start runId dispatchId =>
          exact accounted_settled accounted
      | preparing run stage =>
          exact accounted
      | executed run result =>
          exact accounted
      | failing run error =>
          exact accounted_settled accounted
      | succeeded | failed =>
          cases notAudit
      | settled =>
          exact (waiting rfl).elim

/-- Loading misses the run exactly when no row is stored. -/
theorem accounted_load
    {succeeded failed missed : Prop}
    {runId : String}
    {reply : RunReply}
    (working : Working trail succeeded failed missed)
    (calling : pool.second.locals process = .call (.load runId) trail)
    (executed :
      pool.shared.exec process (.getRun runId) =
        some (next.shared, reply)) :
    Accounted
      (.call (LocalExecution.Awaiting.resume (.load runId) environment reply)
        trail)
      succeeded failed
      (missed ∨
        MissesRun process (process, .inr (.proceed environment)) pool
          next) := by
  obtain ⟨-, answer⟩ := RunDatabase.exec_getRun executed
  simp only [LocalExecution.Awaiting.resume, answer]
  cases found : pool.shared.row runId with
  | none =>
      exact ⟨working.1, working.2.1, working.2.2.1,
        .inr ⟨environment, rfl, .inl ⟨runId, trail, calling, found⟩⟩⟩
  | some row =>
      have noMiss :
          ¬ MissesRun process (process, .inr (.proceed environment))
            pool next := by
        refine not_missesRun_of_awaiting calling ?_ ?_
        · rintro owner ⟨⟩ absent
          rw [found] at absent
          cases absent
        · intro run error impossible
          cases impossible
      rw [or_iff_left noMiss]
      simp only [Option.map_some, LocalExecution.Awaiting.onRun]
      split
      · exact working
      · exact working

/-- From the loaded run to the execution, only the events are to account for. -/
theorem accounted_onward
    {succeeded failed missed : Prop}
    (accounted :
      Accounted (.call awaiting trail) succeeded failed missed)
    (notLoading : ∀ runId, awaiting ≠ .load runId)
    (notYet : ∀ call, awaiting ≠ .execution call)
    (reply : RunReply) :
    Accounted
      (.call (awaiting.resume environment reply)
        (trail ++ awaiting.audit?.toList))
      succeeded failed missed := by
  have onward
      (working : Working trail succeeded failed missed)
      (notFailure : awaiting.audit? ≠ some .executionFailed)
      (notSuccess : awaiting.audit? ≠ some .executionSucceeded) :
      Working (trail ++ awaiting.audit?.toList) succeeded failed missed :=
    ⟨working.1.append notSuccess notFailure, working.2⟩
  cases awaiting with
  | load runId =>
      exact (notLoading runId rfl).elim
  | execution call =>
      exact (notYet call rfl).elim
  | missingAudit runId =>
      obtain ⟨⟨noSuccess, noFailure⟩, notSucceeded, notFailed, miss⟩ :=
        accounted
      refine ⟨⟨?_, fun impossible => (notSucceeded impossible).elim⟩,
        ⟨fun _ => .inr miss, fun _ => ?_⟩, ?_⟩
      · intro member
        simp [LocalExecution.Awaiting.audit?, noSuccess] at member
      · simp [LocalExecution.Awaiting.audit?]
      · rintro ⟨impossible, -⟩
        exact notFailed impossible
  | skipAudit runId reason =>
      exact accounted_settled
        (onward accounted (by simp [LocalExecution.Awaiting.audit?])
          (by simp [LocalExecution.Awaiting.audit?]))
  | claim run call =>
      have working := onward accounted
        (by simp [LocalExecution.Awaiting.audit?])
        (by simp [LocalExecution.Awaiting.audit?])
      simp only [LocalExecution.Awaiting.resume]
      exact accounted_onClaim working
  | received | attemptAudit | latest | claimAudit | startAudit =>
      exact onward accounted
        (by simp [LocalExecution.Awaiting.audit?])
        (by simp [LocalExecution.Awaiting.audit?])

/-- The steps of `claimQueuedRun` keep its account. -/
theorem accounted_claim
    {succeeded failed missed : Prop}
    {statement : RunStatement}
    {reply : RunReply}
    (accounted :
      Accounted (.call awaiting trail) succeeded failed missed)
    (notYet : ∀ call, awaiting ≠ .execution call)
    (calling : pool.second.locals process = .call awaiting trail)
    (issued : awaiting.issue environment = some statement)
    (executed :
      pool.shared.exec process statement = some (next.shared, reply)) :
    Accounted
      (.call (awaiting.resume environment reply)
        (trail ++ awaiting.audit?.toList))
      (succeeded ∨
        WritesOutcome process .succeeded
          (process, .inr (.proceed environment)) pool next)
      (failed ∨
        WritesOutcome process .failed
          (process, .inr (.proceed environment)) pool next)
      (missed ∨
        MissesRun process (process, .inr (.proceed environment)) pool
          next) := by
  have writesNothing (state : RunState) :
      ¬ WritesOutcome process state
        (process, .inr (.proceed environment)) pool next :=
    not_writesOutcome_of_awaiting calling fun call _ same =>
      (notYet call same).elim
  rw [or_iff_left (writesNothing .succeeded),
    or_iff_left (writesNothing .failed)]
  by_cases loading : ∃ runId, awaiting = .load runId
  · obtain ⟨runId, rfl⟩ := loading
    cases issued
    simp only [LocalExecution.Awaiting.audit?, Option.toList_none,
      List.append_nil]
    exact accounted_load accounted calling executed
  · have noMiss :
        ¬ MissesRun process (process, .inr (.proceed environment))
          pool next :=
      not_missesRun_of_awaiting calling
        (fun runId same => (loading ⟨runId, same⟩).elim)
        fun run error same => (notYet _ same).elim
    rw [or_iff_left noMiss]
    exact accounted_onward accounted
      (fun runId same => loading ⟨runId, same⟩) notYet reply

/-- Every step of the pool keeps the account of every execution. -/
theorem Accounted.step
    {succeeded failed missed : Prop}
    (accounted :
      Accounted (pool.second.locals process) succeeded failed missed)
    (stepped : workerSystem.step? pool label = some next) :
    Accounted (next.second.locals process)
      (succeeded ∨ WritesOutcome process .succeeded label pool next)
      (failed ∨ WritesOutcome process .failed label pool next)
      (missed ∨ MissesRun process label pool next) := by
  by_cases proceeding :
      ∃ environment, label = (process, .inr (.proceed environment))
  · obtain ⟨environment, rfl⟩ := proceeding
    obtain ⟨statement, reply, issued, executed, resumed⟩ :=
      execution_step stepped
    rw [resumed]
    generalize calling :
      pool.second.locals process = call at accounted issued
    cases call with
    | idle =>
        cases issued
    | call awaiting trail =>
        by_cases executing : ∃ call, awaiting = .execution call
        · obtain ⟨call, rfl⟩ := executing
          exact accounted_execution accounted calling issued executed
        · exact accounted_claim accounted
            (fun call same => executing ⟨call, same⟩) calling issued
            executed
  · have other :
        ∀ environment, label ≠ (process, .inr (.proceed environment)) :=
      fun environment same => proceeding ⟨environment, same⟩
    rw [or_iff_left (not_writesOutcome_of_other other),
      or_iff_left (not_writesOutcome_of_other other),
      or_iff_left (not_missesRun_of_other other)]
    by_cases own : ∃ input, label = (process, .inr input)
    · obtain ⟨input, rfl⟩ := own
      obtain ⟨statement, reply, issued, executed, resumed⟩ :=
        execution_step stepped
      rw [resumed]
      generalize pool.second.locals process = call at accounted issued
      cases input with
      | proceed environment =>
          exact (other environment rfl).elim
      | start request =>
          cases call with
          | idle =>
              exact accounted_start accounted request
          | call awaiting trail =>
              cases issued
      | raise environment =>
          cases call with
          | idle =>
              cases issued
          | call awaiting trail =>
              simp only [LocalExecution.issue] at issued
              split at issued
              · cases issued
              · rename_i notAudit
                refine accounted_raise accounted notAudit ?_
                intro stuck
                rw [stuck] at issued
                cases issued
    · rw [execution_rests stepped fun input same => own ⟨input, same⟩]
      exact accounted

end Steps

/-- The execution of `process` has settled with these events. -/
def Settled
    (process : Nat)
    (pool : WorkerPool)
    (trail : List AuditEvent) :
    Prop :=
  ∃ runId dispatchId outcome,
    pool.second.locals process =
      .call (.execution (.settled runId dispatchId outcome)) trail

/-- Along the run, a step of this kind has been taken. -/
abbrev Happened
    (rows : JobRuns)
    (schedule : List WorkerStep)
    (event : WorkerStep → WorkerPool → WorkerPool → Prop) :
    Prop :=
  workerSystem.Happened (initial rows) schedule event

/-- Along every run, every execution is accounted for. -/
theorem accounted_of_run
    {rows : JobRuns}
    {schedule : List WorkerStep}
    {pool : WorkerPool}
    (ran : workerSystem.run? (initial rows) schedule = some pool)
    (process : Nat) :
    Accounted (pool.second.locals process)
      (Happened rows schedule (WritesOutcome process .succeeded))
      (Happened rows schedule (WritesOutcome process .failed))
      (Happened rows schedule (MissesRun process)) := by
  refine System.run?_induction
    (fun earlier visited =>
      Accounted (visited.second.locals process)
        (Happened rows earlier (WritesOutcome process .succeeded))
        (Happened rows earlier (WritesOutcome process .failed))
        (Happened rows earlier (MissesRun process))) ?_ ?_ ran
  · exact ⟨System.not_happened_nil, System.not_happened_nil,
      System.not_happened_nil⟩
  · intro earlier visited next label ranEarlier accounted stepped
    simp only [Happened,
      System.happened_append_singleton ranEarlier stepped]
    exact accounted.step stepped

/--
The trail of a settled execution matches its own transitions exactly when no
step of it has missed the run: `executeRunLocally` has found the run it loads,
and every `markFailed` that was sent has met the row `RUNNING` under the
execution's identifier.
-/
theorem audit_trail_matches_iff
    {rows : JobRuns}
    {schedule : List WorkerStep}
    {pool : WorkerPool}
    {process : Nat}
    {trail : List AuditEvent}
    (ran : workerSystem.run? (initial rows) schedule = some pool)
    (settled : Settled process pool trail) :
    ((.executionSucceeded ∈ trail ↔
          Happened rows schedule (WritesOutcome process .succeeded)) ∧
        (.executionFailed ∈ trail ↔
          Happened rows schedule (WritesOutcome process .failed))) ↔
      ¬ Happened rows schedule (MissesRun process) := by
  obtain ⟨runId, dispatchId, outcome, calling⟩ := settled
  have accounted := accounted_of_run ran process
  rw [calling] at accounted
  obtain ⟨succeeded, failed, apart⟩ := accounted
  constructor
  · rintro ⟨-, matching⟩ missed
    have failing := matching.mp (failed.mpr (.inr missed))
    exact apart ⟨failing, missed⟩
  · intro met
    exact ⟨succeeded, failed.trans (or_iff_left met)⟩

/-- Steps of the services, as steps of the worker's pool. -/
def serviceSteps (steps : List (Label RunInput)) : List WorkerStep :=
  steps.map fun (process, input) => (process, .inl input)

/-- Process 2 executes the claimed nightly run up to its job. -/
def runNightlyJob : List WorkerStep :=
  serviceSteps (queueNightly ++ claimNightly 1 firstUuid) ++
    (2, .inr (.start (.executeClaimedRun nightlyRunId "first"))) ::
      List.replicate 7 (2, .inr (.proceed (environmentAt 7 unusedUuid)))

/-- The trail of a settled execution. -/
def settledTrail? : LocalExecution.Local → Option (List AuditEvent)
  | .call (.execution (.settled ..)) trail => some trail
  | _ => none

theorem settled_of_settledTrail?
    {process : Nat}
    {pool : WorkerPool}
    {trail : List AuditEvent}
    (shape :
      settledTrail? (pool.second.locals process) = some trail) :
    Settled process pool trail := by
  unfold Settled
  generalize pool.second.locals process = call at shape
  unfold settledTrail? at shape
  split at shape
  · cases shape
    exact ⟨_, _, _, rfl⟩
  · cases shape

/-- The run whose failure an execution is about to write. -/
def failingRun? : LocalExecution.Local → Option String
  | .call (.execution (.failing run _)) _ => some run.runId
  | _ => none

theorem failing_of_failingRun?
    {call : LocalExecution.Local}
    {runId : String}
    (shape : failingRun? call = some runId) :
    ∃ run error trail,
      call = .call (.execution (.failing run error)) trail ∧
        run.runId = runId := by
  unfold failingRun? at shape
  split at shape
  · cases shape
    exact ⟨_, _, _, rfl, rfl⟩
  · cases shape

/-- The job ends and its result is written. -/
def succeedNightlyJob : List WorkerStep :=
  runNightlyJob ++
    List.replicate 3 (2, .inr (.proceed (environmentAt 8 unusedUuid)))

/-- Undisturbed, the execution succeeds and says so. -/
theorem audit_trail_matches_iff_succeedNightlyJob :
    ∃ pool trail,
      workerSystem.run? (initial ∅) succeedNightlyJob = some pool ∧
        Settled 2 pool trail ∧
        .executionSucceeded ∈ trail ∧
        (((.executionSucceeded ∈ trail ↔
              Happened ∅ succeedNightlyJob (WritesOutcome 2 .succeeded)) ∧
            (.executionFailed ∈ trail ↔
              Happened ∅ succeedNightlyJob (WritesOutcome 2 .failed))) ↔
          ¬ Happened ∅ succeedNightlyJob (MissesRun 2)) := by
  have outcome :
      (workerSystem.run? (initial ∅) succeedNightlyJob).bind
          (fun pool => settledTrail? (pool.second.locals 2)) =
        some [.metadataLoaded, .artifactVerified, .executionStarted,
          .executionSucceeded] := by
    decide
  obtain ⟨pool, ran, shape⟩ := Option.bind_eq_some_iff.mp outcome
  have settled := settled_of_settledTrail? shape
  exact ⟨pool, _, ran, settled, by decide,
    audit_trail_matches_iff ran settled⟩

/-- An operator cancels the run, and the killed job makes `execute` throw. -/
def killNightlyJob : List WorkerStep :=
  runNightlyJob ++
    serviceSteps
      [(3, .start (.cancelRun ⟨nightlyRunId, "", "operator", false⟩)),
        (3, .proceed (environmentAt 8 unusedUuid)),
        (3, .proceed (environmentAt 8 unusedUuid))] ++
    [(2, .inr (.raise (environmentAt 9 unusedUuid)))]

/-- The cancelled execution says that it failed, and has not failed the run. -/
theorem killNightlyJob_not_matching :
    ¬ ∀ rows schedule pool process trail,
      workerSystem.run? (initial rows) schedule = some pool →
      Settled process pool trail →
      (.executionFailed ∈ trail ↔
        Happened rows schedule (WritesOutcome process .failed)) := by
  intro matching
  have outcome :
      (workerSystem.run? (initial ∅) killNightlyJob).bind
          (fun before =>
            (workerSystem.run? before
                (List.replicate 2
                  (2, .inr (.proceed (environmentAt 10 unusedUuid))))).map
              fun after =>
                (failingRun? (before.second.locals 2),
                  (before.shared.row nightlyRunId).map JobRun.state,
                  settledTrail? (after.second.locals 2))) =
        some (some nightlyRunId, some .cancelling,
          some [.metadataLoaded, .artifactVerified, .executionStarted,
            .executionFailed]) := by
    decide
  obtain ⟨before, ran, rest⟩ := Option.bind_eq_some_iff.mp outcome
  obtain ⟨after, ranOn, shape⟩ := Option.map_eq_some_iff.mp rest
  simp only [Prod.mk.injEq] at shape
  obtain ⟨failing, cancelling, settling⟩ := shape
  obtain ⟨run, error, trail, calling, same⟩ :=
    failing_of_failingRun? failing
  obtain ⟨row, found, state⟩ := Option.map_eq_some_iff.mp cancelling
  obtain ⟨middle, stepped, -⟩ := System.run?_append_eq_some.mp
    (show workerSystem.run? before
        ([(2, .inr (.proceed (environmentAt 10 unusedUuid)))] ++
          [(2, .inr (.proceed (environmentAt 10 unusedUuid)))]) =
        some after from ranOn)
  rw [System.run?_singleton] at stepped
  have missed :
      Happened ∅
        (killNightlyJob ++
          List.replicate 2
            (2, .inr (.proceed (environmentAt 10 unusedUuid))))
        (MissesRun 2) := by
    refine ⟨killNightlyJob, _, _, before, middle, rfl, ran, stepped, _,
      rfl, .inr ⟨run, error, trail, calling, ?_⟩⟩
    rw [same, found]
    rintro stored ⟨⟩ ⟨running, -⟩
    rw [state] at running
    cases running
  have ranAll := System.run?_append_eq_some.mpr ⟨before, ran, ranOn⟩
  have settled := settled_of_settledTrail? settling
  have failed :=
    (matching ∅ _ after 2 _ ranAll settled).mp (by decide)
  have accounted := accounted_of_run ranAll 2
  obtain ⟨runId, dispatchId, outcome, settledCall⟩ := settled
  rw [settledCall] at accounted
  exact accounted.2.2 ⟨failed, missed⟩

end WorkerPool

end IgaScheduler

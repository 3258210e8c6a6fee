import IgaScheduler.RunLifecycle

namespace IgaScheduler

open Relational Interleaving

/-!
# The columns of a run in each of its states

Ten statements write the columns of a run, each of them a few, and rely on
what the earlier ones have left.  A predicate on rows holds in every reachable
pool when the inserted rows have it and every admitted write keeps it; the
columns that belong to a state are such a predicate.
-/

/--
A predicate on rows holds of the row that a statement leaves when the inserted
row has it and the admitted write keeps it; a commit publishes a claim.
-/
theorem RunDatabase.PendingClaims.keeps
    {process : Nat}
    {statement : RunStatement}
    {shared next : RunDatabase}
    {reply : RunReply}
    {runId : String}
    (holds : JobRun → Prop)
    (pending : shared.PendingClaims)
    (executed : shared.exec process statement = some (next, reply))
    (held : ∀ row ∈ shared.row runId, holds row)
    (created :
      ∀ document,
        statement = .createRun document →
        document.runId = runId →
        shared.row runId = none →
        holds (documentToRow document))
    (written :
      ∀ write row,
        shared.row runId = some row →
        write.update.guard row = true →
        statement = .update runId write ∨
          (∃ startedAt dispatchId,
            write = .claimRun startedAt none dispatchId) →
        holds row →
        holds (write.update.set row)) :
    ∀ row ∈ next.row runId, holds row := by
  have effect := RunDatabase.exec_rowEffect executed runId
  generalize next.row runId = after at effect ⊢
  cases effect with
  | kept =>
      exact held
  | created document sameRun absent =>
      rintro row ⟨⟩
      exact created document rfl sameRun absent
  | written write row found admitted =>
      rintro stored ⟨⟩
      exact written write row found admitted (.inl rfl) (held row found)
  | published claimed transaction row opened uncommitted =>
      rintro stored ⟨⟩
      obtain ⟨committed, startedAt, dispatchId, found, isQueued, rfl, -⟩ :=
        pending.writes opened uncommitted
      exact written (.claimRun startedAt none dispatchId) committed found
        (decide_eq_true isQueued) (.inr ⟨startedAt, dispatchId, rfl⟩)
        (held committed found)

/-- The columns that are set and those that are null in each state. -/
structure JobRun.LifecycleColumns (row : JobRun) : Prop where
  queued :
    row.state = .queued →
      row.startedAt = none ∧
        row.endedAt = none ∧
        row.heartbeatAt = none ∧
        row.error = none ∧
        row.result = none ∧
        row.runtimeExecution = none
  claimed :
    row.state = .running ∨ row.state = .cancelling →
      row.startedAt ≠ none ∧
        row.dispatchId ≠ none ∧
        row.endedAt = none ∧
        row.error = none ∧
        row.result = none
  finished :
    row.state = .succeeded ∨ row.state = .failed ∨
        row.state = .cancelled →
      row.endedAt ≠ none
  result : row.result ≠ none → row.state = .succeeded
  error :
    row.error ≠ none → row.state = .failed ∨ row.state = .cancelled

/-- The columns of a run that has just been queued. -/
structure JobRun.FreshColumns (row : JobRun) : Prop where
  state : row.state = .queued
  startedAt : row.startedAt = none
  endedAt : row.endedAt = none
  heartbeatAt : row.heartbeatAt = none
  error : row.error = none
  result : row.result = none
  runtimeExecution : row.runtimeExecution = none

theorem JobRun.FreshColumns.lifecycle
    {row : JobRun}
    (fresh : row.FreshColumns) :
    row.LifecycleColumns where
  queued := fun _ =>
    ⟨fresh.startedAt, fresh.endedAt, fresh.heartbeatAt, fresh.error,
      fresh.result, fresh.runtimeExecution⟩
  claimed := by
    rw [fresh.state]
    rintro (impossible | impossible) <;> cases impossible
  finished := by
    rw [fresh.state]
    rintro (impossible | impossible | impossible) <;> cases impossible
  result := fun given => (given fresh.result).elim
  error := fun given => (given fresh.error).elim

/-- The services insert fresh rows only. -/
theorem RunCall.createRun_fresh
    {call : RunCall}
    {input : RunInput}
    {document : RunDocument}
    (issued : call.issue input = some (.createRun document)) :
    (documentToRow document).FreshColumns := by
  cases issues_of_issue issued with
  | createRun origin =>
      cases origin <;> constructor <;> rfl
  | redrive =>
      constructor <;> rfl

namespace JobRun.LifecycleColumns

variable {row : JobRun}

theorem result_eq_none
    (columns : row.LifecycleColumns)
    (unsuccessful : row.state ≠ .succeeded) :
    row.result = none :=
  Classical.not_not.mp fun given => unsuccessful (columns.result given)

/-- A row that a worker holds has the columns of a claimed run. -/
theorem of_claimed
    (active : row.state = .running ∨ row.state = .cancelling)
    (startedAt : row.startedAt ≠ none)
    (dispatchId : row.dispatchId ≠ none)
    (endedAt : row.endedAt = none)
    (error : row.error = none)
    (result : row.result = none) :
    row.LifecycleColumns where
  queued := by
    intro queued
    rw [queued] at active
    rcases active with impossible | impossible <;> cases impossible
  claimed := fun _ => ⟨startedAt, dispatchId, endedAt, error, result⟩
  finished := by
    rcases active with state | state <;> rw [state] <;>
      rintro (impossible | impossible | impossible) <;> cases impossible
  result := fun given => (given result).elim
  error := fun given => (given error).elim

/-- A row that has ended has the columns of a finished run. -/
theorem of_finished
    (terminal :
      row.state = .succeeded ∨ row.state = .failed ∨
        row.state = .cancelled)
    (endedAt : row.endedAt ≠ none)
    (result : row.result ≠ none → row.state = .succeeded)
    (error :
      row.error ≠ none → row.state = .failed ∨ row.state = .cancelled) :
    row.LifecycleColumns where
  queued := by
    intro queued
    rw [queued] at terminal
    rcases terminal with impossible | impossible | impossible <;>
      cases impossible
  claimed := by
    rcases terminal with state | state | state <;> rw [state] <;>
      rintro (impossible | impossible) <;> cases impossible
  finished := fun _ => endedAt
  result := result
  error := error

end JobRun.LifecycleColumns

/-- Every admitted write keeps the columns of the states. -/
theorem RunWrite.set_lifecycleColumns
    (write : RunWrite)
    {row : JobRun}
    (columns : row.LifecycleColumns)
    (admitted : write.update.guard row = true) :
    (write.update.set row).LifecycleColumns := by
  have source := RunWrite.state_mem_sources admitted
  cases write with
  | claimRun startedAt status dispatchId =>
      have queued : row.state = .queued := by
        simpa [RunWrite.sources] using source
      obtain ⟨-, endedAt, -, error, result, -⟩ := columns.queued queued
      exact .of_claimed (.inl rfl) (Option.some_ne_none _)
        (Option.some_ne_none _) endedAt error result
  | recordRuntimeExecution =>
      have running : row.state = .running := by
        simpa [RunWrite.sources] using source
      obtain ⟨startedAt, dispatchId, endedAt, error, result⟩ :=
        columns.claimed (.inl running)
      exact .of_claimed (.inl running) startedAt dispatchId endedAt error
        result
  | touchHeartbeat =>
      have active : row.state = .running ∨ row.state = .cancelling := by
        simpa [RunWrite.sources] using source
      obtain ⟨startedAt, dispatchId, endedAt, error, result⟩ :=
        columns.claimed active
      exact .of_claimed active startedAt dispatchId endedAt error result
  | cancelRunning reason cancelledBy nowIso now =>
      have running : row.state = .running := by
        simpa [RunWrite.sources] using source
      obtain ⟨startedAt, dispatchId, endedAt, error, result⟩ :=
        columns.claimed (.inl running)
      exact .of_claimed (.inr rfl) startedAt dispatchId endedAt error
        result
  | retry nextAttempt dispatchId nowIso now =>
      -- `result` is the one column the retry does not reset
      have failed : row.state = .failed := by
        simpa [RunWrite.sources] using source
      have result : row.result = none :=
        columns.result_eq_none (by simp [failed])
      exact JobRun.FreshColumns.lifecycle
        ⟨rfl, rfl, rfl, rfl, rfl, result, rfl⟩
  | markSucceeded endedAt result status dispatchId =>
      exact .of_finished (.inl rfl) (Option.some_ne_none _) (fun _ => rfl)
        (fun given => (given rfl).elim)
  | markFailed endedAt error status dispatchId =>
      have running : row.state = .running := by
        simpa [RunWrite.sources] using source
      exact .of_finished (.inr (.inl rfl)) (Option.some_ne_none _)
        (fun given =>
          (given (columns.result_eq_none (by simp [running]))).elim)
        (fun _ => .inl rfl)
  | markCancelled | killed | cancelQueued =>
      have unsuccessful : row.state ≠ .succeeded := by
        intro succeeded
        simp [RunWrite.sources, succeeded] at source
      exact .of_finished (.inr (.inr rfl)) (Option.some_ne_none _)
        (fun given => (given (columns.result_eq_none unsuccessful)).elim)
        (fun _ => .inr rfl)

namespace StorePool

/-- Every stored run of every reachable pool has the columns of its state. -/
theorem Reachable.lifecycleColumns
    {pool : StorePool}
    (reachable : Reachable ∅ pool)
    (runId : String) :
    ∀ row ∈ pool.shared.row runId, row.LifecycleColumns := by
  obtain ⟨schedule, ran⟩ := reachable
  refine System.run?_induction
    (fun _ visited =>
      ∀ row ∈ visited.shared.row runId, row.LifecycleColumns)
    ?_ ?_ ran
  · intro row found
    cases found
  · intro earlier visited next label ranEarlier held stepped
    have reached : Reachable ∅ visited := ⟨earlier, ranEarlier⟩
    obtain ⟨statement, reply, executed, moves⟩ := step_moves stepped
    refine reached.pendingClaims.keeps JobRun.LifecycleColumns executed
      held ?_ ?_
    · rintro document rfl - -
      cases moves with
      | service input chosen issued =>
          exact (RunCall.createRun_fresh issued).lifecycle
      | store input chosen issued =>
          exact (StoreCalls.issue_ne_createRun issued).elim
    · intro write row _ admitted _ columns
      exact write.set_lifecycleColumns columns admitted

/--
From an empty table, whatever is interleaved, every run has the columns of its
state; one that is `RUNNING` or `CANCELLING` passes the sweeper's filter as
soon as its start is further back than the threshold.
-/
theorem run_lifecycle_columns
    {pool : StorePool}
    {runId : String}
    {row : JobRun}
    (reachable : Reachable ∅ pool)
    (found : pool.shared.row runId = some row) :
    row.LifecycleColumns ∧
      (row.state = .running ∨ row.state = .cancelling →
        ∃ startedAt,
          row.startedAt = some startedAt ∧
            ∀ thresholdMs now,
              RunDatabase.startedBefore thresholdMs now row = true ↔
                startedAt < now - thresholdMs) := by
  have columns := reachable.lifecycleColumns runId row found
  refine ⟨columns, ?_⟩
  intro active
  obtain ⟨startedAt, started⟩ :=
    Option.ne_none_iff_exists'.mp (columns.claimed active).1
  refine ⟨startedAt, started, ?_⟩
  intro thresholdMs now
  simp [RunDatabase.startedBefore, started]

/-- The claimed nightly run, dispatched by a call without `dispatchId`. -/
theorem run_lifecycle_columns_claimNightly :
    ∃ pool row,
      Reachable ∅ pool ∧
        pool.shared.row nightlyRunId = some row ∧
        row.state = .running ∧
        row.LifecycleColumns ∧
        RunDatabase.startedBefore 3 10 row = true := by
  have outcome :
      (storeSystem.run? (StorePool.initial ∅)
          (servicesOnly (queueNightly ++ claimNightly 1 firstUuid) ++
            callStore 2
              (.recordRuntimeExecution nightlyRunId none 7 none none))).bind
        (fun pool =>
          (pool.shared.row nightlyRunId).map fun row =>
            (row.state, row.startedAt)) =
        some (.running, some 6) := by
    decide
  obtain ⟨pool, ran, stored⟩ := Option.bind_eq_some_iff.mp outcome
  obtain ⟨row, found, shape⟩ := Option.map_eq_some_iff.mp stored
  obtain ⟨running, started⟩ := Prod.mk.inj shape
  obtain ⟨columns, visible⟩ := run_lifecycle_columns ⟨_, ran⟩ found
  obtain ⟨startedAt, same, filter⟩ := visible (.inl running)
  obtain rfl := Option.some.inj (same.symm.trans started)
  exact ⟨pool, row, ⟨_, ran⟩, found, running, columns,
    (filter 3 10).mpr (by decide)⟩

end StorePool

end IgaScheduler

import IgaScheduler.StoreCalls

namespace IgaScheduler

open Relational Interleaving

/-!
# The run state machine

Each `UPDATE` guards itself by the states it is meant for, and an open batch
claim can only publish claims of rows that are still `QUEUED`: it has locked
them.  So no interleaving takes a run along an edge the state machine does not
have, and a `SUCCEEDED` or `CANCELLED` row is never written again, not even by
a write that no claim stands behind.
-/

/-- The edges of the run state machine. -/
inductive RunState.Edge : RunState → RunState → Prop where
  | claim : Edge .queued .running
  | cancelQueued : Edge .queued .cancelled
  | succeed : Edge .running .succeeded
  | fail : Edge .running .failed
  | requestCancel : Edge .running .cancelling
  | cancel : Edge .cancelling .cancelled
  | retry : Edge .failed .queued

/-- The states that are never left. -/
def RunState.Terminal (state : RunState) : Prop :=
  state = .succeeded ∨ state = .cancelled

/-- Every write follows an edge or keeps the state. -/
theorem RunWrite.target_edge
    {write : RunWrite}
    {state : RunState}
    (source : state ∈ write.sources) :
    write.target state = state ∨
      RunState.Edge state (write.target state) := by
  cases write <;> simp only [RunWrite.sources, List.mem_cons,
    List.not_mem_nil, or_false] at source
  case claimRun => subst source; exact .inr .claim
  case recordRuntimeExecution => exact .inl rfl
  case markSucceeded => subst source; exact .inr .succeed
  case markFailed => subst source; exact .inr .fail
  case touchHeartbeat => exact .inl rfl
  case markCancelled => subst source; exact .inr .cancel
  case retry => subst source; exact .inr .retry
  case cancelRunning => subst source; exact .inr .requestCancel
  case cancelQueued => subst source; exact .inr .cancelQueued
  case killed => subst source; exact .inr .cancel

/-- No write is meant for a terminal state. -/
theorem RunWrite.not_terminal
    {write : RunWrite}
    {state : RunState}
    (source : state ∈ write.sources) :
    ¬ state.Terminal := by
  rintro (rfl | rfl) <;> cases write <;> simp [RunWrite.sources] at source

namespace RunDatabase

/--
Every uncommitted write of a session is a claim of a row that is committed as
`QUEUED`, and so is every row the session has locked.
-/
structure PendingClaims (shared : RunDatabase) : Prop where
  locked :
    ∀ {session : Nat} {transaction : Transaction String JobRun},
      shared.database.transactions.lookup session = some transaction →
      ∀ runId ∈ transaction.locked,
        ∃ row, shared.row runId = some row ∧ row.state = .queued
  writes :
    ∀ {session : Nat} {transaction : Transaction String JobRun},
      shared.database.transactions.lookup session = some transaction →
      ∀ {runId : String} {written : JobRun},
        transaction.writes.lookup runId = some written →
        ∃ row startedAt dispatchId,
          shared.row runId = some row ∧
            row.state = .queued ∧
            written =
              (RunStore.claimRun startedAt none dispatchId).set row ∧
            dispatchId.text ∈ shared.minted

theorem PendingClaims.initial (rows : JobRuns) :
    PendingClaims (RunPool.initial rows).shared where
  locked := by
    intro session transaction found
    simp [RunPool.initial, Database.ofTable] at found
  writes := by
    intro session transaction found
    simp [RunPool.initial, Database.ofTable] at found

/-- A session other than the one that moves keeps its claims pending. -/
theorem PendingClaims.exec_other
    {process session : Nat}
    {statement : RunStatement}
    {shared next : RunDatabase}
    {reply : RunReply}
    {transaction : Transaction String JobRun}
    (executed : shared.exec process statement = some (next, reply))
    (different : session ≠ process)
    (opened :
      next.database.transactions.lookup session = some transaction) :
    shared.database.transactions.lookup session = some transaction ∧
      ∀ runId ∈ transaction.locked,
        next.row runId = shared.row runId := by
  have respects := exec_respects executed
  have openedBefore :
      shared.database.transactions.lookup session = some transaction := by
    rw [← respects.others session different]
    exact opened
  exact ⟨openedBefore, fun runId held =>
    Database.locked_committed_eq respects different openedBefore held⟩

/-- Every row that a session has locked stays `QUEUED`. -/
theorem PendingClaims.locked_of_exec
    {process session : Nat}
    {statement : RunStatement}
    {shared next : RunDatabase}
    {reply : RunReply}
    {transaction : Transaction String JobRun}
    {runId : String}
    (pending : PendingClaims shared)
    (executed : shared.exec process statement = some (next, reply))
    (opened :
      next.database.transactions.lookup session = some transaction)
    (held : runId ∈ transaction.locked) :
    ∃ row, next.row runId = some row ∧ row.state = .queued := by
  by_cases different : session ≠ process
  · obtain ⟨openedBefore, rows⟩ :=
      PendingClaims.exec_other executed different opened
    rw [rows runId held]
    exact pending.locked openedBefore runId held
  · obtain rfl : session = process := not_not.mp different
    rcases exec_own_transaction executed opened with
      ⟨-, begun⟩ | ⟨before, openedBefore, rows, work⟩
    · rw [begun] at held
      cases held
    · -- the rows locked before are untouched, the new ones are selected
      have kept :
          ∀ held ∈ before.locked,
            ∃ row, next.row held = some row ∧ row.state = .queued := by
        intro owned member
        rw [rows owned member]
        exact pending.locked openedBefore owned member
      generalize transaction.toWorkingSet = after at work held
      cases work with
      | kept =>
          exact kept runId held
      | selected limit selected unlocked =>
          rcases List.mem_append.mp held with added | old
          · obtain ⟨⟨owner, row⟩, member, rfl⟩ := List.mem_map.mp added
            rw [unlocked] at member
            obtain ⟨found, isQueued, -⟩ :=
              Database.mem_selectUnlocked member
            have effect := exec_rowEffect executed owner
            generalize next.row owner = afterRow at effect ⊢
            cases effect
            exact ⟨row, found, by simpa using isQueued⟩
          · exact kept runId old
      | claimed owner startedAt dispatchId row viewed isQueued =>
          rcases List.mem_cons.mp held with rfl | old
          · have effect := exec_rowEffect executed runId
            generalize next.row runId = afterRow at effect ⊢
            cases effect
            cases own : before.writes.lookup runId with
            | some written =>
                obtain ⟨stored, _, _, found, storedQueued, -, -⟩ :=
                  pending.writes openedBefore own
                exact ⟨stored, found, storedQueued⟩
            | none =>
                refine ⟨row, ?_, isQueued⟩
                simpa [Database.view, own, RunDatabase.row] using viewed
          · exact kept runId old

/-- Every uncommitted write stays a claim of a row that is `QUEUED`. -/
theorem PendingClaims.writes_of_exec
    {process session : Nat}
    {statement : RunStatement}
    {shared next : RunDatabase}
    {reply : RunReply}
    {transaction : Transaction String JobRun}
    {runId : String}
    {written : JobRun}
    (pending : PendingClaims shared)
    (executed : shared.exec process statement = some (next, reply))
    (opened :
      next.database.transactions.lookup session = some transaction)
    (found : transaction.writes.lookup runId = some written) :
    ∃ row startedAt dispatchId,
      next.row runId = some row ∧
        row.state = .queued ∧
        written = (RunStore.claimRun startedAt none dispatchId).set row ∧
        dispatchId.text ∈ next.minted := by
  have mintedKept :
      ∀ id ∈ shared.minted, id ∈ next.minted := by
    intro id member
    rw [exec_minted executed]
    exact List.mem_append_right _ member
  by_cases different : session ≠ process
  · obtain ⟨openedBefore, rows⟩ :=
      PendingClaims.exec_other executed different opened
    obtain ⟨row, startedAt, dispatchId, stored, isQueued, shape, used⟩ :=
      pending.writes openedBefore found
    have held :=
      transaction.writesLocked runId
        (AList.lookup_isSome.mp (by simp [found]))
    exact ⟨row, startedAt, dispatchId, by rw [rows runId held, stored],
      isQueued, shape, mintedKept _ used⟩
  · obtain rfl : session = process := not_not.mp different
    rcases exec_own_transaction executed opened with
      ⟨-, begun⟩ | ⟨before, openedBefore, rows, work⟩
    · rw [begun] at found
      simp [WorkingSet.empty] at found
    · have kept :
          ∀ {owner : String} {old : JobRun},
            before.writes.lookup owner = some old →
            ∃ row startedAt dispatchId,
              next.row owner = some row ∧
                row.state = .queued ∧
                old =
                  (RunStore.claimRun startedAt none dispatchId).set
                    row ∧
                dispatchId.text ∈ next.minted := by
        intro owner old stored
        obtain ⟨row, startedAt, dispatchId, committed, isQueued, shape,
            used⟩ :=
          pending.writes openedBefore stored
        have held :=
          before.writesLocked owner
            (AList.lookup_isSome.mp (by simp [stored]))
        exact ⟨row, startedAt, dispatchId,
          by rw [rows owner held, committed],
          isQueued, shape, mintedKept _ used⟩
      generalize transaction.toWorkingSet = after at work found
      cases work with
      | kept =>
          exact kept found
      | selected limit selected unlocked =>
          exact kept found
      | claimed owner startedAt dispatchId row viewed isQueued =>
          by_cases same : runId = owner
          · subst runId
            simp only [WorkingSet.write, AList.lookup_insert] at found
            cases found
            have effect := exec_rowEffect executed owner
            generalize next.row owner = afterRow at effect ⊢
            cases effect
            -- an own earlier write would be `RUNNING`, not `QUEUED`
            cases own : before.writes.lookup owner with
            | some old =>
                obtain ⟨_, _, _, _, _, rfl, _⟩ :=
                  pending.writes openedBefore own
                simp only [Database.view, own, Option.some_or,
                  Option.some.injEq] at viewed
                rw [← viewed] at isQueued
                simp [RunStore.claimRun] at isQueued
            | none =>
                refine ⟨row, startedAt, dispatchId, ?_, isQueued, rfl, ?_⟩
                · simpa [Database.view, own, RunDatabase.row] using viewed
                · rw [exec_minted executed]
                  simp [RunStatement.minted]
          · simp only [WorkingSet.write,
              AList.lookup_insert_ne same] at found
            exact kept found

/-- The pending-claims invariant survives every statement. -/
theorem PendingClaims.exec
    {process : Nat}
    {statement : RunStatement}
    {shared next : RunDatabase}
    {reply : RunReply}
    (pending : PendingClaims shared)
    (executed : shared.exec process statement = some (next, reply)) :
    PendingClaims next where
  locked opened _ held := pending.locked_of_exec executed opened held
  writes opened _ _ found := pending.writes_of_exec executed opened found

/-- What one statement leaves of a row that is already stored. -/
structure RowStep
    (before after : JobRun) :
    Prop where
  edge :
    after.state = before.state ∨
      RunState.Edge before.state after.state
  frozen : before.state.Terminal → after = before

theorem RowStep.refl (row : JobRun) :
    RowStep row row :=
  ⟨.inl rfl, fun _ => rfl⟩

/-- Every statement takes every stored row along an edge or leaves it. -/
theorem PendingClaims.rowStep
    {process : Nat}
    {statement : RunStatement}
    {shared next : RunDatabase}
    {reply : RunReply}
    {runId : String}
    {before : JobRun}
    (pending : PendingClaims shared)
    (executed : shared.exec process statement = some (next, reply))
    (found : shared.row runId = some before) :
    ∃ after,
      next.row runId = some after ∧ RowStep before after := by
  have effect := exec_rowEffect executed runId
  generalize next.row runId = result at effect ⊢
  cases effect with
  | kept =>
      exact ⟨before, found, .refl before⟩
  | created document sameRun absent =>
      rw [found] at absent
      cases absent
  | written write row stored admitted =>
      obtain rfl := Option.some.inj (found.symm.trans stored)
      have source := RunWrite.state_mem_sources admitted
      refine ⟨_, rfl, ?_, ?_⟩
      · rw [RunWrite.set_state]
        exact RunWrite.target_edge source
      · intro terminal
        exact (RunWrite.not_terminal source terminal).elim
  | published claimed transaction row opened written =>
      obtain ⟨committed, _, _, stored, isQueued, rfl, -⟩ :=
        pending.writes opened written
      obtain rfl := Option.some.inj (found.symm.trans stored)
      refine ⟨_, rfl, .inr ?_, ?_⟩
      · rw [isQueued]
        exact .claim
      · rw [isQueued]
        rintro (impossible | impossible) <;> cases impossible

end RunDatabase

namespace RunPool

/-- Uncommitted claims are claims of queued rows in every reachable pool. -/
theorem Reachable.pendingClaims
    {rows : JobRuns}
    {pool : RunPool}
    (reachable : Reachable rows pool) :
    RunDatabase.PendingClaims pool.shared :=
  reachable.shared_invariant RunDatabase.PendingClaims
    (RunDatabase.PendingClaims.initial rows)
    (fun pending executed => pending.exec executed)

/-- One scheduled step, seen on one stored row. -/
theorem Reachable.rowStep
    {rows : JobRuns}
    {pool next : RunPool}
    {label : Label RunInput}
    {runId : String}
    {before : JobRun}
    (reachable : Reachable rows pool)
    (stepped : runSystem.step? pool label = some next)
    (found : pool.shared.row runId = some before) :
    ∃ after,
      next.shared.row runId = some after ∧
        RunDatabase.RowStep before after := by
  obtain ⟨_, _, _, _, executed, rfl⟩ := System.step?_eq_some.mp stepped
  exact reachable.pendingClaims.rowStep executed found

/--
A set of states that no edge leaves is never left: a run whose row is in it
stays in it, whatever is scheduled.
-/
theorem Reachable.row_stays
    {rows : JobRuns}
    {pool final : RunPool}
    {schedule : List (Label RunInput)}
    {runId : String}
    {row : JobRun}
    (closed : JobRun → Prop)
    (reachable : Reachable rows pool)
    (ran : runSystem.run? pool schedule = some final)
    (found : pool.shared.row runId = some row)
    (inside : closed row)
    (stays :
      ∀ {before after : JobRun},
        closed before →
        RunDatabase.RowStep before after →
        closed after) :
    ∃ after, final.shared.row runId = some after ∧ closed after := by
  have kept :
      Reachable rows final ∧
        ∃ after, final.shared.row runId = some after ∧ closed after := by
    refine System.run?_invariant
      (fun visited =>
        Reachable rows visited ∧
          ∃ after,
            visited.shared.row runId = some after ∧ closed after)
      ⟨reachable, row, found, inside⟩ ?_ ran
    rintro visited next label ⟨reachableVisited, before, stored, within⟩
      stepped
    obtain ⟨after, storedAfter, rowStep⟩ :=
      reachableVisited.rowStep stepped stored
    exact ⟨reachableVisited.step stepped, after, storedAfter,
      stays within rowStep⟩
  exact kept.2

end RunPool

namespace StorePool

/-- Uncommitted claims stay claims of queued rows beside calls of the store. -/
theorem Reachable.pendingClaims
    {rows : JobRuns}
    {pool : StorePool}
    (reachable : Reachable rows pool) :
    RunDatabase.PendingClaims pool.shared :=
  reachable.shared_invariant RunDatabase.PendingClaims
    (RunDatabase.PendingClaims.initial rows)
    (fun pending executed => pending.exec executed)

/-- One scheduled step of either part, seen on one stored row. -/
theorem Reachable.rowStep
    {rows : JobRuns}
    {pool next : StorePool}
    {label : StoreStep}
    {runId : String}
    {before : JobRun}
    (reachable : Reachable rows pool)
    (stepped : storeSystem.step? pool label = some next)
    (found : pool.shared.row runId = some before) :
    ∃ after,
      next.shared.row runId = some after ∧
        RunDatabase.RowStep before after := by
  obtain ⟨_, _, executed, -⟩ := step_moves stepped
  exact reachable.pendingClaims.rowStep executed found

/-- A terminal row is there, column for column, at the end of every run. -/
theorem Reachable.terminal_stays
    {rows : JobRuns}
    {pool final : StorePool}
    {schedule : List StoreStep}
    {runId : String}
    {row : JobRun}
    (reachable : Reachable rows pool)
    (ran : storeSystem.run? pool schedule = some final)
    (found : pool.shared.row runId = some row)
    (terminal : row.state.Terminal) :
    final.shared.row runId = some row := by
  have kept :
      Reachable rows final ∧ final.shared.row runId = some row := by
    refine System.run?_invariant
      (fun visited =>
        Reachable rows visited ∧ visited.shared.row runId = some row)
      ⟨reachable, found⟩ ?_ ran
    rintro visited next label ⟨reachableVisited, stored⟩ stepped
    obtain ⟨after, storedAfter, rowStep⟩ :=
      reachableVisited.rowStep stepped stored
    rw [rowStep.frozen terminal] at storedAfter
    exact ⟨reachableVisited.step stepped, storedAfter⟩
  exact kept.2

/--
From an empty table, every step of every interleaving of the services with
calls of the store takes every row along an edge of the state machine or
leaves its state, and a terminal row keeps all of its columns for ever.
-/
theorem run_state_machine_and_terminal_freeze
    {pool : StorePool}
    (reachable : Reachable ∅ pool) :
    (∀ {next : StorePool} {label : StoreStep}
        {runId : String} {before : JobRun},
      storeSystem.step? pool label = some next →
      pool.shared.row runId = some before →
      ∃ after,
        next.shared.row runId = some after ∧
          (after.state = before.state ∨
            RunState.Edge before.state after.state)) ∧
      ∀ {final : StorePool} {schedule : List StoreStep}
          {runId : String} {row : JobRun},
        storeSystem.run? pool schedule = some final →
        pool.shared.row runId = some row →
        row.state.Terminal →
        final.shared.row runId = some row := by
  constructor
  · intro next label runId before stepped found
    obtain ⟨after, stored, rowStep⟩ := reachable.rowStep stepped found
    exact ⟨after, stored, rowStep.edge⟩
  · intro final schedule runId row ran found terminal
    exact reachable.terminal_stays ran found terminal

/-- The claimed run, with an unfenced `markSucceeded` about to be executed. -/
def succeedUnfenced : List StoreStep :=
  servicesOnly (queueNightly ++ claimNightly 1 firstUuid) ++
    (callStore 2 (.markSucceeded nightlyRunId 8 none none none)).take 1

/-- Calls that come too late: unfenced, fenced by the claim, and of nobody. -/
def lateCalls : List StoreStep :=
  callStore 3 (.markFailed nightlyRunId 9 none none none) ++
    callStore 4 (.touchHeartbeat nightlyRunId (some "first") 9) ++
    callStore 5 (.markCancelled nightlyRunId 9 none none)

/-- The unfenced write succeeds along an edge; the late calls change nothing. -/
theorem run_state_machine_lateCalls :
    ∃ pool next before after final,
      storeSystem.run? (StorePool.initial ∅) succeedUnfenced = some pool ∧
        storeSystem.step? pool (2, .inr .proceed) = some next ∧
        pool.shared.row nightlyRunId = some before ∧
        next.shared.row nightlyRunId = some after ∧
        (after.state = before.state ∨
          RunState.Edge before.state after.state) ∧
        storeSystem.run? next lateCalls = some final ∧
        final.shared.row nightlyRunId = some after := by
  have enabled :
      ((storeSystem.run? (StorePool.initial ∅) succeedUnfenced).bind
        fun pool =>
          (storeSystem.step? pool (2, .inr .proceed)).bind fun next =>
            (storeSystem.run? next lateCalls).bind fun _ =>
              (pool.shared.row nightlyRunId).bind fun before =>
                (next.shared.row nightlyRunId).map fun after =>
                  (before.state, after.state)) =
        some (.running, .succeeded) := by
    decide
  obtain ⟨pool, ran, rest⟩ := Option.bind_eq_some_iff.mp enabled
  obtain ⟨next, stepped, rest⟩ := Option.bind_eq_some_iff.mp rest
  obtain ⟨final, ranLate, rest⟩ := Option.bind_eq_some_iff.mp rest
  obtain ⟨before, found, rest⟩ := Option.bind_eq_some_iff.mp rest
  obtain ⟨after, storedAfter, states⟩ := Option.map_eq_some_iff.mp rest
  obtain ⟨-, succeeded⟩ := Prod.mk.inj states
  have reachable : Reachable ∅ pool := ⟨_, ran⟩
  obtain ⟨_, stored, edge⟩ :=
    (run_state_machine_and_terminal_freeze reachable).1 stepped found
  obtain rfl := Option.some.inj (storedAfter.symm.trans stored)
  have frozen :=
    (run_state_machine_and_terminal_freeze (reachable.step stepped)).2
      ranLate stored (.inl succeeded)
  exact ⟨pool, next, before, after, final, ran, stepped, found, stored,
    edge, ranLate, frozen⟩

end StorePool

end IgaScheduler

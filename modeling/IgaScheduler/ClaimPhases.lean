import IgaScheduler.DispatchFencing

namespace IgaScheduler

open Relational Interleaving

/-!
# The phases of a claim

A claim of a run goes through phases and never back: the run is `RUNNING` for
its worker, then it may be `CANCELLING`, then the claim is over.  Identifiers
are fresh, so a claim that is over is never taken up again, and a run found in
the phase it was in before has not left it in between.
-/

/-- How far the claim `dispatchId` of a run has come: 2 when it is over. -/
def JobRun.phase
    (dispatchId : String)
    (row : JobRun) :
    Nat :=
  if row.dispatchId = some dispatchId then
    match row.state with
    | .running => 0
    | .cancelling => 1
    | _ => 2
  else
    2

namespace JobRun

variable {dispatchId : String}
variable {row before between after : JobRun}

theorem phase_of_running
    (bears : row.dispatchId = some dispatchId)
    (running : row.state = .running) :
    row.phase dispatchId = 0 := by
  simp [phase, bears, running]

theorem phase_of_cancelling
    (bears : row.dispatchId = some dispatchId)
    (cancelling : row.state = .cancelling) :
    row.phase dispatchId = 1 := by
  simp [phase, bears, cancelling]

/-- The claim is over when the row bears another one. -/
theorem phase_of_other
    (other : row.dispatchId ≠ some dispatchId) :
    row.phase dispatchId = 2 :=
  if_neg other

/-- The claim is over when nobody works for it. -/
theorem phase_of_idle
    (notRunning : row.state ≠ .running)
    (notCancelling : row.state ≠ .cancelling) :
    row.phase dispatchId = 2 := by
  unfold phase
  split
  · cases state : row.state with
    | running =>
        exact (notRunning state).elim
    | cancelling =>
        exact (notCancelling state).elim
    | queued | succeeded | failed | cancelled =>
        rfl
  · rfl

theorem phase_le : row.phase dispatchId ≤ 2 := by
  unfold phase
  split
  · split <;> decide
  · exact le_refl 2

theorem phase_eq_zero :
    row.phase dispatchId = 0 ↔
      row.dispatchId = some dispatchId ∧ row.state = .running := by
  constructor
  · intro running
    by_cases bears : row.dispatchId = some dispatchId
    · refine ⟨bears, ?_⟩
      cases state : row.state <;> simp [phase, bears, state] at running
      rfl
    · simp [phase_of_other bears] at running
  · rintro ⟨bears, running⟩
    exact phase_of_running bears running

theorem phase_eq_one :
    row.phase dispatchId = 1 ↔
      row.dispatchId = some dispatchId ∧ row.state = .cancelling := by
  constructor
  · intro cancelling
    by_cases bears : row.dispatchId = some dispatchId
    · refine ⟨bears, ?_⟩
      cases state : row.state <;> simp [phase, bears, state] at cancelling
      rfl
    · simp [phase_of_other bears] at cancelling
  · rintro ⟨bears, cancelling⟩
    exact phase_of_cancelling bears cancelling

/-- The phase of an open claim tells its state. -/
theorem same_of_phase
    (same : before.phase dispatchId = after.phase dispatchId)
    (ongoing : after.phase dispatchId < 2) :
    before.state = after.state ∧ before.dispatchId = after.dispatchId := by
  have phases :
      after.phase dispatchId = 0 ∨ after.phase dispatchId = 1 :=
    Nat.le_one_iff_eq_zero_or_eq_one.mp (Nat.lt_succ_iff.mp ongoing)
  rcases phases with running | cancelling
  · obtain ⟨bears, state⟩ := phase_eq_zero.mp running
    obtain ⟨bore, was⟩ := phase_eq_zero.mp (same.trans running)
    exact ⟨was.trans state.symm, bore.trans bears.symm⟩
  · obtain ⟨bears, state⟩ := phase_eq_one.mp cancelling
    obtain ⟨bore, was⟩ := phase_eq_one.mp (same.trans cancelling)
    exact ⟨was.trans state.symm, bore.trans bears.symm⟩

/-- The run is being cancelled or has been. -/
def CancelRequested (row : JobRun) : Prop :=
  row.state = .cancelling ∨ row.state = .cancelled

/--
A claim goes on and keeps its start while it stays in one phase; a requested
cancellation is never taken back.
-/
structure ClaimAdvances
    (dispatchId : String)
    (before after : JobRun) :
    Prop where
  phase : before.phase dispatchId ≤ after.phase dispatchId
  startedAt :
    after.phase dispatchId < 2 →
      before.phase dispatchId = after.phase dispatchId →
      after.startedAt = before.startedAt
  requested :
    before.CancelRequested →
      after.CancelRequested ∧ after.dispatchId = before.dispatchId

namespace ClaimAdvances

theorem refl (dispatchId : String) (row : JobRun) :
    ClaimAdvances dispatchId row row :=
  ⟨le_refl _, fun _ _ => rfl, fun requested => ⟨requested, rfl⟩⟩

theorem trans
    (first : ClaimAdvances dispatchId before between)
    (second : ClaimAdvances dispatchId between after) :
    ClaimAdvances dispatchId before after where
  phase := first.phase.trans second.phase
  startedAt := by
    intro ongoing same
    have firstSame :
        before.phase dispatchId = between.phase dispatchId :=
      le_antisymm first.phase (same.symm ▸ second.phase)
    have secondSame :
        between.phase dispatchId = after.phase dispatchId :=
      firstSame.symm.trans same
    rw [second.startedAt ongoing secondSame]
    exact first.startedAt (secondSame ▸ ongoing) firstSame
  requested := by
    intro requested
    obtain ⟨still, bears⟩ := first.requested requested
    obtain ⟨stays, bearing⟩ := second.requested still
    exact ⟨stays, bearing.trans bears⟩

/-- A claim that is over afterwards has gone on, whatever it was before. -/
theorem of_over
    (ended : after.phase dispatchId = 2)
    (requested :
      before.CancelRequested →
        after.CancelRequested ∧ after.dispatchId = before.dispatchId) :
    ClaimAdvances dispatchId before after where
  phase := ended ▸ phase_le
  startedAt := fun ongoing => by
    rw [ended] at ongoing
    exact (lt_irrefl 2 ongoing).elim
  requested := requested

/-- A write that keeps identifier, state and start keeps the claim as it is. -/
theorem of_kept
    (sameDispatchId : after.dispatchId = before.dispatchId)
    (sameState : after.state = before.state)
    (sameStart : after.startedAt = before.startedAt) :
    ClaimAdvances dispatchId before after where
  phase := by
    simp [JobRun.phase, sameDispatchId, sameState]
  startedAt := fun _ _ => sameStart
  requested := fun requested =>
    ⟨by rwa [CancelRequested, sameState], sameDispatchId⟩

/-- A claim that is found in the phase it was in has never left it. -/
theorem between_same
    (first : ClaimAdvances dispatchId before between)
    (second : ClaimAdvances dispatchId between after)
    (same : before.phase dispatchId = after.phase dispatchId)
    (ongoing : after.phase dispatchId < 2) :
    between.state = after.state ∧
      between.dispatchId = after.dispatchId ∧
      between.startedAt = after.startedAt := by
  have later :
      between.phase dispatchId = after.phase dispatchId :=
    le_antisymm second.phase (same ▸ first.phase)
  obtain ⟨state, bears⟩ := same_of_phase later ongoing
  exact ⟨state, bears, (second.startedAt ongoing later).symm⟩

end ClaimAdvances

end JobRun

/-- An admitted write takes every claim forward that it does not mint. -/
theorem RunWrite.claimAdvances
    (write : RunWrite)
    {row : JobRun}
    {dispatchId : String}
    (admitted : write.update.guard row = true)
    (notMinted :
      ∀ minted ∈ write.minted?, minted.text ≠ dispatchId) :
    JobRun.ClaimAdvances dispatchId row (write.update.set row) := by
  have source := RunWrite.state_mem_sources admitted
  have vacuous
      {claim : Prop}
      (elsewhere : ∀ state ∈ write.sources,
        state ≠ .cancelling ∧ state ≠ .cancelled)
      (requested : row.CancelRequested) :
      claim := by
    obtain ⟨notCancelling, notCancelled⟩ := elsewhere row.state source
    rcases requested with cancelling | cancelled
    · exact (notCancelling cancelling).elim
    · exact (notCancelled cancelled).elim
  cases write with
  | claimRun startedAt status minted =>
      refine .of_over (JobRun.phase_of_other ?_)
        (vacuous (by simp [RunWrite.sources]))
      intro bears
      exact notMinted minted rfl (Option.some.inj bears)
  | recordRuntimeExecution | touchHeartbeat =>
      exact .of_kept rfl rfl rfl
  | cancelRunning =>
      have running : row.state = .running := by
        simpa [RunWrite.sources] using source
      by_cases bears : row.dispatchId = some dispatchId
      · refine ⟨?_, fun _ _ => rfl,
          vacuous (by simp [RunWrite.sources])⟩
        rw [JobRun.phase_of_running bears running]
        exact Nat.zero_le _
      · exact .of_over (JobRun.phase_of_other bears)
          (vacuous (by simp [RunWrite.sources]))
  | retry | markSucceeded | markFailed | cancelQueued =>
      refine .of_over (JobRun.phase_of_idle ?_ ?_)
        (vacuous (by simp [RunWrite.sources]))
      · simp [RunWrite.target]
      · simp [RunWrite.target]
  | markCancelled | killed =>
      refine .of_over (JobRun.phase_of_idle ?_ ?_)
        (fun _ => ⟨.inr rfl, rfl⟩)
      · simp [RunWrite.target]
      · simp [RunWrite.target]

namespace RunPool

/-- No step takes a claim that has been made back to an earlier phase. -/
theorem Reachable.claimAdvances_step
    {rows : JobRuns}
    {pool next : RunPool}
    {label : Label RunInput}
    {runId dispatchId : String}
    {before : JobRun}
    (reachable : Reachable rows pool)
    (stepped : runSystem.step? pool label = some next)
    (granted : .granted dispatchId ∈ pool.shared.history runId)
    (found : pool.shared.row runId = some before) :
    ∃ after,
      next.shared.row runId = some after ∧
        JobRun.ClaimAdvances dispatchId before after := by
  obtain ⟨statement, reply, events, issued, executed, -, -, effect⟩ :=
    reachable.runEffect stepped runId
  have fresh
      {minted : String}
      (granting : .granted minted ∈ events) :
      minted ≠ dispatchId := by
    rintro rfl
    exact reachable.events_fresh issued executed effect granting granted
  rw [found] at effect
  generalize next.shared.row runId = result at effect ⊢
  cases effect with
  | kept =>
      exact ⟨before, rfl, .refl dispatchId before⟩
  | created document sameRun absent =>
      cases absent
  | written write row stored admitted =>
      cases stored
      refine ⟨_, rfl, write.claimAdvances admitted ?_⟩
      intro minted member
      cases write with
      | claimRun startedAt status token =>
          cases member
          exact fresh (List.mem_singleton.mpr rfl)
      | retry nextAttempt token nowIso now =>
          cases member
          rintro rfl
          exact (RunDatabase.exec_eq_some executed).1 minted.text
            (List.mem_singleton.mpr rfl)
            (reachable.granted_minted granted).1
      | _ =>
          cases member
  | published claimed row startedAt token stored isQueued member =>
      cases stored
      refine ⟨_, rfl,
        RunWrite.claimAdvances (.claimRun startedAt none token)
          (decide_eq_true isQueued) ?_⟩
      rintro minted ⟨⟩
      exact fresh (List.mem_singleton.mpr rfl)

/-- Claims that have been made stay in the history of their run. -/
theorem granted_step
    {pool next : RunPool}
    {label : Label RunInput}
    {runId dispatchId : String}
    (stepped : runSystem.step? pool label = some next)
    (granted : .granted dispatchId ∈ pool.shared.history runId) :
    .granted dispatchId ∈ next.shared.history runId := by
  obtain ⟨statement, reply, -, executed, -⟩ := step_moves stepped
  rw [RunDatabase.exec_history executed]
  exact List.mem_append_right _ granted

/-- Along a run, a claim that has been made never goes back. -/
theorem Reachable.claimAdvances
    {rows : JobRuns}
    {pool final : RunPool}
    {schedule : List (Label RunInput)}
    {runId dispatchId : String}
    {before : JobRun}
    (reachable : Reachable rows pool)
    (granted : .granted dispatchId ∈ pool.shared.history runId)
    (found : pool.shared.row runId = some before)
    (ran : runSystem.run? pool schedule = some final) :
    ∃ after,
      final.shared.row runId = some after ∧
        JobRun.ClaimAdvances dispatchId before after := by
  have carried :
      Reachable rows final ∧
        .granted dispatchId ∈ final.shared.history runId ∧
        ∃ after,
          final.shared.row runId = some after ∧
            JobRun.ClaimAdvances dispatchId before after := by
    refine System.run?_invariant
      (fun visited =>
        Reachable rows visited ∧
          .granted dispatchId ∈ visited.shared.history runId ∧
          ∃ after,
            visited.shared.row runId = some after ∧
              JobRun.ClaimAdvances dispatchId before after)
      ⟨reachable, granted, before, found, .refl dispatchId before⟩ ?_ ran
    rintro visited next label ⟨reached, known, row, stored, advanced⟩
      stepped
    obtain ⟨after, written, advances⟩ :=
      reached.claimAdvances_step stepped known stored
    exact ⟨reached.step stepped, granted_step stepped known, after, written,
      advanced.trans advances⟩
  exact carried.2.2

end RunPool

end IgaScheduler

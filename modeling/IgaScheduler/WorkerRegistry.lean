import IgaScheduler.WorkerClaims

namespace IgaScheduler

open Relational Interleaving

/-!
# The registries of a pull worker

`owned` and `_activeByRunId` are keyed by the run alone, while two executions
of one run may overlap.  An execution that ends after a newer one of its run
has been tracked takes the newer one's entry with it; as long as that does not
happen, the execution that holds the claim of its run is found under it.
-/

namespace RunPool

/-- A claim that is in force has been in force since it was made. -/
theorem Reachable.holder_before
    {rows : JobRuns}
    {pool next : RunPool}
    {label : Label RunInput}
    {runId dispatchId : String}
    (allQueued :
      ∀ runId row, rows.lookup runId = some row → row.state = .queued)
    (reachable : Reachable rows pool)
    (stepped : runSystem.step? pool label = some next)
    (claimed : pool.shared.Claimed runId dispatchId)
    (held : Fencing.holder (next.shared.history runId) = some dispatchId) :
    Fencing.holder (pool.shared.history runId) = some dispatchId := by
  have distinct :=
    ((reachable.step stepped).fenced allQueued runId).distinct
  obtain ⟨_, _, _, executed, _⟩ := step_moves stepped
  rw [RunDatabase.exec_history executed] at distinct held
  exact Fencing.holder_of_append distinct
    (RunDatabase.claimed_iff_granted.mp claimed) held

end RunPool

namespace PullWorker

/-- The execution works for the claim of its run that is in force. -/
def HoldsClaim
    (worker : PullWorker)
    (execution : TrackedExecution) :
    Prop :=
  Fencing.holder (worker.runs.shared.history execution.runId) =
    some execution.dispatchId

/-- One execution has been tracked after another one of the same run. -/
def Newer
    (worker : PullWorker)
    (newer older : TrackedExecution) :
    Prop :=
  ∃ front back,
    worker.executions = front ++ older :: back ∧
      newer ∈ front ∧
      newer.runId = older.runId

/--
Every execution in flight that holds the claim of its run is the one that
heartbeats touch for this run, and the one whose live subprocess a cancel of
this run signals.
-/
def Registered (worker : PullWorker) : Prop :=
  ∀ execution ∈ worker.executions,
    (worker.runs.locals execution.process).settled = false →
    worker.HoldsClaim execution →
    worker.owned.lookup execution.runId = some execution.dispatchId ∧
      (execution.job = .alive →
        worker.cancel execution.runId =
          ({ worker with
              signalled := execution.process :: worker.signalled },
            .killed))

/-- The execution that an input ends, in the executor or in the poll loop. -/
def ending? : WorkerInput → Option Nat
  | .close process => some process
  | .cleanup process => some process
  | _ => none

/-- A step leaves the entries of newer executions than the one it ends. -/
def SparesNewer
    (maxConcurrency : Nat)
    (worker : PullWorker)
    (input : WorkerInput) :
    Prop :=
  ∀ {older newer : TrackedExecution} {next : PullWorker},
    ending? input = some older.process →
    worker.Newer newer older →
    worker.step maxConcurrency input = some next →
    (worker.owned.lookup newer.runId = some newer.dispatchId →
      next.owned.lookup newer.runId = some newer.dispatchId) ∧
    (worker.activeByRunId.lookup newer.runId = some newer.process →
      next.activeByRunId.lookup newer.runId = some newer.process)

/-- The registries are right in all states of a run and spared by its steps. -/
structure RegistriesKept
    (maxConcurrency : Nat)
    (rows : JobRuns)
    (inputs : List WorkerInput) :
    Prop where
  registered :
    ∀ {earlier later : List WorkerInput} {worker : PullWorker},
      inputs = earlier ++ later →
      Stepping.run? (step maxConcurrency) (initial rows) earlier =
        some worker →
      worker.Registered
  spared :
    Stepping.Along (step maxConcurrency) (SparesNewer maxConcurrency)
      (initial rows) inputs

/--
An execution is cleaned up while a newer one of its run is tracked, or it
spawns or loses its subprocess while that of a newer one is alive.
-/
def Overtaken
    (worker : PullWorker)
    (input : WorkerInput) :
    Prop :=
  ∃ older newer,
    worker.Newer newer older ∧
      (input = .cleanup older.process ∧ newer.cleaned = false ∨
        (input = .spawn older.process ∨ input = .close older.process) ∧
          newer.job = .alive)

/-- What `owned` holds. -/
structure OwnedTidy (worker : PullWorker) : Prop where
  holding :
    ∀ execution ∈ worker.executions,
      execution.cleaned = false →
      worker.HoldsClaim execution →
      worker.owned.lookup execution.runId = some execution.dispatchId
  entry :
    ∀ {runId dispatchId : String},
      worker.owned.lookup runId = some dispatchId →
      ∃ execution ∈ worker.executions,
        execution.claim = (runId, dispatchId) ∧ execution.cleaned = false

/-- What `_activeByRunId` holds. -/
structure ActiveTidy (worker : PullWorker) : Prop where
  holding :
    ∀ execution ∈ worker.executions,
      execution.job = .alive →
      worker.HoldsClaim execution →
      worker.activeByRunId.lookup execution.runId = some execution.process
  entry :
    ∀ {runId : String} {process : Nat},
      worker.activeByRunId.lookup runId = some process →
      ∃ execution ∈ worker.executions,
        execution.process = process ∧
          execution.runId = runId ∧
          execution.job = .alive

/-- An execution that holds its run's claim is newer than the others. -/
theorem newer_of_holdsClaim
    {rows : JobRuns}
    {worker : PullWorker}
    {pending : List (String × String)}
    {execution other : TrackedExecution}
    (allQueued :
      ∀ runId row, rows.lookup runId = some row → row.state = .queued)
    (coherent : Coherent rows worker)
    (ordered : worker.Ordered pending)
    (member : execution ∈ worker.executions)
    (memberOther : other ∈ worker.executions)
    (sameRun : execution.runId = other.runId)
    (different : execution.process ≠ other.process)
    (holds : worker.HoldsClaim execution) :
    worker.Newer execution other := by
  obtain ⟨front, back, shape⟩ := List.append_of_mem memberOther
  refine ⟨front, back, shape, ?_, sameRun⟩
  rw [shape] at member
  rcases List.mem_append.mp member with newer | older
  · exact newer
  · have tracked : worker.claims.Pairwise worker.runs.Follows :=
      (List.pairwise_append.mp ordered).2.1
    rw [claims, shape, List.map_append, List.map_cons] at tracked
    have following :=
      (List.pairwise_cons.mp (List.pairwise_append.mp tracked).2.1).1
    rcases List.mem_cons.mp older with rfl | behind
    · exact (different rfl).elim
    · have superseded :=
        (following _ (List.mem_map.mpr ⟨execution, behind, rfl⟩)).2
          sameRun.symm
      change Fencing.Superseded
        (worker.runs.shared.history other.runId) execution.dispatchId
        at superseded
      rw [← sameRun] at superseded
      exact (Fencing.holder_ne_of_superseded
        (coherent.reachable.fenced allQueued _).distinct superseded
        holds).elim

/-- An execution of the worker is told apart by its process. -/
theorem Coherent.same_of_process
    {rows : JobRuns}
    {worker : PullWorker}
    {first second : TrackedExecution}
    (coherent : Coherent rows worker)
    (member : first ∈ worker.executions)
    (memberSecond : second ∈ worker.executions)
    (same : first.process = second.process) :
    first = second :=
  List.inj_on_of_nodup_map coherent.apart member memberSecond same

/-- An execution of the worker is told apart by its identifier, too. -/
theorem Ordered.same_of_claim
    {worker : PullWorker}
    {pending : List (String × String)}
    {first second : TrackedExecution}
    (ordered : worker.Ordered pending)
    (member : first ∈ worker.executions)
    (memberSecond : second ∈ worker.executions)
    (same : first.claim = second.claim) :
    first = second := by
  have tracked : worker.claims.Pairwise worker.runs.Follows :=
    (List.pairwise_append.mp ordered).2.1
  have distinct : worker.claims.Nodup :=
    tracked.imp fun follows same => follows.1 (congrArg Prod.snd same)
  exact List.inj_on_of_nodup_map distinct member memberSecond same

/-- What stays of an execution when its record is changed. -/
structure Kept
    (change : TrackedExecution → TrackedExecution) :
    Prop where
  process : ∀ execution, (change execution).process = execution.process
  claim : ∀ execution, (change execution).claim = execution.claim

namespace Kept

variable {change : TrackedExecution → TrackedExecution}

theorem runId
    (kept : Kept change)
    (execution : TrackedExecution) :
    (change execution).runId = execution.runId :=
  congrArg Prod.fst (kept.claim execution)

theorem holdsClaim
    {worker : PullWorker}
    {execution : TrackedExecution}
    (kept : Kept change) :
    worker.HoldsClaim (change execution) ↔ worker.HoldsClaim execution := by
  have sameToken : (change execution).dispatchId = execution.dispatchId :=
    congrArg Prod.snd (kept.claim execution)
  rw [HoldsClaim, HoldsClaim, kept.runId, sameToken]

end Kept

/-- The newest execution of a run is the one that holds its claim. -/
theorem superseded_of_track
    {rows : JobRuns}
    {worker : PullWorker}
    {pending : List (String × String)}
    {newest execution : TrackedExecution}
    {older : List TrackedExecution}
    (allQueued :
      ∀ runId row, rows.lookup runId = some row → row.state = .queued)
    (coherent : Coherent rows worker)
    (ordered : worker.Ordered pending)
    (shape : worker.executions = newest :: older)
    (member : execution ∈ older)
    (sameRun : execution.runId = newest.runId) :
    ¬ worker.HoldsClaim execution := by
  intro holds
  have tracked : worker.claims.Pairwise worker.runs.Follows :=
    (List.pairwise_append.mp ordered).2.1
  rw [claims, shape, List.map_cons] at tracked
  have superseded :=
    ((List.pairwise_cons.mp tracked).1 _
      (List.mem_map.mpr ⟨execution, member, rfl⟩)).2 sameRun.symm
  change Fencing.Superseded
    (worker.runs.shared.history newest.runId) execution.dispatchId
    at superseded
  rw [← sameRun] at superseded
  exact Fencing.holder_ne_of_superseded
    (coherent.reachable.fenced allQueued _).distinct superseded holds

namespace OwnedTidy

variable {rows : JobRuns} {worker : PullWorker}

theorem runs
    {runs : RunPool}
    {label : Label RunInput}
    (allQueued :
      ∀ runId row, rows.lookup runId = some row → row.state = .queued)
    (coherent : Coherent rows worker)
    (tidy : worker.OwnedTidy)
    (stepped : runSystem.step? worker.runs label = some runs) :
    OwnedTidy { worker with runs := runs } where
  holding := by
    intro execution member tracked holds
    exact tidy.holding execution member tracked
      (coherent.reachable.holder_before allQueued stepped
        (coherent.claimed _ (mem_claims member)) holds)
  entry := tidy.entry

/-- The tracked execution replaces the entry of older ones. -/
theorem track
    {next : PullWorker}
    {claim : (String × String) × Nat}
    {rest : List (String × String)}
    (allQueued :
      ∀ runId row, rows.lookup runId = some row → row.state = .queued)
    (coherent : Coherent rows worker)
    (ordered : worker.Ordered (claim.1 :: rest))
    (tidy : worker.OwnedTidy)
    (tracked : worker.track claim = some next) :
    next.OwnedTidy := by
  have coherentNext := coherent.track tracked
  have orderedNext := ordered.track tracked
  obtain ⟨⟨runId, dispatchId⟩, process⟩ := claim
  obtain ⟨runs, stepped, rfl⟩ := track_eq_some tracked
  have kept := tidy.runs allQueued coherent stepped
  constructor
  · intro execution member uncleaned holds
    change (worker.owned.insert runId dispatchId).lookup _ = _
    rcases List.mem_cons.mp member with rfl | earlier
    · exact AList.lookup_insert _
    · by_cases sameRun : execution.runId = runId
      · exact (superseded_of_track allQueued coherentNext orderedNext rfl
          earlier sameRun holds).elim
      · rw [AList.lookup_insert_ne sameRun]
        exact kept.holding execution earlier uncleaned holds
  · intro otherRun otherToken found
    change (worker.owned.insert runId dispatchId).lookup _ = _ at found
    by_cases sameRun : otherRun = runId
    · subst sameRun
      rw [AList.lookup_insert] at found
      cases found
      exact ⟨_, List.mem_cons_self, rfl, rfl⟩
    · rw [AList.lookup_insert_ne sameRun] at found
      obtain ⟨execution, member, known⟩ := kept.entry found
      exact ⟨execution, List.mem_cons_of_mem _ member, known⟩

/-- What happens to a subprocess does not concern `owned`. -/
theorem setExecution
    {process : Nat}
    {change : TrackedExecution → TrackedExecution}
    (activeByRunId : Table String Nat)
    (tidy : worker.OwnedTidy)
    (kept : Kept change)
    (cleaned :
      ∀ execution, (change execution).cleaned = execution.cleaned) :
    OwnedTidy
      { worker with
        activeByRunId := activeByRunId
        executions := worker.setExecution process change } := by
  constructor
  · intro execution member uncleaned holds
    obtain ⟨before, tracked, rfl⟩ := mem_setExecution.mp member
    by_cases own : before.process = process
    · rw [if_pos own] at uncleaned holds ⊢
      rw [cleaned] at uncleaned
      have entry :=
        tidy.holding before tracked uncleaned (kept.holdsClaim.mp holds)
      rw [kept.runId]
      exact entry.trans
        (congrArg some (congrArg Prod.snd (kept.claim before)).symm)
    · rw [if_neg own] at uncleaned holds ⊢
      exact tidy.holding before tracked uncleaned holds
  · intro runId dispatchId found
    obtain ⟨before, tracked, shape, uncleaned⟩ := tidy.entry found
    refine ⟨_, mem_setExecution.mpr ⟨before, tracked, rfl⟩, ?_⟩
    by_cases own : before.process = process
    · rw [if_pos own, kept.claim, cleaned]
      exact ⟨shape, uncleaned⟩
    · rw [if_neg own]
      exact ⟨shape, uncleaned⟩

/-- An execution that is not overtaken takes its own entry out. -/
theorem cleanup
    {process : Nat}
    {execution : TrackedExecution}
    (allQueued :
      ∀ runId row, rows.lookup runId = some row → row.state = .queued)
    (coherent : Coherent rows worker)
    (ordered : worker.Ordered worker.untracked)
    (tidy : worker.OwnedTidy)
    (found : worker.execution? process = some execution)
    (newest : ¬ worker.Overtaken (.cleanup process)) :
    OwnedTidy
      { worker with
        owned := worker.owned.erase execution.runId
        executions := worker.setExecution process fun settled =>
          { settled with cleaned := true } } := by
  obtain ⟨member, rfl⟩ := mem_of_execution? found
  constructor
  · intro changed memberChanged uncleaned holds
    obtain ⟨before, tracked, rfl⟩ := mem_setExecution.mp memberChanged
    change (worker.owned.erase execution.runId).lookup _ = _
    by_cases own : before.process = execution.process
    · rw [if_pos own] at uncleaned
      cases uncleaned
    · rw [if_neg own] at uncleaned holds ⊢
      by_cases sameRun : before.runId = execution.runId
      · have newer := newer_of_holdsClaim allQueued coherent ordered
          tracked member sameRun own holds
        exact (newest
          ⟨execution, before, newer, .inl ⟨rfl, uncleaned⟩⟩).elim
      · rw [AList.lookup_erase_ne sameRun]
        exact tidy.holding before tracked uncleaned holds
  · intro runId dispatchId entry
    change (worker.owned.erase execution.runId).lookup _ = _ at entry
    by_cases sameRun : runId = execution.runId
    · rw [sameRun, AList.lookup_erase] at entry
      cases entry
    · rw [AList.lookup_erase_ne sameRun] at entry
      obtain ⟨before, tracked, shape, uncleaned⟩ := tidy.entry entry
      have different : before.process ≠ execution.process := by
        intro own
        cases coherent.same_of_process tracked member own
        exact sameRun (congrArg Prod.fst shape).symm
      refine ⟨_, mem_setExecution.mpr ⟨before, tracked, rfl⟩, ?_⟩
      rw [if_neg different]
      exact ⟨shape, uncleaned⟩

end OwnedTidy

namespace ActiveTidy

variable {rows : JobRuns} {worker : PullWorker}

theorem runs
    {runs : RunPool}
    {label : Label RunInput}
    (allQueued :
      ∀ runId row, rows.lookup runId = some row → row.state = .queued)
    (coherent : Coherent rows worker)
    (tidy : worker.ActiveTidy)
    (stepped : runSystem.step? worker.runs label = some runs) :
    ActiveTidy { worker with runs := runs } where
  holding := by
    intro execution member alive holds
    exact tidy.holding execution member alive
      (coherent.reachable.holder_before allQueued stepped
        (coherent.claimed _ (mem_claims member)) holds)
  entry := tidy.entry

/-- A tracked execution has no subprocess yet. -/
theorem track
    {next : PullWorker}
    {claim : (String × String) × Nat}
    (allQueued :
      ∀ runId row, rows.lookup runId = some row → row.state = .queued)
    (coherent : Coherent rows worker)
    (tidy : worker.ActiveTidy)
    (tracked : worker.track claim = some next) :
    next.ActiveTidy := by
  obtain ⟨runs, stepped, rfl⟩ := track_eq_some tracked
  have kept := tidy.runs allQueued coherent stepped
  constructor
  · intro execution member alive holds
    rcases List.mem_cons.mp member with rfl | earlier
    · cases alive
    · exact kept.holding execution earlier alive holds
  · intro runId process found
    obtain ⟨execution, member, known⟩ := kept.entry found
    exact ⟨execution, List.mem_cons_of_mem _ member, known⟩

/-- A cleanup does not concern `_activeByRunId`. -/
theorem setExecution
    {process : Nat}
    {change : TrackedExecution → TrackedExecution}
    (owned : Table String String)
    (tidy : worker.ActiveTidy)
    (kept : Kept change)
    (job : ∀ execution, (change execution).job = execution.job) :
    ActiveTidy
      { worker with
        owned := owned
        executions := worker.setExecution process change } := by
  constructor
  · intro execution member alive holds
    obtain ⟨before, tracked, rfl⟩ := mem_setExecution.mp member
    by_cases own : before.process = process
    · rw [if_pos own] at alive holds ⊢
      rw [job] at alive
      rw [kept.runId, kept.process]
      exact tidy.holding before tracked alive (kept.holdsClaim.mp holds)
    · rw [if_neg own] at alive holds ⊢
      exact tidy.holding before tracked alive holds
  · intro runId other found
    obtain ⟨before, tracked, owner, sameRun, alive⟩ := tidy.entry found
    refine ⟨_, mem_setExecution.mpr ⟨before, tracked, rfl⟩, ?_⟩
    by_cases own : before.process = process
    · rw [if_pos own, kept.process, kept.runId, job]
      exact ⟨owner, sameRun, alive⟩
    · rw [if_neg own]
      exact ⟨owner, sameRun, alive⟩

/-- The entries of other runs than that of a changed execution stay right. -/
theorem entry_other
    {change : TrackedExecution → TrackedExecution}
    {execution : TrackedExecution}
    {runId : String}
    {process : Nat}
    (coherent : Coherent rows worker)
    (tidy : worker.ActiveTidy)
    (member : execution ∈ worker.executions)
    (otherRun : runId ≠ execution.runId)
    (found : worker.activeByRunId.lookup runId = some process) :
    ∃ after ∈ worker.setExecution execution.process change,
      after.process = process ∧
        after.runId = runId ∧
        after.job = .alive := by
  obtain ⟨before, tracked, rfl, rfl, alive⟩ := tidy.entry found
  have different : before.process ≠ execution.process := by
    intro own
    exact otherRun (congrArg TrackedExecution.runId
      (coherent.same_of_process tracked member own))
  refine ⟨_, mem_setExecution.mpr ⟨before, tracked, rfl⟩, ?_⟩
  rw [if_neg different]
  exact ⟨rfl, rfl, alive⟩

/-- The newest subprocess of a run replaces the entry of older ones. -/
theorem spawn
    {process : Nat}
    {execution : TrackedExecution}
    (allQueued :
      ∀ runId row, rows.lookup runId = some row → row.state = .queued)
    (coherent : Coherent rows worker)
    (ordered : worker.Ordered worker.untracked)
    (tidy : worker.ActiveTidy)
    (found : worker.execution? process = some execution)
    (newest : ¬ worker.Overtaken (.spawn process)) :
    ActiveTidy
      { worker with
        activeByRunId := worker.activeByRunId.insert execution.runId process
        executions := worker.setExecution process fun spawned =>
          { spawned with job := .alive } } := by
  obtain ⟨member, rfl⟩ := mem_of_execution? found
  constructor
  · intro changed memberChanged alive holds
    obtain ⟨before, tracked, rfl⟩ := mem_setExecution.mp memberChanged
    change (worker.activeByRunId.insert execution.runId _).lookup _ = _
    by_cases own : before.process = execution.process
    · cases coherent.same_of_process tracked member own
      rw [if_pos rfl]
      exact AList.lookup_insert _
    · rw [if_neg own] at alive holds ⊢
      by_cases sameRun : before.runId = execution.runId
      · have newer := newer_of_holdsClaim allQueued coherent ordered
          tracked member sameRun own holds
        exact (newest
          ⟨execution, before, newer, .inr ⟨.inl rfl, alive⟩⟩).elim
      · rw [AList.lookup_insert_ne sameRun]
        exact tidy.holding before tracked alive holds
  · intro runId other entry
    change (worker.activeByRunId.insert execution.runId _).lookup _ = _
      at entry
    by_cases sameRun : runId = execution.runId
    · subst sameRun
      rw [AList.lookup_insert] at entry
      cases entry
      refine ⟨_, mem_setExecution.mpr ⟨execution, member, rfl⟩, ?_⟩
      rw [if_pos rfl]
      exact ⟨rfl, rfl, rfl⟩
    · rw [AList.lookup_insert_ne sameRun] at entry
      exact tidy.entry_other coherent member sameRun entry

/-- A subprocess that is not overtaken takes its own entry out. -/
theorem close
    {process : Nat}
    {execution : TrackedExecution}
    (allQueued :
      ∀ runId row, rows.lookup runId = some row → row.state = .queued)
    (coherent : Coherent rows worker)
    (ordered : worker.Ordered worker.untracked)
    (tidy : worker.ActiveTidy)
    (found : worker.execution? process = some execution)
    (newest : ¬ worker.Overtaken (.close process)) :
    ActiveTidy
      { worker with
        activeByRunId := worker.activeByRunId.erase execution.runId
        executions := worker.setExecution process fun ended =>
          { ended with job := .closed } } := by
  obtain ⟨member, rfl⟩ := mem_of_execution? found
  constructor
  · intro changed memberChanged alive holds
    obtain ⟨before, tracked, rfl⟩ := mem_setExecution.mp memberChanged
    change (worker.activeByRunId.erase execution.runId).lookup _ = _
    by_cases own : before.process = execution.process
    · rw [if_pos own] at alive
      cases alive
    · rw [if_neg own] at alive holds ⊢
      by_cases sameRun : before.runId = execution.runId
      · have newer := newer_of_holdsClaim allQueued coherent ordered
          tracked member sameRun own holds
        exact (newest
          ⟨execution, before, newer, .inr ⟨.inr rfl, alive⟩⟩).elim
      · rw [AList.lookup_erase_ne sameRun]
        exact tidy.holding before tracked alive holds
  · intro runId other entry
    change (worker.activeByRunId.erase execution.runId).lookup _ = _
      at entry
    by_cases sameRun : runId = execution.runId
    · rw [sameRun, AList.lookup_erase] at entry
      cases entry
    · rw [AList.lookup_erase_ne sameRun] at entry
      exact tidy.entry_other coherent member sameRun entry

end ActiveTidy

/-- A batch of executions is tracked. -/
theorem tidy_trackAll
    {rows : JobRuns}
    {worker next : PullWorker}
    {claimed : List ((String × String) × Nat)}
    (allQueued :
      ∀ runId row, rows.lookup runId = some row → row.state = .queued)
    (coherent : Coherent rows worker)
    (ordered : worker.Ordered (claimed.map Prod.fst))
    (owned : worker.OwnedTidy)
    (active : worker.ActiveTidy)
    (tracked : Stepping.run? PullWorker.track worker claimed = some next) :
    next.OwnedTidy ∧ next.ActiveTidy := by
  induction claimed generalizing worker with
  | nil =>
      cases tracked
      exact ⟨owned, active⟩
  | cons claim rest inductionHypothesis =>
      obtain ⟨middle, first, later⟩ := Stepping.run?_cons.mp tracked
      exact inductionHypothesis (coherent.track first)
        (ordered.track first) (owned.track allQueued coherent ordered first)
        (active.track allQueued coherent first) later

/-- As long as nobody is overtaken, every step keeps the registries tidy. -/
theorem tidy_move
    {rows : JobRuns}
    {maxConcurrency : Nat}
    {worker next : PullWorker}
    {input : WorkerInput}
    (allQueued :
      ∀ runId row, rows.lookup runId = some row → row.state = .queued)
    (coherent : Coherent rows worker)
    (ordered : worker.Ordered worker.untracked)
    (owned : worker.OwnedTidy)
    (active : worker.ActiveTidy)
    (newest : ¬ worker.Overtaken input)
    (moved : Move maxConcurrency worker input next) :
    next.OwnedTidy ∧ next.ActiveTidy := by
  cases moved with
  | statement label runs allowed stepped =>
      exact ⟨owned.runs allQueued coherent stepped,
        active.runs allQueued coherent stepped⟩
  | poll process startedAt runs running idle stepped =>
      have ownedRuns := owned.runs allQueued coherent stepped
      have activeRuns := active.runs allQueued coherent stepped
      exact ⟨⟨ownedRuns.holding, ownedRuns.entry⟩,
        ⟨activeRuns.holding, activeRuns.entry⟩⟩
  | track processes process claimed _ polling returned aligned tracked =>
      have pending : worker.untracked = claimed := by
        simp [untracked, polling, returned]
      refine tidy_trackAll allQueued (coherent.answered polling returned) ?_
        ⟨owned.holding, owned.entry⟩ ⟨active.holding, active.entry⟩ tracked
      rw [List.map_fst_zip aligned.le, ← pending]
      exact ordered
  | spawn process execution found executing unspawned =>
      exact ⟨owned.setExecution _ ⟨fun _ => rfl, fun _ => rfl⟩
          (fun _ => rfl),
        active.spawn allQueued coherent ordered found newest⟩
  | close process execution found alive =>
      exact ⟨owned.setExecution _ ⟨fun _ => rfl, fun _ => rfl⟩
          (fun _ => rfl),
        active.close allQueued coherent ordered found newest⟩
  | cleanup process execution found settled tracked =>
      exact ⟨owned.cleanup allQueued coherent ordered found newest,
        active.setExecution _ ⟨fun _ => rfl, fun _ => rfl⟩
          (fun _ => rfl)⟩
  | touch index process heartbeatAt arguments runs heartbeats stepped =>
      have ownedRuns := owned.runs allQueued coherent stepped
      have activeRuns := active.runs allQueued coherent stepped
      exact ⟨⟨ownedRuns.holding, ownedRuns.entry⟩,
        ⟨activeRuns.holding, activeRuns.entry⟩⟩
  | heartbeat | answer | stop | drain | resolve | expire =>
      exact ⟨⟨owned.holding, owned.entry⟩,
        ⟨active.holding, active.entry⟩⟩

/-- The records and the registries in every state of a run without overtaking. -/
theorem tidy_of_run
    {rows : JobRuns}
    {maxConcurrency : Nat}
    {worker : PullWorker}
    {inputs : List WorkerInput}
    (allQueued :
      ∀ runId row, rows.lookup runId = some row → row.state = .queued)
    (newest :
      Stepping.Along (step maxConcurrency)
        (fun visited input => ¬ visited.Overtaken input)
        (initial rows) inputs)
    (ran :
      Stepping.run? (step maxConcurrency) (initial rows) inputs =
        some worker) :
    Coherent rows worker ∧ worker.OwnedTidy ∧ worker.ActiveTidy := by
  have kept :
      (Coherent rows worker ∧ worker.Ordered worker.untracked) ∧
        worker.OwnedTidy ∧ worker.ActiveTidy := by
    refine Stepping.run?_invariant _
      (fun visited =>
        (Coherent rows visited ∧ visited.Ordered visited.untracked) ∧
          visited.OwnedTidy ∧ visited.ActiveTidy) ?_ ?_ newest ran
    · have atStart :
          Stepping.run? (step maxConcurrency) (initial rows) [] =
            some (initial rows) :=
        rfl
      refine ⟨records atStart, ⟨?_, ?_⟩, ⟨?_, ?_⟩⟩
      · intro execution member
        cases member
      · intro runId dispatchId found
        cases found
      · intro execution member
        cases member
      · intro runId process found
        cases found
    · rintro visited next input ⟨⟨coherent, ordered⟩, owned, active⟩
        undisturbed stepped
      have moved := move_of_step stepped
      exact ⟨⟨coherent.move moved, Ordered.move coherent ordered moved⟩,
        tidy_move allQueued coherent ordered owned active undisturbed moved⟩
  exact ⟨kept.1.1, kept.2⟩

/--
When every run starts out `QUEUED`: in a run of the worker in which no
execution is overtaken by a newer one of its run, every execution in flight
that holds its run's claim is registered under it, in all states, and no
execution that ends takes the entry of a newer one with it.
-/
theorem registries_kept
    {rows : JobRuns}
    {maxConcurrency : Nat}
    {inputs : List WorkerInput}
    (allQueued :
      ∀ runId row, rows.lookup runId = some row → row.state = .queued)
    (newest :
      Stepping.Along (step maxConcurrency)
        (fun worker input => ¬ worker.Overtaken input)
        (initial rows) inputs) :
    RegistriesKept maxConcurrency rows inputs := by
  constructor
  · rintro earlier later worker rfl ran execution member inFlight holds
    obtain ⟨coherent, owned, active⟩ :=
      tidy_of_run allQueued newest.earlier ran
    have uncleaned : execution.cleaned = false := by
      by_contra cleaned
      have settled :=
        coherent.settled execution member (by simpa using cleaned)
      rw [inFlight] at settled
      cases settled
    refine ⟨owned.holding execution member uncleaned holds, fun alive => ?_⟩
    have entry := active.holding execution member alive holds
    simp only [cancel, entry]
  · rintro earlier later input worker rfl ran older newer next ending
      overtaking stepped
    have ordered := (records ran).2
    obtain ⟨coherent, owned, active⟩ :=
      tidy_of_run allQueued newest.earlier ran
    have undisturbed := newest rfl ran
    have memberNewer : newer ∈ worker.executions := by
      obtain ⟨front, back, shape, inFront, -⟩ := overtaking
      rw [shape]
      exact List.mem_append_left _ inFront
    cases input with
    | cleanup process =>
        cases ending
        refine ⟨fun entry => ?_, fun entry => ?_⟩
        · obtain ⟨holder, tracked, shape, uncleaned⟩ := owned.entry entry
          cases ordered.same_of_claim tracked memberNewer shape
          exact (undisturbed
            ⟨older, newer, overtaking, .inl ⟨rfl, uncleaned⟩⟩).elim
        · cases move_of_step stepped with
          | cleanup =>
              exact entry
    | close process =>
        cases ending
        refine ⟨fun entry => ?_, fun entry => ?_⟩
        · cases move_of_step stepped with
          | close =>
              exact entry
        · obtain ⟨holder, tracked, owner, -, alive⟩ := active.entry entry
          cases coherent.same_of_process tracked memberNewer owner
          exact (undisturbed
            ⟨older, newer, overtaking, .inr ⟨.inr rfl, alive⟩⟩).elim
    | _ =>
        cases ending

/-- The step takes the entry of `newer`, if it is of the same run. -/
def takesEntry
    (input : WorkerInput)
    (newer older : TrackedExecution) :
    Bool :=
  match input with
  | .cleanup process => process = older.process && !newer.cleaned
  | .spawn process => process = older.process && newer.job = .alive
  | .close process => process = older.process && newer.job = .alive
  | _ => false

/-- No newer execution loses its entry; the executions are newest first. -/
def sparesAll
    (worker : PullWorker)
    (input : WorkerInput) :
    Bool :=
  decide (worker.executions.Pairwise fun newer older =>
    newer.runId = older.runId → takesEntry input newer older = false)

theorem not_overtaken_of_sparesAll
    {worker : PullWorker}
    {input : WorkerInput}
    (spares : worker.sparesAll input = true) :
    ¬ worker.Overtaken input := by
  rintro ⟨older, newer, ⟨front, back, shape, member, sameRun⟩, takes⟩
  have apart := of_decide_eq_true spares
  rw [shape, List.pairwise_append] at apart
  have spared :=
    apart.2.2 newer member older List.mem_cons_self sameRun
  rcases takes with ⟨rfl, uncleaned⟩ | ⟨rfl | rfl, alive⟩
  · simp [takesEntry, uncleaned] at spared
  · simp [takesEntry, alive] at spared
  · simp [takesEntry, alive] at spared

/-- The sweeper fails the run while its job runs on, and an operator retries it. -/
def sweepAndRetry : List WorkerInput :=
  [.statement (3, .start (.sweep ⟨0, 10⟩)),
      .statement (3, .proceed (environmentAt 8 unusedUuid)),
      .statement (3, .proceed (environmentAt 9 unusedUuid))] ++
    (retryNightly 4 retriedUuid).map .statement

/-- Two executions of the run overlap, and the newer one ends first. -/
def newerEndsFirst : List WorkerInput :=
  queueNightly.map .statement ++
    claimAndExecute 1 2 firstUuid ++
    sweepAndRetry ++
    claimAndExecute 5 6 secondUuid ++
    endExecution 6 ++
    [.close 2,
      .statement (2, .proceed (environmentAt 12 unusedUuid)),
      .statement (2, .proceed (environmentAt 12 unusedUuid)),
      .cleanup 2]

/-- Both are registered as long as they hold the run. -/
theorem registries_kept_newerEndsFirst :
    (Stepping.run? (step 10) (initial ∅) newerEndsFirst).isSome = true ∧
      RegistriesKept 10 ∅ newerEndsFirst :=
  ⟨by decide,
    registries_kept (by simp)
      (Stepping.along_of_checkAlong sparesAll not_overtaken_of_sparesAll
        (by decide))⟩

/-- The first execution settles after the worker has claimed the run again. -/
def overtakenExecution : List WorkerInput :=
  queueNightly.map .statement ++
    claimAndExecute 1 2 firstUuid ++
    sweepAndRetry ++
    claimAndExecute 5 6 secondUuid ++
    [.close 2,
      .statement (2, .proceed (environmentAt 11 unusedUuid)),
      .statement (2, .proceed (environmentAt 11 unusedUuid)),
      .cleanup 2]

/-- Some execution in flight has lost its entry in `owned`. -/
def unregistered (worker : PullWorker) : Bool :=
  worker.executions.any fun execution =>
    !(worker.runs.locals execution.process).settled &&
      Fencing.holder (worker.runs.shared.history execution.runId) =
        some execution.dispatchId &&
      worker.owned.lookup execution.runId ≠ some execution.dispatchId

theorem not_registered_of_unregistered
    {worker : PullWorker}
    (lost : worker.unregistered = true) :
    ¬ worker.Registered := by
  intro registered
  obtain ⟨execution, member, found⟩ := List.any_eq_true.mp lost
  simp only [Bool.and_eq_true, Bool.not_eq_true', decide_eq_true_eq,
    ne_eq] at found
  obtain ⟨⟨inFlight, holds⟩, missing⟩ := found
  exact missing (registered execution member inFlight holds).1

/-- The second execution is in flight and no longer heartbeated. -/
theorem overtakenExecution_not_kept :
    ¬ RegistriesKept 10 ∅ overtakenExecution := by
  have computed :
      (Stepping.run? (step 10) (initial ∅) overtakenExecution).map
          unregistered =
        some true := by
    decide
  obtain ⟨worker, ran, lost⟩ := Option.map_eq_some_iff.mp computed
  intro kept
  exact not_registered_of_unregistered lost
    (kept.registered (List.append_nil _).symm ran)

end PullWorker

end IgaScheduler

import IgaScheduler.DispatchFencing

namespace IgaScheduler

open Relational Interleaving

/-!
# When an execution starts its job

`executeClaimedRun` loads the claimed run but looks neither at its state nor
at its `dispatch_id`; an execution goes on to start its job whatever has
become of the claim by then.  The row it loads is still the one the claim left
behind exactly when the claim is the newest event in the history of the run.
-/

/-- A run nothing has happened to since its latest claim still bears it. -/
structure Undisturbed
    (row : Option JobRun)
    (history : Fencing.History String) :
    Prop where
  running :
    ∀ {dispatchId : String} {older : Fencing.History String},
      history = .granted dispatchId :: older →
      ∃ stored,
        row = some stored ∧
          stored.state = .running ∧
          stored.dispatchId = some dispatchId

namespace Undisturbed

/-- Right after a claim. -/
theorem claim
    {claimed : JobRun}
    {history : Fencing.History String}
    {dispatchId : String}
    (isRunning : claimed.state = .running)
    (bears : claimed.dispatchId = some dispatchId) :
    Undisturbed (some claimed) (.granted dispatchId :: history) where
  running := by
    intro other older shape
    cases shape
    exact ⟨claimed, rfl, isRunning, bears⟩

/-- An event after the claim leaves nothing to show. -/
theorem disturbed
    {row : Option JobRun}
    {history : Fencing.History String}
    {event : Fencing.Event String}
    (other : ∀ dispatchId, event ≠ .granted dispatchId) :
    Undisturbed row (event :: history) where
  running := by
    intro dispatchId older shape
    exact (other dispatchId (List.cons.inj shape).1).elim

/-- A write that keeps state and identifier, such as a heartbeat. -/
theorem touch
    {row written : JobRun}
    {history : Fencing.History String}
    (undisturbed : Undisturbed (some row) history)
    (sameState : written.state = row.state)
    (sameDispatchId : written.dispatchId = row.dispatchId) :
    Undisturbed (some written) history where
  running := by
    intro dispatchId older shape
    obtain ⟨stored, same, isRunning, bears⟩ := undisturbed.running shape
    cases same
    exact ⟨written, rfl, sameState.trans isRunning,
      sameDispatchId.trans bears⟩

/-- A row in another state shows that the claim is not the newest event. -/
theorem idle
    {row : JobRun}
    {written : Option JobRun}
    {history : Fencing.History String}
    (undisturbed : Undisturbed (some row) history)
    (notRunning : row.state ≠ .running) :
    Undisturbed written history where
  running := by
    intro dispatchId older shape
    obtain ⟨stored, same, isRunning, -⟩ := undisturbed.running shape
    cases same
    exact (notRunning isRunning).elim

/-- Every effect keeps what the newest claim has left behind. -/
theorem effect
    {runId : String}
    {before after : Option JobRun}
    {statement : RunStatement}
    {history events : Fencing.History String}
    (undisturbed : Undisturbed before history)
    (happened : RunEffect runId before statement after events) :
    Undisturbed after (events ++ history) := by
  cases happened with
  | kept =>
      exact undisturbed
  | created document sameRun absent =>
      constructor
      intro dispatchId older shape
      obtain ⟨stored, same, -⟩ := undisturbed.running shape
      cases absent.symm.trans same
  | published claimed row startedAt dispatchId found isQueued member =>
      exact .claim rfl rfl
  | written write row found admitted =>
      subst found
      have source := RunWrite.state_mem_sources admitted
      cases write with
      | claimRun startedAt status dispatchId =>
          exact .claim rfl rfl
      | recordRuntimeExecution | touchHeartbeat =>
          exact undisturbed.touch rfl rfl
      | retry | markSucceeded | markFailed | cancelRunning =>
          exact .disturbed (fun _ impossible => by cases impossible)
      | markCancelled | cancelQueued | killed =>
          have notRunning : row.state ≠ .running := by
            simp only [RunWrite.sources, List.mem_singleton] at source
            rw [source]
            exact fun impossible => by cases impossible
          exact undisturbed.idle notRunning

end Undisturbed

namespace RunPool

theorem Reachable.undisturbed
    {rows : JobRuns}
    {pool : RunPool}
    (reachable : Reachable rows pool)
    (runId : String) :
    Undisturbed (pool.shared.row runId) (pool.shared.history runId) := by
  obtain ⟨schedule, ran⟩ := reachable
  refine System.run?_induction
    (fun _ visited =>
      Undisturbed (visited.shared.row runId)
        (visited.shared.history runId)) ?_ ?_ ran
  · exact ⟨fun shape => by cases shape⟩
  · intro earlier visited next label ranEarlier undisturbed stepped
    obtain ⟨statement, reply, events, -, -, -, history, effect⟩ :=
      Reachable.runEffect ⟨earlier, ranEarlier⟩ stepped runId
    rw [history]
    exact undisturbed.effect effect

/-- The run is `RUNNING` under this claim. -/
def RunningUnder
    (pool : RunPool)
    (runId dispatchId : String) :
    Prop :=
  ∃ row,
    pool.shared.row runId = some row ∧
      row.state = .running ∧
      row.dispatchId = some dispatchId

/-- No cancel, sweep, outcome, retry or claim of the run has followed the claim. -/
def NewestClaim
    (pool : RunPool)
    (runId dispatchId : String) :
    Prop :=
  ∃ older, pool.shared.history runId = .granted dispatchId :: older

/-- A run is `RUNNING` under the claims nothing has followed, and no others. -/
theorem Reachable.runningUnder_iff_newestClaim
    {rows : JobRuns}
    {pool : RunPool}
    (allQueued :
      ∀ runId row, rows.lookup runId = some row → row.state = .queued)
    (reachable : Reachable rows pool)
    {runId dispatchId : String} :
    pool.RunningUnder runId dispatchId ↔
      pool.NewestClaim runId dispatchId := by
  constructor
  · rintro ⟨row, found, running, bears⟩
    have fenced := reachable.fenced allQueued runId
    obtain ⟨owner, bearsOwner, held⟩ :=
      fenced.owned row found (.inl running)
    cases bears.symm.trans bearsOwner
    exact Fencing.newest_of_holder held (fenced.atWork row found running)
  · rintro ⟨older, shape⟩
    exact (reachable.undisturbed runId).running shape

/--
In this run the process loaded the claimed run in the pool `before`, and at the
end of it the process calls `runtimeExecutor.execute`.
-/
def Starts
    (rows : JobRuns)
    (schedule : List (Label RunInput))
    (process : Nat)
    (runId dispatchId : String)
    (before : RunPool) :
    Prop :=
  ∃ earlier environment later pool run,
    schedule = earlier ++ (process, .proceed environment) :: later ∧
      runSystem.run? (RunPool.initial rows) earlier = some before ∧
      before.locals process =
        .executeClaimedRun (.start runId dispatchId) ∧
      runSystem.run? (RunPool.initial rows) schedule = some pool ∧
      pool.locals process = .executeClaimedRun (.preparing run .execute)

/-- Jobs are started only from rows that are `RUNNING` under the claim. -/
def StartGated
    (rows : JobRuns)
    (schedule : List (Label RunInput)) :
    Prop :=
  ∀ {process : Nat} {runId dispatchId : String} {before : RunPool},
    Starts rows schedule process runId dispatchId before →
    before.RunningUnder runId dispatchId

/-- Nothing happens to a run between its claim and the load of a started job. -/
def LoadsUndisturbed
    (rows : JobRuns)
    (schedule : List (Label RunInput)) :
    Prop :=
  ∀ {process : Nat} {runId dispatchId : String} {before : RunPool},
    Starts rows schedule process runId dispatchId before →
    before.NewestClaim runId dispatchId

/--
When every run starts out `QUEUED`, a run of the system starts its jobs only
from rows that are `RUNNING` under their claims exactly if no cancel, sweep,
outcome, retry or claim comes between the claim and the load of a started job.
-/
theorem start_gated_iff
    {rows : JobRuns}
    {schedule : List (Label RunInput)}
    (allQueued :
      ∀ runId row, rows.lookup runId = some row → row.state = .queued) :
    StartGated rows schedule ↔ LoadsUndisturbed rows schedule := by
  constructor
  · intro gated process runId dispatchId before starts
    obtain ⟨earlier, _, _, _, _, -, ran, -⟩ := id starts
    exact (Reachable.runningUnder_iff_newestClaim allQueued
      ⟨earlier, ran⟩).mp (gated starts)
  · intro undisturbed process runId dispatchId before starts
    obtain ⟨earlier, _, _, _, _, -, ran, -⟩ := id starts
    exact (Reachable.runningUnder_iff_newestClaim allQueued
      ⟨earlier, ran⟩).mpr (undisturbed starts)

/-- An operator cancels the claimed run before its execution loads it. -/
def cancelledBeforeLoad : List (Label RunInput) :=
  queueNightly ++ claimNightly 1 firstUuid ++
    [(3, .start (.cancelRun ⟨nightlyRunId, "", "operator", false⟩)),
      (3, .proceed (environmentAt 6 unusedUuid)),
      (3, .proceed (environmentAt 6 unusedUuid))] ++
    executeNightly 2 "first"

/-- The stage that the execution of a process has reached. -/
def stage? : RunCall → Option Execution.Stage
  | .executeClaimedRun (.preparing _ stage) => some stage
  | _ => none

/-- What has to be computed of a run that ends with `executeNightly`. -/
theorem executeNightly_starts
    {earlier : List (Label RunInput)}
    {before pool : RunPool}
    (ranBefore :
      runSystem.run? (RunPool.initial ∅)
          (earlier ++
            [(2, .start (.executeClaimedRun nightlyRunId "first"))]) =
        some before)
    (ran :
      runSystem.run? (RunPool.initial ∅)
          (earlier ++ executeNightly 2 "first") =
        some pool)
    (started : stage? (pool.locals 2) = some .execute) :
    Starts ∅ (earlier ++ executeNightly 2 "first") 2 nightlyRunId "first"
      before := by
  obtain ⟨middle, -, ranStart⟩ := System.run?_append_eq_some.mp ranBefore
  rw [System.run?_singleton] at ranStart
  obtain ⟨_, _, -, -, called⟩ := step_moves ranStart
  have reached :
      ∃ run, pool.locals 2 = .executeClaimedRun (.preparing run .execute) := by
    generalize pool.locals 2 = call at started
    cases call with
    | executeClaimedRun call =>
        cases call with
        | preparing run stage =>
            cases started
            exact ⟨run, rfl⟩
        | _ =>
            cases started
    | _ =>
        cases started
  obtain ⟨run, executing⟩ := reached
  refine ⟨_, environmentAt 7 unusedUuid,
    List.replicate 6 (2, .proceed (environmentAt 7 unusedUuid)), pool, run,
    ?_, ranBefore, called, ran, executing⟩
  rw [List.append_assoc]
  rfl

/-- The job of a cancelled run is started. -/
theorem cancelledBeforeLoad_not_gated :
    ¬ StartGated ∅ cancelledBeforeLoad := by
  have computed :
      ((runSystem.run? (RunPool.initial ∅)
          (cancelledBeforeLoad.take 8)).bind fun before =>
        (runSystem.run? (RunPool.initial ∅) cancelledBeforeLoad).bind
          fun pool =>
            (before.shared.row nightlyRunId).map fun row =>
              (row.state, stage? (pool.locals 2))) =
        some (.cancelling, some .execute) := by
    decide
  obtain ⟨before, ranBefore, rest⟩ := Option.bind_eq_some_iff.mp computed
  obtain ⟨pool, ran, rest⟩ := Option.bind_eq_some_iff.mp rest
  obtain ⟨row, found, shape⟩ := Option.map_eq_some_iff.mp rest
  obtain ⟨cancelling, started⟩ := Prod.mk.inj shape
  intro gated
  obtain ⟨other, foundAgain, running, -⟩ :=
    gated (executeNightly_starts ranBefore ran started)
  cases found.symm.trans foundAgain
  cases cancelling.symm.trans running

/-- An execution that loads the run right after its claim is gated. -/
theorem start_gated_iff_executeNightly :
    ∃ before,
      Starts ∅
          (queueNightly ++ claimNightly 1 firstUuid ++
            executeNightly 2 "first")
          2 nightlyRunId "first" before ∧
        (StartGated ∅
            (queueNightly ++ claimNightly 1 firstUuid ++
              executeNightly 2 "first") ↔
          LoadsUndisturbed ∅
            (queueNightly ++ claimNightly 1 firstUuid ++
              executeNightly 2 "first")) := by
  have computed :
      ((runSystem.run? (RunPool.initial ∅)
          (queueNightly ++ claimNightly 1 firstUuid ++
            [(2, .start (.executeClaimedRun nightlyRunId "first"))])).bind
        fun _ =>
          (runSystem.run? (RunPool.initial ∅)
            (queueNightly ++ claimNightly 1 firstUuid ++
              executeNightly 2 "first")).map
            fun pool => stage? (pool.locals 2)) =
        some (some .execute) := by
    decide
  obtain ⟨before, ranBefore, rest⟩ := Option.bind_eq_some_iff.mp computed
  obtain ⟨pool, ran, started⟩ := Option.map_eq_some_iff.mp rest
  exact ⟨before, executeNightly_starts ranBefore ran started,
    start_gated_iff (by simp)⟩

end RunPool

end IgaScheduler

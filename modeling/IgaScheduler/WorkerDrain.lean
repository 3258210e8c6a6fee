import IgaScheduler.ExecutionSettlement
import IgaScheduler.WorkerClaims

namespace IgaScheduler

open Relational Interleaving

/-!
# Draining a pull worker

`drain` awaits the executions that are tracked when it is called.  A claim that
is in flight at that moment is tracked later or never, and nobody awaits its
execution.  When no claim is, a drained worker has settled whatever it claimed.
-/

namespace Execution

/-- The calls outside the `try` block: a throw settles the execution at once. -/
def Local.unguarded : Local → Bool
  | .start .. => true
  | .failing .. => true
  | _ => false

end Execution

namespace RunPool

/-- A process that has caused anything is not idle. -/
theorem Reachable.logged_not_idle
    {rows : JobRuns}
    {pool : RunPool}
    {process : Nat}
    {event : RunEvent}
    (reachable : Reachable rows pool)
    (logged : (process, event) ∈ pool.shared.log) :
    pool.locals process ≠ .idle := by
  refine reachable.invariant
    (fun visited =>
      (process, event) ∈ visited.shared.log →
      visited.locals process ≠ .idle) ?_ ?_ logged
  · intro impossible
    cases impossible
  · intro visited next label known stepped member
    obtain ⟨statement, reply, issued, executed, resumed⟩ :=
      step_moves stepped
    by_cases own : process = label.1
    · subst own
      rw [resumed]
      rcases label with ⟨process, input⟩
      change (visited.locals process).issue input = _ at issued
      change (visited.locals process).resume input reply ≠ _
      generalize visited.locals process = call at issued
      cases input with
      | start request =>
          cases request <;> simp [RunCall.resume, RunRequest.call]
      | proceed environment =>
          cases call with
          | idle =>
              cases issued
          | _ =>
              simp [RunCall.resume, RunCall.resumed]
      | raise environment =>
          cases call with
          | idle =>
              cases issued
          | _ =>
              simp [RunCall.resume, RunCall.raised]
    · rw [System.step?_locals_other stepped own]
      rw [RunDatabase.exec_log executed] at member
      rcases List.mem_append.mp member with new | old
      · obtain ⟨_, -, shape⟩ := List.mem_map.mp new
        exact (own (congrArg Prod.fst shape).symm).elim
      · exact known old

/-- The claims that a batch claim has logged are what it returns. -/
theorem batch_logged
    {pool next : RunPool}
    {label : Label RunInput}
    {process : Nat}
    {call : ClaimNextQueued.Local}
    {runId dispatchId : String}
    (stepped : runSystem.step? pool label = some next)
    (calling : pool.locals process = .claimNextQueued call)
    (logged :
      (process, RunEvent.claimed runId dispatchId) ∈ next.shared.log) :
    (process, RunEvent.claimed runId dispatchId) ∈ pool.shared.log ∨
      process = label.1 ∧
        ∃ arguments claimed,
          next.locals process =
              .claimNextQueued (.done arguments (.ok claimed)) ∧
            (runId, dispatchId) ∈ claimed := by
  by_cases own : process = label.1
  · subst own
    obtain ⟨statement, reply, after, executed, resumed, moved⟩ :=
      claimNextQueued_move stepped calling
    rw [RunDatabase.exec_log executed] at logged
    rcases List.mem_append.mp logged with new | old
    · cases moved with
      | commit arguments claimed =>
          obtain ⟨_, member, shape⟩ := List.mem_map.mp new
          obtain ⟨pair, listed, rfl⟩ := List.mem_map.mp member
          cases shape
          exact .inr ⟨rfl, arguments, claimed, resumed, listed⟩
      | begin | select | claim | throw | rollback =>
          cases new
    · exact .inl old
  · obtain ⟨_, _, _, executed, _⟩ := step_moves stepped
    rw [RunDatabase.exec_log executed] at logged
    rcases List.mem_append.mp logged with new | old
    · obtain ⟨_, -, shape⟩ := List.mem_map.mp new
      exact (own (congrArg Prod.fst shape).symm).elim
    · exact .inl old

/-- A settled execution has left its run in some other state than `RUNNING`. -/
def Concluded
    (runId dispatchId : String)
    (pool : RunPool)
    (call : Execution.Local) :
    Prop :=
  ExecutionTracked runId dispatchId pool call ∧
    ((RunCall.executeClaimedRun call).settled = true →
      NotRunning runId dispatchId pool)

/-- An execution that settles has had its say, unless an unguarded call threw. -/
theorem notRunning_of_settles
    {rows : JobRuns}
    {pool next : RunPool}
    {label : Label RunInput}
    {call after : Execution.Local}
    {runId dispatchId : String}
    (reachable : Reachable rows pool)
    (claimed : pool.shared.Claimed runId dispatchId)
    (calling : pool.locals label.1 = .executeClaimedRun call)
    (tracked : ExecutionTracked runId dispatchId pool call)
    (stepped : runSystem.step? pool label = some next)
    (resumed : next.locals label.1 = .executeClaimedRun after)
    (settles : (RunCall.executeClaimedRun after).settled = true)
    (caught :
      ∀ environment,
        label.2 = .raise environment →
        call.unguarded = true →
        NotRunning runId dispatchId pool) :
    NotRunning runId dispatchId next := by
  obtain ⟨statement, reply, issued, executed, answered⟩ :=
    step_moves stepped
  rw [calling] at issued answered
  rw [resumed] at answered
  have stays (already : NotRunning runId dispatchId pool) :
      NotRunning runId dispatchId next :=
    already.step reachable claimed stepped
  rcases label with ⟨process, input⟩
  cases input with
  | start request =>
      cases issued
  | raise environment =>
      cases answered
      cases call with
      | start | failing =>
          exact stays (caught environment rfl rfl)
      | failed run =>
          exact stays tracked.2.2
      | preparing | executed | succeeded =>
          cases settles
      | settled =>
          cases issued
  | proceed environment =>
      cases answered
      cases call with
      | start owner token =>
          obtain ⟨rfl, rfl⟩ := tracked
          cases issued
          obtain ⟨same, answer⟩ := RunDatabase.exec_getRun executed
          intro row stored
          rw [same] at stored
          rw [stored] at answer
          simp only [Execution.resume, answer] at settles
          cases settles
      | preparing run stage =>
          simp only [Execution.resume] at settles
          split at settles <;> cases settles
      | executed run result =>
          obtain ⟨rfl, bears⟩ := tracked
          cases issued
          rw [bears] at executed
          exact notRunning_of_succeed executed
      | succeeded run =>
          obtain ⟨-, -, row, stored, ended⟩ := tracked
          refine stays ?_
          intro other found _ running
          cases stored.symm.trans found
          rw [ended] at running
          cases running
      | failed run =>
          exact stays tracked.2.2
      | failing =>
          cases settles
      | settled =>
          cases issued

/-- An execution leaves its run in `RUNNING` only when an unguarded call throws. -/
theorem Concluded.step
    {rows : JobRuns}
    {pool next : RunPool}
    {label : Label RunInput}
    {process : Nat}
    {call : Execution.Local}
    {runId dispatchId : String}
    (reachable : Reachable rows pool)
    (claimed : pool.shared.Claimed runId dispatchId)
    (calling : pool.locals process = .executeClaimedRun call)
    (concluded : Concluded runId dispatchId pool call)
    (stepped : runSystem.step? pool label = some next)
    (caught :
      ∀ environment,
        label = (process, .raise environment) →
        call.unguarded = true →
        NotRunning runId dispatchId pool) :
    ∃ after,
      next.locals process = .executeClaimedRun after ∧
        Concluded runId dispatchId next after := by
  obtain ⟨after, resumed, tracked⟩ :=
    ExecutionTracked.step reachable claimed calling concluded.1 stepped
  refine ⟨after, resumed, tracked, fun settles => ?_⟩
  by_cases own : process = label.1
  · subst own
    refine notRunning_of_settles reachable claimed calling concluded.1
      stepped resumed settles ?_
    intro environment thrown
    exact caught environment (by rw [← thrown])
  · have same := System.step?_locals_other stepped own
    rw [calling, resumed] at same
    cases same
    exact NotRunning.step reachable claimed (concluded.2 settles) stepped

end RunPool

/-- `drain` has looked at `activeExecutions`, and has not given up. -/
def Shutdown.looked : Shutdown → Bool
  | .draining _ => true
  | .drained => true
  | _ => false

namespace PullWorker

/-- A poll of this worker has committed this claim. -/
def Claimed
    (worker : PullWorker)
    (runId dispatchId : String) :
    Prop :=
  ∃ process ∈ worker.polls,
    (process, RunEvent.claimed runId dispatchId) ∈ worker.runs.shared.log

/-- Whenever `drain` has resolved, every claim has a settled execution. -/
def SettlesClaims
    (maxConcurrency : Nat)
    (rows : JobRuns)
    (inputs : List WorkerInput) :
    Prop :=
  ∀ {earlier later : List WorkerInput} {worker : PullWorker}
    {runId dispatchId : String},
    inputs = earlier ++ later →
    Stepping.run? (step maxConcurrency) (initial rows) earlier =
      some worker →
    worker.shutdown = .drained →
    worker.Claimed runId dispatchId →
    ∃ execution ∈ worker.executions,
      execution.claim = (runId, dispatchId) ∧
        (worker.runs.locals execution.process).settled = true

/-- Whenever `drain` has resolved, no run is `RUNNING` under such a claim. -/
def LeavesNoneRunning
    (maxConcurrency : Nat)
    (rows : JobRuns)
    (inputs : List WorkerInput) :
    Prop :=
  ∀ {earlier later : List WorkerInput} {worker : PullWorker}
    {runId dispatchId : String},
    inputs = earlier ++ later →
    Stepping.run? (step maxConcurrency) (initial rows) earlier =
      some worker →
    worker.shutdown = .drained →
    worker.Claimed runId dispatchId →
    RunPool.NotRunning runId dispatchId worker.runs

/--
`drain` is called while a committed batch is not tracked yet, or a batch
commits after it has been called.
-/
def ClaimsLate
    (worker : PullWorker)
    (input : WorkerInput) :
    Prop :=
  input = .drain ∧ worker.untracked ≠ [] ∨
    worker.shutdown.looked = true ∧
      ∃ process environment arguments claimed,
        input = .statement (process, .proceed environment) ∧
          worker.poll = some process ∧
          worker.runs.locals process =
            .claimNextQueued (.claiming arguments [] claimed) ∧
          claimed ≠ []

/--
The load of a tracked execution or its `markFailed` throws while its run is
`RUNNING` under its claim.
-/
def ThrowsUncaught
    (worker : PullWorker)
    (input : WorkerInput) :
    Prop :=
  ∃ execution environment call,
    execution ∈ worker.executions ∧
      input = .statement (execution.process, .raise environment) ∧
      worker.runs.locals execution.process = .executeClaimedRun call ∧
      call.unguarded = true ∧
      ¬ RunPool.NotRunning execution.runId execution.dispatchId worker.runs

/-- Where the claims of the worker are, and whom `drain` awaits. -/
structure Punctual (worker : PullWorker) : Prop where
  logged :
    ∀ {process : Nat} {runId dispatchId : String},
      process ∈ worker.polls →
      (process, RunEvent.claimed runId dispatchId) ∈
        worker.runs.shared.log →
      (runId, dispatchId) ∈ worker.claims ∨
        worker.poll = some process ∧
          (runId, dispatchId) ∈ worker.untracked
  looked : worker.shutdown.looked = true → worker.untracked = []
  awaited :
    ∀ {processes : List Nat},
      worker.shutdown = .draining processes →
      ∀ execution ∈ worker.executions,
        (worker.runs.locals execution.process).settled = true ∨
          execution.process ∈ processes
  drained :
    worker.shutdown = .drained →
    ∀ execution ∈ worker.executions,
      (worker.runs.locals execution.process).settled = true

namespace Punctual

variable {rows : JobRuns} {worker : PullWorker}

/-- A settled execution stays settled. -/
theorem settled_step
    {runs : RunPool}
    {label : Label RunInput}
    {process : Nat}
    (stepped : runSystem.step? worker.runs label = some runs)
    (settled : (worker.runs.locals process).settled = true) :
    (runs.locals process).settled = true := by
  rw [System.step?_locals_of_stuck stepped (RunCall.settled_stuck settled)]
  exact settled

theorem batch_call
    {process : Nat}
    (coherent : Coherent rows worker)
    (polled : process ∈ worker.polls) :
    ∃ call, worker.runs.locals process = .claimNextQueued call := by
  rcases coherent.polled process polled with
    outstanding | ⟨arguments, outcome, returned⟩
  · exact coherent.polling process outstanding
  · exact ⟨_, returned⟩

/-- A step of some call, if it commits nothing after the drain has begun. -/
theorem runs
    {runs : RunPool}
    {label : Label RunInput}
    (coherent : Coherent rows worker)
    (punctual : worker.Punctual)
    (stepped : runSystem.step? worker.runs label = some runs)
    (early :
      worker.shutdown.looked = true →
      { worker with runs := runs }.untracked = []) :
    Punctual { worker with runs := runs } where
  logged := by
    intro process runId dispatchId polled logged
    obtain ⟨call, calling⟩ := batch_call coherent polled
    rcases RunPool.batch_logged stepped calling logged with
      old | ⟨rfl, arguments, claimed, done, member⟩
    · rcases punctual.logged polled old with tracked | ⟨polling, pending⟩
      · exact .inl tracked
      · refine .inr ⟨polling, ?_⟩
        rcases untracked_runs stepped with same | ⟨empty, -⟩
        · rwa [same]
        · rw [empty] at pending
          cases pending
    · have polling : worker.poll = some label.1 := by
        rcases coherent.polled _ polled with
          outstanding | ⟨_, _, returned⟩
        · exact outstanding
        · obtain ⟨_, _, issued, _, _⟩ := RunPool.step_moves stepped
          rw [returned] at issued
          rcases label with ⟨process, input⟩
          cases input <;> cases issued
      refine .inr ⟨polling, ?_⟩
      simp only [untracked, polling, Option.bind_some, done]
      exact member
  looked := early
  awaited := by
    intro processes draining execution member
    rcases punctual.awaited draining execution member with
      settled | listed
    · exact .inl (settled_step stepped settled)
    · exact .inr listed
  drained := by
    intro drained execution member
    exact settled_step stepped (punctual.drained drained execution member)

/-- A step that starts a call of another kind than a batch claim commits none. -/
theorem untracked_start
    {runs : RunPool}
    {process : Nat}
    {request : RunRequest}
    (stepped :
      runSystem.step? worker.runs (process, .start request) = some runs) :
    { worker with runs := runs }.untracked = worker.untracked := by
  rcases untracked_runs stepped with same | ⟨-, arguments, -, done⟩
  · exact same
  · have started := (RunPool.start_moves stepped).2.1
    rw [done] at started
    cases request <;> cases started

/-- Changing the record of an execution keeps where the claims are. -/
theorem setExecution
    {process : Nat}
    {change : TrackedExecution → TrackedExecution}
    (owned : Table String String)
    (activeByRunId : Table String Nat)
    (punctual : worker.Punctual)
    (sameProcess :
      ∀ execution, (change execution).process = execution.process)
    (sameClaim : ∀ execution, (change execution).claim = execution.claim) :
    Punctual
      { worker with
        owned := owned
        activeByRunId := activeByRunId
        executions := worker.setExecution process change } := by
  have from_before
      {execution : TrackedExecution}
      (member : execution ∈ worker.setExecution process change) :
      ∃ before ∈ worker.executions,
        execution.process = before.process := by
    obtain ⟨before, tracked, rfl⟩ := mem_setExecution.mp member
    refine ⟨before, tracked, ?_⟩
    split
    · exact sameProcess before
    · rfl
  refine ⟨?_, punctual.looked, ?_, ?_⟩
  · intro owner runId dispatchId polled logged
    rcases punctual.logged polled logged with tracked | pending
    · refine .inl ?_
      change _ ∈ (worker.setExecution process change).map _
      rw [claims_setExecution sameClaim]
      exact tracked
    · exact .inr pending
  · intro processes draining execution member
    obtain ⟨before, tracked, same⟩ := from_before member
    rw [same]
    exact punctual.awaited draining before tracked
  · intro drained execution member
    obtain ⟨before, tracked, same⟩ := from_before member
    rw [same]
    exact punctual.drained drained before tracked

/-- The next poll has claimed nothing yet. -/
theorem poll
    {runs : RunPool}
    {process : Nat}
    {arguments : ClaimNextQueued.Arguments}
    (coherent : Coherent rows worker)
    (punctual : worker.Punctual)
    (running : worker.shutdown = .running)
    (idle : worker.poll = none)
    (stepped :
      runSystem.step? worker.runs
          (process, .start (.claimNextQueued arguments)) =
        some runs) :
    Punctual
      { worker with
        runs := runs
        poll := some process
        polls := process :: worker.polls } := by
  obtain ⟨resting, -, reply, admitted⟩ := RunPool.start_moves stepped
  have quiet : runs.shared.log = worker.runs.shared.log :=
    RunDatabase.exec_log admitted
  refine ⟨?_, ?_, ?_, ?_⟩
  · intro owner runId dispatchId polled logged
    change (owner, _) ∈ runs.shared.log at logged
    rw [quiet] at logged
    rcases List.mem_cons.mp polled with rfl | earlier
    · exact (coherent.reachable.logged_not_idle logged resting).elim
    · rcases punctual.logged earlier logged with tracked | ⟨polling, -⟩
      · exact .inl tracked
      · rw [idle] at polling
        cases polling
  · intro looked
    change worker.shutdown.looked = true at looked
    rw [running] at looked
    cases looked
  · intro processes draining
    cases running.symm.trans draining
  · intro drained
    cases running.symm.trans drained

/-- What the poll has been returned is tracked. -/
theorem trackAll
    {next : PullWorker}
    {process : Nat}
    {claimed : List (String × String)}
    {processes : List Nat}
    (punctual : worker.Punctual)
    (polling : worker.poll = some process)
    (returned :
      (worker.runs.locals process).pollReturn? = some claimed)
    (aligned : claimed.length = processes.length)
    (tracked :
      Stepping.run? PullWorker.track { worker with poll := none }
          (claimed.zip processes) =
        some next) :
    next.Punctual := by
  have pending : worker.untracked = claimed := by
    simp [untracked, polling, returned]
  obtain ⟨log, poll, polls, shutdown, claims⟩ := trackAll_frame tracked
  have unchanged (looked : worker.shutdown.looked = true) :
      next = { worker with poll := none } := by
    have empty := pending.symm.trans (punctual.looked looked)
    subst empty
    cases tracked
    rfl
  refine ⟨?_, ?_, ?_, ?_⟩
  · intro owner runId dispatchId polled logged
    rw [log] at logged
    rw [polls] at polled
    rw [claims, List.map_fst_zip aligned.le]
    refine .inl ?_
    rcases punctual.logged polled logged with old | ⟨-, new⟩
    · exact List.mem_append_right _ old
    · rw [pending] at new
      exact List.mem_append_left _ (List.mem_reverse.mpr new)
  · intro _
    simp [untracked, poll]
  · intro awaited draining
    rw [shutdown] at draining
    change worker.shutdown = _ at draining
    rw [unchanged (by rw [draining]; rfl)]
    exact punctual.awaited draining
  · intro drained
    rw [shutdown] at drained
    change worker.shutdown = _ at drained
    rw [unchanged (by rw [drained]; rfl)]
    exact punctual.drained drained

/-- A batch that commits has been about to. -/
theorem committing
    {runs : RunPool}
    {label : Label RunInput}
    {arguments : ClaimNextQueued.Arguments}
    {claimed : List (String × String)}
    (stepped : runSystem.step? worker.runs label = some runs)
    (done :
      runs.locals label.1 =
        .claimNextQueued (.done arguments (.ok claimed))) :
    worker.runs.locals label.1 =
        .claimNextQueued (.claiming arguments [] claimed) ∧
      ∃ environment, label.2 = .proceed environment := by
  obtain ⟨calling, -⟩ := RunPool.committed_of_done stepped done
  refine ⟨calling, ?_⟩
  obtain ⟨_, _, issued, _, resumed⟩ := RunPool.step_moves stepped
  rw [calling] at issued resumed
  rw [done] at resumed
  rcases label with ⟨process, input⟩
  cases input with
  | start request =>
      cases issued
  | proceed environment =>
      exact ⟨environment, rfl⟩
  | raise environment =>
      cases resumed

/-- As long as no claim comes late, every step keeps this. -/
theorem move
    {maxConcurrency : Nat}
    {next : PullWorker}
    {input : WorkerInput}
    (coherent : Coherent rows worker)
    (punctual : worker.Punctual)
    (early : ¬ worker.ClaimsLate input)
    (moved : Move maxConcurrency worker input next) :
    next.Punctual := by
  cases moved with
  | statement label runs allowed stepped =>
      refine punctual.runs coherent stepped fun looked => ?_
      rcases untracked_runs stepped with
        same | ⟨-, arguments, polling, done⟩
      · rw [same]
        exact punctual.looked looked
      · obtain ⟨calling, environment, proceeds⟩ := committing stepped done
        by_contra nonempty
        exact early (.inr ⟨looked, label.1, environment, arguments, _,
          by rw [← proceeds], polling, calling, nonempty⟩)
  | poll process startedAt runs running idle stepped =>
      exact punctual.poll coherent running idle stepped
  | track processes process claimed _ polling returned aligned tracked =>
      exact punctual.trackAll polling returned aligned tracked
  | spawn process execution found executing unspawned =>
      exact punctual.setExecution _ _ (fun _ => rfl) (fun _ => rfl)
  | close process execution found alive =>
      exact punctual.setExecution _ _ (fun _ => rfl) (fun _ => rfl)
  | cleanup process execution found settled tracked =>
      exact punctual.setExecution _ _ (fun _ => rfl) (fun _ => rfl)
  | touch index process heartbeatAt arguments runs heartbeats stepped =>
      have kept := punctual.runs coherent stepped fun looked => by
        rw [untracked_start stepped]
        exact punctual.looked looked
      exact ⟨kept.logged, kept.looked, kept.awaited, kept.drained⟩
  | heartbeat | answer =>
      exact ⟨punctual.logged, punctual.looked, punctual.awaited,
        punctual.drained⟩
  | stop running =>
      refine ⟨punctual.logged, ?_, ?_, ?_⟩
      · intro looked
        cases looked
      · intro processes draining
        cases draining
      · intro drained
        cases drained
  | drain stopped =>
      have tracked : worker.untracked = [] := by
        by_contra pending
        exact early (.inl ⟨rfl, pending⟩)
      refine ⟨punctual.logged, fun _ => tracked, ?_, ?_⟩
      · rintro _ ⟨rfl⟩ execution member
        cases cleaned : execution.cleaned with
        | true =>
            exact .inl (coherent.settled execution member cleaned)
        | false =>
            refine .inr (List.mem_map.mpr ⟨execution, ?_, rfl⟩)
            exact List.mem_filter.mpr ⟨member, by rw [cleaned]; rfl⟩
      · intro impossible
        cases impossible
  | resolve awaited draining settled =>
      have looked : worker.shutdown.looked = true := by
        rw [draining]
        rfl
      refine ⟨punctual.logged, fun _ => punctual.looked looked, ?_, ?_⟩
      · intro processes impossible
        cases impossible
      · intro _ execution member
        rcases punctual.awaited draining execution member with
          already | listed
        · exact already
        · exact settled _ listed
  | expire awaited draining =>
      refine ⟨punctual.logged, ?_, ?_, ?_⟩
      · intro looked
        cases looked
      · intro processes draining
        cases draining
      · intro drained
        cases drained

end Punctual

/-- What is known of every tracked execution and its run. -/
def Recorded (worker : PullWorker) : Prop :=
  ∀ execution ∈ worker.executions,
    ∃ call,
      worker.runs.locals execution.process = .executeClaimedRun call ∧
        RunPool.Concluded execution.runId execution.dispatchId worker.runs
          call

namespace Recorded

variable {rows : JobRuns} {worker : PullWorker}

theorem runs
    {runs : RunPool}
    {label : Label RunInput}
    (coherent : Coherent rows worker)
    (recorded : worker.Recorded)
    (stepped : runSystem.step? worker.runs label = some runs)
    (caught : ¬ worker.ThrowsUncaught (.statement label)) :
    Recorded { worker with runs := runs } := by
  intro execution member
  obtain ⟨call, calling, concluded⟩ := recorded execution member
  refine concluded.step coherent.reachable
    (coherent.claimed _ (mem_claims member)) calling stepped ?_
  rintro environment rfl uncaught
  by_contra running
  exact caught ⟨execution, environment, call, member, rfl, calling,
    uncaught, running⟩

/-- The start of a call throws nothing. -/
theorem not_throwsUncaught_start
    {process : Nat}
    {request : RunRequest} :
    ¬ worker.ThrowsUncaught (.statement (process, .start request)) := by
  rintro ⟨execution, environment, call, -, impossible, -⟩
  cases impossible

theorem track
    {next : PullWorker}
    {claim : (String × String) × Nat}
    (coherent : Coherent rows worker)
    (recorded : worker.Recorded)
    (tracked : worker.track claim = some next) :
    next.Recorded := by
  obtain ⟨runs, stepped, rfl⟩ := track_eq_some tracked
  intro execution member
  rcases List.mem_cons.mp member with rfl | earlier
  · refine ⟨_, (RunPool.start_moves stepped).2.1, ⟨rfl, rfl⟩, ?_⟩
    intro settled
    cases settled
  · exact recorded.runs coherent stepped not_throwsUncaught_start
      execution earlier

theorem trackAll
    {next : PullWorker}
    {claimed : List ((String × String) × Nat)}
    (coherent : Coherent rows worker)
    (recorded : worker.Recorded)
    (tracked : Stepping.run? PullWorker.track worker claimed = some next) :
    next.Recorded := by
  induction claimed generalizing worker with
  | nil =>
      cases tracked
      exact recorded
  | cons claim rest inductionHypothesis =>
      obtain ⟨middle, first, later⟩ := Stepping.run?_cons.mp tracked
      exact inductionHypothesis (coherent.track first)
        (recorded.track coherent first) later

theorem setExecution
    {process : Nat}
    {change : TrackedExecution → TrackedExecution}
    (owned : Table String String)
    (activeByRunId : Table String Nat)
    (recorded : worker.Recorded)
    (sameProcess :
      ∀ execution, (change execution).process = execution.process)
    (sameClaim : ∀ execution, (change execution).claim = execution.claim) :
    Recorded
      { worker with
        owned := owned
        activeByRunId := activeByRunId
        executions := worker.setExecution process change } := by
  intro execution member
  obtain ⟨before, tracked, rfl⟩ := mem_setExecution.mp member
  have known := recorded before tracked
  split
  · obtain ⟨sameRun, sameToken⟩ := Prod.mk.inj (sameClaim before)
    rw [sameProcess, sameRun, sameToken]
    exact known
  · exact known

theorem move
    {maxConcurrency : Nat}
    {next : PullWorker}
    {input : WorkerInput}
    (coherent : Coherent rows worker)
    (recorded : worker.Recorded)
    (caught : ¬ worker.ThrowsUncaught input)
    (moved : Move maxConcurrency worker input next) :
    next.Recorded := by
  cases moved with
  | statement label runs allowed stepped =>
      exact recorded.runs coherent stepped caught
  | poll process startedAt runs running idle stepped =>
      exact recorded.runs coherent stepped not_throwsUncaught_start
  | track processes process claimed _ polling returned aligned tracked =>
      exact Recorded.trackAll (coherent.answered polling returned) recorded
        tracked
  | spawn process execution found executing unspawned =>
      exact recorded.setExecution _ _ (fun _ => rfl) (fun _ => rfl)
  | close process execution found alive =>
      exact recorded.setExecution _ _ (fun _ => rfl) (fun _ => rfl)
  | cleanup process execution found settled tracked =>
      exact recorded.setExecution _ _ (fun _ => rfl) (fun _ => rfl)
  | touch index process heartbeatAt arguments runs heartbeats stepped =>
      exact recorded.runs coherent stepped not_throwsUncaught_start
  | heartbeat | answer | stop | drain | resolve | expire =>
      exact recorded

end Recorded

/-- Where the claims are in every state of a run without a late claim. -/
theorem punctual_of_run
    {rows : JobRuns}
    {maxConcurrency : Nat}
    {worker : PullWorker}
    {inputs : List WorkerInput}
    (early :
      Stepping.Along (step maxConcurrency)
        (fun visited input => ¬ visited.ClaimsLate input)
        (initial rows) inputs)
    (ran :
      Stepping.run? (step maxConcurrency) (initial rows) inputs =
        some worker) :
    worker.Punctual := by
  have kept : Coherent rows worker ∧ worker.Punctual := by
    refine Stepping.run?_invariant _
      (fun visited => Coherent rows visited ∧ visited.Punctual) ?_ ?_
      early ran
    · have atStart :
          Stepping.run? (step maxConcurrency) (initial rows) [] =
            some (initial rows) :=
        rfl
      refine ⟨(records atStart).1, ?_, ?_, ?_, ?_⟩
      · intro process runId dispatchId polled
        cases polled
      · intro looked
        cases looked
      · intro processes draining
        cases draining
      · intro drained
        cases drained
    · rintro visited next input ⟨coherent, punctual⟩ inTime stepped
      have moved := move_of_step stepped
      exact ⟨coherent.move moved, punctual.move coherent inTime moved⟩
  exact kept.2

/-- What is known of the executions in a run in which all throws are caught. -/
theorem recorded_of_run
    {rows : JobRuns}
    {maxConcurrency : Nat}
    {worker : PullWorker}
    {inputs : List WorkerInput}
    (caught :
      Stepping.Along (step maxConcurrency)
        (fun visited input => ¬ visited.ThrowsUncaught input)
        (initial rows) inputs)
    (ran :
      Stepping.run? (step maxConcurrency) (initial rows) inputs =
        some worker) :
    worker.Recorded := by
  have kept : Coherent rows worker ∧ worker.Recorded := by
    refine Stepping.run?_invariant _
      (fun visited => Coherent rows visited ∧ visited.Recorded) ?_ ?_
      caught ran
    · have atStart :
          Stepping.run? (step maxConcurrency) (initial rows) [] =
            some (initial rows) :=
        rfl
      refine ⟨(records atStart).1, ?_⟩
      intro execution member
      cases member
    · rintro visited next input ⟨coherent, recorded⟩ uncaught stepped
      have moved := move_of_step stepped
      exact ⟨coherent.move moved, recorded.move coherent uncaught moved⟩
  exact kept.2

/--
In a run of the worker in which no claim comes late, every claim has a settled
execution whenever `drain` has resolved other than by its deadline; if no
execution's load or `markFailed` throws while its run is `RUNNING` either, no
run is `RUNNING` under a claim of the worker then.
-/
theorem drain_abandons_nothing
    {rows : JobRuns}
    {maxConcurrency : Nat}
    {inputs : List WorkerInput}
    (early :
      Stepping.Along (step maxConcurrency)
        (fun worker input => ¬ worker.ClaimsLate input)
        (initial rows) inputs) :
    SettlesClaims maxConcurrency rows inputs ∧
      (Stepping.Along (step maxConcurrency)
          (fun worker input => ¬ worker.ThrowsUncaught input)
          (initial rows) inputs →
        LeavesNoneRunning maxConcurrency rows inputs) := by
  have settles : SettlesClaims maxConcurrency rows inputs := by
    rintro earlier later worker runId dispatchId rfl ran drained
      ⟨process, polled, logged⟩
    have punctual := punctual_of_run early.earlier ran
    rcases punctual.logged polled logged with tracked | ⟨-, pending⟩
    · obtain ⟨execution, member, shape⟩ := List.mem_map.mp tracked
      exact ⟨execution, member, shape, punctual.drained drained _ member⟩
    · rw [punctual.looked (by rw [drained]; rfl)] at pending
      cases pending
  refine ⟨settles, ?_⟩
  rintro caught earlier later worker runId dispatchId rfl ran drained claimed
  obtain ⟨execution, member, shape, settled⟩ :=
    settles rfl ran drained claimed
  obtain ⟨call, calling, concluded⟩ :=
    recorded_of_run caught.earlier ran execution member
  cases shape
  rw [calling] at settled
  exact concluded.2 settled

/-- No batch is open or untracked as far as this input is concerned. -/
def claimsInTime
    (worker : PullWorker) :
    WorkerInput →
      Bool
  | .drain => worker.untracked.isEmpty
  | .statement _ => !worker.shutdown.looked || worker.poll.isNone
  | _ => true

theorem not_claimsLate_of_claimsInTime
    {worker : PullWorker}
    {input : WorkerInput}
    (inTime : worker.claimsInTime input = true) :
    ¬ worker.ClaimsLate input := by
  rintro (⟨rfl, pending⟩ | ⟨looked, _, _, _, _, rfl, polling, -⟩)
  · exact pending (List.isEmpty_iff.mp inTime)
  · simp [claimsInTime, looked, polling] at inTime

/-- The input is not that a call throws. -/
def throwsNothing : WorkerInput → Bool
  | .statement (_, .raise _) => false
  | _ => true

theorem not_throwsUncaught_of_throwsNothing
    {worker : PullWorker}
    {input : WorkerInput}
    (quiet : throwsNothing input = true) :
    ¬ worker.ThrowsUncaught input := by
  rintro ⟨_, _, _, -, rfl, -⟩
  cases quiet

/-- `SIGTERM` arrives while the only execution of the worker runs its job. -/
def drainedInTime : List WorkerInput :=
  queueNightly.map .statement ++ claimAndExecute 1 2 firstUuid ++
    [.stop, .drain] ++ endExecution 2 ++ [.resolve]

/-- The execution is awaited, and its run is `SUCCEEDED` afterwards. -/
theorem drain_abandons_nothing_drainedInTime :
    (Stepping.run? (step 10) (initial ∅) drainedInTime).map
          PullWorker.shutdown =
        some .drained ∧
      SettlesClaims 10 ∅ drainedInTime ∧
      LeavesNoneRunning 10 ∅ drainedInTime := by
  have early :
      Stepping.Along (step 10)
        (fun worker input => ¬ worker.ClaimsLate input)
        (initial ∅) drainedInTime :=
    Stepping.along_of_checkAlong claimsInTime not_claimsLate_of_claimsInTime
      (by decide)
  have caught :
      Stepping.Along (step 10)
        (fun worker input => ¬ worker.ThrowsUncaught input)
        (initial ∅) drainedInTime :=
    Stepping.along_of_checkAlong (fun _ input => throwsNothing input)
      not_throwsUncaught_of_throwsNothing (by decide)
  exact ⟨by decide, (drain_abandons_nothing early).1,
    (drain_abandons_nothing early).2 caught⟩

/-- `SIGTERM` arrives when a claim has committed and `pollOnce` has not resumed. -/
def drainedOverClaim : List WorkerInput :=
  queueNightly.map .statement ++
    .poll 1 6 ::
      List.replicate 4
        (.statement (1, .proceed (environmentAt 6 firstUuid))) ++
    [.stop, .drain, .resolve]

/-- The drain resolves at once; the claimed run is `RUNNING` for nobody. -/
theorem drainedOverClaim_abandons :
    ¬ SettlesClaims 10 ∅ drainedOverClaim ∧
      ¬ LeavesNoneRunning 10 ∅ drainedOverClaim := by
  have memory :
      (Stepping.run? (step 10) (initial ∅) drainedOverClaim).map
          (fun worker =>
            (worker.shutdown, worker.executions, worker.polls)) =
        some (.drained, [], [1]) := by
    decide
  have stored :
      (Stepping.run? (step 10) (initial ∅) drainedOverClaim).map
          (fun worker =>
            (worker.runs.shared.log,
              (worker.runs.shared.row nightlyRunId).map fun row =>
                (row.state, row.dispatchId))) =
        some ([(1, .claimed nightlyRunId "first")],
          some (.running, some "first")) := by
    decide
  obtain ⟨worker, ran, shape⟩ := Option.map_eq_some_iff.mp memory
  rw [ran, Option.map_some, Option.some_inj] at stored
  simp only [Prod.mk.injEq] at shape stored
  obtain ⟨drained, untracked, polled⟩ := shape
  obtain ⟨logged, stored⟩ := stored
  have claimed : worker.Claimed nightlyRunId "first" := by
    refine ⟨1, ?_, ?_⟩
    · rw [polled]
      exact List.mem_cons_self
    · rw [logged]
      exact List.mem_cons_self
  constructor
  · intro settles
    obtain ⟨execution, member, -⟩ :=
      settles (List.append_nil _).symm ran drained claimed
    rw [untracked] at member
    cases member
  · intro none
    obtain ⟨row, found, columns⟩ := Option.map_eq_some_iff.mp stored
    obtain ⟨running, bears⟩ := Prod.mk.inj columns
    exact none (List.append_nil _).symm ran drained claimed row found bears
      running

end PullWorker

end IgaScheduler

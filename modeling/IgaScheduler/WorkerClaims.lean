import IgaScheduler.BatchClaimExclusivity
import IgaScheduler.ClaimTokens
import IgaScheduler.PullWorker

namespace IgaScheduler

open Relational Interleaving

/-!
# What a pull worker has claimed and tracked

The executions of one worker, newest first, work for claims in the order in
which these were granted: the worker polls again only after it has tracked what
its last poll returned.
-/

namespace RunCall

theorem settled_stuck
    {call : RunCall}
    (settled : call.settled = true)
    (input : RunInput) :
    call.issue input = none := by
  cases call with
  | executeClaimedRun call =>
      cases call with
      | settled =>
          cases input <;> rfl
      | _ =>
          cases settled
  | _ =>
      cases settled

theorem pollReturn?_stuck
    {call : RunCall}
    {claimed : List (String × String)}
    (returned : call.pollReturn? = some claimed)
    (input : RunInput) :
    call.issue input = none := by
  cases call with
  | claimNextQueued call =>
      cases call with
      | done =>
          cases input <;> rfl
      | _ =>
          cases returned
  | _ =>
      cases returned

end RunCall

namespace RunPool

/-- A call is started on an idle process, once its admission is granted. -/
theorem start_moves
    {pool next : RunPool}
    {process : Nat}
    {request : RunRequest}
    (stepped : runSystem.step? pool (process, .start request) = some next) :
    pool.locals process = .idle ∧
      next.locals process = request.call ∧
      ∃ reply,
        pool.shared.exec process request.admission =
          some (next.shared, reply) := by
  obtain ⟨statement, reply, issued, executed, resumed⟩ :=
    step_moves stepped
  have idle : pool.locals process = .idle := by
    generalize pool.locals process = call at issued
    cases call with
    | idle =>
        rfl
    | _ =>
        cases issued
  refine ⟨idle, resumed, reply, ?_⟩
  change (pool.locals process).issue (.start request) = _ at issued
  rw [idle] at issued
  cases issued
  exact executed

/-- An execution stays one. -/
theorem executeClaimedRun_step
    {pool next : RunPool}
    {label : Label RunInput}
    {process : Nat}
    {call : Execution.Local}
    (stepped : runSystem.step? pool label = some next)
    (calling : pool.locals process = .executeClaimedRun call) :
    ∃ after, next.locals process = .executeClaimedRun after := by
  by_cases own : process = label.1
  · subst own
    obtain ⟨statement, reply, issued, -, resumed⟩ := step_moves stepped
    rw [calling] at issued resumed
    rcases label with ⟨process, input⟩
    cases input with
    | start request =>
        cases issued
    | proceed environment | raise environment =>
        exact ⟨_, resumed⟩
  · exact ⟨call, (System.step?_locals_other stepped own).trans calling⟩

/-- A batch claim stays one. -/
theorem claimNextQueued_step
    {pool next : RunPool}
    {label : Label RunInput}
    {process : Nat}
    {call : ClaimNextQueued.Local}
    (stepped : runSystem.step? pool label = some next)
    (calling : pool.locals process = .claimNextQueued call) :
    ∃ after, next.locals process = .claimNextQueued after := by
  by_cases own : process = label.1
  · subst own
    obtain ⟨_, _, after, _, resumed, _⟩ :=
      claimNextQueued_move stepped calling
    exact ⟨after, resumed⟩
  · exact ⟨call, (System.step?_locals_other stepped own).trans calling⟩

/-- A claim that has been made stays in the log. -/
theorem claimed_step
    {pool next : RunPool}
    {label : Label RunInput}
    {runId dispatchId : String}
    (stepped : runSystem.step? pool label = some next)
    (claimed : pool.shared.Claimed runId dispatchId) :
    next.shared.Claimed runId dispatchId := by
  obtain ⟨_, _, _, executed, _⟩ := step_moves stepped
  exact RunDatabase.exec_claimed executed claimed

/-- What `pollOnce` goes on with is empty or the batch of a committed claim. -/
theorem pollReturn?_done
    {pool : RunPool}
    {process : Nat}
    {claimed : List (String × String)}
    (returned : (pool.locals process).pollReturn? = some claimed) :
    claimed = [] ∨
      ∃ arguments,
        pool.locals process = .claimNextQueued (.done arguments (.ok claimed)) := by
  generalize pool.locals process = call at returned
  cases call with
  | claimNextQueued call =>
      cases call with
      | done arguments outcome =>
          cases outcome with
          | ok pairs =>
              cases returned
              exact .inr ⟨arguments, rfl⟩
          | error =>
              cases returned
              exact .inl rfl
      | _ =>
          cases returned
  | _ =>
      cases returned

/--
The first claim bears another identifier than the second and, if they are of
one run, has superseded it.
-/
def Follows
    (pool : RunPool)
    (newer older : String × String) :
    Prop :=
  newer.2 ≠ older.2 ∧
    (newer.1 = older.1 →
      Fencing.Superseded (pool.shared.history newer.1) older.2)

theorem Follows.step
    {pool next : RunPool}
    {label : Label RunInput}
    {newer older : String × String}
    (follows : pool.Follows newer older)
    (stepped : runSystem.step? pool label = some next) :
    next.Follows newer older := by
  obtain ⟨_, _, _, executed, _⟩ := step_moves stepped
  refine ⟨follows.1, fun same => ?_⟩
  rw [RunDatabase.exec_history executed]
  exact (follows.2 same).append _

/-- The claims of a batch that has just committed follow all earlier claims. -/
theorem Reachable.committed_follows
    {rows : JobRuns}
    {pool next : RunPool}
    {label : Label RunInput}
    {arguments : ClaimNextQueued.Arguments}
    {claimed claims : List (String × String)}
    (reachable : Reachable rows pool)
    (stepped : runSystem.step? pool label = some next)
    (returned :
      next.locals label.1 =
        .claimNextQueued (.done arguments (.ok claimed)))
    (known : ∀ claim ∈ claims, pool.shared.Claimed claim.1 claim.2)
    (ordered : claims.Pairwise next.Follows) :
    (claimed.reverse ++ claims).Pairwise next.Follows := by
  obtain ⟨calling, -⟩ := committed_of_done stepped returned
  obtain ⟨transaction, -, claiming⟩ := reachable.batchesHold _ _ calling
  obtain ⟨published, -, -⟩ := reachable.committed_batch stepped returned
  refine List.pairwise_append.mpr ⟨?_, ordered, ?_⟩
  · have unlisted : (claimed.map Prod.fst).Nodup := by
      simpa using claiming.once
    have once : claimed.Pairwise fun first second => first.1 ≠ second.1 :=
      List.pairwise_map.mp unlisted
    have distinct :
        claimed.Pairwise fun first second => first.2 ≠ second.2 :=
      List.pairwise_map.mp claiming.distinct
    refine List.pairwise_reverse.mpr (once.imp₂ ?_ distinct)
    intro first second otherRun otherToken
    exact ⟨otherToken.symm, fun same => (otherRun same.symm).elim⟩
  · rintro ⟨newRun, newToken⟩ member ⟨oldRun, oldToken⟩ tracked
    have listed : (newRun, newToken) ∈ claimed := List.mem_reverse.mp member
    have earlier : pool.shared.Claimed oldRun oldToken :=
      known _ tracked
    constructor
    · intro same
      change newToken = oldToken at same
      subst same
      exact reachable.tokensApart.unlogged
        ⟨arguments, [], claimed, calling, listed⟩ earlier
    · intro same
      change newRun = oldRun at same
      subst same
      change Fencing.Superseded (next.shared.history newRun) oldToken
      rw [(published listed).2]
      exact Fencing.superseded_of_granted
        (RunDatabase.claimed_iff_granted.mp earlier) newToken

end RunPool

namespace PullWorker

/-- The claims of the tracked executions, newest first. -/
def claims (worker : PullWorker) : List (String × String) :=
  worker.executions.map TrackedExecution.claim

/-- What the poll has been returned and has not yet tracked. -/
def untracked (worker : PullWorker) : List (String × String) :=
  (worker.poll.bind fun process =>
    (worker.runs.locals process).pollReturn?).getD []

/-- How the worker's records belong to its calls. -/
structure Coherent
    (rows : JobRuns)
    (worker : PullWorker) :
    Prop where
  reachable : RunPool.Reachable rows worker.runs
  executing :
    ∀ execution ∈ worker.executions,
      ∃ call,
        worker.runs.locals execution.process = .executeClaimedRun call
  apart :
    (worker.executions.map fun execution => execution.process).Nodup
  settled :
    ∀ execution ∈ worker.executions,
      execution.cleaned = true →
      (worker.runs.locals execution.process).settled = true
  claimed :
    ∀ claim ∈ worker.claims,
      worker.runs.shared.Claimed claim.1 claim.2
  polling :
    ∀ process ∈ worker.poll,
      ∃ call, worker.runs.locals process = .claimNextQueued call
  polled :
    ∀ process ∈ worker.polls,
      worker.poll = some process ∨
        ∃ arguments outcome,
          worker.runs.locals process =
            .claimNextQueued (.done arguments outcome)

/-- The tracked claims and those to be tracked next are in order. -/
def Ordered
    (worker : PullWorker)
    (pending : List (String × String)) :
    Prop :=
  (pending.reverse ++ worker.claims).Pairwise worker.runs.Follows

theorem mem_claims
    {worker : PullWorker}
    {execution : TrackedExecution}
    (member : execution ∈ worker.executions) :
    execution.claim ∈ worker.claims :=
  List.mem_map.mpr ⟨execution, member, rfl⟩

theorem mem_setExecution
    {worker : PullWorker}
    {process : Nat}
    {change : TrackedExecution → TrackedExecution}
    {execution : TrackedExecution} :
    execution ∈ worker.setExecution process change ↔
      ∃ before ∈ worker.executions,
        execution =
          if before.process = process then change before else before := by
  simp only [setExecution, List.mem_map, eq_comm]

namespace Coherent

variable {rows : JobRuns} {worker : PullWorker}

/-- A step of some call keeps the records. -/
theorem runs
    {runs : RunPool}
    {label : Label RunInput}
    (coherent : Coherent rows worker)
    (stepped : runSystem.step? worker.runs label = some runs) :
    Coherent rows { worker with runs := runs } where
  reachable := coherent.reachable.step stepped
  executing := by
    intro execution member
    obtain ⟨call, calling⟩ := coherent.executing execution member
    exact RunPool.executeClaimedRun_step stepped calling
  apart := coherent.apart
  settled := by
    intro execution member cleaned
    have settled := coherent.settled execution member cleaned
    change (runs.locals execution.process).settled = true
    rw [System.step?_locals_of_stuck stepped
      (RunCall.settled_stuck settled)]
    exact settled
  claimed := by
    intro claim member
    exact RunPool.claimed_step stepped (coherent.claimed claim member)
  polling := by
    intro process polling
    obtain ⟨call, calling⟩ := coherent.polling process polling
    exact RunPool.claimNextQueued_step stepped calling
  polled := by
    intro process member
    rcases coherent.polled process member with
      outstanding | ⟨arguments, outcome, returned⟩
    · exact .inl outstanding
    · refine .inr ⟨arguments, outcome, ?_⟩
      change runs.locals process = _
      rw [System.step?_locals_of_stuck stepped, returned]
      intro input
      rw [returned]
      cases input <;> rfl

/-- The next poll is awaited. -/
theorem poll
    {runs : RunPool}
    {process : Nat}
    {arguments : ClaimNextQueued.Arguments}
    (coherent : Coherent rows worker)
    (idle : worker.poll = none)
    (stepped :
      runSystem.step? worker.runs
          (process, .start (.claimNextQueued arguments)) =
        some runs) :
    Coherent rows
      { worker with
        runs := runs
        poll := some process
        polls := process :: worker.polls } where
  reachable := (coherent.runs stepped).reachable
  executing := (coherent.runs stepped).executing
  apart := coherent.apart
  settled := (coherent.runs stepped).settled
  claimed := (coherent.runs stepped).claimed
  polling := by
    rintro _ ⟨rfl⟩
    exact ⟨_, (RunPool.start_moves stepped).2.1⟩
  polled := by
    intro other member
    rcases List.mem_cons.mp member with rfl | earlier
    · exact .inl rfl
    · rcases (coherent.runs stepped).polled other earlier with
        outstanding | returned
      · rw [show worker.poll = some other from outstanding] at idle
        cases idle
      · exact .inr returned

/-- The poll has been answered. -/
theorem answered
    {process : Nat}
    {claimed : List (String × String)}
    (coherent : Coherent rows worker)
    (polling : worker.poll = some process)
    (returned :
      (worker.runs.locals process).pollReturn? = some claimed) :
    Coherent rows { worker with poll := none } where
  reachable := coherent.reachable
  executing := coherent.executing
  apart := coherent.apart
  settled := coherent.settled
  claimed := coherent.claimed
  polling := by
    intro other impossible
    cases impossible
  polled := by
    intro other member
    rcases coherent.polled other member with outstanding | done
    · cases polling.symm.trans outstanding
      refine .inr ?_
      change ∃ arguments outcome, worker.runs.locals process = _
      generalize worker.runs.locals process = call at returned
      cases call with
      | claimNextQueued call =>
          cases call with
          | done arguments outcome =>
              exact ⟨arguments, outcome, rfl⟩
          | _ =>
              cases returned
      | _ =>
          cases returned
    · exact .inr done

/-- One more execution is tracked. -/
theorem track
    {next : PullWorker}
    {claim : (String × String) × Nat}
    (coherent : Coherent rows worker)
    (tracked : worker.track claim = some next) :
    Coherent rows next := by
  obtain ⟨runs, stepped, rfl⟩ := track_eq_some tracked
  obtain ⟨idle, started, reply, shown⟩ := RunPool.start_moves stepped
  have kept := coherent.runs stepped
  refine ⟨kept.reachable, ?_, ?_, ?_, ?_, kept.polling, kept.polled⟩
  · intro execution member
    rcases List.mem_cons.mp member with rfl | earlier
    · exact ⟨_, started⟩
    · exact kept.executing execution earlier
  · refine List.nodup_cons.mpr ⟨?_, coherent.apart⟩
    intro again
    obtain ⟨execution, member, same⟩ := List.mem_map.mp again
    obtain ⟨call, calling⟩ := coherent.executing execution member
    rw [same, idle] at calling
    cases calling
  · intro execution member cleaned
    rcases List.mem_cons.mp member with rfl | earlier
    · cases cleaned
    · exact kept.settled execution earlier cleaned
  · intro known member
    rcases List.mem_cons.mp member with rfl | earlier
    · exact RunDatabase.exec_claimed shown (RunDatabase.exec_present shown)
    · exact kept.claimed known earlier

/-- What is recorded of an execution besides its claim has changed. -/
theorem setExecution
    {process : Nat}
    {change : TrackedExecution → TrackedExecution}
    (coherent : Coherent rows worker)
    (owned : Table String String)
    (activeByRunId : Table String Nat)
    (sameProcess :
      ∀ execution, (change execution).process = execution.process)
    (sameClaim : ∀ execution, (change execution).claim = execution.claim)
    (settled :
      ∀ execution ∈ worker.executions,
        execution.process = process →
        (change execution).cleaned = true →
        (worker.runs.locals process).settled = true) :
    Coherent rows
      { worker with
        owned := owned
        activeByRunId := activeByRunId
        executions := worker.setExecution process change } := by
  refine ⟨coherent.reachable, ?_, ?_, ?_, ?_, coherent.polling,
    coherent.polled⟩
  · intro execution member
    obtain ⟨before, tracked, rfl⟩ := mem_setExecution.mp member
    have calling := coherent.executing before tracked
    split
    · rwa [sameProcess]
    · exact calling
  · have same :
        (worker.setExecution process change).map
            (fun execution => execution.process) =
          worker.executions.map fun execution => execution.process := by
      rw [PullWorker.setExecution, List.map_map]
      refine List.map_congr_left fun execution _ => ?_
      simp only [Function.comp_apply]
      split
      · exact sameProcess execution
      · rfl
    change (List.map _ (worker.setExecution process change)).Nodup
    rw [same]
    exact coherent.apart
  · intro execution member cleaned
    obtain ⟨before, tracked, rfl⟩ := mem_setExecution.mp member
    change (worker.runs.locals _).settled = true
    split at cleaned
    · rename_i own
      rw [if_pos own, sameProcess, own]
      exact settled before tracked own cleaned
    · rename_i other
      rw [if_neg other]
      exact coherent.settled before tracked cleaned
  · intro claim member
    obtain ⟨execution, tracked, rfl⟩ := List.mem_map.mp member
    obtain ⟨before, trackedBefore, rfl⟩ := mem_setExecution.mp tracked
    have known := coherent.claimed _ (mem_claims trackedBefore)
    split
    · rwa [sameClaim]
    · exact known

/-- The whole batch is tracked. -/
theorem trackAll
    {next : PullWorker}
    {claimed : List ((String × String) × Nat)}
    (coherent : Coherent rows worker)
    (tracked : Stepping.run? PullWorker.track worker claimed = some next) :
    Coherent rows next :=
  Stepping.run?_invariant (fun _ _ => True)
    (fun visited => Coherent rows visited) coherent
    (fun before _ stepped => before.track stepped)
    (fun _ _ => trivial) tracked

/-- Every step keeps the records. -/
theorem move
    {maxConcurrency : Nat}
    {next : PullWorker}
    {input : WorkerInput}
    (coherent : Coherent rows worker)
    (moved : Move maxConcurrency worker input next) :
    Coherent rows next := by
  cases moved with
  | statement label runs allowed stepped =>
      exact coherent.runs stepped
  | poll process startedAt runs running idle stepped =>
      exact coherent.poll idle stepped
  | track processes process claimed _ polling returned aligned tracked =>
      exact (coherent.answered polling returned).trackAll tracked
  | spawn process execution found executing unspawned =>
      refine coherent.setExecution _ _ (fun _ => rfl) (fun _ => rfl) ?_
      intro other member own cleaned
      rw [← own]
      exact coherent.settled other member cleaned
  | close process execution found alive =>
      refine coherent.setExecution _ _ (fun _ => rfl) (fun _ => rfl) ?_
      intro other member own cleaned
      rw [← own]
      exact coherent.settled other member cleaned
  | cleanup process execution found settled tracked =>
      exact coherent.setExecution _ _ (fun _ => rfl) (fun _ => rfl)
        (fun _ _ _ _ => settled)
  | touch index process heartbeatAt arguments runs heartbeats stepped =>
      have kept := coherent.runs stepped
      exact ⟨kept.reachable, kept.executing, kept.apart, kept.settled,
        kept.claimed, kept.polling, kept.polled⟩
  | heartbeat | answer | stop | drain | resolve | expire =>
      exact ⟨coherent.reachable, coherent.executing, coherent.apart,
        coherent.settled, coherent.claimed, coherent.polling,
        coherent.polled⟩

end Coherent

/-- What is untracked after a step of some call. -/
theorem untracked_runs
    {worker : PullWorker}
    {runs : RunPool}
    {label : Label RunInput}
    (stepped : runSystem.step? worker.runs label = some runs) :
    { worker with runs := runs }.untracked = worker.untracked ∨
      worker.untracked = [] ∧
        ∃ arguments,
          worker.poll = some label.1 ∧
            runs.locals label.1 =
              .claimNextQueued (.done arguments
                (.ok { worker with runs := runs }.untracked)) := by
  unfold untracked
  cases polling : worker.poll with
  | none =>
      exact .inl rfl
  | some process =>
      change (runs.locals process).pollReturn?.getD [] =
          (worker.runs.locals process).pollReturn?.getD [] ∨ _
      cases returned : (worker.runs.locals process).pollReturn? with
      | some claimed =>
          rw [System.step?_locals_of_stuck stepped
            (RunCall.pollReturn?_stuck returned), returned]
          exact .inl rfl
      | none =>
          by_cases own : process = label.1
          · subst own
            cases answered : (runs.locals label.1).pollReturn? with
            | none =>
                exact .inl rfl
            | some claimed =>
                rcases RunPool.pollReturn?_done answered with
                  rfl | ⟨arguments, done⟩
                · exact .inl rfl
                · refine .inr ⟨?_, arguments, rfl, ?_⟩
                  · simp [returned]
                  · simpa [answered] using done
          · rw [System.step?_locals_other stepped own, returned]
            exact .inl rfl

namespace Ordered

variable {rows : JobRuns} {worker : PullWorker}

theorem runs
    {runs : RunPool}
    {label : Label RunInput}
    (coherent : Coherent rows worker)
    (ordered : worker.Ordered worker.untracked)
    (stepped : runSystem.step? worker.runs label = some runs) :
    Ordered { worker with runs := runs }
      { worker with runs := runs }.untracked := by
  have kept := ordered.imp fun follows => follows.step stepped
  rcases untracked_runs stepped with same | ⟨empty, arguments, -, done⟩
  · rw [same]
    exact kept
  · rw [empty] at kept
    exact coherent.reachable.committed_follows stepped done
      coherent.claimed kept

/-- Tracking a claim moves it from the pending ones to the tracked ones. -/
theorem track
    {next : PullWorker}
    {claim : (String × String) × Nat}
    {rest : List (String × String)}
    (ordered : worker.Ordered (claim.1 :: rest))
    (tracked : worker.track claim = some next) :
    next.Ordered rest := by
  obtain ⟨runs, stepped, rfl⟩ := track_eq_some tracked
  have kept := ordered.imp fun follows => follows.step stepped
  rw [List.reverse_cons, List.append_assoc] at kept
  exact kept

theorem trackAll
    {next : PullWorker}
    {claimed : List ((String × String) × Nat)}
    (ordered : worker.Ordered (claimed.map Prod.fst))
    (tracked : Stepping.run? PullWorker.track worker claimed = some next) :
    next.Ordered [] := by
  induction claimed generalizing worker with
  | nil =>
      cases tracked
      exact ordered
  | cons claim rest inductionHypothesis =>
      obtain ⟨middle, first, later⟩ := Stepping.run?_cons.mp tracked
      exact inductionHypothesis (ordered.track first) later

end Ordered

/-- Tracking a batch logs nothing. -/
theorem trackAll_frame
    {worker next : PullWorker}
    {claimed : List ((String × String) × Nat)}
    (tracked : Stepping.run? track worker claimed = some next) :
    next.runs.shared.log = worker.runs.shared.log ∧
      next.poll = worker.poll ∧
      next.polls = worker.polls ∧
      next.shutdown = worker.shutdown ∧
      next.claims = (claimed.map Prod.fst).reverse ++ worker.claims := by
  induction claimed generalizing worker with
  | nil =>
      cases tracked
      exact ⟨rfl, rfl, rfl, rfl, rfl⟩
  | cons claim rest inductionHypothesis =>
      obtain ⟨middle, first, later⟩ := Stepping.run?_cons.mp tracked
      obtain ⟨runs, stepped, rfl⟩ := track_eq_some first
      obtain ⟨-, -, reply, shown⟩ := RunPool.start_moves stepped
      have quiet : runs.shared.log = worker.runs.shared.log :=
        RunDatabase.exec_log shown
      obtain ⟨log, poll, polls, shutdown, claims⟩ := inductionHypothesis later
      refine ⟨log.trans quiet, poll, polls, shutdown, ?_⟩
      rw [claims, List.map_cons, List.reverse_cons, List.append_assoc]
      rfl

theorem claims_setExecution
    {worker : PullWorker}
    {process : Nat}
    {change : TrackedExecution → TrackedExecution}
    (sameClaim : ∀ execution, (change execution).claim = execution.claim) :
    (worker.setExecution process change).map TrackedExecution.claim =
      worker.claims := by
  rw [setExecution, List.map_map, claims]
  refine List.map_congr_left fun execution _ => ?_
  simp only [Function.comp_apply]
  split
  · exact sameClaim execution
  · rfl

/-- Every step keeps the order. -/
theorem Ordered.move
    {rows : JobRuns}
    {maxConcurrency : Nat}
    {worker next : PullWorker}
    {input : WorkerInput}
    (coherent : Coherent rows worker)
    (ordered : worker.Ordered worker.untracked)
    (moved : Move maxConcurrency worker input next) :
    next.Ordered next.untracked := by
  have relabelled
      {process : Nat}
      {change : TrackedExecution → TrackedExecution}
      (sameClaim :
        ∀ execution, (change execution).claim = execution.claim) :
      (worker.untracked.reverse ++
          (worker.setExecution process change).map
            TrackedExecution.claim).Pairwise
        worker.runs.Follows := by
    rw [claims_setExecution sameClaim]
    exact ordered
  cases moved with
  | statement label runs allowed stepped =>
      exact Ordered.runs coherent ordered stepped
  | poll process startedAt runs running idle stepped =>
      have kept := Ordered.runs coherent ordered stepped
      have started := (RunPool.start_moves stepped).2.1
      simp only [Ordered, untracked, idle] at kept
      simp only [Ordered, untracked, Option.bind_some, started]
      exact kept
  | track processes process claimed _ polling returned aligned tracked =>
      have pending : worker.untracked = claimed := by
        simp [untracked, polling, returned]
      have closed : next.untracked = [] := by
        simp [untracked, (trackAll_frame tracked).2.1]
      rw [closed]
      refine Ordered.trackAll ?_ tracked
      rw [List.map_fst_zip aligned.le, ← pending]
      exact ordered
  | spawn process execution found executing unspawned =>
      exact relabelled fun _ => rfl
  | close process execution found alive =>
      exact relabelled fun _ => rfl
  | cleanup process execution found settled tracked =>
      exact relabelled fun _ => rfl
  | touch index process heartbeatAt arguments runs heartbeats stepped =>
      exact Ordered.runs coherent ordered stepped
  | heartbeat | answer | stop | drain | resolve | expire =>
      exact ordered

/-- The worker's records in every state that it can reach. -/
theorem records
    {rows : JobRuns}
    {maxConcurrency : Nat}
    {worker : PullWorker}
    {inputs : List WorkerInput}
    (ran :
      Stepping.run? (step maxConcurrency) (initial rows) inputs =
        some worker) :
    Coherent rows worker ∧ worker.Ordered worker.untracked := by
  refine Stepping.run?_invariant (fun _ _ => True)
    (fun visited => Coherent rows visited ∧
      visited.Ordered visited.untracked) ?_ ?_ (fun _ _ => trivial) ran
  · refine ⟨⟨.initial rows, ?_, List.nodup_nil, ?_, ?_, ?_, ?_⟩, .nil⟩
    all_goals
      intro record member
      cases member
  · rintro visited after input ⟨coherent, ordered⟩ - stepped
    have moved := move_of_step stepped
    exact ⟨coherent.move moved, Ordered.move coherent ordered moved⟩

end PullWorker

end IgaScheduler

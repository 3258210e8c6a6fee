import IgaScheduler.RunEffects

namespace IgaScheduler

open Relational Interleaving

/-!
# Batch claims are exclusive

A run is claimed at most once between two retries, a committed batch is what
the table holds, and a batch that fails has never happened.
-/

/-- The row and the history of a run whose claims do not overlap. -/
structure ClaimedOnce
    (row : Option JobRun)
    (history : Fencing.History String) :
    Prop where
  free :
    (∀ stored ∈ row, stored.state = .queued) →
      Fencing.holder history = none
  exclusive : Fencing.Exclusive history

namespace ClaimedOnce

/-- A claim of a queued row leaves a history whose claims do not overlap. -/
theorem claim
    {row claimed : JobRun}
    {history : Fencing.History String}
    {dispatchId : String}
    (once : ClaimedOnce (some row) history)
    (isQueued : row.state = .queued)
    (isRunning : claimed.state = .running) :
    ClaimedOnce (some claimed) (.granted dispatchId :: history) where
  free := by
    intro queued
    have impossible := queued claimed rfl
    rw [isRunning] at impossible
    cases impossible
  exclusive := by
    have free : Fencing.holder history = none := by
      apply once.free
      intro stored same
      cases same
      exact isQueued
    exact ⟨free, once.exclusive⟩

/-- A write that does not put the run back in the queue keeps its history. -/
theorem leave
    {row : Option JobRun}
    {written : JobRun}
    {history : Fencing.History String}
    (once : ClaimedOnce row history)
    (notQueued : written.state ≠ .queued) :
    ClaimedOnce (some written) history ∧
      ClaimedOnce (some written) (.ended :: history) := by
  have vacuous
      (queued : ∀ stored ∈ some written, stored.state = .queued) :
      False :=
    notQueued (queued written rfl)
  exact ⟨⟨fun queued => (vacuous queued).elim, once.exclusive⟩,
    ⟨fun queued => (vacuous queued).elim, once.exclusive⟩⟩

/-- Every effect keeps the claims of a run apart. -/
theorem effect
    {runId : String}
    {before after : Option JobRun}
    {statement : RunStatement}
    {history events : Fencing.History String}
    (once : ClaimedOnce before history)
    (happened : RunEffect runId before statement after events) :
    ClaimedOnce after (events ++ history) := by
  cases happened with
  | kept =>
      exact once
  | created document sameRun absent =>
      subst absent
      exact ⟨fun _ => once.free (by simp), once.exclusive⟩
  | published claimed row startedAt dispatchId found isQueued member =>
      subst found
      exact once.claim isQueued rfl
  | written write row found admitted =>
      subst found
      have source := RunWrite.state_mem_sources admitted
      have state := RunWrite.set_state write row
      cases write with
      | claimRun startedAt status dispatchId =>
          exact once.claim (by simpa [RunWrite.sources] using source) rfl
      | retry nextAttempt dispatchId nowIso now =>
          exact ⟨fun _ => rfl, once.exclusive⟩
      | recordRuntimeExecution =>
          refine (once.leave ?_).1
          rw [state]
          simp_all [RunWrite.sources, RunWrite.target]
      | touchHeartbeat =>
          refine (once.leave ?_).1
          rw [state]
          rcases (by simpa [RunWrite.sources] using source) with
            running | cancelling
          · simp [RunWrite.target, running]
          · simp [RunWrite.target, cancelling]
      | markSucceeded | markFailed | cancelRunning =>
          exact (once.leave (by simp [RunWrite.target])).2
      | markCancelled | cancelQueued | killed =>
          exact (once.leave (by simp [RunWrite.target])).1

end ClaimedOnce

namespace RunPool

theorem Reachable.claimedOnce
    {rows : JobRuns}
    {pool : RunPool}
    (reachable : Reachable rows pool)
    (runId : String) :
    ClaimedOnce (pool.shared.row runId) (pool.shared.history runId) := by
  obtain ⟨schedule, ran⟩ := reachable
  refine System.run?_induction
    (fun _ visited =>
      ClaimedOnce (visited.shared.row runId)
        (visited.shared.history runId)) ?_ ?_ ran
  · exact ⟨fun _ => rfl, trivial⟩
  · intro earlier visited next label ranEarlier once stepped
    obtain ⟨statement, reply, events, -, -, -, history, effect⟩ :=
      Reachable.runEffect ⟨earlier, ranEarlier⟩ stepped runId
    rw [history]
    exact once.effect effect

/-- A batch claim that has returned has just committed. -/
theorem committed_of_done
    {pool next : RunPool}
    {label : Label RunInput}
    {arguments : ClaimNextQueued.Arguments}
    {claimed : List (String × String)}
    (stepped : runSystem.step? pool label = some next)
    (returned :
      next.locals label.1 =
        .claimNextQueued (.done arguments (.ok claimed))) :
    pool.locals label.1 =
        .claimNextQueued (.claiming arguments [] claimed) ∧
      ∃ reply,
        pool.shared.exec label.1 (.commitClaims claimed) =
          some (next.shared, reply) := by
  rcases claimNextQueued_before stepped returned with
    ⟨call, calling⟩ | ⟨_, impossible⟩
  · obtain ⟨statement, reply, after, executed, resumed, moved⟩ :=
      claimNextQueued_move stepped calling
    cases resumed.symm.trans returned
    cases moved with
    | commit =>
        exact ⟨calling, reply, executed⟩
  · cases impossible

/-- A batch claim that has thrown has just rolled its transaction back. -/
theorem rolledBack_of_done
    {pool next : RunPool}
    {label : Label RunInput}
    {arguments : ClaimNextQueued.Arguments}
    {error : CallError}
    (stepped : runSystem.step? pool label = some next)
    (returned :
      next.locals label.1 =
        .claimNextQueued (.done arguments (.error error))) :
    pool.locals label.1 = .claimNextQueued (.rollingBack arguments) ∧
      ∃ reply,
        pool.shared.exec label.1 .rollback = some (next.shared, reply) := by
  rcases claimNextQueued_before stepped returned with
    ⟨call, calling⟩ | ⟨_, impossible⟩
  · obtain ⟨statement, reply, after, executed, resumed, moved⟩ :=
      claimNextQueued_move stepped calling
    cases resumed.symm.trans returned
    cases moved with
    | rollback =>
        exact ⟨calling, reply, executed⟩
  · cases impossible

/-- What a committed batch returns is what the table holds. -/
theorem Reachable.committed_batch
    {rows : JobRuns}
    {pool next : RunPool}
    {label : Label RunInput}
    {arguments : ClaimNextQueued.Arguments}
    {claimed : List (String × String)}
    (reachable : Reachable rows pool)
    (stepped : runSystem.step? pool label = some next)
    (returned :
      next.locals label.1 =
        .claimNextQueued (.done arguments (.ok claimed))) :
    (∀ {runId dispatchId : String},
        (runId, dispatchId) ∈ claimed →
        (∃ row,
          next.shared.row runId = some row ∧
            row.state = .running ∧
            row.dispatchId = some dispatchId) ∧
          next.shared.history runId =
            .granted dispatchId :: pool.shared.history runId) ∧
      (claimed.map Prod.snd).Nodup ∧
      claimed.length ≤ arguments.limit := by
  obtain ⟨calling, reply, executed⟩ := committed_of_done stepped returned
  obtain ⟨transaction, opened, claiming⟩ :=
    reachable.batchesHold _ _ calling
  refine ⟨?_, claiming.distinct, by simpa using claiming.bounded⟩
  intro runId dispatchId member
  obtain ⟨row, written, bears⟩ := claiming.written member
  obtain ⟨committed, startedAt, token, stored, isQueued, rfl, -⟩ :=
    reachable.pendingClaims.writes opened written
  have stored :=
    RunDatabase.exec_commitClaims executed opened runId
  rw [written] at stored
  have once : (claimed.map Prod.fst).Nodup := by
    simpa using claiming.once
  refine ⟨⟨_, stored, rfl, bears⟩, ?_⟩
  rw [RunDatabase.exec_history executed, RunStatement.events,
    filterMap_claims_of_mem once member]
  rfl

/-- While a batch is open, its process holds the candidate's lock. -/
def HoldsCandidate
    (process : Nat)
    (runId : String)
    (row : JobRun)
    (pool : RunPool) :
    Prop :=
  ∃ call transaction,
    pool.locals process = .claimNextQueued call ∧
      (∀ arguments, call ≠ .start arguments) ∧
      pool.shared.database.transactions.lookup process =
        some transaction ∧
      runId ∈ transaction.locked ∧
      pool.shared.row runId = some row

/-- A locked candidate stays as it is until its batch is over. -/
theorem HoldsCandidate.step
    {rows : JobRuns}
    {process : Nat}
    {runId : String}
    {row : JobRun}
    {pool next : RunPool}
    {label : Label RunInput}
    (reachable : Reachable rows pool)
    (holds : HoldsCandidate process runId row pool)
    (stepped : runSystem.step? pool label = some next) :
    HoldsCandidate process runId row next ∨
      ∃ arguments outcome,
        next.locals process =
          .claimNextQueued (.done arguments outcome) := by
  obtain ⟨call, transaction, calling, begun, opened, held, stored⟩ := holds
  by_cases own : process = label.1
  · subst own
    obtain ⟨statement, reply, after, executed, resumed, moved⟩ :=
      claimNextQueued_move stepped calling
    have effect := RunDatabase.exec_rowEffect executed runId
    have known := reachable.batchesHold _ _ calling
    cases moved with
    | begin arguments =>
        exact (begun arguments rfl).elim
    | select arguments =>
        obtain ⟨-, -, later, openedLater, work⟩ :=
          RunDatabase.exec_selectQueuedForUpdate executed opened
        refine .inl ⟨_, later, resumed, by simp, openedLater, ?_, ?_⟩
        · rw [work]
          exact List.mem_append_right _ held
        · generalize next.shared.row runId = result at effect ⊢
          cases effect
          exact stored
    | claim arguments candidate rest claimed dispatchId =>
        obtain ⟨before, openedBefore, claiming⟩ := known
        cases opened.symm.trans openedBefore
        have unwritten : candidate ∉ transaction.writes := by
          intro written
          exact (List.nodup_append.mp claiming.once).2.2
            candidate (claiming.nothingElse candidate written)
            candidate List.mem_cons_self rfl
        obtain ⟨queued, found, isQueued⟩ :=
          reachable.pendingClaims.locked opened candidate
            (claiming.locked candidate List.mem_cons_self)
        obtain ⟨later, openedLater, work⟩ :=
          RunDatabase.exec_claimCandidate executed opened unwritten
            found isQueued
        refine .inl ⟨_, later, resumed, by simp, openedLater, ?_, ?_⟩
        · rw [work]
          exact List.mem_cons_of_mem _ held
        · generalize next.shared.row runId = result at effect ⊢
          cases effect
          exact stored
    | commit arguments claimed =>
        exact .inr ⟨arguments, .ok claimed, resumed⟩
    | throw call unsettled =>
        obtain ⟨-, performed, ran, shape⟩ :=
          RunDatabase.exec_eq_some executed
        cases ran
        refine .inl ⟨_, transaction, resumed, by simp, ?_, held, ?_⟩
        · rw [shape]
          exact opened
        · rw [shape]
          exact stored
    | rollback arguments =>
        exact .inr ⟨arguments, .error .raised, resumed⟩
  · obtain ⟨statement, reply, -, executed, -⟩ :=
      step_moves stepped
    have respects := RunDatabase.exec_respects executed
    refine .inl ⟨call, transaction,
      (System.step?_locals_other stepped own).trans calling, begun,
      (respects.others process own).trans opened, held, ?_⟩
    exact (Database.locked_committed_eq respects own opened held).trans
      stored

/-- Until its batch is over, a candidate is held; afterwards the call is done. -/
theorem HoldsCandidate.run
    {rows : JobRuns}
    {process : Nat}
    {runId : String}
    {row : JobRun}
    {pool final : RunPool}
    {schedule : List (Label RunInput)}
    (reachable : Reachable rows pool)
    (holds : HoldsCandidate process runId row pool)
    (ran : runSystem.run? pool schedule = some final) :
    HoldsCandidate process runId row final ∨
      ∃ arguments outcome,
        final.locals process =
          .claimNextQueued (.done arguments outcome) := by
  have kept :
      Reachable rows final ∧
        (HoldsCandidate process runId row final ∨
          ∃ arguments outcome,
            final.locals process =
              .claimNextQueued (.done arguments outcome)) := by
    refine System.run?_invariant
      (fun visited =>
        Reachable rows visited ∧
          (HoldsCandidate process runId row visited ∨
            ∃ arguments outcome,
              visited.locals process =
                .claimNextQueued (.done arguments outcome)))
      ⟨reachable, .inl holds⟩ ?_ ran
    rintro visited next label ⟨reached, progress⟩ stepped
    refine ⟨reached.step stepped, ?_⟩
    rcases progress with held | ⟨arguments, outcome, finished⟩
    · exact held.step reached stepped
    · by_cases own : process = label.1
      · subst own
        obtain ⟨_, _, _, _, _, moved⟩ :=
          claimNextQueued_move stepped finished
        cases moved with
        | throw _ _ unsettled =>
            exact (unsettled arguments outcome rfl).elim
      · exact .inr ⟨arguments, outcome,
          (System.step?_locals_other stepped own).trans finished⟩
  exact kept.2

/-- A batch that fails leaves every candidate queued, unchanged and unlocked. -/
theorem Reachable.failed_batch
    {rows : JobRuns}
    {pool broken next : RunPool}
    {schedule : List (Label RunInput)}
    {label : Label RunInput}
    {arguments settled : ClaimNextQueued.Arguments}
    {candidates : List String}
    {claimed : List (String × String)}
    {error : CallError}
    (reachable : Reachable rows pool)
    (calling :
      pool.locals label.1 =
        .claimNextQueued (.claiming arguments candidates claimed))
    (ran : runSystem.run? pool schedule = some broken)
    (stepped : runSystem.step? broken label = some next)
    (failed :
      next.locals label.1 =
        .claimNextQueued (.done settled (.error error)))
    {runId : String}
    (member : runId ∈ claimed.map Prod.fst ++ candidates) :
    ∃ row,
      pool.shared.row runId = some row ∧
        row.state = .queued ∧
        next.shared.row runId = some row ∧
        next.shared.database.isLocked runId = false := by
  obtain ⟨transaction, opened, claiming⟩ :=
    reachable.batchesHold _ _ calling
  have held : runId ∈ transaction.locked := by
    rcases List.mem_append.mp member with done | waiting
    · obtain ⟨⟨owner, token⟩, listed, rfl⟩ := List.mem_map.mp done
      obtain ⟨row, written, -⟩ := claiming.written listed
      exact transaction.writesLocked owner
        (AList.lookup_isSome.mp (by simp [written]))
    · exact claiming.locked runId waiting
  obtain ⟨row, stored, isQueued⟩ :=
    reachable.pendingClaims.locked opened runId held
  have holds : HoldsCandidate label.1 runId row pool :=
    ⟨_, transaction, calling, by simp, opened, held, stored⟩
  obtain ⟨rolling, reply, executed⟩ := rolledBack_of_done stepped failed
  rcases holds.run reachable ran with
    ⟨_, last, _, _, openedLast, heldLast, storedLast⟩ |
    ⟨_, _, finished⟩
  · refine ⟨row, stored, isQueued, ?_,
      RunDatabase.exec_rollback executed openedLast runId heldLast⟩
    have effect := RunDatabase.exec_rowEffect executed runId
    generalize next.shared.row runId = result at effect ⊢
    cases effect
    exact storedLast
  · rw [rolling] at finished
    cases finished

/--
Whatever batch claims, single claims, cancels, retries and rollbacks are
interleaved: two claims of a run have a retry of it between them; a batch
that has just committed returns at most `limit` pairs, with distinct
identifiers, each of them the claim just made and the row just stored; and
a batch that fails leaves every candidate queued, unchanged and unlocked.
-/
theorem batch_claim_exclusivity
    {rows : JobRuns}
    {pool : RunPool}
    (reachable : Reachable rows pool) :
    (∀ {runId first second : String}
        {newer middle older : Fencing.History String},
      pool.shared.history runId =
        newer ++ .granted second :: (middle ++ .granted first :: older) →
      .revoked ∈ middle) ∧
    (∀ {next : RunPool} {label : Label RunInput}
        {arguments : ClaimNextQueued.Arguments}
        {claimed : List (String × String)},
      runSystem.step? pool label = some next →
      next.locals label.1 =
        .claimNextQueued (.done arguments (.ok claimed)) →
      (∀ {runId dispatchId : String},
          (runId, dispatchId) ∈ claimed →
          (∃ row,
            next.shared.row runId = some row ∧
              row.state = .running ∧
              row.dispatchId = some dispatchId) ∧
            next.shared.history runId =
              .granted dispatchId :: pool.shared.history runId) ∧
        (claimed.map Prod.snd).Nodup ∧
        claimed.length ≤ arguments.limit) ∧
    (∀ {broken next : RunPool} {schedule : List (Label RunInput)}
        {label : Label RunInput}
        {arguments settled : ClaimNextQueued.Arguments}
        {candidates : List String} {claimed : List (String × String)}
        {error : CallError} {runId : String},
      pool.locals label.1 =
        .claimNextQueued (.claiming arguments candidates claimed) →
      runSystem.run? pool schedule = some broken →
      runSystem.step? broken label = some next →
      next.locals label.1 =
        .claimNextQueued (.done settled (.error error)) →
      runId ∈ claimed.map Prod.fst ++ candidates →
      ∃ row,
        pool.shared.row runId = some row ∧
          row.state = .queued ∧
          next.shared.row runId = some row ∧
          next.shared.database.isLocked runId = false) := by
  refine ⟨?_, ?_, ?_⟩
  · intro runId first second newer middle older shape
    have exclusive := (reachable.claimedOnce runId).exclusive
    rw [shape] at exclusive
    exact exclusive.revoked_between
  · intro next label arguments claimed stepped returned
    exact reachable.committed_batch stepped returned
  · intro broken next schedule label arguments settled candidates claimed
      error runId calling ran stepped failed member
    exact reachable.failed_batch calling ran stepped failed member

/--
A second run is queued.  Worker 1 lists both runs for its batch; the batch of
worker 2, which begins meanwhile, passes over them.
-/
def claimOverlappingBatches : List (Label RunInput) :=
  queueNightly ++
    [(4, .start (.createRun (.runNow nightly 6 secondUuid))),
      (4, .proceed (environmentAt 6 unusedUuid)),
      (1, .start (.claimNextQueued ⟨10, 6⟩)),
      (1, .proceed (environmentAt 6 unusedUuid)),
      (1, .proceed (environmentAt 6 unusedUuid)),
      (2, .start (.claimNextQueued ⟨10, 6⟩)),
      (2, .proceed (environmentAt 6 unusedUuid)),
      (2, .proceed (environmentAt 6 unusedUuid)),
      (1, .proceed (environmentAt 6 firstUuid)),
      (2, .proceed (environmentAt 6 unusedUuid)),
      (1, .proceed (environmentAt 6 secondUuid))]

/-- The batch that a call of `claimNextQueued` has returned. -/
def batch? :
    RunCall →
      Option (ClaimNextQueued.Arguments × List (String × String))
  | .claimNextQueued (.done arguments (.ok claimed)) =>
      some (arguments, claimed)
  | _ => none

theorem returned_of_batch?
    {call : RunCall}
    {arguments : ClaimNextQueued.Arguments}
    {claimed : List (String × String)}
    (returned : batch? call = some (arguments, claimed)) :
    call = .claimNextQueued (.done arguments (.ok claimed)) := by
  unfold batch? at returned
  split at returned
  · cases returned
    rfl
  · cases returned

/-- Worker 2 has claimed nothing; the batch of worker 1 is what the table holds. -/
theorem batch_claim_exclusivity_claimOverlappingBatches :
    ∃ pool next,
      runSystem.run? (RunPool.initial ∅) claimOverlappingBatches =
          some pool ∧
        runSystem.step? pool (1, .proceed (environmentAt 6 unusedUuid)) =
          some next ∧
        batch? (next.locals 2) = some (⟨10, 6⟩, []) ∧
        (∃ row,
          next.shared.row nightlyRunId = some row ∧
            row.state = .running ∧
            row.dispatchId = some "first") ∧
        ∃ row,
          next.shared.row "nightly:manual:second" = some row ∧
            row.state = .running ∧
            row.dispatchId = some "second" := by
  have enabled :
      ((runSystem.run? (RunPool.initial ∅) claimOverlappingBatches).bind
        fun pool =>
          (runSystem.step? pool
            (1, .proceed (environmentAt 6 unusedUuid))).bind
              fun next =>
                (batch? (next.locals 1)).bind fun first =>
                  (batch? (next.locals 2)).map fun second =>
                    (first, second)) =
        some ((⟨10, 6⟩, [(nightlyRunId, "first"),
            ("nightly:manual:second", "second")]),
          (⟨10, 6⟩, [])) := by
    decide
  obtain ⟨pool, ran, rest⟩ := Option.bind_eq_some_iff.mp enabled
  obtain ⟨next, stepped, answers⟩ := Option.bind_eq_some_iff.mp rest
  obtain ⟨both, first, rest⟩ := Option.bind_eq_some_iff.mp answers
  obtain ⟨other, second, shape⟩ := Option.map_eq_some_iff.mp rest
  cases shape
  obtain ⟨held, -, -⟩ :=
    (batch_claim_exclusivity ⟨_, ran⟩).2.1 stepped
      (returned_of_batch? first)
  exact ⟨pool, next, ran, stepped, second, (held List.mem_cons_self).1,
    (held (List.mem_cons_of_mem _ List.mem_cons_self)).1⟩

end RunPool

end IgaScheduler

import IgaScheduler.DispatchFencing

namespace IgaScheduler

open Relational Interleaving

/-!
# The attempt counter

`retryRun` computes the next attempt from the run it has read, but its
transition only checks the state.  The counter is right in exactly those runs
of the system in which no other retry of a run comes between the read and the
transition of one that succeeds.
-/

/-- The run that an event puts back into the queue. -/
def RunEvent.retried? : RunEvent → Option String
  | .retried runId => some runId
  | _ => none

/-- The run id of a `retryRun` call that has returned without an error. -/
def RunCall.retried : RunCall → List String
  | .retryRun (.done (.ok result)) => [result.runId]
  | _ => []

/-- A `retryRun` call is about to write what its last step has read. -/
theorem RunCall.retryLoaded_resumed
    {call : RunCall}
    {input : RunInput}
    {reply : RunReply}
    {runId : String}
    {existing : RunDocument}
    {nowIso : Timestamp}
    (resumed :
      call.resume input reply =
        .retryRun (.loaded runId existing nowIso)) :
    ∃ environment,
      input = .proceed environment ∧
        call = .retryRun (.start runId) ∧
        runId ≠ "" ∧
        reply.found? = some existing := by
  cases input with
  | start request =>
      cases request <;> cases resumed
  | raise environment =>
      cases call with
      | retryRun call =>
          cases call <;> cases resumed
      | _ =>
          cases resumed
  | proceed environment =>
      cases call with
      | retryRun call =>
          cases call with
          | start owner =>
              simp only [RunCall.resume, RunCall.resumed, RetryRun.resume]
                at resumed
              split at resumed
              · cases resumed
              · rename_i nonempty
                split at resumed
                · cases resumed
                · rename_i found answer
                  split at resumed
                  · cases resumed
                    exact ⟨environment, rfl, rfl, nonempty, answer⟩
                  · cases resumed
          | loaded owner found since =>
              simp only [RunCall.resume, RunCall.resumed, RetryRun.resume]
                at resumed
              split at resumed <;> cases resumed
          | missed owner =>
              simp only [RunCall.resume, RunCall.resumed, RetryRun.resume]
                at resumed
              split at resumed <;> cases resumed
          | done outcome =>
              cases resumed
      | _ =>
          cases resumed

/-- A call that still issues statements has not returned from a retry. -/
theorem RunCall.not_retried_of_issued
    {call : RunCall}
    {input : RunInput}
    {statement : RunStatement}
    (issued : call.issue input = some statement) :
    call.retried = [] := by
  cases call with
  | retryRun call =>
      cases call with
      | done outcome =>
          cases input <;> cases issued
      | _ =>
          rfl
  | _ =>
      rfl

/-- Only the transition of a retry logs a retry. -/
theorem RunWrite.event?_retried
    (write : RunWrite)
    (runId : String)
    (notRetry :
      ∀ nextAttempt dispatchId nowIso now,
        write ≠ .retry nextAttempt dispatchId nowIso now) :
    (write.event? runId).toList.filterMap RunEvent.retried? = [] := by
  cases write with
  | retry nextAttempt dispatchId nowIso now =>
      exact (notRetry nextAttempt dispatchId nowIso now rfl).elim
  | _ =>
      rfl

theorem RunStatement.events_retried_of_update
    {shared : RunDatabase}
    {write : RunWrite}
    {runId : String}
    (notRetry :
      ∀ nextAttempt dispatchId nowIso now,
        write ≠ .retry nextAttempt dispatchId nowIso now) :
    ((RunStatement.update runId write).events shared).filterMap
        RunEvent.retried? =
      [] := by
  simp only [RunStatement.events]
  cases (shared.row runId).bind write.update.returning with
  | none =>
      rfl
  | some row =>
      exact write.event?_retried runId notRetry

/-- A call logs a retry in the very step that returns it. -/
theorem RunCall.retried_of_step
    {process : Nat}
    {call : RunCall}
    {input : RunInput}
    {statement : RunStatement}
    {shared next : RunDatabase}
    {reply : RunReply}
    (issued : call.issue input = some statement)
    (executed : shared.exec process statement = some (next, reply)) :
    (statement.events shared).filterMap RunEvent.retried? =
      (call.resume input reply).retried := by
  have unreturned := not_retried_of_issued issued
  cases issues_of_issue issued with
  | retry runId existing nowIso environment =>
      obtain ⟨answer, -⟩ := RunDatabase.exec_update executed
      subst answer
      simp only [RunStatement.events]
      cases (shared.row runId).bind
          (RunWrite.update (.retry (RetryRun.nextAttempt existing)
            environment.uuid nowIso environment.databaseNow)).returning with
      | none =>
          rfl
      | some row =>
          rfl
  | thrown _ environment =>
      cases call with
      | retryRun call =>
          cases call <;> first | rfl | exact unreturned.symm
      | _ =>
          rfl
  | waited _ environment =>
      cases call with
      | retryRun call =>
          cases call with
          | start runId =>
              simp only [RunCall.issue, RunCall.next, RetryRun.issue]
                at issued
              split at issued
              · rename_i empty
                simp [RunCall.resume, RunCall.resumed, RetryRun.resume,
                  empty, RunCall.retried, RunStatement.events]
              · cases issued
          | loaded | missed | done =>
              cases issued
      | _ =>
          rfl
  | commitClaims arguments claimed environment =>
      refine List.filterMap_eq_nil_iff.mpr ?_
      intro event member
      obtain ⟨pair, -, rfl⟩ := List.mem_map.mp member
      rfl
  | admitted request =>
      cases request <;> rfl
  | fencedWrite arguments write environment shape =>
      rw [RunStatement.events_retried_of_update]
      · rfl
      · rintro _ _ _ _ rfl
        obtain ⟨_, _, kind⟩ := arguments
        cases kind <;> cases shape
  | sweepFail options runId dispatchId rest write environment shape =>
      rw [RunStatement.events_retried_of_update]
      · rfl
      · rintro _ _ _ _ rfl
        cases shape
  | sweepCancel options runId rest write environment shape =>
      rw [RunStatement.events_retried_of_update]
      · rfl
      · rintro _ _ _ _ rfl
        cases shape
  | claimRun | succeed | fail | cancelRunning | cancelQueued | kill =>
      rw [RunStatement.events_retried_of_update (by simp)]
      rfl
  | retryLoad runId environment =>
      simp only [RunStatement.events, RunCall.resume, RunCall.resumed,
        RetryRun.resume]
      split
      · rfl
      · split
        · rfl
        · split <;> rfl
  | retryMissed runId environment =>
      simp only [RunStatement.events, RunCall.resume, RunCall.resumed,
        RetryRun.resume]
      split <;> rfl
  | _ =>
      rfl

namespace RunPool

/-- One step takes the run from `FAILED` back to `QUEUED`. -/
structure Requeues
    (pool next : RunPool)
    (runId : String)
    (before after : JobRun) :
    Prop where
  stored : pool.shared.row runId = some before
  written : next.shared.row runId = some after
  failed : before.state = .failed
  queued : after.state = .queued

/-- The run ids a process has put back into the queue. -/
def requeued
    (pool : RunPool)
    (process : Nat) :
    List String :=
  pool.shared.log.filterMap fun entry =>
    if entry.1 = process then entry.2.retried? else none

/--
What the attempt counter promises of a schedule: every requeueing raises the
stored attempt by one, the attempt of every row is one more than the number of
its retries, and a call returns success exactly when it has requeued its run.
-/
structure AttemptsCounted
    (rows : JobRuns)
    (schedule : List (Label RunInput)) :
    Prop where
  raised :
    ∀ {earlier later : List (Label RunInput)} {label : Label RunInput}
        {pool next : RunPool} {runId : String} {before after : JobRun},
      schedule = earlier ++ label :: later →
      runSystem.run? (RunPool.initial rows) earlier = some pool →
      runSystem.step? pool label = some next →
      Requeues pool next runId before after →
      after.attempt = before.attempt + 1
  counted :
    ∀ {earlier later : List (Label RunInput)} {pool : RunPool}
        {runId : String} {row : JobRun},
      schedule = earlier ++ later →
      runSystem.run? (RunPool.initial rows) earlier = some pool →
      pool.shared.row runId = some row →
      row.attempt = 1 + Fencing.revocations (pool.shared.history runId)
  returned :
    ∀ {earlier later : List (Label RunInput)} {pool : RunPool}
        {process : Nat},
      schedule = earlier ++ later →
      runSystem.run? (RunPool.initial rows) earlier = some pool →
      pool.requeued process = (pool.locals process).retried

/--
No retry of a run takes effect between the read of a `retryRun` call, which is
its last step before the transition, and the transition when that succeeds.
-/
def RetriesUndisturbed
    (rows : JobRuns)
    (schedule : List (Label RunInput)) :
    Prop :=
  ∀ {earlier later : List (Label RunInput)} {label : Label RunInput}
      {pool next reading read : RunPool} {runId : String}
      {before after : JobRun},
    schedule = earlier ++ label :: later →
    runSystem.run? (RunPool.initial rows) earlier = some pool →
    runSystem.step? pool label = some next →
    Requeues pool next runId before after →
    runSystem.LastMove (RunPool.initial rows) earlier label.1
      reading read →
    Fencing.revocations (pool.shared.history runId) =
      Fencing.revocations (read.shared.history runId)

/-- Only the transition of `retryRun` requeues a run. -/
theorem Reachable.retry_of_requeues
    {rows : JobRuns}
    {pool next : RunPool}
    {label : Label RunInput}
    {runId : String}
    {before after : JobRun}
    (reachable : Reachable rows pool)
    (stepped : runSystem.step? pool label = some next)
    (requeues : Requeues pool next runId before after) :
    next.shared.history runId =
        .revoked :: pool.shared.history runId ∧
      ∃ existing nowIso,
        pool.locals label.1 =
          .retryRun (.loaded runId existing nowIso) ∧
          after.attempt = RetryRun.nextAttempt existing := by
  obtain ⟨stored, written, failed, queued⟩ := requeues
  obtain ⟨statement, reply, events, issued, -, -, history, effect⟩ :=
    reachable.runEffect stepped runId
  rw [stored, written] at effect
  rcases label with ⟨process, input⟩
  change (pool.locals process).issue input = _ at issued
  change _ ∧ ∃ existing nowIso, pool.locals process = _ ∧ _
  generalize pool.locals process = call at issued ⊢
  rw [history]
  cases effect with
  | kept =>
      rw [failed] at queued
      cases queued
  | created document sameRun absent =>
      cases absent
  | published claimed row startedAt dispatchId found isQueued member =>
      cases queued
  | written write row found admitted =>
      rw [RunWrite.set_state] at queued
      cases write with
      | retry nextAttempt dispatchId nowIso now =>
          refine ⟨rfl, ?_⟩
          cases RunCall.issues_of_issue issued with
          | fencedWrite arguments _ environment shape =>
              obtain ⟨_, _, kind⟩ := arguments
              cases kind <;> cases shape
          | sweepFail options _ _ rest _ environment shape =>
              cases shape
          | sweepCancel options _ rest _ environment shape =>
              cases shape
          | retry _ existing =>
              exact ⟨existing, nowIso, rfl, rfl⟩
      | recordRuntimeExecution | touchHeartbeat =>
          have source := RunWrite.state_mem_sources admitted
          simp only [RunWrite.target] at queued
          simp [queued, RunWrite.sources] at source
      | _ =>
          cases queued

/-- The attempt of a stored run; a run that is not stored has its first ahead. -/
def attemptOf (row : Option JobRun) : Nat :=
  (row.map JobRun.attempt).getD 1

/-- The attempt of a run is one more than the number of its retries. -/
def Counted
    (pool : RunPool)
    (runId : String) :
    Prop :=
  attemptOf (pool.shared.row runId) =
    1 + Fencing.revocations (pool.shared.history runId)

/-- A step that raises the attempt whenever it requeues keeps the count. -/
theorem Counted.step
    {rows : JobRuns}
    {pool next : RunPool}
    {label : Label RunInput}
    {runId : String}
    (reachable : Reachable rows pool)
    (counted : Counted pool runId)
    (stepped : runSystem.step? pool label = some next)
    (raised :
      ∀ {before after : JobRun},
        Requeues pool next runId before after →
        after.attempt = before.attempt + 1) :
    Counted next runId := by
  obtain ⟨statement, reply, events, issued, -, -, history, effect⟩ :=
    reachable.runEffect stepped runId
  have raise
      {before after : JobRun}
      (stored : pool.shared.row runId = some before)
      (written : next.shared.row runId = some after)
      (failed : before.state = .failed)
      (queued : after.state = .queued) :
      after.attempt = before.attempt + 1 :=
    raised ⟨stored, written, failed, queued⟩
  unfold Counted at counted ⊢
  rw [history]
  generalize pool.shared.row runId = stored at counted effect raise
  generalize next.shared.row runId = written at effect raise ⊢
  cases effect with
  | kept =>
      exact counted
  | created document sameRun absent =>
      subst absent
      have first := (RunCall.createRun_issued issued).2
      simpa [attemptOf, first] using counted
  | published claimed row startedAt dispatchId found isQueued member =>
      subst found
      exact counted
  | written write row found admitted =>
      subst found
      have kept := RunWrite.set_attempt write row
      cases write with
      | retry nextAttempt dispatchId nowIso now =>
          have failed : row.state = .failed := by
            simpa [RunWrite.sources] using
              RunWrite.state_mem_sources admitted
          have one := raise rfl rfl failed rfl
          simp only [attemptOf, Option.map_some, Option.getD_some]
            at counted ⊢
          rw [one, counted]
          rfl
      | _ =>
          simp only [attemptOf, Option.map_some, Option.getD_some]
            at counted ⊢
          rw [kept]
          exact counted

/-- The transition of a retry writes one more than its call has read. -/
theorem attempt_read
    {rows : JobRuns}
    {pool next reading read : RunPool}
    {earlier : List (Label RunInput)}
    {label : Label RunInput}
    {runId : String}
    {before after : JobRun}
    (ran : runSystem.run? (RunPool.initial rows) earlier = some pool)
    (stepped : runSystem.step? pool label = some next)
    (requeues : Requeues pool next runId before after)
    (lastMove :
      runSystem.LastMove (RunPool.initial rows) earlier label.1
        reading read) :
    ∃ row,
      read.shared.row runId = some row ∧
        after.attempt = row.attempt + 1 := by
  obtain ⟨-, existing, nowIso, calling, attempt⟩ :=
    Reachable.retry_of_requeues ⟨earlier, ran⟩ stepped requeues
  rw [lastMove.locals ran] at calling
  obtain ⟨_, ⟨process, input⟩, _, -, own, -, -, entered⟩ := lastMove
  obtain ⟨statement, reply, issued, executed, resumed⟩ :=
    step_moves entered
  obtain rfl : process = label.1 := own
  obtain ⟨environment, proceeded, start, nonempty, answer⟩ :=
    RunCall.retryLoaded_resumed (resumed.symm.trans calling)
  change (reading.locals label.1).issue input = _ at issued
  rw [start, show input = _ from proceeded] at issued
  simp only [RunCall.issue, RunCall.next, RetryRun.issue, nonempty,
    if_false, Option.some.injEq] at issued
  subst issued
  obtain ⟨same, found⟩ := RunDatabase.exec_getRun executed
  rw [same]
  rw [answer] at found
  obtain ⟨row, stored, rfl⟩ := Option.map_eq_some_iff.mp found.symm
  exact ⟨row, stored, attempt⟩

/-- A process has requeued a run exactly when its call has returned that. -/
theorem Reachable.requeued_eq_retried
    {rows : JobRuns}
    {pool : RunPool}
    (reachable : Reachable rows pool)
    (process : Nat) :
    pool.requeued process = (pool.locals process).retried := by
  refine reachable.invariant
    (fun visited =>
      visited.requeued process = (visited.locals process).retried) rfl ?_
  intro visited next label known stepped
  obtain ⟨statement, reply, issued, executed, resumed⟩ := step_moves stepped
  unfold requeued at known ⊢
  rw [RunDatabase.exec_log executed, List.filterMap_append,
    List.filterMap_map, known]
  by_cases own : process = label.1
  · subst own
    rw [RunCall.not_retried_of_issued issued, resumed,
      ← RunCall.retried_of_step issued executed, List.append_nil]
    simp
  · rw [System.step?_locals_other stepped own]
    have foreign :
        (statement.events visited.shared).filterMap
            ((fun entry : Nat × RunEvent =>
              if entry.1 = process then entry.2.retried? else none) ∘
              fun event => (label.1, event)) =
          [] := by
      refine List.filterMap_eq_nil_iff.mpr ?_
      intro event member
      simp [Ne.symm own]
    rw [foreign, List.nil_append]

/-- Where no retry is disturbed, the count holds all along the schedule. -/
theorem RetriesUndisturbed.counted
    {rows : JobRuns}
    {schedule : List (Label RunInput)}
    (unretried :
      ∀ runId row, rows.lookup runId = some row → row.attempt = 1)
    (undisturbed : RetriesUndisturbed rows schedule)
    {earlier later : List (Label RunInput)}
    {pool : RunPool}
    (shape : schedule = earlier ++ later)
    (ran : runSystem.run? (RunPool.initial rows) earlier = some pool)
    (runId : String) :
    Counted pool runId := by
  -- the induction covers the pool of the read, which is any number of steps back
  induction size : earlier.length using Nat.strong_induction_on
    generalizing earlier later pool with
  | _ bound inductionHypothesis =>
      rcases List.eq_nil_or_concat earlier with rfl | ⟨first, label, rfl⟩
      · cases ran
        unfold Counted
        change attemptOf (rows.lookup runId) = 1
        cases found : rows.lookup runId with
        | none =>
            rfl
        | some row =>
            exact unretried runId row found
      · rw [List.concat_eq_append] at shape ran size
        obtain ⟨middle, ranFirst, stepped⟩ :=
          System.run?_append_eq_some.mp ran
        rw [System.run?_singleton] at stepped
        have shapeFirst : schedule = first ++ label :: later := by
          rw [shape, List.append_assoc, List.singleton_append]
        have shorter : first.length < bound := by
          rw [← size, List.length_append, List.length_singleton]
          exact Nat.lt_succ_self _
        have countedFirst : Counted middle runId :=
          inductionHypothesis _ shorter shapeFirst ranFirst rfl
        refine countedFirst.step ⟨first, ranFirst⟩ stepped ?_
        intro before after requeues
        obtain ⟨-, existing, nowIso, calling, -⟩ :=
          Reachable.retry_of_requeues ⟨first, ranFirst⟩ stepped requeues
        have moved :
            middle.locals label.1 ≠
              (RunPool.initial rows).locals label.1 := by
          rw [calling]
          exact nofun
        obtain ⟨reading, read, lastMove⟩ :=
          System.exists_lastMove ranFirst moved
        have undisturbedHere :=
          undisturbed shapeFirst ranFirst stepped requeues lastMove
        obtain ⟨row, stored, attempt⟩ :=
          attempt_read ranFirst stepped requeues lastMove
        obtain ⟨upToRead, rest, split, ranRead⟩ := lastMove.reached
        have countedRead : Counted read runId := by
          refine inductionHypothesis upToRead.length ?_
            (by rw [shapeFirst, split, List.append_assoc]) ranRead rfl
          have length := congrArg List.length split
          rw [List.length_append] at length
          omega
        unfold Counted attemptOf at countedFirst countedRead
        simp only [requeues.stored, stored, Option.map_some,
          Option.getD_some] at countedFirst countedRead
        rw [attempt, countedRead, countedFirst, undisturbedHere]

/--
In every schedule, the attempt counter keeps its promise exactly when no other
retry of a run comes between the read and the transition of a successful one.
-/
theorem attempts_counted_iff
    {rows : JobRuns}
    (unretried :
      ∀ runId row, rows.lookup runId = some row → row.attempt = 1)
    (schedule : List (Label RunInput)) :
    AttemptsCounted rows schedule ↔ RetriesUndisturbed rows schedule := by
  constructor
  · intro promised earlier later label pool next reading read runId before
      after shape ran stepped requeues lastMove
    obtain ⟨row, stored, attempt⟩ :=
      attempt_read ran stepped requeues lastMove
    obtain ⟨upToRead, rest, split, ranRead⟩ := lastMove.reached
    have one := promised.raised shape ran stepped requeues
    have countedHere := promised.counted shape ran requeues.stored
    have countedRead :=
      promised.counted
        (by rw [shape, split, List.append_assoc]) ranRead stored
    omega
  · intro undisturbed
    have counted
        {earlier later : List (Label RunInput)}
        {pool : RunPool}
        {runId : String}
        {row : JobRun}
        (shape : schedule = earlier ++ later)
        (ran : runSystem.run? (RunPool.initial rows) earlier = some pool)
        (stored : pool.shared.row runId = some row) :
        row.attempt =
          1 + Fencing.revocations (pool.shared.history runId) := by
      have holds := undisturbed.counted unretried shape ran runId
      unfold Counted attemptOf at holds
      simpa [stored] using holds
    refine ⟨?_, counted, ?_⟩
    · intro earlier later label pool next runId before after shape ran
        stepped requeues
      have ranNext :
          runSystem.run? (RunPool.initial rows) (earlier ++ [label]) =
            some next :=
        System.run?_append_eq_some.mpr
          ⟨pool, ran, System.run?_singleton.trans stepped⟩
      have countedBefore := counted shape ran requeues.stored
      have countedAfter :=
        counted (by rw [shape, List.append_assoc, List.singleton_append])
          ranNext requeues.written
      rw [(Reachable.retry_of_requeues ⟨earlier, ran⟩ stepped requeues).1]
        at countedAfter
      simp only [Fencing.revocations] at countedAfter
      omega
    · intro earlier later pool process shape ran
      exact Reachable.requeued_eq_retried ⟨earlier, ran⟩ process

/--
Process 3 reads the failed run, process 4 retries it, it is claimed and fails
again, and only then process 3 writes: the second retry also stores attempt 2.
-/
def staleRetry : List (Label RunInput) :=
  queueNightly ++
    claimNightly 1 firstUuid ++
    failNightly 2 "first" ++
    [(3, .start (.retryRun nightlyRunId)),
      (3, .proceed (environmentAt 10 unusedUuid))] ++
    retryNightly 4 retriedUuid ++
    claimNightly 5 secondUuid ++
    failNightly 6 "second" ++
    [(3, .proceed (environmentAt 11 staleUuid))]

/-- Two retries have taken effect, but the stored attempt is 2. -/
theorem staleRetry_not_counted :
    ¬ AttemptsCounted ∅ staleRetry := by
  intro promised
  have outcome :
      ((runSystem.run? (RunPool.initial ∅) staleRetry).bind fun pool =>
        (pool.shared.row nightlyRunId).map fun row =>
          (row.attempt,
            Fencing.revocations (pool.shared.history nightlyRunId))) =
        some (2, 2) := by
    decide
  obtain ⟨pool, ran, answer⟩ := Option.bind_eq_some_iff.mp outcome
  obtain ⟨row, stored, pair⟩ := Option.map_eq_some_iff.mp answer
  obtain ⟨attempt, retries⟩ := Prod.mk.inj pair
  have counted :=
    promised.counted (List.append_nil staleRetry).symm ran stored
  omega

/-- The count and its condition on the schedule with the stale retry. -/
theorem attempts_counted_iff_staleRetry :
    AttemptsCounted ∅ staleRetry ↔ RetriesUndisturbed ∅ staleRetry :=
  attempts_counted_iff (by simp) staleRetry

end RunPool

end IgaScheduler

import IgaScheduler.DispatchFencing

namespace IgaScheduler

open Relational Interleaving

/-!
# How an execution leaves its run

`executeClaimedRun` guards both of its outcome writes by `RUNNING` and loads
the run outside the `try` block.  A cancel request that arrives before the
outcome is written therefore leaves the run in `CANCELLING`.
-/

namespace Execution

/--
What the last step of an execution has to find: when the load throws, no run of
its own that is going on; when `markSucceeded` is sent, its own run running, or
one that is cancelled; when the `catch` block ends, no run of its own that
somebody has asked to cancel.
-/
def OwnerFinds
    (call : Local)
    (dispatchId : String)
    (row : JobRun) :
    Prop :=
  match call with
  | .start .. =>
      row.dispatchId = some dispatchId →
        row.state ∉ [RunState.running, .cancelling]
  | .executed .. =>
      row.state = .cancelled ∨
        row.state = .running ∧ row.dispatchId = some dispatchId
  | .failed _ =>
      row.dispatchId = some dispatchId → row.state ≠ .cancelling
  | _ => True

/-- The steps of one call: what it issues and where the reply takes it. -/
inductive Move : Local → RunStatement → RunReply → Local → Prop where
  | loadThrows
      (runId dispatchId : String)
      (reply : RunReply) :
      Move (.start runId dispatchId) .skip reply
        (.settled runId (some dispatchId) .threw)
  | loadMisses
      (runId dispatchId : String)
      (reply : RunReply)
      (missed : reply.found? = none) :
      Move (.start runId dispatchId) (.getRun runId) reply
        (.settled runId (some dispatchId) (.skipped "UNKNOWN"))
  | load
      (runId dispatchId : String)
      (reply : RunReply)
      (fetched : RunDocument)
      (found : reply.found? = some fetched) :
      Move (.start runId dispatchId) (.getRun runId) reply
        (.preparing { fetched with dispatchId := some dispatchId } .metadata)
  | prepare
      (run : RunDocument)
      (stage next : Stage)
      (reply : RunReply) :
      Move (.preparing run stage) .skip reply (.preparing run next)
  | execute
      (run : RunDocument)
      (stage : Stage)
      (result : Json)
      (reply : RunReply) :
      Move (.preparing run stage) .skip reply (.executed run result)
  | prepareThrows
      (run : RunDocument)
      (stage : Stage)
      (error : Json)
      (reply : RunReply) :
      Move (.preparing run stage) .skip reply (.failing run error)
  | succeed
      (run written : RunDocument)
      (result : Json)
      (endedAt : Timestamp)
      (reply : RunReply)
      (hit : reply.found? = some written) :
      Move (.executed run result)
        (.update run.runId
          (.markSucceeded endedAt (some result) none run.dispatchId))
        reply (.succeeded run)
  | succeedMisses
      (run : RunDocument)
      (result : Json)
      (endedAt : Timestamp)
      (reply : RunReply)
      (missed : reply.found? = none) :
      Move (.executed run result)
        (.update run.runId
          (.markSucceeded endedAt (some result) none run.dispatchId))
        reply (settle run (.skipped "CANCELLED"))
  | succeedThrows
      (run : RunDocument)
      (result error : Json)
      (reply : RunReply) :
      Move (.executed run result) .skip reply (.failing run error)
  | complete
      (run : RunDocument)
      (reply : RunReply) :
      Move (.succeeded run) .skip reply (settle run .completed)
  | completeThrows
      (run : RunDocument)
      (error : Json)
      (reply : RunReply) :
      Move (.succeeded run) .skip reply (.failing run error)
  | fail
      (run : RunDocument)
      (error : Json)
      (endedAt : Timestamp)
      (reply : RunReply) :
      Move (.failing run error)
        (.update run.runId
          (.markFailed endedAt (some error) none run.dispatchId))
        reply (.failed run)
  | failThrows
      (run : RunDocument)
      (error : Json)
      (reply : RunReply) :
      Move (.failing run error) .skip reply (settle run .threw)
  | rethrow
      (run : RunDocument)
      (reply : RunReply) :
      Move (.failed run) .skip reply (settle run .threw)

/-- An executed statement makes a move. -/
theorem move_of_issue
    {call : Local}
    {environment : Environment}
    {statement : RunStatement}
    (issued : issue call environment = some statement)
    (reply : RunReply) :
    Move call statement reply (resume call environment reply) := by
  cases call with
  | start runId dispatchId =>
      cases issued
      simp only [resume]
      cases found : reply.found? with
      | none =>
          exact .loadMisses runId dispatchId reply found
      | some fetched =>
          exact .load runId dispatchId reply fetched found
  | preparing run stage =>
      cases issued
      simp only [resume]
      cases stage.next? with
      | none =>
          exact .execute run stage _ reply
      | some next =>
          exact .prepare run stage next reply
  | executed run result =>
      cases issued
      simp only [resume]
      cases hit : reply.found? with
      | none =>
          exact .succeedMisses run result _ reply hit
      | some written =>
          exact .succeed run written result _ reply hit
  | succeeded run =>
      cases issued
      exact .complete run reply
  | failing run error =>
      cases issued
      exact .fail run error _ reply
  | failed run =>
      cases issued
      exact .rethrow run reply
  | settled =>
      cases issued

/-- A statement that throws makes a move, too. -/
theorem move_of_raise
    {call : Local}
    {environment : Environment}
    {statement : RunStatement}
    (issued : issue call environment = some statement)
    (reply : RunReply) :
    Move call .skip reply (raise call environment) := by
  cases call with
  | start runId dispatchId =>
      exact .loadThrows runId dispatchId reply
  | preparing run stage =>
      exact .prepareThrows run stage _ reply
  | executed run result =>
      exact .succeedThrows run result _ reply
  | succeeded run =>
      exact .completeThrows run _ reply
  | failing run error =>
      exact .failThrows run error reply
  | failed run =>
      exact .rethrow run reply
  | settled =>
      cases issued

end Execution

namespace RunPool

/-- An execution makes one of its moves. -/
theorem execution_move
    {pool next : RunPool}
    {label : Label RunInput}
    {call : Execution.Local}
    (stepped : runSystem.step? pool label = some next)
    (calling : pool.locals label.1 = .executeClaimedRun call) :
    ∃ statement reply after,
      pool.shared.exec label.1 statement = some (next.shared, reply) ∧
        next.locals label.1 = .executeClaimedRun after ∧
        Execution.Move call statement reply after := by
  obtain ⟨statement, reply, issued, executed, resumed⟩ :=
    step_moves stepped
  rw [calling] at issued resumed
  rcases label with ⟨process, input⟩
  cases input with
  | start request =>
      cases issued
  | raise environment =>
      obtain ⟨_, waiting, rfl⟩ := Option.map_eq_some_iff.mp issued
      exact ⟨_, reply, _, executed, resumed,
        Execution.move_of_raise waiting reply⟩
  | proceed environment =>
      exact ⟨_, reply, _, executed, resumed,
        Execution.move_of_issue issued reply⟩

/-- An execution that is about to load its run works for a claim. -/
theorem Reachable.claimed_of_start
    {rows : JobRuns}
    {pool : RunPool}
    (reachable : Reachable rows pool)
    {process : Nat}
    {runId dispatchId : String}
    (called :
      pool.locals process =
        .executeClaimedRun (.start runId dispatchId)) :
    pool.shared.Claimed runId dispatchId := by
  refine reachable.invariant
    (fun visited =>
      visited.locals process =
          .executeClaimedRun (.start runId dispatchId) →
        visited.shared.Claimed runId dispatchId)
    (fun impossible => by cases impossible) ?_ called
  intro visited next label known stepped started
  obtain ⟨statement, reply, issued, executed, resumed⟩ := step_moves stepped
  refine RunDatabase.exec_claimed executed ?_
  by_cases own : process = label.1
  · subst own
    rw [started] at resumed
    rcases label with ⟨process, input⟩
    change (visited.locals process).issue input = _ at issued
    change _ = (visited.locals process).resume input reply at resumed
    generalize visited.locals process = call at issued resumed
    cases input with
    | start request =>
        cases request <;> cases resumed
        cases call with
        | idle =>
            cases issued
            exact RunDatabase.exec_present executed
        | _ =>
            cases issued
    | proceed environment =>
        cases call with
        | executeClaimedRun call =>
            exfalso
            have moved :=
              Execution.move_of_issue
                (show Execution.issue call environment = some statement
                  from issued) reply
            change RunCall.executeClaimedRun _ =
              .executeClaimedRun _ at resumed
            rw [← RunCall.executeClaimedRun.inj resumed] at moved
            cases moved
        | _ =>
            cases resumed
    | raise environment =>
        cases call with
        | executeClaimedRun call =>
            cases call <;> cases resumed
        | _ =>
            cases resumed
  · exact known
      ((System.step?_locals_other stepped own).symm.trans started)

/-- A row that bears the identifier of an earlier claim has borne it before. -/
theorem Reachable.bearing_before
    {rows : JobRuns}
    {pool next : RunPool}
    {label : Label RunInput}
    {runId dispatchId : String}
    {after : JobRun}
    (reachable : Reachable rows pool)
    (claimed : pool.shared.Claimed runId dispatchId)
    (stepped : runSystem.step? pool label = some next)
    (stored : next.shared.row runId = some after)
    (bears : after.dispatchId = some dispatchId) :
    ∃ before,
      pool.shared.row runId = some before ∧
        before.dispatchId = some dispatchId ∧
        (after.state = before.state ∨
          after.state ∉ [RunState.queued, .running]) := by
  have granted := RunDatabase.claimed_iff_granted.mp claimed
  obtain ⟨statement, reply, events, issued, executed, -, -, effect⟩ :=
    reachable.runEffect stepped runId
  have fresh :
      ∀ id ∈ statement.minted, id ≠ dispatchId := by
    rintro id minted rfl
    exact (RunDatabase.exec_eq_some executed).1 id minted
      (reachable.granted_minted granted).1
  have ungranted :=
    fun {token : String} (new : .granted token ∈ events) =>
      reachable.events_fresh issued executed effect new
  rw [stored] at effect
  generalize pool.shared.row runId = before at effect ⊢
  cases effect with
  | kept =>
      exact ⟨after, rfl, bears, .inl rfl⟩
  | created document sameRun absent =>
      exact (fresh dispatchId
        (by simpa [RunStatement.minted] using bears) rfl).elim
  | published claimed row startedAt token found isQueued member =>
      obtain rfl : token.text = dispatchId := Option.some.inj bears
      exact (ungranted List.mem_cons_self granted).elim
  | written write row found admitted =>
      rw [RunWrite.set_dispatchId] at bears
      rw [RunWrite.set_state]
      have source := RunWrite.state_mem_sources admitted
      cases write with
      | claimRun startedAt status token =>
          exact (fresh token.text
            (by simp [RunStatement.minted, RunWrite.minted?])
            (Option.some.inj bears)).elim
      | retry nextAttempt token nowIso now =>
          exact (fresh token.text
            (by simp [RunStatement.minted, RunWrite.minted?])
            (Option.some.inj bears)).elim
      | recordRuntimeExecution | touchHeartbeat =>
          exact ⟨row, found, bears, .inl rfl⟩
      | markSucceeded | markFailed | markCancelled | cancelRunning |
          cancelQueued | killed =>
          exact ⟨row, found, bears, .inr (by simp [RunWrite.target])⟩

/-- A row that bears the identifier of a claim is not in the queue. -/
theorem Reachable.bearing_not_queued
    {rows : JobRuns}
    {pool : RunPool}
    (reachable : Reachable rows pool)
    {runId dispatchId : String}
    {row : JobRun}
    (claimed : pool.shared.Claimed runId dispatchId)
    (stored : pool.shared.row runId = some row)
    (bears : row.dispatchId = some dispatchId) :
    row.state ≠ .queued := by
  obtain ⟨schedule, ran⟩ := reachable
  refine System.run?_induction
    (fun _ visited =>
      ∀ row,
        visited.shared.Claimed runId dispatchId →
        visited.shared.row runId = some row →
        row.dispatchId = some dispatchId →
        row.state ≠ .queued)
    ?_ ?_ ran row claimed stored bears
  · intro row impossible
    cases impossible
  · intro earlier visited next label ranEarlier known stepped row claimed
      stored bears
    have reached : Reachable rows visited := ⟨earlier, ranEarlier⟩
    by_cases already : visited.shared.Claimed runId dispatchId
    · obtain ⟨before, storedBefore, bearsBefore, same | moved⟩ :=
        reached.bearing_before already stepped stored bears
      · rw [same]
        exact known before already storedBefore bearsBefore
      · intro queued
        exact moved (by simp [queued])
    · -- the claim is the step itself
      obtain ⟨statement, reply, events, -, -, -, history, effect⟩ :=
        reached.runEffect stepped runId
      rw [RunDatabase.claimed_iff_granted, history] at claimed
      rw [RunDatabase.claimed_iff_granted] at already
      have new := (List.mem_append.mp claimed).resolve_right already
      rw [stored] at effect
      generalize visited.shared.row runId = before at effect
      cases effect with
      | kept =>
          cases new
      | created =>
          cases new
      | published =>
          intro queued
          cases queued
      | written write before found admitted =>
          cases write <;> simp [RunWrite.fencing?] at new
          intro queued
          cases queued

/-- A row that bears the identifier of a claim and is not running. -/
def NotRunning
    (runId dispatchId : String)
    (pool : RunPool) :
    Prop :=
  ∀ row,
    pool.shared.row runId = some row →
    row.dispatchId = some dispatchId →
    row.state ≠ .running

/-- Under an identifier that a claim has returned, nothing starts to run. -/
theorem NotRunning.step
    {rows : JobRuns}
    {pool next : RunPool}
    {label : Label RunInput}
    {runId dispatchId : String}
    (reachable : Reachable rows pool)
    (claimed : pool.shared.Claimed runId dispatchId)
    (notRunning : NotRunning runId dispatchId pool)
    (stepped : runSystem.step? pool label = some next) :
    NotRunning runId dispatchId next := by
  intro row stored bears
  obtain ⟨before, storedBefore, bearsBefore, same | moved⟩ :=
    reachable.bearing_before claimed stepped stored bears
  · rw [same]
    exact notRunning before storedBefore bearsBefore
  · intro running
    exact moved (by simp [running])

/-- After an outcome has been sent, its run does not run under its identifier. -/
theorem notRunning_of_outcome
    {process : Nat}
    {pool next : RunPool}
    {reply : RunReply}
    {runId dispatchId : String}
    {write : RunWrite}
    (leaves : ∀ row, (write.update.set row).state ≠ .running)
    (admits :
      ∀ row,
        row.state = .running →
        row.dispatchId = some dispatchId →
        write.update.guard row = true)
    (executed :
      pool.shared.exec process (.update runId write) =
        some (next.shared, reply)) :
    NotRunning runId dispatchId next := by
  intro row stored bears running
  obtain ⟨-, written⟩ := RunDatabase.exec_update executed
  rw [stored] at written
  obtain ⟨before, found, rfl⟩ := Option.map_eq_some_iff.mp written.symm
  by_cases admitted : write.update.guard before = true
  · rw [RowUpdate.apply_of_guard admitted] at running
    exact leaves before running
  · rw [RowUpdate.apply_of_not_guard (by simpa using admitted)]
      at bears running
    exact admitted (admits before running bears)

theorem notRunning_of_fail
    {process : Nat}
    {pool next : RunPool}
    {reply : RunReply}
    {runId dispatchId : String}
    {endedAt : Timestamp}
    {error : Option Json}
    (executed :
      pool.shared.exec process
          (.update runId
            (.markFailed endedAt error none (some dispatchId))) =
        some (next.shared, reply)) :
    NotRunning runId dispatchId next := by
  refine notRunning_of_outcome ?_ ?_ executed
  · intro row running
    rw [RunWrite.set_state] at running
    cases running
  · intro row running bears
    simp [RunWrite.update, RunStore.markFailed, RunStore.fencing, running,
      bears]

theorem notRunning_of_succeed
    {process : Nat}
    {pool next : RunPool}
    {reply : RunReply}
    {runId dispatchId : String}
    {endedAt : Timestamp}
    {result : Option Json}
    (executed :
      pool.shared.exec process
          (.update runId
            (.markSucceeded endedAt result none (some dispatchId))) =
        some (next.shared, reply)) :
    NotRunning runId dispatchId next := by
  refine notRunning_of_outcome ?_ ?_ executed
  · intro row running
    rw [RunWrite.set_state] at running
    cases running
  · intro row running bears
    simp [RunWrite.update, RunStore.markSucceeded, RunStore.fencing,
      running, bears]

/-- What is known of an execution in progress. -/
def ExecutionTracked
    (runId dispatchId : String)
    (pool : RunPool) :
    Execution.Local → Prop
  | .start own token => own = runId ∧ token = dispatchId
  | .preparing run _ => run.runId = runId ∧ run.dispatchId = some dispatchId
  | .executed run _ => run.runId = runId ∧ run.dispatchId = some dispatchId
  | .succeeded run =>
      run.runId = runId ∧ run.dispatchId = some dispatchId ∧
        ∃ row, pool.shared.row runId = some row ∧ row.state = .succeeded
  | .failing run _ => run.runId = runId ∧ run.dispatchId = some dispatchId
  | .failed run =>
      run.runId = runId ∧ run.dispatchId = some dispatchId ∧
        NotRunning runId dispatchId pool
  | .settled .. => True

/-- Steps of other processes leave what is known of an execution true. -/
theorem ExecutionTracked.other
    {rows : JobRuns}
    {pool next : RunPool}
    {label : Label RunInput}
    {runId dispatchId : String}
    {call : Execution.Local}
    (reachable : Reachable rows pool)
    (claimed : pool.shared.Claimed runId dispatchId)
    (tracked : ExecutionTracked runId dispatchId pool call)
    (stepped : runSystem.step? pool label = some next) :
    ExecutionTracked runId dispatchId next call := by
  cases call with
  | start | preparing | executed | failing | settled =>
      exact tracked
  | succeeded run =>
      obtain ⟨sameRun, sameToken, row, stored, ended⟩ := tracked
      obtain ⟨after, storedAfter, rowStep⟩ :=
        reachable.rowStep stepped stored
      refine ⟨sameRun, sameToken, after, storedAfter, ?_⟩
      rw [rowStep.frozen (.inl ended)]
      exact ended
  | failed run =>
      exact ⟨tracked.1, tracked.2.1,
        tracked.2.2.step reachable claimed stepped⟩

/-- A step of anybody keeps an execution tracked. -/
theorem ExecutionTracked.step
    {rows : JobRuns}
    {pool next : RunPool}
    {label : Label RunInput}
    {process : Nat}
    {runId dispatchId : String}
    {call : Execution.Local}
    (reachable : Reachable rows pool)
    (claimed : pool.shared.Claimed runId dispatchId)
    (calling : pool.locals process = .executeClaimedRun call)
    (tracked : ExecutionTracked runId dispatchId pool call)
    (stepped : runSystem.step? pool label = some next) :
    ∃ after,
      next.locals process = .executeClaimedRun after ∧
        ExecutionTracked runId dispatchId next after := by
  by_cases own : process = label.1
  · subst own
    obtain ⟨statement, reply, after, executed, resumed, moved⟩ :=
      execution_move stepped calling
    refine ⟨after, resumed, ?_⟩
    cases moved with
    | loadThrows | loadMisses | succeedMisses | complete | failThrows |
        rethrow =>
        trivial
    | load _ _ _ fetched found =>
        obtain ⟨rfl, rfl⟩ := tracked
        obtain ⟨-, answer⟩ := RunDatabase.exec_getRun executed
        rw [found] at answer
        obtain ⟨row, -, rfl⟩ := Option.map_eq_some_iff.mp answer.symm
        exact ⟨rfl, rfl⟩
    | prepare | execute | prepareThrows | succeedThrows =>
        exact tracked
    | completeThrows =>
        exact ⟨tracked.1, tracked.2.1⟩
    | succeed run written result endedAt _ hit =>
        obtain ⟨rfl, bears⟩ := tracked
        obtain ⟨answer, stored⟩ := RunDatabase.exec_update executed
        subst answer
        obtain ⟨row, returned, -⟩ := Option.map_eq_some_iff.mp hit
        obtain ⟨before, found, admitted⟩ :=
          Option.bind_eq_some_iff.mp returned
        obtain ⟨guarded, -⟩ := RowUpdate.returning_eq_some.mp admitted
        refine ⟨rfl, bears, _, stored.trans (by rw [found]; rfl), ?_⟩
        rw [RowUpdate.apply_of_guard guarded]
        rfl
    | fail run error endedAt =>
        obtain ⟨rfl, bears⟩ := tracked
        rw [bears] at executed
        exact ⟨rfl, bears, notRunning_of_fail executed⟩
  · exact ⟨call, (System.step?_locals_other stepped own).trans calling,
      tracked.other reachable claimed stepped⟩

/-- An execution is tracked from its start until it settles. -/
theorem execution_tracked
    {rows : JobRuns}
    {start pool : RunPool}
    {schedule : List (Label RunInput)}
    {process : Nat}
    {runId dispatchId : String}
    (reachable : Reachable rows start)
    (called :
      start.locals process =
        .executeClaimedRun (.start runId dispatchId))
    (ran : runSystem.run? start schedule = some pool) :
    pool.shared.Claimed runId dispatchId ∧
      ∃ call,
        pool.locals process = .executeClaimedRun call ∧
          ExecutionTracked runId dispatchId pool call := by
  have both :
      Reachable rows pool ∧
        pool.shared.Claimed runId dispatchId ∧
        ∃ call,
          pool.locals process = .executeClaimedRun call ∧
            ExecutionTracked runId dispatchId pool call := by
    refine System.run?_invariant
      (fun visited =>
        Reachable rows visited ∧
          visited.shared.Claimed runId dispatchId ∧
          ∃ call,
            visited.locals process = .executeClaimedRun call ∧
              ExecutionTracked runId dispatchId visited call)
      ⟨reachable, reachable.claimed_of_start called, _, called, rfl, rfl⟩
      ?_ ran
    rintro visited next label ⟨reached, claimed, call, calling, tracked⟩
      stepped
    obtain ⟨_, _, _, executed, _⟩ := step_moves stepped
    exact ⟨reached.step stepped, RunDatabase.exec_claimed executed claimed,
      ExecutionTracked.step reached claimed calling tracked stepped⟩
  exact both.2

/--
The execution of `(runId, dispatchId)` has settled properly: a row that still
bears the identifier is over, and the row is in the state that the result names.
-/
def SettledFinal
    (next : RunPool)
    (runId dispatchId : String)
    (outcome : Execution.Outcome) :
    Prop :=
  ∀ row,
    next.shared.row runId = some row →
    (row.dispatchId = some dispatchId →
        row.state ∈ [RunState.succeeded, .failed, .cancelled]) ∧
      ∀ named ∈ outcome.state?, named = row.state.text

/-- A settling step that leaves the row alone leaves it as it was found. -/
theorem settledFinal_iff_ownerFinds
    {rows : JobRuns}
    {pool next : RunPool}
    {runId dispatchId : String}
    {call : Execution.Local}
    {outcome : Execution.Outcome}
    (reachable : Reachable rows pool)
    (claimed : pool.shared.Claimed runId dispatchId)
    (unchanged : next.shared.row runId = pool.shared.row runId)
    (same :
      ∀ row,
        pool.shared.row runId = some row →
        (row.dispatchId = some dispatchId → row.state ≠ .queued) →
        (((row.dispatchId = some dispatchId →
              row.state ∈ [RunState.succeeded, .failed, .cancelled]) ∧
            ∀ named ∈ outcome.state?, named = row.state.text) ↔
          Execution.OwnerFinds call dispatchId row)) :
    SettledFinal next runId dispatchId outcome ↔
      ∀ row,
        pool.shared.row runId = some row →
        Execution.OwnerFinds call dispatchId row := by
  unfold SettledFinal
  rw [unchanged]
  refine forall_congr' fun row => forall_congr' fun stored => ?_
  exact same row stored
    (reachable.bearing_not_queued claimed stored)

/-- Waiting for something that is no statement changes no row. -/
theorem row_of_skip
    {process : Nat}
    {shared next : RunDatabase}
    {reply : RunReply}
    (executed : shared.exec process .skip = some (next, reply))
    (runId : String) :
    next.row runId = shared.row runId := by
  have effect := RunDatabase.exec_rowEffect executed runId
  generalize next.row runId = result at effect ⊢
  cases effect
  rfl

/--
An execution whose outcome write does not throw settles properly exactly when
its last step finds the row as `OwnerFinds` says.
-/
theorem execution_settles_iff
    {rows : JobRuns}
    {start pool next : RunPool}
    {schedule : List (Label RunInput)}
    {label : Label RunInput}
    {runId dispatchId : String}
    {named : String}
    {token : Option String}
    {outcome : Execution.Outcome}
    (reachable : Reachable rows start)
    (called :
      start.locals label.1 =
        .executeClaimedRun (.start runId dispatchId))
    (ran : runSystem.run? start schedule = some pool)
    (stepped : runSystem.step? pool label = some next)
    (settled :
      next.locals label.1 =
        .executeClaimedRun (.settled named token outcome))
    (outcomeWritten :
      ∀ run error environment,
        pool.locals label.1 = .executeClaimedRun (.failing run error) →
        label.2 ≠ .raise environment) :
    SettledFinal next runId dispatchId outcome ↔
      ∃ call,
        pool.locals label.1 = .executeClaimedRun call ∧
          ∀ row,
            pool.shared.row runId = some row →
            Execution.OwnerFinds call dispatchId row := by
  obtain ⟨claimed, call, calling, tracked⟩ :=
    execution_tracked reachable called ran
  have reached := reachable.run ran
  -- the call is known, so the condition is about no other
  simp only [calling, RunCall.executeClaimedRun.injEq, exists_eq_left']
  obtain ⟨statement, reply, after, executed, resumed, moved⟩ :=
    execution_move stepped calling
  rw [settled] at resumed
  cases moved with
  | load | prepare | execute | prepareThrows | succeed | succeedThrows |
      completeThrows | fail =>
      cases resumed
  | loadThrows =>
      cases resumed
      refine settledFinal_iff_ownerFinds reached claimed
        (row_of_skip executed _) ?_
      intro row stored notQueued
      cases state : row.state <;>
        simp_all [Execution.OwnerFinds, Execution.Outcome.state?]
  | loadMisses _ _ _ missed =>
      cases resumed
      obtain ⟨rfl, rfl⟩ := tracked
      obtain ⟨same, answer⟩ := RunDatabase.exec_getRun executed
      refine settledFinal_iff_ownerFinds reached claimed (by rw [same]) ?_
      intro row stored notQueued
      rw [missed, stored] at answer
      cases answer
  | succeedMisses run result endedAt _ missed =>
      cases resumed
      obtain ⟨rfl, bearsRun⟩ := tracked
      have missedRow :
          (pool.shared.row run.runId).bind
              (RunWrite.markSucceeded endedAt (some result) none
                run.dispatchId).update.returning =
            none := by
        obtain ⟨answer, -⟩ := RunDatabase.exec_update executed
        subst answer
        exact Option.map_eq_none_iff.mp missed
      have unchanged :=
        (RunDatabase.exec_update_missed executed missedRow).2 run.runId
      refine settledFinal_iff_ownerFinds reached claimed unchanged ?_
      intro row stored notQueued
      rw [bearsRun] at executed
      have notRunning :
          row.dispatchId = some dispatchId → row.state ≠ .running :=
        notRunning_of_succeed executed row (unchanged.trans stored)
      cases state : row.state <;>
        simp_all [Execution.OwnerFinds, Execution.Outcome.state?,
          RunState.text]
  | complete run =>
      cases resumed
      obtain ⟨rfl, -, row, stored, ended⟩ := tracked
      refine settledFinal_iff_ownerFinds reached claimed
        (row_of_skip executed _) ?_
      intro other storedOther notQueued
      cases stored.symm.trans storedOther
      simp [ended, Execution.OwnerFinds, Execution.Outcome.state?,
        RunState.text]
  | failThrows run error =>
      obtain ⟨_, reply, issued, -, returned⟩ := step_moves stepped
      rw [calling] at issued returned
      rw [settled] at returned
      exfalso
      cases input : label.2 with
      | start request =>
          rw [input] at issued
          cases issued
      | proceed environment =>
          rw [input] at returned
          cases returned
      | raise environment =>
          exact outcomeWritten run error environment calling input
  | rethrow run =>
      cases resumed
      obtain ⟨rfl, -, notRunning⟩ := tracked
      refine settledFinal_iff_ownerFinds reached claimed
        (row_of_skip executed _) ?_
      intro row stored notQueued
      have idle := notRunning row stored
      cases state : row.state <;>
        simp_all [Execution.OwnerFinds, Execution.Outcome.state?]

/-- Process 2 has just been given the run that process 1 has claimed. -/
def executeStarted : List (Label RunInput) :=
  queueNightly ++ claimNightly 1 firstUuid ++
    [(2, .start (.executeClaimedRun nightlyRunId "first"))]

/-- The next statement of process 2. -/
def executeStep : Label RunInput :=
  (2, .proceed (environmentAt 7 unusedUuid))

/-- The awaited step of process 2 throws. -/
def executeThrows : Label RunInput :=
  (2, .raise (environmentAt 8 unusedUuid))

/-- An example execution that ends in its `catch` block. -/
theorem executeNightly_settles
    (schedule : List (Label RunInput))
    (found : RunState)
    (computed :
      ((runSystem.run? (RunPool.initial ∅) executeStarted).bind fun start =>
        (runSystem.run? start schedule).bind fun pool =>
          (runSystem.step? pool executeStep).bind fun next =>
            match pool.locals 2, next.locals 2 with
            | .executeClaimedRun (.failed _),
              .executeClaimedRun (.settled runId token outcome) =>
                (pool.shared.row nightlyRunId).map fun row =>
                  (runId, token, outcome, row.dispatchId, row.state)
            | _, _ => none) =
        some (nightlyRunId, some "first", .threw, some "first", found)) :
    ∃ start pool next run row,
      Reachable ∅ start ∧
        start.locals 2 =
          .executeClaimedRun (.start nightlyRunId "first") ∧
        runSystem.run? start schedule = some pool ∧
        runSystem.step? pool executeStep = some next ∧
        pool.locals 2 = .executeClaimedRun (.failed run) ∧
        next.locals 2 =
          .executeClaimedRun
            (.settled nightlyRunId (some "first") .threw) ∧
        pool.shared.row nightlyRunId = some row ∧
        row.dispatchId = some "first" ∧
        row.state = found := by
  obtain ⟨start, ranStart, rest⟩ := Option.bind_eq_some_iff.mp computed
  obtain ⟨pool, ran, rest⟩ := Option.bind_eq_some_iff.mp rest
  obtain ⟨next, stepped, rest⟩ := Option.bind_eq_some_iff.mp rest
  have called :
      (runSystem.run? (RunPool.initial ∅) executeStarted).map
          (fun started => started.locals 2) =
        some (.executeClaimedRun (.start nightlyRunId "first")) :=
    rfl
  rw [ranStart] at called
  split at rest
  · rename_i run runId token outcome calling settled
    obtain ⟨row, stored, shape⟩ := Option.map_eq_some_iff.mp rest
    simp only [Prod.mk.injEq] at shape
    obtain ⟨rfl, rfl, rfl, bears, state⟩ := shape
    exact ⟨start, pool, next, run, row, ⟨_, ranStart⟩,
      Option.some.inj called, ran, stepped, calling, settled, stored,
      bears, state⟩
  · cases rest

/-- An execution whose metadata cannot be loaded leaves a `FAILED` run. -/
theorem execution_settles_iff_failed :
    ∃ start next : RunPool,
      start.locals 2 =
          .executeClaimedRun (.start nightlyRunId "first") ∧
        next.locals 2 =
          .executeClaimedRun
            (.settled nightlyRunId (some "first") .threw) ∧
        SettledFinal next nightlyRunId "first" .threw := by
  obtain ⟨start, pool, next, run, row, reachable, called, ran, stepped,
      calling, settled, stored, bears, isFailed⟩ :=
    executeNightly_settles [executeStep, executeThrows, executeStep] .failed
      (by decide)
  refine ⟨start, next, called, settled, ?_⟩
  refine (execution_settles_iff reachable called ran stepped settled
    (fun _ _ _ _ => nofun)).mpr ⟨_, calling, ?_⟩
  intro other storedOther
  cases stored.symm.trans storedOther
  simp [Execution.OwnerFinds, isFailed]

/--
The job of process 2 is running when process 3 cancels the run.  The subprocess
is killed, so `execute` throws, and `markFailed` does not match any more.
-/
def cancelledWhileExecuting : List (Label RunInput) :=
  -- the load, and the six stages before `execute`
  List.replicate 7 executeStep ++
    [(3, .start (.cancelRun ⟨nightlyRunId, "", "operator", false⟩)),
      (3, .proceed (environmentAt 7 unusedUuid)),
      (3, .proceed (environmentAt 7 unusedUuid)),
      executeThrows, executeStep]

/-- Its owner leaves the run in `CANCELLING`. -/
theorem cancelled_run_not_settled :
    ∃ start pool next,
      Reachable ∅ start ∧
        start.locals 2 =
          .executeClaimedRun (.start nightlyRunId "first") ∧
        runSystem.run? start cancelledWhileExecuting = some pool ∧
        runSystem.step? pool executeStep = some next ∧
        next.locals 2 =
          .executeClaimedRun
            (.settled nightlyRunId (some "first") .threw) ∧
        ¬ SettledFinal next nightlyRunId "first" .threw := by
  obtain ⟨start, pool, next, run, row, reachable, called, ran, stepped,
      calling, settled, stored, bears, isCancelling⟩ :=
    executeNightly_settles cancelledWhileExecuting .cancelling (by decide)
  refine ⟨start, pool, next, reachable, called, ran, stepped, settled, ?_⟩
  obtain ⟨statement, reply, issued, executed, -⟩ := step_moves stepped
  change (pool.locals 2).issue executeStep.2 = _ at issued
  rw [calling] at issued
  cases issued
  have effect := RunDatabase.exec_rowEffect executed nightlyRunId
  intro final
  have unchanged :
      next.shared.row nightlyRunId = pool.shared.row nightlyRunId := by
    generalize next.shared.row nightlyRunId = result at effect ⊢
    cases effect
    rfl
  have ended := (final row (unchanged.trans stored)).1 bears
  simp [isCancelling] at ended

end RunPool

end IgaScheduler

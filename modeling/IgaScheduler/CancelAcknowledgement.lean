import IgaScheduler.RunEffects

namespace IgaScheduler

open Relational Interleaving

/-!
# Cancel acknowledgements

`cancelRun` reads the run and then sends a guarded transition whose result it
does not look at when it answers.  The answer is real exactly when the
transition finds the run where the read left it, or already cancelled.
-/

namespace CancelRun

/-- The row states that stand behind an acknowledgement. -/
def Result.backing (result : Result) : List RunState :=
  match result.state with
  | .cancelled => [.cancelled]
  | _ => [.cancelling, .cancelled]

/-- The row states in which the transition of a call makes its answer true. -/
def confirming (run : RunDocument) : List RunState :=
  if run.state = .running then
    [.running, .cancelling, .cancelled]
  else
    [.queued, .cancelled]

/--
Right before its last step, a call that is about to send its transition meets
the run where it has read it, or already cancelled.
-/
def Confirmed
    (row : Option JobRun) :
    Local → Prop
  | .loaded _ run _ =>
      ∃ stored, row = some stored ∧ stored.state ∈ confirming run
  | _ => True

/-- The steps of one call: what it issues and where the reply takes it. -/
inductive Move : Local → RunStatement → RunReply → Local → Prop where
  | fail
      (call : Local)
      (statement : RunStatement)
      (reply : RunReply)
      (error : CallError) :
      Move call statement reply (.done (.error error))
  | answer
      (arguments : Arguments)
      (reply : RunReply)
      (run : RunDocument)
      (found : reply.found? = some run)
      (asked : run.state ∈ [RunState.cancelled, .cancelling]) :
      Move (.start arguments) (.getRun arguments.runId) reply
        (.done (.ok ⟨arguments.runId, run.state, true⟩))
  | load
      (arguments : Arguments)
      (reply : RunReply)
      (run : RunDocument)
      (nowIso : Timestamp) :
      Move (.start arguments) (.getRun arguments.runId) reply
        (.loaded arguments run nowIso)
  | cancelRunning
      (arguments : Arguments)
      (run : RunDocument)
      (nowIso now : Timestamp)
      (reply : RunReply)
      (running : run.state = .running) :
      Move (.loaded arguments run nowIso)
        (.update arguments.runId
          (.cancelRunning arguments.reason arguments.cancelledBy nowIso
            now))
        reply (acknowledged arguments .cancelling)
  | signal
      (arguments : Arguments)
      (run updated : RunDocument)
      (nowIso now : Timestamp)
      (reply : RunReply)
      (running : run.state = .running)
      (hit : reply.found? = some updated) :
      Move (.loaded arguments run nowIso)
        (.update arguments.runId
          (.cancelRunning arguments.reason arguments.cancelledBy nowIso
            now))
        reply (.signalling arguments updated)
  | cancelQueued
      (arguments : Arguments)
      (run : RunDocument)
      (nowIso now : Timestamp)
      (reply : RunReply)
      (notRunning : run.state ≠ .running) :
      Move (.loaded arguments run nowIso)
        (.update arguments.runId
          (.cancelQueued arguments.reason arguments.cancelledBy nowIso now))
        reply (acknowledged arguments .cancelled)
  | confirm
      (arguments : Arguments)
      (run : RunDocument)
      (nowIso : Timestamp)
      (reply : RunReply) :
      Move (.signalling arguments run) .skip reply
        (.killed arguments run nowIso)
  | unconfirmed
      (arguments : Arguments)
      (run : RunDocument)
      (reply : RunReply) :
      Move (.signalling arguments run) .skip reply
        (acknowledged arguments .cancelling)
  | kill
      (arguments : Arguments)
      (run : RunDocument)
      (nowIso now : Timestamp)
      (reply : RunReply) :
      Move (.killed arguments run nowIso)
        (.update run.runId (.killed run.cancelReason nowIso now))
        reply (acknowledged arguments .cancelling)

/-- An executed statement makes a move. -/
theorem move_of_issue
    {call : Local}
    {environment : Environment}
    {statement : RunStatement}
    (issued : issue call environment = some statement)
    (reply : RunReply) :
    Move call statement reply (resume call environment reply) := by
  cases call with
  | start arguments =>
      by_cases empty : arguments.runId = ""
      · simp only [resume, empty, if_true]
        exact .fail _ _ _ _
      · simp only [issue, empty, if_false, Option.some.injEq] at issued
        subst issued
        simp only [resume, empty, if_false]
        cases found : reply.found? with
        | none =>
            exact .fail _ _ _ _
        | some run =>
            cases state : run.state with
            | queued | running =>
                simp only [state]
                exact .load arguments reply run environment.now
            | succeeded | failed =>
                simp only [state]
                exact .fail _ _ _ _
            | cancelling | cancelled =>
                simp only [state]
                have answer := Move.answer arguments reply run found
                rw [state] at answer
                exact answer (by simp)
  | loaded arguments run nowIso =>
      by_cases running : run.state = .running
      · simp only [issue, running, if_true, Option.some.injEq] at issued
        subst issued
        simp only [resume, running, if_true]
        cases hit : reply.found? with
        | none =>
            exact .cancelRunning arguments run nowIso _ reply running
        | some updated =>
            by_cases launcher : arguments.launcher = true
            · simp only [launcher, if_true]
              exact .signal arguments run updated nowIso _ reply running hit
            · simp only [launcher]
              exact .cancelRunning arguments run nowIso _ reply running
      · simp only [issue, running, if_false, Option.some.injEq] at issued
        subst issued
        simp only [resume, running, if_false]
        exact .cancelQueued arguments run nowIso _ reply running
  | signalling arguments run =>
      cases issued
      simp only [resume]
      split
      · exact .confirm arguments run environment.now reply
      · exact .unconfirmed arguments run reply
  | killed arguments run nowIso =>
      cases issued
      exact .kill arguments run nowIso _ reply
  | done outcome =>
      cases issued

/-- A statement that throws makes a move, too. -/
theorem move_of_raise
    {call : Local}
    {environment : Environment}
    {statement : RunStatement}
    (issued : issue call environment = some statement)
    (reply : RunReply) :
    Move call .skip reply (raise call) := by
  cases call with
  | start | loaded | killed =>
      exact .fail _ _ _ _
  | signalling arguments run =>
      exact .unconfirmed arguments run reply
  | done outcome =>
      cases issued

end CancelRun

namespace RunPool

/-- A call of `cancelRun` makes one of its moves. -/
theorem cancelRun_move
    {pool next : RunPool}
    {label : Label RunInput}
    {call : CancelRun.Local}
    (stepped : runSystem.step? pool label = some next)
    (calling : pool.locals label.1 = .cancelRun call) :
    ∃ statement reply after,
      pool.shared.exec label.1 statement = some (next.shared, reply) ∧
        next.locals label.1 = .cancelRun after ∧
        CancelRun.Move call statement reply after := by
  obtain ⟨statement, reply, issued, executed, resumed⟩ :=
    step_moves stepped
  rw [calling] at issued resumed
  rcases label with ⟨process, input⟩
  cases input with
  | start request =>
      cases issued
  | raise environment =>
      obtain ⟨_, waiting, rfl⟩ := Option.map_eq_some_iff.mp issued
      exact ⟨_, reply, _, executed, resumed,
        CancelRun.move_of_raise waiting reply⟩
  | proceed environment =>
      exact ⟨_, reply, _, executed, resumed,
        CancelRun.move_of_issue issued reply⟩

/-- The run is stored in one of the given states. -/
def InState
    (runId : String)
    (states : List RunState)
    (pool : RunPool) :
    Prop :=
  ∃ row, pool.shared.row runId = some row ∧ row.state ∈ states

/-- A run that is being cancelled can only become cancelled. -/
theorem cancelling_stays
    {before after : JobRun}
    (inside : before.state ∈ [RunState.cancelling, .cancelled])
    (rowStep : RunDatabase.RowStep before after) :
    after.state ∈ [RunState.cancelling, .cancelled] := by
  rcases rowStep.edge with same | edge
  · rw [same]
    exact inside
  · generalize before.state = source at edge inside
    generalize after.state = target at edge ⊢
    cases edge <;> simp at inside ⊢

theorem cancelled_stays
    {before after : JobRun}
    (inside : before.state ∈ [RunState.cancelled])
    (rowStep : RunDatabase.RowStep before after) :
    after.state ∈ [RunState.cancelled] := by
  have isCancelled := List.mem_singleton.mp inside
  rw [rowStep.frozen (.inr isCancelled)]
  exact inside

/-- What stands behind an acknowledgement stays behind it. -/
theorem backing_stays
    {result : CancelRun.Result}
    {before after : JobRun}
    (inside : before.state ∈ result.backing)
    (rowStep : RunDatabase.RowStep before after) :
    after.state ∈ result.backing := by
  unfold CancelRun.Result.backing at inside ⊢
  split at inside
  · exact cancelled_stays inside rowStep
  · exact cancelling_stays inside rowStep

theorem backing_cancelling
    {result : CancelRun.Result}
    {state : RunState}
    (inside : state ∈ result.backing) :
    state ∈ [RunState.cancelling, .cancelled] := by
  unfold CancelRun.Result.backing at inside
  split at inside
  · exact List.mem_cons_of_mem _ inside
  · exact inside

/-- A run in a set of states that no step leaves is found there for ever. -/
theorem InState.run
    {rows : JobRuns}
    {pool final : RunPool}
    {schedule : List (Label RunInput)}
    {runId : String}
    {states : List RunState}
    (reachable : Reachable rows pool)
    (stays :
      ∀ {before after : JobRun},
        before.state ∈ states →
        RunDatabase.RowStep before after →
        after.state ∈ states)
    (inside : InState runId states pool)
    (ran : runSystem.run? pool schedule = some final) :
    InState runId states final := by
  obtain ⟨row, stored, within⟩ := inside
  exact reachable.row_stays (fun visited => visited.state ∈ states)
    ran stored within stays

/--
An acknowledgement is real: between the start of the call and its return the
run was in a state that the answer stands for, and whatever happens after the
return, the run is never claimed, succeeded or failed again.
-/
structure CancelIsReal
    (start next : RunPool)
    (schedule : List (Label RunInput))
    (runId : String)
    (result : CancelRun.Result) :
    Prop where
  visited :
    runSystem.Visits start schedule (InState runId result.backing)
  lasting :
    ∀ {later : List (Label RunInput)} {final : RunPool},
      runSystem.run? next later = some final →
      InState runId [.cancelling, .cancelled] final

/-- An acknowledgement is real exactly when the row backs it on return. -/
theorem cancelIsReal_iff_backed
    {rows : JobRuns}
    {start next : RunPool}
    {schedule : List (Label RunInput)}
    {runId : String}
    {result : CancelRun.Result}
    (reachable : Reachable rows start)
    (ran : runSystem.run? start schedule = some next) :
    CancelIsReal start next schedule runId result ↔
      InState runId result.backing next := by
  constructor
  · rintro ⟨⟨earlier, later, pool, rfl, ranEarlier, inside⟩, -⟩
    obtain ⟨middle, ranMiddle, ranLater⟩ :=
      System.run?_append_eq_some.mp ran
    cases ranEarlier.symm.trans ranMiddle
    exact inside.run (reachable.run ranEarlier) backing_stays ranLater
  · intro backed
    refine ⟨System.Visits.final ran backed, ?_⟩
    intro later final ranLater
    obtain ⟨row, stored, within⟩ := backed
    exact InState.run (reachable.run ran) cancelling_stays
      ⟨row, stored, backing_cancelling within⟩ ranLater

/-- What is known of a call in progress: its arguments, and its run's state. -/
def CancelTracked
    (arguments : CancelRun.Arguments)
    (pool : RunPool) :
    CancelRun.Local → Prop
  | .start own => own = arguments
  | .loaded own _ _ => own = arguments
  | .signalling own _ =>
      own = arguments ∧
        InState arguments.runId [.cancelling, .cancelled] pool
  | .killed own _ _ =>
      own = arguments ∧
        InState arguments.runId [.cancelling, .cancelled] pool
  | .done _ => True

/-- A run in a set of states that no step leaves is found there afterwards. -/
theorem InState.step
    {rows : JobRuns}
    {pool next : RunPool}
    {label : Label RunInput}
    {runId : String}
    (reachable : Reachable rows pool)
    (inside : InState runId [.cancelling, .cancelled] pool)
    (stepped : runSystem.step? pool label = some next) :
    InState runId [.cancelling, .cancelled] next :=
  inside.run reachable cancelling_stays
    (System.run?_singleton.trans stepped)

/-- A hit transition from `RUNNING` leaves the run in `CANCELLING`. -/
theorem inState_of_hit
    {process : Nat}
    {pool next : RunPool}
    {reply : RunReply}
    {runId reason cancelledBy : String}
    {nowIso now : Timestamp}
    {updated : RunDocument}
    (executed :
      pool.shared.exec process
          (.update runId (.cancelRunning reason cancelledBy nowIso now)) =
        some (next.shared, reply))
    (hit : reply.found? = some updated) :
    InState runId [.cancelling, .cancelled] next := by
  obtain ⟨answer, written⟩ := RunDatabase.exec_update executed
  subst answer
  obtain ⟨result, returned, -⟩ := Option.map_eq_some_iff.mp hit
  obtain ⟨row, found, admitted⟩ := Option.bind_eq_some_iff.mp returned
  obtain ⟨guarded, -⟩ := RowUpdate.returning_eq_some.mp admitted
  refine ⟨_, written.trans (by rw [found]; rfl), ?_⟩
  rw [RowUpdate.apply_of_guard guarded, RunWrite.set_state]
  exact List.mem_cons_self

/-- A call is tracked from its start to its return. -/
theorem cancelRun_tracked
    {rows : JobRuns}
    {start pool : RunPool}
    {schedule : List (Label RunInput)}
    {process : Nat}
    {arguments : CancelRun.Arguments}
    (reachable : Reachable rows start)
    (called : start.locals process = .cancelRun (.start arguments))
    (ran : runSystem.run? start schedule = some pool) :
    ∃ call,
      pool.locals process = .cancelRun call ∧
        CancelTracked arguments pool call := by
  have both :
      Reachable rows pool ∧
        ∃ call,
          pool.locals process = .cancelRun call ∧
            CancelTracked arguments pool call := by
    refine System.run?_invariant
      (fun visited =>
        Reachable rows visited ∧
          ∃ call,
            visited.locals process = .cancelRun call ∧
              CancelTracked arguments visited call)
      ⟨reachable, .start arguments, called, rfl⟩ ?_ ran
    rintro visited next label ⟨reached, call, calling, tracked⟩ stepped
    refine ⟨reached.step stepped, ?_⟩
    by_cases own : process = label.1
    · subst own
      obtain ⟨statement, reply, after, executed, resumed, moved⟩ :=
        cancelRun_move stepped calling
      refine ⟨after, resumed, ?_⟩
      cases moved with
      | fail | answer | cancelRunning | cancelQueued | unconfirmed |
          kill =>
          trivial
      | load =>
          exact tracked
      | signal _ run updated nowIso now _ running hit =>
          subst tracked
          exact ⟨rfl, inState_of_hit executed hit⟩
      | confirm =>
          exact ⟨tracked.1, tracked.2.step reached stepped⟩
    · refine ⟨call, (System.step?_locals_other stepped own).trans calling,
        ?_⟩
      cases call with
      | start | loaded | done =>
          exact tracked
      | signalling | killed =>
          exact ⟨tracked.1, tracked.2.step reached stepped⟩
  exact both.2

/-- The transition of a call backs its answer when the read still holds. -/
theorem backed_iff_confirming
    {process : Nat}
    {pool next : RunPool}
    {reply : RunReply}
    {runId : String}
    {write : RunWrite}
    {source : RunState}
    {states : List RunState}
    (executed :
      pool.shared.exec process (.update runId write) =
        some (next.shared, reply))
    (guarded :
      ∀ row : JobRun, write.update.guard row = true ↔ row.state = source)
    (reaches : write.target source ∈ states) :
    InState runId states next ↔
      ∃ stored,
        pool.shared.row runId = some stored ∧
          stored.state ∈ source :: states := by
  obtain ⟨-, written⟩ := RunDatabase.exec_update executed
  constructor
  · rintro ⟨after, storedAfter, inside⟩
    rw [storedAfter] at written
    obtain ⟨stored, found, rfl⟩ := Option.map_eq_some_iff.mp written.symm
    refine ⟨stored, found, ?_⟩
    by_cases admitted : write.update.guard stored = true
    · rw [(guarded stored).mp admitted]
      exact List.mem_cons_self
    · rw [RowUpdate.apply_of_not_guard (by simpa using admitted)] at inside
      exact List.mem_cons_of_mem _ inside
  · rintro ⟨stored, found, inside⟩
    rw [found, Option.map_some] at written
    refine ⟨_, written, ?_⟩
    by_cases admitted : write.update.guard stored = true
    · rw [RowUpdate.apply_of_guard admitted, RunWrite.set_state,
        (guarded stored).mp admitted]
      exact reaches
    · rw [RowUpdate.apply_of_not_guard (by simpa using admitted)]
      rcases List.mem_cons.mp inside with same | within
      · exact (admitted ((guarded stored).mpr same)).elim
      · exact within

/--
A `cancelRun` call that has returned an acknowledgement: it is real exactly
when the transition the call ends with finds the run where the call has read
it (`QUEUED` or `RUNNING`), or finds it already cancelled in the meantime.
-/
theorem cancel_acknowledged_iff
    {rows : JobRuns}
    {start pool next : RunPool}
    {schedule : List (Label RunInput)}
    {label : Label RunInput}
    {arguments : CancelRun.Arguments}
    {result : CancelRun.Result}
    (reachable : Reachable rows start)
    (called : start.locals label.1 = .cancelRun (.start arguments))
    (ran : runSystem.run? start schedule = some pool)
    (stepped : runSystem.step? pool label = some next)
    (returned : next.locals label.1 = .cancelRun (.done (.ok result))) :
    CancelIsReal start next (schedule ++ [label]) arguments.runId result ↔
      ∃ call,
        pool.locals label.1 = .cancelRun call ∧
          CancelRun.Confirmed (pool.shared.row arguments.runId) call := by
  have ranNext :
      runSystem.run? start (schedule ++ [label]) = some next :=
    System.run?_append_eq_some.mpr
      ⟨pool, ran, System.run?_singleton.trans stepped⟩
  rw [cancelIsReal_iff_backed reachable ranNext]
  obtain ⟨call, calling, tracked⟩ :=
    cancelRun_tracked reachable called ran
  obtain ⟨statement, reply, after, executed, resumed, moved⟩ :=
    cancelRun_move stepped calling
  -- the call is known, so the condition is about no other
  simp only [calling, RunCall.cancelRun.injEq, exists_eq_left']
  rw [returned] at resumed
  cases moved with
  | fail | load | signal | confirm =>
      cases resumed
  | answer own _ run found asked =>
      cases resumed
      obtain rfl : own = arguments := tracked
      obtain ⟨same, answer⟩ := RunDatabase.exec_getRun executed
      rw [found] at answer
      obtain ⟨row, stored, rfl⟩ := Option.map_eq_some_iff.mp answer.symm
      refine iff_of_true ⟨row, by rw [same]; exact stored, ?_⟩ trivial
      rcases List.mem_cons.mp asked with cancelled | rest
      · simp only [rowToDocument_toJobRun] at cancelled
        simp [CancelRun.Result.backing, cancelled]
      · have cancelling := List.mem_singleton.mp rest
        simp only [rowToDocument_toJobRun] at cancelling
        simp [CancelRun.Result.backing, cancelling]
  | cancelRunning own run nowIso now _ running =>
      cases resumed
      obtain rfl : own = arguments := tracked
      simp only [CancelRun.Confirmed, CancelRun.confirming, running,
        if_true]
      refine backed_iff_confirming executed ?_ List.mem_cons_self
      intro row
      have guarded :=
        RunWrite.guard_of_unfenced
          (show (RunWrite.cancelRunning own.reason own.cancelledBy nowIso
            now).carried? = none from rfl) row
      simpa [RunWrite.sources] using guarded
  | cancelQueued own run nowIso now _ notRunning =>
      cases resumed
      obtain rfl : own = arguments := tracked
      simp only [CancelRun.Confirmed, CancelRun.confirming, notRunning,
        if_false]
      refine backed_iff_confirming executed ?_ List.mem_cons_self
      intro row
      have guarded :=
        RunWrite.guard_of_unfenced
          (show (RunWrite.cancelQueued own.reason own.cancelledBy nowIso
            now).carried? = none from rfl) row
      simpa [RunWrite.sources] using guarded
  | unconfirmed own run =>
      cases resumed
      exact iff_of_true
        (tracked.2.step (reachable.run ran) stepped) trivial
  | kill own run nowIso now =>
      cases resumed
      exact iff_of_true
        (tracked.2.step (reachable.run ran) stepped) trivial

/-- The arguments of the example calls. -/
def cancelNightly : CancelRun.Arguments where
  runId := nightlyRunId
  reason := ""
  cancelledBy := "operator"
  launcher := false

/-- Process 3 has just called `cancelRun` on a queued run. -/
def cancelStarted : List (Label RunInput) :=
  queueNightly ++ [(3, .start (.cancelRun cancelNightly))]

/-- The next statement of process 3. -/
def cancelStep : Label RunInput :=
  (3, .proceed (environmentAt 7 unusedUuid))

/-- The answer of the example calls. -/
def cancelledNightly : CancelRun.Result where
  runId := nightlyRunId
  state := .cancelled
  idempotent := false

/-- An example call whose read and transition are `between` apart. -/
theorem cancelNightly_returns
    (between : List (Label RunInput))
    (found : RunState)
    (computed :
      ((runSystem.run? (RunPool.initial ∅) cancelStarted).bind fun start =>
        (runSystem.run? start (cancelStep :: between)).bind fun pool =>
          (runSystem.step? pool cancelStep).bind fun next =>
            match next.locals 3 with
            | .cancelRun (.done (.ok answer)) =>
                (pool.shared.row nightlyRunId).map fun row =>
                  (answer, row.state)
            | _ => none) =
        some (cancelledNightly, found)) :
    ∃ start pool next row,
      Reachable ∅ start ∧
        start.locals 3 = .cancelRun (.start cancelNightly) ∧
        runSystem.run? start (cancelStep :: between) = some pool ∧
        runSystem.step? pool cancelStep = some next ∧
        next.locals 3 = .cancelRun (.done (.ok cancelledNightly)) ∧
        pool.shared.row nightlyRunId = some row ∧
        row.state = found := by
  obtain ⟨start, ranStart, rest⟩ := Option.bind_eq_some_iff.mp computed
  obtain ⟨pool, ran, rest⟩ := Option.bind_eq_some_iff.mp rest
  obtain ⟨next, stepped, rest⟩ := Option.bind_eq_some_iff.mp rest
  have called :
      (runSystem.run? (RunPool.initial ∅) cancelStarted).map
          (fun started => started.locals 3) =
        some (.cancelRun (.start cancelNightly)) :=
    rfl
  rw [ranStart] at called
  split at rest
  · rename_i answer shape
    obtain ⟨row, stored, pair⟩ := Option.map_eq_some_iff.mp rest
    obtain ⟨rfl, state⟩ := Prod.mk.inj pair
    exact ⟨start, pool, next, row, ⟨_, ranStart⟩, Option.some.inj called,
      ran, stepped, shape, stored, state⟩
  · cases rest

/-- A cancel that nothing disturbs is real. -/
theorem cancel_acknowledged_iff_undisturbed :
    ∃ start next,
      start.locals 3 = .cancelRun (.start cancelNightly) ∧
        next.locals 3 = .cancelRun (.done (.ok cancelledNightly)) ∧
        CancelIsReal start next [cancelStep, cancelStep] nightlyRunId
          cancelledNightly := by
  obtain ⟨start, pool, next, row, reachable, called, ran, stepped,
      returned, stored, isQueued⟩ :=
    cancelNightly_returns [] .queued (by decide)
  refine ⟨start, next, called, returned, ?_⟩
  refine (cancel_acknowledged_iff reachable called ran stepped
    returned).mpr ?_
  obtain ⟨call, calling, tracked⟩ := cancelRun_tracked reachable called ran
  refine ⟨call, calling, ?_⟩
  obtain ⟨_, _, after, -, resumed, moved⟩ := cancelRun_move stepped calling
  replace resumed := returned.symm.trans resumed
  cases moved with
  | cancelQueued own run nowIso now _ notRunning =>
      cases tracked
      refine ⟨row, stored, ?_⟩
      simp [CancelRun.confirming, notRunning, isQueued]
  | cancelRunning =>
      cases tracked
      cases resumed
  | fail | load | signal | confirm =>
      cases resumed
  | answer | unconfirmed | kill =>
      trivial

/--
Process 3 reads the queued run, process 1 claims it, and process 3 answers
that it is `CANCELLED` while it is `RUNNING`.
-/
theorem claimed_run_not_cancelled :
    ∃ start next,
      start.locals 3 = .cancelRun (.start cancelNightly) ∧
        next.locals 3 = .cancelRun (.done (.ok cancelledNightly)) ∧
        ¬ CancelIsReal start next
          (cancelStep :: claimNightly 1 firstUuid ++
            [cancelStep])
          nightlyRunId cancelledNightly := by
  obtain ⟨start, pool, next, row, reachable, called, ran, stepped,
      returned, stored, isRunning⟩ :=
    cancelNightly_returns (claimNightly 1 firstUuid) .running
      (by decide)
  refine ⟨start, next, called, returned, ?_⟩
  have ranNext :
      runSystem.run? start
          (cancelStep :: claimNightly 1 firstUuid ++
            [cancelStep]) =
        some next :=
    System.run?_append_eq_some.mpr
      ⟨pool, ran, System.run?_singleton.trans stepped⟩
  rw [cancelIsReal_iff_backed reachable ranNext]
  rintro ⟨after, storedAfter, inside⟩
  have isCancelled : after.state = .cancelled := List.mem_singleton.mp inside
  obtain ⟨later, storedLater, rowStep⟩ :=
    (reachable.run ran).rowStep stepped stored
  cases storedAfter.symm.trans storedLater
  have edge := rowStep.edge
  rw [isRunning, isCancelled] at edge
  rcases edge with same | edge
  · cases same
  · cases edge

end RunPool

end IgaScheduler

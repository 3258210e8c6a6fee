import IgaScheduler.LocalServices

namespace IgaScheduler

open Relational Interleaving

/-!
# Runs of the local application

Whatever the services of the local application do in whatever order, no two
executions hold one run, so `LocalRunStore` stands in for `RunStore` although
it fences nothing, as long as no value is one that PostgreSQL has no column
for.  What it cannot replace is the sweeper: a cancelled execution is never
acknowledged.
-/

namespace LocalServices

open LocalRunStore (Admissible Agrees GivesObjects Readable)

/-- The JSON columns of every run can be read back. -/
def AllReadable (table : JobRuns) : Prop :=
  ∀ runId : String, ∀ run ∈ table.lookup runId, Readable run

/-- Every execution holds its run alone. -/
structure Serving (pool : WorkerPool) : Prop where
  readable : AllReadable pool.shared.database.committed
  unlocked : Unlocked pool.shared
  services : ∀ process, ServiceReady (pool.first.locals process)
  executions : ∀ process, ExecutionReady (pool.second.locals process)
  holds :
    ∀ process, ∀ run ∈ held (pool.second.locals process),
      Holds pool.shared run
  apart :
    ∀ {process other : Nat} {run otherRun : RunDocument},
      run ∈ held (pool.second.locals process) →
        otherRun ∈ held (pool.second.locals other) →
          run.runId = otherRun.runId →
            process = other

theorem serving_initial
    {table : JobRuns}
    (readable : AllReadable table) :
    Serving (WorkerPool.initial table) where
  readable := readable
  unlocked := rfl
  services := fun _ => trivial
  executions := fun _ => trivial
  holds := by
    rintro process run ⟨⟩
  apart := by
    rintro process other run otherRun ⟨⟩

variable {pool next final : WorkerPool}
variable {label : WorkerStep} {schedule : List WorkerStep}

/-- What a step of the local application leaves behind. -/
structure Served
    (pool next : WorkerPool)
    (label : WorkerStep) :
    Prop where
  issued :
    ∃ process statement reply,
      issuedLocally statement = true ∧
        pool.shared.exec process statement = some (next.shared, reply)
  alike :
    ∀ call ∈ stepCalls pool label,
      GivesObjects call ∧
        call.fits pool.shared.database.committed = true
  committed :
    next.shared.database.committed =
      Answering.after RunStore.query pool.shared.database.committed
        (stepCalls pool label)
  serving : Serving next

/-- A step makes one call of its store at most. -/
theorem length_storeCalls_le (statement : RunStatement) :
    statement.storeCalls.length ≤ 1 := by
  cases statement with
  | update runId write =>
      cases write <;> simp [RunStatement.storeCalls, RunWrite.asked?]
  | _ =>
      simp [RunStatement.storeCalls]

theorem length_stepCalls_le
    (pool : WorkerPool)
    (label : WorkerStep) :
    (stepCalls pool label).length ≤ 1 := by
  unfold stepCalls
  split
  · exact length_storeCalls_le _
  · exact length_storeCalls_le _
  · exact Nat.zero_le 1

/-- A step writes JSON columns that can be read back. -/
theorem readable_next
    {after : JobRuns}
    (serving : Serving pool)
    (alike :
      ∀ call ∈ stepCalls pool label,
        GivesObjects call ∧
          call.fits pool.shared.database.committed = true)
    (committed :
      after =
        Answering.after RunStore.query pool.shared.database.committed
          (stepCalls pool label)) :
    AllReadable after := by
  have short := length_stepCalls_le pool label
  rw [committed]
  generalize stepCalls pool label = calls at alike short ⊢
  cases calls with
  | nil =>
      exact serving.readable
  | cons call rest =>
      cases rest with
      | nil =>
          intro runId run found
          exact LocalRunStore.readable_query
            (fun found => serving.readable _ _ found)
            (alike call List.mem_cons_self).1 found
      | cons =>
          simp at short

/-- A step of a service. -/
theorem served_of_service
    {input : RunInput}
    (serving : Serving pool)
    (shape : label.2 = .inl input)
    (served : servedLocally label.2 = true)
    (stepped :
      runSystem.step? pool.first (label.1, input) = some next.first)
    (rests : next.second.locals = pool.second.locals) :
    Served pool next label := by
  obtain ⟨statement, reply, issued, executed, resumed⟩ :=
    RunPool.step_moves stepped
  rw [shape] at served
  obtain ⟨statementServed, servedAlike, noFailure, ready⟩ :=
    service_step (serving.services label.1) served
      (fun found => serving.readable _ _ found) issued executed
  have made : stepCalls pool label = statement.storeCalls := by
    have stated :
        workerSystem.issue (pool.locals label.1) label.2 =
          some (.inl statement) := by
      rw [shape]
      exact congrArg (Option.map Sum.inl) issued
    rw [stepCalls, stated]
  have alike := servedAlike.answeredAlike pool.shared.database.committed
  obtain ⟨unlocked, committed⟩ :=
    exec_storeCalls serving.unlocked statementServed executed
  unfold AnsweredAlike at alike
  rw [← made] at alike committed
  refine ⟨⟨label.1, statement, reply, statementServed, executed⟩, alike,
    committed, ?_⟩
  exact {
    readable := readable_next serving alike committed
    unlocked := unlocked
    services := by
      intro process
      by_cases own : process = label.1
      · subst own
        rw [resumed]
        exact ready
      · rw [System.step?_locals_other stepped own]
        exact serving.services process
    executions := by
      rw [rests]
      exact serving.executions
    holds := by
      rw [rests]
      intro process run member
      exact (serving.holds process run member).exec statementServed
        (noFailure run.runId) executed
    apart := by
      rw [rests]
      exact serving.apart
  }

/-- A granted claim holds its run, which nobody has held. -/
theorem holds_of_claimed
    {process : Nat}
    {shared after : RunDatabase}
    {run written : RunDocument}
    {startedAt : Timestamp}
    {uuid : Uuid}
    {reply : RunReply}
    (executed :
      shared.exec process
          (.update run.runId (.claimRun startedAt none uuid)) =
        some (after, reply))
    (answered : reply.found? = some written) :
    Holds after { run with dispatchId := written.dispatchId } ∧
      ∀ other : RunDocument,
        other.runId = run.runId → ¬ Holds shared other := by
  obtain ⟨answer, stored⟩ := RunDatabase.exec_update executed
  rw [answer] at answered
  obtain ⟨row, returned, rfl⟩ := Option.map_eq_some_iff.mp answered
  obtain ⟨before, found, admittedRow⟩ := Option.bind_eq_some_iff.mp returned
  obtain ⟨admitted, rfl⟩ := RowUpdate.returning_eq_some.mp admittedRow
  have queued : before.state = .queued := of_decide_eq_true admitted
  refine ⟨⟨(RunWrite.claimRun startedAt none uuid).update.set before,
    ?_, rfl, ?_, ?_⟩, ?_⟩
  · rw [found, Option.map_some, RowUpdate.apply_of_guard admitted] at stored
    exact stored
  · rintro ⟨⟩
  · rintro ⟨⟩
  · rintro other sameRun ⟨otherRow, otherFound, -, notQueued, -⟩
    rw [sameRun, found] at otherFound
    cases otherFound
    exact notQueued queued

/-- A step of an execution. -/
theorem served_of_execution
    {input : LocalExecution.Input}
    (serving : Serving pool)
    (shape : label.2 = .inr input)
    (served : servedLocally label.2 = true)
    (stepped :
      LocalExecution.system.step? pool.second (label.1, input) =
        some next.second)
    (rests : next.first.locals = pool.first.locals) :
    Served pool next label := by
  obtain ⟨statement, reply, issued, executed, resumed⟩ :=
    System.step?_moves stepped
  rw [shape] at served
  have own :=
    @execution_step pool.shared statement reply _ _
      (serving.executions label.1) served (serving.holds label.1) issued
  have made : stepCalls pool label = statement.storeCalls := by
    have stated :
        workerSystem.issue (pool.locals label.1) label.2 =
          some (.inr statement) := by
      rw [shape]
      exact congrArg (Option.map Sum.inr) issued
    rw [stepCalls, stated]
  have alike := own.alike
  obtain ⟨unlocked, committed⟩ :=
    exec_storeCalls serving.unlocked own.issued executed
  unfold AnsweredAlike at alike
  rw [← made] at alike committed
  have others
      {process : Nat}
      (different : process ≠ label.1) :
      next.second.locals process = pool.second.locals process :=
    System.step?_locals_other stepped different
  -- nobody but the owner of a run fails it
  have othersHold
      {process : Nat}
      {run : RunDocument}
      (different : process ≠ label.1)
      (member : run ∈ held (pool.second.locals process)) :
      Holds next.shared run := by
    refine (serving.holds process run member).exec own.issued ?_ executed
    intro endedAt error status dispatchId failed
    obtain ⟨ownRun, ownMember, sameRun⟩ :=
      own.failing _ _ _ _ _ failed
    exact different (serving.apart member ownMember sameRun.symm)
  have ownHolds :
      ∀ run ∈ held (next.second.locals label.1),
        Holds next.shared run ∧
          ∀ {process : Nat} {other : RunDocument},
            process ≠ label.1 →
              other ∈ held (pool.second.locals process) →
                run.runId ≠ other.runId := by
    rw [resumed]
    intro run member
    cases own.held with
    | claimed claim answered held =>
        rw [claim] at executed
        obtain ⟨holds, unheld⟩ := holds_of_claimed executed answered
        cases held.symm.trans member
        refine ⟨holds, ?_⟩
        intro process other _ otherMember sameRun
        exact unheld other sameRun.symm
          (serving.holds process other otherMember)
    | released gone =>
        cases gone.symm.trans member
    | kept same goesOn =>
        have before := same ▸ member
        refine ⟨(serving.holds label.1 run before).exec own.issued
          (goesOn run.runId) executed, ?_⟩
        intro process other different otherMember sameRun
        exact different (serving.apart before otherMember sameRun).symm
  refine ⟨⟨label.1, statement, reply, own.issued, executed⟩, alike,
    committed, ?_⟩
  exact {
    readable := readable_next serving alike committed
    unlocked := unlocked
    services := by
      rw [rests]
      exact serving.services
    executions := by
      intro process
      by_cases same : process = label.1
      · subst same
        rw [resumed]
        exact own.ready
      · rw [others same]
        exact serving.executions process
    holds := by
      intro process run member
      by_cases same : process = label.1
      · subst same
        exact (ownHolds run member).1
      · rw [others same] at member
        exact othersHold same member
    apart := by
      intro process other run otherRun member otherMember sameRun
      by_cases same : process = label.1
      · by_cases otherSame : other = label.1
        · exact same.trans otherSame.symm
        · subst same
          rw [others otherSame] at otherMember
          exact ((ownHolds run member).2 otherSame otherMember
            sameRun).elim
      · rw [others same] at member
        by_cases otherSame : other = label.1
        · subst otherSame
          exact ((ownHolds otherRun otherMember).2 same member
            sameRun.symm).elim
        · rw [others otherSame] at otherMember
          exact serving.apart member otherMember sameRun
  }

/-- Every step of the local application is served by its store. -/
theorem Serving.step
    (serving : Serving pool)
    (served : servedLocally label.2 = true)
    (stepped : workerSystem.step? pool label = some next) :
    Served pool next label := by
  rcases System.step?_beside stepped with
    ⟨input, shape, own, rests⟩ | ⟨input, shape, own, rests⟩
  · exact served_of_service serving shape served own rests
  · exact served_of_execution serving shape served own rests

/-- The calls that a run of the local application has made. -/
structure ServedRun
    (start final : WorkerPool)
    (calls : List StoreCall) :
    Prop where
  objects : ∀ call ∈ calls, GivesObjects call
  fits :
    Answering.Along RunStore.query
      (fun table call => call.fits table = true)
      start.shared.database.committed calls
  committed :
    final.shared.database.committed =
      Answering.after RunStore.query start.shared.database.committed calls
  serving : Serving final

theorem servedRun
    (serving : Serving pool)
    (served : ∀ label ∈ schedule, servedLocally label.2 = true)
    (ran : workerSystem.run? pool schedule = some final) :
    ServedRun pool final (storeHistory pool schedule) := by
  induction schedule generalizing pool with
  | nil =>
      cases ran
      exact ⟨by rintro call ⟨⟩, trivial, rfl, serving⟩
  | cons label rest inductionHypothesis =>
      obtain ⟨middle, first, later⟩ :=
        (@System.run?_append_eq_some _ _ _ _ _ workerSystem pool final
          [label] rest).mp ran
      rw [System.run?_singleton] at first
      have step := serving.step (served label List.mem_cons_self) first
      have others :=
        inductionHypothesis step.serving
          (fun other member => served other
            (List.mem_cons_of_mem _ member)) later
      have shape :
          storeHistory pool (label :: rest) =
            stepCalls pool label ++ storeHistory middle rest := by
        rw [storeHistory, first]
      have along :
          Answering.Along RunStore.query
            (fun table call => call.fits table = true)
            pool.shared.database.committed (stepCalls pool label) := by
        have short := length_stepCalls_le pool label
        have alike := step.alike
        generalize stepCalls pool label = calls at alike short ⊢
        cases calls with
        | nil =>
            trivial
        | cons call rest =>
            cases rest with
            | nil =>
                exact ⟨(alike call List.mem_cons_self).2, trivial⟩
            | cons =>
                simp at short
      rw [shape]
      refine ⟨?_, ?_, ?_, others.serving⟩
      · intro call member
        rcases List.mem_append.mp member with now | later
        · exact (step.alike call now).1
        · exact others.objects call later
      · rw [Answering.along_append, ← step.committed]
        exact ⟨along, others.fits⟩
      · rw [Answering.after_append, ← step.committed]
        exact others.committed

/-! ## The rows of `LocalRunStore` -/

/-- Both stores have columns for the values of these calls. -/
def AllTaken (calls : List StoreCall) : Prop :=
  ∀ call ∈ calls, call.plain = true ∧ call.inRange = true

/-- `LocalRunStore` answers the calls of a run as `RunStore` would. -/
theorem ServedRun.alike
    {calls : List StoreCall}
    {rows : LocalRuns}
    (run : ServedRun pool final calls)
    (agrees : Agrees pool.shared.database.committed rows)
    (taken : AllTaken calls) :
    (Answering.answers RunStore.answer pool.shared.database.committed
            calls).map LocalRunStore.sharedReply =
        (Answering.answers LocalRunStore.answer rows calls).map
          LocalRunStore.sharedReply ∧
      Agrees final.shared.database.committed
        (Answering.after LocalRunStore.answer rows calls) := by
  have admissible : ∀ call ∈ calls, Admissible call := fun call member =>
    ⟨run.objects call member, (taken call member).2⟩
  have plain : ∀ call ∈ calls, call.plain = true := fun call member =>
    (taken call member).1
  have portable := LocalRunStore.along_portable plain run.fits
  refine ⟨(LocalRunStore.answers_like_runStore_iff agrees admissible).mpr
    portable, ?_⟩
  rw [run.committed, ← LocalRunStore.after_of_plain plain]
  exact LocalRunStore.agrees_after agrees admissible portable

/-- The row of a held run is in the same state in `LocalRunStore`. -/
theorem Holds.localRow
    {shared : RunDatabase}
    {rows : LocalRuns}
    {run : RunDocument}
    (holds : Holds shared run)
    (agrees : Agrees shared.database.committed rows) :
    ∃ row,
      rows.lookup run.runId = some row ∧
        row.state ≠ .queued ∧
        row.state ≠ .failed := by
  obtain ⟨stored, found, -, notQueued, notFailed⟩ := holds
  have views := Table.lookup_views agrees.views run.runId
  rw [show shared.database.committed.lookup run.runId = some stored
    from found] at views
  obtain ⟨row, there, same⟩ := Option.map_eq_some_iff.mp views.symm
  have sameState : row.state = stored.state :=
    congrArg SharedColumns.state same
  exact ⟨row, there, sameState ▸ notQueued, sameState ▸ notFailed⟩

/-- Process 1 executes the run of process 0 up to its job. -/
def executeNightlyLocally : List WorkerStep :=
  queueNightly.map (fun (process, input) => (process, .inl input)) ++
    (1, .inr (.start (.executeRunLocally nightlyRunId false))) ::
      List.replicate 13 (1, .inr (.proceed (environmentAt 7 firstUuid)))

/-- The job has ended, and its result is written if it can be. -/
def endNightlyJob : List WorkerStep :=
  [(1, .inr (.proceed (environmentAt 8 unusedUuid)))]

/-- An operator cancels the run. -/
def cancelNightlyRun : List WorkerStep :=
  [(3, .inl (.start (.cancelRun ⟨nightlyRunId, "", "operator", false⟩))),
    (3, .inl (.proceed (environmentAt 8 unusedUuid))),
    (3, .inl (.proceed (environmentAt 8 unusedUuid)))]

/--
No two executions of the local application ever hold the same run, and the row
that `LocalRunStore` has of a held run is not there to be claimed or retried.
-/
theorem one_execution_per_run
    {table : JobRuns}
    (readable : AllReadable table)
    (served : ∀ label ∈ schedule, servedLocally label.2 = true)
    (ran :
      workerSystem.run? (WorkerPool.initial table) schedule = some final)
    {process : Nat}
    {run : RunDocument}
    (holds : held (final.second.locals process) = some run) :
    (∀ {other : Nat} {otherRun : RunDocument},
        process ≠ other →
          held (final.second.locals other) = some otherRun →
            run.runId ≠ otherRun.runId) ∧
      let calls := storeHistory (WorkerPool.initial table) schedule
      ∀ rows : LocalRuns,
        Agrees table rows → AllTaken calls →
          ∃ row,
            (Answering.after LocalRunStore.answer rows calls).lookup
                run.runId = some row ∧
              row.state ≠ .queued ∧
              row.state ≠ .failed := by
  have made := servedRun (serving_initial readable) served ran
  refine ⟨?_, ?_⟩
  · intro other otherRun different otherHolds sameRun
    exact different (made.serving.apart holds otherHolds sameRun)
  · intro calls rows agrees taken
    exact (made.serving.holds process run holds).localRow
      (made.alike agrees taken).2

/-- Process 2 queues another run, and executes it beside the first. -/
def executeSecondLocally : List WorkerStep :=
  [(2, .inl (.start (.createRun (.runNow nightly 6 secondUuid)))),
    (2, .inl (.proceed (environmentAt 6 unusedUuid))),
    (2, .inr (.start (.executeRunLocally "nightly:manual:second" false)))] ++
      List.replicate 6 (2, .inr (.proceed (environmentAt 9 retriedUuid)))

theorem one_execution_per_run_secondNightly :
    ∃ final run otherRun row,
      workerSystem.run? (WorkerPool.initial ∅)
          (executeNightlyLocally ++ executeSecondLocally) = some final ∧
        held (final.second.locals 1) = some run ∧
        held (final.second.locals 2) = some otherRun ∧
        run.runId ≠ otherRun.runId ∧
        (Answering.after LocalRunStore.answer ∅
            (storeHistory (WorkerPool.initial ∅)
              (executeNightlyLocally ++ executeSecondLocally))).lookup
          run.runId = some row ∧
        row.state ≠ .queued := by
  have outcome :
      (workerSystem.run? (WorkerPool.initial ∅)
          (executeNightlyLocally ++ executeSecondLocally)).map
        (fun final => ((held (final.second.locals 1)).map
            RunDocument.runId,
          (held (final.second.locals 2)).map RunDocument.runId)) =
        some (some nightlyRunId, some "nightly:manual:second") := by
    decide
  obtain ⟨final, ran, shape⟩ := Option.map_eq_some_iff.mp outcome
  obtain ⟨first, second⟩ := Prod.mk.inj shape
  obtain ⟨run, holds, -⟩ := Option.map_eq_some_iff.mp first
  obtain ⟨otherRun, otherHolds, -⟩ := Option.map_eq_some_iff.mp second
  obtain ⟨apart, localRow⟩ :=
    one_execution_per_run (by rintro runId run ⟨⟩) (by decide) ran holds
  obtain ⟨row, there, notQueued, -⟩ :=
    localRow ∅ LocalRunStore.agrees_empty (by unfold AllTaken; decide)
  exact ⟨final, run, otherRun, row, ran, holds, otherHolds,
    apart (by decide) otherHolds, there, notQueued⟩

/-- A statement of the local application leaves a `CANCELLING` run as it is. -/
theorem exec_cancelling
    {process : Nat}
    {statement : RunStatement}
    {shared next : RunDatabase}
    {reply : RunReply}
    {runId : String}
    {row : JobRun}
    (issued : issuedLocally statement = true)
    (executed : shared.exec process statement = some (next, reply))
    (found : shared.row runId = some row)
    (cancelling : row.state = .cancelling) :
    next.row runId = some row := by
  have effect := RunDatabase.exec_rowEffect executed runId
  generalize next.row runId = after at effect ⊢
  cases effect with
  | kept =>
      exact found
  | created document sameRun absent =>
      rw [found] at absent
      cases absent
  | written write stored storedThere admitted =>
      cases found.symm.trans storedThere
      have source := RunWrite.state_mem_sources admitted
      rw [cancelling] at source
      cases write with
      | recordRuntimeExecution | touchHeartbeat | markCancelled | killed =>
          cases issued
      | _ =>
          simp [RunWrite.sources] at source
  | published =>
      cases issued

/-- The calls of a statement leave a `CANCELLING` row of `LocalRunStore`. -/
theorem localRow_of_cancelling
    {statement : RunStatement}
    {call : StoreCall}
    {rows : LocalRuns}
    {runId : String}
    {row : LocalRun}
    (made : call ∈ statement.storeCalls)
    (found : rows.lookup runId = some row)
    (cancelling : row.state = .cancelling) :
    (LocalRunStore.answer rows call).1.lookup runId = some row := by
  have refused
      {other : String}
      {update : RowUpdate LocalRun}
      (refuses : update.guard row = false) :
      (rows.updateWhere other update).1.lookup runId = some row := by
    rw [Table.lookup_updateWhere]
    split
    · rename_i same
      rw [← same, found, Option.map_some, RowUpdate.apply,
        if_neg (by rw [refuses]; decide)]
    · exact found
  cases statement with
  | getRun =>
      rw [List.mem_singleton.mp made]
      exact found
  | createRun document =>
      rw [List.mem_singleton.mp made]
      simp only [LocalRunStore.answer, Table.lookup_insertIfAbsent]
      split
      · rename_i same
        rw [← same, found]
        rfl
      · exact found
  | update other write =>
      cases write with
      | claimRun | markSucceeded | markFailed =>
          rw [List.mem_singleton.mp made]
          exact refused (by simp [LocalRunStore.claimRun,
            LocalRunStore.markSucceeded, LocalRunStore.markFailed,
            cancelling])
      | retry | cancelRunning | cancelQueued =>
          rw [List.mem_singleton.mp made]
          exact refused (decide_eq_false (by rw [cancelling]; decide))
      | _ =>
          cases made
  | _ =>
      cases made

theorem localRow_after
    {calls : List StoreCall}
    {rows : LocalRuns}
    {runId : String}
    {row : LocalRun}
    (made : ∀ call ∈ calls, ∃ statement : RunStatement,
      call ∈ statement.storeCalls)
    (found : rows.lookup runId = some row)
    (cancelling : row.state = .cancelling) :
    (Answering.after LocalRunStore.answer rows calls).lookup runId =
      some row := by
  induction calls generalizing rows with
  | nil =>
      exact found
  | cons call rest inductionHypothesis =>
      obtain ⟨⟨statement, member⟩, others⟩ := List.forall_mem_cons.mp made
      exact inductionHypothesis others
        (localRow_of_cancelling member found cancelling)

theorem made_of_stepCalls
    {call : StoreCall}
    (member : call ∈ stepCalls pool label) :
    ∃ statement : RunStatement, call ∈ statement.storeCalls := by
  unfold stepCalls at member
  split at member
  · exact ⟨_, member⟩
  · exact ⟨_, member⟩
  · cases member

/-- Every call of the local application belongs to a statement. -/
theorem made_of_storeHistory
    {call : StoreCall}
    (member : call ∈ storeHistory pool schedule) :
    ∃ statement : RunStatement, call ∈ statement.storeCalls := by
  induction schedule generalizing pool with
  | nil =>
      cases member
  | cons label rest inductionHypothesis =>
      rw [storeHistory] at member
      split at member
      · cases member
      · rcases List.mem_append.mp member with now | later
        · exact made_of_stepCalls now
        · exact inductionHypothesis later

/-- Nothing that happens to a run ends its cancellation. -/
theorem Serving.cancelling
    {runId : String}
    {row : JobRun}
    (serving : Serving pool)
    (served : ∀ label ∈ schedule, servedLocally label.2 = true)
    (ran : workerSystem.run? pool schedule = some final)
    (found : pool.shared.row runId = some row)
    (cancelling : row.state = .cancelling) :
    final.shared.row runId = some row := by
  induction schedule generalizing pool with
  | nil =>
      cases ran
      exact found
  | cons label rest inductionHypothesis =>
      obtain ⟨middle, first, others⟩ :=
        (@System.run?_append_eq_some _ _ _ _ _ workerSystem pool final
          [label] rest).mp ran
      rw [System.run?_singleton] at first
      have step := serving.step (served label List.mem_cons_self) first
      obtain ⟨process, statement, reply, issued, executed⟩ := step.issued
      exact inductionHypothesis step.serving
        (fun other member => served other
          (List.mem_cons_of_mem _ member)) others
        (exec_cancelling issued executed found cancelling)

/--
Once a run of the local application is `CANCELLING`, nothing that happens later
changes its row again, in `RunStore` or in `LocalRunStore`.
-/
theorem cancelling_never_ends
    {table : JobRuns}
    {later : List WorkerStep}
    {runId : String}
    (readable : AllReadable table)
    (served : ∀ label ∈ schedule ++ later, servedLocally label.2 = true)
    (ran :
      workerSystem.run? (WorkerPool.initial table) schedule = some pool)
    (ranLater : workerSystem.run? pool later = some final) :
    (∀ row,
        pool.shared.row runId = some row → row.state = .cancelling →
          final.shared.row runId = some row) ∧
      ∀ (rows : LocalRuns) (row : LocalRun),
        let before := Answering.after LocalRunStore.answer rows
          (storeHistory (WorkerPool.initial table) schedule)
        before.lookup runId = some row → row.state = .cancelling →
          (Answering.after LocalRunStore.answer before
            (storeHistory pool later)).lookup runId = some row := by
  refine ⟨?_, ?_⟩
  · intro row found cancelling
    have serving :=
      (servedRun (serving_initial readable)
        (fun label member => served label (List.mem_append_left _ member))
        ran).serving
    exact serving.cancelling
      (fun label member => served label (List.mem_append_right _ member))
      ranLater found cancelling
  · intro rows row before found cancelling
    exact localRow_after (fun _ => made_of_storeHistory) found cancelling

/-- An operator cancels the run while its job is running; the job ends well. -/
theorem cancelling_never_ends_cancelNightly :
    ∃ pool final row localRow,
      workerSystem.run? (WorkerPool.initial ∅)
          (executeNightlyLocally ++ cancelNightlyRun) = some pool ∧
        pool.shared.row nightlyRunId = some row ∧
        workerSystem.run? pool endNightlyJob = some final ∧
        final.shared.row nightlyRunId = some row ∧
        localRow.state = .cancelling ∧
        (Answering.after LocalRunStore.answer
            (Answering.after LocalRunStore.answer ∅
              (storeHistory (WorkerPool.initial ∅)
                (executeNightlyLocally ++ cancelNightlyRun)))
            (storeHistory pool endNightlyJob)).lookup nightlyRunId =
          some localRow := by
  have outcome :
      (workerSystem.run? (WorkerPool.initial ∅)
          (executeNightlyLocally ++ cancelNightlyRun)).bind
        (fun pool => (workerSystem.run? pool endNightlyJob).map
          fun _ => (pool.shared.row nightlyRunId).map JobRun.state) =
        some (some .cancelling) := by
    decide
  have localOutcome :
      ((Answering.after LocalRunStore.answer ∅
          (storeHistory (WorkerPool.initial ∅)
            (executeNightlyLocally ++ cancelNightlyRun))).lookup
        nightlyRunId).map (fun row => row.state) = some .cancelling := by
    decide
  obtain ⟨pool, ran, rest⟩ := Option.bind_eq_some_iff.mp outcome
  obtain ⟨final, ranLater, shape⟩ := Option.map_eq_some_iff.mp rest
  obtain ⟨row, found, cancelling⟩ := Option.map_eq_some_iff.mp shape
  obtain ⟨localRow, there, waiting⟩ :=
    Option.map_eq_some_iff.mp localOutcome
  obtain ⟨kept, localKept⟩ :=
    cancelling_never_ends (by rintro runId run ⟨⟩) (by decide) ran ranLater
  exact ⟨pool, final, row, localRow, ran, found, ranLater,
    kept row found cancelling, waiting, localKept ∅ localRow there waiting⟩

end LocalServices

end IgaScheduler

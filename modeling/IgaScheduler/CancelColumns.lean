import IgaScheduler.RunColumns
import IgaScheduler.RunHistory

namespace IgaScheduler

open Relational Interleaving

/-!
# Cancellation metadata

The four cancel columns are set by the cancel paths and cleared by nobody.
They match the state of every run until one of two steps spoils them:
`markCancelled` cancels a run without noting when, or a re-drive queues a copy
of a cancelled run with the columns of its cancellation.
-/

/-- The cancel columns that go with the state of a run. -/
structure JobRun.CancelColumns (row : JobRun) : Prop where
  unset :
    row.state ∈ [.queued, .running, .succeeded, .failed] →
      row.cancelRequestedAt = none ∧
        row.cancelledAt = none ∧
        row.cancelledBy = none ∧
        row.cancelReason = none
  cancelled :
    row.state = .cancelled →
      row.cancelledAt ≠ none ∧ row.cancelledBy ≠ none

/-- Besides, a run whose cancellation is under way knows who asked for it. -/
structure JobRun.CancelProgress (row : JobRun) : Prop
    extends JobRun.CancelColumns row where
  cancelling :
    row.state = .cancelling →
      row.cancelledAt = none ∧ row.cancelledBy ≠ none

/-- A row in an uncancelled state whose cancel columns are null. -/
theorem JobRun.CancelProgress.of_unset
    {row : JobRun}
    (notCancelling : row.state ≠ .cancelling)
    (notCancelled : row.state ≠ .cancelled)
    (unset :
      row.cancelRequestedAt = none ∧
        row.cancelledAt = none ∧
        row.cancelledBy = none ∧
        row.cancelReason = none) :
    row.CancelProgress where
  unset := fun _ => unset
  cancelled := fun cancelled => (notCancelled cancelled).elim
  cancelling := fun cancelling => (notCancelling cancelling).elim

/-- A cancelled row that says when and by whom. -/
theorem JobRun.CancelProgress.of_cancelled
    {row : JobRun}
    (cancelled : row.state = .cancelled)
    (cancelledAt : row.cancelledAt ≠ none)
    (cancelledBy : row.cancelledBy ≠ none) :
    row.CancelProgress where
  unset := by
    rw [cancelled]
    intro impossible
    simp at impossible
  cancelled := fun _ => ⟨cancelledAt, cancelledBy⟩
  cancelling := by
    rw [cancelled]
    intro impossible
    cases impossible

/-- Every admitted write but `markCancelled` keeps the cancel columns. -/
theorem RunWrite.set_cancelProgress
    (write : RunWrite)
    {row : JobRun}
    (columns : row.CancelProgress)
    (admitted : write.update.guard row = true)
    (unswept :
      ∀ endedAt error status, write ≠ .markCancelled endedAt error status) :
    (write.update.set row).CancelProgress := by
  have source := RunWrite.state_mem_sources admitted
  cases write with
  | markCancelled endedAt error status =>
      exact (unswept endedAt error status rfl).elim
  | claimRun | markSucceeded | markFailed | retry =>
      refine .of_unset ?_ ?_ (columns.unset ?_)
      · simp [RunWrite.target]
      · simp [RunWrite.target]
      · simp only [RunWrite.sources, List.mem_singleton] at source
        simp [source]
  | recordRuntimeExecution =>
      have running : row.state = .running := by
        simpa [RunWrite.sources] using source
      refine .of_unset ?_ ?_ (columns.unset (by simp [running]))
      · simp [RunWrite.target, running]
      · simp [RunWrite.target, running]
  | touchHeartbeat =>
      exact ⟨⟨columns.unset, columns.cancelled⟩, columns.cancelling⟩
  | cancelRunning reason cancelledBy nowIso now =>
      have running : row.state = .running := by
        simpa [RunWrite.sources] using source
      obtain ⟨-, notYet, -, -⟩ := columns.unset (by simp [running])
      refine ⟨⟨?_, ?_⟩, ?_⟩
      · intro impossible
        simp [RunWrite.target] at impossible
      · intro impossible
        cases impossible
      · intro _
        exact ⟨notYet, Option.some_ne_none _⟩
  | cancelQueued =>
      exact .of_cancelled rfl (Option.some_ne_none _)
        (Option.some_ne_none _)
  | killed =>
      have cancelling : row.state = .cancelling := by
        simpa [RunWrite.sources] using source
      exact .of_cancelled rfl (Option.some_ne_none _)
        (columns.cancelling cancelling).2

/-- An insert leaves the row it found, or else its own document. -/
theorem RunDatabase.exec_createRun
    {process : Nat}
    {shared next : RunDatabase}
    {reply : RunReply}
    {document : RunDocument}
    (executed :
      shared.exec process (.createRun document) = some (next, reply)) :
    next.row document.runId =
      some ((shared.row document.runId).getD (documentToRow document)) := by
  obtain ⟨-, performed, ran, rfl⟩ := exec_eq_some executed
  obtain ⟨⟨database, created⟩, inserted, shape⟩ :=
    Option.map_eq_some_iff.mp ran
  cases shape
  obtain ⟨-, -, rows⟩ := Database.insert?_eq_some inserted
  exact (rows document.runId).trans (if_pos rfl)

/-- Of the services, only the sweeper calls `markCancelled`. -/
theorem RunCall.markCancelled_issued
    {call : RunCall}
    {input : RunInput}
    {runId : String}
    {endedAt : Timestamp}
    {error status : Option Json}
    (issued :
      call.issue input =
        some (.update runId (.markCancelled endedAt error status))) :
    ∃ options rest environment,
      call = .sweep (.cancelling options (runId :: rest)) ∧
        input = .proceed environment := by
  cases issues_of_issue issued with
  | fencedWrite arguments _ environment shape =>
      obtain ⟨_, _, kind⟩ := arguments
      cases kind <;> cases shape
  | sweepFail options _ dispatchId rest _ environment shape =>
      cases shape
  | sweepCancel options _ rest _ environment shape =>
      exact ⟨options, rest, environment, rfl, rfl⟩

/-- A re-drive is only about to insert a copy of a run it has just read. -/
theorem RunCall.redriveLoaded_resumed
    {call : RunCall}
    {input : RunInput}
    {reply : RunReply}
    {runId : String}
    {run : RunDocument}
    {nowIso : Timestamp}
    (resumed :
      call.resume input reply = .redriveRun (.loaded runId run nowIso)) :
    ∃ environment,
      input = .proceed environment ∧
        call = .redriveRun (.start runId) ∧
        runId ≠ "" ∧
        reply.found? = some run ∧
        run.state ∈ RedriveRun.redrivable := by
  cases input with
  | start request =>
      cases request <;> cases resumed
  | raise environment =>
      cases call with
      | redriveRun call =>
          cases call <;> cases resumed
      | _ =>
          cases resumed
  | proceed environment =>
      cases call with
      | redriveRun call =>
          cases call with
          | start owner =>
              simp only [RunCall.resume, RunCall.resumed,
                RedriveRun.resume] at resumed
              split at resumed
              · cases resumed
              · rename_i nonempty
                split at resumed
                · cases resumed
                · rename_i found answer
                  split at resumed
                  · rename_i redrivable
                    cases resumed
                    exact ⟨environment, rfl, rfl, nonempty, answer,
                      redrivable⟩
                  · cases resumed
          | loaded | done =>
              cases resumed
      | _ =>
          cases resumed

namespace StorePool

/-- A step of this process is about to execute `markCancelled` for this run. -/
inductive MarksCancelled
    (pool : StorePool)
    (runId : String) :
    StoreStep → Prop where
  | sweep
      {process : Nat}
      {environment : Environment}
      {options : Sweep.Options}
      {rest : List String}
      (calling :
        (pool.locals process).1 =
          .sweep (.cancelling options (runId :: rest))) :
      MarksCancelled pool runId (process, .inl (.proceed environment))
  | store
      {process : Nat}
      {endedAt : Timestamp}
      {error status : Option Json}
      (calling :
        (pool.locals process).2 =
          .called (.markCancelled runId endedAt error status)) :
      MarksCancelled pool runId (process, .inr .proceed)

/-- The two steps that the cancel columns do not survive. -/
inductive SpoilsCancelColumns
    (pool : StorePool) :
    StoreStep → Prop where
  /-- `markCancelled` finds a run that is still `CANCELLING`. -/
  | markCancelled
      {label : StoreStep}
      {runId : String}
      {row : JobRun}
      (marks : MarksCancelled pool runId label)
      (found : pool.shared.row runId = some row)
      (cancelling : row.state = .cancelling) :
      SpoilsCancelColumns pool label
  /-- A re-drive is about to insert a copy of a run it read as `CANCELLED`. -/
  | redrive
      {process : Nat}
      {environment : Environment}
      {runId : String}
      {run : RunDocument}
      {nowIso : Timestamp}
      (calling :
        (pool.locals process).1 =
          .redriveRun (.loaded runId run nowIso))
      (cancelled : run.state = .cancelled)
      (absent :
        pool.shared.row
            (redriveDocument run nowIso environment.uuid
              environment.secondUuid).runId =
          none) :
      SpoilsCancelColumns pool (process, .inl (.proceed environment))

/-- What the stored runs and the runs about to be re-driven have. -/
structure CancelColumnsHold (pool : StorePool) : Prop where
  rows :
    ∀ runId, ∀ row ∈ pool.shared.row runId, row.CancelProgress
  redriven :
    ∀ process runId run nowIso,
      (pool.locals process).1 = .redriveRun (.loaded runId run nowIso) →
        run.state ∈ RedriveRun.redrivable ∧ run.toJobRun.CancelColumns

/-- What a call is about to re-drive has been a stored run when it read it. -/
theorem redriven_of_resumed
    {shared next : RunDatabase}
    {process : Nat}
    {call : RunCall}
    {input : RunInput}
    {statement : RunStatement}
    {reply : RunReply}
    {runId : String}
    {run : RunDocument}
    {nowIso : Timestamp}
    (issued : call.issue input = some statement)
    (executed : shared.exec process statement = some (next, reply))
    (resumed :
      call.resume input reply = .redriveRun (.loaded runId run nowIso)) :
    run.state ∈ RedriveRun.redrivable ∧
      ∃ row,
        shared.row runId = some row ∧
          run = rowToDocument runId row := by
  obtain ⟨environment, proceeded, start, nonempty, answer, redrivable⟩ :=
    RunCall.redriveLoaded_resumed resumed
  rw [start, proceeded] at issued
  simp only [RunCall.issue, RunCall.next, RedriveRun.issue, nonempty,
    if_false, Option.some.injEq] at issued
  subst issued
  obtain ⟨-, found⟩ := RunDatabase.exec_getRun executed
  rw [answer] at found
  obtain ⟨row, stored, same⟩ := Option.map_eq_some_iff.mp found.symm
  exact ⟨redrivable, row, stored, same.symm⟩

/-- A copy of a run that succeeded or failed has no cancel columns. -/
theorem cancelProgress_of_redrive
    {run : RunDocument}
    (redrivable : run.state ∈ RedriveRun.redrivable)
    (columns : run.toJobRun.CancelColumns)
    (notCancelled : run.state ≠ .cancelled)
    (nowIso : Timestamp)
    (redriveUuid dispatchUuid : Uuid) :
    (documentToRow
      (redriveDocument run nowIso redriveUuid dispatchUuid)).CancelProgress
    := by
  have unset :
      run.state ∈ [RunState.queued, .running, .succeeded, .failed] := by
    simp only [RedriveRun.redrivable, List.mem_cons, List.not_mem_nil,
      or_false] at redrivable
    rcases redrivable with state | state | state
    · simp [state]
    · simp [state]
    · exact (notCancelled state).elim
  exact .of_unset (fun impossible => by cases impossible)
    (fun impossible => by cases impossible) (columns.unset unset)

/-- Inserted rows are without cancel columns unless a re-drive spoils them. -/
theorem CancelColumnsHold.created
    {pool : StorePool}
    {process : Nat}
    {input : RunInput}
    {document : RunDocument}
    (hold : pool.CancelColumnsHold)
    (harmless : ¬ pool.SpoilsCancelColumns (process, .inl input))
    (issued :
      (pool.locals process).1.issue input = some (.createRun document))
    (absent : pool.shared.row document.runId = none) :
    (documentToRow document).CancelProgress := by
  generalize calling : (pool.locals process).1 = call at issued
  cases RunCall.issues_of_issue issued with
  | createRun origin =>
      cases origin <;>
        exact .of_unset (fun impossible => by cases impossible)
          (fun impossible => by cases impossible) ⟨rfl, rfl, rfl, rfl⟩
  | redrive runId run nowIso environment =>
      obtain ⟨redrivable, columns⟩ :=
        hold.redriven process runId run nowIso calling
      refine cancelProgress_of_redrive redrivable columns ?_ _ _ _
      intro cancelled
      exact harmless (.redrive calling cancelled absent)

/-- A step that executes `markCancelled` for a run is one of the two kinds. -/
theorem Moves.marksCancelled
    {pool next : StorePool}
    {label : StoreStep}
    {reply : RunReply}
    {runId : String}
    {endedAt : Timestamp}
    {error status : Option Json}
    (moves :
      Moves pool next label
        (.update runId (.markCancelled endedAt error status)) reply) :
    pool.MarksCancelled runId label := by
  obtain ⟨process, choice⟩ := label
  cases moves with
  | service input chosen issued =>
      obtain rfl : choice = .inl input := chosen
      obtain ⟨options, rest, environment, calling, rfl⟩ :=
        RunCall.markCancelled_issued issued
      exact .sweep calling
  | store input chosen issued =>
      obtain rfl : choice = .inr input := chosen
      obtain ⟨calling, rfl⟩ := StoreCalls.markCancelled_of_issue issued
      exact .store calling

/-- What is about to be re-driven after a step fits its columns. -/
theorem CancelColumnsHold.redriven_step
    {pool next : StorePool}
    {label : StoreStep}
    {statement : RunStatement}
    {reply : RunReply}
    (hold : pool.CancelColumnsHold)
    (executed :
      pool.shared.exec label.1 statement = some (next.shared, reply))
    (moves : Moves pool next label statement reply) :
    ∀ process runId run nowIso,
      (next.locals process).1 = .redriveRun (.loaded runId run nowIso) →
        run.state ∈ RedriveRun.redrivable ∧
          run.toJobRun.CancelColumns := by
  intro process runId run nowIso calling
  cases moves with
  | service input chosen issued resumed others =>
      by_cases own : process = label.1
      · subst own
        obtain ⟨redrivable, row, found, rfl⟩ :=
          redriven_of_resumed issued executed
            (resumed.symm.trans calling)
        exact ⟨redrivable, (hold.rows runId row found).toCancelColumns⟩
      · rw [others process own] at calling
        exact hold.redriven process runId run nowIso calling
  | store input chosen issued rests =>
      rw [rests process] at calling
      exact hold.redriven process runId run nowIso calling

/-- Every step that does not spoil the cancel columns keeps them. -/
theorem CancelColumnsHold.step
    {rows : JobRuns}
    {pool next : StorePool}
    {label : StoreStep}
    (reachable : Reachable rows pool)
    (hold : pool.CancelColumnsHold)
    (stepped : storeSystem.step? pool label = some next)
    (harmless : ¬ pool.SpoilsCancelColumns label) :
    next.CancelColumnsHold := by
  obtain ⟨statement, reply, executed, moves⟩ := step_moves stepped
  refine ⟨?_, hold.redriven_step executed moves⟩
  intro runId
  refine reachable.pendingClaims.keeps JobRun.CancelProgress executed
    (hold.rows runId) ?_ ?_
  · rintro document rfl rfl absent
    cases moves with
    | service input chosen issued =>
        obtain ⟨process, choice⟩ := label
        obtain rfl : choice = .inl input := chosen
        exact hold.created harmless issued absent
    | store input chosen issued =>
        exact (StoreCalls.issue_ne_createRun issued).elim
  · intro write row found admitted issuing columns
    refine write.set_cancelProgress columns admitted ?_
    rintro endedAt error status rfl
    rcases issuing with rfl | ⟨startedAt, dispatchId, impossible⟩
    · have cancelling : row.state = .cancelling := by
        simpa [RunWrite.sources] using
          RunWrite.state_mem_sources admitted
      exact harmless (.markCancelled moves.marksCancelled found cancelling)
    · cases impossible

/-- `markCancelled` leaves a cancelled run that does not say when. -/
theorem CancelColumnsHold.marked
    {pool next : StorePool}
    {label : StoreStep}
    {runId : String}
    {row : JobRun}
    (hold : pool.CancelColumnsHold)
    (stepped : storeSystem.step? pool label = some next)
    (marks : pool.MarksCancelled runId label)
    (found : pool.shared.row runId = some row)
    (cancelling : row.state = .cancelling) :
    ∃ after,
      next.shared.row runId = some after ∧ ¬ after.CancelColumns := by
  obtain ⟨statement, reply, executed, moves⟩ := step_moves stepped
  have updates :
      ∃ endedAt error status,
        statement = .update runId (.markCancelled endedAt error status) := by
    cases marks with
    | sweep calling =>
        cases moves with
        | service input chosen issued =>
            cases chosen
            rw [calling] at issued
            cases issued
            exact ⟨_, _, _, rfl⟩
        | store input chosen =>
            cases chosen
    | store calling =>
        cases moves with
        | service input chosen =>
            cases chosen
        | store input chosen issued =>
            cases chosen
            rw [calling] at issued
            cases issued
            exact ⟨_, _, _, rfl⟩
  obtain ⟨endedAt, error, status, rfl⟩ := updates
  obtain ⟨-, written⟩ := RunDatabase.exec_update executed
  have admitted :
      (RunWrite.markCancelled endedAt error status).update.guard row =
        true :=
    decide_eq_true cancelling
  rw [found, Option.map_some, RowUpdate.apply_of_guard admitted] at written
  refine ⟨_, written, ?_⟩
  intro matching
  exact (matching.cancelled rfl).1
    ((hold.rows runId row found).cancelling cancelling).1

/-- A step that spoils the cancel columns leaves a run they do not match. -/
theorem CancelColumnsHold.spoiled
    {pool next : StorePool}
    {label : StoreStep}
    (hold : pool.CancelColumnsHold)
    (stepped : storeSystem.step? pool label = some next)
    (spoils : pool.SpoilsCancelColumns label) :
    ∃ runId row,
      next.shared.row runId = some row ∧ ¬ row.CancelColumns := by
  cases spoils with
  | markCancelled marks found cancelling =>
      exact ⟨_, hold.marked stepped marks found cancelling⟩
  | @redrive process environment runId run nowIso calling cancelled
      absent =>
      obtain ⟨statement, reply, executed, moves⟩ := step_moves stepped
      cases moves with
      | store input chosen =>
          cases chosen
      | service input chosen issued =>
          cases chosen
          rw [calling] at issued
          cases issued
          have inserted := RunDatabase.exec_createRun executed
          rw [absent, Option.getD_none] at inserted
          refine ⟨_, _, inserted, ?_⟩
          intro matching
          have columns :=
            (hold.redriven process runId run nowIso calling).2
          exact (columns.cancelled cancelled).1
            (matching.unset (by simp [redriveDocument])).2.1

/-- Every stored run has the cancel columns that go with its state. -/
def CancelColumnsMatch (pool : StorePool) : Prop :=
  ∀ runId, ∀ row ∈ pool.shared.row runId, row.CancelColumns

/-- The cancel columns match in every pool of the run from an empty table. -/
def CancelColumnsMatchAlong (schedule : List StoreStep) : Prop :=
  ∀ {earlier later : List StoreStep} {pool : StorePool},
    schedule = earlier ++ later →
    storeSystem.run? (StorePool.initial ∅) earlier = some pool →
    pool.CancelColumnsMatch

/-- No step of the run from an empty table spoils the cancel columns. -/
def CancelColumnsRespected (schedule : List StoreStep) : Prop :=
  ∀ {earlier later : List StoreStep} {label : StoreStep}
      {pool next : StorePool},
    schedule = earlier ++ label :: later →
    storeSystem.run? (StorePool.initial ∅) earlier = some pool →
    storeSystem.step? pool label = some next →
    ¬ pool.SpoilsCancelColumns label

theorem CancelColumnsHold.initial :
    (StorePool.initial ∅).CancelColumnsHold where
  rows := fun _ _ found => by cases found
  redriven := fun _ _ _ _ calling => by cases calling

/-- Along a run without a spoiling step the invariant holds. -/
theorem CancelColumnsRespected.hold
    {schedule earlier later : List StoreStep}
    {pool : StorePool}
    (respected : CancelColumnsRespected schedule)
    (shape : schedule = earlier ++ later)
    (ran : storeSystem.run? (StorePool.initial ∅) earlier = some pool) :
    pool.CancelColumnsHold := by
  refine System.run?_induction_within StorePool.CancelColumnsHold .initial
    ?_ shape ran
  intro earlier later visited next label shape ranEarlier hold stepped
  exact hold.step ⟨earlier, ranEarlier⟩ stepped
    (respected shape ranEarlier stepped)

/-- A run along which the columns match has no spoiling step. -/
theorem CancelColumnsMatchAlong.respected
    {schedule : List StoreStep}
    (matching : CancelColumnsMatchAlong schedule) :
    CancelColumnsRespected schedule := by
  have harmless
      {earlier later : List StoreStep}
      {label : StoreStep}
      {pool next : StorePool}
      (shape : schedule = earlier ++ label :: later)
      (ran : storeSystem.run? (StorePool.initial ∅) earlier = some pool)
      (hold : pool.CancelColumnsHold)
      (stepped : storeSystem.step? pool label = some next) :
      ¬ pool.SpoilsCancelColumns label := by
    intro spoils
    obtain ⟨runId, row, found, unmatched⟩ := hold.spoiled stepped spoils
    have shapeNext : schedule = (earlier ++ [label]) ++ later := by
      rw [shape, List.append_assoc, List.singleton_append]
    have ranNext :
        storeSystem.run? (StorePool.initial ∅) (earlier ++ [label]) =
          some next :=
      System.run?_append_eq_some.mpr
        ⟨pool, ran, System.run?_singleton.trans stepped⟩
    exact unmatched (matching shapeNext ranNext runId row found)
  intro earlier later label pool next shape ran stepped
  refine harmless shape ran ?_ stepped
  refine System.run?_induction_within StorePool.CancelColumnsHold .initial
    ?_ shape ran
  intro earlier later visited next label shape ranEarlier hold stepped
  exact hold.step ⟨earlier, ranEarlier⟩ stepped
    (harmless shape ranEarlier hold stepped)

/--
Along every run from an empty table, the cancel columns of all runs match
their states exactly when no step spoils them.
-/
theorem cancel_columns_match_iff
    (schedule : List StoreStep) :
    CancelColumnsMatchAlong schedule ↔ CancelColumnsRespected schedule := by
  constructor
  · exact CancelColumnsMatchAlong.respected
  · intro respected earlier later pool shape ran runId row found
    exact ((respected.hold shape ran).rows runId row found).toCancelColumns

/-- A queued run is cancelled and then driven anew. -/
def redriveCancelled : List StoreStep :=
  servicesOnly (queueNightly ++
    [(1, .start (.cancelRun ⟨nightlyRunId, "", "operator", false⟩)),
      (1, .proceed (environmentAt 6 unusedUuid)),
      (1, .proceed (environmentAt 6 unusedUuid)),
      (2, .start (.redriveRun nightlyRunId)),
      (2, .proceed (environmentAt 7 firstUuid)),
      (2, .proceed (environmentAt 7 firstUuid))])

/-- The new run is `QUEUED` and says when and by whom it was cancelled. -/
theorem redriveCancelled_unmatched :
    ¬ ∀ pool, Reachable ∅ pool → pool.CancelColumnsMatch := by
  intro matching
  have outcome :
      (storeSystem.run? (StorePool.initial ∅) redriveCancelled).bind
          (fun pool =>
            (pool.shared.row "nightly:manual:a:redrive:first").map
              fun row => (row.state, row.cancelledAt, row.cancelledBy)) =
        some (.queued, some 6, some "operator") := by
    decide
  obtain ⟨pool, ran, stored⟩ := Option.bind_eq_some_iff.mp outcome
  obtain ⟨row, found, shape⟩ := Option.map_eq_some_iff.mp stored
  simp only [Prod.mk.injEq] at shape
  have columns := matching pool ⟨_, ran⟩ _ row found
  have unset := (columns.unset (by simp [shape.1])).2.1
  rw [shape.2.1] at unset
  cases unset

end StorePool

end IgaScheduler

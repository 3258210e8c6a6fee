import IgaScheduler.DeletedDefinitions
import IgaScheduler.RunNow

namespace IgaScheduler

open Relational Interleaving

/-!
# A deleted instance stays deleted

`deleteInstance` leaves a disabled row in state `DELETED`, which no tick fires
and only `createInstance` may replace.  A patch does not look at the state of
the row it rewrites, and run-now looks at it one statement too early.
-/

/-- The row of the instance is soft-deleted. -/
def Catalog.Deleted
    (catalog : Catalog)
    (instanceId : String) :
    Prop :=
  ∃ row,
    catalog.jobInstance instanceId = some row ∧
      row.state = .deleted ∧
      row.enabled = false

/-- A row that a patch has rewritten is not deleted. -/
theorem stateOf_ne_deleted (enabled : Bool) : stateOf enabled ≠ .deleted := by
  cases enabled <;> nofun

/-- A deleted row is not due. -/
theorem not_due_of_deleted
    {nowIso : Timestamp}
    {row : JobInstance}
    (deleted : row.state = .deleted) :
    InstanceStore.due nowIso row = false := by
  simp [InstanceStore.due, deleted]

namespace CatalogPool

variable {cron : CronParser}
variable {pool next : CatalogPool}
variable {label : Label CatalogInput}

/-- An update that is executed writes its row over the stored one. -/
theorem updated_of_proceeded
    (stepped : (catalogSystem cron).step? pool label = some next)
    {instanceId : String}
    {operation : InstanceOperation}
    {read row : JobInstance}
    {environment : CatalogEnvironment}
    (calling :
      pool.locals label.1 =
        .editInstance (.updating instanceId operation read row))
    (proceeding : label.2 = .proceed environment) :
    next.shared.jobInstance instanceId =
      (pool.shared.jobInstance instanceId).map fun _ => row := by
  obtain ⟨statement, reply, issued, executed, resumed⟩ := step_moves stepped
  rw [calling, proceeding] at issued
  cases issued
  exact (Catalog.exec_updateInstance executed).1

/-- An edit completes its operation by executing its update. -/
theorem proceeding_of_completed
    (stepped : (catalogSystem cron).step? pool label = some next)
    {instanceId : String}
    {operation : InstanceOperation}
    {read row : JobInstance}
    (calling :
      pool.locals label.1 =
        .editInstance (.updating instanceId operation read row))
    (completed :
      next.shared.operations instanceId ≠
        pool.shared.operations instanceId) :
    ∃ environment, label.2 = .proceed environment := by
  obtain ⟨statement, reply, issued, executed, -⟩ := step_moves stepped
  have extended := Catalog.exec_operations executed instanceId
  rw [calling] at issued
  rcases label with ⟨process, input⟩
  cases input with
  | start request =>
      cases issued
  | proceed environment =>
      exact ⟨environment, rfl⟩
  | raise =>
      cases issued
      exact (completed extended).elim

/-- An instance is created in place of nothing or of a deleted row. -/
theorem replaceable_of_returned
    (stepped : (catalogSystem cron).step? pool label = some next)
    {document written : InstanceDocument}
    (calling :
      pool.locals label.1 = .createInstance (.inserting document))
    (returned :
      next.locals label.1 = .createInstance (.done (.ok written))) :
    (∀ existing,
      pool.shared.jobInstance document.instanceId = some existing →
        existing.state = .deleted) ∧
      written = document := by
  obtain ⟨executed, rfl⟩ := executed_of_returned stepped calling returned
  obtain ⟨taken, answer, isTaken, -⟩ := Catalog.exec_createInstance executed
  cases answer
  refine ⟨fun existing found => ?_, rfl⟩
  have replaceable := isTaken.mp rfl
  rw [found] at replaceable
  exact of_decide_eq_true replaceable

end CatalogPool

namespace BackendPool

/-- The step acknowledges a deletion of the instance. -/
def AcknowledgesDeletion
    (instanceId : String)
    (label : Label BackendInput)
    (before after : BackendPool) :
    Prop :=
  ∃ deletedAt read row answer,
    before.first.locals label.1 =
        .editInstance
          (.updating instanceId (.deleted deletedAt) read row) ∧
      after.first.locals label.1 = .editInstance (.done (.ok answer))

/-- The step acknowledges a creation of the instance. -/
def AcknowledgesCreation
    (instanceId : String)
    (label : Label BackendInput)
    (before after : BackendPool) :
    Prop :=
  ∃ document written,
    before.first.locals label.1 = .createInstance (.inserting document) ∧
      document.instanceId = instanceId ∧
      after.first.locals label.1 = .createInstance (.done (.ok written))

/-- A deletion of the instance was acknowledged, and no creation since. -/
abbrev DeletionInForce
    (cron : CronParser)
    (stored : Stored)
    (instanceId : String) :
    List (Label BackendInput) →
      BackendPool →
      Prop :=
  (backendSystem cron).InForce (initial stored)
    (AcknowledgesDeletion instanceId) (AcknowledgesCreation instanceId)

/-- The promise on deleted instances, along a whole schedule. -/
structure DeletedAbsorbing
    (cron : CronParser)
    (stored : Stored)
    (schedule : List (Label BackendInput)) :
    Prop where
  kept :
    ∀ {earlier later : List (Label BackendInput)} {pool : BackendPool}
        {instanceId : String},
      schedule = earlier ++ later →
      DeletionInForce cron stored instanceId earlier pool →
      pool.shared.Deleted instanceId
  unfired :
    ∀ {earlier later : List (Label BackendInput)}
        {label : Label BackendInput} {pool next : BackendPool}
        {runId : String} {run : JobRun},
      schedule = earlier ++ label :: later →
      DeletionInForce cron stored run.instanceId earlier pool →
      (backendSystem cron).step? pool label = some next →
      next.shared.run runId = some run →
      pool.shared.run runId = some run
  created :
    ∀ {earlier later : List (Label BackendInput)}
        {label : Label BackendInput} {pool next : BackendPool}
        {document written : InstanceDocument},
      schedule = earlier ++ label :: later →
      run? cron stored earlier = some pool →
      (backendSystem cron).step? pool label = some next →
      pool.first.locals label.1 = .createInstance (.inserting document) →
      next.first.locals label.1 = .createInstance (.done (.ok written)) →
      (∀ existing,
        pool.shared.jobInstance document.instanceId = some existing →
          existing.state = .deleted) ∧
        next.shared.jobInstance document.instanceId =
          some document.toJobInstance ∧
        written = document

/-- In this step the run-now of a process reads the live instance of its run. -/
def ReadsFor
    (seen : BackendPool)
    (label : Label BackendInput)
    (process : Nat)
    (document : RunDocument) :
    Prop :=
  label.1 = process ∧
    ∃ arguments environment row,
      seen.second.locals process = .start arguments ∧
        label.2 = .inr (.proceed environment) ∧
        seen.shared.jobInstance arguments.instanceId = some row ∧
        row.state ≠ .deleted ∧
        document =
          runNowDocument (instanceDocument arguments.instanceId row)
            environment.now environment.uuid

/--
While a deletion is in force, no patch, pause or resume executes its update of
the instance, and no run-now that has read it alive inserts a run of it.
-/
structure DeletionsRespected
    (cron : CronParser)
    (stored : Stored)
    (schedule : List (Label BackendInput)) :
    Prop where
  unedited :
    ∀ {earlier later : List (Label BackendInput)}
        {label : Label BackendInput} {pool next : BackendPool}
        {instanceId : String} {patch : InstancePatch}
        {fromDate updatedAt : Timestamp} {read row : JobInstance}
        {environment : CatalogEnvironment},
      schedule = earlier ++ label :: later →
      DeletionInForce cron stored instanceId earlier pool →
      (backendSystem cron).step? pool label = some next →
      pool.first.locals label.1 =
        .editInstance
          (.updating instanceId (.patched patch fromDate updatedAt) read
            row) →
      label.2 ≠ .inl (.proceed environment)
  unstarted :
    ∀ {first middle later : List (Label BackendInput)}
        {reading label : Label BackendInput} {seen pool next : BackendPool}
        {document : RunDocument} {environment : RunNow.Environment},
      schedule = first ++ reading :: (middle ++ label :: later) →
      run? cron stored first = some seen →
      ReadsFor seen reading label.1 document →
      DeletionInForce cron stored document.instanceId
        (first ++ reading :: middle) pool →
      (backendSystem cron).step? pool label = some next →
      pool.second.locals label.1 = .inserting document →
      pool.shared.run document.runId = none →
      label.2 ≠ .inr (.proceed environment)

variable {cron : CronParser}
variable {stored : Stored}
variable {pool next before after : BackendPool}
variable {label : Label BackendInput}
variable {schedule earlier later : List (Label BackendInput)}
variable {instanceId : String}

/-- A deletion that is acknowledged leaves a deleted row. -/
theorem deleted_of_acknowledged
    (ran : run? cron stored earlier = some before)
    (stepped : (backendSystem cron).step? before label = some after)
    (acknowledged : AcknowledgesDeletion instanceId label before after) :
    after.shared.Deleted instanceId := by
  obtain ⟨deletedAt, read, row, ⟨returning, written⟩, calling, returned⟩ :=
    acknowledged
  rcases step_cases stepped with
    ⟨input, -, own⟩ | ⟨input, statement, reply, -, -, -, rests⟩
  · have rewritten := (edits_and_ticks ran).1 calling
    cases rewritten
    exact ⟨_, (CatalogPool.updated_of_returned own calling returned).1, rfl,
      rfl⟩
  · rw [rests, calling] at returned
    cases returned

/-- A deleted row only gives way to a patch or to a creation. -/
theorem deleted_of_step
    (ran : run? cron stored earlier = some before)
    (stepped : (backendSystem cron).step? before label = some after)
    (deleted : before.shared.Deleted instanceId)
    (unclosed : ¬ AcknowledgesCreation instanceId label before after) :
    after.shared.Deleted instanceId ∨
      ∃ patch fromDate updatedAt read row environment,
        before.first.locals label.1 =
            .editInstance
              (.updating instanceId (.patched patch fromDate updatedAt) read
                row) ∧
          label.2 = .inl (.proceed environment) := by
  obtain ⟨existing, stands, gone, disabled⟩ := deleted
  rcases step_cases stepped with
    ⟨input, proceeding, own⟩ |
      ⟨input, statement, reply, -, -, executed, -⟩
  · obtain ⟨edits, ticks⟩ := edits_and_ticks ran
    obtain ⟨operations, extended, operated⟩ :=
      CatalogPool.operated_of_step edits ticks own instanceId
    have grows (operation : InstanceOperation)
        (single : operations = [operation]) :
        after.first.shared.operations instanceId ≠
          before.first.shared.operations instanceId := by
      rw [extended, single]
      simp
    simp only [Pool.first_shared, stands] at operated
    generalize calling : before.first.locals label.1 = call at operated ⊢
    generalize left : after.shared.jobInstance instanceId = row at operated
    cases operated with
    | kept =>
        exact .inl ⟨existing, left, gone, disabled⟩
    | created document sameInstance replaceable =>
        subst sameInstance
        exact (unclosed ⟨document, document, calling, rfl,
          CatalogPool.created_of_completed own calling
            (grows _ rfl)⟩).elim
    | edited operation read _ row found rewritten =>
        cases operation with
        | patched patch fromDate updatedAt =>
            obtain ⟨environment, shape⟩ :=
              CatalogPool.proceeding_of_completed own calling (grows _ rfl)
            exact .inr ⟨patch, fromDate, updatedAt, read, row, environment,
              rfl, proceeding.trans (congrArg Sum.inl shape)⟩
        | deleted deletedAt =>
            cases rewritten
            exact .inl ⟨_, left, rfl, rfl⟩
        | created | advanced =>
            cases rewritten
    | advanced arguments nowIso summary firing computed sameInstance found
        due present =>
        cases found
        rw [not_due_of_deleted gone] at due
        cases due
  · refine .inl ⟨existing, ?_, gone, disabled⟩
    rw [Catalog.jobInstance, (RunNow.exec_frame executed).1]
    exact stands

/-- A run of a deleted instance is only added by the insert of a run-now. -/
theorem inserting_of_added
    (ran : run? cron stored earlier = some pool)
    (stepped : (backendSystem cron).step? pool label = some next)
    {runId : String}
    {run : JobRun}
    (deleted : pool.shared.Deleted run.instanceId)
    (found : next.shared.run runId = some run) :
    pool.shared.run runId = some run ∨
      ∃ document environment,
        pool.second.locals label.1 = .inserting document ∧
          document.instanceId = run.instanceId ∧
          pool.shared.run document.runId = none ∧
          label.2 = .inr (.proceed environment) := by
  rcases step_cases stepped with
    ⟨input, -, own⟩ |
      ⟨input, statement, reply, proceeding, issued, executed, -⟩
  · by_contra added
    obtain ⟨existing, stands, gone, -⟩ := deleted
    obtain ⟨nowIso, row, fired, due⟩ :=
      CatalogPool.TicksHold.due_of_added (edits_and_ticks ran).2 own found
        fun earlier => added (.inl earlier)
    cases stands.symm.trans fired
    rw [not_due_of_deleted gone] at due
    cases due
  · have effect := RunNow.exec_runEffect executed runId
    rw [found] at effect
    generalize same : some run = row at effect
    cases effect with
    | kept =>
        exact .inl rfl
    | created document sameRun absent =>
        cases same
        generalize calling : pool.second.locals label.1 = call at issued ⊢
        cases input with
        | proceed environment =>
            cases call with
            | inserting inserted =>
                cases issued
                exact .inr ⟨document, environment, rfl, rfl,
                  by rw [sameRun, absent], proceeding⟩
            | start arguments =>
                simp only [RunNow.issue] at issued
                split at issued <;> cases issued
            | idle | done =>
                cases issued
        | start arguments =>
            cases call <;> cases issued
        | raise =>
            cases call with
            | start arguments =>
                simp only [RunNow.issue] at issued
                split at issued <;> cases issued
            | _ =>
                cases issued

/-- A patch that executes its update brings a deleted row back. -/
theorem not_deleted_of_patched
    (ran : run? cron stored earlier = some pool)
    (stepped : (backendSystem cron).step? pool label = some next)
    {patch : InstancePatch}
    {fromDate updatedAt : Timestamp}
    {read row : JobInstance}
    {environment : CatalogEnvironment}
    (calling :
      pool.first.locals label.1 =
        .editInstance
          (.updating instanceId (.patched patch fromDate updatedAt) read
            row))
    (proceeding : label.2 = .inl (.proceed environment)) :
    ¬ next.shared.Deleted instanceId := by
  rintro ⟨written, stands, gone, -⟩
  rcases step_cases stepped with
    ⟨input, shape, own⟩ | ⟨input, statement, reply, shape, -⟩
  · have rewritten := (edits_and_ticks ran).1 calling
    have updated :=
      CatalogPool.updated_of_proceeded own calling
        (Sum.inl.inj (shape.symm.trans proceeding))
    rw [Pool.first_shared, stands] at updated
    obtain ⟨_, -, same⟩ := Option.map_eq_some_iff.mp updated.symm
    subst same
    exact stateOf_ne_deleted _
      ((InstancePatch.row_state rewritten).2.symm.trans gone)
  · cases proceeding.symm.trans shape

/-- A run-now that executes its insert adds its run. -/
theorem added_of_inserted
    (stepped : (backendSystem cron).step? pool label = some next)
    {document : RunDocument}
    {environment : RunNow.Environment}
    (calling : pool.second.locals label.1 = .inserting document)
    (absent : pool.shared.run document.runId = none)
    (proceeding : label.2 = .inr (.proceed environment)) :
    next.shared.run document.runId = some (documentToRow document) := by
  rcases step_cases stepped with
    ⟨input, shape, -⟩ |
      ⟨input, statement, reply, shape, issued, executed, -⟩
  · cases proceeding.symm.trans shape
  · cases proceeding.symm.trans shape
    rw [calling] at issued
    cases issued
    obtain ⟨⟨runs, created⟩, inserted, answer⟩ :=
      Option.map_eq_some_iff.mp executed
    obtain ⟨shared, -⟩ := Prod.mk.inj answer
    rw [← shared]
    change runs.committed.lookup document.runId = _
    change pool.shared.runs.committed.lookup document.runId = none at absent
    rw [(Database.insert?_eq_some inserted).2.2, if_pos rfl, absent]
    rfl

/-- A run-now that is about to insert has read the instance before. -/
theorem read_of_inserting
    {process : Nat}
    {document : RunDocument}
    (ran : run? cron stored earlier = some pool)
    (calling : pool.second.locals process = .inserting document) :
    ∃ first reading middle seen,
      earlier = first ++ reading :: middle ∧
        run? cron stored first = some seen ∧
        ReadsFor seen reading process document := by
  revert process document
  refine System.run?_induction
    (fun earlier (pool : BackendPool) =>
      ∀ {process : Nat} {document : RunDocument},
        pool.second.locals process = .inserting document →
        ∃ first reading middle seen,
          earlier = first ++ reading :: middle ∧
            run? cron stored first = some seen ∧
            ReadsFor seen reading process document)
    (by rintro process document ⟨⟩) ?_ ran
  intro earlier pool next label ranEarlier known stepped process document
    calling
  have readBefore
      (before : pool.second.locals process = .inserting document) :
      ∃ first reading middle seen,
        earlier ++ [label] = first ++ reading :: middle ∧
          run? cron stored first = some seen ∧
          ReadsFor seen reading process document := by
    obtain ⟨first, reading, middle, seen, rfl, ranFirst, reads⟩ :=
      known before
    exact ⟨first, reading, middle ++ [label], seen,
      by rw [List.append_assoc, List.cons_append], ranFirst, reads⟩
  rcases System.step?_beside stepped with
    ⟨input, -, -, rests⟩ | ⟨input, shape, own, -⟩
  · exact readBefore (rests ▸ calling)
  · by_cases same : process = label.1
    · subst same
      obtain ⟨statement, reply, issued, executed, resumed⟩ :=
        System.step?_moves own
      obtain ⟨arguments, environment, row, asked, rfl, found, live, made⟩ :=
        RunNow.resume_inserting issued executed (resumed.symm.trans calling)
      exact ⟨earlier, label, [], pool, rfl, ranEarlier, rfl, arguments,
        environment, row, asked, shape, found, live, made⟩
    · exact readBefore
        ((System.step?_locals_other own same).symm.trans calling)

/-- A creation that returns has replaced nothing or a deleted row. -/
theorem created_of_returned
    (stepped : (backendSystem cron).step? pool label = some next)
    {document written : InstanceDocument}
    (calling :
      pool.first.locals label.1 = .createInstance (.inserting document))
    (returned :
      next.first.locals label.1 = .createInstance (.done (.ok written))) :
    (∀ existing,
      pool.shared.jobInstance document.instanceId = some existing →
        existing.state = .deleted) ∧
      next.shared.jobInstance document.instanceId =
        some document.toJobInstance ∧
      written = document := by
  rcases step_cases stepped with
    ⟨input, -, own⟩ | ⟨input, statement, reply, -, -, -, rests⟩
  · obtain ⟨replaced, same⟩ :=
      CatalogPool.replaceable_of_returned own calling returned
    exact ⟨replaced,
      (CatalogPool.inserted_of_returned own calling returned).1, same⟩
  · rw [rests, calling] at returned
    cases returned

/-- Deletions that are respected stay, along the whole schedule. -/
theorem DeletionsRespected.deleted
    (respected : DeletionsRespected cron stored schedule)
    (shape : schedule = earlier ++ later)
    (standing : DeletionInForce cron stored instanceId earlier pool) :
    pool.shared.Deleted instanceId := by
  refine System.InForce.holds_within
    (fun visited => visited.shared.Deleted instanceId)
    deleted_of_acknowledged ?_ shape standing
  intro earlier later label before after shape standing known stepped
    unclosed
  rcases deleted_of_step standing.ran stepped known unclosed with
    deleted | ⟨patch, fromDate, updatedAt, read, row, environment, calling,
      proceeding⟩
  · exact deleted
  · exact (respected.unedited shape standing stepped calling
      proceeding).elim

/--
Along every schedule, deleted instances stay deleted and are given no run until
they are created anew, and creations replace deleted rows only, exactly when no
patch, pause or resume writes and no run-now inserts what it has read before
while a deletion is in force.
-/
theorem deleted_absorbing_iff
    (cron : CronParser)
    (stored : Stored)
    (schedule : List (Label BackendInput)) :
    DeletedAbsorbing cron stored schedule ↔
      DeletionsRespected cron stored schedule := by
  constructor
  · intro promised
    constructor
    · intro earlier later label pool next instanceId patch fromDate
        updatedAt read row environment shape standing stepped calling
        proceeding
      have unclosed : ¬ AcknowledgesCreation instanceId label pool next := by
        rintro ⟨document, written, creating, -⟩
        rw [calling] at creating
        cases creating
      have shapeNext : schedule = (earlier ++ [label]) ++ later := by
        rw [shape, List.append_assoc, List.singleton_append]
      exact not_deleted_of_patched standing.ran stepped calling proceeding
        (promised.kept shapeNext (.kept standing stepped unclosed))
    · intro first middle later reading label seen pool next document
        environment shape _ _ standing stepped calling absent proceeding
      have added := added_of_inserted stepped calling absent proceeding
      have standingRun :
          DeletionInForce cron stored (documentToRow document).instanceId
            (first ++ reading :: middle) pool :=
        standing
      have shapeRun :
          schedule = (first ++ reading :: middle) ++ label :: later := by
        rw [shape, List.append_assoc, List.cons_append]
      have before := promised.unfired shapeRun standingRun stepped added
      rw [absent] at before
      cases before
  · intro respected
    constructor
    · intro earlier later pool instanceId shape standing
      exact respected.deleted shape standing
    · intro earlier later label pool next runId run shape standing stepped
        found
      have deleted := respected.deleted shape standing
      rcases inserting_of_added standing.ran stepped deleted found with
        before | ⟨document, environment, calling, sameInstance, absent,
          proceeding⟩
      · exact before
      · rw [← sameInstance] at standing
        obtain ⟨first, reading, middle, seen, rfl, ranFirst, reads⟩ :=
          read_of_inserting standing.ran calling
        rw [List.append_assoc, List.cons_append] at shape
        exact (respected.unstarted shape ranFirst reads standing stepped
          calling absent proceeding).elim
    · intro earlier later label pool next document written shape ran stepped
        calling returned
      exact created_of_returned stepped calling returned

/-- A step of a service call, as a step of the backend. -/
def serving (label : Label CatalogInput) : Label BackendInput :=
  (label.1, .inl label.2)

/-- The call is about to write the deletion of the instance. -/
def deletes (instanceId : String) : CatalogCall → Bool
  | .editInstance (.updating owner (.deleted _) _ _) => owner = instanceId
  | _ => false

/-- The call has answered an edit. -/
def answers : CatalogCall → Bool
  | .editInstance (.done (.ok _)) => true
  | _ => false

/-- The process is not about to insert an instance. -/
def insertsNothing
    (pool : BackendPool)
    (label : Label BackendInput) :
    Bool :=
  match pool.first.locals label.1 with
  | .createInstance (.inserting _) => false
  | _ => true

theorem acknowledgesDeletion_of_checks
    (deleting : deletes instanceId (before.first.locals label.1) = true)
    (answered : answers (after.first.locals label.1) = true) :
    AcknowledgesDeletion instanceId label before after := by
  unfold AcknowledgesDeletion
  generalize before.first.locals label.1 = call at deleting ⊢
  generalize after.first.locals label.1 = answer at answered ⊢
  unfold deletes at deleting
  split at deleting
  · rename_i owner deletedAt read row
    obtain rfl := of_decide_eq_true deleting
    unfold answers at answered
    split at answered
    · rename_i written
      exact ⟨deletedAt, read, row, written, rfl, rfl⟩
    · cases answered
  · cases deleting

theorem unclosed_of_insertsNothing
    (checked : insertsNothing before label = true) :
    ¬ AcknowledgesCreation instanceId label before after := by
  rintro ⟨document, written, calling, -⟩
  rw [insertsNothing, calling] at checked
  cases checked

/-- The hourly instance is about to be deleted. -/
def deletingHourly : List (Label BackendInput) :=
  [serving (startCall 0 (.deleteInstance "hourly")),
    serving (proceedAt 0 1)]

/-- It is resumed afterwards. -/
def resumingHourly : List (Label BackendInput) :=
  [serving (startCall 1 (.resumeInstance "hourly")),
    serving (proceedAt 1 2), serving (proceedAt 1 2)]

/-- The resumed instance is active, with its deletion in force. -/
theorem resumingHourly_not_absorbing :
    ¬ DeletedAbsorbing hourly storedHourly
      (deletingHourly ++ [serving (proceedAt 0 1)] ++ resumingHourly) := by
  intro promised
  have outcome :
      (run? hourly storedHourly deletingHourly).map
          (fun before =>
            (deletes "hourly" (before.first.locals 0),
              ((backendSystem hourly).step? before
                  (serving (proceedAt 0 1))).map
                fun after =>
                  (answers (after.first.locals 0) &&
                      (backendSystem hourly).checkSteps insertsNothing after
                        resumingHourly,
                    ((backendSystem hourly).run? after resumingHourly).map
                      fun final =>
                        (final.shared.jobInstance "hourly").map
                          JobInstance.state))) =
        some (true, some (true, some (some .active))) := by
    decide
  obtain ⟨before, ran, shape⟩ := Option.map_eq_some_iff.mp outcome
  obtain ⟨deleting, shape⟩ := Prod.mk.inj shape
  obtain ⟨after, stepped, shape⟩ := Option.map_eq_some_iff.mp shape
  obtain ⟨checks, shape⟩ := Prod.mk.inj shape
  obtain ⟨answered, checked⟩ := Bool.and_eq_true_iff.mp checks
  obtain ⟨final, ranRest, stands⟩ := Option.map_eq_some_iff.mp shape
  have opened :
      DeletionInForce hourly storedHourly "hourly"
        (deletingHourly ++ [serving (proceedAt 0 1)]) after :=
    .opened ran stepped
      (acknowledgesDeletion_of_checks deleting answered)
  have standing :=
    opened.append_checked insertsNothing unclosed_of_insertsNothing checked
      ranRest
  obtain ⟨row, found, gone, -⟩ :=
    promised.kept (List.append_nil _).symm standing
  rw [found, Option.map_some, gone] at stands
  cases stands

end BackendPool

end IgaScheduler

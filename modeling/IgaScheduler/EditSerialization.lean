import Mathlib.Data.List.Permutation
import IgaScheduler.EditOperations
import IgaScheduler.InstanceHistory

namespace IgaScheduler

open Relational Interleaving

/-!
# Edits are not lost

An edit writes back every column of a row it has read in an earlier statement.
Where the columns it copies are still as it has read them, it does to the row
that is there what its operation does; where one of them has changed, it takes
the change back.
-/

/-- The instance and the operation that an event records, if it records one. -/
def CatalogEvent.operated? :
    CatalogEvent →
      Option (String × InstanceOperation)
  | .operated instanceId operation => some (instanceId, operation)
  | _ => none

/-- The operations on instances that a process has completed, newest first. -/
def Catalog.operatedBy
    (catalog : Catalog)
    (process : Nat) :
    List (String × InstanceOperation) :=
  (catalog.log.filter fun entry => entry.1 = process).filterMap
    fun entry => entry.2.operated?

namespace CatalogCall

/-- The operation that a call of the instance service has acknowledged. -/
def acknowledged : CatalogCall → List (String × InstanceOperation)
  | .createInstance (.done (.ok document)) =>
      [(document.instanceId, .created document.toJobInstance)]
  | .editInstance (.done (.ok (operation, document))) =>
      [(document.instanceId, operation)]
  | _ => []

/--
The completed operations are those the call has acknowledged: those of a tick
are advances, and complete once it has committed.
-/
def Acknowledges
    (call : CatalogCall)
    (operations : List (String × InstanceOperation)) :
    Prop :=
  match call with
  | .tick (.done (.ok _)) =>
      ∀ entry ∈ operations, ∃ nowIso, entry.2 = .advanced nowIso
  | _ => operations = call.acknowledged

theorem acknowledges_nil
    {call : CatalogCall}
    (silent : call.acknowledged = []) :
    call.Acknowledges [] := by
  unfold Acknowledges
  split
  · exact fun entry member => (List.not_mem_nil member).elim
  · exact silent.symm

/-- A call in progress has acknowledged nothing. -/
theorem eq_nil_of_acknowledges
    {call : CatalogCall}
    {input : CatalogInput}
    {statement : CatalogStatement}
    {operations : List (String × InstanceOperation)}
    (issued : call.issue input = some statement)
    (acknowledges : call.Acknowledges operations) :
    operations = [] := by
  cases call with
  | idle | createDefinition | patchDefinition | deleteDefinition =>
      exact acknowledges
  | createInstance call =>
      cases call with
      | start | inserting =>
          exact acknowledges
      | done outcome =>
          cases input <;> cases issued
  | editInstance call =>
      cases call with
      | start | updating =>
          exact acknowledges
      | done outcome =>
          cases input <;> cases issued
  | tick call =>
      cases call with
      | done outcome =>
          cases input <;> cases issued
      | _ =>
          exact acknowledges

/-- A call whose statement threw acknowledges nothing. -/
theorem acknowledged_raised
    {call : CatalogCall}
    (awaiting : call.awaits = true) :
    call.raised.acknowledged = [] := by
  cases call with
  | idle | createDefinition | patchDefinition | deleteDefinition | tick =>
      rfl
  | createInstance call =>
      cases call with
      | start | inserting =>
          rfl
      | done =>
          cases awaiting
  | editInstance call =>
      cases call with
      | start | updating =>
          rfl
      | done =>
          cases awaiting

/-- A call acknowledges what its statement has completed. -/
theorem acknowledges_of_exec
    {cron : CronParser}
    {call : CatalogCall}
    {input : CatalogInput}
    {statement : CatalogStatement}
    {process : Nat}
    {catalog next : Catalog}
    {reply : CatalogReply}
    (issued : call.issue input = some statement)
    (executed : catalog.exec process statement = some (next, reply)) :
    (call.resume cron input reply).Acknowledges
      ((statement.events process catalog).filterMap
        CatalogEvent.operated?) := by
  have quiet
      (silent : (call.resume cron input reply).acknowledged = [])
      (eventless :
        (statement.events process catalog).filterMap
          CatalogEvent.operated? = []) :
      (call.resume cron input reply).Acknowledges
        ((statement.events process catalog).filterMap
          CatalogEvent.operated?) := by
    rw [eventless]
    exact acknowledges_nil silent
  cases issues_of_issue issued with
  | admitted request =>
      refine quiet ?_ rfl
      cases request <;> rfl
  | thrown =>
      refine quiet (acknowledged_raised ?_) rfl
      simp only [issue] at issued
      split at issued
      · assumption
      · cases issued
  | refused call environment =>
      refine quiet ?_ rfl
      cases call with
      | createInstance call | editInstance call =>
          cases call <;> cases issued
      | _ =>
          rfl
  | uploadCreate upload document environment =>
      refine quiet rfl ?_
      simp only [CatalogStatement.events]
      split <;> rfl
  | definitionPatch definitionId patch parsed environment =>
      refine quiet rfl ?_
      cases found : catalog.definition definitionId <;>
        simp [CatalogStatement.events, found, CatalogEvent.operated?]
  | definitionDelete arguments environment =>
      refine quiet rfl ?_
      cases found : catalog.definition arguments.definitionId <;>
        simp [CatalogStatement.events, found, CatalogEvent.operated?]
  | instanceDefinition definitionId body environment =>
      refine quiet ?_ rfl
      simp only [resume, resumed, CreateInstance.resume]
      split <;> rfl
  | instanceLoad instanceId edit environment =>
      refine quiet ?_ rfl
      simp only [resume, resumed, EditInstance.resume]
      split
      · rfl
      · split
        · rfl
        · split <;> rfl
  | instanceInsert document environment =>
      obtain ⟨stored, rfl, isStored, -⟩ :=
        Catalog.exec_createInstance executed
      cases stored with
      | true =>
          simp only [CatalogStatement.events, if_pos (isStored.mp rfl)]
          rfl
      | false =>
          have blocked :
              ¬ (catalog.jobInstance document.instanceId).all
                InstanceStore.replaceable = true :=
            fun replaceable =>
              Bool.false_ne_true (isStored.mpr replaceable)
          simp only [CatalogStatement.events, if_neg blocked]
          rfl
  | instanceUpdate instanceId operation existing row environment =>
      obtain ⟨-, rfl, -⟩ := Catalog.exec_updateInstance executed
      cases found : catalog.jobInstance instanceId with
      | none =>
          simp only [CatalogStatement.events, found]
          rfl
      | some stands =>
          simp only [CatalogStatement.events, found]
          rfl
  | tick call environment _ performs =>
      have isStatement := Tick.isStatement_of_issue performs
      cases statement with
      | commit =>
          obtain ⟨arguments, nowIso, summary, calling⟩ :=
            CatalogPool.calling_of_commit issued
          cases calling
          intro entry member
          obtain ⟨event, published, shape⟩ :=
            List.mem_filterMap.mp member
          simp only [CatalogStatement.events] at published
          split at published
          · cases published
          · obtain ⟨written, -, rfl⟩ := List.mem_map.mp published
            cases shape
            exact ⟨written.2.updatedAt, rfl⟩
      | createDefinition | indexDefinition | patchDefinition |
          deleteDefinition | createInstance | updateInstance =>
          cases isStatement
      | _ =>
          exact quiet rfl rfl
  | _ =>
      exact quiet rfl rfl

end CatalogCall

/-- A statement completes operations of its own process only. -/
theorem Catalog.exec_operatedBy
    {process : Nat}
    {statement : CatalogStatement}
    {catalog next : Catalog}
    {reply : CatalogReply}
    (executed : catalog.exec process statement = some (next, reply))
    (other : Nat) :
    next.operatedBy other =
      (if other = process then
        (statement.events process catalog).filterMap
          CatalogEvent.operated?
      else
        []) ++ catalog.operatedBy other := by
  unfold operatedBy
  rw [exec_log executed, List.filter_append, List.filterMap_append]
  congr 1
  split
  · rename_i own
    subst own
    rw [List.filter_eq_self.mpr]
    · exact List.filterMap_map
    · intro entry member
      obtain ⟨event, -, rfl⟩ := List.mem_map.mp member
      exact decide_eq_true rfl
  · rename_i different
    rw [List.filter_eq_nil_iff.mpr]
    · rfl
    · intro entry member
      obtain ⟨event, -, rfl⟩ := List.mem_map.mp member
      simpa using Ne.symm different

namespace CatalogPool

variable {cron : CronParser}
variable {stored : Stored}
variable {pool next final : CatalogPool}
variable {label : Label CatalogInput}

/-- The operations that took effect are those that have been acknowledged. -/
theorem Reachable.acknowledges
    (reachable : Reachable cron stored pool)
    (process : Nat) :
    (pool.locals process).Acknowledges (pool.shared.operatedBy process) := by
  refine reachable.invariant
    (fun visited =>
      ∀ process,
        (visited.locals process).Acknowledges
          (visited.shared.operatedBy process))
    (fun _ => rfl) ?_ process
  intro visited next label known stepped process
  obtain ⟨statement, reply, issued, executed, resumed⟩ := step_moves stepped
  rw [Catalog.exec_operatedBy executed process]
  by_cases own : process = label.1
  · subst own
    rw [if_pos rfl, CatalogCall.eq_nil_of_acknowledges issued
      (known label.1), List.append_nil, resumed]
    exact CatalogCall.acknowledges_of_exec issued executed
  · rw [if_neg own, List.nil_append, System.step?_locals_other stepped own]
    exact known process

/-- The operation that a step executes on an instance, and the row it leaves. -/
structure Executed
    (cron : CronParser)
    (pool next : CatalogPool)
    (instanceId : String)
    (operation : InstanceOperation)
    (row : JobInstance) :
    Prop where
  completed :
    next.shared.operations instanceId =
      operation :: pool.shared.operations instanceId
  left : next.shared.jobInstance instanceId = some row
  ran :
    operation.run cron (pool.shared.jobInstance instanceId) = some row
  admissible :
    ∀ found ∈ pool.shared.jobInstance instanceId,
      operation.Admissible cron found
  unfired :
    ∀ document, operation = .created document → document.lastFireAt = none

/-- An edit that completes its operation returns. -/
theorem returned_of_completed
    (stepped : (catalogSystem cron).step? pool label = some next)
    {instanceId : String}
    {operation : InstanceOperation}
    {read row found : JobInstance}
    (calling :
      pool.locals label.1 =
        .editInstance (.updating instanceId operation read row))
    (stands : pool.shared.jobInstance instanceId = some found)
    (completed :
      next.shared.operations instanceId ≠
        pool.shared.operations instanceId) :
    ∃ written,
      next.locals label.1 =
        .editInstance (.done (.ok (operation, written))) := by
  obtain ⟨statement, reply, issued, executed, resumed⟩ := step_moves stepped
  rw [calling] at issued resumed
  rcases label with ⟨process, input⟩
  cases input with
  | start request =>
      cases issued
  | raise =>
      cases issued
      exact (completed (Catalog.exec_operations executed instanceId)).elim
  | proceed environment =>
      cases issued
      have answer := (Catalog.exec_updateInstance executed).2.1
      rw [answer, stands] at resumed
      exact ⟨_, resumed⟩

/--
A step whose edit finds the columns it copies as it has read them leaves an
instance alone or executes one operation on it.
-/
theorem Reachable.kept_or_executed
    (reachable : Reachable cron stored pool)
    (stepped : (catalogSystem cron).step? pool label = some next)
    {instanceId : String}
    (undisturbed :
      ∀ {operation : InstanceOperation} {read row found : JobInstance}
          {written : InstanceDocument},
        pool.locals label.1 =
            .editInstance (.updating instanceId operation read row) →
          next.locals label.1 =
            .editInstance (.done (.ok (operation, written))) →
          pool.shared.jobInstance instanceId = some found →
          operation.copied found = operation.copied read ∧
            operation.Admissible cron found) :
    (next.shared.operations instanceId =
        pool.shared.operations instanceId ∧
      next.shared.jobInstance instanceId =
        pool.shared.jobInstance instanceId) ∨
      ∃ operation row,
        Executed cron pool next instanceId operation row := by
  obtain ⟨operations, extended, operated⟩ :=
    reachable.operated stepped instanceId
  generalize calling : pool.locals label.1 = call at operated
  generalize before :
    pool.shared.jobInstance instanceId = enters at operated
  generalize after :
    next.shared.jobInstance instanceId = leaves at operated
  cases operated with
  | kept =>
      exact .inl ⟨extended, rfl⟩
  | created document sameInstance replaceable =>
      refine .inr ⟨_, _, extended, after, ?_, fun _ _ => trivial, ?_⟩
      · rw [before]
        cases enters with
        | none =>
            rfl
        | some existing =>
            exact if_pos replaceable
      · intro created same
        cases same
        exact (reachable.prepared calling).unfired
  | edited operation read existing row found rewritten =>
      have stands := before.trans found
      obtain ⟨written, returned⟩ :=
        returned_of_completed stepped calling stands
          (by rw [extended]; simp)
      obtain ⟨agrees, admissible⟩ :=
        undisturbed calling returned stands
      refine .inr ⟨operation, row, extended, after, ?_, ?_, ?_⟩
      · rw [stands]
        exact InstanceOperation.run_of_rewrite
          ((InstanceOperation.rewrite_of_copied_eq agrees).trans rewritten)
      · intro other here
        cases stands.symm.trans here
        exact admissible
      · intro document same
        subst same
        cases rewritten
  | advanced arguments nowIso summary firing computed sameInstance found
      due present =>
      obtain ⟨-, fires, nextFireAt, -⟩ := Tick.firing?_eq_some computed
      refine .inr ⟨_, _, extended, after, ?_, fun _ _ => trivial,
        fun _ same => nomatch same⟩
      rw [before, found]
      exact InstanceOperation.run_advanced due fires nextFireAt

/--
A pause or a deletion among the operations, the newest first, still shows in
the row when no later operation has enabled or recreated the instance.
-/
def InForce
    (operations : List InstanceOperation)
    (current : Option JobInstance) :
    Prop :=
  ∀ {newer older : List InstanceOperation} {operation : InstanceOperation},
    operations = newer ++ operation :: older →
    operation.Disables →
    (∀ other ∈ newer, ¬ other.Revives) →
    ∃ row,
      current = some row ∧
        row.enabled = false ∧
        (operation.IsDeletion → row.state = .deleted)

/-- The promise on edits, along a whole schedule. -/
structure EditsKept
    (cron : CronParser)
    (stored : Stored)
    (schedule : List (Label CatalogInput)) :
    Prop where
  acknowledged :
    ∀ {earlier later : List (Label CatalogInput)} {pool : CatalogPool}
        {process : Nat},
      schedule = earlier ++ later →
      run? cron stored earlier = some pool →
      (pool.locals process).Acknowledges (pool.shared.operatedBy process)
  serial :
    ∀ {earlier later : List (Label CatalogInput)} {pool : CatalogPool}
        {instanceId : String},
      schedule = earlier ++ later →
      run? cron stored earlier = some pool →
      ∃ order : List InstanceOperation,
        order.Perm (pool.shared.operations instanceId) ∧
          InstanceOperation.runAll cron order
              (stored.instances.lookup instanceId) =
            some (pool.shared.jobInstance instanceId)
  disabled :
    ∀ {earlier later : List (Label CatalogInput)} {pool : CatalogPool}
        {instanceId : String},
      schedule = earlier ++ later →
      run? cron stored earlier = some pool →
      InForce (pool.shared.operations instanceId)
        (pool.shared.jobInstance instanceId)
  columns :
    ∀ {earlier later : List (Label CatalogInput)}
        {label : Label CatalogInput} {pool next : CatalogPool}
        {instanceId : String} {before after : JobInstance},
      schedule = earlier ++ label :: later →
      run? cron stored earlier = some pool →
      (catalogSystem cron).step? pool label = some next →
      pool.shared.jobInstance instanceId = some before →
      next.shared.jobInstance instanceId = some after →
      after ≠ before →
      ∃ operation,
        next.shared.operations instanceId =
            operation :: pool.shared.operations instanceId ∧
          operation.Keeps before after

/--
Every edit that returns has found the columns it copies as it has read them, in
a row that admits its operation.
-/
def EditsUndisturbed
    (cron : CronParser)
    (stored : Stored)
    (schedule : List (Label CatalogInput)) :
    Prop :=
  ∀ {earlier later : List (Label CatalogInput)}
      {label : Label CatalogInput} {pool next : CatalogPool}
      {instanceId : String} {operation : InstanceOperation}
      {read row found : JobInstance} {written : InstanceDocument},
    schedule = earlier ++ label :: later →
    run? cron stored earlier = some pool →
    (catalogSystem cron).step? pool label = some next →
    pool.locals label.1 =
      .editInstance (.updating instanceId operation read row) →
    next.locals label.1 =
      .editInstance (.done (.ok (operation, written))) →
    pool.shared.jobInstance instanceId = some found →
    operation.copied found = operation.copied read ∧
      operation.Admissible cron found

/-- The completed operations, oldest first, account for the row. -/
structure EditsSoFar
    (cron : CronParser)
    (stored : Stored)
    (catalog : Catalog)
    (instanceId : String) :
    Prop where
  ordered : ∀ row ∈ catalog.jobInstance instanceId, row.FireOrdered
  serial :
    InstanceOperation.runAll cron (catalog.operations instanceId).reverse
        (stored.instances.lookup instanceId) =
      some (catalog.jobInstance instanceId)
  disabled :
    InForce (catalog.operations instanceId) (catalog.jobInstance instanceId)

namespace Executed

variable {instanceId : String}
variable {operation : InstanceOperation}
variable {row : JobInstance}

/-- An operation on a row that is in order keeps what it does not set. -/
theorem keeps
    (executed : Executed cron pool next instanceId operation row)
    {before : JobInstance}
    (found : pool.shared.jobInstance instanceId = some before)
    (ordered : before.FireOrdered) :
    operation.Keeps before row := by
  have ran := executed.ran
  rw [found] at ran
  exact InstanceOperation.keeps_of_run ran ordered
    (executed.admissible before found)

/-- The row an operation leaves is in order again. -/
theorem ordered
    (executed : Executed cron pool next instanceId operation row)
    (later : cron.Later)
    (ordered :
      ∀ found ∈ pool.shared.jobInstance instanceId, found.FireOrdered) :
    row.FireOrdered := by
  have ran := executed.ran
  cases before : pool.shared.jobInstance instanceId with
  | none =>
      rw [before] at ran
      intro last fired
      rw [executed.unfired row (InstanceOperation.run_none_eq_some ran)]
        at fired
      cases fired
  | some found =>
      rw [before] at ran
      exact InstanceOperation.fireOrdered_of_run later ran
        (ordered found before) (executed.admissible found before)
        executed.unfired

/-- Pauses and deletions that were in force still are, and a new one is. -/
theorem inForce
    (executed : Executed cron pool next instanceId operation row)
    (ordered :
      ∀ found ∈ pool.shared.jobInstance instanceId, found.FireOrdered)
    (before :
      InForce (pool.shared.operations instanceId)
        (pool.shared.jobInstance instanceId)) :
    InForce (operation :: pool.shared.operations instanceId)
      (some row) := by
  intro newer older disabling shape disables silent
  refine ⟨row, rfl, ?_⟩
  cases newer with
  | nil =>
      obtain ⟨rfl, -⟩ := List.cons.inj shape
      have ran := executed.ran
      cases here : pool.shared.jobInstance instanceId with
      | none =>
          rw [here] at ran
          rw [InstanceOperation.run_none_eq_some ran] at disables
          exact disables.elim
      | some found =>
          rw [here] at ran
          exact InstanceOperation.disabled_of_run ran disables
  | cons newest newer =>
      obtain ⟨rfl, earlier⟩ := List.cons.inj shape
      obtain ⟨found, here, disabled, deleted⟩ :=
        before earlier disables
          fun other member => silent other (List.mem_cons_of_mem _ member)
      have keeps := executed.keeps here (ordered found here)
      have notReviving := silent operation List.mem_cons_self
      exact ⟨keeps.disabled notReviving disabled,
        fun deletion => keeps.deleted notReviving (deleted deletion)⟩

end Executed

/-- Where no edit is disturbed, the operations account for every row. -/
theorem EditsUndisturbed.editsSoFar
    {schedule earlier rest : List (Label CatalogInput)}
    (undisturbed : EditsUndisturbed cron stored schedule)
    (later : cron.Later)
    (ordered :
      ∀ instanceId row, stored.instances.lookup instanceId = some row →
        row.FireOrdered)
    (shape : schedule = earlier ++ rest)
    (ran : run? cron stored earlier = some pool)
    (instanceId : String) :
    EditsSoFar cron stored pool.shared instanceId := by
  refine System.run?_induction_within
    (fun visited => EditsSoFar cron stored visited.shared instanceId)
    ?_ ?_ shape ran
  · refine ⟨ordered instanceId, rfl, ?_⟩
    intro newer older operation shape
    cases newer <;> cases shape
  · intro earlier rest visited next label shape ran known stepped
    rcases Reachable.kept_or_executed ⟨earlier, ran⟩ stepped
        (undisturbed shape ran stepped) with
      ⟨silent, same⟩ | ⟨operation, row, executed⟩
    · refine ⟨?_, ?_, ?_⟩
      · rw [same]
        exact known.ordered
      · rw [silent, same]
        exact known.serial
      · rw [silent, same]
        exact known.disabled
    · refine ⟨?_, ?_, ?_⟩
      · intro found here
        cases executed.left.symm.trans here
        exact executed.ordered later known.ordered
      · rw [executed.completed, List.reverse_cons, executed.left]
        exact InstanceOperation.runAll_append_singleton known.serial
          executed.ran
      · rw [executed.completed, executed.left]
        exact executed.inForce known.ordered known.disabled

/--
Where every edit finds the columns it copies as it has read them, no operation
is lost: the rows are those of executing the acknowledged operations one after
the other, no pause and no deletion is undone, and `lastFireAt` only rises.
-/
theorem edits_kept_of_undisturbed
    {schedule : List (Label CatalogInput)}
    (later : cron.Later)
    (ordered :
      ∀ instanceId row, stored.instances.lookup instanceId = some row →
        row.FireOrdered)
    (undisturbed : EditsUndisturbed cron stored schedule) :
    EditsKept cron stored schedule where
  acknowledged _ ran := Reachable.acknowledges ⟨_, ran⟩ _
  serial shape ran :=
    ⟨_, List.reverse_perm _,
      (undisturbed.editsSoFar later ordered shape ran _).serial⟩
  disabled shape ran :=
    (undisturbed.editsSoFar later ordered shape ran _).disabled
  columns := by
    intro earlier rest label pool next instanceId before after shape ran
      stepped stands left moved
    have known :=
      undisturbed.editsSoFar later ordered shape ran instanceId
    rcases Reachable.kept_or_executed ⟨earlier, ran⟩ stepped
        (undisturbed shape ran stepped) with
      ⟨-, same⟩ | ⟨operation, row, executed⟩
    · cases left.symm.trans (same.trans stands)
      exact (moved rfl).elim
    · cases left.symm.trans executed.left
      exact ⟨operation, executed.completed,
        executed.keeps stands (known.ordered before stands)⟩

/-- The edit a process is about to write is undisturbed, if it has one. -/
def editUndisturbed
    (cron : CronParser)
    (pool : CatalogPool)
    (label : Label CatalogInput) :
    Bool :=
  match pool.locals label.1 with
  | .editInstance (.updating instanceId operation read _) =>
      (pool.shared.jobInstance instanceId).all fun found =>
        operation.copied found = operation.copied read ∧
          operation.Admissible cron found
  | _ => true

theorem editsUndisturbed_of_checkSteps
    {schedule : List (Label CatalogInput)}
    (checked :
      (catalogSystem cron).checkSteps (editUndisturbed cron)
        (initial stored) schedule = true) :
    EditsUndisturbed cron stored schedule := by
  intro earlier later label pool next instanceId operation read row found
    written shape ran stepped calling returned stands
  subst shape
  have holds := System.check_of_checkSteps checked ran
  simp only [editUndisturbed, calling, stands, Option.all_some,
    decide_eq_true_eq] at holds
  exact holds

/-- The parameters of the hourly instance, changed by a patch. -/
def fullReport : CatalogRequest :=
  .patchInstance "hourly" { parameters := some [("mode", .string "full")] }

/-- Another schedule for the hourly instance. -/
def twiceAnHour : CatalogRequest :=
  .patchInstance "hourly"
    { schedule := some ⟨"cron", "*/30 * * * *", none⟩ }

/--
Process 1 pauses the instance while process 2 only reads it; process 3 then
patches its parameters, and a tick finds nothing due.
-/
def pausedAndPatched : List (Label CatalogInput) :=
  [startCall 1 (.pauseInstance "hourly"),
    startCall 2 (.resumeInstance "hourly"),
    proceedAt 1 1, proceedAt 2 2, proceedAt 1 3,
    startCall 3 fullReport, proceedAt 3 4, proceedAt 3 5,
    startCall 4 (.tick ⟨false, 10, false⟩),
    proceedAt 4 6, proceedAt 4 6, proceedAt 4 6]

/-- The pause and the patch of the parameters are both kept. -/
theorem edits_kept_pausedAndPatched :
    EditsKept hourly storedHourly pausedAndPatched := by
  refine edits_kept_of_undisturbed hourly_later ?_
    (editsUndisturbed_of_checkSteps (by decide))
  intro instanceId row stands
  by_cases same : instanceId = "hourly"
  · subst same
    have shape : storedHourly.instances.lookup "hourly" =
        some hourlyInstance := by
      decide
    cases shape.symm.trans stands
    intro last fired
    cases fired
  · rw [storedHourly, AList.lookup_insert_ne same] at stands
    cases stands

/--
Process 1 reads the instance to patch its parameters.  Process 2 patches its
schedule before process 1 writes.
-/
def racingPatches : List (Label CatalogInput) :=
  [startCall 1 fullReport, proceedAt 1 1,
    startCall 2 twiceAnHour, proceedAt 2 2, proceedAt 2 3,
    proceedAt 1 4]

/-- The operation of process 1. -/
def racingParameters : InstanceOperation :=
  .patched ⟨none, none, some [("mode", .string "full")]⟩ 1 1

/-- The operation of process 2. -/
def racingSchedule : InstanceOperation :=
  .patched
    ⟨none, some ⟨"cron", some "*/30 * * * *", none, some "UTC"⟩, none⟩ 2 2

/-- The patch of the schedule is lost. -/
theorem racingPatches_not_kept :
    ¬ EditsKept hourly storedHourly racingPatches := by
  intro promised
  have outcome :
      (run? hourly storedHourly racingPatches).map
          (fun pool =>
            (pool.shared.operations "hourly",
              (pool.shared.jobInstance "hourly").map
                JobInstance.schedule)) =
        some ([racingParameters, racingSchedule], some hourlySchedule) := by
    decide
  obtain ⟨pool, ran, shape⟩ := Option.map_eq_some_iff.mp outcome
  obtain ⟨operations, final⟩ := Prod.mk.inj shape
  obtain ⟨order, permuted, executed⟩ :=
    promised.serial (List.append_nil racingPatches).symm ran
  rw [operations, ← List.mem_permutations'] at permuted
  have rescheduled :
      ∀ order ∈ [racingParameters, racingSchedule].permutations',
        (InstanceOperation.runAll hourly order
            (storedHourly.instances.lookup "hourly")).map
          (Option.map JobInstance.schedule) ≠
        some (some hourlySchedule) := by
    decide
  exact rescheduled order permuted (by rw [executed, ← final]; rfl)

end CatalogPool

end IgaScheduler

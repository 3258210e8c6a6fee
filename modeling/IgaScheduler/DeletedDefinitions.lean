import IgaScheduler.EditSerialization
import IgaScheduler.VersionPinning

namespace IgaScheduler

open Relational Interleaving

/-!
# No live instance on a deleted definition

Two guards keep the definitions index and `job_instances` together: an instance
is created for a definition that was active when it was fetched, and a
definition is deleted when no instance was live when they were listed.  Neither
guard holds until the write it protects, and an edit has no guard at all.
-/

namespace Catalog

/-- The document of the definition is soft-deleted. -/
def DefinitionDeleted
    (catalog : Catalog)
    (definitionId : String) :
    Prop :=
  ∃ document,
    catalog.definition definitionId = some document ∧
      document.state = .deleted

/-- The instance references the definition and is live. -/
def LiveOn
    (catalog : Catalog)
    (instanceId definitionId : String) :
    Prop :=
  ∃ row,
    catalog.jobInstance instanceId = some row ∧
      row.definitionId = definitionId ∧
      row.Live

/-- No live instance references a deleted definition. -/
def NoLiveOnDeleted (catalog : Catalog) : Prop :=
  ∀ definitionId,
    catalog.DefinitionDeleted definitionId →
    ∀ instanceId, ¬ catalog.LiveOn instanceId definitionId

variable {catalog next : Catalog}

theorem DefinitionDeleted.of_definitions_eq
    {definitionId : String}
    (deleted : catalog.DefinitionDeleted definitionId)
    (same : next.definitions = catalog.definitions) :
    next.DefinitionDeleted definitionId := by
  unfold DefinitionDeleted definition
  rw [same]
  exact deleted

theorem LiveOn.of_instances_eq
    {instanceId definitionId : String}
    (live : catalog.LiveOn instanceId definitionId)
    (same : next.instances = catalog.instances) :
    next.LiveOn instanceId definitionId := by
  unfold LiveOn jobInstance
  rw [same]
  exact live

end Catalog

/-- Every `deleteDefinition` of the schedule is given an `instanceStore`. -/
def CatalogInput.Guarded : CatalogInput → Prop
  | .start (.deleteDefinition arguments) => arguments.instanceStore = true
  | _ => True

/-- A `deleteDefinition` in progress has been given an `instanceStore`. -/
def CatalogCall.Guarded : CatalogCall → Prop
  | .deleteDefinition (.start arguments) => arguments.instanceStore = true
  | .deleteDefinition (.updating arguments) =>
      arguments.instanceStore = true
  | .deleteDefinition (.reading arguments) =>
      arguments.instanceStore = true
  | _ => True

/-- A guarded call stays guarded, and one that is started guarded becomes so. -/
theorem CatalogCall.Guarded.resume
    {cron : CronParser}
    {call : CatalogCall}
    {input : CatalogInput}
    {reply : CatalogReply}
    (guarded : call.Guarded)
    (started : input.Guarded) :
    (call.resume cron input reply).Guarded := by
  cases input with
  | start request =>
      cases request with
      | deleteDefinition arguments =>
          exact started
      | _ =>
          trivial
  | proceed environment =>
      cases call with
      | deleteDefinition call =>
          cases call with
          | start arguments =>
              simp only [CatalogCall.resume, resumed,
                DeleteDefinition.resume]
              split
              · exact guarded
              · trivial
          | updating arguments =>
              simp only [CatalogCall.resume, resumed,
                DeleteDefinition.resume]
              split
              · exact guarded
              · trivial
          | reading | done =>
              trivial
      | _ =>
          trivial
  | raise =>
      cases call with
      | deleteDefinition call =>
          cases call <;> trivial
      | _ =>
          trivial

namespace CatalogPool

variable {cron : CronParser}
variable {stored : Stored}
variable {pool next before after : CatalogPool}
variable {label : Label CatalogInput}

/-- Only the update of `deleteDefinition` makes a document deleted. -/
theorem Reachable.deleted_of_step
    (reachable : Reachable cron stored pool)
    (stepped : (catalogSystem cron).step? pool label = some next)
    {definitionId : String}
    (deleted : next.shared.DefinitionDeleted definitionId) :
    pool.shared.DefinitionDeleted definitionId ∨
      ∃ arguments,
        pool.locals label.1 = .deleteDefinition (.updating arguments) ∧
          next.locals label.1 = .deleteDefinition (.reading arguments) ∧
          arguments.definitionId = definitionId := by
  obtain ⟨statement, reply, issued, executed, resumed⟩ := step_moves stepped
  obtain ⟨document, found, gone⟩ := deleted
  obtain ⟨performed, ran, shape⟩ := Catalog.exec_eq_some executed
  have effect := Catalog.perform_definitionEffect ran definitionId
  have sameDocument :
      performed.definition definitionId = some document := by
    rw [← found, shape]
    rfl
  rw [sameDocument] at effect
  generalize calling : pool.locals label.1 = call at issued resumed ⊢
  generalize proceeding : label.2 = input at issued resumed
  generalize CatalogStatement.documents label.1 pool.shared definitionId
    statement = documents at effect
  generalize same : some document = leaves at effect
  cases effect with
  | kept =>
      exact .inl ⟨document, same.symm, gone⟩
  | created =>
      cases same
      cases CatalogCall.issues_of_issue issued with
      | uploadCreate =>
          obtain ⟨now, generation, rfl⟩ := reachable.storing calling
          cases gone
      | tick call environment statement issued =>
          cases Tick.isStatement_of_issue issued
  | indexed =>
      cases same
      cases CatalogCall.issues_of_issue issued with
      | uploadIndex =>
          obtain ⟨now, generation, rfl⟩ := reachable.storing calling
          cases gone
      | tick call environment statement issued =>
          cases Tick.isStatement_of_issue issued
  | patched patch now existing stands =>
      cases same
      exact .inl ⟨existing, stands, gone⟩
  | deleted now existing stands =>
      cases CatalogCall.issues_of_issue issued with
      | definitionDelete arguments environment =>
          refine .inr ⟨arguments, rfl, ?_, rfl⟩
          have taken : reply = .flag true := by
            simp only [Catalog.perform, Catalog.updateDefinition, stands,
              Option.some.injEq, Prod.mk.injEq] at ran
            exact ran.2.symm
          rw [resumed, taken]
          rfl
      | tick call environment statement issued =>
          cases Tick.isStatement_of_issue issued

/-- A creation that returns has executed its insertion with success. -/
theorem executed_of_returned
    (stepped : (catalogSystem cron).step? pool label = some next)
    {document written : InstanceDocument}
    (calling :
      pool.locals label.1 = .createInstance (.inserting document))
    (returned :
      next.locals label.1 = .createInstance (.done (.ok written))) :
    pool.shared.exec label.1 (.createInstance document) =
        some (next.shared, .flag true) ∧
      written = document := by
  obtain ⟨statement, reply, issued, executed, resumed⟩ := step_moves stepped
  rw [calling] at issued resumed
  rcases label with ⟨process, input⟩
  cases input with
  | start request =>
      cases issued
  | raise =>
      cases returned.symm.trans resumed
  | proceed environment =>
      cases issued
      obtain ⟨taken, rfl, -⟩ := Catalog.exec_createInstance executed
      cases taken with
      | true =>
          cases returned.symm.trans resumed
          exact ⟨executed, rfl⟩
      | false =>
          cases returned.symm.trans resumed

/-- A creation that returns has stored its document. -/
theorem inserted_of_returned
    (stepped : (catalogSystem cron).step? pool label = some next)
    {document written : InstanceDocument}
    (calling :
      pool.locals label.1 = .createInstance (.inserting document))
    (returned :
      next.locals label.1 = .createInstance (.done (.ok written))) :
    next.shared.jobInstance document.instanceId =
        some document.toJobInstance ∧
      next.shared.definitions = pool.shared.definitions := by
  obtain ⟨executed, -⟩ := executed_of_returned stepped calling returned
  obtain ⟨taken, answer, -, inserted, sameDefinitions⟩ :=
    Catalog.exec_createInstance executed
  cases answer
  exact ⟨inserted rfl, sameDefinitions⟩

/-- A creation that completes its operation returns. -/
theorem created_of_completed
    (stepped : (catalogSystem cron).step? pool label = some next)
    {document : InstanceDocument}
    (calling :
      pool.locals label.1 = .createInstance (.inserting document))
    (completed :
      next.shared.operations document.instanceId ≠
        pool.shared.operations document.instanceId) :
    next.locals label.1 = .createInstance (.done (.ok document)) := by
  obtain ⟨statement, reply, issued, executed, resumed⟩ := step_moves stepped
  have extended := Catalog.exec_operations executed document.instanceId
  rw [calling] at issued resumed
  rcases label with ⟨process, input⟩
  cases input with
  | start request =>
      cases issued
  | raise =>
      cases issued
      exact (completed extended).elim
  | proceed environment =>
      cases issued
      obtain ⟨taken, rfl, isTaken, -⟩ := Catalog.exec_createInstance executed
      by_cases replaceable :
          (pool.shared.jobInstance document.instanceId).all
            InstanceStore.replaceable = true
      · rw [resumed, isTaken.mpr replaceable]
        rfl
      · refine (completed ?_).elim
        rw [extended]
        simp [CatalogStatement.operations, CatalogStatement.events,
          replaceable]

/-- An edit that returns has stored its row. -/
theorem updated_of_returned
    (stepped : (catalogSystem cron).step? pool label = some next)
    {instanceId : String}
    {operation returning : InstanceOperation}
    {read row : JobInstance}
    {written : InstanceDocument}
    (calling :
      pool.locals label.1 =
        .editInstance (.updating instanceId operation read row))
    (returned :
      next.locals label.1 =
        .editInstance (.done (.ok (returning, written)))) :
    next.shared.jobInstance instanceId = some row ∧
      next.shared.definitions = pool.shared.definitions := by
  obtain ⟨statement, reply, issued, executed, resumed⟩ := step_moves stepped
  rw [calling] at issued resumed
  rcases label with ⟨process, input⟩
  cases input with
  | start request =>
      cases issued
  | raise =>
      cases returned.symm.trans resumed
  | proceed environment =>
      cases issued
      obtain ⟨updated, answer, sameDefinitions⟩ :=
        Catalog.exec_updateInstance executed
      refine ⟨?_, sameDefinitions⟩
      cases found : pool.shared.jobInstance instanceId with
      | none =>
          rw [answer, found] at resumed
          cases returned.symm.trans resumed
      | some existing =>
          rw [updated, found]
          rfl

/-- A deletion that goes on to read the document back has deleted it. -/
theorem deleted_of_reading
    (stepped : (catalogSystem cron).step? pool label = some next)
    {arguments : DeleteDefinition.Arguments}
    (calling :
      pool.locals label.1 = .deleteDefinition (.updating arguments))
    (reading :
      next.locals label.1 = .deleteDefinition (.reading arguments)) :
    next.shared.DefinitionDeleted arguments.definitionId ∧
      next.shared.instances = pool.shared.instances := by
  obtain ⟨statement, reply, issued, executed, resumed⟩ := step_moves stepped
  rw [calling] at issued resumed
  rcases label with ⟨process, input⟩
  cases input with
  | start request =>
      cases issued
  | raise =>
      cases reading.symm.trans resumed
  | proceed environment =>
      cases issued
      obtain ⟨performed, ran, shape⟩ := Catalog.exec_eq_some executed
      cases found : pool.shared.definition arguments.definitionId with
      | none =>
          simp only [Catalog.perform, Catalog.updateDefinition, found,
            Option.some.injEq, Prod.mk.injEq] at ran
          obtain ⟨-, rfl⟩ := ran
          cases reading.symm.trans resumed
      | some document =>
          simp only [Catalog.perform, Catalog.updateDefinition, found,
            Option.some.injEq, Prod.mk.injEq] at ran
          obtain ⟨rfl, -⟩ := ran
          rw [shape]
          exact ⟨⟨markDeleted environment.now document,
            AList.lookup_insert _, rfl⟩, rfl⟩

/-- Only a creation and an edit make an instance live. -/
theorem Reachable.live_of_step
    (reachable : Reachable cron stored pool)
    (stepped : (catalogSystem cron).step? pool label = some next)
    {instanceId definitionId : String}
    (live : next.shared.LiveOn instanceId definitionId) :
    pool.shared.LiveOn instanceId definitionId ∨
      (∃ document,
        pool.locals label.1 = .createInstance (.inserting document) ∧
          next.locals label.1 = .createInstance (.done (.ok document)) ∧
          document.definitionId = definitionId ∧
          document.toJobInstance.Live) ∨
      ∃ operation read row written,
        pool.locals label.1 =
            .editInstance (.updating instanceId operation read row) ∧
          next.locals label.1 =
            .editInstance (.done (.ok (operation, written))) ∧
          row.definitionId = definitionId ∧
          row.Live := by
  obtain ⟨row, found, references, live⟩ := live
  obtain ⟨operations, extended, operated⟩ :=
    reachable.operated stepped instanceId
  rw [found] at operated
  generalize calling : pool.locals label.1 = call at operated
  generalize before :
    pool.shared.jobInstance instanceId = enters at operated
  generalize same : some row = leaves at operated
  cases operated with
  | kept =>
      exact .inl ⟨row, before.trans same.symm, references, live⟩
  | created document sameInstance replaceable =>
      cases same
      subst sameInstance
      exact .inr (.inl ⟨document, rfl,
        created_of_completed stepped calling (by rw [extended]; simp),
        references, live⟩)
  | edited operation read existing written stands rewritten =>
      cases same
      obtain ⟨document, returned⟩ :=
        returned_of_completed stepped calling (before.trans stands)
          (by rw [extended]; simp)
      exact .inr (.inr ⟨operation, read, row, document, rfl, returned,
        references, live⟩)
  | advanced arguments nowIso summary firing computed sameInstance stands
      due present =>
      cases same
      exact .inl ⟨_, before.trans stands, references, live⟩

/-- A call that is about to insert has just fetched an active definition. -/
theorem active_of_inserting
    (stepped : (catalogSystem cron).step? before label = some after)
    {document : InstanceDocument}
    (calling :
      after.locals label.1 = .createInstance (.inserting document)) :
    ¬ before.shared.DefinitionDeleted document.definitionId := by
  obtain ⟨definitionId, body, environment, prepared⟩ :=
    inserting_of_step stepped calling
  obtain ⟨definition, found, active, references⟩ :=
    CreateInstance.active_of_prepare prepared
  rintro ⟨other, stands, gone⟩
  rw [references, found] at stands
  cases stands
  cases active.symm.trans gone

/-- A deletion that is about to update has just found no live instance. -/
theorem unused_of_updating
    (stepped : (catalogSystem cron).step? before label = some after)
    {arguments : DeleteDefinition.Arguments}
    (calling :
      after.locals label.1 = .deleteDefinition (.updating arguments))
    (guarded : arguments.instanceStore = true)
    (instanceId : String) :
    ¬ before.shared.LiveOn instanceId arguments.definitionId := by
  obtain ⟨environment, statement, reply, issued, executed, resumed⟩ :=
    proceeded_of_step stepped (by rw [calling]; rfl)
  rw [calling] at resumed
  cases fetched : before.locals label.1 with
  | deleteDefinition earlier =>
      rw [fetched] at issued resumed
      cases earlier with
      | start listing =>
          simp only [CatalogCall.resumed, DeleteDefinition.resume]
            at resumed
          split at resumed
          · rename_i unused
            cases resumed
            simp only [CatalogCall.next, DeleteDefinition.issue,
              if_pos guarded, Option.some.injEq] at issued
            subst issued
            rintro ⟨row, found, references, live⟩
            have listed :=
              Catalog.exec_listInstancesForDefinition executed found
                references
            exact List.filter_eq_nil_iff.mp unused _ listed
              (decide_eq_true live)
          · cases resumed
      | updating earlier =>
          simp only [CatalogCall.resumed, DeleteDefinition.resume]
            at resumed
          split at resumed <;> cases resumed
      | reading earlier =>
          cases resumed
      | done outcome =>
          cases issued
  | _ =>
      rw [fetched] at resumed
      cases resumed

/-- A schedule that starts guarded deletions only has only such in progress. -/
theorem guarded_of_run
    {schedule earlier later : List (Label CatalogInput)}
    (guarded : ∀ label ∈ schedule, label.2.Guarded)
    (shape : schedule = earlier ++ later)
    (ran : run? cron stored earlier = some pool)
    (process : Nat) :
    (pool.locals process).Guarded := by
  refine System.run?_induction_within
    (fun visited => ∀ process, (visited.locals process).Guarded)
    (fun _ => trivial) ?_ shape ran process
  intro earlier later visited next label shape ran known stepped process
  by_cases own : process = label.1
  · subst own
    obtain ⟨statement, reply, -, -, resumed⟩ := step_moves stepped
    rw [resumed]
    exact (known label.1).resume (guarded label (by simp [shape]))
  · rw [System.step?_locals_other stepped own]
    exact known process

/-- The promise on deleted definitions, along a whole schedule. -/
def DeletedUnused
    (cron : CronParser)
    (stored : Stored)
    (schedule : List (Label CatalogInput)) :
    Prop :=
  ∀ {earlier later : List (Label CatalogInput)} {pool : CatalogPool},
    schedule = earlier ++ later →
    run? cron stored earlier = some pool →
    pool.shared.NoLiveOnDeleted

/--
No definition is deleted between the look of a creation and its insert, no
instance becomes live between the look of a deletion and its update, and no
edit leaves an instance of a deleted definition live.
-/
structure DeletionsUndisturbed
    (cron : CronParser)
    (stored : Stored)
    (schedule : List (Label CatalogInput)) :
    Prop where
  created :
    ∀ {earlier later : List (Label CatalogInput)}
        {label : Label CatalogInput} {pool next before after : CatalogPool}
        {document : InstanceDocument},
      schedule = earlier ++ label :: later →
      run? cron stored earlier = some pool →
      (catalogSystem cron).step? pool label = some next →
      pool.locals label.1 = .createInstance (.inserting document) →
      next.locals label.1 = .createInstance (.done (.ok document)) →
      document.toJobInstance.Live →
      (catalogSystem cron).LastMove (initial stored) earlier label.1
        before after →
      pool.shared.DefinitionDeleted document.definitionId →
      before.shared.DefinitionDeleted document.definitionId
  deleted :
    ∀ {earlier later : List (Label CatalogInput)}
        {label : Label CatalogInput} {pool next before after : CatalogPool}
        {arguments : DeleteDefinition.Arguments} {instanceId : String},
      schedule = earlier ++ label :: later →
      run? cron stored earlier = some pool →
      (catalogSystem cron).step? pool label = some next →
      pool.locals label.1 = .deleteDefinition (.updating arguments) →
      next.locals label.1 = .deleteDefinition (.reading arguments) →
      (catalogSystem cron).LastMove (initial stored) earlier label.1
        before after →
      pool.shared.LiveOn instanceId arguments.definitionId →
      before.shared.LiveOn instanceId arguments.definitionId
  edited :
    ∀ {earlier later : List (Label CatalogInput)}
        {label : Label CatalogInput} {pool next : CatalogPool}
        {instanceId : String} {operation : InstanceOperation}
        {read row : JobInstance} {written : InstanceDocument},
      schedule = earlier ++ label :: later →
      run? cron stored earlier = some pool →
      (catalogSystem cron).step? pool label = some next →
      pool.locals label.1 =
        .editInstance (.updating instanceId operation read row) →
      next.locals label.1 =
        .editInstance (.done (.ok (operation, written))) →
      row.Live →
      ¬ pool.shared.DefinitionDeleted row.definitionId

/-- A process that is in a call has made a newest step. -/
theorem exists_lastMove_of_calling
    {schedule : List (Label CatalogInput)}
    {process : Nat}
    (ran : run? cron stored schedule = some pool)
    (calling : pool.locals process ≠ .idle) :
    ∃ before after,
      (catalogSystem cron).LastMove (initial stored) schedule process
          before after ∧
        after.locals process = pool.locals process ∧
        ∃ label : Label CatalogInput,
          label.1 = process ∧
            (catalogSystem cron).step? before label = some after := by
  obtain ⟨before, after, lastMove⟩ := System.exists_lastMove ran calling
  refine ⟨before, after, lastMove, (lastMove.locals ran).symm, ?_⟩
  obtain ⟨_, label, _, -, own, -, -, stepped⟩ := lastMove
  exact ⟨label, own, stepped⟩

/-- An undisturbed step makes no instance live on a deleted definition. -/
theorem DeletionsUndisturbed.step
    {schedule earlier later : List (Label CatalogInput)}
    (undisturbed : DeletionsUndisturbed cron stored schedule)
    (guarded : ∀ label ∈ schedule, label.2.Guarded)
    (shape : schedule = earlier ++ label :: later)
    (ran : run? cron stored earlier = some pool)
    (stepped : (catalogSystem cron).step? pool label = some next)
    (known : pool.shared.NoLiveOnDeleted) :
    next.shared.NoLiveOnDeleted := by
  have reachable : Reachable cron stored pool := ⟨earlier, ran⟩
  intro definitionId deleted instanceId live
  rcases reachable.deleted_of_step stepped deleted with
    before | ⟨arguments, calling, reading, rfl⟩
  · rcases reachable.live_of_step stepped live with
      earlierLive | ⟨document, calling, returned, rfl, alive⟩ |
        ⟨operation, read, row, written, calling, returned, rfl, alive⟩
    · exact known definitionId before instanceId earlierLive
    · obtain ⟨fetched, after, lastMove, kept, entry, own, moved⟩ :=
        exists_lastMove_of_calling ran (by rw [calling]; nofun)
      refine active_of_inserting moved (own ▸ kept.trans calling) ?_
      exact undisturbed.created shape ran stepped calling returned alive
        lastMove before
    · exact undisturbed.edited shape ran stepped calling returned alive
        before
  · rcases reachable.live_of_step stepped live with
      earlierLive | ⟨document, inserting, -⟩ |
        ⟨operation, read, row, written, updating, -⟩
    · obtain ⟨listed, after, lastMove, kept, entry, own, moved⟩ :=
        exists_lastMove_of_calling ran (by rw [calling]; nofun)
      have storeGiven := guarded_of_run guarded shape ran label.1
      rw [calling] at storeGiven
      refine unused_of_updating moved (own ▸ kept.trans calling)
        storeGiven instanceId ?_
      exact undisturbed.deleted shape ran stepped calling reading lastMove
        earlierLive
    · cases calling.symm.trans inserting
    · cases calling.symm.trans updating

/--
In every schedule whose deletions are given an `instanceStore`, deleted
definitions stay without live instances exactly when both guards still hold at
the write they protect and no edit leaves an instance of a deleted definition
live.
-/
theorem deleted_unused_iff
    (cron : CronParser)
    (stored : Stored)
    (schedule : List (Label CatalogInput))
    (atStart : (initial stored).shared.NoLiveOnDeleted)
    (guarded : ∀ label ∈ schedule, label.2.Guarded) :
    DeletedUnused cron stored schedule ↔
      DeletionsUndisturbed cron stored schedule := by
  constructor
  · intro promised
    have holdsNext
        {earlier later : List (Label CatalogInput)}
        {label : Label CatalogInput}
        {pool next : CatalogPool}
        (shape : schedule = earlier ++ label :: later)
        (ran : run? cron stored earlier = some pool)
        (stepped : (catalogSystem cron).step? pool label = some next) :
        next.shared.NoLiveOnDeleted :=
      promised
        (by rw [shape, List.append_assoc, List.singleton_append])
        (System.run?_append_eq_some.mpr
          ⟨pool, ran, System.run?_singleton.trans stepped⟩)
    refine ⟨?_, ?_, ?_⟩
    · intro earlier later label pool next before after document shape ran
        stepped calling returned alive lastMove deleted
      obtain ⟨stands, same⟩ := inserted_of_returned stepped calling returned
      exact (holdsNext shape ran stepped document.definitionId
        (deleted.of_definitions_eq same) document.instanceId
        ⟨_, stands, rfl, alive⟩).elim
    · intro earlier later label pool next before after arguments instanceId
        shape ran stepped calling reading lastMove live
      obtain ⟨deleted, same⟩ := deleted_of_reading stepped calling reading
      exact (holdsNext shape ran stepped arguments.definitionId deleted
        instanceId (live.of_instances_eq same)).elim
    · intro earlier later label pool next instanceId operation read row
        written shape ran stepped calling returned alive deleted
      obtain ⟨stands, same⟩ := updated_of_returned stepped calling returned
      exact holdsNext shape ran stepped row.definitionId
        (deleted.of_definitions_eq same) instanceId ⟨_, stands, rfl, alive⟩
  · intro undisturbed earlier later pool shape ran
    refine System.run?_induction_within
      (fun visited => visited.shared.NoLiveOnDeleted) atStart ?_ shape ran
    intro earlier later visited next label shape ran known stepped
    exact undisturbed.step guarded shape ran stepped known

/--
The report definition is uploaded while the hourly instance is live, and cannot
be deleted; once the instance is paused, it is deleted.
-/
def guardedDeletion : List (Label CatalogInput) :=
  let delete := CatalogRequest.deleteDefinition ⟨"report", true⟩
  [startCall 0 (reportUpload "first"),
    proceedAt 0 1, proceedAt 0 1, proceedAt 0 1, proceedAt 0 1,
    startCall 1 delete, proceedAt 1 2,
    startCall 2 (.pauseInstance "hourly"), proceedAt 2 3, proceedAt 2 3,
    startCall 3 delete, proceedAt 3 4, proceedAt 3 4, proceedAt 3 4]

/-- The same, and then the paused instance is resumed. -/
def resumedOnDeleted : List (Label CatalogInput) :=
  guardedDeletion ++
    [startCall 4 (.resumeInstance "hourly"), proceedAt 4 5, proceedAt 4 5]

/-- Nothing is deleted at first. -/
theorem storedHourly_noLiveOnDeleted :
    (initial storedHourly).shared.NoLiveOnDeleted := by
  rintro definitionId ⟨document, found, -⟩
  cases found

/-- Guarded deletions leave nothing live. -/
theorem deleted_unused_iff_guardedDeletion :
    DeletedUnused hourly storedHourly guardedDeletion ↔
      DeletionsUndisturbed hourly storedHourly guardedDeletion := by
  refine deleted_unused_iff hourly storedHourly guardedDeletion
    storedHourly_noLiveOnDeleted ?_
  simp [guardedDeletion, startCall, proceedAt, CatalogInput.Guarded,
    reportUpload]

/-- A live instance references the deleted definition. -/
theorem resumedOnDeleted_not_unused :
    ¬ DeletedUnused hourly storedHourly resumedOnDeleted := by
  intro promised
  have outcome :
      (run? hourly storedHourly resumedOnDeleted).map
          (fun pool =>
            ((pool.shared.definition "report").map
                DefinitionDocument.state,
              (pool.shared.jobInstance "hourly").map fun row =>
                (row.definitionId, decide row.Live))) =
        some (some .deleted, some ("report", true)) := by
    decide
  obtain ⟨pool, ran, shape⟩ := Option.map_eq_some_iff.mp outcome
  obtain ⟨documents, rows⟩ := Prod.mk.inj shape
  obtain ⟨document, found, gone⟩ := Option.map_eq_some_iff.mp documents
  obtain ⟨row, stands, columns⟩ := Option.map_eq_some_iff.mp rows
  obtain ⟨references, live⟩ := Prod.mk.inj columns
  exact promised (List.append_nil resumedOnDeleted).symm ran "report"
    ⟨document, found, gone⟩ "hourly"
    ⟨row, stands, references, of_decide_eq_true live⟩

end CatalogPool

end IgaScheduler

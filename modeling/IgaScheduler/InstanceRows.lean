import IgaScheduler.InstanceHistory
import IgaScheduler.RelationalSelection

namespace IgaScheduler

open Relational Interleaving

/-!
# The columns of an instance that belong together

Every write of a row comes from one read or from one definition: `enabled` and
`state` are written together, and so are the parameters and the schema they
were checked against.  However stale a row is that an edit writes back, its
pairs of columns fit.
-/

/-- A row in which both pairs of columns fit. -/
structure SoundRow (row : JobInstance) : Prop where
  active : row.enabled = true ↔ row.state = .active
  conforms : Conforms row.parameters row.definitionParameterSchema

theorem stateOf_eq_active
    {enabled : Bool} :
    stateOf enabled = .active ↔ enabled = true := by
  cases enabled with
  | false =>
      exact ⟨nofun, nofun⟩
  | true =>
      exact ⟨fun _ => rfl, fun _ => rfl⟩

namespace SoundRow

variable {cron : CronParser}
variable {existing row : JobInstance}

/-- A due row is an active row, and its time has come. -/
theorem due_iff
    {nowIso : Timestamp}
    (sound : SoundRow row) :
    InstanceStore.due nowIso row = true ↔
      row.state = .active ∧
        ∃ nextFireAt, row.nextFireAt = some nextFireAt ∧
          nextFireAt ≤ nowIso := by
  unfold InstanceStore.due
  rw [Bool.and_eq_true, Bool.and_eq_true, decide_eq_true_eq, sound.active,
    and_self, Option.any_eq_true]
  constructor
  · rintro ⟨active, nextFireAt, planned, passed⟩
    exact ⟨active, nextFireAt, planned, of_decide_eq_true passed⟩
  · rintro ⟨active, nextFireAt, planned, passed⟩
    exact ⟨active, nextFireAt, planned, decide_eq_true passed⟩

theorem of_prepare
    {definitionId : String}
    {body : InstanceInput}
    {environment : CatalogEnvironment}
    {definition : Option DefinitionDocument}
    {document : InstanceDocument}
    (prepared :
      CreateInstance.prepare cron definitionId body environment definition =
        .ok document) :
    SoundRow document.toJobInstance := by
  unfold CreateInstance.prepare at prepared
  split at prepared
  · cases prepared
  · split at prepared
    · split at prepared
      · cases prepared
      · unfold createdRow at prepared
        split at prepared
        · cases prepared
        · rename_i valid
          split at prepared <;> cases prepared
          exact ⟨stateOf_eq_active.symm, conforms_of_validate valid⟩
    · cases prepared

/-- New parameters are checked, and others are as good as they were. -/
theorem patched
    {patch : InstancePatch}
    {fromDate updatedAt : Timestamp}
    (sound : SoundRow existing)
    (written : patch.row cron fromDate updatedAt existing = .ok row) :
    SoundRow row := by
  obtain ⟨checked, nextFireAt, -, rfl⟩ := InstancePatch.row_eq_ok.mp written
  refine ⟨stateOf_eq_active.symm, ?_⟩
  change Conforms (patch.parameters.getD existing.parameters)
    existing.definitionParameterSchema
  cases given : patch.parameters with
  | none =>
      exact sound.conforms
  | some parameters =>
      rw [given] at checked
      exact conforms_of_validate checked

theorem rewritten
    {operation : InstanceOperation}
    (sound : SoundRow existing)
    (written : EditInstance.rewrite cron existing operation = .ok row) :
    SoundRow row := by
  cases operation with
  | patched patch fromDate updatedAt =>
      exact sound.patched written
  | deleted updatedAt =>
      cases written
      exact ⟨⟨nofun, nofun⟩, sound.conforms⟩
  | created created =>
      cases written
  | advanced nowIso =>
      cases written

theorem advanced
    {firing : Tick.Firing}
    {nowIso : Timestamp}
    (sound : SoundRow firing.document.toJobInstance) :
    SoundRow (firing.advancedRow nowIso) :=
  ⟨sound.active, sound.conforms⟩

end SoundRow

namespace CatalogPool

variable {cron : CronParser}
variable {stored : Stored}
variable {pool next : CatalogPool}
variable {label : Label CatalogInput}

/-- All rows fit, in the store and in the calls that are about to write. -/
structure RowsSound (pool : CatalogPool) : Prop where
  stored :
    ∀ instanceId row,
      pool.shared.jobInstance instanceId = some row →
      SoundRow row
  inserting :
    ∀ process document,
      pool.locals process = .createInstance (.inserting document) →
      SoundRow document.toJobInstance
  updating :
    ∀ process instanceId operation read row,
      pool.locals process =
        .editInstance (.updating instanceId operation read row) →
      SoundRow row

/-- What a step leaves of an instance fits. -/
theorem RowsSound.operated
    {instanceId : String}
    {operations : List InstanceOperation}
    {row : JobInstance}
    (known : RowsSound pool)
    (operated :
      Operated cron next.shared instanceId
        (pool.shared.jobInstance instanceId) (pool.locals label.1) operations
        (some row)) :
    SoundRow row := by
  generalize before : pool.shared.jobInstance instanceId = earlier at operated
  generalize calling : pool.locals label.1 = call at operated
  cases operated with
  | kept =>
      exact known.stored instanceId row before
  | created document sameInstance replaceable =>
      exact known.inserting label.1 document calling
  | edited operation read existing row found rewritten =>
      exact known.updating label.1 instanceId operation read row calling
  | advanced arguments nowIso summary firing computed sameInstance found =>
      rw [found] at before
      exact (known.stored instanceId _ before).advanced

theorem RowsSound.step
    (reachable : Reachable cron stored pool)
    (known : RowsSound pool)
    (stepped : (catalogSystem cron).step? pool label = some next) :
    RowsSound next where
  stored := by
    intro instanceId row found
    obtain ⟨operations, -, operated⟩ := reachable.operated stepped instanceId
    rw [found] at operated
    exact known.operated operated
  inserting := by
    intro process document calling
    by_cases own : process = label.1
    · subst own
      obtain ⟨_, _, _, prepared⟩ := inserting_of_step stepped calling
      exact .of_prepare prepared
    · rw [System.step?_locals_other stepped own] at calling
      exact known.inserting process document calling
  updating := by
    intro process instanceId operation read row calling
    by_cases own : process = label.1
    · subst own
      obtain ⟨found, rewritten⟩ := updating_of_step stepped calling
      exact (known.stored instanceId read found).rewritten rewritten
    · rw [System.step?_locals_other stepped own] at calling
      exact known.updating process instanceId operation read row calling

theorem RowsSound.initial
    (initially :
      ∀ instanceId row,
        stored.instances.lookup instanceId = some row → SoundRow row) :
    RowsSound (initial stored) where
  stored := initially
  inserting := by
    intro process document calling
    have idle :
        CatalogCall.idle = .createInstance (.inserting document) := calling
    cases idle
  updating := by
    intro process instanceId operation read row calling
    have idle :
        CatalogCall.idle =
          .editInstance (.updating instanceId operation read row) := calling
    cases idle

theorem Reachable.rowsSound
    (reachable : Reachable cron stored pool)
    (initially :
      ∀ instanceId row,
        stored.instances.lookup instanceId = some row → SoundRow row) :
    RowsSound pool := by
  refine (reachable.invariant
    (fun visited => Reachable cron stored visited ∧ RowsSound visited)
    ⟨⟨[], rfl⟩, .initial initially⟩ ?_).2
  intro visited next label ⟨visitable, known⟩ stepped
  exact ⟨visitable.step stepped, known.step visitable stepped⟩

/-! ## What a tick takes out of the rows -/

/-- A stored instance in state `ACTIVE` whose time has come. -/
structure ActiveAndDue
    (catalog : Catalog)
    (nowIso : Timestamp)
    (document : InstanceDocument) :
    Prop where
  stored :
    catalog.jobInstance document.instanceId = some document.toJobInstance
  active : document.state = .active
  passed :
    ∃ nextFireAt, document.nextFireAt = some nextFireAt ∧
      nextFireAt ≤ nowIso

/--
What `claimDueInstances` returns: active instances whose time has come, and
all of them but those it skips, unless the batch is full of others that are due
no later.
-/
structure ClaimsDue
    (catalog : Catalog)
    (nowIso : Timestamp)
    (batchSize : Nat)
    (skipped : String → Bool)
    (listed : List InstanceDocument) :
    Prop where
  selected :
    ∀ document ∈ listed,
      ActiveAndDue catalog nowIso document ∧
        skipped document.instanceId = false
  leftOut :
    ∀ document,
      ActiveAndDue catalog nowIso document →
      skipped document.instanceId = false →
      document ∉ listed →
      listed.length = batchSize ∧
        ∀ other ∈ listed,
          other.nextFireAt.getD 0 ≤ document.nextFireAt.getD 0

theorem RowsSound.claimsDue
    (known : RowsSound pool)
    {nowIso : Timestamp}
    {batchSize : Nat}
    {skipped : String → Bool}
    {admits : String → JobInstance → Bool}
    (admits_iff :
      ∀ instanceId row,
        admits instanceId row = true ↔
          InstanceStore.due nowIso row = true ∧
            skipped instanceId = false) :
    ClaimsDue pool.shared nowIso batchSize skipped
      ((pool.shared.instances.committed.select admits
        (fun row => row.nextFireAt.getD 0) batchSize).map
          fun entry => instanceDocument entry.1 entry.2) where
  selected := by
    intro document member
    obtain ⟨⟨instanceId, row⟩, listed, rfl⟩ := List.mem_map.mp member
    obtain ⟨found, admitted⟩ := Table.mem_select listed
    obtain ⟨due, free⟩ := (admits_iff instanceId row).mp admitted
    have sound := known.stored instanceId row found
    obtain ⟨active, passed⟩ := sound.due_iff.mp due
    exact ⟨⟨found, active, passed⟩, free⟩
  leftOut := by
    intro document ⟨found, active, passed⟩ free unlisted
    have sound := known.stored document.instanceId _ found
    have due := sound.due_iff.mpr ⟨active, passed⟩
    have admitted := (admits_iff _ _).mpr ⟨due, free⟩
    obtain ⟨full, earlier⟩ := Table.select_full found admitted
      fun member => unlisted (List.mem_map_of_mem member)
    refine ⟨(List.length_map _).trans full, ?_⟩
    intro other member
    obtain ⟨entry, listed, rfl⟩ := List.mem_map.mp member
    exact earlier entry listed

/-- The claim of a tick skips what another transaction has locked. -/
theorem RowsSound.claimsDue_of_claim
    (known : RowsSound pool)
    {process : Nat}
    {nowIso : Timestamp}
    {batchSize : Nat}
    {catalog : Catalog}
    {reply : CatalogReply}
    (executed :
      pool.shared.exec process (.claimDueInstances nowIso batchSize) =
        some (catalog, reply)) :
    ClaimsDue pool.shared nowIso batchSize
      (pool.shared.instances.lockedByOther process) reply.listed := by
  obtain ⟨performed, ran, -⟩ := Catalog.exec_eq_some executed
  obtain ⟨⟨database, rows⟩, selected, shape⟩ :=
    Option.map_eq_some_iff.mp ran
  cases shape
  obtain ⟨rfl, -⟩ := Database.selectForUpdate?_eq_some selected
  apply known.claimsDue
  intro instanceId row
  rw [Bool.and_eq_true, Bool.not_eq_true']

/-- The claim of a dry run locks nothing, and skips nothing. -/
theorem RowsSound.claimsDue_of_dryRun
    (known : RowsSound pool)
    {process : Nat}
    {nowIso : Timestamp}
    {batchSize : Nat}
    {catalog : Catalog}
    {reply : CatalogReply}
    (executed :
      pool.shared.exec process (.listDueInstances nowIso batchSize) =
        some (catalog, reply)) :
    ClaimsDue pool.shared nowIso batchSize (fun _ => false)
      reply.listed := by
  obtain ⟨performed, ran, -⟩ := Catalog.exec_eq_some executed
  cases ran
  apply known.claimsDue
  intro instanceId row
  exact ⟨fun due => ⟨due, rfl⟩, And.left⟩

/-- A run that a tick creates has the parameters of an active row. -/
structure CreatedFrom (run : JobRun) (row : JobInstance) : Prop where
  active : row.state = .active
  params : run.params = row.parameters
  conforms : Conforms run.params row.definitionParameterSchema

/--
Starting from rows that fit, as an empty table does: in whatever order the
calls and the ticks get their turns, every row fits, a claim takes exactly the
due rows in state `ACTIVE`, and every run that a tick creates has parameters
that conform.
-/
theorem instance_rows_sound
    (initially :
      ∀ instanceId row,
        stored.instances.lookup instanceId = some row → SoundRow row)
    (reachable : Reachable cron stored pool) :
    (∀ instanceId row,
      pool.shared.jobInstance instanceId = some row → SoundRow row) ∧
    (∀ process nowIso batchSize catalog reply,
      (pool.shared.exec process (.claimDueInstances nowIso batchSize) =
          some (catalog, reply) →
        ClaimsDue pool.shared nowIso batchSize
          (pool.shared.instances.lockedByOther process) reply.listed) ∧
      (pool.shared.exec process (.listDueInstances nowIso batchSize) =
          some (catalog, reply) →
        ClaimsDue pool.shared nowIso batchSize (fun _ => false)
          reply.listed)) ∧
    ∀ label next runId run,
      (catalogSystem cron).step? pool label = some next →
      next.shared.run runId = some run →
      pool.shared.run runId ≠ some run →
      ∃ row,
        pool.shared.jobInstance run.instanceId = some row ∧
          CreatedFrom run row := by
  have known := reachable.rowsSound initially
  refine ⟨known.stored, ?_, ?_⟩
  · intro process nowIso batchSize catalog reply
    exact ⟨known.claimsDue_of_claim, known.claimsDue_of_dryRun⟩
  · intro label next runId run stepped found added
    obtain ⟨nowIso, row, stands, due, sameParams⟩ :=
      TicksHold.params_of_added reachable.ticksHold stepped found added
    have sound := known.stored run.instanceId row stands
    refine ⟨row, stands, (sound.due_iff.mp due).1, sameParams, ?_⟩
    rw [sameParams]
    exact sound.conforms

/-- Process 1 reads the row it resumes before process 2 deletes it. -/
def staleResume : List (Label CatalogInput) :=
  [startCall 1 (.resumeInstance "hourly"), proceedAt 1 1,
    startCall 2 (.deleteInstance "hourly"), proceedAt 2 2, proceedAt 2 3,
    proceedAt 1 4]

/-- The row that the deletion left is active again, in both columns. -/
theorem staleResume_rows_sound :
    ∃ pool,
      run? hourly storedHourly staleResume = some pool ∧
        ∀ instanceId row,
          pool.shared.jobInstance instanceId = some row → SoundRow row := by
  have finishes :
      ((run? hourly storedHourly staleResume).map fun pool =>
        (pool.shared.jobInstance "hourly").map JobInstance.state) =
          some (some .active) := by
    decide
  obtain ⟨pool, ran, -⟩ := Option.map_eq_some_iff.mp finishes
  refine ⟨pool, ran, (instance_rows_sound ?_ ⟨_, ran⟩).1⟩
  intro instanceId row found
  by_cases same : instanceId = "hourly"
  · subst same
    have shape : storedHourly.instances.lookup "hourly" =
        some hourlyInstance := by
      decide
    cases shape.symm.trans found
    refine ⟨⟨fun _ => rfl, fun _ => rfl⟩, ⟨?_, ?_⟩⟩
    · intro parameter declared
      exact (List.not_mem_nil declared).elim
    · intro parameter declared
      exact (List.not_mem_nil declared).elim
  · rw [storedHourly, AList.lookup_insert_ne same] at found
    cases found

end CatalogPool

end IgaScheduler

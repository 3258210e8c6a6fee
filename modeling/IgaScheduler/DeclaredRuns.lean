import IgaScheduler.RunProvenance

namespace IgaScheduler

open Relational Interleaving

/-!
# Runs of declared jobs

An instance keeps the version and the parameter schema of the definition it was
created for, which was active at the time, and its parameters fit that schema
through every patch.  So does every run that comes from an instance.
-/

/-- The version and the parameters fit this definition, which is active. -/
structure DefinitionDocument.Declares
    (document : DefinitionDocument)
    (version : Int)
    (parameters : Parameters) :
    Prop where
  active : CreateInstance.isActiveDefinition document = true
  version : document.version = version
  valid :
    validateParametersAgainstDefinition parameters document.parameters = none

/-- The row fits a definition that a lookup has once found. -/
def JobInstance.Declared
    (defined : String → Option DefinitionDocument → Prop)
    (row : JobInstance) :
    Prop :=
  ∃ document,
    defined row.definitionId (some document) ∧
      document.Declares row.definitionVersion row.parameters ∧
      row.definitionParameterSchema = document.parameters

/-- The run fits a definition that a lookup has once found. -/
def RunIdentity.Declared
    (defined : String → Option DefinitionDocument → Prop)
    (identity : RunIdentity) :
    Prop :=
  ∃ document version,
    defined identity.definitionId (some document) ∧
      identity.definitionVersion = some version ∧
      document.Declares version identity.params

namespace JobInstance.Declared

variable {defined defined' : String → Option DefinitionDocument → Prop}
variable {cron : CronParser}
variable {row existing : JobInstance}

theorem mono
    (declared : row.Declared defined)
    (more :
      ∀ definitionId found,
        defined definitionId found → defined' definitionId found) :
    row.Declared defined' := by
  obtain ⟨document, found, declares, schema⟩ := declared
  exact ⟨document, more _ _ found, declares, schema⟩

theorem of_prepare
    {definitionId : String}
    {body : InstanceInput}
    {environment : CatalogEnvironment}
    {definition : Option DefinitionDocument}
    {document : InstanceDocument}
    (found : defined definitionId definition)
    (prepared :
      CreateInstance.prepare cron definitionId body environment definition =
        .ok document) :
    document.toJobInstance.Declared defined := by
  unfold CreateInstance.prepare at prepared
  split at prepared
  · cases prepared
  · rename_i stored
    split at prepared
    · rename_i active
      split at prepared
      · cases prepared
      · unfold createdRow at prepared
        split at prepared
        · cases prepared
        · rename_i valid
          split at prepared <;> cases prepared
          exact ⟨stored, found, ⟨active, rfl, valid⟩, rfl⟩
    · cases prepared

/-- A patch validates against the schema that the instance has kept. -/
theorem of_rewrite
    {operation : InstanceOperation}
    (declared : existing.Declared defined)
    (written : EditInstance.rewrite cron existing operation = .ok row) :
    row.Declared defined := by
  obtain ⟨document, found, declares, schema⟩ := declared
  cases operation with
  | patched patch fromDate updatedAt =>
      obtain ⟨valid, nextFireAt, -, rfl⟩ := InstancePatch.row_eq_ok.mp written
      refine ⟨document, found, ⟨declares.active, declares.version, ?_⟩,
        schema⟩
      rw [← schema]
      cases given : patch.parameters with
      | none =>
          simp only [InstancePatch.merge, given, Option.getD_none, schema]
          exact declares.valid
      | some parameters =>
          rw [given] at valid
          simp only [InstancePatch.merge, given, Option.getD_some]
          exact valid
  | deleted updatedAt =>
      cases written
      exact ⟨document, found, declares, schema⟩
  | created created =>
      cases written
  | advanced nowIso =>
      cases written

theorem advanced
    (declared : row.Declared defined)
    (lastFireAt nextFireAt nowIso : Timestamp) :
    ((InstanceStore.advanceInstance lastFireAt nextFireAt nowIso).set
      row).Declared defined :=
  declared

end JobInstance.Declared

/-- What a service is about to write of an instance fits its definition. -/
def CatalogCall.Declared
    (defined : String → Option DefinitionDocument → Prop) :
    CatalogCall →
      Prop
  | .createInstance (.inserting document) =>
      document.toJobInstance.Declared defined
  | .editInstance (.updating _ _ _ row) => row.Declared defined
  | _ => True

section Calls

variable {defined defined' : String → Option DefinitionDocument → Prop}
variable {cron : CronParser}

theorem CatalogCall.Declared.mono
    {call : CatalogCall}
    (declared : call.Declared defined)
    (more :
      ∀ definitionId found,
        defined definitionId found → defined' definitionId found) :
    call.Declared defined' := by
  cases call with
  | createInstance call =>
      cases call with
      | inserting document =>
          exact JobInstance.Declared.mono declared more
      | start | done =>
          trivial
  | editInstance call =>
      cases call with
      | updating instanceId operation read row =>
          exact JobInstance.Declared.mono declared more
      | start | done =>
          trivial
  | _ =>
      trivial

theorem CatalogCall.Declared.brings
    {call : CatalogCall}
    {input : CatalogInput}
    {statement : CatalogStatement}
    {reply : CatalogReply}
    (declared : call.Declared defined)
    (issued : call.issue input = some statement) :
    statement.Brings (fun _ row => row.Declared defined) (fun _ _ => True)
      reply := by
  cases issues_of_issue issued with
  | instanceInsert document =>
      exact declared
  | instanceUpdate instanceId operation existing row =>
      exact fun _ _ => declared
  | tick call environment statement issued =>
      -- of the statements of a tick only `advanceInstance` writes an instance
      have ofTick := Tick.isStatement_of_issue issued
      cases statement with
      | advanceInstance instanceId lastFireAt nextFireAt nowIso =>
          exact fun old kept => kept.advanced lastFireAt nextFireAt nowIso
      | createRunTx document =>
          exact fun _ => trivial
      | createInstance | updateInstance =>
          cases ofTick
      | _ =>
          trivial
  | _ =>
      trivial

/-- The calls of a process that has just moved hand on declared instances. -/
theorem CatalogPool.declared_of_step
    {pool next : CatalogPool}
    {label : Label CatalogInput}
    (rows : pool.shared.instances.EveryRow fun _ row => row.Declared defined)
    (found :
      ∀ definitionId,
        defined definitionId (pool.shared.definition definitionId))
    (stepped : (catalogSystem cron).step? pool label = some next) :
    (next.locals label.1).Declared defined := by
  cases calling : next.locals label.1 with
  | createInstance call =>
      cases call with
      | inserting document =>
          obtain ⟨definitionId, _, _, prepared⟩ :=
            inserting_of_step stepped calling
          exact .of_prepare (found definitionId) prepared
      | start | done =>
          trivial
  | editInstance call =>
      cases call with
      | updating instanceId operation read row =>
          obtain ⟨stored, rewritten⟩ := updating_of_step stepped calling
          exact (rows.committed instanceId read stored).of_rewrite rewritten
      | start | done =>
          trivial
  | _ =>
      trivial

end Calls

namespace SchedulerPool

variable {cron : CronParser}
variable {stored : Stored}
variable {schedule : List (Label SchedulerInput)}
variable {pool next : SchedulerPool}

/-- A lookup of the definition has found this, or nothing, along the run. -/
def Defined
    (cron : CronParser)
    (stored : Stored)
    (schedule : List (Label SchedulerInput))
    (definitionId : String)
    (found : Option DefinitionDocument) :
    Prop :=
  Visited cron stored schedule fun visited =>
    visited.shared.catalog.definition definitionId = found

/-- Every instance fits its definition, and every service writes such rows. -/
structure Declared
    (defined : String → Option DefinitionDocument → Prop)
    (pool : SchedulerPool) :
    Prop where
  rows :
    pool.shared.catalog.instances.EveryRow fun _ row => row.Declared defined
  services : ∀ process, (pool.services.locals process).Declared defined

theorem Declared.step
    {defined : String → Option DefinitionDocument → Prop}
    {label : Label SchedulerInput}
    (declared : pool.Declared defined)
    (found :
      ∀ definitionId,
        defined definitionId
          (pool.shared.catalog.definition definitionId))
    (stepped : (schedulerSystem cron).step? pool label = some next) :
    next.Declared defined := by
  obtain ⟨rows, services⟩ := declared
  cases moved_of_step stepped with
  | @service process input taken =>
      obtain ⟨statement, reply, issued, executed, -⟩ :=
        CatalogPool.step_moves taken
      have every :
          pool.services.shared.EveryRow (fun _ row => row.Declared defined)
            fun _ _ => True :=
        ⟨rows, ⟨fun _ _ _ => trivial, fun _ _ _ _ => trivial,
          fun _ _ _ _ _ => trivial⟩⟩
      refine ⟨(Catalog.exec_every executed every
        ((services process).brings issued)).instances, ?_⟩
      intro other
      by_cases own : other = process
      · subst own
        exact CatalogPool.declared_of_step rows found taken
      · rw [System.step?_locals_other taken own]
        exact services other
  | @route process input formatted taken onServices =>
      obtain ⟨_, _, -, executed, -⟩ := System.step?_moves taken
      have same : next.shared.catalog.instances = _ :=
        (RunNow.exec_frame executed).1
      exact ⟨same ▸ rows, fun other => onServices ▸ services other⟩
  | runCall formatted taken sameInstances onServices =>
      exact ⟨sameInstances ▸ rows, fun other => onServices ▸ services other⟩

/-- What is stored at first fits the definitions that are stored at first. -/
structure StoredDeclared (stored : Stored) : Prop where
  instances :
    stored.instances.Every fun _ row =>
      row.Declared fun definitionId found =>
        stored.definitions.lookup definitionId = found
  runs :
    stored.runs.Every fun _ row =>
      row.identity.Declared fun definitionId found =>
        stored.definitions.lookup definitionId = found

theorem declared_of_run
    (initially : StoredDeclared stored)
    (ran : run? cron stored schedule = some pool) :
    pool.Declared (Defined cron stored schedule) := by
  refine System.run?_induction
    (fun earlier (visited : SchedulerPool) =>
      visited.Declared (Defined cron stored earlier))
    ?_ ?_ ran
  · refine ⟨.ofTable fun instanceId row found => ?_, fun _ => trivial⟩
    exact (initially.instances instanceId row found).mono
      fun definitionId found stands => .start stands
  · intro earlier visited next label ranEarlier known stepped
    have more
        (definitionId : String)
        (found : Option DefinitionDocument)
        (defined : Defined cron stored earlier definitionId found) :
        Defined cron stored (earlier ++ [label]) definitionId found :=
      defined.append [label]
    refine Declared.step ⟨?_, ?_⟩ ?_ stepped
    · exact known.rows.mono fun _ row declared => declared.mono more
    · exact fun process => (known.services process).mono more
    · exact fun definitionId =>
        more definitionId _ (System.Visits.final ranEarlier rfl)

/-- A row that an instance has held along the run fits its definition. -/
theorem declared_of_held
    (initially : StoredDeclared stored)
    {instanceId : String}
    {row : JobInstance}
    (held :
      Visited cron stored schedule fun visited =>
        visited.shared.catalog.jobInstance instanceId = some row) :
    row.Declared (Defined cron stored schedule) := by
  obtain ⟨earlier, later, visited, rfl, ran, found⟩ := held
  have declared :=
    (declared_of_run initially ran).rows.committed instanceId row found
  exact declared.mono fun definitionId found defined =>
    System.Visits.append defined later

/--
From first to last, no run is stored that nobody has declared: the definition
it names has once stood active and enabled in the version of the run, and the
parameters of the run fit the schema of that very document.
-/
theorem every_run_declared
    (initially : StoredDeclared stored)
    (ran : run? cron stored schedule = some pool)
    {runId : String}
    {row : JobRun}
    (found : pool.run runId = some row) :
    row.identity.Declared (Defined cron stored schedule) := by
  have descends := (sourced_of_run ran).rows.committed runId row found
  clear found
  generalize row.identity = identity at descends
  induction descends with
  | atFirst stood =>
      obtain ⟨first, storedFirst, rfl⟩ := stood
      obtain ⟨document, version, stands, sameVersion, declares⟩ :=
        initially.runs _ first storedFirst
      exact ⟨document, version, .start stands, sameVersion, declares⟩
  | tick held | runNow held =>
      obtain ⟨document, defined, declares, -⟩ :=
        declared_of_held initially held
      exact ⟨document, _, defined, rfl, declares⟩
  | redrive stored descends uuid createdAt inductionHypothesis =>
      exact inductionHypothesis

/-- The definition of the instance, which has no parameters. -/
def reportDefinition : DefinitionDocument where
  definitionId := "report"
  name := "Report"
  runtime := .javascript
  runtimeVersion := "20"
  wrapperVersion := "1"
  entrypoint := "main.js"
  parameters := []
  timeoutSeconds := 60
  memoryMb := none
  version := 1
  state := .active
  enabled := true
  jobZip := none
  validation := ⟨⟨1, 1⟩, 0⟩
  createdAt := 0
  updatedAt := 0

/-- The definition and its instance are stored, and nothing else. -/
def storedReport : Stored where
  definitions :=
    (∅ : Table String DefinitionDocument).insert "report"
      reportDefinition
  instances := (∅ : JobInstances).insert "hourly" hourlyInstance
  runs := ∅

theorem every_run_declared_redriveHourly :
    ∃ pool row,
      run? hourly storedReport (fireHourly ++ redriveHourly) = some pool ∧
        pool.run (hourlyRunId ++ ":redrive:" ++ redriveUuid.text) =
          some row ∧
        row.identity.Declared
          (Defined hourly storedReport (fireHourly ++ redriveHourly)) := by
  have outcome :
      ((run? hourly storedReport (fireHourly ++ redriveHourly)).bind
          fun pool =>
            pool.run (hourlyRunId ++ ":redrive:" ++ redriveUuid.text)).isSome =
        true := by
    decide
  have declared : StoredDeclared storedReport := by
    refine ⟨?_, .empty⟩
    refine Table.Every.insert .empty ⟨reportDefinition, ?_, ?_, rfl⟩
    · exact AList.lookup_insert _
    · exact ⟨rfl, rfl, rfl⟩
  obtain ⟨row, rest⟩ := Option.isSome_iff_exists.mp outcome
  obtain ⟨pool, ran, found⟩ := Option.bind_eq_some_iff.mp rest
  exact ⟨pool, row, ran, found, every_run_declared declared ran found⟩

end SchedulerPool

end IgaScheduler

import IgaScheduler.InstanceOperations
import IgaScheduler.JobRun

namespace IgaScheduler

open Relational

/-!
# Statements on definitions, instances and scheduled runs

The definitions index, the artifact bucket, `job_instances` and, for the runs a
tick creates, `job_runs`.  Each statement is atomic; those of a tick work in
one transaction over both tables.  Executing a statement also extends, as ghost
state, a log of the documents stored and the operations on instances that took
effect, newest first.
-/

/-- An effect the log remembers. -/
inductive CatalogEvent where
  /-- A document was stored, by an upload or by a partial update. -/
  | stored
      (definitionId : String)
      (document : DefinitionDocument)
  | operated
      (instanceId : String)
      (operation : InstanceOperation)
  deriving DecidableEq

/-- An object of the artifact bucket. -/
structure Artifact where
  definitionId : String
  sha256 : String
  generation : String
  deriving DecidableEq

/-- The stores behind the services, with the ghost log. -/
structure Catalog where
  definitions : Table String DefinitionDocument
  artifacts : Table String Artifact
  instances : Database String JobInstance
  runs : Database String JobRun
  log : List (Nat × CatalogEvent)

namespace Catalog

/-- The stored document of a definition. -/
def definition
    (catalog : Catalog)
    (definitionId : String) :
    Option DefinitionDocument :=
  catalog.definitions.lookup definitionId

/-- The committed row of an instance. -/
def jobInstance
    (catalog : Catalog)
    (instanceId : String) :
    Option JobInstance :=
  catalog.instances.committed.lookup instanceId

/-- The committed row of a run. -/
def run
    (catalog : Catalog)
    (runId : String) :
    Option JobRun :=
  catalog.runs.committed.lookup runId

end Catalog

/-- `rowToDocument` of `instanceStore.js`. -/
def instanceDocument
    (instanceId : String)
    (row : JobInstance) :
    InstanceDocument :=
  { row with instanceId := instanceId }

@[simp] theorem instanceDocument_toJobInstance
    (instanceId : String)
    (row : JobInstance) :
    (instanceDocument instanceId row).toJobInstance = row :=
  rfl

@[simp] theorem instanceDocument_instanceId
    (instanceId : String)
    (row : JobInstance) :
    (instanceDocument instanceId row).instanceId = instanceId :=
  rfl

/-- One statement of the services. -/
inductive CatalogStatement where
  /-- A step that touches no store. -/
  | skip
  | getDefinition (definitionId : String)
  /-- `es.create`, which refuses an id that exists. -/
  | createDefinition (document : DefinitionDocument)
  /-- `es.index`, which overwrites. -/
  | indexDefinition (document : DefinitionDocument)
  /-- `es.update` of `patchDefinition`. -/
  | patchDefinition
      (definitionId : String)
      (patch : DefinitionPatch)
      (now : Timestamp)
  /-- `es.update` of `deleteDefinition`. -/
  | deleteDefinition
      (definitionId : String)
      (now : Timestamp)
  | saveArtifact
      (path : String)
      (artifact : Artifact)
  | getArtifactMetadata (path : String)
  | deleteArtifact (path : String)
  | getInstance (instanceId : String)
  | createInstance (document : InstanceDocument)
  /-- `updateInstance`; the operation is what the log remembers. -/
  | updateInstance
      (instanceId : String)
      (row : JobInstance)
      (operation : InstanceOperation)
  | listInstancesForDefinition (definitionId : String)
  /-- `claimDueInstances` with `forUpdate: false`. -/
  | listDueInstances
      (nowIso : Timestamp)
      (batchSize : Nat)
  | begin
  | claimDueInstances
      (nowIso : Timestamp)
      (batchSize : Nat)
  | savepoint
  | createRunTx (document : RunDocument)
  | advanceInstance
      (instanceId : String)
      (lastFireAt nextFireAt nowIso : Timestamp)
  | releaseSavepoint
  | rollbackToSavepoint
  | commit
  | rollback

/-- What a statement answers. -/
inductive CatalogReply where
  | done
  | definition (found : Option DefinitionDocument)
  | generation (found : Option String)
  | jobInstance (found : Option InstanceDocument)
  | instances (found : List InstanceDocument)
  | flag (value : Bool)

namespace CatalogReply

/-- The document a lookup in the definitions index found. -/
def definition? : CatalogReply → Option DefinitionDocument
  | .definition found => found
  | _ => none

/-- The generation of an artifact that was found. -/
def generation? : CatalogReply → Option String
  | .generation found => found
  | _ => none

/-- The instance a `SELECT` found or an `UPDATE … RETURNING` wrote. -/
def jobInstance? : CatalogReply → Option InstanceDocument
  | .jobInstance found => found
  | _ => none

/-- The instances a listing returned. -/
def listed : CatalogReply → List InstanceDocument
  | .instances found => found
  | _ => []

/-- Whether a conditional write took effect. -/
def written : CatalogReply → Bool
  | .flag value => value
  | _ => false

end CatalogReply

namespace Catalog

/-- All rows that reference a definition, newest first. -/
def listInstancesForDefinition
    (catalog : Catalog)
    (definitionId : String) :
    List InstanceDocument :=
  (catalog.instances.committed.select
      (fun _ row => row.definitionId = definitionId)
      (fun row => -row.updatedAt)
      catalog.instances.committed.entries.length).map
    fun entry => instanceDocument entry.1 entry.2

/-- Replace the stored document of a definition, if there is one. -/
def updateDefinition
    (catalog : Catalog)
    (definitionId : String)
    (change : DefinitionDocument → DefinitionDocument) :
    Catalog × CatalogReply :=
  match catalog.definition definitionId with
  | none => (catalog, .flag false)
  | some document =>
      ({ catalog with
          definitions :=
            catalog.definitions.insert definitionId (change document) },
        .flag true)

/-- A statement of a transaction that both tables take part in. -/
def inTransaction?
    (catalog : Catalog)
    (onInstances :
      Database String JobInstance → Option (Database String JobInstance))
    (onRuns : Database String JobRun → Option (Database String JobRun)) :
    Option (Catalog × CatalogReply) :=
  (onInstances catalog.instances).bind fun instances =>
    (onRuns catalog.runs).map fun runs =>
      ({ catalog with instances := instances, runs := runs }, .done)

/-- The effect of one statement of a process; `none` while it has to wait. -/
def perform
    (process : Nat)
    (catalog : Catalog) :
    CatalogStatement →
      Option (Catalog × CatalogReply)
  | .skip => some (catalog, .done)
  | .getDefinition definitionId =>
      some (catalog, .definition (catalog.definition definitionId))
  | .createDefinition document =>
      match catalog.definition document.definitionId with
      | some _ => some (catalog, .flag false)
      | none =>
          some ({ catalog with
              definitions :=
                catalog.definitions.insert document.definitionId document },
            .flag true)
  | .indexDefinition document =>
      some ({ catalog with
          definitions :=
            catalog.definitions.insert document.definitionId document },
        .flag true)
  | .patchDefinition definitionId patch now =>
      some (catalog.updateDefinition definitionId (patch.apply now))
  | .deleteDefinition definitionId now =>
      some (catalog.updateDefinition definitionId (markDeleted now))
  | .saveArtifact path artifact =>
      some ({ catalog with
          artifacts := catalog.artifacts.insert path artifact },
        .done)
  | .getArtifactMetadata path =>
      some (catalog,
        .generation ((catalog.artifacts.lookup path).map
          Artifact.generation))
  | .deleteArtifact path =>
      some ({ catalog with artifacts := catalog.artifacts.erase path },
        .done)
  | .getInstance instanceId =>
      some (catalog,
        .jobInstance ((catalog.jobInstance instanceId).map
          (instanceDocument instanceId)))
  | .createInstance document =>
      (catalog.instances.upsert? document.instanceId
          document.toJobInstance InstanceStore.replaceable).map
        fun (instances, stored) =>
          ({ catalog with instances := instances }, .flag stored)
  | .updateInstance instanceId row _ =>
      (catalog.instances.update? instanceId
          (InstanceStore.updateInstance row)).map
        fun (instances, returned) =>
          ({ catalog with instances := instances },
            .jobInstance (returned.map (instanceDocument instanceId)))
  | .listInstancesForDefinition definitionId =>
      some (catalog,
        .instances (catalog.listInstancesForDefinition definitionId))
  | .listDueInstances nowIso batchSize =>
      some (catalog,
        .instances ((catalog.instances.committed.select
            (fun _ row => InstanceStore.due nowIso row)
            (fun row => row.nextFireAt.getD 0) batchSize).map
          fun entry => instanceDocument entry.1 entry.2))
  | .begin =>
      catalog.inTransaction?
        (fun instances => some (instances.begin process))
        (fun runs => some (runs.begin process))
  | .claimDueInstances nowIso batchSize =>
      (catalog.instances.selectForUpdate? process
          (InstanceStore.due nowIso)
          (fun row => row.nextFireAt.getD 0) batchSize).map
        fun (instances, rows) =>
          ({ catalog with instances := instances },
            .instances (rows.map fun entry =>
              instanceDocument entry.1 entry.2))
  | .savepoint =>
      catalog.inTransaction?
        (·.savepoint? process) (·.savepoint? process)
  | .createRunTx document =>
      (catalog.runs.insertIn? process document.runId
          (documentToRow document)).map
        fun (runs, created) =>
          ({ catalog with runs := runs }, .flag created)
  | .advanceInstance instanceId lastFireAt nextFireAt nowIso =>
      (catalog.instances.updateIn? process instanceId
          (InstanceStore.advanceInstance lastFireAt nextFireAt nowIso)).map
        fun (instances, _) =>
          ({ catalog with instances := instances }, .done)
  | .releaseSavepoint =>
      catalog.inTransaction? (·.release? process) (·.release? process)
  | .rollbackToSavepoint =>
      catalog.inTransaction?
        (·.rollbackTo? process) (·.rollbackTo? process)
  | .commit =>
      catalog.inTransaction? (·.commit? process) (·.commit? process)
  | .rollback =>
      catalog.inTransaction?
        (fun instances => some (instances.rollback process))
        (fun runs => some (runs.rollback process))

end Catalog

/-- The events of a statement that a process executes. -/
def CatalogStatement.events
    (process : Nat)
    (catalog : Catalog) :
    CatalogStatement →
      List CatalogEvent
  | .createDefinition document =>
      if (catalog.definition document.definitionId).isSome then
        []
      else
        [.stored document.definitionId document]
  | .indexDefinition document => [.stored document.definitionId document]
  | .patchDefinition definitionId patch now =>
      ((catalog.definition definitionId).map fun document =>
        .stored definitionId (patch.apply now document)).toList
  | .deleteDefinition definitionId now =>
      ((catalog.definition definitionId).map fun document =>
        .stored definitionId (markDeleted now document)).toList
  | .createInstance document =>
      if (catalog.jobInstance document.instanceId).all
          InstanceStore.replaceable then
        [.operated document.instanceId (.created document.toJobInstance)]
      else
        []
  | .updateInstance instanceId _ operation =>
      if (catalog.jobInstance instanceId).isSome then
        [.operated instanceId operation]
      else
        []
  | .commit =>
      match catalog.instances.transactions.lookup process with
      | none => []
      | some transaction =>
          transaction.writes.entries.map fun entry =>
            .operated entry.1 (.advanced entry.2.updatedAt)
  | _ => []

/-- The document of a definition that an event records, if it records one. -/
def CatalogEvent.document?
    (definitionId : String) :
    CatalogEvent →
      Option DefinitionDocument
  | .stored owner document =>
      if owner = definitionId then some document else none
  | _ => none

/-- The documents of a definition that a statement stores. -/
def CatalogStatement.documents
    (process : Nat)
    (catalog : Catalog)
    (definitionId : String)
    (statement : CatalogStatement) :
    List DefinitionDocument :=
  (statement.events process catalog).filterMap
    (CatalogEvent.document? definitionId)

/-- The operation on an instance that an event records, if it records one. -/
def CatalogEvent.operation?
    (instanceId : String) :
    CatalogEvent →
      Option InstanceOperation
  | .operated owner operation =>
      if owner = instanceId then some operation else none
  | _ => none

/-- The operations on an instance that a statement completes. -/
def CatalogStatement.operations
    (process : Nat)
    (catalog : Catalog)
    (instanceId : String)
    (statement : CatalogStatement) :
    List InstanceOperation :=
  (statement.events process catalog).filterMap
    (CatalogEvent.operation? instanceId)

namespace Catalog

/-- The operations on an instance that took effect, newest first. -/
def operations
    (catalog : Catalog)
    (instanceId : String) :
    List InstanceOperation :=
  (catalog.log.map Prod.snd).filterMap (CatalogEvent.operation? instanceId)

/-- The documents of a definition that have been stored, newest first. -/
def documents
    (catalog : Catalog)
    (definitionId : String) :
    List DefinitionDocument :=
  (catalog.log.map Prod.snd).filterMap (CatalogEvent.document? definitionId)

/-- Execute a statement and log what took effect. -/
def exec
    (process : Nat)
    (statement : CatalogStatement)
    (catalog : Catalog) :
    Option (Catalog × CatalogReply) :=
  (catalog.perform process statement).map fun (next, reply) =>
    ({ next with
        log :=
          (statement.events process catalog).map
            (fun event => (process, event)) ++ catalog.log },
      reply)

/-! ## What a statement can do -/

theorem exec_eq_some
    {process : Nat}
    {statement : CatalogStatement}
    {catalog next : Catalog}
    {reply : CatalogReply}
    (executed : catalog.exec process statement = some (next, reply)) :
    ∃ performed,
      catalog.perform process statement = some (performed, reply) ∧
        next = { performed with
          log :=
            (statement.events process catalog).map
              (fun event => (process, event)) ++ catalog.log } := by
  obtain ⟨⟨performed, answered⟩, ran, shape⟩ :=
    Option.map_eq_some_iff.mp executed
  simp only [Prod.mk.injEq] at shape
  obtain ⟨rfl, rfl⟩ := shape
  exact ⟨performed, ran, rfl⟩

theorem exec_log
    {process : Nat}
    {statement : CatalogStatement}
    {catalog next : Catalog}
    {reply : CatalogReply}
    (executed : catalog.exec process statement = some (next, reply)) :
    next.log =
      (statement.events process catalog).map
        (fun event => (process, event)) ++ catalog.log := by
  obtain ⟨performed, -, rfl⟩ := exec_eq_some executed
  rfl

/-- The operations of a statement come on top of the earlier ones. -/
theorem exec_operations
    {process : Nat}
    {statement : CatalogStatement}
    {catalog next : Catalog}
    {reply : CatalogReply}
    (executed : catalog.exec process statement = some (next, reply))
    (instanceId : String) :
    next.operations instanceId =
      statement.operations process catalog instanceId ++
        catalog.operations instanceId := by
  unfold operations CatalogStatement.operations
  rw [exec_log executed, List.map_append, List.filterMap_append,
    List.map_map]
  congr 2
  exact List.map_id _

/-- The documents a statement stores come on top of the earlier ones. -/
theorem exec_documents
    {process : Nat}
    {statement : CatalogStatement}
    {catalog next : Catalog}
    {reply : CatalogReply}
    (executed : catalog.exec process statement = some (next, reply))
    (definitionId : String) :
    next.documents definitionId =
      statement.documents process catalog definitionId ++
        catalog.documents definitionId := by
  unfold documents CatalogStatement.documents
  rw [exec_log executed, List.map_append, List.filterMap_append,
    List.map_map]
  congr 2
  exact List.map_id _

theorem inTransaction?_eq_some
    {catalog next : Catalog}
    {reply : CatalogReply}
    {onInstances :
      Database String JobInstance → Option (Database String JobInstance)}
    {onRuns : Database String JobRun → Option (Database String JobRun)}
    (done :
      catalog.inTransaction? onInstances onRuns = some (next, reply)) :
    ∃ instances runs,
      onInstances catalog.instances = some instances ∧
        onRuns catalog.runs = some runs ∧
        next = { catalog with instances := instances, runs := runs } := by
  obtain ⟨instances, onFirst, rest⟩ := Option.bind_eq_some_iff.mp done
  obtain ⟨runs, onSecond, shape⟩ := Option.map_eq_some_iff.mp rest
  cases shape
  exact ⟨instances, runs, onFirst, onSecond, rfl⟩

end Catalog

end IgaScheduler

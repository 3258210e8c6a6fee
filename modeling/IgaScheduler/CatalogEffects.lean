import IgaScheduler.CatalogStatements

namespace IgaScheduler

open Relational

/-!
# What one statement changes

Each statement is read off once for each store: how it can leave the document
of a definition, the committed row of an instance and that of a run, and that
it respects the locks and the transactions of everybody else.
-/

namespace Catalog

/--
How one statement can leave the document of a definition, and the documents of
it that the statement stores.
-/
inductive DefinitionEffect
    (catalog : Catalog)
    (definitionId : String) :
    CatalogStatement →
      List DefinitionDocument →
      Option DefinitionDocument →
      Prop where
  | kept
      (statement : CatalogStatement) :
      DefinitionEffect catalog definitionId statement []
        (catalog.definition definitionId)
  | created
      (document : DefinitionDocument)
      (sameDefinition : document.definitionId = definitionId)
      (absent : catalog.definition definitionId = none) :
      DefinitionEffect catalog definitionId
        (.createDefinition document) [document] (some document)
  | indexed
      (document : DefinitionDocument)
      (sameDefinition : document.definitionId = definitionId) :
      DefinitionEffect catalog definitionId
        (.indexDefinition document) [document] (some document)
  | patched
      (patch : DefinitionPatch)
      (now : Timestamp)
      (document : DefinitionDocument)
      (found : catalog.definition definitionId = some document) :
      DefinitionEffect catalog definitionId
        (.patchDefinition definitionId patch now)
        [patch.apply now document] (some (patch.apply now document))
  | deleted
      (now : Timestamp)
      (document : DefinitionDocument)
      (found : catalog.definition definitionId = some document) :
      DefinitionEffect catalog definitionId
        (.deleteDefinition definitionId now)
        [markDeleted now document] (some (markDeleted now document))

/--
How one statement can leave the committed row of an instance, and the
operations on it that the statement completes.
-/
inductive InstanceEffect
    (process : Nat)
    (catalog : Catalog)
    (instanceId : String) :
    CatalogStatement →
      List InstanceOperation →
      Option JobInstance →
      Prop where
  | kept
      (statement : CatalogStatement) :
      InstanceEffect process catalog instanceId statement []
        (catalog.jobInstance instanceId)
  | created
      (document : InstanceDocument)
      (sameInstance : document.instanceId = instanceId)
      (replaceable :
        (catalog.jobInstance instanceId).all InstanceStore.replaceable =
          true) :
      InstanceEffect process catalog instanceId
        (.createInstance document) [.created document.toJobInstance]
        (some document.toJobInstance)
  | updated
      (row existing : JobInstance)
      (operation : InstanceOperation)
      (found : catalog.jobInstance instanceId = some existing) :
      InstanceEffect process catalog instanceId
        (.updateInstance instanceId row operation) [operation] (some row)
  | published
      (transaction : Transaction String JobInstance)
      (row : JobInstance)
      (opened :
        catalog.instances.transactions.lookup process = some transaction)
      (written : transaction.writes.lookup instanceId = some row) :
      InstanceEffect process catalog instanceId .commit
        [.advanced row.updatedAt] (some row)

/-- How one statement can leave the committed row of a run. -/
inductive ScheduledRunEffect
    (process : Nat)
    (catalog : Catalog)
    (runId : String) :
    CatalogStatement →
      Option JobRun →
      Prop where
  | kept
      (statement : CatalogStatement) :
      ScheduledRunEffect process catalog runId statement (catalog.run runId)
  | published
      (transaction : Transaction String JobRun)
      (row : JobRun)
      (opened :
        catalog.runs.transactions.lookup process = some transaction)
      (written : transaction.writes.lookup runId = some row) :
      ScheduledRunEffect process catalog runId .commit (some row)

/-- Storing a document under its id reaches that id and no other. -/
theorem definition_insert
    (catalog : Catalog)
    (document : DefinitionDocument)
    (definitionId : String) :
    ({ catalog with
        definitions :=
          catalog.definitions.insert document.definitionId
            document } : Catalog).definition definitionId =
      if document.definitionId = definitionId then
        some document
      else
        catalog.definition definitionId := by
  by_cases same : document.definitionId = definitionId
  · simp [definition, same]
  · simp [definition, same, AList.lookup_insert_ne (Ne.symm same)]

/-- An update of a stored document reaches that document and no other. -/
theorem definition_updateDefinition
    (catalog : Catalog)
    (definitionId other : String)
    (change : DefinitionDocument → DefinitionDocument) :
    (catalog.updateDefinition definitionId change).1.definition other =
      if definitionId = other then
        (catalog.definition definitionId).map change
      else
        catalog.definition other := by
  unfold updateDefinition
  cases found : catalog.definition definitionId with
  | none =>
      by_cases same : definitionId = other
      · subst other
        simp [found]
      · simp [same]
  | some document =>
      by_cases same : definitionId = other
      · subst other
        simp [definition]
      · simp [definition, same, AList.lookup_insert_ne (Ne.symm same)]

/-- A statement that updates one definition leaves the others. -/
theorem definitionEffect_updateDefinition
    {process : Nat}
    {statement : CatalogStatement}
    {catalog : Catalog}
    {owner definitionId : String}
    {change : DefinitionDocument → DefinitionDocument}
    (events :
      statement.events process catalog =
        ((catalog.definition owner).map fun document =>
          .stored owner (change document)).toList)
    (changed :
      ∀ document,
        catalog.definition owner = some document →
        owner = definitionId →
        DefinitionEffect catalog definitionId statement [change document]
          (some (change document))) :
    DefinitionEffect catalog definitionId statement
      (statement.documents process catalog definitionId)
      ((catalog.updateDefinition owner change).1.definition
        definitionId) := by
  have kept :
      DefinitionEffect catalog definitionId statement []
        (catalog.definition definitionId) :=
    .kept statement
  rw [definition_updateDefinition, CatalogStatement.documents, events]
  by_cases same : owner = definitionId
  · subst same
    rw [if_pos rfl]
    cases found : catalog.definition owner with
    | none =>
        rw [found] at kept
        exact kept
    | some document =>
        rw [Option.map_some, Option.toList_some, List.filterMap_cons,
          CatalogEvent.document?, if_pos rfl]
        exact changed document found rfl
  · rw [if_neg same]
    cases catalog.definition owner with
    | none =>
        exact kept
    | some document =>
        rw [Option.map_some, Option.toList_some, List.filterMap_cons,
          CatalogEvent.document?, if_neg same]
        exact kept

/-- Every statement has one of the five effects on every definition. -/
theorem perform_definitionEffect
    {process : Nat}
    {statement : CatalogStatement}
    {catalog next : Catalog}
    {reply : CatalogReply}
    (performed : catalog.perform process statement = some (next, reply))
    (definitionId : String) :
    DefinitionEffect catalog definitionId statement
      (statement.documents process catalog definitionId)
      (next.definition definitionId) := by
  have untouched
      (same : next.definitions = catalog.definitions)
      (silent : statement.documents process catalog definitionId = []) :
      DefinitionEffect catalog definitionId statement
        (statement.documents process catalog definitionId)
        (next.definition definitionId) := by
    rw [silent, definition, same]
    exact .kept statement
  cases statement with
  | createDefinition document =>
      simp only [perform] at performed
      split at performed
      · rename_i stored found
        cases performed
        exact untouched rfl
          (by simp [CatalogStatement.documents, CatalogStatement.events,
            found])
      · rename_i absent
        cases performed
        rw [definition_insert]
        simp only [CatalogStatement.documents, CatalogStatement.events,
          absent, Option.isSome_none, Bool.false_eq_true, if_false,
          List.filterMap_cons, CatalogEvent.document?, List.filterMap_nil]
        by_cases sameDefinition : document.definitionId = definitionId
        · simp only [sameDefinition, if_true]
          exact .created document sameDefinition (sameDefinition ▸ absent)
        · simp only [sameDefinition, if_false]
          exact .kept _
  | indexDefinition document =>
      cases performed
      rw [definition_insert]
      simp only [CatalogStatement.documents, CatalogStatement.events,
        List.filterMap_cons, CatalogEvent.document?, List.filterMap_nil]
      by_cases sameDefinition : document.definitionId = definitionId
      · simp only [sameDefinition, if_true]
        exact .indexed document sameDefinition
      · simp only [sameDefinition, if_false]
        exact .kept _
  | patchDefinition owner patch now =>
      obtain rfl : _ = next := congrArg Prod.fst (Option.some.inj performed)
      apply definitionEffect_updateDefinition rfl
      rintro document found rfl
      exact .patched patch now document found
  | deleteDefinition owner now =>
      obtain rfl : _ = next := congrArg Prod.fst (Option.some.inj performed)
      apply definitionEffect_updateDefinition rfl
      rintro document found rfl
      exact .deleted now document found
  | createInstance document =>
      obtain ⟨_, _, shape⟩ := Option.map_eq_some_iff.mp performed
      cases shape
      refine untouched rfl ?_
      simp only [CatalogStatement.documents, CatalogStatement.events]
      split <;> rfl
  | updateInstance owner row operation =>
      obtain ⟨_, _, shape⟩ := Option.map_eq_some_iff.mp performed
      cases shape
      refine untouched rfl ?_
      simp only [CatalogStatement.documents, CatalogStatement.events]
      split <;> rfl
  | claimDueInstances | createRunTx | advanceInstance =>
      obtain ⟨_, _, shape⟩ := Option.map_eq_some_iff.mp performed
      cases shape
      exact untouched rfl rfl
  | begin | savepoint | releaseSavepoint | rollbackToSavepoint | rollback =>
      simp only [perform] at performed
      obtain ⟨_, _, -, -, rfl⟩ := inTransaction?_eq_some performed
      exact untouched rfl rfl
  | commit =>
      simp only [perform] at performed
      obtain ⟨_, _, -, -, rfl⟩ := inTransaction?_eq_some performed
      refine untouched rfl ?_
      simp only [CatalogStatement.documents, CatalogStatement.events]
      split
      · rfl
      · rw [List.filterMap_map]
        exact List.filterMap_eq_nil_iff.mpr fun entry _ => rfl
  | _ =>
      cases performed
      exact untouched rfl rfl

/-- A commit completes one advance of each instance it has written. -/
theorem operations_commit
    {process : Nat}
    {catalog : Catalog}
    {transaction : Transaction String JobInstance}
    (opened :
      catalog.instances.transactions.lookup process = some transaction)
    (instanceId : String) :
    CatalogStatement.operations process catalog instanceId .commit =
      ((transaction.writes.lookup instanceId).map fun row =>
        .advanced row.updatedAt).toList := by
  rw [← Table.filterMap_entries]
  simp only [CatalogStatement.operations, CatalogStatement.events, opened,
    List.filterMap_map]
  rfl

/-- An insert is refused by a row that must not be replaced. -/
theorem stored_iff_replaceable
    {catalog : Catalog}
    {document : InstanceDocument}
    {instances : Database String JobInstance}
    {stored : Bool}
    (upserted :
      catalog.instances.upsert? document.instanceId document.toJobInstance
          InstanceStore.replaceable =
        some (instances, stored)) :
    stored = true ↔
      (catalog.jobInstance document.instanceId).all
        InstanceStore.replaceable = true := by
  rw [Option.all_eq_true]
  exact (Database.upsert?_eq_some upserted).2.2.1

/-- An insert creates the instance in place of nothing or of a deleted row. -/
theorem instanceEffect_createInstance
    {process : Nat}
    {document : InstanceDocument}
    {catalog next : Catalog}
    {reply : CatalogReply}
    (performed :
      catalog.perform process (.createInstance document) =
        some (next, reply))
    (instanceId : String) :
    InstanceEffect process catalog instanceId (.createInstance document)
      (CatalogStatement.operations process catalog instanceId
        (.createInstance document))
      (next.jobInstance instanceId) := by
  obtain ⟨⟨instances, stored⟩, upserted, shape⟩ :=
    Option.map_eq_some_iff.mp performed
  cases shape
  obtain ⟨-, -, -, rows⟩ := Database.upsert?_eq_some upserted
  change InstanceEffect process catalog instanceId _ _
    (instances.committed.lookup instanceId)
  have isStored := stored_iff_replaceable upserted
  rw [rows]
  by_cases sameInstance : instanceId = document.instanceId
  · subst sameInstance
    by_cases replaceable :
        (catalog.jobInstance document.instanceId).all
          InstanceStore.replaceable = true
    · have single :
          CatalogStatement.operations process catalog
              document.instanceId (.createInstance document) =
            [.created document.toJobInstance] := by
        simp [CatalogStatement.operations, CatalogStatement.events,
          CatalogEvent.operation?, replaceable]
      rw [single, if_pos ⟨rfl, isStored.mpr replaceable⟩]
      exact .created document rfl replaceable
    · have silent :
          CatalogStatement.operations process catalog
              document.instanceId (.createInstance document) =
            [] := by
        simp [CatalogStatement.operations, CatalogStatement.events,
          replaceable]
      rw [silent, if_neg fun taken => replaceable (isStored.mp taken.2)]
      exact .kept _
  · have silent :
        CatalogStatement.operations process catalog instanceId
            (.createInstance document) =
          [] := by
      simp only [CatalogStatement.operations, CatalogStatement.events]
      split
      · simp [CatalogEvent.operation?, Ne.symm sameInstance]
      · rfl
    rw [silent, if_neg fun taken => sameInstance taken.1]
    exact .kept _

/-- An update writes its row over the stored one, if there is one. -/
theorem instanceEffect_updateInstance
    {process : Nat}
    {owner : String}
    {row : JobInstance}
    {operation : InstanceOperation}
    {catalog next : Catalog}
    {reply : CatalogReply}
    (performed :
      catalog.perform process (.updateInstance owner row operation) =
        some (next, reply))
    (instanceId : String) :
    InstanceEffect process catalog instanceId
      (.updateInstance owner row operation)
      (CatalogStatement.operations process catalog instanceId
        (.updateInstance owner row operation))
      (next.jobInstance instanceId) := by
  obtain ⟨⟨instances, returned⟩, updated, shape⟩ :=
    Option.map_eq_some_iff.mp performed
  cases shape
  obtain ⟨-, -, -, rows⟩ := Database.update?_eq_some updated
  change InstanceEffect process catalog instanceId _ _
    (instances.committed.lookup instanceId)
  rw [rows]
  by_cases sameInstance : instanceId = owner
  · subst sameInstance
    rw [if_pos rfl]
    change InstanceEffect process catalog instanceId _ _
      ((catalog.jobInstance instanceId).map _)
    cases found : catalog.jobInstance instanceId with
    | none =>
        have silent :
            CatalogStatement.operations process catalog instanceId
                (.updateInstance instanceId row operation) =
              [] := by
          simp [CatalogStatement.operations, CatalogStatement.events,
            found]
        rw [silent, Option.map_none, ← found]
        exact .kept _
    | some existing =>
        have single :
            CatalogStatement.operations process catalog instanceId
                (.updateInstance instanceId row operation) =
              [operation] := by
          simp [CatalogStatement.operations, CatalogStatement.events,
            CatalogEvent.operation?, found]
        rw [single]
        exact .updated row existing operation found
  · have silent :
        CatalogStatement.operations process catalog instanceId
            (.updateInstance owner row operation) =
          [] := by
      simp only [CatalogStatement.operations, CatalogStatement.events]
      split
      · simp [CatalogEvent.operation?, Ne.symm sameInstance]
      · rfl
    rw [silent, if_neg sameInstance]
    exact .kept _

/-- Every statement has one of the four effects on every instance. -/
theorem perform_instanceEffect
    {process : Nat}
    {statement : CatalogStatement}
    {catalog next : Catalog}
    {reply : CatalogReply}
    (performed : catalog.perform process statement = some (next, reply))
    (instanceId : String) :
    InstanceEffect process catalog instanceId statement
      (statement.operations process catalog instanceId)
      (next.jobInstance instanceId) := by
  have untouched
      (same : next.instances.committed = catalog.instances.committed)
      (silent :
        statement.operations process catalog instanceId = []) :
      InstanceEffect process catalog instanceId statement
        (statement.operations process catalog instanceId)
        (next.jobInstance instanceId) := by
    rw [silent, jobInstance, same]
    exact .kept statement
  cases statement with
  | createDefinition document =>
      have silent :
          CatalogStatement.operations process catalog instanceId
              (.createDefinition document) =
            [] := by
        simp only [CatalogStatement.operations, CatalogStatement.events]
        split <;> rfl
      simp only [perform] at performed
      split at performed <;> cases performed
      · exact untouched rfl silent
      · exact untouched rfl silent
  | patchDefinition owner patch now | deleteDefinition owner now =>
      simp only [perform, updateDefinition] at performed
      split at performed <;> cases performed
      · rename_i absent
        exact untouched rfl
          (by simp [CatalogStatement.operations, CatalogStatement.events,
            absent])
      · rename_i document found
        exact untouched rfl
          (by simp [CatalogStatement.operations, CatalogStatement.events,
            found, CatalogEvent.operation?])
  | createInstance document =>
      exact instanceEffect_createInstance performed instanceId
  | updateInstance owner row operation =>
      exact instanceEffect_updateInstance performed instanceId
  | claimDueInstances nowIso batchSize =>
      obtain ⟨_, selected, shape⟩ := Option.map_eq_some_iff.mp performed
      cases shape
      exact untouched (Database.selectForUpdate?_eq_some selected).2.1 rfl
  | createRunTx document =>
      obtain ⟨_, _, shape⟩ := Option.map_eq_some_iff.mp performed
      cases shape
      exact untouched rfl rfl
  | advanceInstance owner lastFireAt nextFireAt nowIso =>
      obtain ⟨_, updated, shape⟩ := Option.map_eq_some_iff.mp performed
      cases shape
      exact untouched (Database.updateIn?_eq_some updated).1 rfl
  | begin | rollback =>
      simp only [perform] at performed
      obtain ⟨_, _, began, -, rfl⟩ := inTransaction?_eq_some performed
      cases began
      exact untouched rfl rfl
  | savepoint =>
      simp only [perform] at performed
      obtain ⟨_, _, saved, -, rfl⟩ := inTransaction?_eq_some performed
      exact untouched (Database.savepoint?_eq_some saved).1 rfl
  | releaseSavepoint =>
      simp only [perform] at performed
      obtain ⟨_, _, released, -, rfl⟩ := inTransaction?_eq_some performed
      exact untouched (Database.release?_eq_some released).1 rfl
  | rollbackToSavepoint =>
      simp only [perform] at performed
      obtain ⟨_, _, restored, -, rfl⟩ := inTransaction?_eq_some performed
      exact untouched (Database.rollbackTo?_eq_some restored).1 rfl
  | commit =>
      simp only [perform] at performed
      obtain ⟨instances, _, committed, -, rfl⟩ :=
        inTransaction?_eq_some performed
      obtain ⟨transaction, opened, -, rows⟩ :=
        Database.commit?_eq_some committed
      change InstanceEffect process catalog instanceId _ _
        (instances.committed.lookup instanceId)
      rw [rows, operations_commit opened]
      cases written : transaction.writes.lookup instanceId with
      | none =>
          exact .kept _
      | some row =>
          exact .published transaction row opened written
  | _ =>
      cases performed
      exact untouched rfl rfl

/-- Only the commit of a tick changes a committed run. -/
theorem perform_runEffect
    {process : Nat}
    {statement : CatalogStatement}
    {catalog next : Catalog}
    {reply : CatalogReply}
    (performed : catalog.perform process statement = some (next, reply))
    (runId : String) :
    ScheduledRunEffect process catalog runId statement (next.run runId) := by
  have untouched
      (same : next.runs.committed = catalog.runs.committed) :
      ScheduledRunEffect process catalog runId statement
        (next.run runId) := by
    rw [run, same]
    exact .kept statement
  cases statement with
  | createDefinition document =>
      simp only [perform] at performed
      split at performed <;> cases performed
      · exact untouched rfl
      · exact untouched rfl
  | patchDefinition owner patch now | deleteDefinition owner now =>
      simp only [perform, updateDefinition] at performed
      split at performed <;> cases performed
      · exact untouched rfl
      · exact untouched rfl
  | createInstance | updateInstance | claimDueInstances |
      advanceInstance =>
      obtain ⟨_, _, shape⟩ := Option.map_eq_some_iff.mp performed
      cases shape
      exact untouched rfl
  | createRunTx document =>
      obtain ⟨_, inserted, shape⟩ := Option.map_eq_some_iff.mp performed
      cases shape
      exact untouched (Database.insertIn?_eq_some inserted).1
  | begin | rollback =>
      simp only [perform] at performed
      obtain ⟨_, _, -, began, rfl⟩ := inTransaction?_eq_some performed
      cases began
      exact untouched rfl
  | savepoint =>
      simp only [perform] at performed
      obtain ⟨_, _, -, saved, rfl⟩ := inTransaction?_eq_some performed
      exact untouched (Database.savepoint?_eq_some saved).1
  | releaseSavepoint =>
      simp only [perform] at performed
      obtain ⟨_, _, -, released, rfl⟩ := inTransaction?_eq_some performed
      exact untouched (Database.release?_eq_some released).1
  | rollbackToSavepoint =>
      simp only [perform] at performed
      obtain ⟨_, _, -, restored, rfl⟩ := inTransaction?_eq_some performed
      exact untouched (Database.rollbackTo?_eq_some restored).1
  | commit =>
      simp only [perform] at performed
      obtain ⟨_, runs, -, committed, rfl⟩ :=
        inTransaction?_eq_some performed
      obtain ⟨transaction, opened, -, rows⟩ :=
        Database.commit?_eq_some committed
      change ScheduledRunEffect process catalog runId _
        (runs.committed.lookup runId)
      rw [rows]
      cases written : transaction.writes.lookup runId with
      | none =>
          exact .kept _
      | some row =>
          exact .published transaction row opened written
  | _ =>
      cases performed
      exact untouched rfl

/-- No statement disturbs the transactions of another process. -/
theorem perform_respects
    {process : Nat}
    {statement : CatalogStatement}
    {catalog next : Catalog}
    {reply : CatalogReply}
    (performed : catalog.perform process statement = some (next, reply)) :
    Database.Respects process catalog.instances next.instances ∧
      Database.Respects process catalog.runs next.runs := by
  cases statement with
  | createDefinition document =>
      simp only [perform] at performed
      split at performed <;> cases performed
      · exact ⟨.refl _ _, .refl _ _⟩
      · exact ⟨.refl _ _, .refl _ _⟩
  | patchDefinition owner patch now | deleteDefinition owner now =>
      simp only [perform, updateDefinition] at performed
      split at performed <;> cases performed
      · exact ⟨.refl _ _, .refl _ _⟩
      · exact ⟨.refl _ _, .refl _ _⟩
  | createInstance document =>
      obtain ⟨_, upserted, shape⟩ := Option.map_eq_some_iff.mp performed
      cases shape
      exact ⟨.upsert? process upserted, .refl _ _⟩
  | updateInstance owner row operation =>
      obtain ⟨_, updated, shape⟩ := Option.map_eq_some_iff.mp performed
      cases shape
      exact ⟨.update? process updated, .refl _ _⟩
  | claimDueInstances nowIso batchSize =>
      obtain ⟨_, selected, shape⟩ := Option.map_eq_some_iff.mp performed
      cases shape
      obtain ⟨-, committed, others, -⟩ :=
        Database.selectForUpdate?_eq_some selected
      exact ⟨.of_committed_eq committed others, .refl _ _⟩
  | createRunTx document =>
      obtain ⟨_, inserted, shape⟩ := Option.map_eq_some_iff.mp performed
      cases shape
      obtain ⟨committed, others, -⟩ := Database.insertIn?_eq_some inserted
      exact ⟨.refl _ _, .of_committed_eq committed others⟩
  | advanceInstance owner lastFireAt nextFireAt nowIso =>
      obtain ⟨_, updated, shape⟩ := Option.map_eq_some_iff.mp performed
      cases shape
      obtain ⟨committed, others, -⟩ := Database.updateIn?_eq_some updated
      exact ⟨.of_committed_eq committed others, .refl _ _⟩
  | begin =>
      simp only [perform] at performed
      obtain ⟨_, _, onInstances, onRuns, rfl⟩ :=
        inTransaction?_eq_some performed
      cases onInstances
      cases onRuns
      exact ⟨.begin _ _, .begin _ _⟩
  | rollback =>
      simp only [perform] at performed
      obtain ⟨_, _, onInstances, onRuns, rfl⟩ :=
        inTransaction?_eq_some performed
      cases onInstances
      cases onRuns
      exact ⟨.rollback _ _, .rollback _ _⟩
  | savepoint =>
      simp only [perform] at performed
      obtain ⟨_, _, onInstances, onRuns, rfl⟩ :=
        inTransaction?_eq_some performed
      exact ⟨.savepoint? onInstances, .savepoint? onRuns⟩
  | releaseSavepoint =>
      simp only [perform] at performed
      obtain ⟨_, _, onInstances, onRuns, rfl⟩ :=
        inTransaction?_eq_some performed
      exact ⟨.release? onInstances, .release? onRuns⟩
  | rollbackToSavepoint =>
      simp only [perform] at performed
      obtain ⟨_, _, onInstances, onRuns, rfl⟩ :=
        inTransaction?_eq_some performed
      exact ⟨.rollbackTo? onInstances, .rollbackTo? onRuns⟩
  | commit =>
      simp only [perform] at performed
      obtain ⟨_, _, onInstances, onRuns, rfl⟩ :=
        inTransaction?_eq_some performed
      exact ⟨.commit? onInstances, .commit? onRuns⟩
  | _ =>
      cases performed
      exact ⟨.refl _ _, .refl _ _⟩

/-! ## Reads -/

theorem exec_getDefinition
    {process : Nat}
    {definitionId : String}
    {catalog next : Catalog}
    {reply : CatalogReply}
    (executed :
      catalog.exec process (.getDefinition definitionId) =
        some (next, reply)) :
    next.definition definitionId = catalog.definition definitionId ∧
      reply.definition? = catalog.definition definitionId := by
  obtain ⟨performed, ran, rfl⟩ := exec_eq_some executed
  cases ran
  exact ⟨rfl, rfl⟩

theorem exec_getInstance
    {process : Nat}
    {instanceId : String}
    {catalog next : Catalog}
    {reply : CatalogReply}
    (executed :
      catalog.exec process (.getInstance instanceId) =
        some (next, reply)) :
    next.jobInstance instanceId = catalog.jobInstance instanceId ∧
      reply.jobInstance? =
        (catalog.jobInstance instanceId).map
          (instanceDocument instanceId) := by
  obtain ⟨performed, ran, rfl⟩ := exec_eq_some executed
  cases ran
  exact ⟨rfl, rfl⟩

/-! ## Writes of an instance -/

/-- An insert answers whether it has stored its document. -/
theorem exec_createInstance
    {process : Nat}
    {document : InstanceDocument}
    {catalog next : Catalog}
    {reply : CatalogReply}
    (executed :
      catalog.exec process (.createInstance document) = some (next, reply)) :
    ∃ stored,
      reply = .flag stored ∧
        (stored = true ↔
          (catalog.jobInstance document.instanceId).all
            InstanceStore.replaceable = true) ∧
        (stored = true →
          next.jobInstance document.instanceId =
            some document.toJobInstance) ∧
        next.definitions = catalog.definitions := by
  obtain ⟨performed, ran, rfl⟩ := exec_eq_some executed
  obtain ⟨⟨instances, stored⟩, upserted, shape⟩ :=
    Option.map_eq_some_iff.mp ran
  cases shape
  obtain ⟨-, -, -, rows⟩ := Database.upsert?_eq_some upserted
  refine ⟨stored, rfl, stored_iff_replaceable upserted, ?_, rfl⟩
  intro isStored
  exact (rows document.instanceId).trans (if_pos ⟨rfl, isStored⟩)

/-- An update answers with the row it has written, if there was one. -/
theorem exec_updateInstance
    {process : Nat}
    {instanceId : String}
    {row : JobInstance}
    {operation : InstanceOperation}
    {catalog next : Catalog}
    {reply : CatalogReply}
    (executed :
      catalog.exec process (.updateInstance instanceId row operation) =
        some (next, reply)) :
    next.jobInstance instanceId =
        (catalog.jobInstance instanceId).map (fun _ => row) ∧
      reply =
        .jobInstance ((catalog.jobInstance instanceId).map fun _ =>
          instanceDocument instanceId row) ∧
      next.definitions = catalog.definitions := by
  obtain ⟨performed, ran, rfl⟩ := exec_eq_some executed
  obtain ⟨⟨instances, returned⟩, updated, shape⟩ :=
    Option.map_eq_some_iff.mp ran
  cases shape
  obtain ⟨-, -, rfl, rows⟩ := Database.update?_eq_some updated
  refine ⟨(rows instanceId).trans (if_pos rfl), ?_, rfl⟩
  rw [jobInstance]
  cases catalog.instances.committed.lookup instanceId with
  | none =>
      rfl
  | some existing =>
      rfl

/-! ## Listings -/

/-- A listing returns every instance that references the definition. -/
theorem exec_listInstancesForDefinition
    {process : Nat}
    {definitionId instanceId : String}
    {catalog next : Catalog}
    {reply : CatalogReply}
    {row : JobInstance}
    (executed :
      catalog.exec process (.listInstancesForDefinition definitionId) =
        some (next, reply))
    (found : catalog.jobInstance instanceId = some row)
    (references : row.definitionId = definitionId) :
    instanceDocument instanceId row ∈ reply.listed := by
  obtain ⟨performed, ran, rfl⟩ := exec_eq_some executed
  cases ran
  exact List.mem_map.mpr
    ⟨(instanceId, row),
      Table.mem_select_all found (by simpa using references), rfl⟩

end Catalog

end IgaScheduler

import IgaScheduler.InstanceHistory
import IgaScheduler.RelationalRows
import IgaScheduler.RunNames

namespace IgaScheduler

open Relational Interleaving

/-!
# Accepted instances and the runs of their ticks

Every stored instance bears an id that its schema has accepted, and no tenant.
The services hand such instances on from call to call, so a tick that is about
to insert a run has built its id from an accepted instance id alone.
-/

/-- A row as `createInstance` stores it, under an id that it accepts. -/
structure AcceptedInstance
    (instanceId : String)
    (row : JobInstance) :
    Prop where
  accepted : isIdentifier instanceId = true
  tenantless : row.tenantId = none

/-! ## What a statement brings into the tables -/

/-- What a statement writes has these properties, if it answers that it has. -/
def CatalogStatement.Brings
    (onInstances : String → JobInstance → Prop)
    (onRuns : String → JobRun → Prop)
    (reply : CatalogReply) :
    CatalogStatement →
      Prop
  | .createInstance document =>
      onInstances document.instanceId document.toJobInstance
  | .updateInstance instanceId row _ =>
      ∀ old, onInstances instanceId old → onInstances instanceId row
  | .advanceInstance instanceId lastFireAt nextFireAt nowIso =>
      ∀ old, onInstances instanceId old →
        onInstances instanceId
          ((InstanceStore.advanceInstance lastFireAt nextFireAt nowIso).set
            old)
  | .createRunTx document =>
      reply.written = true → onRuns document.runId (documentToRow document)
  | _ => True

namespace Catalog

variable {process : Nat}
variable {statement : CatalogStatement}
variable {catalog next : Catalog}
variable {reply : CatalogReply}
variable {onInstances : String → JobInstance → Prop}
variable {onRuns : String → JobRun → Prop}

/-- Every row of both tables. -/
structure EveryRow
    (onInstances : String → JobInstance → Prop)
    (onRuns : String → JobRun → Prop)
    (catalog : Catalog) :
    Prop where
  instances : catalog.instances.EveryRow onInstances
  runs : catalog.runs.EveryRow onRuns

theorem perform_every
    (performed : catalog.perform process statement = some (next, reply))
    (every : catalog.EveryRow onInstances onRuns)
    (brings : statement.Brings onInstances onRuns reply) :
    next.EveryRow onInstances onRuns := by
  obtain ⟨instances, runs⟩ := every
  cases statement with
  | createDefinition document =>
      simp only [perform] at performed
      split at performed <;> cases performed
      · exact ⟨instances, runs⟩
      · exact ⟨instances, runs⟩
  | patchDefinition owner patch now | deleteDefinition owner now =>
      simp only [perform, updateDefinition] at performed
      split at performed <;> cases performed
      · exact ⟨instances, runs⟩
      · exact ⟨instances, runs⟩
  | createInstance document =>
      obtain ⟨_, upserted, shape⟩ := Option.map_eq_some_iff.mp performed
      cases shape
      exact ⟨instances.upsert? brings upserted, runs⟩
  | updateInstance owner row operation =>
      obtain ⟨_, updated, shape⟩ := Option.map_eq_some_iff.mp performed
      cases shape
      refine ⟨instances.update? ?_ updated, runs⟩
      exact brings
  | claimDueInstances nowIso batchSize =>
      obtain ⟨_, selected, shape⟩ := Option.map_eq_some_iff.mp performed
      cases shape
      exact ⟨instances.selectForUpdate? selected, runs⟩
  | createRunTx document =>
      obtain ⟨_, inserted, shape⟩ := Option.map_eq_some_iff.mp performed
      cases shape
      exact ⟨instances, runs.insertIn? brings inserted⟩
  | advanceInstance owner lastFireAt nextFireAt nowIso =>
      obtain ⟨_, updated, shape⟩ := Option.map_eq_some_iff.mp performed
      cases shape
      exact ⟨instances.updateIn? brings updated, runs⟩
  | begin =>
      simp only [perform] at performed
      obtain ⟨_, _, began, begun, rfl⟩ := inTransaction?_eq_some performed
      cases began
      cases begun
      exact ⟨instances.begin process, runs.begin process⟩
  | rollback =>
      simp only [perform] at performed
      obtain ⟨_, _, ended, ended', rfl⟩ := inTransaction?_eq_some performed
      cases ended
      cases ended'
      exact ⟨instances.rollback process, runs.rollback process⟩
  | savepoint =>
      simp only [perform] at performed
      obtain ⟨_, _, saved, saved', rfl⟩ := inTransaction?_eq_some performed
      exact ⟨instances.savepoint? saved, runs.savepoint? saved'⟩
  | releaseSavepoint =>
      simp only [perform] at performed
      obtain ⟨_, _, released, released', rfl⟩ :=
        inTransaction?_eq_some performed
      exact ⟨instances.release? released, runs.release? released'⟩
  | rollbackToSavepoint =>
      simp only [perform] at performed
      obtain ⟨_, _, restored, restored', rfl⟩ :=
        inTransaction?_eq_some performed
      exact ⟨instances.rollbackTo? restored, runs.rollbackTo? restored'⟩
  | commit =>
      simp only [perform] at performed
      obtain ⟨_, _, committed, committed', rfl⟩ :=
        inTransaction?_eq_some performed
      exact ⟨instances.commit? committed, runs.commit? committed'⟩
  | _ =>
      cases performed
      exact ⟨instances, runs⟩

theorem exec_every
    (executed : catalog.exec process statement = some (next, reply))
    (every : catalog.EveryRow onInstances onRuns)
    (brings : statement.Brings onInstances onRuns reply) :
    next.EveryRow onInstances onRuns := by
  obtain ⟨performed, ran, rfl⟩ := exec_eq_some executed
  obtain ⟨instances, runs⟩ := perform_every ran every brings
  exact ⟨instances, runs⟩

end Catalog

/-! ## What the calls hand on -/

namespace AcceptedInstance

variable {cron : CronParser}

theorem of_prepare
    {definitionId : String}
    {body : InstanceInput}
    {environment : CatalogEnvironment}
    {definition : Option DefinitionDocument}
    {document : InstanceDocument}
    (prepared :
      CreateInstance.prepare cron definitionId body environment definition =
        .ok document) :
    AcceptedInstance document.instanceId document.toJobInstance := by
  unfold CreateInstance.prepare at prepared
  split at prepared
  · cases prepared
  · split at prepared
    · split at prepared
      · cases prepared
      · rename_i parsed accepted
        have identified := CreateInstance.isIdentifier_of_schema accepted
        unfold createdRow at prepared
        split at prepared
        · cases prepared
        · split at prepared <;> cases prepared
          exact ⟨identified, rfl⟩
    · cases prepared

/-- An edit keeps the tenant of the row that it has read. -/
theorem tenantless_of_rewrite
    {operation : InstanceOperation}
    {existing row : JobInstance}
    (tenantless : existing.tenantId = none)
    (written : EditInstance.rewrite cron existing operation = .ok row) :
    row.tenantId = none := by
  cases operation with
  | patched patch fromDate updatedAt =>
      obtain ⟨-, nextFireAt, -, rfl⟩ := InstancePatch.row_eq_ok.mp written
      exact tenantless
  | deleted updatedAt =>
      cases written
      exact tenantless
  | created created =>
      cases written
  | advanced nowIso =>
      cases written

end AcceptedInstance

namespace Tick

/-- The run of the firing is named after this instance and its fire time. -/
structure Firing.Named
    (firing : Firing)
    (instanceId : InstanceId) :
    Prop where
  ofInstance : firing.document.instanceId = instanceId.text
  identifies :
    (RunName.tick instanceId firing.scheduledFireTime).Identifies
      firing.runId

theorem Firing.named_of_accepted
    {cron : CronParser}
    {document : InstanceDocument}
    {firing : Firing}
    (instances :
      AcceptedInstance document.instanceId document.toJobInstance)
    (computed : firing? cron document = some firing) :
    ∃ instanceId, firing.Named instanceId := by
  obtain ⟨rfl, -, -, built⟩ := firing?_eq_some computed
  rw [instances.tenantless] at built
  exact ⟨⟨firing.document.instanceId, instances.accepted⟩, rfl,
    .tick built⟩

/-- A tick inserts only the run of the firing that it has computed. -/
def Stage.Named : Stage → Prop
  | .fetching firing => ∃ instanceId, firing.Named instanceId
  | .inserting firing runDocument =>
      (∃ instanceId, firing.Named instanceId) ∧
        ∃ nowIso snapshot, runDocument = firing.runDocument nowIso snapshot
  | _ => True

/-- The instances a tick has claimed are accepted, and its firing is named. -/
def Local.Accepted : Local → Prop
  | .between _ _ documents _ =>
      ∀ document ∈ documents,
        AcceptedInstance document.instanceId document.toJobInstance
  | .handling _ _ stage documents _ =>
      stage.Named ∧
        ∀ document ∈ documents,
          AcceptedInstance document.instanceId document.toJobInstance
  | _ => True

variable {cron : CronParser}
variable {process : Nat}
variable {catalog next : Catalog}
variable {call : Local}

theorem Local.Accepted.proceed
    {environment : CatalogEnvironment}
    {statement : CatalogStatement}
    {reply : CatalogReply}
    (accepted : call.Accepted)
    (rows : catalog.instances.EveryRow AcceptedInstance)
    (issued : issue call environment = some statement)
    (executed : catalog.exec process statement = some (next, reply)) :
    (resume cron call environment reply).Accepted := by
  cases call with
  | start arguments =>
      simp only [resume]
      split <;> trivial
  | claiming arguments nowIso =>
      cases issued
      obtain ⟨performed, ran, -⟩ := Catalog.exec_eq_some executed
      obtain ⟨⟨database, listed⟩, selected, shape⟩ :=
        Option.map_eq_some_iff.mp ran
      cases shape
      intro document member
      obtain ⟨entry, chosen, rfl⟩ := List.mem_map.mp member
      rw [(Database.selectForUpdate?_eq_some selected).1] at chosen
      exact rows.select chosen
  | between arguments nowIso documents summary =>
      cases documents with
      | nil =>
          trivial
      | cons document rest =>
          refine ⟨?_, fun other member =>
            accepted other (List.mem_cons_of_mem document member)⟩
          unfold firstStage
          split
          · trivial
          · rename_i firing computed
            have named :=
              Firing.named_of_accepted
                (accepted document List.mem_cons_self) computed
            split
            · exact named
            · exact ⟨named, nowIso, none, rfl⟩
  | handling arguments nowIso stage rest summary =>
      obtain ⟨named, rest⟩ := accepted
      cases stage with
      | fetching firing =>
          exact ⟨⟨named, nowIso, _, rfl⟩, rest⟩
      | inserting firing runDocument | advancing firing =>
          exact ⟨trivial, rest⟩
      | releasing firing | undoing =>
          exact rest
  | rollingBack | done outcome =>
      trivial

theorem Local.Accepted.raise (accepted : call.Accepted) :
    (Tick.raise call).Accepted := by
  cases call with
  | start arguments =>
      simp only [Tick.raise]
      split <;> trivial
  | handling arguments nowIso stage rest summary =>
      cases stage with
      | undoing =>
          trivial
      | _ =>
          exact ⟨trivial, accepted.2⟩
  | claiming | between | rollingBack | done =>
      trivial

end Tick

/-- What a call is about to write is accepted. -/
def CatalogCall.Accepted : CatalogCall → Prop
  | .createInstance (.inserting document) =>
      AcceptedInstance document.instanceId document.toJobInstance
  | .editInstance (.updating _ _ _ row) => row.tenantId = none
  | .tick call => call.Accepted
  | _ => True

/-- A call that is about to insert a run is a tick at its firing. -/
theorem CatalogCall.Accepted.brings
    {call : CatalogCall}
    {input : CatalogInput}
    {statement : CatalogStatement}
    {reply : CatalogReply}
    {onRuns : String → JobRun → Prop}
    (accepted : call.Accepted)
    (issued : call.issue input = some statement)
    (fired :
      ∀ {arguments nowIso firing runDocument rest summary},
        call =
            .tick (.handling arguments nowIso
              (.inserting firing runDocument) rest summary) →
          statement = .createRunTx runDocument →
          reply.written = true →
          onRuns runDocument.runId (documentToRow runDocument)) :
    statement.Brings AcceptedInstance onRuns reply := by
  cases issues_of_issue issued with
  | instanceInsert document =>
      exact accepted
  | instanceUpdate instanceId operation existing row =>
      exact fun old kept => ⟨kept.accepted, accepted⟩
  | tick call environment statement issuedTick =>
      cases call with
      | start arguments =>
          simp only [Tick.issue] at issuedTick
          split at issuedTick <;> cases issuedTick <;> trivial
      | between arguments nowIso documents summary =>
          cases documents <;> cases issuedTick <;> trivial
      | handling arguments nowIso stage rest summary =>
          cases stage with
          | inserting firing runDocument =>
              cases issuedTick
              exact fired rfl rfl
          | advancing firing =>
              cases issuedTick
              exact fun old kept => ⟨kept.accepted, kept.tenantless⟩
          | fetching | releasing | undoing =>
              cases issuedTick
              trivial
      | claiming | rollingBack =>
          cases issuedTick
          trivial
      | done outcome =>
          cases issuedTick
  | _ =>
      trivial

/-- The calls of a process that has just moved hand on accepted instances. -/
theorem CatalogPool.accepted_of_step
    {cron : CronParser}
    {pool next : CatalogPool}
    {label : Label CatalogInput}
    (accepted : (pool.locals label.1).Accepted)
    (rows : pool.shared.instances.EveryRow AcceptedInstance)
    (stepped : (catalogSystem cron).step? pool label = some next) :
    (next.locals label.1).Accepted := by
  cases calling : next.locals label.1 with
  | createInstance call =>
      cases call with
      | inserting document =>
          obtain ⟨_, _, _, prepared⟩ := inserting_of_step stepped calling
          exact .of_prepare prepared
      | start | done =>
          trivial
  | editInstance call =>
      cases call with
      | updating instanceId operation read row =>
          obtain ⟨stored, rewritten⟩ := updating_of_step stepped calling
          exact AcceptedInstance.tenantless_of_rewrite
            (rows.committed instanceId read stored).tenantless rewritten
      | start | done =>
          trivial
  | tick call =>
      have moved := moved_of_step stepped calling
      generalize pool.locals label.1 = before at accepted moved
      cases moved with
      | started arguments =>
          trivial
      | proceeded issued executed =>
          exact Tick.Local.Accepted.proceed accepted rows issued executed
      | raised executed =>
          exact Tick.Local.Accepted.raise accepted
  | idle | createDefinition | patchDefinition | deleteDefinition =>
      trivial

end IgaScheduler

import IgaScheduler.DefinitionCalls

namespace IgaScheduler

/-!
# `JobInstanceService`

An instance is created after a look at its definition.  It is patched, paused,
resumed or deleted by reading its row, and writing every column of it back in a
second statement.
-/

namespace CreateInstance

inductive Local where
  | start (definitionId : String) (body : InstanceInput)
  | inserting (document : InstanceDocument)
  | done (outcome : Except ServiceError InstanceDocument)

/-- Whether `getActiveDefinition` returns the document. -/
def isActiveDefinition (definition : DefinitionDocument) : Bool :=
  definition.enabled && definition.state = .active

def notActive (definitionId : String) : ServiceError :=
  .error ("Job definition " ++ definitionId ++ " is not active")

/-- The document to insert, once the definition has been fetched. -/
def prepare
    (cron : CronParser)
    (definitionId : String)
    (body : InstanceInput)
    (environment : CatalogEnvironment) :
    Option DefinitionDocument →
      Except ServiceError InstanceDocument
  | none => .error .raised
  | some definition =>
      if isActiveDefinition definition then
        match createJobInstanceSchema body with
        | none => .error .validation
        | some parsed =>
            (createdRow cron definitionId definition parsed
                environment.now environment.later).map
              (instanceDocument parsed.instanceId)
      else
        .error (notActive definitionId)

def issue :
    Local →
      CatalogEnvironment →
      Option CatalogStatement
  | .start definitionId _, _ => some (.getDefinition definitionId)
  | .inserting document, _ => some (.createInstance document)
  | .done _, _ => none

def resume
    (cron : CronParser) :
    Local →
      CatalogEnvironment →
      CatalogReply →
      Local
  | .start definitionId body, environment, reply =>
      match prepare cron definitionId body environment
          reply.definition? with
      | .error error => .done (.error error)
      | .ok document => .inserting document
  | .inserting document, _, reply =>
      if reply.written then
        .done (.ok document)
      else
        .done (.error (.status 409 "instance already exists"))
  | .done outcome, _, _ => .done outcome

/-- The awaited statement threw. -/
def raise : Local → Local
  | .done outcome => .done outcome
  | _ => .done (.error .raised)

/-- What is known of a document that is about to be inserted. -/
structure Prepared (document : InstanceDocument) : Prop where
  colonFree : ColonFree document.instanceId
  unfired : document.lastFireAt = none

theorem isIdentifier_of_schema
    {body : InstanceInput}
    {parsed : NewInstance}
    (accepted : createJobInstanceSchema body = some parsed) :
    isIdentifier parsed.instanceId = true := by
  unfold createJobInstanceSchema at accepted
  split at accepted
  · rename_i valid
    obtain ⟨_, _, rfl⟩ := Option.map_eq_some_iff.mp accepted
    exact valid.1
  · cases accepted

theorem prepared_of_prepare
    {cron : CronParser}
    {definitionId : String}
    {body : InstanceInput}
    {environment : CatalogEnvironment}
    {definition : Option DefinitionDocument}
    {document : InstanceDocument}
    (prepared :
      prepare cron definitionId body environment definition =
        .ok document) :
    Prepared document := by
  unfold prepare at prepared
  split at prepared
  · cases prepared
  · rename_i definition
    split at prepared
    · split at prepared
      · cases prepared
      · rename_i parsed accepted
        have colonFree : ColonFree parsed.instanceId :=
          colonFree_of_isIdentifier (isIdentifier_of_schema accepted)
        unfold createdRow at prepared
        split at prepared
        · cases prepared
        · split at prepared <;> cases prepared
          exact ⟨colonFree, rfl⟩
    · cases prepared

/-- A document is prepared from a definition that was active when fetched. -/
theorem active_of_prepare
    {cron : CronParser}
    {definitionId : String}
    {body : InstanceInput}
    {environment : CatalogEnvironment}
    {fetched : Option DefinitionDocument}
    {document : InstanceDocument}
    (prepared :
      prepare cron definitionId body environment fetched = .ok document) :
    ∃ definition,
      fetched = some definition ∧
        definition.state = .active ∧
        document.definitionId = definitionId := by
  unfold prepare at prepared
  split at prepared
  · cases prepared
  · rename_i definition
    split at prepared
    · rename_i active
      simp only [isActiveDefinition, Bool.and_eq_true, decide_eq_true_eq]
        at active
      split at prepared
      · cases prepared
      · unfold createdRow at prepared
        split at prepared
        · cases prepared
        · split at prepared <;> cases prepared
          exact ⟨definition, rfl, active.2, rfl⟩
    · cases prepared

end CreateInstance

/-- `requireInstance`, and the answer to an update that meets no row. -/
def instanceNotFound : ServiceError :=
  .status 404 "instance not found"

namespace EditInstance

/-- The edits that read a row and write it back. -/
inductive Edit where
  | patch (body : PatchInput)
  | delete
  deriving DecidableEq

/-- The operation an edit amounts to, at the clocks it has read. -/
def Edit.operation
    (environment : CatalogEnvironment) :
    Edit →
      Option InstanceOperation
  | .patch body =>
      (patchJobInstanceSchema body).map fun patch =>
        .patched patch environment.now environment.later
  | .delete => some (.deleted environment.now)

/-- The row an operation writes over the row that was read. -/
def rewrite
    (cron : CronParser)
    (existing : JobInstance) :
    InstanceOperation →
      Except ServiceError JobInstance
  | .patched patch fromDate updatedAt =>
      patch.row cron fromDate updatedAt existing
  | .deleted updatedAt => .ok (deletedRow updatedAt existing)
  | _ => .error .raised

inductive Local where
  | start (instanceId : String) (edit : Edit)
  /-- `existing` has been read; `row` is about to be written. -/
  | updating
      (instanceId : String)
      (operation : InstanceOperation)
      (existing row : JobInstance)
  | done
      (outcome :
        Except ServiceError (InstanceOperation × InstanceDocument))

def issue :
    Local →
      CatalogEnvironment →
      Option CatalogStatement
  | .start instanceId _, _ => some (.getInstance instanceId)
  | .updating instanceId operation _ row, _ =>
      some (.updateInstance instanceId row operation)
  | .done _, _ => none

def resume
    (cron : CronParser) :
    Local →
      CatalogEnvironment →
      CatalogReply →
      Local
  | .start instanceId edit, environment, reply =>
      match reply.jobInstance? with
      | none => .done (.error instanceNotFound)
      | some existing =>
          match edit.operation environment with
          | none => .done (.error .validation)
          | some operation =>
              match rewrite cron existing.toJobInstance operation with
              | .error error => .done (.error error)
              | .ok row =>
                  .updating instanceId operation existing.toJobInstance row
  | .updating _ operation _ _, _, reply =>
      match reply.jobInstance? with
      | none => .done (.error instanceNotFound)
      | some written => .done (.ok (operation, written))
  | .done outcome, _, _ => .done outcome

/-- The awaited statement threw. -/
def raise : Local → Local
  | .done outcome => .done outcome
  | _ => .done (.error .raised)

/-- `patchInstance`. -/
def patchInstance
    (instanceId : String)
    (body : PatchInput) :
    Local :=
  .start instanceId (.patch body)

/-- `pauseInstance`. -/
def pauseInstance (instanceId : String) : Local :=
  patchInstance instanceId { enabled := some false }

/-- `resumeInstance`. -/
def resumeInstance (instanceId : String) : Local :=
  patchInstance instanceId { enabled := some true }

/-- `deleteInstance`. -/
def deleteInstance (instanceId : String) : Local :=
  .start instanceId .delete

end EditInstance

end IgaScheduler

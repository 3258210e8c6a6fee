import IgaScheduler.CatalogStatements

namespace IgaScheduler

/-!
# `JobDefinitionService`

The three calls that write definitions, as control-flow machines: between two
awaited statements a call is one local state.
-/

/-- What the environment supplies to a step of a call. -/
structure CatalogEnvironment where
  /-- `new Date()`. -/
  now : Timestamp
  /-- A second `new Date()` in the same step. -/
  later : Timestamp
  /-- The generation the bucket gives to an artifact it saves. -/
  generation : String

namespace CreateDefinition

/-- The arguments of `createDefinition`; the buffer by digest and verdict. -/
structure Arguments where
  metadata : DefinitionInput
  sha256 : String
  /-- What `validateZipBuffer` reports; `none` when it rejects. -/
  zipInfo : Option ZipInfo
  jobZipBucket : String

/-- What is known once metadata and artifact have been validated. -/
structure Upload where
  parsed : DefinitionMetadata
  sha256 : String
  zipInfo : ZipInfo
  jobZipBucket : String
  deriving DecidableEq

def Arguments.validate (arguments : Arguments) : Option Upload :=
  (createJobDefinitionSchema arguments.metadata).bind fun parsed =>
    arguments.zipInfo.map fun zipInfo =>
      ⟨parsed, arguments.sha256, zipInfo, arguments.jobZipBucket⟩

namespace Upload

def approvedPath (upload : Upload) : String :=
  "approved/" ++ upload.parsed.definitionId ++ "/" ++ upload.sha256 ++
    "/job.zip"

/-- `existing ? existing.version + 1 : 1`. -/
def version : Option DefinitionDocument → Int
  | none => 1
  | some existing => existing.version + 1

/-- The document that the index is given. -/
def document
    (upload : Upload)
    (existing : Option DefinitionDocument)
    (now : Timestamp)
    (generation : String) :
    DefinitionDocument :=
  { upload.parsed with
    version := version existing
    state := .active
    enabled := true
    jobZip := some {
      uri := "gs://" ++ upload.jobZipBucket ++ "/" ++ upload.approvedPath
      sha256 := upload.sha256
      generation := some generation
    }
    validation := { upload.zipInfo with validatedAt := now }
    createdAt := now
    updatedAt := now }

end Upload

inductive Local where
  | start (arguments : Arguments)
  /-- `getDefinition` has returned `existing`. -/
  | saving
      (upload : Upload)
      (existing : Option DefinitionDocument)
      (now : Timestamp)
  /-- The artifact is saved; its generation is asked for. -/
  | describing
      (upload : Upload)
      (existing : Option DefinitionDocument)
      (now : Timestamp)
  | storing
      (upload : Upload)
      (existing : Option DefinitionDocument)
      (document : DefinitionDocument)
  /-- A statement of the `try` block threw. -/
  | cleaning (upload : Upload)
  | done (outcome : Except ServiceError DefinitionDocument)

def issue :
    Local →
      CatalogEnvironment →
      Option CatalogStatement
  | .start arguments, _ =>
      match arguments.validate with
      | none => some .skip
      | some upload => some (.getDefinition upload.parsed.definitionId)
  | .saving upload _ _, environment =>
      some (.saveArtifact upload.approvedPath
        ⟨upload.parsed.definitionId, upload.sha256,
          environment.generation⟩)
  | .describing upload _ _, _ =>
      some (.getArtifactMetadata upload.approvedPath)
  | .storing _ (some _) document, _ => some (.indexDefinition document)
  | .storing _ none document, _ => some (.createDefinition document)
  | .cleaning upload, _ => some (.deleteArtifact upload.approvedPath)
  | .done _, _ => none

def resume :
    Local →
      CatalogEnvironment →
      CatalogReply →
      Local
  | .start arguments, environment, reply =>
      match arguments.validate with
      | none => .done (.error .validation)
      | some upload => .saving upload reply.definition? environment.now
  | .saving upload existing now, _, _ => .describing upload existing now
  | .describing upload existing now, _, reply =>
      match reply.generation? with
      | none => .cleaning upload
      | some generation =>
          .storing upload existing
            (upload.document existing now generation)
  | .storing upload _ document, _, reply =>
      -- `es.create` throws when the id has been taken meanwhile
      if reply.written then .done (.ok document) else .cleaning upload
  | .cleaning _, _, _ => .done (.error .raised)
  | .done outcome, _, _ => .done outcome

/-- The awaited statement threw. -/
def raise : Local → Local
  | .describing upload _ _ => .cleaning upload
  | .storing upload _ _ => .cleaning upload
  | .done outcome => .done outcome
  | _ => .done (.error .raised)

end CreateDefinition

namespace PatchDefinition

inductive Local where
  | start (definitionId : String) (patch : DefinitionPatch)
  /-- The update is done; the document is read back. -/
  | reading (definitionId : String)
  | done (outcome : Except ServiceError (Option DefinitionDocument))

def issue :
    Local →
      CatalogEnvironment →
      Option CatalogStatement
  | .start definitionId patch, environment =>
      match patchJobDefinitionSchema patch with
      | none => some .skip
      | some parsed =>
          some (.patchDefinition definitionId parsed environment.now)
  | .reading definitionId, _ => some (.getDefinition definitionId)
  | .done _, _ => none

def resume :
    Local →
      CatalogEnvironment →
      CatalogReply →
      Local
  | .start definitionId patch, _, reply =>
      match patchJobDefinitionSchema patch with
      | none => .done (.error .validation)
      | some _ =>
          if reply.written then
            .reading definitionId
          else
            .done (.error .raised)
  | .reading _, _, reply => .done (.ok reply.definition?)
  | .done outcome, _, _ => .done outcome

/-- The awaited statement threw. -/
def raise : Local → Local
  | .done outcome => .done outcome
  | _ => .done (.error .raised)

end PatchDefinition

namespace DeleteDefinition

structure Arguments where
  definitionId : String
  /-- The service was built with an `instanceStore`. -/
  instanceStore : Bool
  deriving DecidableEq

inductive Local where
  | start (arguments : Arguments)
  /-- No instance was found active. -/
  | updating (arguments : Arguments)
  | reading (arguments : Arguments)
  | done (outcome : Except ServiceError (Option DefinitionDocument))

/-- `instance.enabled && instance.state === "ACTIVE"`. -/
def activeInstances
    (instances : List InstanceDocument) :
    List InstanceDocument :=
  instances.filter fun document => document.toJobInstance.Live

def hasActiveInstances
    (definitionId : String)
    (count : Nat) :
    ServiceError :=
  .status 409
    ("definition " ++ definitionId ++ " has " ++ toString count ++
      " active instance(s) referencing it; pause or delete them " ++
      "before deleting the definition")

def issue :
    Local →
      CatalogEnvironment →
      Option CatalogStatement
  | .start arguments, _ =>
      if arguments.instanceStore then
        some (.listInstancesForDefinition arguments.definitionId)
      else
        some .skip
  | .updating arguments, environment =>
      some (.deleteDefinition arguments.definitionId environment.now)
  | .reading arguments, _ => some (.getDefinition arguments.definitionId)
  | .done _, _ => none

def resume :
    Local →
      CatalogEnvironment →
      CatalogReply →
      Local
  | .start arguments, _, reply =>
      if activeInstances reply.listed = [] then
        .updating arguments
      else
        .done (.error (hasActiveInstances arguments.definitionId
          (activeInstances reply.listed).length))
  | .updating arguments, _, reply =>
      if reply.written then
        .reading arguments
      else
        .done (.error .raised)
  | .reading _, _, reply => .done (.ok reply.definition?)
  | .done outcome, _, _ => .done outcome

/-- The awaited statement threw. -/
def raise : Local → Local
  | .done outcome => .done outcome
  | _ => .done (.error .raised)

end DeleteDefinition

end IgaScheduler

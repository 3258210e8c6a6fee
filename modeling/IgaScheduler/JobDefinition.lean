import IgaScheduler.RelationalTable
import IgaScheduler.RunIds

namespace IgaScheduler

/-!
# Job definitions

The documents of the definitions index, what an upload or a patch may say about
them, and the part of a definition that is pinned to a run.
-/

/-- The `state` of a definition. -/
inductive DefinitionState where
  | active
  | deleted
  deriving DecidableEq, Repr

/-- The stored text of a definition's state. -/
def DefinitionState.text : DefinitionState → String
  | .active => "ACTIVE"
  | .deleted => "DELETED"

/-- The runtimes a definition may ask for. -/
inductive Runtime where
  | javascript
  | python
  deriving DecidableEq, Repr

def Runtime.text : Runtime → String
  | .javascript => "javascript"
  | .python => "python"

/-- What `createJobDefinitionSchema` leaves of the uploaded metadata. -/
structure DefinitionMetadata where
  definitionId : String
  name : String
  runtime : Runtime
  runtimeVersion : String
  wrapperVersion : String
  entrypoint : String
  parameters : List JobParameter
  timeoutSeconds : Int
  memoryMb : Option Int
  deriving DecidableEq

/-- The approved artifact of a definition. -/
structure JobZip where
  uri : String
  sha256 : String
  generation : Option String
  deriving DecidableEq

/-- What `validateZipBuffer` reports about an artifact. -/
structure ZipInfo where
  fileCount : Nat
  uncompressedBytes : Nat
  deriving DecidableEq

structure DefinitionValidation extends ZipInfo where
  validatedAt : Timestamp
  deriving DecidableEq

/-- A document of the definitions index. -/
structure DefinitionDocument extends DefinitionMetadata where
  version : Int
  state : DefinitionState
  enabled : Bool
  jobZip : Option JobZip
  validation : DefinitionValidation
  createdAt : Timestamp
  updatedAt : Timestamp
  deriving DecidableEq

/-- The digest of the artifact a document refers to. -/
def DefinitionDocument.digest
    (document : DefinitionDocument) :
    Option String :=
  document.jobZip.map JobZip.sha256

/-! ## Schemas -/

/-- `/^[A-Za-z0-9_.-]+$/`. -/
def isIdentifier (text : String) : Bool :=
  text ≠ "" && text.toList.all fun char =>
    char.isAlphanum || char = '_' || char = '.' || char = '-'

/-- `/^[A-Za-z][A-Za-z0-9_]*$/`. -/
def isParameterName (text : String) : Bool :=
  match text.toList with
  | [] => false
  | first :: rest =>
      first.isAlpha && rest.all fun char => char.isAlphanum || char = '_'

/-- The `metadata` of an upload. -/
structure DefinitionInput where
  definitionId : String
  name : String
  runtime : String
  runtimeVersion : String
  wrapperVersion : String
  entrypoint : String
  parameters : Option (List (String × String × Option Bool))
  timeoutSeconds : Option Int
  memoryMb : Option Int

def parseRuntime : String → Option Runtime
  | "javascript" => some .javascript
  | "python" => some .python
  | _ => none

def parseParameterType : String → Option ParameterType
  | "string" => some .string
  | "string[]" => some .stringArray
  | "sensitive" => some .sensitive
  | _ => none

/-- `jobParameterSchema`. -/
def parseJobParameter :
    String × String × Option Bool →
      Option JobParameter
  | (name, type, required) =>
      if isParameterName name then
        (parseParameterType type).map fun type =>
          ⟨name, type, required.getD false⟩
      else
        none

/-- `.int().min(30).max(1800)`. -/
def isTimeoutSeconds (value : Int) : Bool :=
  30 ≤ value && value ≤ 1800

/-- `.int().min(64).max(512)`. -/
def isMemoryMb (value : Int) : Bool :=
  64 ≤ value && value ≤ 512

/-- `createJobDefinitionSchema.parse`; `none` when it throws. -/
def createJobDefinitionSchema
    (input : DefinitionInput) :
    Option DefinitionMetadata :=
  if isIdentifier input.definitionId && input.name ≠ "" &&
      input.runtimeVersion ≠ "" && input.wrapperVersion ≠ "" &&
      input.entrypoint ≠ "" &&
      input.timeoutSeconds.all isTimeoutSeconds &&
      input.memoryMb.all isMemoryMb then
    (parseRuntime input.runtime).bind fun runtime =>
      ((input.parameters.getD []).mapM parseJobParameter).map
        fun parameters => {
          definitionId := input.definitionId
          name := input.name
          runtime := runtime
          runtimeVersion := input.runtimeVersion
          wrapperVersion := input.wrapperVersion
          entrypoint := input.entrypoint
          parameters := parameters
          timeoutSeconds := input.timeoutSeconds.getD 1800
          memoryMb := input.memoryMb
        }
  else
    none

/-- The body of a patch; `patchJobDefinitionSchema` knows no other field. -/
structure DefinitionPatch where
  name : Option String
  enabled : Option Bool
  timeoutSeconds : Option Int
  memoryMb : Option Int

/-- `patchJobDefinitionSchema.parse`; `none` when it throws. -/
def patchJobDefinitionSchema
    (patch : DefinitionPatch) :
    Option DefinitionPatch :=
  if patch.name.all (· ≠ "") &&
      patch.timeoutSeconds.all isTimeoutSeconds &&
      patch.memoryMb.all isMemoryMb then
    some patch
  else
    none

/-! ## Partial updates -/

/-- The `doc` that `patchDefinition` merges into the stored document. -/
def DefinitionPatch.apply
    (patch : DefinitionPatch)
    (now : Timestamp)
    (document : DefinitionDocument) :
    DefinitionDocument :=
  { document with
    name := patch.name.getD document.name
    enabled := patch.enabled.getD document.enabled
    timeoutSeconds := patch.timeoutSeconds.getD document.timeoutSeconds
    memoryMb := patch.memoryMb.or document.memoryMb
    updatedAt := now }

/-- The `doc` that `deleteDefinition` merges into the stored document. -/
def markDeleted
    (now : Timestamp)
    (document : DefinitionDocument) :
    DefinitionDocument :=
  { document with
    state := .deleted
    enabled := false
    updatedAt := now }

@[simp] theorem DefinitionPatch.apply_version
    (patch : DefinitionPatch)
    (now : Timestamp)
    (document : DefinitionDocument) :
    (patch.apply now document).version = document.version :=
  rfl

@[simp] theorem DefinitionPatch.apply_digest
    (patch : DefinitionPatch)
    (now : Timestamp)
    (document : DefinitionDocument) :
    (patch.apply now document).digest = document.digest :=
  rfl

@[simp] theorem DefinitionPatch.apply_state
    (patch : DefinitionPatch)
    (now : Timestamp)
    (document : DefinitionDocument) :
    (patch.apply now document).state = document.state :=
  rfl

@[simp] theorem markDeleted_version
    (now : Timestamp)
    (document : DefinitionDocument) :
    (markDeleted now document).version = document.version :=
  rfl

@[simp] theorem markDeleted_digest
    (now : Timestamp)
    (document : DefinitionDocument) :
    (markDeleted now document).digest = document.digest :=
  rfl

/-- Identifiers that pass a schema have no colon. -/
theorem colonFree_of_isIdentifier
    {text : String}
    (accepted : isIdentifier text = true) :
    ColonFree text := by
  intro colon
  simp only [isIdentifier, Bool.and_eq_true, List.all_eq_true] at accepted
  have listed := accepted.2 ':' colon
  revert listed
  decide

/-! ## What a run is pinned to -/

/-- The fields of a definition that dispatch needs. -/
structure PinnedDefinition where
  definitionId : String
  version : Int
  runtime : Runtime
  runtimeVersion : String
  wrapperVersion : String
  entrypoint : String
  timeoutSeconds : Int
  deriving DecidableEq

/-- The snapshot of a definition on a run. -/
structure DefinitionSnapshot where
  definition : Option PinnedDefinition
  definitionEnabled : Bool
  definitionState : Option DefinitionState
  artifact : Option JobZip
  deriving DecidableEq

/-- `buildExecutionMetadataSnapshot`, after the definition has been fetched. -/
def buildExecutionMetadataSnapshot :
    Option DefinitionDocument →
      DefinitionSnapshot
  | none => ⟨none, false, none, none⟩
  | some definition => {
      definition := some {
        definitionId := definition.definitionId
        version := definition.version
        runtime := definition.runtime
        runtimeVersion := definition.runtimeVersion
        wrapperVersion := definition.wrapperVersion
        entrypoint := definition.entrypoint
        timeoutSeconds := definition.timeoutSeconds
      }
      definitionEnabled := definition.enabled
      definitionState := some definition.state
      artifact := definition.jobZip
    }

def PinnedDefinition.json (definition : PinnedDefinition) : Json :=
  .obj [("definitionId", .str definition.definitionId),
    ("version", .num definition.version 0),
    ("runtime", .str definition.runtime.text),
    ("runtimeVersion", .str definition.runtimeVersion),
    ("wrapperVersion", .str definition.wrapperVersion),
    ("entrypoint", .str definition.entrypoint),
    ("timeoutSeconds", .num definition.timeoutSeconds 0)]

def JobZip.json (artifact : JobZip) : Json :=
  .obj [("uri", .str artifact.uri),
    ("sha256", .str artifact.sha256),
    ("generation", (artifact.generation.map Json.str).getD .null)]

/-- The `execution_metadata` column of a run with a snapshot. -/
def DefinitionSnapshot.json (snapshot : DefinitionSnapshot) : Json :=
  .obj [("definition",
      (snapshot.definition.map PinnedDefinition.json).getD .null),
    ("definitionEnabled", .bool snapshot.definitionEnabled),
    ("definitionState",
      (snapshot.definitionState.map fun state => .str state.text).getD
        .null),
    ("artifact", (snapshot.artifact.map JobZip.json).getD .null)]

/-- `executionMetadataError`: the code and the message of the failure. -/
structure ExecutionMetadataError where
  code : String
  message : String
  deriving DecidableEq

/--
`buildExecutionMetadata` of a run pinned to a version.  The live lookup makes
the same checks on a fetched document as the other path makes on a snapshot.
-/
def buildExecutionMetadata
    (definitionId : String)
    (definitionVersion : Option Int)
    (snapshot : DefinitionSnapshot) :
    Except ExecutionMetadataError (PinnedDefinition × JobZip) :=
  if definitionId = "" then
    .error ⟨"RUN_DEFINITION_MISSING", "run definitionId is required"⟩
  else
    match snapshot.definition with
    | none =>
        .error ⟨"DEFINITION_NOT_FOUND",
          "job definition " ++ definitionId ++ " was not found"⟩
    | some definition =>
        if snapshot.definitionEnabled = false ∨
            snapshot.definitionState ≠ some .active then
          .error ⟨"DEFINITION_NOT_ACTIVE",
            "job definition " ++ definitionId ++ " is not active"⟩
        else if some definition.version ≠ definitionVersion then
          .error ⟨"DEFINITION_VERSION_MISMATCH",
            "run requires definition version " ++
              (definitionVersion.map toString).getD "null" ++
              ", but current version is " ++ toString definition.version⟩
        else
          match snapshot.artifact with
          | none =>
              .error ⟨"DEFINITION_ARTIFACT_MISSING",
                "job definition " ++ definitionId ++
                  " is missing approved artifact metadata"⟩
          | some artifact =>
              if artifact.uri = "" ∨ artifact.sha256 = "" ∨
                  artifact.generation.getD "" = "" then
                .error ⟨"DEFINITION_ARTIFACT_MISSING",
                  "job definition " ++ definitionId ++
                    " is missing approved artifact metadata"⟩
              else
                .ok (definition, artifact)

/-- Execution metadata is that of a snapshot with the pinned version. -/
theorem buildExecutionMetadata_ok
    {definitionId : String}
    {definitionVersion : Option Int}
    {snapshot : DefinitionSnapshot}
    {definition : PinnedDefinition}
    {artifact : JobZip}
    (built :
      buildExecutionMetadata definitionId definitionVersion snapshot =
        .ok (definition, artifact)) :
    snapshot.definition = some definition ∧
      definitionVersion = some definition.version ∧
      snapshot.artifact = some artifact := by
  unfold buildExecutionMetadata at built
  split at built
  · cases built
  · split at built
    · cases built
    · rename_i stored defined
      split at built
      · cases built
      · split at built
        · cases built
        · rename_i pinned
          split at built
          · cases built
          · rename_i zip found
            split at built
            · cases built
            · cases built
              exact ⟨defined, (not_not.mp pinned).symm, found⟩

/-- Execution metadata names the version and the digest of one document. -/
theorem buildExecutionMetadata_document
    {definitionId : String}
    {definitionVersion : Option Int}
    {document : DefinitionDocument}
    {definition : PinnedDefinition}
    {artifact : JobZip}
    (built :
      buildExecutionMetadata definitionId definitionVersion
          (buildExecutionMetadataSnapshot (some document)) =
        .ok (definition, artifact)) :
    definitionVersion = some document.version ∧
      document.digest = some artifact.sha256 := by
  obtain ⟨defined, pinned, found⟩ := buildExecutionMetadata_ok built
  cases defined
  refine ⟨pinned, ?_⟩
  simp only [buildExecutionMetadataSnapshot] at found
  simp [DefinitionDocument.digest, found]

end IgaScheduler

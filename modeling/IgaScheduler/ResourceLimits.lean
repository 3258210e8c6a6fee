import Mathlib
import IgaScheduler.ApprovedCode
import IgaScheduler.InstanceOperations
import IgaScheduler.MetadataSnapshot

namespace IgaScheduler

/-!
# The limits of a job

From the limits that a definition declares to those of the process that is
started for a run of it.  On the way they pass the definitions index, one of
two projections of the document, the `execution_metadata` column, and the
executor, which puts a default in the place of what is missing.
-/

open ExecutionMetadata (Built defined field)
open JavaScript (bind_eq_ok)
open JobRuntimeExecutor (ExecuteFailure ExecutionDefinition Host Request Spawn)
open ZipArtifacts (TemporaryDirectory ZipBuffer)

/-! ## The document of a definition -/

def JobParameter.json (parameter : JobParameter) : Json :=
  .obj [("name", .str parameter.name), ("type", .str parameter.type.text),
    ("required", .bool parameter.required)]

def DefinitionValidation.json (validation : DefinitionValidation) : Json :=
  .obj [("fileCount", .num validation.fileCount 0),
    ("uncompressedBytes", .num validation.uncompressedBytes 0),
    ("validatedAt", .str (toISOString validation.validatedAt))]

/-- What the definitions index holds; an undeclared limit is left out. -/
def DefinitionDocument.json (document : DefinitionDocument) : Json :=
  .obj (defined [
    ("definitionId", some (.str document.definitionId)),
    ("name", some (.str document.name)),
    ("runtime", some (.str document.runtime.text)),
    ("runtimeVersion", some (.str document.runtimeVersion)),
    ("wrapperVersion", some (.str document.wrapperVersion)),
    ("entrypoint", some (.str document.entrypoint)),
    ("parameters", some (.arr (document.parameters.map JobParameter.json))),
    ("timeoutSeconds", some (.num document.timeoutSeconds 0)),
    ("memoryMb", document.memoryMb.map fun memoryMb => .num memoryMb 0),
    ("version", some (.num document.version 0)),
    ("state", some (.str document.state.text)),
    ("enabled", some (.bool document.enabled)),
    ("jobZip", document.jobZip.map JobZip.json),
    ("validation", some document.validation.json),
    ("createdAt", some (.str (toISOString document.createdAt))),
    ("updatedAt", some (.str (toISOString document.updatedAt)))])

/-- How a run comes to the definition that it executes. -/
inductive MetadataPath where
  | snapshot
  | lookup
  deriving DecidableEq, Repr

/-- What the run carries; a tick takes a snapshot, others look up. -/
def MetadataPath.executionMetadata
    (document : DefinitionDocument) :
    MetadataPath → Option Json
  | .snapshot =>
      some (ExecutionMetadata.buildExecutionMetadataSnapshot
        (some document.json))
  | .lookup => none

namespace ResourceLimits

/-! ## The process of a claimed run -/

structure Settings extends JobRuntimeExecutor.Settings where
  defaultTimeoutSeconds : Int := 300
  maxTimeoutSeconds : Int := 1800

/-- A whole number; definitions have no others. -/
def integer : Option Json → Option Int
  | some (.num mantissa 0) => some mantissa
  | _ => none

def effectiveTimeoutSeconds
    (settings : Settings)
    (timeoutSeconds : Option Int) :
    Int :=
  let requested :=
    match timeoutSeconds with
    | none => settings.defaultTimeoutSeconds
    | some timeoutSeconds =>
        if timeoutSeconds = 0 then settings.defaultTimeoutSeconds
        else timeoutSeconds
  if requested ≤ 0 then
    settings.defaultTimeoutSeconds
  else
    min requested settings.maxTimeoutSeconds

/-- `execution.definition`, as the executor reads it. -/
def executionDefinition
    (definition : List (String × Json)) :
    ExecutionDefinition where
  runtime := ExecutionMetadata.templateText (definition.lookup "runtime")
  runtimeVersion :=
    ExecutionMetadata.templateText (definition.lookup "runtimeVersion")
  entrypoint := definition.lookup "entrypoint"
  memoryMb := integer (definition.lookup "memoryMb")

/-- A process, and the seconds after which it is stopped. -/
structure Subprocess where
  spawn : Spawn
  timeoutSeconds : Int

inductive LaunchFailure where
  | metadata (failure : ExecutionMetadata.Failure)
  | execution (failure : ExecuteFailure)

/-- `executeClaimedRun`, from the loaded run to the process that it starts. -/
def spawnClaimedRun
    (settings : Settings)
    (host : Host)
    (run : ExecutionMetadata.Run)
    (getDefinition : Option Json)
    (request : Request)
    (buffer : ZipBuffer)
    (created : TemporaryDirectory) :
    Except LaunchFailure Subprocess := do
  let built ←
    (ExecutionMetadata.buildExecutionMetadata run getDefinition).mapError
      .metadata
  let spawn ←
    (JobRuntimeExecutor.execute settings.toSettings host
      { request with definition := some (executionDefinition built.definition) }
      buffer created).mapError .execution
  return {
    spawn
    timeoutSeconds :=
      effectiveTimeoutSeconds settings
        (integer (built.definition.lookup "timeoutSeconds")) }

/-! ## The property -/

/-- The argument that holds the limit: the flag, or the script of `bash -c`. -/
def limitArgument : Runtime → List String → Option String
  | .javascript, args => args[0]?
  | .python, args => args[1]?

def limitText (limitMb : Int) : Runtime → String
  | .javascript => "--max-old-space-size=" ++ toString limitMb
  | .python =>
      "ulimit -v " ++ toString (limitMb * 1024) ++ "; exec \"$0\" \"$@\""

/-- The limit that a definition asks for. -/
def declaredMemoryLimitMb
    (settings : Settings)
    (memoryMb : Option Int) :
    Int :=
  match memoryMb with
  | none => settings.defaultMemoryLimitMb
  | some memoryMb => min memoryMb settings.maxMemoryLimitMb

structure HasDeclaredLimits
    (settings : Settings)
    (document : DefinitionDocument)
    (subprocess : Subprocess) :
    Prop where
  memory :
    limitArgument document.runtime subprocess.spawn.args =
      some (limitText (declaredMemoryLimitMb settings document.memoryMb)
        document.runtime)
  timeout :
    subprocess.timeoutSeconds =
      min document.timeoutSeconds settings.maxTimeoutSeconds

/-- The default, clamped as a declared limit is, unless it is not positive. -/
def clampedDefaultMb (settings : Settings) : Int :=
  if settings.defaultMemoryLimitMb ≤ 0 then
    settings.defaultMemoryLimitMb
  else
    min settings.defaultMemoryLimitMb settings.maxMemoryLimitMb

/--
Nothing is declared and the default is within its bounds, or what is declared
comes to the same as the default.
-/
def DefaultSuffices (settings : Settings) (memoryMb : Option Int) : Prop :=
  match memoryMb with
  | none =>
      settings.defaultMemoryLimitMb ≤ 0 ∨
        settings.defaultMemoryLimitMb ≤ settings.maxMemoryLimitMb
  | some memoryMb =>
      min memoryMb settings.maxMemoryLimitMb = clampedDefaultMb settings

/-! ## What is read of a definition -/

section Reading

variable {run : RunDocument}
variable {document : DefinitionDocument}
variable {path : MetadataPath}
variable {live : Option Json}
variable {built : Built}

theorem definition_of_snapshot
    {loaded : ExecutionMetadata.Run}
    (read :
      ExecutionMetadata.fromSnapshot loaded
          (ExecutionMetadata.buildExecutionMetadataSnapshot
            (some document.json)) =
        .ok built) :
    built.definition =
      defined (ExecutionMetadata.definitionFields document.json) := by
  unfold ExecutionMetadata.fromSnapshot at read
  dsimp only at read
  split at read
  · cases read
  · split at read
    · cases read
    · split at read
      · cases read
      · split at read
        · cases read
        · cases read
          rw [(ExecutionMetadata.field_snapshot document.json).1]
          rfl

theorem definition_of_lookup
    {loaded : ExecutionMetadata.Run}
    (read :
      ExecutionMetadata.fromDefinition loaded (some document.json) =
        .ok built) :
    built.definition =
      defined (ExecutionMetadata.definitionFields document.json) := by
  unfold ExecutionMetadata.fromDefinition at read
  dsimp only at read
  split at read
  · cases read
  · split at read
    · cases read
    · split at read
      · cases read
      · cases read
        rfl

/-- Both paths keep the same seven fields of the document. -/
theorem definition_of_built
    (lookedUp : path = .lookup → live = some document.json)
    (read :
      ExecutionMetadata.buildExecutionMetadata
          (ExecutionMetadata.loadedRun (rowToDocument run.runId
            (documentToRow
              { run with
                executionMetadata := path.executionMetadata document })))
          live =
        .ok built) :
    built.definition =
      defined (ExecutionMetadata.definitionFields document.json) := by
  unfold ExecutionMetadata.buildExecutionMetadata at read
  split at read
  · cases read
  · cases path with
    | snapshot => exact definition_of_snapshot read
    | lookup =>
        rw [lookedUp rfl] at read
        exact definition_of_lookup read

/-- A field that is kept is what the document has. -/
theorem lookup_definitionFields (name : String) :
    (defined (ExecutionMetadata.definitionFields document.json)).lookup name =
      if name ∈ ["definitionId", "version", "runtime", "runtimeVersion",
          "wrapperVersion", "entrypoint", "timeoutSeconds"] then
        field (some document.json) name
      else
        none :=
  ExecutionMetadata.lookup_defined _ _ name

variable (document) in
/-- The declared memory is not read; the runtime and the timeout are. -/
theorem executionDefinition_document :
    (executionDefinition (defined (ExecutionMetadata.definitionFields
        document.json))).runtime = document.runtime.text ∧
      (executionDefinition (defined (ExecutionMetadata.definitionFields
        document.json))).memoryMb = none ∧
      integer ((defined (ExecutionMetadata.definitionFields
        document.json)).lookup "timeoutSeconds") =
          some document.timeoutSeconds := by
  refine ⟨?_, ?_, ?_⟩
  · rw [executionDefinition, lookup_definitionFields, if_pos (by decide)]
    rfl
  · rw [executionDefinition, lookup_definitionFields "memoryMb",
      if_neg (by decide)]
    rfl
  · rw [lookup_definitionFields, if_pos (by decide)]
    rfl

end Reading

/-! ## What is started -/

/-- The command line is that of the runtime, with the clamped limit. -/
theorem command_of_execute
    {settings : JobRuntimeExecutor.Settings}
    {host : Host}
    {request : Request}
    {definition : ExecutionDefinition}
    {buffer : ZipBuffer}
    {created : TemporaryDirectory}
    {spawn : Spawn}
    (requested : request.definition = some definition)
    (started :
      JobRuntimeExecutor.execute settings host request buffer created =
        .ok spawn) :
    ∃ entrypointPath,
      JobRuntimeExecutor.resolveSpawnCommand host
          (if definition.runtime = "python" then "python" else "javascript")
          definition.runtimeVersion entrypointPath
          (JobRuntimeExecutor.effectiveMemoryLimitMb settings
            definition.memoryMb) =
        .ok (spawn.command, spawn.args) := by
  obtain ⟨⟨validated, normalized⟩, checked, afterChecks⟩ :=
    bind_eq_ok.mp started
  have same :=
    (JobRuntimeExecutor.validated_of_request checked).1.symm.trans requested
  cases same
  obtain ⟨⟨⟩, -, isolated⟩ := bind_eq_ok.mp afterChecks
  obtain ⟨extracted, -, afterUnpack⟩ := bind_eq_ok.mp isolated
  obtain ⟨files, -, starting⟩ := bind_eq_ok.mp afterUnpack
  refine ⟨JobRuntimeExecutor.pathText extracted.entrypointPath, ?_⟩
  split at starting
  · rename_i python
    rw [if_pos python]
    exact (JobRuntimeExecutor.starts_of_python starting).resolved
  · rename_i notPython
    obtain ⟨copied, -, node⟩ := bind_eq_ok.mp starting
    rw [if_neg notPython]
    exact (JobRuntimeExecutor.starts_of_node node).resolved

theorem limitArgument_of_resolved
    {host : Host}
    {runtime : Runtime}
    {runtimeVersion entrypointPath command : String}
    {limitMb : Int}
    {args : List String}
    (resolved :
      JobRuntimeExecutor.resolveSpawnCommand host runtime.text runtimeVersion
          entrypointPath limitMb =
        .ok (command, args)) :
    limitArgument runtime args = some (limitText limitMb runtime) := by
  cases runtime with
  | javascript =>
      cases resolved
      rfl
  | python =>
      obtain ⟨pythonBin, -, finished⟩ := bind_eq_ok.mp resolved
      cases finished
      rfl

/-- Different limits are written differently. -/
theorem limitText_inj
    {first second : Int}
    {runtime : Runtime} :
    limitText first runtime = limitText second runtime ↔ first = second := by
  refine ⟨fun same => ?_, fun same => by rw [same]⟩
  cases runtime with
  | javascript =>
      exact Int.repr_injective (String.append_right_inj _ |>.mp same)
  | python =>
      have scripts := (String.append_left_inj _).mp same
      have scaled := Int.repr_injective (String.append_right_inj _ |>.mp scripts)
      omega

theorem effectiveMemoryLimitMb_none (settings : Settings) :
    JobRuntimeExecutor.effectiveMemoryLimitMb settings.toSettings none =
      clampedDefaultMb settings :=
  rfl

theorem declaredMemoryLimitMb_eq_default
    {settings : Settings}
    {memoryMb : Option Int} :
    declaredMemoryLimitMb settings memoryMb = clampedDefaultMb settings ↔
      DefaultSuffices settings memoryMb := by
  cases memoryMb with
  | none =>
      change settings.defaultMemoryLimitMb = clampedDefaultMb settings ↔ _ ∨ _
      unfold clampedDefaultMb
      split <;> omega
  | some memoryMb =>
      rfl

/-! ## When the limits arrive -/

section Arrival

variable {input : DefinitionInput}
variable {settings : Settings}
variable {host : Host}
variable {run : RunDocument}
variable {document : DefinitionDocument}
variable {path : MetadataPath}
variable {live : Option Json}
variable {request : Request}
variable {buffer : ZipBuffer}
variable {created : TemporaryDirectory}
variable {subprocess : Subprocess}

/-- An accepted timeout is there and positive, so it is only clamped. -/
theorem effectiveTimeoutSeconds_accepted
    (accepted :
      createJobDefinitionSchema input = some document.toDefinitionMetadata) :
    effectiveTimeoutSeconds settings (some document.timeoutSeconds) =
      min document.timeoutSeconds settings.maxTimeoutSeconds := by
  have bounded : 30 ≤ document.timeoutSeconds := by
    unfold createJobDefinitionSchema at accepted
    split at accepted
    · rename_i valid
      simp only [Bool.and_eq_true] at valid
      obtain ⟨runtime, -, parsed⟩ := Option.bind_eq_some_iff.mp accepted
      obtain ⟨parameters, -, metadata⟩ := Option.map_eq_some_iff.mp parsed
      have declared :
          input.timeoutSeconds.getD 1800 = document.timeoutSeconds :=
        congrArg DefinitionMetadata.timeoutSeconds metadata
      have limits := valid.1.2
      rw [← declared]
      cases given : input.timeoutSeconds with
      | none => decide
      | some timeoutSeconds =>
          rw [given] at limits
          simp only [Option.all_some, isTimeoutSeconds, Bool.and_eq_true,
            decide_eq_true_eq] at limits
          exact limits.1
    · cases accepted
  rw [effectiveTimeoutSeconds, if_neg (by omega), if_neg (by omega)]

/-- The process gets the declared timeout, and the default for its memory. -/
theorem limits_of_spawned
    (accepted :
      createJobDefinitionSchema input = some document.toDefinitionMetadata)
    (lookedUp : path = .lookup → live = some document.json)
    (spawned :
      spawnClaimedRun settings host
          (ExecutionMetadata.loadedRun (rowToDocument run.runId
            (documentToRow
              { run with
                executionMetadata := path.executionMetadata document })))
          live request buffer created =
        .ok subprocess) :
    limitArgument document.runtime subprocess.spawn.args =
        some (limitText (clampedDefaultMb settings) document.runtime) ∧
      subprocess.timeoutSeconds =
        min document.timeoutSeconds settings.maxTimeoutSeconds := by
  obtain ⟨built, read, afterRead⟩ := bind_eq_ok.mp spawned
  obtain ⟨spawn, started, finished⟩ := bind_eq_ok.mp afterRead
  cases finished
  have definition :=
    definition_of_built lookedUp (JobRuntimeExecutor.mapError_eq_ok.mp read)
  obtain ⟨runtime, memoryMb, timeoutSeconds⟩ :=
    executionDefinition_document document
  obtain ⟨entrypointPath, resolved⟩ :=
    command_of_execute rfl (JobRuntimeExecutor.mapError_eq_ok.mp started)
  rw [definition, runtime, memoryMb, effectiveMemoryLimitMb_none] at resolved
  constructor
  · apply limitArgument_of_resolved
    have text :
        (if document.runtime.text = "python" then "python" else "javascript") =
          document.runtime.text := by
      cases document.runtime <;> rfl
    rw [text] at resolved
    exact resolved
  · rw [definition, timeoutSeconds]
    exact effectiveTimeoutSeconds_accepted accepted

/--
A process that is started for a run of the definition has the declared limits
exactly when the clamped default happens to be the declared memory.
-/
theorem hasDeclaredLimits_iff
    (accepted :
      createJobDefinitionSchema input = some document.toDefinitionMetadata)
    (lookedUp : path = .lookup → live = some document.json)
    (spawned :
      spawnClaimedRun settings host
          (ExecutionMetadata.loadedRun (rowToDocument run.runId
            (documentToRow
              { run with
                executionMetadata := path.executionMetadata document })))
          live request buffer created =
        .ok subprocess) :
    HasDeclaredLimits settings document subprocess ↔
      DefaultSuffices settings document.memoryMb := by
  obtain ⟨memory, timeout⟩ := limits_of_spawned accepted lookedUp spawned
  rw [← declaredMemoryLimitMb_eq_default]
  constructor
  · intro declared
    have same := declared.memory.symm.trans memory
    exact limitText_inj.mp (Option.some.inj same)
  · intro same
    refine ⟨?_, timeout⟩
    rw [same]
    exact memory

end Arrival

/-! ## A definition that declares its memory, and one that does not -/

def nightlyDocument (memoryMb : Option Int) : DefinitionDocument where
  toDefinitionMetadata :=
    { JobRuntimeExecutor.jobMetadata "main.js" with memoryMb }
  version := 1
  state := .active
  enabled := true
  jobZip := some ⟨"gs://jobs/approved/nightly-sync/hash/job.zip", "hash",
    some "1700000000000000"⟩
  validation := { fileCount := 2, uncompressedBytes := 66, validatedAt := 0 }
  createdAt := 0
  updatedAt := 0

def nightlyInput (memoryMb : Option Int) : DefinitionInput :=
  { JobRuntimeExecutor.jobInput "main.js" with memoryMb }

def nightlyInstance : InstanceDocument where
  instanceId := "nightly"
  tenantId := none
  definitionId := "nightly-sync"
  definitionVersion := 1
  definitionParameterSchema := []
  enabled := true
  state := .active
  schedule := ⟨"cron", some "0 0 * * *", none, none⟩
  nextFireAt := some 0
  lastFireAt := none
  parameters := []
  createdAt := 0
  updatedAt := 0

/-- What is started for a run of the definition, on either path. -/
def nightlySpawned
    (memoryMb : Option Int)
    (path : MetadataPath) :
    Except LaunchFailure Subprocess :=
  let run := buildRunDocument "run-1" nightlyInstance 0 0 none
  spawnClaimedRun { requireRuntimeIsolation := false }
    JobRuntimeExecutor.nodeHost
    (ExecutionMetadata.loadedRun (rowToDocument run.runId (documentToRow
      { run with
        executionMetadata :=
          path.executionMetadata (nightlyDocument memoryMb) })))
    (some (nightlyDocument memoryMb).json)
    (JobRuntimeExecutor.jobRequest "main.js")
    (JobRuntimeExecutor.jobArchive "main.js")
    ZipArtifacts.emptyTemporaryDirectory

/-- Without a declared memory both limits arrive. -/
theorem hasDeclaredLimits_nightly :
    ∃ subprocess,
      nightlySpawned none .snapshot = .ok subprocess ∧
        HasDeclaredLimits { requireRuntimeIsolation := false }
          (nightlyDocument none) subprocess := by
  obtain ⟨subprocess, spawned⟩ :
      ∃ subprocess, nightlySpawned none .snapshot = .ok subprocess :=
    ⟨_, rfl⟩
  have accepted :
      createJobDefinitionSchema (nightlyInput none) =
        some (nightlyDocument none).toDefinitionMetadata :=
    rfl
  refine ⟨subprocess, spawned, ?_⟩
  exact (hasDeclaredLimits_iff accepted (fun _ => rfl) spawned).mpr
    (.inr (by decide))

/-- 128 MB are declared, and the process gets the default of 256 MB. -/
theorem declaredMemory_not_reached :
    ¬ ∀ (settings : Settings) (host : Host) (input : DefinitionInput)
        (run : RunDocument) (document : DefinitionDocument)
        (path : MetadataPath) (live : Option Json) (request : Request)
        (buffer : ZipBuffer) (created : TemporaryDirectory)
        (subprocess : Subprocess),
        createJobDefinitionSchema input =
          some document.toDefinitionMetadata →
        (path = .lookup → live = some document.json) →
        spawnClaimedRun settings host
            (ExecutionMetadata.loadedRun (rowToDocument run.runId
              (documentToRow
                { run with
                  executionMetadata := path.executionMetadata document })))
            live request buffer created =
          .ok subprocess →
        HasDeclaredLimits settings document subprocess := by
  intro always
  obtain ⟨subprocess, spawned⟩ :
      ∃ subprocess, nightlySpawned (some 128) .snapshot = .ok subprocess :=
    ⟨_, rfl⟩
  have accepted :
      createJobDefinitionSchema (nightlyInput (some 128)) =
        some (nightlyDocument (some 128)).toDefinitionMetadata :=
    rfl
  have declared :=
    (always _ _ _ _ _ _ _ _ _ _ subprocess accepted (fun _ => rfl)
      spawned).memory
  have started := (limits_of_spawned accepted (fun _ => rfl) spawned).1
  have same := limitText_inj.mp (Option.some.inj (declared.symm.trans started))
  exact absurd same (by decide)

end ResourceLimits

end IgaScheduler

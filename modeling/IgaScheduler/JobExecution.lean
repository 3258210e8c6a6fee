import IgaScheduler.AbsolutePaths
import IgaScheduler.Utf8Chunks
import IgaScheduler.ZipArtifacts

namespace IgaScheduler

/-!
# `JobRuntimeExecutor.execute`

From an artifact and the definition that is pinned to a run to the process that
is spawned for it: what is started, and which files it finds.
-/

namespace JobRuntimeExecutor

open ZipArtifacts (Extracted Failure Files Path TemporaryDirectory
  ValidationError ZipBuffer)

/-- The fields of `execution.definition` that the executor reads. -/
structure ExecutionDefinition where
  runtime : String
  runtimeVersion : String
  entrypoint : Option Json
  memoryMb : Option Int

/-- The arguments of `execute`, without the artifact. -/
structure Request where
  runId : String
  dispatchId : Option String
  definition : Option ExecutionDefinition
  context : Option Json

structure Settings where
  allowedRuntimes : List (String × List String) :=
    [("javascript", ["nodejs22", "22"]), ("python", ["python311", "python312"])]
  defaultMemoryLimitMb : Int := 256
  maxMemoryLimitMb : Int := 512
  requireRuntimeIsolation : Bool

/-- The process of the worker; `sdkSource` is what `SDK_SOURCE_PATH` holds. -/
structure Host where
  execPath : String
  env : String → Option String
  sdkSource : List UInt8
  pythonSdkPath : String

/-- What `_spawnEntrypoint` starts, and the files at that moment. -/
structure Spawn where
  command : String
  args : List String
  cwd : String
  env : List (String × String)
  files : Files

/-- What `execute` throws before anything is spawned. -/
inductive ExecuteFailure where
  | validation (error : ValidationError)
  | files (failure : Failure)

def validationError (code message : String) : ExecuteFailure :=
  .validation ⟨code, message, false⟩

/-- The value of an environment variable, if it is not empty. -/
def Host.envValue (host : Host) (name : String) : Option String :=
  (host.env name).filter fun value => value ≠ ""

/-- The text of a path in the file system. -/
def pathText (path : Path) : String :=
  String.ofList (PosixPaths.absoluteText path)

section Requests

variable (settings : Settings)

def validateRuntime
    (runtime runtimeVersion : String) :
    Except ExecuteFailure Unit :=
  match settings.allowedRuntimes.lookup runtime with
  | none =>
      .error (validationError "RUNTIME_UNSUPPORTED"
        ("unsupported runtime: " ++ runtime))
  | some allowedVersions =>
      if allowedVersions.contains runtimeVersion then
        .ok ()
      else
        .error (validationError "RUNTIME_VERSION_UNSUPPORTED"
          ("unsupported runtimeVersion for " ++ runtime ++ ": " ++
            runtimeVersion))

/-- The definition, and its normalised entrypoint. -/
def validateExecuteRequest
    (request : Request) :
    Except ExecuteFailure (ExecutionDefinition × String) :=
  if request.runId = "" then
    .error (validationError "RUNTIME_RUN_ID_REQUIRED" "runId is required")
  else
    match request.definition with
    | none =>
        .error (validationError "RUNTIME_DEFINITION_REQUIRED"
          "execution definition is required")
    | some definition => do
        validateRuntime settings definition.runtime definition.runtimeVersion
        let normalized ←
          (ZipArtifacts.validateEntrypoint definition.entrypoint).mapError
            .validation
        return (definition, normalized)

def validateRuntimeIsolation : Except ExecuteFailure Unit :=
  if settings.requireRuntimeIsolation then
    .error (validationError "RUNTIME_ISOLATION_REQUIRED"
      ("runtime isolation is required before executing untrusted job " ++
        "artifacts; set WORKER_REQUIRE_RUNTIME_ISOLATION=false in " ++
        "environments where the container provides isolation"))
  else
    .ok ()

def effectiveMemoryLimitMb (memoryMb : Option Int) : Int :=
  let requested :=
    match memoryMb with
    | none => settings.defaultMemoryLimitMb
    | some memoryMb =>
        if memoryMb = 0 then settings.defaultMemoryLimitMb else memoryMb
  if requested ≤ 0 then
    settings.defaultMemoryLimitMb
  else
    min requested settings.maxMemoryLimitMb

end Requests

/-! ## Files that are put beside the extracted ones -/

def contextDirectory : Path :=
  [".iga".toList]

def contextFile : Path :=
  [".iga".toList, "context.json".toList]

def sdkFile : Path :=
  ["scheduler-sdk.js".toList]

/-- `context || {}`. -/
def contextOrEmpty (context : Option Json) : Json :=
  match context with
  | some context =>
      if JavaScript.truthy (some context) then context else .obj []
  | none => .obj []

/-- What is written into the context file. -/
def contextText (context : Option Json) : List UInt8 :=
  Utf8Chunks.encode
    (JavaScript.stringifyIndented "" (contextOrEmpty context)).toList

def writeContextFile
    (files : Files)
    (extractDir : Path)
    (context : Option Json) :
    Except Failure Files := do
  let files ← ZipArtifacts.mkdir files (extractDir ++ contextDirectory)
  ZipArtifacts.writeStreamToFile files (contextText context)
    (extractDir ++ contextFile)

/-- `fs.copyFile` of `SDK_SOURCE_PATH`. -/
def copySdk
    (host : Host)
    (files : Files)
    (extractDir : Path) :
    Except Failure Files :=
  ZipArtifacts.writeStreamToFile files host.sdkSource (extractDir ++ sdkFile)

/-! ## The process -/

section Processes

variable (settings : Settings)
variable (host : Host)

def resolvePythonBinary
    (runtimeVersion : String) :
    Except ExecuteFailure String :=
  match runtimeVersion with
  | "python311" => .ok ((host.envValue "PYTHON311_BIN").getD "python3.11")
  | "python312" => .ok ((host.envValue "PYTHON312_BIN").getD "python3.12")
  | _ =>
      .error (validationError "RUNTIME_VERSION_UNSUPPORTED"
        ("unsupported Python version: " ++ runtimeVersion))

def resolveSpawnCommand
    (runtime runtimeVersion entrypointPath : String)
    (memoryLimitMb : Int) :
    Except ExecuteFailure (String × List String) :=
  if runtime = "python" then do
    let pythonBin ← resolvePythonBinary host runtimeVersion
    return ("bash",
      ["-c", "ulimit -v " ++ toString (memoryLimitMb * 1024) ++
        "; exec \"$0\" \"$@\"", pythonBin, entrypointPath])
  else
    .ok (host.execPath,
      ["--max-old-space-size=" ++ toString memoryLimitMb, entrypointPath])

/-- The variables that tell a job which run it belongs to. -/
def brokerEnv (dispatchId : Option String) : List (String × String) :=
  ((host.envValue "RUNTIME_BROKER_URL").map fun url =>
      ("IGA_BROKER_URL", url)).toList ++
    ((dispatchId.filter fun dispatchId => dispatchId ≠ "").map fun dispatchId =>
      ("IGA_SCHEDULER_DISPATCH_ID", dispatchId)).toList

def executeNodeEntrypoint
    (request : Request)
    (definition : ExecutionDefinition)
    (extracted : Extracted)
    (files : Files) :
    Except ExecuteFailure Spawn := do
  let (command, args) ←
    resolveSpawnCommand host "javascript" definition.runtimeVersion
      (pathText extracted.entrypointPath)
      (effectiveMemoryLimitMb settings definition.memoryMb)
  return {
    command
    args
    cwd := pathText extracted.extractDir
    env :=
      [("NODE_ENV", "production"),
        ("IGA_SCHEDULER_RUN_ID", request.runId),
        ("IGA_SCHEDULER_CONTEXT_FILE",
          pathText (extracted.extractDir ++ contextFile))] ++
        brokerEnv host request.dispatchId
    files }

def executePythonEntrypoint
    (request : Request)
    (definition : ExecutionDefinition)
    (extracted : Extracted)
    (files : Files) :
    Except ExecuteFailure Spawn := do
  let (command, args) ←
    resolveSpawnCommand host "python" definition.runtimeVersion
      (pathText extracted.entrypointPath)
      (effectiveMemoryLimitMb settings definition.memoryMb)
  let pythonPath :=
    match host.envValue "PYTHONPATH" with
    | some existing => host.pythonSdkPath ++ ":" ++ existing
    | none => host.pythonSdkPath
  return {
    command
    args
    cwd := pathText extracted.extractDir
    env :=
      [("IGA_SCHEDULER_RUN_ID", request.runId),
        ("IGA_SCHEDULER_CONTEXT_FILE",
          pathText (extracted.extractDir ++ contextFile)),
        ("PYTHONPATH", pythonPath)] ++
        brokerEnv host request.dispatchId
    files }

/-- `execute`, for the buffer that `resolveArtifactBuffer` has returned. -/
def execute
    (request : Request)
    (buffer : ZipBuffer)
    (created : TemporaryDirectory) :
    Except ExecuteFailure Spawn := do
  let (definition, normalizedEntrypoint) ←
    validateExecuteRequest settings request
  validateRuntimeIsolation settings
  let extracted ←
    (ZipArtifacts.safeZipExtract buffer normalizedEntrypoint created).mapError
      .files
  let files ←
    (writeContextFile extracted.files extracted.extractDir
      request.context).mapError .files
  if definition.runtime = "python" then
    executePythonEntrypoint settings host request definition extracted files
  else
    let files ←
      (copySdk host files extracted.extractDir).mapError .files
    executeNodeEntrypoint settings host request definition extracted files

end Processes

end JobRuntimeExecutor

end IgaScheduler

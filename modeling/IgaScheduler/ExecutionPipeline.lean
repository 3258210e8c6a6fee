import IgaScheduler.EntrypointSyntax
import IgaScheduler.ExitClassification
import IgaScheduler.JobContext
import IgaScheduler.LocalDefinitions
import IgaScheduler.LocalExecution
import IgaScheduler.ResourceLimits
import IgaScheduler.TracedComputations

namespace IgaScheduler

/-!
# `WorkerRunService._runClaimedLocally`

An execution with everything that passes through it: from the loaded run to the
definition and the artifact it is pinned to, to the parameters and the job, and
from the end of the job to the column and the audit event that tell about it.
What the other systems answer is a parameter.
-/

open ExecutionMetadata (Built defined field strictEquals templateText)
open JobRuntimeExecutor (Host Spawn)
open LocalDefinitions (Archives)
open RetryClassifier (Classification WorkerError classifyWorkerError)
open Tracing (Traced)
open ZipArtifacts (FileError TemporaryDirectory)

namespace WorkerRunService

/-- An error as the worker reads it; one of the executor carries a result. -/
structure WorkerFailure where
  fields : WorkerError
  message : String
  execution : Option ExitClassification.Execution := none

/-- An error with a code; `retryable` is set where the source sets it. -/
def codedError
    (code message : String)
    (retryable : Option Bool := none) :
    WorkerFailure where
  fields :=
    { retryable := retryable.map .bool
      code := some (.str code) }
  message

/-- The event `close` of a process, and the chunks of both streams before. -/
structure Close where
  stdout : List (List UInt8)
  stderr : List (List UInt8)
  exitCode : Option Int
  signal : Option String
  timedOut : Bool
  startedAt : String
  endedAt : String

/-- How a process that was started has ended. -/
inductive ProcessEnd where
  /-- The event `error`. -/
  | failed (message : String)
  | closed (close : Close)

/-- A worker, and what the systems around it answer. -/
structure Worker (β : Type) where
  auditActor : String
  archives : Archives β
  /-- `file.download()` of an object's generation, or the message it throws. -/
  download :
    (bucketName objectName generation : String) → Except String β
  /-- The document of a definition, `null` for a miss. -/
  getDefinition : String → Except WorkerFailure (Option Json)
  resolver : SecretManagerParameterResolver
  client : SecretManager WorkerFailure
  settings : ResourceLimits.Settings
  limits : JobOutput.Limits
  maxStderrBytes : Nat
  host : Host
  created : TemporaryDirectory
  fileMessage : FileError → String
  process : Spawn → ProcessEnd
  /-- `JSON.parse(text)`. -/
  parse : List Nat → Except String Json
  /-- What the database throws at a value that is no `jsonb`. -/
  refusal : WorkerFailure
  /-- `this.now()` behind the job, and in the `catch` block. -/
  endedAt : Timestamp
  failedAt : Timestamp

section Steps

variable {β : Type}
variable (worker : Worker β)
variable (run : RunDocument)

/-! ## The definition and the artifact -/

def metadataError (failure : ExecutionMetadata.Failure) : WorkerFailure :=
  codedError failure.code failure.message

/-- The definition is looked up for a run that carries no snapshot. -/
def looksUp : Bool :=
  run.definitionId ≠ "" &&
    !JavaScript.truthy (ExecutionMetadata.loadedRun run).executionMetadata

def buildExecutionMetadata : Except WorkerFailure Built := do
  let definition ←
    if looksUp run then worker.getDefinition run.definitionId else .ok none
  (ExecutionMetadata.buildExecutionMetadata (ExecutionMetadata.loadedRun run)
    definition).mapError metadataError

/-- The bucket is what stands before the first slash. -/
def parseGcsUri (uri : Option Json) : Except WorkerFailure (String × String) :=
  match uri with
  | some (.str uri) =>
      let invalid :=
        codedError "ARTIFACT_URI_INVALID"
          ("invalid GCS artifact URI: " ++ uri)
      if ¬ JavaScript.startsWith uri "gs://" then
        .error invalid
      else
        let withoutScheme := uri.toList.drop "gs://".length
        let bucketName := withoutScheme.takeWhile fun letter => letter ≠ '/'
        let objectName := withoutScheme.drop (bucketName.length + 1)
        -- without a slash, nothing is left for the object
        if bucketName = [] ∨ objectName = [] then
          .error invalid
        else
          .ok (String.ofList bucketName, String.ofList objectName)
  | _ => .error { fields := {}, message := "uri.startsWith is not a function" }

/-- `execution.artifact.verification`. -/
structure Verification (β : Type) where
  sha256 : String
  generation : String
  fileCount : Nat
  uncompressedBytes : Nat
  buffer : β

def verifyApprovedArtifact
    (execution : Built) :
    Except WorkerFailure (Verification β) := do
  let uri := execution.artifact.lookup "uri"
  let generation := templateText (execution.artifact.lookup "generation")
  let (bucketName, objectName) ← parseGcsUri uri
  let buffer ←
    (worker.download bucketName objectName generation).mapError fun message =>
      codedError "ARTIFACT_DOWNLOAD_FAILED"
        ("approved artifact download failed for " ++ templateText uri ++
          ": " ++ message)
  let actualSha256 := worker.archives.sha256 buffer
  if strictEquals (some (.str actualSha256))
      (execution.artifact.lookup "sha256") = false then
    .error (codedError "ARTIFACT_SHA256_MISMATCH"
      ("approved artifact sha256 mismatch for " ++ templateText uri))
  else do
    let zipInfo ←
      (ZipArtifacts.validateZipBuffer worker.archives.parse
        (worker.archives.buffer buffer)
        { entrypoint := execution.definition.lookup "entrypoint"
          runtime := execution.definition.lookup "runtime"
          wrapperVersion :=
            execution.definition.lookup "wrapperVersion" }).mapError
        fun message =>
          codedError "ARTIFACT_ZIP_INVALID" message (some false)
    return {
      sha256 := actualSha256
      generation
      fileCount := zipInfo.fileCount
      uncompressedBytes := zipInfo.uncompressedBytes
      buffer }

/-! ## The job -/

def launchError : JobRuntimeExecutor.ExecuteFailure → WorkerFailure
  | .validation error =>
      { fields := (JobRuntimeExecutor.ExecuteFailure.validation error).thrown
        message := error.message }
  | .files (.message text) =>
      { fields := (JobRuntimeExecutor.ExecuteFailure.files
          (.message text)).thrown
        message := text }
  | .files (.file error) =>
      { fields := (JobRuntimeExecutor.ExecuteFailure.files
          (.file error)).thrown
        message := worker.fileMessage error }

/-- What `execute` is called with. -/
def executeRequest
    (execution : Built)
    (params : List (String × ResolvedParameter)) :
    JobRuntimeExecutor.Request where
  runId := run.runId
  dispatchId := run.dispatchId
  definition :=
    some (ResourceLimits.executionDefinition execution.definition)
  context :=
    some (buildRuntimeContext run (.obj execution.definition)
      (ParameterReaders.contextParams params))

/-- The process of a job, started for what its parameters have become. -/
def launch
    (execution : Built)
    (verification : Verification β)
    (params : List (String × ResolvedParameter)) :
    Except WorkerFailure Spawn :=
  (JobRuntimeExecutor.execute worker.settings.toSettings worker.host
    (executeRequest run execution params)
    (worker.archives.buffer verification.buffer)
    worker.created).mapError (launchError worker)

/-- What `_spawnEntrypoint` knows of the job that it has started. -/
def spawnedJob
    (execution : Built)
    (startedAt : String) :
    ExitClassification.Job where
  runId := run.runId
  definition := ResourceLimits.executionDefinition execution.definition
  timeoutSeconds :=
    ResourceLimits.effectiveTimeoutSeconds worker.settings
      (ResourceLimits.integer (execution.definition.lookup "timeoutSeconds"))
  startedAt

/-- What the events of the process have left. -/
def Worker.closing (close : Close) : ExitClassification.Closing where
  stdout := JobOutput.capture worker.limits.maxStdoutBytes close.stdout
  stderr := JobOutput.capture worker.maxStderrBytes close.stderr
  exitCode := close.exitCode
  signal := close.signal
  timedOut := close.timedOut
  endedAt := close.endedAt

def executionFailure
    (error : ExitClassification.ExecutionError) :
    WorkerFailure where
  fields := error.thrown
  message := error.message
  execution := error.execution

/-- What the promise of `_spawnEntrypoint` settles with. -/
def settle (execution : Built) :
    ProcessEnd → Except WorkerFailure ExitClassification.Execution
  | .failed message =>
      .error (codedError "RUNTIME_PROCESS_FAILED" message (some true))
  | .closed close =>
      (ExitClassification.onClose worker.parse worker.settings.toSettings
        worker.limits (spawnedJob worker run execution close.startedAt)
        (worker.closing close)).mapError executionFailure

/-! ## What is recorded -/

/--
`normalizeExecutionResult`, which leaves out `memoryLimitMb`; `none` for a
text that keeps only half of a surrogate pair, which no `Json` does.
-/
def normalizeExecutionResult
    (result : ExitClassification.Execution) :
    Option Json := do
  let stdout ← JavaScript.scalars? result.stdout
  let stderr ← JavaScript.scalars? result.stderr
  return .obj (defined [
    ("status", some (.str result.status)),
    ("runId", some (.str result.runId)),
    ("runtime", some (.str result.runtime)),
    ("runtimeVersion", some (.str result.runtimeVersion)),
    ("entrypoint", result.entrypoint),
    ("exitCode",
      some ((result.exitCode.map fun code => Json.num code 0).getD .null)),
    ("signal", some (PublicRuns.optionalText result.signal)),
    ("timedOut", some (.bool result.timedOut)),
    ("timeoutSeconds", some (.num result.timeoutSeconds 0)),
    ("stdout", some (.str (String.ofList stdout))),
    ("stderr", some (.str (String.ofList stderr))),
    ("stdoutTruncated", some (.bool result.stdoutTruncated)),
    ("stderrTruncated", some (.bool result.stderrTruncated)),
    ("output", some result.output),
    ("startedAt", some (.str result.startedAt)),
    ("endedAt", some (.str result.endedAt))])

def retryJson (classification : Classification) : Json :=
  .obj [("retryable", .bool classification.retryable),
    ("classification", .str classification.classification),
    ("reason", .str classification.reason)]

def serializeError
    (error : WorkerFailure)
    (classification : Classification) :
    Option Json := do
  let execution ←
    match error.execution with
    | none => some []
    | some result =>
        (normalizeExecutionResult result).map fun result =>
          [("execution", result)]
  return .obj (defined [("code", error.fields.code),
    ("message", some (.str error.message))] ++ execution ++
      [("retry", retryJson classification)])

/-- The value of a `jsonb` column, if the column takes it. -/
def jsonb (value : Option Json) : Option Json :=
  value.filter withoutNull

/-- A document of the audit index, without its `eventId`. -/
structure WorkerAuditEvent where
  event : AuditEvent
  outcome : String
  actor : String
  runId : String
  createdAt : Timestamp
  details : Json
  jobDefinitionId : String
  jobInstanceId : String
  runtime : Option Json := none
  runtimeVersion : Option Json := none
  entrypoint : Option Json := none
  errorCode : Option Json := none
  errorMessage : Option String := none
  retry : Option Classification := none

/-- `buildWorkerAuditEvent`, for a run that was loaded. -/
def buildWorkerAuditEvent
    (event : AuditEvent)
    (outcome : String)
    (createdAt : Timestamp)
    (execution : Option Built)
    (details : List (String × Option Json)) :
    WorkerAuditEvent where
  event
  outcome
  actor := worker.auditActor
  runId := run.runId
  createdAt
  details := .obj (defined details)
  jobDefinitionId := run.definitionId
  jobInstanceId := run.instanceId
  runtime := execution.bind fun built => built.definition.lookup "runtime"
  runtimeVersion :=
    execution.bind fun built => built.definition.lookup "runtimeVersion"
  entrypoint :=
    execution.bind fun built => built.definition.lookup "entrypoint"

/-- The fields of a definition that the details repeat. -/
def runtimeDetails (execution : Built) : List (String × Option Json) :=
  [("runtime", execution.definition.lookup "runtime"),
    ("runtimeVersion", execution.definition.lookup "runtimeVersion"),
    ("entrypoint", execution.definition.lookup "entrypoint")]

def artifactDetails
    (execution : Built)
    (verification : Verification β) :
    String × Option Json :=
  ("artifact", some (.obj (defined [
    ("uri", execution.artifact.lookup "uri"),
    ("sha256", some (.str verification.sha256)),
    ("generation", some (.str verification.generation)),
    ("fileCount", some (.num verification.fileCount 0)),
    ("uncompressedBytes", some (.num verification.uncompressedBytes 0))])))

def periodDetails (startedAt endedAt : Timestamp) :
    List (String × Option Json) :=
  [("startedAt", some (.str (toISOString startedAt))),
    ("endedAt", some (.str (toISOString endedAt)))]

/-! ## The execution -/

/-- What an execution does to the world, beside the job itself. -/
inductive Effect where
  | audited (event : WorkerAuditEvent)
  /-- A call of the secret manager. -/
  | accessed (access : SecretAccess)
  /-- A statement that the database has taken. -/
  | wrote (write : RunWrite)

abbrev Step (α : Type) := Traced Effect WorkerFailure α

def audit (event : WorkerAuditEvent) : Step Unit :=
  Traced.emit (.audited event)

def resolutionError : ResolutionFailure WorkerFailure → WorkerFailure
  | .refused error =>
      codedError error.code error.message (some error.retryable)
  | .access error => error

def resolveRuntimeParameters : Step (List (String × ResolvedParameter)) :=
  let resolution :=
    worker.resolver.resolveParameters worker.client
      (ParameterReaders.entries run.params)
  { effects := resolution.calls.map .accessed
    outcome := resolution.outcome.mapError resolutionError }

/-- What the job is started from. -/
structure Prepared (β : Type) where
  execution : Built
  verification : Verification β

/-- The steps before the job, with their audit events. -/
def prepare (startedAt : Timestamp) : Step (Prepared β) := do
  let execution ← Traced.ofExcept (buildExecutionMetadata worker run)
  audit (buildWorkerAuditEvent worker run .metadataLoaded "loaded" startedAt
    (some execution) (runtimeDetails execution))
  let verification ←
    Traced.ofExcept (verifyApprovedArtifact worker execution)
  audit (buildWorkerAuditEvent worker run .artifactVerified "verified"
    startedAt (some execution) [artifactDetails execution verification])
  audit (buildWorkerAuditEvent worker run .executionStarted "started"
    startedAt (some execution) [])
  return { execution, verification }

/-- The secrets are fetched, and the job runs. -/
def runJob (prepared : Prepared β) : Step ExitClassification.Execution := do
  let params ← resolveRuntimeParameters worker run
  let spawn ←
    Traced.ofExcept
      (launch worker run prepared.execution prepared.verification params)
  Traced.ofExcept
    (settle worker run prepared.execution (worker.process spawn))

-- The row that the outcome is written to.
variable (row : Option JobRun)

/-- A value that is no `jsonb` makes the statement throw. -/
def update
    (column : Option Json)
    (write : Json → RunWrite) :
    Step Bool :=
  match jsonb column with
  | none => Traced.ofExcept (.error worker.refusal)
  | some value => do
      Traced.emit (.wrote (write value))
      return row.any (write value).update.guard

def markSucceeded (result : Option Json) : Step Bool :=
  update worker row result fun result =>
    .markSucceeded worker.endedAt (some result) none run.dispatchId

def markFailed
    (error : WorkerFailure)
    (retryClassification : Classification) :
    Step Bool :=
  update worker row (serializeError error retryClassification) fun error =>
    .markFailed worker.failedAt (some error) none run.dispatchId

/-- The end of the `try` block. -/
def reportSuccess
    (startedAt : Timestamp)
    (prepared : Prepared β)
    (result : ExitClassification.Execution) :
    Step Execution.Outcome := do
  let updated ← markSucceeded worker run row (normalizeExecutionResult result)
  if updated then
    audit (buildWorkerAuditEvent worker run .executionSucceeded "success"
      worker.endedAt (some prepared.execution)
      (periodDetails startedAt worker.endedAt ++
        runtimeDetails prepared.execution ++
        [artifactDetails prepared.execution prepared.verification]))
    return .completed
  else
    return .skipped "CANCELLED"

/-- The `try` block. -/
def attempt (startedAt : Timestamp) : Step Execution.Outcome := do
  let prepared ← prepare worker run startedAt
  let result ← runJob worker run prepared
  reportSuccess worker run row startedAt prepared result

/-- The `catch` block. -/
def recover
    (startedAt : Timestamp)
    (error : WorkerFailure) :
    Step Execution.Outcome := do
  let retryClassification := classifyWorkerError error.fields
  let _ ← markFailed worker run row error retryClassification
  audit
    { buildWorkerAuditEvent worker run .executionFailed "failure"
        worker.failedAt none (periodDetails startedAt worker.failedAt) with
      errorCode := error.fields.code
      errorMessage := some error.message
      retry := some retryClassification }
  Traced.ofExcept (.error error)

def runClaimedLocally (startedAt : Timestamp) : Step Execution.Outcome :=
  (attempt worker run row startedAt).orCatch
    (recover worker run row startedAt)

/-- `fetched` is the row that `getRun` has found. -/
def executeClaimedRun
    (runId dispatchId : String)
    (fetched : Option JobRun)
    (startedAt : Timestamp) :
    Step Execution.Outcome :=
  match fetched with
  | none => return .skipped "UNKNOWN"
  | some fetched =>
      runClaimedLocally worker
        { rowToDocument runId fetched with dispatchId := some dispatchId } row
        startedAt

end Steps

/-- The row behind the statements that the database has taken. -/
def rowAfter
    (row : JobRun)
    (effects : List Effect) :
    JobRun :=
  effects.foldl (fun row effect =>
    match effect with
    | .wrote write => write.update.apply row
    | _ => row) row

/-! ## A run of the nightly job -/

def sealedDocument : DefinitionDocument :=
  { ResourceLimits.nightlyDocument none with
    jobZip := some ⟨"gs://jobs/approved/nightly-sync/job.zip",
      LocalDefinitions.jobArchives.sha256
        (JobRuntimeExecutor.jobArchive "main.js"), some "1"⟩ }

/-- The job reads a token. -/
def nightlyClaim : JobRun :=
  { JobRuntimeExecutor.nightlyRun.toJobRun with
    params := [("token", .sensitive "job-param-token")]
    executionMetadata :=
      some (ExecutionMetadata.buildExecutionMetadataSnapshot
        (some sealedDocument.json)) }

def nightlyClose (stdout : List (List UInt8)) (exitCode : Int) : Close where
  stdout
  stderr := []
  exitCode := some exitCode
  signal := none
  timedOut := false
  startedAt := "2025-08-01T12:00:01.000Z"
  endedAt := "2025-08-01T12:00:05.000Z"

def nightlyWorker (close : Close) : Worker ZipArtifacts.ZipBuffer where
  auditActor := "iga-scheduler-worker"
  archives := LocalDefinitions.jobArchives
  download _ _ _ := .ok (JobRuntimeExecutor.jobArchive "main.js")
  getDefinition _ := .ok none
  resolver := { projectId := some "iga" }
  client _ := .ok (some [115])
  settings := { requireRuntimeIsolation := false }
  limits := { maxStdoutBytes := 65536, maxResultOutputBytes := 65536 }
  maxStderrBytes := 65536
  host := JobRuntimeExecutor.nodeHost
  created := ZipArtifacts.emptyTemporaryDirectory
  fileMessage _ := "EACCES"
  process _ := .closed close
  parse := ExitClassification.refuseText
  refusal :=
    { fields := { code := some (.str "22P05") }
      message := "unsupported Unicode escape sequence" }
  endedAt := 1754049700000
  failedAt := 1754049700000

end WorkerRunService

end IgaScheduler

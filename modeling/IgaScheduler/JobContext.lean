import IgaScheduler.ApprovedCode
import IgaScheduler.BrokerClients
import IgaScheduler.JsonPrinter
import IgaScheduler.ParameterReaders

namespace IgaScheduler

/-!
# The context of a job

What a worker hands to a job, through the file that the executor writes, and
what `createContext` of the SDK for JavaScript makes of it in the process that
is spawned.
-/

namespace WorkerRunService

def buildRuntimeContext
    (run : RunDocument)
    (definition : Json)
    (params : List (String × Json)) :
    Json :=
  .obj [("runId", .str run.runId), ("definition", definition),
    ("instance", .obj [("instanceId", .str run.instanceId)]),
    ("scheduledFireTime", .str (toISOString run.scheduledFireTime)),
    ("attempt", .num run.attempt 0), ("params", .obj params)]

end WorkerRunService

namespace ZipArtifacts

/-- `fs.readFile(path)`, for the text of an absolute path. -/
def readFile
    (files : Files)
    (path : String) :
    Except Failure (List UInt8) := do
  match ← stat files (PosixPaths.resolvedNames ['/'] [path.toList]) with
  | .file content => return content
  | .directory => .error (.file .EISDIR)

end ZipArtifacts

namespace SchedulerSdk

open ZipArtifacts (Failure)

/-- Why the text of the context file is no value. -/
inductive ReadFailure where
  | file (failure : Failure)
  | syntaxError

/-- What `createContext` throws. -/
inductive ContextError where
  | contextFileRequired
  | readFailed (cause : ReadFailure)
  /-- The context is `null`, which has no properties. -/
  | typeError

def ContextError.code : ContextError → Option String
  | .contextFileRequired => some "RUNTIME_CONTEXT_FILE_REQUIRED"
  | .readFailed _ => some "RUNTIME_CONTEXT_FILE_READ_FAILED"
  | .typeError => none

/-- What `buildIgaClient` returns. -/
inductive IgaClient where
  | broker (runId dispatchId : Option String) (brokerUrl : String)
  | direct (baseUrl tokenEndpoint clientId clientSecret : String)
  /-- Its `execute` throws `IGA_CLIENT_NOT_CONFIGURED`. -/
  | notConfigured

/-- The context of a job; a missing field is `undefined`. -/
structure JobContext where
  runId : Option Json
  definition : Option Json
  jobInstance : Option Json
  scheduledFireTime : Option Json
  attempt : Option Json
  params : Json
  igaClient : IgaClient

section Process

-- `process.env` of the job.
variable (env : String → Option String)

/-- A variable of the process, if it is not empty. -/
def envValue (name : String) : Option String :=
  (env name).filter fun value => value ≠ ""

def buildIgaClient : IgaClient :=
  match envValue env "IGA_BROKER_URL" with
  | some brokerUrl =>
      .broker (env "IGA_SCHEDULER_RUN_ID") (env "IGA_SCHEDULER_DISPATCH_ID")
        (stripTrailingSlashes brokerUrl)
  | none =>
      match envValue env "IGA_BASE_URL", envValue env "IGA_TOKEN_ENDPOINT",
        envValue env "IGA_CLIENT_ID", envValue env "IGA_CLIENT_SECRET" with
      | some baseUrl, some tokenEndpoint, some clientId, some clientSecret =>
          .direct (stripTrailingSlashes baseUrl) tokenEndpoint clientId
            clientSecret
      | _, _, _, _ => .notConfigured

/-- `JSON.parse(await fs.readFile(contextFile, "utf8"))`. -/
def readContext
    (readFile : String → Except Failure (List UInt8))
    (contextFile : String) :
    Except ReadFailure Json := do
  let content ← (readFile contextFile).mapError .file
  match (JavaScript.scalars? (Utf8Chunks.decode content)).bind
    JavaScript.parse with
  | some raw => return raw
  | none => .error .syntaxError

/-- What is made of the context that was read. -/
def contextOf (raw : Json) : JobContext where
  runId := jsonField raw "runId"
  definition := jsonField raw "definition"
  jobInstance := jsonField raw "instance"
  scheduledFireTime := jsonField raw "scheduledFireTime"
  attempt := jsonField raw "attempt"
  params :=
    match jsonField raw "params" with
    | some params =>
        if JavaScript.truthy (some params) then params else .obj []
    | none => .obj []
  igaClient := buildIgaClient env

def createContext
    (readFile : String → Except Failure (List UInt8)) :
    Except ContextError JobContext :=
  match envValue env "IGA_SCHEDULER_CONTEXT_FILE" with
  | none => .error .contextFileRequired
  | some contextFile =>
      match readContext readFile contextFile with
      | .error cause => .error (.readFailed cause)
      | .ok .null => .error .typeError
      | .ok raw => .ok (contextOf env raw)

end Process

end SchedulerSdk

/-! ## The text of the context file -/

namespace SchedulerSdk

open ZipArtifacts (Failure)

/-- The text of the context file is read as the context. -/
theorem readContext_contextText
    {readFile : String → Except Failure (List UInt8)}
    {contextFile : String}
    {context : Option Json}
    (built :
      JavaScript.built (JobRuntimeExecutor.contextOrEmpty context) = true)
    (found :
      readFile contextFile =
        .ok (JobRuntimeExecutor.contextText context)) :
    readContext readFile contextFile =
      .ok (JobRuntimeExecutor.contextOrEmpty context) := by
  have parsed := JavaScript.parse_stringifyIndented built
  rw [readContext, found]
  change
    (match (JavaScript.scalars? (Utf8Chunks.decode
        (JobRuntimeExecutor.contextText context))).bind JavaScript.parse with
      | some raw => pure raw
      | none => Except.error ReadFailure.syntaxError) = _
  rw [JobRuntimeExecutor.contextText, Utf8Chunks.decode_encode,
    JavaScript.scalars?_utf16, Option.bind_some, parsed]
  rfl

end SchedulerSdk

/-! ## What the executor gives to the process -/

namespace JobRuntimeExecutor

open JavaScript (bind_eq_ok)
open ZipArtifacts (Extracted Files TemporaryDirectory ZipBuffer)

/-- The variables of a job that say where it belongs to. -/
structure JobEnvironment
    (host : Host)
    (request : Request)
    (extractDir : ZipArtifacts.Path)
    (env : String → Option String) :
    Prop where
  contextFile :
    env "IGA_SCHEDULER_CONTEXT_FILE" =
      some (pathText (extractDir ++ contextFile))
  runId : env "IGA_SCHEDULER_RUN_ID" = some request.runId
  brokerUrl : env "IGA_BROKER_URL" = host.envValue "RUNTIME_BROKER_URL"
  dispatchId :
    env "IGA_SCHEDULER_DISPATCH_ID" =
      request.dispatchId.filter fun dispatchId => dispatchId ≠ ""
  noBaseUrl : env "IGA_BASE_URL" = none

section Starting

variable {settings : Settings}
variable {host : Host}
variable {request : Request}
variable {definition : ExecutionDefinition}
variable {extracted : Extracted}
variable {files : Files}
variable {spawn : Spawn}

/-- Behind other variables the ones of the broker come as they are. -/
theorem jobEnvironment_append
    {extractDir : ZipArtifacts.Path}
    {start : List (String × String)}
    (contextFile :
      start.lookup "IGA_SCHEDULER_CONTEXT_FILE" =
        some (pathText (extractDir ++ contextFile)))
    (runId : start.lookup "IGA_SCHEDULER_RUN_ID" = some request.runId)
    (brokerUrl : start.lookup "IGA_BROKER_URL" = none)
    (dispatchId : start.lookup "IGA_SCHEDULER_DISPATCH_ID" = none)
    (baseUrl : start.lookup "IGA_BASE_URL" = none) :
    JobEnvironment host request extractDir fun name =>
      (start ++ brokerEnv host request.dispatchId).lookup name := by
  unfold brokerEnv
  constructor
  · rw [List.lookup_append, contextFile]
    rfl
  · rw [List.lookup_append, runId]
    rfl
  · rw [List.lookup_append, brokerUrl]
    cases host.envValue "RUNTIME_BROKER_URL" <;>
      cases request.dispatchId.filter fun dispatchId => dispatchId ≠ "" <;>
        rfl
  · rw [List.lookup_append, dispatchId]
    cases host.envValue "RUNTIME_BROKER_URL" <;>
      cases request.dispatchId.filter fun dispatchId => dispatchId ≠ "" <;>
        rfl
  · rw [List.lookup_append, baseUrl]
    cases host.envValue "RUNTIME_BROKER_URL" <;>
      cases request.dispatchId.filter fun dispatchId => dispatchId ≠ "" <;>
        rfl

theorem jobEnvironment_of_python
    (started :
      executePythonEntrypoint settings host request definition extracted
        files = .ok spawn) :
    JobEnvironment host request extracted.extractDir fun name =>
      spawn.env.lookup name := by
  obtain ⟨⟨command, args⟩, -, finished⟩ := bind_eq_ok.mp started
  cases finished
  exact jobEnvironment_append rfl rfl rfl rfl rfl

theorem jobEnvironment_of_node
    (started :
      executeNodeEntrypoint settings host request definition extracted
        files = .ok spawn) :
    JobEnvironment host request extracted.extractDir fun name =>
      spawn.env.lookup name := by
  obtain ⟨⟨command, args⟩, -, finished⟩ := bind_eq_ok.mp started
  cases finished
  exact jobEnvironment_append rfl rfl rfl rfl rfl

end Starting

/-- The extraction goes into the directory that was made for it. -/
theorem extractDir_of_safeZipExtract
    {buffer : ZipBuffer}
    {entrypoint : String}
    {created : TemporaryDirectory}
    {extracted : Extracted}
    (unpacked :
      ZipArtifacts.safeZipExtract buffer entrypoint created =
        .ok extracted) :
    extracted.extractDir = created.path := by
  unfold ZipArtifacts.safeZipExtract at unpacked
  split at unpacked
  · cases unpacked
  · split at unpacked
    · cases unpacked
    · obtain ⟨result, -, joined⟩ := bind_eq_ok.mp unpacked
      obtain ⟨path, -, checked⟩ := bind_eq_ok.mp joined
      obtain ⟨⟨⟩, -, finished⟩ := bind_eq_ok.mp checked
      cases finished
      rfl

section Execution

variable {settings : Settings}
variable {host : Host}
variable {request : Request}
variable {buffer : ZipBuffer}
variable {created : TemporaryDirectory}
variable {spawn : Spawn}

theorem jobEnvironment_of_execute
    (reached : execute settings host request buffer created = .ok spawn) :
    JobEnvironment host request created.path fun name =>
      spawn.env.lookup name := by
  obtain ⟨⟨definition, normalized⟩, -, afterChecks⟩ := bind_eq_ok.mp reached
  obtain ⟨⟨⟩, -, isolated⟩ := bind_eq_ok.mp afterChecks
  obtain ⟨extracted, unpacked, afterUnpack⟩ := bind_eq_ok.mp isolated
  obtain ⟨files, -, starting⟩ := bind_eq_ok.mp afterUnpack
  rw [← extractDir_of_safeZipExtract (mapError_eq_ok.mp unpacked)]
  split at starting
  · exact jobEnvironment_of_python starting
  · obtain ⟨copied, -, started⟩ := bind_eq_ok.mp starting
    exact jobEnvironment_of_node started

/-- The context file, as the process finds it. -/
theorem contextFile_of_execute
    (reached : execute settings host request buffer created = .ok spawn) :
    spawn.files (created.path ++ contextFile) =
      some (.file (contextText request.context)) := by
  obtain ⟨definition, normalized, extracted, prepared⟩ :=
    prepared_of_execute reached
  have written := prepared.written contextFile (by
    unfold injectedFiles
    split <;> simp)
  rw [extractDir_of_safeZipExtract prepared.unpacked] at written
  exact written

/-- Reading the file of a path by its text. -/
theorem readFile_pathText
    {files : Files}
    {path : ZipArtifacts.Path}
    {content : List UInt8}
    (plain : ∀ name ∈ path, PosixPaths.Plain name)
    (noNull : ZipArtifacts.hasNull path = false)
    (found : files path = some (.file content)) :
    ZipArtifacts.readFile files (pathText path) = .ok content := by
  have names :
      PosixPaths.resolvedNames ['/'] [(pathText path).toList] = path := by
    have absolute :
        PosixPaths.isAbsolute (PosixPaths.absoluteText path) = true :=
      rfl
    have nonempty : PosixPaths.absoluteText path ≠ [] :=
      List.cons_ne_nil _ _
    rw [pathText, String.toList_ofList, PosixPaths.resolvedNames,
      List.reverse_singleton, List.singleton_append, PosixPaths.gather,
      if_neg nonempty]
    dsimp only
    rw [if_pos absolute]
    dsimp only
    rw [PosixPaths.followAll_append, PosixPaths.followAll_absoluteText plain,
      PosixPaths.followAll.eq_1]
    exact List.reverse_reverse path
  rw [ZipArtifacts.readFile, names, ZipArtifacts.stat, noNull, found]
  rfl

/-- The process reads the context that the executor was given. -/
theorem readContext_of_execute
    (reached : execute settings host request buffer created = .ok spawn)
    (rooted : ∀ name ∈ created.path, PosixPaths.Plain name)
    (built : JavaScript.built (contextOrEmpty request.context) = true) :
    SchedulerSdk.readContext (ZipArtifacts.readFile spawn.files)
        (pathText (created.path ++ contextFile)) =
      .ok (contextOrEmpty request.context) := by
  refine SchedulerSdk.readContext_contextText built
    (readFile_pathText ?_ ?_ (contextFile_of_execute reached))
  · exact List.forall_mem_append.mpr
      ⟨rooted, plain_injectedFiles _ List.mem_cons_self⟩
  · have below : ZipArtifacts.hasNull contextFile = false := by decide
    unfold ZipArtifacts.hasNull at below ⊢
    rw [List.any_append, below, Bool.or_false]
    exact created.noNull

theorem pathText_ne_empty (path : ZipArtifacts.Path) :
    pathText path ≠ "" := by
  intro empty
  have letters := congrArg String.toList empty
  rw [pathText, String.toList_ofList] at letters
  cases letters

/-- A context that is an object is made into the context of the job. -/
theorem createContext_of_execute
    {fields : List (String × Json)}
    (reached : execute settings host request buffer created = .ok spawn)
    (rooted : ∀ name ∈ created.path, PosixPaths.Plain name)
    (given : request.context = some (.obj fields))
    (built : JavaScript.built (.obj fields) = true) :
    SchedulerSdk.createContext (fun name => spawn.env.lookup name)
        (ZipArtifacts.readFile spawn.files) =
      .ok (SchedulerSdk.contextOf (fun name => spawn.env.lookup name)
        (.obj fields)) := by
  have whole : contextOrEmpty request.context = .obj fields := by
    rw [given]
    rfl
  have read := readContext_of_execute reached rooted (whole ▸ built)
  have environment := jobEnvironment_of_execute reached
  have named :
      SchedulerSdk.envValue (fun name => spawn.env.lookup name)
          "IGA_SCHEDULER_CONTEXT_FILE" =
        some (pathText (created.path ++ contextFile)) := by
    rw [SchedulerSdk.envValue, environment.contextFile]
    exact Option.filter_some_pos (decide_eq_true (pathText_ne_empty _))
  rw [SchedulerSdk.createContext, named]
  dsimp only
  rw [read, whole]

/-- The client of a job is that of the broker, or none. -/
theorem buildIgaClient_of_execute
    (reached : execute settings host request buffer created = .ok spawn) :
    SchedulerSdk.buildIgaClient (fun name => spawn.env.lookup name) =
      match host.envValue "RUNTIME_BROKER_URL" with
      | some brokerUrl =>
          .broker (some request.runId)
            (request.dispatchId.filter fun dispatchId => dispatchId ≠ "")
            (SchedulerSdk.stripTrailingSlashes brokerUrl)
      | none => .notConfigured := by
  have environment := jobEnvironment_of_execute reached
  have brokerUrl :
      SchedulerSdk.envValue (fun name => spawn.env.lookup name)
          "IGA_BROKER_URL" =
        host.envValue "RUNTIME_BROKER_URL" := by
    rw [SchedulerSdk.envValue, environment.brokerUrl, Host.envValue,
      Option.filter_filter]
    simp
  have noBaseUrl :
      SchedulerSdk.envValue (fun name => spawn.env.lookup name)
          "IGA_BASE_URL" =
        none := by
    rw [SchedulerSdk.envValue, environment.noBaseUrl]
    rfl
  rw [SchedulerSdk.buildIgaClient, brokerUrl, noBaseUrl]
  cases host.envValue "RUNTIME_BROKER_URL" with
  | none =>
      rfl
  | some brokerUrl =>
      dsimp only
      rw [environment.runId, environment.dispatchId]

/--
A job for JavaScript gets the run, its definition and its parameters as the
worker built them, and a client that speaks for its dispatch through the
broker; credentials in the context never give it a client of its own.
-/
theorem job_receives_context
    {run : RunDocument}
    {jobDefinition : Json}
    {params : List (String × Json)}
    (reached : execute settings host request buffer created = .ok spawn)
    (rooted : ∀ name ∈ created.path, PosixPaths.Plain name)
    (given :
      request.context =
        some (WorkerRunService.buildRuntimeContext run jobDefinition params))
    (definitionBuilt : JavaScript.built jobDefinition = true)
    (paramsBuilt : JavaScript.built (.obj params) = true) :
    SchedulerSdk.createContext (fun name => spawn.env.lookup name)
        (ZipArtifacts.readFile spawn.files) =
      .ok {
        runId := some (.str run.runId)
        definition := some jobDefinition
        jobInstance := some (.obj [("instanceId", .str run.instanceId)])
        scheduledFireTime := some (.str (toISOString run.scheduledFireTime))
        attempt := some (.num run.attempt 0)
        params := .obj params
        igaClient :=
          match host.envValue "RUNTIME_BROKER_URL" with
          | some brokerUrl =>
              .broker (some request.runId)
                (request.dispatchId.filter fun dispatchId =>
                  dispatchId ≠ "")
                (SchedulerSdk.stripTrailingSlashes brokerUrl)
          | none => .notConfigured } := by
  have built :
      JavaScript.built
          (WorkerRunService.buildRuntimeContext run jobDefinition params) =
        true := by
    have attempt : JavaScript.InLowestTerms run.attempt 0 := rfl
    have names :
        (["runId", "definition", "instance", "scheduledFireTime", "attempt",
          "params"] : List String).Pairwise fun first second =>
            JavaScript.precedes first second := by
      decide
    rw [WorkerRunService.buildRuntimeContext, JavaScript.built,
      Bool.and_eq_true]
    refine ⟨decide_eq_true ?_, ?_⟩
    · refine (List.pairwise_map (f := Prod.fst) (R := fun first second =>
        JavaScript.precedes first second = true)).mp ?_
      exact names
    · simp only [JavaScript.builtFields, definitionBuilt, paramsBuilt,
        Bool.and_true, Bool.true_and]
      simp [JavaScript.built, JavaScript.builtFields, attempt]
  rw [createContext_of_execute reached rooted given built,
    SchedulerSdk.contextOf, buildIgaClient_of_execute reached]
  rfl

end Execution

/-! ## A run that is executed -/

def nightlyRun : RunDocument where
  runId := "nightly:2025-08-01T12"
  tenantId := none
  instanceId := "nightly"
  definitionId := "nightly-sync"
  definitionVersion := some 1
  scheduledFireTime := 1754049600000
  state := .running
  attempt := 2
  dispatchId := some "d-1"
  params := [("region", .string "eu")]
  status := none
  result := none
  error := none
  executionMetadata := none
  runtimeExecution := none
  parentRunId := none
  redriveOfRunId := none
  cancelRequestedAt := none
  cancelledAt := none
  cancelledBy := none
  cancelReason := none
  createdAt := 1754049600000
  startedAt := some 1754049601000
  endedAt := none
  heartbeatAt := some 1754049601000
  updatedAt := 1754049601000

def nightlyDefinition : Json :=
  .obj [("definitionId", .str "nightly-sync"), ("version", .num 1 0),
    ("entrypoint", .str "main.js")]

def nightlyParams : List (String × Json) :=
  [("region", .str "eu"), ("groups", .arr [.str "staff", .str "ops"])]

def nightlyRequest : Request where
  runId := nightlyRun.runId
  dispatchId := nightlyRun.dispatchId
  definition := some
    { runtime := "javascript"
      runtimeVersion := "nodejs22"
      entrypoint := some (.str "main.js")
      memoryMb := none }
  context := some
    (WorkerRunService.buildRuntimeContext nightlyRun nightlyDefinition
      nightlyParams)

def brokerHost : Host :=
  { nodeHost with
    env := fun name =>
      if name = "RUNTIME_BROKER_URL" then some "https://broker/" else none }

/-- The nightly job reads its region, and calls the broker for its dispatch. -/
theorem job_receives_context_nightly :
    ∃ spawn,
      execute { requireRuntimeIsolation := false } brokerHost nightlyRequest
          (jobArchive "main.js") ZipArtifacts.emptyTemporaryDirectory =
          .ok spawn ∧
        SchedulerSdk.createContext (fun name => spawn.env.lookup name)
            (ZipArtifacts.readFile spawn.files) =
          .ok {
            runId := some (.str "nightly:2025-08-01T12")
            definition := some nightlyDefinition
            jobInstance := some (.obj [("instanceId", .str "nightly")])
            scheduledFireTime :=
              some (.str (toISOString 1754049600000))
            attempt := some (.num 2 0)
            params := .obj nightlyParams
            igaClient :=
              .broker (some "nightly:2025-08-01T12") (some "d-1")
                (SchedulerSdk.stripTrailingSlashes "https://broker/") } := by
  obtain ⟨spawn, reached⟩ :
      ∃ spawn,
        execute { requireRuntimeIsolation := false } brokerHost nightlyRequest
          (jobArchive "main.js") ZipArtifacts.emptyTemporaryDirectory =
          .ok spawn :=
    ⟨_, rfl⟩
  have rooted :
      ∀ name ∈ ZipArtifacts.emptyTemporaryDirectory.path,
        PosixPaths.Plain name := by
    intro name member
    rw [List.mem_singleton.mp member]
    exact ⟨by decide, by decide, by decide, by decide⟩
  exact ⟨spawn, reached,
    job_receives_context reached rooted rfl (by decide) (by decide)⟩

end JobRuntimeExecutor

end IgaScheduler

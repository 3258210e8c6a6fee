import IgaScheduler.StartupValidation

namespace IgaScheduler

/-!
# What a worker is sure of once it polls

The settings that an execution reads long after the start: whether it may run
jobs at all, the index of the fallback, the project of a secret, and the proxy
that the job calls.
-/

namespace Startup

open JavaScript (bind_eq_ok)
open JobRuntimeExecutor
open ZipArtifacts (TemporaryDirectory ValidationError ZipBuffer)

/-- A step fails, or what follows it does. -/
theorem bind_eq_error
    {ε α β : Type}
    {first : Except ε α}
    {next : α → Except ε β}
    {failure : ε} :
    (first >>= next) = .error failure ↔
      first = .error failure ∨
        ∃ middle, first = .ok middle ∧ next middle = .error failure := by
  cases first with
  | error earlier =>
      constructor
      · rintro ⟨⟩
        exact .inl rfl
      · rintro (⟨⟨⟩⟩ | ⟨middle, impossible, -⟩)
        · rfl
        · cases impossible
  | ok value =>
      constructor
      · intro failed
        exact .inr ⟨value, rfl, failed⟩
      · rintro (impossible | ⟨middle, same, failed⟩)
        · cases impossible
        · cases same
          exact failed

theorem mapError_eq_error
    {ε δ α : Type}
    {step : Except ε α}
    {wrap : ε → δ}
    {failure : δ} :
    step.mapError wrap = .error failure ↔
      ∃ inner, step = .error inner ∧ wrap inner = failure := by
  cases step with
  | error inner =>
      constructor
      · rintro ⟨⟩
        exact ⟨inner, rfl, rfl⟩
      · rintro ⟨other, same, rfl⟩
        cases same
        rfl
  | ok value =>
      refine iff_of_false (fun impossible => nomatch impossible) ?_
      rintro ⟨inner, impossible, -⟩
      cases impossible

/-! ## The errors of a request -/

section Requests

variable {settings : Settings}
variable {host : Host}
variable {request : Request}
variable {buffer : ZipBuffer}
variable {created : TemporaryDirectory}
variable {error : ValidationError}

theorem validateRuntime_code
    {runtime runtimeVersion : String}
    (failed :
      validateRuntime settings runtime runtimeVersion =
        .error (.validation error)) :
    error.code ≠ "RUNTIME_ISOLATION_REQUIRED" := by
  unfold validateRuntime at failed
  split at failed
  · cases failed
    dsimp only
    decide
  · split at failed
    · cases failed
    · cases failed
      dsimp only
      decide

theorem validateEntrypoint_code
    {entrypoint : Option Json}
    (failed : ZipArtifacts.validateEntrypoint entrypoint = .error error) :
    error.code ≠ "RUNTIME_ISOLATION_REQUIRED" := by
  unfold ZipArtifacts.validateEntrypoint at failed
  split at failed
  · split at failed
    · cases failed
      decide
    · split at failed
      · cases failed
        decide
      · dsimp only at failed
        split at failed
        · cases failed
          decide
        · cases failed
  · cases failed
    decide

theorem validateExecuteRequest_code
    (failed :
      validateExecuteRequest settings request = .error (.validation error)) :
    error.code ≠ "RUNTIME_ISOLATION_REQUIRED" := by
  unfold validateExecuteRequest at failed
  split at failed
  · cases failed
    decide
  · split at failed
    · cases failed
      decide
    · rcases bind_eq_error.mp failed with runtime | ⟨_, -, failed⟩
      · exact validateRuntime_code runtime
      · rcases bind_eq_error.mp failed with entrypoint | ⟨_, -, impossible⟩
        · obtain ⟨inner, refused, same⟩ := mapError_eq_error.mp entrypoint
          cases same
          exact validateEntrypoint_code refused
        · cases impossible

theorem resolveSpawnCommand_code
    {runtime runtimeVersion entrypointPath : String}
    {memoryLimitMb : Int}
    (failed :
      resolveSpawnCommand host runtime runtimeVersion entrypointPath
        memoryLimitMb = .error (.validation error)) :
    error.code ≠ "RUNTIME_ISOLATION_REQUIRED" := by
  unfold resolveSpawnCommand at failed
  split at failed
  · rcases bind_eq_error.mp failed with binary | ⟨_, -, impossible⟩
    · unfold resolvePythonBinary at binary
      split at binary
      · cases binary
      · cases binary
      · cases binary
        dsimp only
        decide
    · cases impossible
  · cases failed

/-- Where isolation is not asked for, no request is refused for its lack. -/
theorem execute_code
    (isolated : settings.requireRuntimeIsolation = false)
    (failed :
      execute settings host request buffer created =
        .error (.validation error)) :
    error.code ≠ "RUNTIME_ISOLATION_REQUIRED" := by
  have noFiles
      {α : Type}
      {step : Except ZipArtifacts.Failure α}
      (refused :
        step.mapError ExecuteFailure.files = .error (.validation error)) :
      False := by
    obtain ⟨inner, -, impossible⟩ := mapError_eq_error.mp refused
    cases impossible
  rcases bind_eq_error.mp failed with first | ⟨⟨definition, entrypoint⟩, -, failed⟩
  · exact validateExecuteRequest_code first
  · rcases bind_eq_error.mp failed with gate | ⟨_, -, failed⟩
    · unfold validateRuntimeIsolation at gate
      rw [isolated] at gate
      cases gate
    · rcases bind_eq_error.mp failed with unpacked | ⟨extracted, -, failed⟩
      · exact (noFiles unpacked).elim
      · rcases bind_eq_error.mp failed with wrote | ⟨files, -, failed⟩
        · exact (noFiles wrote).elim
        · split at failed
          · rcases bind_eq_error.mp failed with command | ⟨_, -, impossible⟩
            · exact resolveSpawnCommand_code command
            · cases impossible
          · rcases bind_eq_error.mp failed with copied | ⟨_, -, failed⟩
            · exact (noFiles copied).elim
            · rcases bind_eq_error.mp failed with command | ⟨_, -, impossible⟩
              · exact resolveSpawnCommand_code command
              · cases impossible

end Requests

/-- A resolver with a project never misses it. -/
theorem toSecretVersionName_code
    {resolver : SecretManagerParameterResolver}
    {project : String}
    (projectId : resolver.projectId = some project)
    (nonempty : project ≠ "")
    {secretRef : Option Json}
    {error : ResolutionError}
    (failed : resolver.toSecretVersionName secretRef = .error error) :
    error.code ≠ "PARAMETER_SECRET_PROJECT_MISSING" := by
  have given : ¬ (resolver.projectId = none ∨ resolver.projectId = some "") := by
    rw [projectId]
    rintro (⟨⟨⟩⟩ | empty)
    exact nonempty (Option.some.inj empty)
  unfold SecretManagerParameterResolver.toSecretVersionName at failed
  split at failed
  · split at failed
    · cases failed
      decide
    · rcases bind_eq_error.mp failed with parsed | ⟨_, -, failed⟩
      · unfold SecretManagerParameterResolver.parseReference at parsed
        split at parsed
        · split at parsed
          · split at parsed
            · cases parsed
              dsimp only
              decide
            · cases parsed
          · cases parsed
            dsimp only [SecretManagerParameterResolver.malformed]
            decide
        · split at parsed
          · cases parsed
            dsimp only [SecretManagerParameterResolver.malformed]
            decide
          · cases parsed
      · rcases bind_eq_error.mp failed with allowed | ⟨_, -, impossible⟩
        · unfold SecretManagerParameterResolver.assertAllowed at allowed
          split at allowed
          · cases allowed
            decide
          · split at allowed
            · cases allowed
              dsimp only
              decide
            · cases allowed
        · cases impossible
  · cases failed
    decide

/-- What a worker meets later on is configured. -/
structure Configured
    (env : ProcessEnv)
    (worker : Worker) :
    Prop where
  config : ∃ config, getConfig env = .ok config
  isolation :
    ∀ {settings host request buffer created error},
      settings.requireRuntimeIsolation = worker.requireRuntimeIsolation →
      execute settings host request buffer created =
        .error (.validation error) →
      error.code ≠ "RUNTIME_ISOLATION_REQUIRED"
  secrets :
    ∀ {secretRef error},
      worker.parameterResolver.toSecretVersionName secretRef =
        .error error →
      error.code ≠ "PARAMETER_SECRET_PROJECT_MISSING"
  broker :
    ∀ {settings host request buffer created spawn},
      host.env = env →
      execute settings host request buffer created = .ok spawn →
      ∃ brokerUrl,
        given env "RUNTIME_BROKER_URL" = some brokerUrl ∧
          SchedulerSdk.buildIgaClient (fun name => spawn.env.lookup name) =
            .broker (some request.runId)
              (request.dispatchId.filter fun dispatchId => dispatchId ≠ "")
              (SchedulerSdk.stripTrailingSlashes brokerUrl)

variable {externals : Externals}
variable {env : ProcessEnv}

theorem configured_of_started
    (notTest : env "NODE_ENV" ≠ some "test")
    {worker : Worker}
    (started : startWorker externals env = .ok worker) :
    Configured env worker := by
  obtain ⟨status, accepted, started⟩ := bind_eq_ok.mp started
  obtain ⟨pool, -, started⟩ := bind_eq_ok.mp started
  obtain ⟨listening, -, started⟩ := bind_eq_ok.mp started
  cases started
  obtain ⟨provided, isolated⟩ :=
    validateWorkerStartupConfig_ok notTest accepted
  constructor
  · exact getConfig_succeeds_iff.mpr (provided.subset (by decide))
  · intro settings host request buffer created error same
    refine execute_code (same.trans ?_)
    rw [isolated]
    rfl
  · intro secretRef error
    obtain ⟨project, found, nonempty⟩ :=
      provided.value "GCP_PROJECT_ID" (by decide)
    exact toSecretVersionName_code found nonempty
  · intro settings host request buffer created spawn sameEnv reached
    obtain ⟨brokerUrl, found⟩ := provided "RUNTIME_BROKER_URL" (by decide)
    refine ⟨brokerUrl, found, ?_⟩
    have value : host.envValue "RUNTIME_BROKER_URL" = some brokerUrl := by
      rw [Host.envValue, sameEnv]
      exact found
    rw [buildIgaClient_of_execute reached, value]

/-- The variables of a worker with a database in Cloud SQL. -/
def workerEnv : ProcessEnv :=
  fun name => [("NODE_ENV", "production"), ("GCP_PROJECT_ID", "iga"),
    ("RUNTIME_SERVICE_ACCOUNT_EMAIL", "runtime@iga.test"),
    ("RUNTIME_BROKER_URL", "https://iga.test"),
    ("JOB_ZIP_BUCKET", "iga-jobs"), ("ES_ENDPOINT", "https://es.iga.test"),
    ("ES_API_KEY", "key"), ("WORKER_REQUIRE_RUNTIME_ISOLATION", "false"),
    ("DB_ENGINE", "cloud-sql"),
    ("DB_INSTANCE_CONNECTION_NAME", "iga:europe-west1:scheduler"),
    ("DB_USER", "scheduler"), ("DB_NAME", "scheduler"),
    ("DB_PASSWORD_SECRET", "scheduler-db-password")].lookup name

/-- The secret is found, and the connector answers. -/
def reachable : Externals :=
  { httpsOnly with accessSecretVersion := fun _ => .ok (some "password") }

end Startup

end IgaScheduler

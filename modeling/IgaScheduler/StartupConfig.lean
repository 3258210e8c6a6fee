import IgaScheduler.JobExecution
import IgaScheduler.ListeningPorts
import IgaScheduler.SecretReferences

namespace IgaScheduler

/-!
# The configuration of a started process

What the entry points make of their environment until they listen: the
validators, the constructors that read a setting and throw when it is missing,
and the port.  A start either fails with the first error or leaves the settings
that the process works with.
-/

/-- `process.env`. -/
abbrev ProcessEnv := String → Option String

namespace Startup

/-- What makes a start fail. -/
inductive StartupFailure where
  | config (message : String)
  /-- `new URL(text)` throws. -/
  | invalidUrl (text : String)
  /-- `new Client({ node })` throws. -/
  | invalidNode (node : String)
  /-- `app.get(path, …)` throws. -/
  | invalidPath (path : String)
  /-- A cloud service that is awaited rejects. -/
  | rejected (message : String)
  /-- `listen` throws `ERR_SOCKET_BAD_PORT`. -/
  | badPort
  deriving DecidableEq

/-- What the libraries and the cloud services make of a start. -/
structure Externals where
  /-- `new URL(text)` does not throw. -/
  isUrl : String → Bool
  /-- The constructor of the Elasticsearch client does not throw. -/
  takesNode : String → Bool
  /-- Express takes the path of a route. -/
  takesPath : String → Bool
  /-- The payload of a secret's version, as far as it has one. -/
  accessSecretVersion : String → Except String (Option String)
  /-- `getOptions` of the connector, for an instance and a type of address. -/
  getOptions : String → String → Except String Unit

def refuse
    {α : Type}
    (message : String) :
    Except StartupFailure α :=
  .error (.config message)

/-- The value of a variable, if it is not empty. -/
def given
    (env : ProcessEnv)
    (name : String) :
    Option String :=
  (env name).filter fun value => value ≠ ""

/-- `first || second`, of values that may be missing. -/
def orElse (first second : Option String) : Option String :=
  match first.filter fun value => value ≠ "" with
  | some value => some value
  | none => second

/-- A value that is demanded: `if (!value) throw new Error(message)`. -/
def demand
    (value : Option String)
    (message : String) :
    Except StartupFailure String :=
  match value.filter fun value => value ≠ "" with
  | some value => .ok value
  | none => refuse message

/-! ## `productionValidation.js` -/

inductive ValidationStatus where
  | ok
  | skipped (reason : String)
  deriving DecidableEq

/-- `required.filter((name) => !env[name])`. -/
def missingNames
    (env : ProcessEnv)
    (required : List String) :
    List String :=
  required.filter fun name => given env name = none

def workerVariables : List String :=
  ["GCP_PROJECT_ID", "RUNTIME_SERVICE_ACCOUNT_EMAIL", "RUNTIME_BROKER_URL",
    "JOB_ZIP_BUCKET", "ES_ENDPOINT", "ES_API_KEY"]

def productionVariables : List String :=
  ["GCP_PROJECT_ID", "JOB_ZIP_BUCKET", "ES_ENDPOINT", "ES_API_KEY",
    "WORKER_OIDC_AUDIENCE", "WORKER_INVOKER_SERVICE_ACCOUNT_EMAIL",
    "SCHEDULER_OIDC_AUDIENCE", "SCHEDULER_INVOKER_SERVICE_ACCOUNT_EMAIL",
    "WORKER_EXECUTION_MODE", "RUNTIME_SERVICE_ACCOUNT_EMAIL",
    "RUNTIME_BROKER_URL", "IGA_TOKEN_ENDPOINT", "IGA_CLIENT_ID",
    "IGA_CLIENT_SECRET", "IGA_BASE_URL", "PUBLIC_API_ISSUER",
    "PUBLIC_API_AUDIENCE"]

/-- All of the variables are given, or the error lists those that are not. -/
def checkVariables
    (env : ProcessEnv)
    (required : List String)
    (text : String) :
    Except StartupFailure Unit :=
  let missing := missingNames env required
  if missing = [] then .ok () else refuse (text ++ ", ".intercalate missing)

def checkThat
    (condition : Bool)
    (message : String) :
    Except StartupFailure Unit :=
  if condition then .ok () else refuse message

def validateWorkerStartupConfig
    (env : ProcessEnv) :
    Except StartupFailure ValidationStatus :=
  if env "NODE_ENV" = some "test" then
    .ok (.skipped "test_environment")
  else do
    checkVariables env workerVariables
      "Missing required worker environment variables: "
    checkThat (env "WORKER_REQUIRE_RUNTIME_ISOLATION" = some "false")
      ("WORKER_REQUIRE_RUNTIME_ISOLATION must be set to 'false' in the " ++
        "worker service — the Cloud Run container boundary is the " ++
        "isolation layer")
    return .ok

/-- The checks of `DB_ENGINE` and of the variables of the engine. -/
def validateDatabase (env : ProcessEnv) : Except StartupFailure Unit := do
  let dbEngine ← demand (env "DB_ENGINE")
    "Missing required production environment variables: DB_ENGINE"
  if dbEngine = "cloud-sql" then
    checkVariables env ["DB_INSTANCE_CONNECTION_NAME", "DB_USER", "DB_NAME"]
      ("Missing required production environment variables for " ++
        "DB_ENGINE=cloud-sql: ")
  else if dbEngine = "direct" then do
    let _ ← demand (env "DATABASE_URL")
      ("Missing required production environment variables for " ++
        "DB_ENGINE=direct: DATABASE_URL")
    let _ ← demand (env "DB_ALLOW_DIRECT")
      ("DB_ENGINE=direct is not allowed in production without " ++
        "DB_ALLOW_DIRECT=true (use for AlloyDB Auth Proxy or other sidecar " ++
        "deployments)")
    return ()
  else
    refuse ("unsupported DB_ENGINE: " ++ dbEngine)

def validateProductionStartupConfig
    (env : ProcessEnv) :
    Except StartupFailure ValidationStatus :=
  if env "NODE_ENV" = some "test" then
    .ok (.skipped "test_environment")
  else do
    checkVariables env productionVariables
      "Missing required production environment variables: "
    checkThat (env "WORKER_EXECUTION_MODE" = some "isolated")
      "WORKER_EXECUTION_MODE must be isolated in production"
    checkThat
      (env "RUNTIME_SERVICE_ACCOUNT_EMAIL" ≠
        env "WORKER_INVOKER_SERVICE_ACCOUNT_EMAIL")
      ("RUNTIME_SERVICE_ACCOUNT_EMAIL must be separate from the worker " ++
        "invoker service account")
    checkThat
      (env "RUNTIME_SERVICE_ACCOUNT_EMAIL" ≠
        env "SCHEDULER_INVOKER_SERVICE_ACCOUNT_EMAIL")
      ("RUNTIME_SERVICE_ACCOUNT_EMAIL must be separate from the scheduler " ++
        "invoker service account")
    checkThat (given env "WORKER_RUNTIME_ISOLATION" = none)
      ("WORKER_RUNTIME_ISOLATION is not a production isolation control; " ++
        "use WORKER_EXECUTION_MODE=isolated")
    validateDatabase env
    return .ok

/-! ## `config/index.js` and the clients -/

structure Config where
  gcpProjectId : String
  jobZipBucket : String
  esEndpoint : String
  esApiKey : String
  definitionsIndex : String
  auditIndex : String
  dbEngine : String

def getConfig (env : ProcessEnv) : Except StartupFailure Config := do
  checkVariables env
    ["GCP_PROJECT_ID", "JOB_ZIP_BUCKET", "ES_ENDPOINT", "ES_API_KEY"]
    "Missing required environment variables: "
  return {
    gcpProjectId := (env "GCP_PROJECT_ID").getD ""
    jobZipBucket := (env "JOB_ZIP_BUCKET").getD ""
    esEndpoint := (env "ES_ENDPOINT").getD ""
    esApiKey := (env "ES_API_KEY").getD ""
    definitionsIndex :=
      (given env "ES_DEFINITIONS_INDEX").getD "scheduler_definitions_v1"
    auditIndex := (given env "ES_AUDIT_INDEX").getD "scheduler_audit_v1"
    dbEngine := (given env "DB_ENGINE").getD "direct" }

/-- The settings of a pool of connections. -/
inductive PgPool where
  | direct (connectionString : String)
  /-- The password is what a secret version holds, if there is one. -/
  | cloudSql
      (instanceConnectionName ipType user database : String)
      (password : Option String)

/-- `toSecretVersionName` of `pgClient.js`. -/
def passwordSecretVersionName
    (env : ProcessEnv)
    (secretRef : String) :
    Except StartupFailure String :=
  if JavaScript.startsWith secretRef "projects/" then
    if "/versions/".toList <:+: secretRef.toList then
      .ok secretRef
    else
      .ok (secretRef ++ "/versions/latest")
  else do
    let projectId ← demand (env "GCP_PROJECT_ID")
      "GCP_PROJECT_ID is required to resolve a bare DB_PASSWORD_SECRET id"
    return "projects/" ++ projectId ++ "/secrets/" ++ secretRef ++
      "/versions/latest"

/-- `required` of `pgClient.js`. -/
def requiredVariable
    (env : ProcessEnv)
    (name : String) :
    Except StartupFailure String :=
  demand (env name)
    (name ++ " is required for DB_ENGINE=" ++
      (env "DB_ENGINE").getD "undefined")

section Services

variable (externals : Externals)

def resolveCloudSqlPassword
    (env : ProcessEnv) :
    Except StartupFailure (Option String) :=
  match given env "DB_PASSWORD_SECRET" with
  | none => .ok none
  | some secretRef => do
      let name ← passwordSecretVersionName env secretRef
      (externals.accessSecretVersion name).mapError .rejected

/-- `DB_IP_TYPE`, or its default. -/
def ipType (env : ProcessEnv) : String :=
  (given env "DB_IP_TYPE").getD "PRIVATE"

def createPgPool (env : ProcessEnv) : Except StartupFailure PgPool :=
  let engine := (given env "DB_ENGINE").getD "direct"
  if engine ∉ ["cloud-sql", "direct"] then
    refuse ("unsupported DB_ENGINE: " ++ engine)
  else if engine = "direct" then
    (demand (env "DATABASE_URL")
      "DATABASE_URL is required when DB_ENGINE=direct").map .direct
  else do
    let instanceConnectionName ←
      requiredVariable env "DB_INSTANCE_CONNECTION_NAME"
    let user ← requiredVariable env "DB_USER"
    let database ← requiredVariable env "DB_NAME"
    let password ← resolveCloudSqlPassword externals env
    let _ ← (externals.getOptions instanceConnectionName
      (ipType env)).mapError .rejected
    return .cloudSql instanceConnectionName (ipType env) user database
      password

/-- The settings of the Elasticsearch client. -/
structure EsClient where
  node : String
  apiKey : String

/-- `new URL(text)`. -/
def parseUrl (text : String) : Except StartupFailure String :=
  if externals.isUrl text then .ok text else .error (.invalidUrl text)

def createEsClient (env : ProcessEnv) : Except StartupFailure EsClient := do
  let config ← getConfig env
  if externals.takesNode config.esEndpoint then
    return ⟨config.esEndpoint, config.esApiKey⟩
  else
    .error (.invalidNode config.esEndpoint)

/-! ## The constructors behind `createApp` -/

/-- What `createInternalAuthMiddleware` compares a token with. -/
structure InternalAuth where
  expectedAudience : String
  expectedServiceAccountEmail : String
  deriving DecidableEq

/-- `undefined` options take the defaults of the parameters. -/
def createInternalAuthMiddleware
    (env : ProcessEnv)
    (expectedAudience expectedServiceAccountEmail : Option String) :
    Except StartupFailure InternalAuth := do
  let audience ← demand
    (expectedAudience.or
      (orElse (env "WORKER_OIDC_AUDIENCE") (env "WORKER_BASE_URL")))
    "WORKER_OIDC_AUDIENCE or WORKER_BASE_URL is required"
  let email ← demand
    (expectedServiceAccountEmail.or
      (env "WORKER_INVOKER_SERVICE_ACCOUNT_EMAIL"))
    "WORKER_INVOKER_SERVICE_ACCOUNT_EMAIL is required"
  return ⟨audience, email⟩

/-- The authentication of `createInternalIgaRouter`. -/
def internalIgaAuth (env : ProcessEnv) : Except StartupFailure InternalAuth :=
  createInternalAuthMiddleware env none none

/-- The authentication of `createInternalRuntimeIgaRouter`. -/
def internalRuntimeIgaAuth
    (env : ProcessEnv) :
    Except StartupFailure InternalAuth :=
  createInternalAuthMiddleware env
    (orElse (env "RUNTIME_BROKER_URL")
      (orElse (env "WORKER_OIDC_AUDIENCE") (env "WORKER_BASE_URL")))
    (orElse (env "RUNTIME_SERVICE_ACCOUNT_EMAIL")
      (env "WORKER_INVOKER_SERVICE_ACCOUNT_EMAIL"))

/-- `createSchedulerAuthMiddleware` of `createInternalSchedulerRouter`. -/
def internalSchedulerAuth
    (env : ProcessEnv) :
    Except StartupFailure InternalAuth := do
  let audience ← demand (env "SCHEDULER_OIDC_AUDIENCE")
    "expectedAudience is required"
  let email ← demand (env "SCHEDULER_INVOKER_SERVICE_ACCOUNT_EMAIL")
    "expectedServiceAccountEmail is required"
  createInternalAuthMiddleware env (some audience) (some email)

/-- The authentication of `createInternalWorkerRouter`. -/
def internalWorkerAuth
    (env : ProcessEnv) :
    Except StartupFailure InternalAuth :=
  createInternalAuthMiddleware env none none

/-- A `TokenManager`, and the `IgaClient` that uses it. -/
structure IgaClient where
  tokenEndpoint : String
  clientId : String
  clientSecret : String
  scope : Option String
  baseUrl : String

/-- `baseUrl.replace(/\/$/, "")`. -/
def stripSlash (baseUrl : String) : String :=
  match baseUrl.toList.reverse with
  | '/' :: rest => String.ofList rest.reverse
  | _ => baseUrl

def createIgaClient (env : ProcessEnv) : Except StartupFailure IgaClient := do
  let tokenEndpoint ← demand (env "IGA_TOKEN_ENDPOINT")
    "tokenEndpoint is required"
  let clientId ← demand (env "IGA_CLIENT_ID") "clientId is required"
  let clientSecret ← demand (env "IGA_CLIENT_SECRET")
    "clientSecret is required"
  let baseUrl ← demand (env "IGA_BASE_URL") "baseUrl is required"
  return ⟨tokenEndpoint, clientId, clientSecret, env "IGA_TOKEN_SCOPE",
    stripSlash baseUrl⟩

/-- The settings of `createPublicAuthMiddleware`. -/
structure PublicAuth where
  issuer : String
  audience : String
  requiredScope : Option String
  jwksUrl : Option String
  algorithms : List String

/-- `text.split(",").map((a) => a.trim())`. -/
def listedNames (text : String) : List String :=
  (text.toList.splitOn ',').map fun letters => String.ofList (JavaScript.trim letters)

/-- The key set that `createJoseVerifier` sets up at once, if one is named. -/
def createJoseVerifier
    (jwksUrl : Option String) :
    Except StartupFailure (Option String) :=
  match jwksUrl with
  | none => .ok none
  | some jwksUrl => (parseUrl externals jwksUrl).map some

def createPublicAuthMiddleware
    (env : ProcessEnv) :
    Except StartupFailure PublicAuth := do
  let issuer ← demand (env "PUBLIC_API_ISSUER")
    "PUBLIC_API_ISSUER is required"
  let audience ← demand (env "PUBLIC_API_AUDIENCE")
    "PUBLIC_API_AUDIENCE is required"
  let jwksUrl ← createJoseVerifier externals (given env "PUBLIC_API_JWKS_URL")
  return {
    issuer
    audience
    requiredScope := env "PUBLIC_API_REQUIRED_SCOPE"
    jwksUrl
    algorithms :=
      ((env "PUBLIC_API_ALGORITHMS").map listedNames).getD
        ["RS256", "ES256", "PS256"] }

/-- The page of the user interface is served below every other path. -/
def serveUi (env : ProcessEnv) : Except StartupFailure Unit :=
  match given env "UI_DIST_PATH" with
  | none => .ok ()
  | some _ =>
      if externals.takesPath "*" then .ok () else .error (.invalidPath "*")

/-! ## The entry points -/

/-- `app.listen(port)`. -/
def listen (port : ListenArgument) : Except StartupFailure Listening :=
  match listen? port with
  | some listening => .ok listening
  | none => .error .badPort

/-- `process.env.PORT || 3000`. -/
def schedulerPort (env : ProcessEnv) : ListenArgument :=
  match given env "PORT" with
  | some port => .text port
  | none => .number (.finite false ⟨3000, 0⟩)

/-- `Number(process.env.PORT || 8080)`. -/
def workerPort (env : ProcessEnv) : ListenArgument :=
  .number
    (match given env "PORT" with
    | some port => JavaScript.toNumber port
    | none => .finite false ⟨8080, 0⟩)

/-- The routers below `/internal`. -/
inductive InternalRoute where
  | iga
  | runtimeIga
  | scheduler
  | jobRuns
  deriving DecidableEq

/-- The settings of a scheduler that listens. -/
structure Application where
  pool : PgPool
  esClient : EsClient
  publicAuth : PublicAuth
  internalAuth : InternalRoute → InternalAuth
  igaClient : IgaClient
  executionMode : String
  dbEngine : String
  listening : Listening

def startApplication
    (env : ProcessEnv) :
    Except StartupFailure Application := do
  let _ ← validateProductionStartupConfig env
  let pool ← createPgPool externals env
  let esClient ← createEsClient externals env
  let publicAuth ← createPublicAuthMiddleware externals env
  let iga ← internalIgaAuth env
  let igaClient ← createIgaClient env
  let runtimeIga ← internalRuntimeIgaAuth env
  let scheduler ← internalSchedulerAuth env
  let jobRuns ← internalWorkerAuth env
  let _ ← serveUi externals env
  let listening ← listen (schedulerPort env)
  return {
    pool
    esClient
    publicAuth
    internalAuth
      | .iga => iga
      | .runtimeIga => runtimeIga
      | .scheduler => scheduler
      | .jobRuns => jobRuns
    igaClient
    executionMode := (given env "WORKER_EXECUTION_MODE").getD "local"
    dbEngine := (given env "DB_ENGINE").getD "direct"
    listening }

/-- What the proxy reads when its first request arrives. -/
structure ProxySettings where
  esClient : EsClient
  igaClient : IgaClient
  auditIndex : String

/-- The constructor of `RuntimeIgaProxyService`, and its getters. -/
def runtimeIgaProxySettings
    (env : ProcessEnv) :
    Except StartupFailure ProxySettings := do
  let esClient ← createEsClient externals env
  let igaClient ← createIgaClient env
  let config ← getConfig env
  return ⟨esClient, igaClient, config.auditIndex⟩

/-- The settings of a worker that polls. -/
structure Worker where
  pool : PgPool
  requireRuntimeIsolation : Bool
  parameterResolver : SecretManagerParameterResolver
  listening : Listening

def startWorker (env : ProcessEnv) : Except StartupFailure Worker := do
  let _ ← validateWorkerStartupConfig env
  let pool ← createPgPool externals env
  let listening ← listen (workerPort env)
  return {
    pool
    listening
    requireRuntimeIsolation :=
      env "WORKER_REQUIRE_RUNTIME_ISOLATION" ≠ some "false"
    parameterResolver := {
      projectId := env "GCP_PROJECT_ID"
      paramPrefix := (given env "SECRET_PARAM_PREFIX").getD "job-param-" } }

def resolveAppMode (env : ProcessEnv) : Except StartupFailure String :=
  let mode := (given env "APP_MODE").getD "production"
  if mode = "local" ∧ env "NODE_ENV" = some "production" then
    refuse ("APP_MODE=local is incompatible with NODE_ENV=production; " ++
      "refusing to start the local/dev backend in a production environment")
  else
    .ok mode

/-- What `main.js` has started. -/
inductive Started where
  /-- `startLocalApplication` is called. -/
  | localBackend
  | scheduler (application : Application)

def main (env : ProcessEnv) : Except StartupFailure Started := do
  let mode ← resolveAppMode env
  if mode = "local" then
    return .localBackend
  else
    (startApplication externals env).map .scheduler

end Services

end Startup

end IgaScheduler

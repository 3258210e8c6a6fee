import IgaScheduler.JobContext
import IgaScheduler.StartupConfig

namespace IgaScheduler

/-!
# What the validators of a start are worth

A validator is run so that a missing setting shows when a process starts, and
not when the code that needs it is first reached.  A scheduler that its
validator accepts starts if the libraries and the cloud services play along and
it can listen; and what a worker meets later on is configured once it polls.
-/

namespace Startup

open JavaScript (bind_eq_ok)

/-! ## Steps that may throw -/

section Steps

variable {env : ProcessEnv}

theorem map_eq_ok
    {ε α β : Type}
    {first : Except ε α}
    {next : α → β}
    {result : β} :
    first.map next = .ok result ↔
      ∃ middle, first = .ok middle ∧ next middle = result := by
  cases first with
  | error failure =>
      refine iff_of_false (fun impossible => nomatch impossible) ?_
      rintro ⟨middle, impossible, -⟩
      cases impossible
  | ok value =>
      rw [Except.map, Except.ok.injEq]
      constructor
      · intro same
        exact ⟨value, rfl, same⟩
      · rintro ⟨middle, found, same⟩
        cases found
        exact same

theorem mapError_eq_ok
    {ε δ α : Type}
    {step : Except ε α}
    {wrap : ε → δ}
    {result : α} :
    step.mapError wrap = .ok result ↔ step = .ok result := by
  cases step with
  | error failure =>
      constructor <;> rintro ⟨⟩
  | ok value =>
      rw [Except.mapError, Except.ok.injEq, Except.ok.injEq]

theorem given_eq_some
    {name value : String} :
    given env name = some value ↔ env name = some value ∧ value ≠ "" := by
  rw [given, Option.filter_eq_some_iff, decide_eq_true_eq]

theorem demand_eq_ok
    {value : Option String}
    {message text : String} :
    demand value message = .ok text ↔ value = some text ∧ text ≠ "" := by
  have filtered :
      (value.filter fun value => value ≠ "") = some text ↔
        value = some text ∧ text ≠ "" := by
    rw [Option.filter_eq_some_iff, decide_eq_true_eq]
  rw [← filtered, demand]
  cases value.filter fun value => value ≠ "" with
  | none =>
      constructor <;> rintro ⟨⟩
  | some kept =>
      dsimp only
      rw [Except.ok.injEq, Option.some.injEq]

theorem demand_variable
    {name message text : String} :
    demand (env name) message = .ok text ↔ given env name = some text := by
  rw [demand_eq_ok, given_eq_some]

theorem checkThat_eq_ok
    {condition : Bool}
    {message : String}
    {result : Unit} :
    checkThat condition message = .ok result ↔ condition = true := by
  unfold checkThat
  split
  · rename_i holds
    exact iff_of_true rfl holds
  · rename_i fails
    exact iff_of_false (fun impossible => nomatch impossible) fails

/-- Each of the variables is given. -/
def Provides
    (env : ProcessEnv)
    (names : List String) :
    Prop :=
  ∀ name ∈ names, ∃ value, given env name = some value

theorem Provides.value
    {names : List String}
    (provided : Provides env names)
    (name : String)
    (member : name ∈ names) :
    ∃ value, env name = some value ∧ value ≠ "" := by
  obtain ⟨value, found⟩ := provided name member
  exact ⟨value, given_eq_some.mp found⟩

theorem Provides.subset
    {names fewer : List String}
    (provided : Provides env names)
    (included : fewer ⊆ names) :
    Provides env fewer :=
  fun name member => provided name (included member)

theorem missingNames_eq_nil
    {names : List String} :
    missingNames env names = [] ↔ Provides env names := by
  rw [missingNames, List.filter_eq_nil_iff]
  refine forall₂_congr fun name _ => ?_
  rw [decide_eq_true_eq, ← ne_eq, Option.ne_none_iff_exists']

theorem checkVariables_eq_ok
    {names : List String}
    {text : String}
    {result : Unit} :
    checkVariables env names text = .ok result ↔ Provides env names := by
  rw [← missingNames_eq_nil]
  unfold checkVariables
  dsimp only
  split
  · rename_i none
    exact iff_of_true rfl none
  · rename_i some
    exact iff_of_false (fun impossible => nomatch impossible) some

end Steps

/-! ## What is accepted -/

section Accepted

variable {externals : Externals}
variable {env : ProcessEnv}

/-- The variables that `createPgPool` needs. -/
inductive DatabaseConfigured (env : ProcessEnv) : Prop where
  | direct
      (engine : (given env "DB_ENGINE").getD "direct" = "direct")
      (url : Provides env ["DATABASE_URL"])
  | cloudSql
      (engine : given env "DB_ENGINE" = some "cloud-sql")
      (names :
        Provides env ["DB_INSTANCE_CONNECTION_NAME", "DB_USER", "DB_NAME"])
      (project :
        ∀ {secretRef : String},
          given env "DB_PASSWORD_SECRET" = some secretRef →
          JavaScript.startsWith secretRef "projects/" = false →
          Provides env ["GCP_PROJECT_ID"])

theorem provides_singleton
    {name : String} :
    Provides env [name] ↔ ∃ value, given env name = some value := by
  rw [Provides, List.forall_mem_singleton]

/-- What `createPgPool` awaits for `cloud-sql` is answered. -/
structure DatabaseAnswers
    (externals : Externals)
    (env : ProcessEnv) :
    Prop where
  password :
    ∀ {secretRef name : String},
      given env "DB_PASSWORD_SECRET" = some secretRef →
      passwordSecretVersionName env secretRef = .ok name →
      ∃ payload, externals.accessSecretVersion name = .ok payload
  connector :
    ∀ {instanceConnectionName : String},
      given env "DB_INSTANCE_CONNECTION_NAME" =
        some instanceConnectionName →
      externals.getOptions instanceConnectionName (ipType env) = .ok ()

/-- A secret can be named: in full, or in the project of the process. -/
theorem passwordSecretVersionName_succeeds
    {secretRef : String} :
    (∃ name, passwordSecretVersionName env secretRef = .ok name) ↔
      (JavaScript.startsWith secretRef "projects/" = false →
        Provides env ["GCP_PROJECT_ID"]) := by
  unfold passwordSecretVersionName
  by_cases full : JavaScript.startsWith secretRef "projects/" = true
  · rw [if_pos full]
    refine iff_of_true ?_ ?_
    · split <;> exact ⟨_, rfl⟩
    · intro bare
      rw [full] at bare
      cases bare
  · rw [if_neg full, provides_singleton]
    constructor
    · rintro ⟨name, resolved⟩ -
      obtain ⟨projectId, demanded, -⟩ := bind_eq_ok.mp resolved
      exact ⟨projectId, demand_variable.mp demanded⟩
    · intro bare
      obtain ⟨projectId, found⟩ := bare (Bool.eq_false_iff.mpr full)
      rw [demand_variable.mpr found]
      exact ⟨_, rfl⟩

/-- The password of a pool is none, or its secret is named and accessed. -/
theorem resolveCloudSqlPassword_succeeds :
    (∃ password, resolveCloudSqlPassword externals env = .ok password) ↔
      ∀ secretRef,
        given env "DB_PASSWORD_SECRET" = some secretRef →
        ∃ name payload,
          passwordSecretVersionName env secretRef = .ok name ∧
            externals.accessSecretVersion name = .ok payload := by
  unfold resolveCloudSqlPassword
  cases given env "DB_PASSWORD_SECRET" with
  | none =>
      refine iff_of_true ⟨none, rfl⟩ ?_
      rintro secretRef ⟨⟩
  | some secretRef =>
      constructor
      · rintro ⟨password, resolved⟩ other ⟨⟩
        obtain ⟨name, named, accessed⟩ := bind_eq_ok.mp resolved
        exact ⟨name, password, named, mapError_eq_ok.mp accessed⟩
      · intro secret
        obtain ⟨name, payload, named, accessed⟩ := secret secretRef rfl
        exact ⟨payload, bind_eq_ok.mpr
          ⟨name, named, mapError_eq_ok.mpr accessed⟩⟩

theorem createPgPool_direct
    (engine : (given env "DB_ENGINE").getD "direct" = "direct") :
    (∃ pool, createPgPool externals env = .ok pool) ↔
      Provides env ["DATABASE_URL"] := by
  unfold createPgPool
  dsimp only
  rw [engine, if_neg (by decide), if_pos rfl, provides_singleton]
  constructor
  · rintro ⟨pool, made⟩
    obtain ⟨url, demanded, -⟩ := map_eq_ok.mp made
    exact ⟨url, demand_variable.mp demanded⟩
  · rintro ⟨url, found⟩
    rw [demand_variable.mpr found]
    exact ⟨_, rfl⟩

theorem createPgPool_cloudSql
    (engine : given env "DB_ENGINE" = some "cloud-sql") :
    (∃ pool, createPgPool externals env = .ok pool) ↔
      Provides env ["DB_INSTANCE_CONNECTION_NAME", "DB_USER", "DB_NAME"] ∧
        (∀ {secretRef : String},
          given env "DB_PASSWORD_SECRET" = some secretRef →
          JavaScript.startsWith secretRef "projects/" = false →
          Provides env ["GCP_PROJECT_ID"]) ∧
        DatabaseAnswers externals env := by
  unfold createPgPool
  dsimp only
  rw [engine, Option.getD_some, if_neg (by decide), if_neg (by decide)]
  constructor
  · rintro ⟨pool, made⟩
    obtain ⟨connection, first, made⟩ := bind_eq_ok.mp made
    obtain ⟨user, second, made⟩ := bind_eq_ok.mp made
    obtain ⟨database, third, made⟩ := bind_eq_ok.mp made
    obtain ⟨password, resolved, made⟩ := bind_eq_ok.mp made
    obtain ⟨options, answered, -⟩ := bind_eq_ok.mp made
    have secret := resolveCloudSqlPassword_succeeds.mp ⟨password, resolved⟩
    refine ⟨?_, ?_, ?_, ?_⟩
    · simp only [Provides, List.forall_mem_cons, List.not_mem_nil,
        false_imp_iff, implies_true, and_true]
      exact ⟨⟨connection, demand_variable.mp first⟩,
        ⟨user, demand_variable.mp second⟩,
        database, demand_variable.mp third⟩
    · intro secretRef given
      obtain ⟨name, payload, named, -⟩ := secret secretRef given
      exact passwordSecretVersionName_succeeds.mp ⟨name, named⟩
    · intro secretRef name given named
      obtain ⟨other, payload, sameName, accessed⟩ := secret secretRef given
      cases named.symm.trans sameName
      exact ⟨payload, accessed⟩
    · intro other given
      cases (demand_variable.mp first).symm.trans given
      exact mapError_eq_ok.mp answered
  · rintro ⟨names, project, accessed, connects⟩
    obtain ⟨connection, first⟩ := names "DB_INSTANCE_CONNECTION_NAME"
      (by decide)
    obtain ⟨user, second⟩ := names "DB_USER" (by decide)
    obtain ⟨database, third⟩ := names "DB_NAME" (by decide)
    simp only [requiredVariable]
    rw [demand_variable.mpr first, demand_variable.mpr second,
      demand_variable.mpr third]
    obtain ⟨password, resolved⟩ :=
      (@resolveCloudSqlPassword_succeeds externals env).mpr
        fun secretRef given => by
          obtain ⟨name, named⟩ :=
            passwordSecretVersionName_succeeds.mpr (project given)
          obtain ⟨payload, found⟩ := accessed given named
          exact ⟨name, payload, named, found⟩
    exact ⟨_, bind_eq_ok.mpr ⟨_, rfl, bind_eq_ok.mpr ⟨_, rfl,
      bind_eq_ok.mpr ⟨_, rfl, bind_eq_ok.mpr ⟨_, resolved,
        bind_eq_ok.mpr ⟨(), mapError_eq_ok.mpr (connects first),
          rfl⟩⟩⟩⟩⟩⟩

theorem createPgPool_supported
    {pool : PgPool}
    (made : createPgPool externals env = .ok pool) :
    (given env "DB_ENGINE").getD "direct" = "direct" ∨
      given env "DB_ENGINE" = some "cloud-sql" := by
  unfold createPgPool at made
  dsimp only at made
  split at made
  · cases made
  · rename_i supported
    cases named : given env "DB_ENGINE" with
    | none =>
        exact .inl rfl
    | some engine =>
        rw [named, Option.getD_some, not_not, List.mem_pair] at supported
        rcases supported with rfl | rfl
        · exact .inr rfl
        · exact .inl rfl

theorem createPgPool_succeeds_iff :
    (∃ pool, createPgPool externals env = .ok pool) ↔
      DatabaseConfigured env ∧
        (given env "DB_ENGINE" = some "cloud-sql" →
          DatabaseAnswers externals env) := by
  constructor
  · rintro ⟨pool, made⟩
    rcases createPgPool_supported made with engine | engine
    · refine ⟨.direct engine
        ((createPgPool_direct engine).mp ⟨pool, made⟩), ?_⟩
      intro cloudSql
      rw [cloudSql] at engine
      exact absurd engine (by decide)
    · obtain ⟨names, project, answers⟩ :=
        (createPgPool_cloudSql engine).mp ⟨pool, made⟩
      exact ⟨.cloudSql engine names project, fun _ => answers⟩
  · rintro ⟨⟨engine, url⟩ | ⟨engine, names, project⟩, answers⟩
    · exact (createPgPool_direct engine).mpr url
    · exact (createPgPool_cloudSql engine).mpr
        ⟨names, project, answers engine⟩

/-- What a worker's variables are when its validator accepts them. -/
theorem validateWorkerStartupConfig_ok
    (notTest : env "NODE_ENV" ≠ some "test")
    {status : ValidationStatus}
    (accepted : validateWorkerStartupConfig env = .ok status) :
    Provides env workerVariables ∧
      env "WORKER_REQUIRE_RUNTIME_ISOLATION" = some "false" := by
  rw [validateWorkerStartupConfig, if_neg notTest] at accepted
  obtain ⟨_, provided, accepted⟩ := bind_eq_ok.mp accepted
  obtain ⟨_, isolation, -⟩ := bind_eq_ok.mp accepted
  exact ⟨checkVariables_eq_ok.mp provided,
    of_decide_eq_true (checkThat_eq_ok.mp isolation)⟩

/-- A scheduler's variables when its validator accepts them. -/
structure Validated (env : ProcessEnv) : Prop where
  provided : Provides env productionVariables
  apartFromWorker :
    env "RUNTIME_SERVICE_ACCOUNT_EMAIL" ≠
      env "WORKER_INVOKER_SERVICE_ACCOUNT_EMAIL"
  apartFromScheduler :
    env "RUNTIME_SERVICE_ACCOUNT_EMAIL" ≠
      env "SCHEDULER_INVOKER_SERVICE_ACCOUNT_EMAIL"
  database : DatabaseConfigured env

theorem databaseConfigured_of_validateDatabase
    (project : Provides env ["GCP_PROJECT_ID"])
    {result : Unit}
    (accepted : validateDatabase env = .ok result) :
    DatabaseConfigured env := by
  obtain ⟨engine, demanded, accepted⟩ := bind_eq_ok.mp accepted
  have named := demand_variable.mp demanded
  split at accepted
  · rename_i cloudSql
    rw [cloudSql] at named
    exact .cloudSql named (checkVariables_eq_ok.mp accepted)
      fun _ _ => project
  · split at accepted
    · rename_i direct
      obtain ⟨url, demanded, -⟩ := bind_eq_ok.mp accepted
      exact .direct (by rw [named, direct]; rfl)
        (provides_singleton.mpr ⟨url, demand_variable.mp demanded⟩)
    · cases accepted

theorem validated_of_ok
    (notTest : env "NODE_ENV" ≠ some "test")
    {status : ValidationStatus}
    (accepted : validateProductionStartupConfig env = .ok status) :
    status = .ok ∧ Validated env := by
  rw [validateProductionStartupConfig, if_neg notTest] at accepted
  obtain ⟨_, listed, accepted⟩ := bind_eq_ok.mp accepted
  obtain ⟨_, -, accepted⟩ := bind_eq_ok.mp accepted
  obtain ⟨_, worker, accepted⟩ := bind_eq_ok.mp accepted
  obtain ⟨_, scheduler, accepted⟩ := bind_eq_ok.mp accepted
  obtain ⟨_, -, accepted⟩ := bind_eq_ok.mp accepted
  obtain ⟨_, database, returned⟩ := bind_eq_ok.mp accepted
  have provided := checkVariables_eq_ok.mp listed
  refine ⟨(Except.ok.inj returned).symm, provided, ?_, ?_, ?_⟩
  · exact of_decide_eq_true (checkThat_eq_ok.mp worker)
  · exact of_decide_eq_true (checkThat_eq_ok.mp scheduler)
  · exact databaseConfigured_of_validateDatabase
      (provided.subset (by decide)) database

theorem getConfig_succeeds_iff :
    (∃ config, getConfig env = .ok config) ↔
      Provides env
        ["GCP_PROJECT_ID", "JOB_ZIP_BUCKET", "ES_ENDPOINT", "ES_API_KEY"] := by
  constructor
  · rintro ⟨config, read⟩
    obtain ⟨_, listed, -⟩ := bind_eq_ok.mp read
    exact checkVariables_eq_ok.mp listed
  · intro provided
    exact ⟨_, bind_eq_ok.mpr
      ⟨(), checkVariables_eq_ok.mpr provided, rfl⟩⟩

theorem esEndpoint_of_getConfig
    {config : Config}
    (read : getConfig env = .ok config) :
    config.esEndpoint = (env "ES_ENDPOINT").getD "" := by
  obtain ⟨_, -, returned⟩ := bind_eq_ok.mp read
  cases returned
  rfl

end Accepted

/-! ## The constructors -/

namespace InternalRoute

/-- The variable with the service account that a route is for. -/
def accountVariable : InternalRoute → String
  | .iga | .jobRuns => "WORKER_INVOKER_SERVICE_ACCOUNT_EMAIL"
  | .runtimeIga => "RUNTIME_SERVICE_ACCOUNT_EMAIL"
  | .scheduler => "SCHEDULER_INVOKER_SERVICE_ACCOUNT_EMAIL"

/-- The variable with the audience that a route is for. -/
def audienceVariable : InternalRoute → String
  | .iga | .jobRuns => "WORKER_OIDC_AUDIENCE"
  | .runtimeIga => "RUNTIME_BROKER_URL"
  | .scheduler => "SCHEDULER_OIDC_AUDIENCE"

def auth
    (env : ProcessEnv) :
    InternalRoute →
      Except StartupFailure InternalAuth
  | .iga => internalIgaAuth env
  | .runtimeIga => internalRuntimeIgaAuth env
  | .scheduler => internalSchedulerAuth env
  | .jobRuns => internalWorkerAuth env

end InternalRoute

section Constructors

variable {externals : Externals}
variable {env : ProcessEnv}

theorem orElse_some
    {first : Option String}
    {value : String}
    (found : first = some value)
    (nonempty : value ≠ "")
    (second : Option String) :
    orElse first second = some value := by
  subst found
  rw [orElse, Option.filter_some, if_pos (decide_eq_true nonempty)]

/-- The defaults are not looked at when both options are given. -/
theorem createInternalAuthMiddleware_given
    {audience email : String}
    (someAudience : audience ≠ "")
    (someEmail : email ≠ "") :
    createInternalAuthMiddleware env (some audience) (some email) =
      .ok ⟨audience, email⟩ := by
  rw [createInternalAuthMiddleware, Option.some_or, Option.some_or,
    demand_eq_ok.mpr ⟨rfl, someAudience⟩, demand_eq_ok.mpr ⟨rfl, someEmail⟩]
  rfl

/-- Each route takes its audience and its account from its own variables. -/
theorem Validated.auth
    (validated : Validated env)
    (route : InternalRoute) :
    ∃ audience email,
      env route.audienceVariable = some audience ∧
        env route.accountVariable = some email ∧
        route.auth env = .ok ⟨audience, email⟩ := by
  have named :
      route.audienceVariable ∈ productionVariables ∧
        route.accountVariable ∈ productionVariables := by
    cases route <;> decide
  obtain ⟨audience, foundAudience, someAudience⟩ :=
    validated.provided.value _ named.1
  obtain ⟨email, foundEmail, someEmail⟩ :=
    validated.provided.value _ named.2
  refine ⟨audience, email, foundAudience, foundEmail, ?_⟩
  cases route with
  | iga | jobRuns =>
      change createInternalAuthMiddleware env none none = _
      change env "WORKER_OIDC_AUDIENCE" = some audience at foundAudience
      change env "WORKER_INVOKER_SERVICE_ACCOUNT_EMAIL" = some email
        at foundEmail
      rw [createInternalAuthMiddleware, Option.none_or, Option.none_or,
        orElse_some foundAudience someAudience,
        demand_eq_ok.mpr ⟨rfl, someAudience⟩,
        demand_eq_ok.mpr ⟨foundEmail, someEmail⟩]
      rfl
  | runtimeIga =>
      change env "RUNTIME_BROKER_URL" = some audience at foundAudience
      change env "RUNTIME_SERVICE_ACCOUNT_EMAIL" = some email at foundEmail
      rw [InternalRoute.auth, internalRuntimeIgaAuth,
        orElse_some foundAudience someAudience,
        orElse_some foundEmail someEmail]
      exact createInternalAuthMiddleware_given someAudience someEmail
  | scheduler =>
      change env "SCHEDULER_OIDC_AUDIENCE" = some audience at foundAudience
      change env "SCHEDULER_INVOKER_SERVICE_ACCOUNT_EMAIL" = some email
        at foundEmail
      rw [InternalRoute.auth, internalSchedulerAuth,
        demand_eq_ok.mpr ⟨foundAudience, someAudience⟩,
        demand_eq_ok.mpr ⟨foundEmail, someEmail⟩]
      exact createInternalAuthMiddleware_given someAudience someEmail

/-- The libraries take what they get, and the cloud services answer. -/
structure PlaysAlong
    (externals : Externals)
    (env : ProcessEnv) :
    Prop where
  esEndpoint : externals.takesNode ((env "ES_ENDPOINT").getD "") = true
  jwksUrl :
    ∀ url,
      given env "PUBLIC_API_JWKS_URL" = some url →
      externals.isUrl url = true
  ui : given env "UI_DIST_PATH" ≠ none → externals.takesPath "*" = true
  database :
    given env "DB_ENGINE" = some "cloud-sql" →
    DatabaseAnswers externals env

theorem parseUrl_eq_ok
    {text url : String} :
    parseUrl externals text = .ok url ↔
      externals.isUrl text = true ∧ text = url := by
  unfold parseUrl
  split
  · rename_i valid
    rw [Except.ok.injEq, and_iff_right valid]
  · rename_i invalid
    exact iff_of_false (fun impossible => nomatch impossible) fun both =>
      invalid both.1

theorem createEsClient_succeeds_iff :
    (∃ client, createEsClient externals env = .ok client) ↔
      Provides env
          ["GCP_PROJECT_ID", "JOB_ZIP_BUCKET", "ES_ENDPOINT", "ES_API_KEY"] ∧
        externals.takesNode ((env "ES_ENDPOINT").getD "") = true := by
  rw [← getConfig_succeeds_iff]
  constructor
  · rintro ⟨client, made⟩
    obtain ⟨config, read, made⟩ := bind_eq_ok.mp made
    split at made
    · rename_i taken
      exact ⟨⟨config, read⟩, esEndpoint_of_getConfig read ▸ taken⟩
    · cases made
  · rintro ⟨⟨config, read⟩, taken⟩
    rw [← esEndpoint_of_getConfig read] at taken
    exact ⟨_, bind_eq_ok.mpr ⟨config, read, if_pos taken⟩⟩

theorem serveUi_eq_ok
    {result : Unit} :
    serveUi externals env = .ok result ↔
      (given env "UI_DIST_PATH" ≠ none → externals.takesPath "*" = true) := by
  unfold serveUi
  cases given env "UI_DIST_PATH" with
  | none =>
      exact iff_of_true rfl fun absent => (absent rfl).elim
  | some directory =>
      dsimp only
      split
      · rename_i taken
        exact iff_of_true rfl fun _ => taken
      · rename_i refused
        exact iff_of_false (fun impossible => nomatch impossible)
          fun takes => refused (takes (Option.some_ne_none directory))

theorem listen_succeeds_iff
    {port : ListenArgument} :
    (∃ listening, listen port = .ok listening) ↔ Listens port := by
  rw [← isSome_listen?]
  unfold listen
  cases listen? port with
  | none =>
      exact iff_of_false (fun ⟨_, impossible⟩ => nomatch impossible)
        (by decide)
  | some listening =>
      exact iff_of_true ⟨listening, rfl⟩ rfl

theorem createPublicAuthMiddleware_succeeds_iff :
    (∃ publicAuth,
        createPublicAuthMiddleware externals env = .ok publicAuth) ↔
      Provides env ["PUBLIC_API_ISSUER", "PUBLIC_API_AUDIENCE"] ∧
        ∀ url, given env "PUBLIC_API_JWKS_URL" = some url →
          externals.isUrl url = true := by
  constructor
  · rintro ⟨publicAuth, made⟩
    obtain ⟨issuer, first, made⟩ := bind_eq_ok.mp made
    obtain ⟨audience, second, made⟩ := bind_eq_ok.mp made
    obtain ⟨jwksUrl, third, -⟩ := bind_eq_ok.mp made
    refine ⟨?_, ?_⟩
    · simp only [Provides, List.forall_mem_cons, List.not_mem_nil,
        false_imp_iff, implies_true, and_true]
      exact ⟨⟨issuer, demand_variable.mp first⟩,
        audience, demand_variable.mp second⟩
    · intro url named
      rw [named] at third
      obtain ⟨parsed, valid, -⟩ := map_eq_ok.mp third
      exact (parseUrl_eq_ok.mp valid).1
  · rintro ⟨provided, valid⟩
    obtain ⟨issuer, first⟩ := provided "PUBLIC_API_ISSUER" (by decide)
    obtain ⟨audience, second⟩ := provided "PUBLIC_API_AUDIENCE" (by decide)
    unfold createPublicAuthMiddleware
    rw [demand_variable.mpr first, demand_variable.mpr second]
    cases named : given env "PUBLIC_API_JWKS_URL" with
    | none =>
        exact ⟨_, rfl⟩
    | some url =>
        rw [createJoseVerifier, parseUrl_eq_ok.mpr ⟨valid url named, rfl⟩]
        exact ⟨_, rfl⟩

theorem createIgaClient_of_provides
    (provided :
      Provides env
        ["IGA_TOKEN_ENDPOINT", "IGA_CLIENT_ID", "IGA_CLIENT_SECRET",
          "IGA_BASE_URL"]) :
    ∃ client, createIgaClient env = .ok client := by
  obtain ⟨_, first⟩ := provided "IGA_TOKEN_ENDPOINT" (by decide)
  obtain ⟨_, second⟩ := provided "IGA_CLIENT_ID" (by decide)
  obtain ⟨_, third⟩ := provided "IGA_CLIENT_SECRET" (by decide)
  obtain ⟨_, fourth⟩ := provided "IGA_BASE_URL" (by decide)
  unfold createIgaClient
  rw [demand_variable.mpr first, demand_variable.mpr second,
    demand_variable.mpr third, demand_variable.mpr fourth]
  exact ⟨_, rfl⟩

/-- A start that came to its end. -/
structure Starts
    (externals : Externals)
    (env : ProcessEnv)
    (application : Application) :
    Prop where
  accepted : ∃ status, validateProductionStartupConfig env = .ok status
  pool : createPgPool externals env = .ok application.pool
  esClient : createEsClient externals env = .ok application.esClient
  publicAuth :
    createPublicAuthMiddleware externals env = .ok application.publicAuth
  internalAuth :
    ∀ route : InternalRoute,
      route.auth env = .ok (application.internalAuth route)
  ui : serveUi externals env = .ok ()
  listening : listen (schedulerPort env) = .ok application.listening

theorem starts_of_ok
    {application : Application}
    (started : startApplication externals env = .ok application) :
    Starts externals env application := by
  obtain ⟨status, accepted, started⟩ := bind_eq_ok.mp started
  obtain ⟨_, pool, started⟩ := bind_eq_ok.mp started
  obtain ⟨_, esClient, started⟩ := bind_eq_ok.mp started
  obtain ⟨_, publicAuth, started⟩ := bind_eq_ok.mp started
  obtain ⟨_, iga, started⟩ := bind_eq_ok.mp started
  obtain ⟨_, -, started⟩ := bind_eq_ok.mp started
  obtain ⟨_, runtimeIga, started⟩ := bind_eq_ok.mp started
  obtain ⟨_, scheduler, started⟩ := bind_eq_ok.mp started
  obtain ⟨_, jobRuns, started⟩ := bind_eq_ok.mp started
  obtain ⟨_, ui, started⟩ := bind_eq_ok.mp started
  obtain ⟨_, listening, started⟩ := bind_eq_ok.mp started
  cases started
  refine ⟨⟨status, accepted⟩, pool, esClient, publicAuth, ?_, ui,
    listening⟩
  intro route
  cases route with
  | iga =>
      exact iga
  | runtimeIga =>
      exact runtimeIga
  | scheduler =>
      exact scheduler
  | jobRuns =>
      exact jobRuns

/-- Nothing behind the validator finds a setting missing. -/
theorem Validated.starts
    (validated : Validated env)
    (accepted : ∃ status, validateProductionStartupConfig env = .ok status)
    (playsAlong : PlaysAlong externals env)
    (listens : Listens (schedulerPort env)) :
    ∃ application, startApplication externals env = .ok application := by
  have provided := validated.provided
  obtain ⟨status, accepted⟩ := accepted
  obtain ⟨pool, database⟩ :=
    createPgPool_succeeds_iff.mpr ⟨validated.database, playsAlong.database⟩
  obtain ⟨es, esClient⟩ :=
    (@createEsClient_succeeds_iff externals env).mpr
      ⟨provided.subset (by decide), playsAlong.esEndpoint⟩
  obtain ⟨verifier, publicAuth⟩ :=
    (@createPublicAuthMiddleware_succeeds_iff externals env).mpr
      ⟨provided.subset (by decide), playsAlong.jwksUrl⟩
  obtain ⟨client, igaClient⟩ :=
    createIgaClient_of_provides (provided.subset (by decide))
  obtain ⟨_, _, -, -, iga⟩ := validated.auth .iga
  obtain ⟨_, _, -, -, runtimeIga⟩ := validated.auth .runtimeIga
  obtain ⟨_, _, -, -, scheduler⟩ := validated.auth .scheduler
  obtain ⟨_, _, -, -, jobRuns⟩ := validated.auth .jobRuns
  have ui : serveUi externals env = .ok () :=
    serveUi_eq_ok.mpr playsAlong.ui
  obtain ⟨listening, bound⟩ := listen_succeeds_iff.mpr listens
  exact ⟨_, bind_eq_ok.mpr ⟨_, accepted, bind_eq_ok.mpr ⟨_, database,
    bind_eq_ok.mpr ⟨_, esClient, bind_eq_ok.mpr ⟨_, publicAuth,
      bind_eq_ok.mpr ⟨_, iga, bind_eq_ok.mpr ⟨_, igaClient,
        bind_eq_ok.mpr ⟨_, runtimeIga, bind_eq_ok.mpr ⟨_, scheduler,
          bind_eq_ok.mpr ⟨_, jobRuns, bind_eq_ok.mpr ⟨_, ui,
            bind_eq_ok.mpr ⟨_, bound, rfl⟩⟩⟩⟩⟩⟩⟩⟩⟩⟩⟩⟩

/-- Outside of tests, what decides whether an application starts. -/
theorem startApplication_succeeds_iff
    (notTest : env "NODE_ENV" ≠ some "test") :
    (∃ application, startApplication externals env = .ok application) ↔
      validateProductionStartupConfig env = .ok .ok ∧
        PlaysAlong externals env ∧
        Listens (schedulerPort env) := by
  constructor
  · rintro ⟨application, started⟩
    have starts := starts_of_ok started
    obtain ⟨status, accepted⟩ := starts.accepted
    obtain ⟨rfl, -⟩ := validated_of_ok notTest accepted
    refine ⟨accepted, ?_, listen_succeeds_iff.mp ⟨_, starts.listening⟩⟩
    exact {
      esEndpoint := (createEsClient_succeeds_iff.mp ⟨_, starts.esClient⟩).2
      jwksUrl :=
        (createPublicAuthMiddleware_succeeds_iff.mp
          ⟨_, starts.publicAuth⟩).2
      ui := serveUi_eq_ok.mp starts.ui
      database := (createPgPool_succeeds_iff.mp ⟨_, starts.pool⟩).2
    }
  · rintro ⟨accepted, playsAlong, listens⟩
    exact (validated_of_ok notTest accepted).2.starts ⟨_, accepted⟩
      playsAlong listens

end Constructors

/-! ## What production starts -/

section Production

variable {externals : Externals}
variable {env : ProcessEnv}

theorem mode_of_given
    {mode : String}
    (named : (given env "APP_MODE").getD "production" = mode)
    (other : mode ≠ "production") :
    given env "APP_MODE" = some mode := by
  cases found : given env "APP_MODE" with
  | none =>
      rw [found] at named
      exact absurd named.symm other
  | some value =>
      rw [found] at named
      exact congrArg some named

/-- In production a start that ends well has started the scheduler. -/
theorem main_eq_ok
    (production : env "NODE_ENV" = some "production")
    {started : Started} :
    main externals env = .ok started ↔
      given env "APP_MODE" ≠ some "local" ∧
        ∃ application,
          startApplication externals env = .ok application ∧
            started = .scheduler application := by
  unfold main resolveAppMode
  dsimp only
  by_cases localMode : (given env "APP_MODE").getD "production" = "local"
  · rw [if_pos ⟨localMode, production⟩]
    refine iff_of_false (fun impossible => nomatch impossible) ?_
    rintro ⟨other, -⟩
    exact other (mode_of_given localMode (by decide))
  · rw [if_neg fun both => localMode both.1]
    have other : given env "APP_MODE" ≠ some "local" := by
      intro named
      rw [named] at localMode
      exact localMode rfl
    rw [and_iff_right other]
    change (if _ then _ else _) = _ ↔ _
    rw [if_neg localMode, map_eq_ok]
    simp only [eq_comm]

/-- The first request of a job finds the proxy's settings. -/
theorem Starts.proxySettings
    {application : Application}
    (starts : Starts externals env application)
    (validated : Validated env) :
    ∃ settings, runtimeIgaProxySettings externals env = .ok settings := by
  obtain ⟨client, igaClient⟩ :=
    createIgaClient_of_provides (validated.provided.subset (by decide))
  obtain ⟨config, read⟩ :=
    getConfig_succeeds_iff.mpr (validated.provided.subset (by decide))
  exact ⟨_, bind_eq_ok.mpr ⟨_, starts.esClient, bind_eq_ok.mpr
    ⟨_, igaClient, bind_eq_ok.mpr ⟨_, read, rfl⟩⟩⟩⟩

/--
`main.js` starts something in production exactly when the local backend is not
asked for, the validator accepts the variables, what it calls plays along and
it can listen; it is then the scheduler, and its proxy will not find a setting
missing.
-/
theorem production_starts_iff
    (production : env "NODE_ENV" = some "production") :
    ((∃ started, main externals env = .ok started) ↔
        given env "APP_MODE" ≠ some "local" ∧
          validateProductionStartupConfig env = .ok .ok ∧
          PlaysAlong externals env ∧
          Listens (schedulerPort env)) ∧
      ∀ started,
        main externals env = .ok started →
        ∃ application settings,
          started = .scheduler application ∧
            runtimeIgaProxySettings externals env = .ok settings := by
  have notTest : env "NODE_ENV" ≠ some "test" := by
    rw [production]
    decide
  constructor
  · rw [← startApplication_succeeds_iff notTest]
    constructor
    · rintro ⟨started, ran⟩
      obtain ⟨other, application, listens, -⟩ := (main_eq_ok production).mp ran
      exact ⟨other, application, listens⟩
    · rintro ⟨other, application, listens⟩
      exact ⟨_, (main_eq_ok production).mpr
        ⟨other, application, listens, rfl⟩⟩
  · intro started ran
    obtain ⟨-, application, listens, rfl⟩ := (main_eq_ok production).mp ran
    have starts := starts_of_ok listens
    obtain ⟨status, accepted⟩ := starts.accepted
    obtain ⟨settings, read⟩ :=
      starts.proxySettings (validated_of_ok notTest accepted).2
    exact ⟨application, settings, rfl, read⟩

end Production

/-- The variables of a scheduler behind a database proxy. -/
def schedulerEnv : ProcessEnv :=
  fun name => [("NODE_ENV", "production"), ("GCP_PROJECT_ID", "iga"),
    ("JOB_ZIP_BUCKET", "iga-jobs"), ("ES_ENDPOINT", "https://es.iga.test"),
    ("ES_API_KEY", "key"), ("WORKER_OIDC_AUDIENCE", "https://iga.test"),
    ("WORKER_INVOKER_SERVICE_ACCOUNT_EMAIL", "operator@iga.test"),
    ("SCHEDULER_OIDC_AUDIENCE", "https://iga.test"),
    ("SCHEDULER_INVOKER_SERVICE_ACCOUNT_EMAIL", "tick@iga.test"),
    ("WORKER_EXECUTION_MODE", "isolated"),
    ("RUNTIME_SERVICE_ACCOUNT_EMAIL", "runtime@iga.test"),
    ("RUNTIME_BROKER_URL", "https://iga.test"),
    ("IGA_TOKEN_ENDPOINT", "https://idp.test/token"),
    ("IGA_CLIENT_ID", "client"), ("IGA_CLIENT_SECRET", "secret"),
    ("IGA_BASE_URL", "https://idp.test"),
    ("PUBLIC_API_ISSUER", "https://idp.test"),
    ("PUBLIC_API_AUDIENCE", "scheduler"), ("DB_ENGINE", "direct"),
    ("DATABASE_URL", "postgres://127.0.0.1/iga"),
    ("DB_ALLOW_DIRECT", "true"), ("PORT", "8080")].lookup name

/-- URLs begin with `https:`; Express takes no `*`, and no secret is found. -/
def httpsOnly : Externals where
  isUrl text := JavaScript.startsWith text "https://"
  takesNode node := JavaScript.startsWith node "https://"
  takesPath path := path ≠ "*"
  accessSecretVersion _ := .error "5 NOT_FOUND: Secret not found"
  getOptions _ _ := .ok ()

theorem production_starts_iff_schedulerEnv :
    ∃ application,
      main httpsOnly schedulerEnv = .ok (.scheduler application) := by
  obtain ⟨starts, isScheduler⟩ :=
    @production_starts_iff httpsOnly schedulerEnv rfl
  have noKeySet : given schedulerEnv "PUBLIC_API_JWKS_URL" = none := rfl
  have noUi : given schedulerEnv "UI_DIST_PATH" = none := rfl
  have direct : given schedulerEnv "DB_ENGINE" = some "direct" := rfl
  have playsAlong : PlaysAlong httpsOnly schedulerEnv := by
    refine ⟨by decide, ?_, ?_, ?_⟩
    · intro url named
      rw [noKeySet] at named
      cases named
    · intro named
      exact (named noUi).elim
    · intro named
      rw [direct] at named
      exact absurd named (by decide)
  have listens : Listens (schedulerPort schedulerEnv) :=
    .inr ⟨by decide, by decide⟩
  obtain ⟨started, ran⟩ :=
    starts.mpr ⟨by decide, by decide, playsAlong, listens⟩
  obtain ⟨application, settings, rfl, -⟩ := isScheduler started ran
  exact ⟨application, ran⟩

end Startup

end IgaScheduler

import IgaScheduler.ProxyProtocol
import IgaScheduler.WorkerStartup

namespace IgaScheduler

/-!
# Who gets past the internal routes

The routes below `/internal` each compare the bearer token of a request with
an audience and a service account.  Their settings come from the environment
that the validator has accepted: the account of the jobs gets past the route of
the proxy and no other, and what a job sends there is let in exactly as the
broker's URL is written.
-/

namespace InternalAccess

open ExecutionMetadata (field strictEquals)
open Startup

/-! ## `internalAuth.js` -/

/-- The characters that `.` does not match. -/
def isLineTerminator (letter : Char) : Bool :=
  letter.toNat ∈ [10, 13, 8232, 8233]

/-- The first group of `/^Bearer\s+(.+)$/i`. -/
def bearerToken (authorization : String) : Option String :=
  let letters := authorization.toList
  let spaces := (letters.drop 6).takeWhile JavaScript.isWhiteSpace
  let token := (letters.drop 6).dropWhile JavaScript.isWhiteSpace
  if (letters.take 6).map Char.toLower ≠ "bearer".toList ∨ spaces = [] then
    none
  else if token = [] then
    -- `\s+` gives its last character back to `.+`
    match spaces.reverse with
    | last :: _ :: _ =>
        if isLineTerminator last then none else some (String.singleton last)
    | _ => none
  else if token.any isLineTerminator then
    none
  else
    some (String.ofList token)

/-- What is behind `OAuth2Client`. -/
structure OidcClient where
  /-- The payload of a token whose signature, issuer and expiry are valid. -/
  payload : String → Option Json

/-- `verifyIdToken` throws unless the token is for the audience. -/
def OidcClient.verifyIdToken
    (client : OidcClient)
    (idToken audience : String) :
    Option Json :=
  (client.payload idToken).filter fun payload =>
    strictEquals (field (some payload) "aud") (some (.str audience))

/-- `verifyGoogleOidcToken`. -/
def OidcClient.verifyToken
    (client : OidcClient)
    (token audience : String) :
    Option Json :=
  (client.verifyIdToken token audience).filter fun payload =>
    JavaScript.truthy (some payload)

/-- What becomes of a request at the middleware. -/
inductive AuthReply where
  | refused (status : Nat) (error : String)
  /-- `req.internalAuth.principal` is set, and the route goes on. -/
  | next (principal : String)
  deriving DecidableEq

/-- `claims.email || claims.sub`. -/
def principalOf (claims : Json) : Option Json :=
  let email := field (some claims) "email"
  if JavaScript.truthy email then email else field (some claims) "sub"

def internalAuth
    (client : OidcClient)
    (auth : InternalAuth)
    (authorization : Option String) :
    AuthReply :=
  match bearerToken (authorization.getD "") with
  | none => .refused 401 "missing bearer token"
  | some token =>
      match client.verifyToken token auth.expectedAudience with
      | none => .refused 401 "invalid bearer token"
      | some claims =>
          if !strictEquals (field (some claims) "aud")
              (some (.str auth.expectedAudience)) then
            .refused 403 "invalid token audience"
          else
            match principalOf claims with
            | some (.str email) =>
                if email ≠ auth.expectedServiceAccountEmail then
                  .refused 403 "invalid token principal"
                else
                  .next email
            | _ => .refused 403 "invalid token principal"

section Middleware

variable {client : OidcClient}
variable {auth : InternalAuth}
variable {authorization : Option String}

/-- Who is let in is the account of the route, by a token of its own. -/
theorem admitted_of_next
    {principal : String}
    (admitted : internalAuth client auth authorization = .next principal) :
    principal = auth.expectedServiceAccountEmail ∧
      ∃ token claims,
        bearerToken (authorization.getD "") = some token ∧
          client.payload token = some claims ∧
          principalOf claims = some (.str principal) := by
  unfold internalAuth at admitted
  split at admitted
  · cases admitted
  · rename_i token presented
    split at admitted
    · cases admitted
    · rename_i claims verified
      split at admitted
      · cases admitted
      · split at admitted
        · rename_i email known
          split at admitted
          · cases admitted
          · rename_i same
            cases admitted
            have signed := (Option.filter_eq_some_iff.mp
              (Option.filter_eq_some_iff.mp verified).1).1
            exact ⟨not_not.mp same, token, claims, presented, signed, known⟩
        · cases admitted

/-- One header shows the same account wherever it is let in. -/
theorem principal_unique
    {other : InternalAuth}
    {principal otherPrincipal : String}
    (admitted : internalAuth client auth authorization = .next principal)
    (admittedToo :
      internalAuth client other authorization = .next otherPrincipal) :
    principal = otherPrincipal := by
  obtain ⟨-, token, claims, presented, signed, known⟩ :=
    admitted_of_next admitted
  obtain ⟨-, otherToken, otherClaims, presentedToo, signedToo, knownToo⟩ :=
    admitted_of_next admittedToo
  cases presented.symm.trans presentedToo
  cases signed.symm.trans signedToo
  cases known.symm.trans knownToo
  rfl

end Middleware

/-! ## The account of the jobs -/

section Accounts

variable {externals : Externals}
variable {env : ProcessEnv}
variable {application : Application}
variable {client : OidcClient}

theorem account_of_started
    (notTest : env "NODE_ENV" ≠ some "test")
    (started : startApplication externals env = .ok application)
    (route : InternalRoute) :
    env route.audienceVariable =
        some (application.internalAuth route).expectedAudience ∧
      env route.accountVariable =
        some (application.internalAuth route).expectedServiceAccountEmail := by
  have starts := starts_of_ok started
  obtain ⟨status, accepted⟩ := starts.accepted
  obtain ⟨-, validated⟩ := validated_of_ok notTest accepted
  obtain ⟨audience, email, named, known, made⟩ := validated.auth route
  rw [Except.ok.inj ((starts.internalAuth route).symm.trans made)]
  exact ⟨named, known⟩

/-- Of the accounts of the routes, the one of the proxy is not another's. -/
theorem runtimeAccount_iff
    (notTest : env "NODE_ENV" ≠ some "test")
    (started : startApplication externals env = .ok application)
    (route : InternalRoute) :
    env "RUNTIME_SERVICE_ACCOUNT_EMAIL" = env route.accountVariable ↔
      route = .runtimeIga := by
  obtain ⟨status, accepted⟩ := (starts_of_ok started).accepted
  obtain ⟨-, validated⟩ := validated_of_ok notTest accepted
  cases route with
  | iga | jobRuns =>
      exact iff_of_false validated.apartFromWorker (by rintro ⟨⟩)
  | runtimeIga =>
      exact iff_of_true rfl rfl
  | scheduler =>
      exact iff_of_false validated.apartFromScheduler (by rintro ⟨⟩)

/--
Whoever a started scheduler lets in at an internal route is the account of that
route; the account of the jobs gets past the proxy's route and no other, and no
request that gets past that one would get past another.
-/
theorem job_account_confined
    (notTest : env "NODE_ENV" ≠ some "test")
    (started : startApplication externals env = .ok application)
    {route : InternalRoute}
    {authorization : Option String}
    {principal : String}
    (admitted :
      internalAuth client (application.internalAuth route) authorization =
        .next principal) :
    env route.accountVariable = some principal ∧
      (env "RUNTIME_SERVICE_ACCOUNT_EMAIL" = some principal ↔
        route = .runtimeIga) ∧
      ∀ other otherPrincipal,
        internalAuth client (application.internalAuth other) authorization =
          .next otherPrincipal →
        (other = .runtimeIga ↔ route = .runtimeIga) := by
  have accountOf :
      ∀ {route : InternalRoute} {principal : String},
        internalAuth client (application.internalAuth route) authorization =
          .next principal →
        env route.accountVariable = some principal := by
    intro route principal admitted
    rw [(admitted_of_next admitted).1]
    exact (account_of_started notTest started route).2
  have account := accountOf admitted
  have separated := runtimeAccount_iff notTest started
  refine ⟨account, ?_, ?_⟩
  · rw [← account]
    exact separated route
  · intro other otherPrincipal admittedToo
    rw [← separated other, ← separated route, accountOf admittedToo, account,
      principal_unique admitted admittedToo]

end Accounts

/-- A token of the account of the jobs, for an audience. -/
def jobClient (audience : String) : OidcClient where
  payload token :=
    if token = "token" then
      some (.obj [("aud", .str audience), ("email", .str "runtime@iga.test")])
    else
      none

theorem job_account_confined_jobClient :
    ∃ application,
      startApplication httpsOnly schedulerEnv = .ok application ∧
        internalAuth (jobClient "https://iga.test")
            (application.internalAuth .runtimeIga) (some "bearer  token") =
          .next "runtime@iga.test" ∧
        ∀ other otherPrincipal,
          internalAuth (jobClient "https://iga.test")
              (application.internalAuth other) (some "bearer  token") =
            .next otherPrincipal →
          other = .runtimeIga := by
  obtain ⟨application, started⟩ :
      ∃ application, startApplication httpsOnly schedulerEnv = .ok application :=
    ⟨_, rfl⟩
  have admitted :
      internalAuth (jobClient "https://iga.test")
          (application.internalAuth .runtimeIga) (some "bearer  token") =
        .next "runtime@iga.test" := by
    cases started
    decide
  refine ⟨application, started, admitted, ?_⟩
  intro other otherPrincipal admittedToo
  exact ((job_account_confined (by decide) started admitted).2.2 other
    otherPrincipal admittedToo).mpr rfl

/-! ## The requests of a job -/

/-- A token for an audience that the metadata server has issued. -/
structure IdentityToken
    (client : OidcClient)
    (account audience token : String) :
    Prop where
  nonempty : token ≠ ""
  letters : ∀ letter ∈ token.toList, JavaScript.isWhiteSpace letter = false
  claims :
    ∃ claims,
      client.payload token = some (.obj claims) ∧
        claims.lookup "aud" = some (.str audience) ∧
        claims.lookup "email" = some (.str account)

section Tokens

variable {client : OidcClient}
variable {account audience token : String}

theorem not_isLineTerminator
    {letter : Char}
    (visible : JavaScript.isWhiteSpace letter = false) :
    isLineTerminator letter = false := by
  unfold isLineTerminator
  rw [decide_eq_false_iff_not]
  intro ends
  have blank : JavaScript.isWhiteSpace letter = true := by
    unfold JavaScript.isWhiteSpace
    simp only [List.mem_cons, List.not_mem_nil, or_false] at ends
    rcases ends with code | code | code | code <;> rw [code] <;> decide
  rw [visible] at blank
  cases blank

/-- The token is taken out of the header that it was put into. -/
theorem bearerToken_append
    (nonempty : token ≠ "")
    (visible :
      ∀ letter ∈ token.toList, JavaScript.isWhiteSpace letter = false) :
    bearerToken ("Bearer " ++ token) = some token := by
  obtain ⟨first, rest, shape⟩ :
      ∃ first rest, token.toList = first :: rest := by
    cases shape : token.toList with
    | nil =>
        exact absurd (String.toList_eq_nil_iff.mp shape) nonempty
    | cons first rest =>
        exact ⟨first, rest, rfl⟩
  have firstVisible := visible first (by rw [shape]; exact List.mem_cons_self)
  have letters :
      ("Bearer " ++ token).toList =
        ['B', 'e', 'a', 'r', 'e', 'r', ' '] ++ first :: rest := by
    rw [String.toList_append, shape]
    rfl
  have oneLine :
      ∀ letter ∈ token.toList, isLineTerminator letter = false :=
    fun letter member => not_isLineTerminator (visible letter member)
  have blank : JavaScript.isWhiteSpace ' ' = true := by decide
  have keyword :
      ['B', 'e', 'a', 'r', 'e', 'r'].map Char.toLower = "bearer".toList := by
    decide
  unfold bearerToken
  rw [letters]
  simp only [List.cons_append, List.nil_append, List.drop_succ_cons,
    List.drop_zero, List.take_succ_cons, List.take_zero,
    List.takeWhile_cons_of_pos blank, List.dropWhile_cons_of_pos blank,
    List.takeWhile_cons, List.dropWhile_cons, firstVisible, keyword]
  simpa [← shape] using And.intro nonempty oneLine

/-- The middleware asks of an identity token no more than its audience. -/
theorem internalAuth_identityToken
    (identity : IdentityToken client account audience token)
    (auth : InternalAuth)
    (sameAccount : auth.expectedServiceAccountEmail = account)
    (someAccount : account ≠ "") :
    internalAuth client auth (some ("Bearer " ++ token)) =
      if audience = auth.expectedAudience then
        .next account
      else
        .refused 401 "invalid bearer token" := by
  obtain ⟨claims, signed, aud, email⟩ := identity.claims
  have asked :
      strictEquals (field (some (.obj claims)) "aud")
          (some (.str auth.expectedAudience)) =
        decide (audience = auth.expectedAudience) := by
    rw [field, aud]
    rfl
  have known : principalOf (.obj claims) = some (.str account) := by
    unfold principalOf
    rw [field, email]
    exact if_pos (decide_eq_true someAccount)
  unfold internalAuth
  rw [Option.getD_some,
    bearerToken_append identity.nonempty identity.letters]
  dsimp only
  unfold OidcClient.verifyToken OidcClient.verifyIdToken
  rw [signed, Option.filter_some]
  by_cases same : audience = auth.expectedAudience
  · rw [if_pos (asked.trans (decide_eq_true same)), Option.filter_some,
      if_pos (JavaScript.truthy_obj claims), if_pos same]
    dsimp only
    rw [asked, decide_eq_true same, known]
    dsimp only
    rw [sameAccount, if_neg (by decide), if_neg (not_not.mpr rfl)]
  · rw [if_neg (by rw [asked, decide_eq_true_eq]; exact same), if_neg same]
    rfl

end Tokens

end InternalAccess

/-! ## What a client of the SDK sends -/

namespace SchedulerSdk

variable (payload : String → Option Json)
variable (environment : BrokerEnvironment)
variable (server : BrokerServer)
variable {issued : String → Prop}

/-- Every token of the session was issued to it. -/
structure Holds
    (issued : String → Prop)
    (session : Session) :
    Prop where
  cached : ∀ {entry}, session.cached = some entry → issued entry.token
  sent :
    ∀ request ∈ session.sent,
      ∃ token, issued token ∧ request.authorization = "Bearer " ++ token

theorem holds_initial : Holds issued initial where
  cached := by
    rintro entry ⟨⟩
  sent := by
    intro request member
    cases member

/-- What the metadata server answers with a token is issued. -/
def Issues (issued : String → Prop) : Prop :=
  ∀ index token,
    fetchOidcToken (server.tokens index) = some token →
    issued token

theorem refresh_holds
    (issues : Issues server issued)
    {session : Session}
    (holds : Holds issued session)
    (now : Timestamp) :
    Holds issued (refresh payload server session now).2 ∧
      ∀ token,
        (refresh payload server session now).1 = some token →
        issued token := by
  unfold refresh
  cases fetched : fetchOidcToken (server.tokens session.fetched) with
  | none =>
      refine ⟨⟨holds.cached, holds.sent⟩, ?_⟩
      rintro token ⟨⟩
  | some token =>
      have granted := issues _ _ fetched
      refine ⟨⟨?_, holds.sent⟩, ?_⟩
      · rintro entry ⟨⟩
        exact granted
      · rintro other ⟨⟩
        exact granted

theorem getToken_holds
    (issues : Issues server issued)
    {session : Session}
    (holds : Holds issued session)
    (now : Timestamp) :
    Holds issued (getToken payload server session now).2 ∧
      ∀ token,
        (getToken payload server session now).1 = some token →
        issued token := by
  unfold getToken
  split
  · rename_i entry cached
    split
    · refine ⟨holds, ?_⟩
      rintro token ⟨⟩
      exact holds.cached cached
    · exact refresh_holds payload server issues holds now
  · exact refresh_holds payload server issues holds now

theorem Holds.post
    {session : Session}
    (holds : Holds issued session)
    {token : String}
    (granted : issued token)
    (call : ExecuteCall) :
    Holds issued
      (session.post server (proxyRequest environment call token)).2 := by
  refine ⟨holds.cached, ?_⟩
  intro request member
  rcases List.mem_append.mp member with earlier | last
  · exact holds.sent request earlier
  · rw [List.mem_singleton.mp last]
    exact ⟨token, granted, rfl⟩

theorem request_holds
    (issues : Issues server issued)
    {session : Session}
    (holds : Holds issued session)
    {token : String}
    (granted : issued token)
    (call : ExecuteCall) :
    Holds issued
      (request payload environment server session call token).2 := by
  have posted := holds.post environment server granted call
  unfold request
  dsimp only
  split
  · have uncached :
        Holds issued
          { (session.post server (proxyRequest environment call token)).2 with
            cached := none } :=
      ⟨by rintro entry ⟨⟩, posted.sent⟩
    obtain ⟨refreshed, fresh⟩ :=
      getToken_holds payload server issues uncached call.retriedAt
    split
    · rename_i answered
      rw [answered] at refreshed
      exact refreshed
    · rename_i freshToken next answered
      rw [answered] at refreshed fresh
      exact refreshed.post environment server (fresh freshToken rfl) call
  · exact posted

theorem execute_holds
    (issues : Issues server issued)
    {session : Session}
    (holds : Holds issued session)
    (call : ExecuteCall) :
    Holds issued (execute payload environment server session call).2 := by
  obtain ⟨refreshed, granted⟩ :=
    getToken_holds payload server issues holds call.calledAt
  unfold execute
  split
  · rename_i answered
    rw [answered] at refreshed
    exact refreshed
  · rename_i token next answered
    rw [answered] at refreshed granted
    exact request_holds payload environment server issues refreshed
      (granted token rfl) call

/-- All that a client sends carries a token that was issued to it. -/
theorem converse_holds
    (issues : Issues server issued)
    (calls : List ExecuteCall) :
    Holds issued (converse payload environment server calls).2 := by
  suffices ∀ {session : Session}, Holds issued session →
      Holds issued
        (BrokerSession.run (execute payload environment server) session
          calls).2 from
    this holds_initial
  induction calls with
  | nil =>
      exact fun holds => holds
  | cons call rest inductionHypothesis =>
      intro session holds
      exact inductionHypothesis
        (execute_holds payload environment server issues holds call)

end SchedulerSdk

namespace InternalAccess

open Startup

/-- A token that the metadata server gives to a client of this broker. -/
def JobToken
    (client : OidcClient)
    (account : String)
    (environment : BrokerEnvironment) :
    String → Prop :=
  IdentityToken client account
    (SchedulerSdk.stripTrailingSlashes environment.brokerUrl)

/-- What the proxy's route makes of the requests that a job sends. -/
def jobReply
    (account : String)
    (environment : BrokerEnvironment) :
    AuthReply :=
  if SchedulerSdk.stripTrailingSlashes environment.brokerUrl =
      environment.brokerUrl then
    .next account
  else
    .refused 401 "invalid bearer token"

/--
A worker that polls starts a job, and its broker is a scheduler that listens.
Whatever the job asks of the SDK, the scheduler lets all of its requests in if
the broker's URL does not end in a slash, and none of them if it does.
-/
theorem job_requests_admitted_iff
    {schedulerExternals workerExternals : Externals}
    {schedulerEnv workerEnv : ProcessEnv}
    (notTest :
      schedulerEnv "NODE_ENV" ≠ some "test" ∧
        workerEnv "NODE_ENV" ≠ some "test")
    {application : Application}
    (listens :
      startApplication schedulerExternals schedulerEnv = .ok application)
    {worker : Worker}
    (polls : startWorker workerExternals workerEnv = .ok worker)
    (broker :
      workerEnv "RUNTIME_BROKER_URL" = schedulerEnv "RUNTIME_BROKER_URL")
    {settings : JobRuntimeExecutor.Settings}
    {host : JobRuntimeExecutor.Host}
    {request : JobRuntimeExecutor.Request}
    {buffer : ZipArtifacts.ZipBuffer}
    {created : ZipArtifacts.TemporaryDirectory}
    {spawn : JobRuntimeExecutor.Spawn}
    (inherits : host.env = workerEnv)
    (reached :
      JobRuntimeExecutor.execute settings host request buffer created =
        .ok spawn)
    {client : OidcClient}
    {account : String}
    (identity : schedulerEnv "RUNTIME_SERVICE_ACCOUNT_EMAIL" = some account) :
    ∃ brokerUrl,
      spawn.env.lookup "IGA_BROKER_URL" = some brokerUrl ∧
        ∀ (environment : BrokerEnvironment) (server : BrokerServer)
          (payload : String → Option Json) (calls : List ExecuteCall),
          environment.brokerUrl = brokerUrl →
          SchedulerSdk.Issues server (JobToken client account environment) →
          ∀ sent ∈
            (SchedulerSdk.converse payload environment server calls).2.sent,
            internalAuth client (application.internalAuth .runtimeIga)
                (some sent.authorization) =
              jobReply account environment := by
  obtain ⟨brokerUrl, found, -⟩ :=
    (configured_of_started notTest.2 polls).broker inherits reached
  have spawned :=
    (JobRuntimeExecutor.jobEnvironment_of_execute reached).brokerUrl
  rw [JobRuntimeExecutor.Host.envValue, inherits] at spawned
  obtain ⟨named, nonempty⟩ := given_eq_some.mp found
  refine ⟨brokerUrl, spawned.trans found, ?_⟩
  rintro environment server payload calls rfl issues sent member
  obtain ⟨audience, expected⟩ :=
    account_of_started notTest.1 listens .runtimeIga
  have sameAudience :
      (application.internalAuth .runtimeIga).expectedAudience =
        environment.brokerUrl :=
    Option.some.inj (audience.symm.trans (broker.symm.trans named))
  have sameAccount :
      (application.internalAuth .runtimeIga).expectedServiceAccountEmail =
        account :=
    Option.some.inj (expected.symm.trans identity)
  obtain ⟨status, accepted⟩ := (starts_of_ok listens).accepted
  obtain ⟨found, known, someAccount⟩ :=
    (validated_of_ok notTest.1 accepted).2.provided.value
      "RUNTIME_SERVICE_ACCOUNT_EMAIL" (by decide)
  cases identity.symm.trans known
  obtain ⟨token, issued, header⟩ :=
    (SchedulerSdk.converse_holds payload environment server issues
      calls).sent sent member
  rw [header, internalAuth_identityToken issued _ sameAccount someAccount,
    sameAudience]
  rfl

/-- The same process with another broker. -/
def withBroker
    (brokerUrl : String)
    (env : ProcessEnv) :
    ProcessEnv :=
  fun name => if name = "RUNTIME_BROKER_URL" then some brokerUrl else env name

/-- Both services name the broker with a slash, and the job is not let in. -/
theorem job_requests_admitted_iff_slash :
    ∃ application,
      startApplication httpsOnly
            (withBroker "https://iga.test/" schedulerEnv) =
          .ok application ∧
        ∀ sent ∈
          (SchedulerSdk.converse (fun _ => none)
            { nightlyEnvironment with brokerUrl := "https://iga.test/" }
            grantingServer [pingCall]).2.sent,
          internalAuth (jobClient "https://iga.test")
              (application.internalAuth .runtimeIga)
              (some sent.authorization) =
            .refused 401 "invalid bearer token" := by
  obtain ⟨application, listens⟩ :
      ∃ application,
        startApplication httpsOnly
            (withBroker "https://iga.test/" schedulerEnv) =
          .ok application :=
    ⟨_, rfl⟩
  obtain ⟨worker, polls⟩ :
      ∃ worker,
        startWorker reachable (withBroker "https://iga.test/" workerEnv) =
          .ok worker :=
    ⟨_, rfl⟩
  obtain ⟨spawn, reached⟩ :
      ∃ spawn,
        JobRuntimeExecutor.execute { requireRuntimeIsolation := false }
            { JobRuntimeExecutor.nodeHost with
              env := withBroker "https://iga.test/" workerEnv }
            JobRuntimeExecutor.nightlyRequest
            (JobRuntimeExecutor.jobArchive "main.js")
            ZipArtifacts.emptyTemporaryDirectory =
          .ok spawn :=
    ⟨_, rfl⟩
  refine ⟨application, listens, ?_⟩
  obtain ⟨brokerUrl, named, admits⟩ :=
    @job_requests_admitted_iff httpsOnly reachable _ _ ⟨by decide, by decide⟩
      application listens worker polls rfl _ _ _ _ _ spawn rfl reached
      (jobClient "https://iga.test") "runtime@iga.test" rfl
  have sameUrl : "https://iga.test/" = brokerUrl := by
    rw [(JobRuntimeExecutor.jobEnvironment_of_execute reached).brokerUrl]
      at named
    exact Option.some.inj named
  have issues :
      SchedulerSdk.Issues grantingServer
        (JobToken (jobClient "https://iga.test") "runtime@iga.test"
          { nightlyEnvironment with brokerUrl := "https://iga.test/" }) := by
    intro index token answered
    cases answered
    have visible :
        "token".toList.all
          (fun letter => !JavaScript.isWhiteSpace letter) = true := by
      decide
    refine ⟨by decide, ?_, _, rfl, rfl, rfl⟩
    intro letter member
    simpa using List.all_eq_true.mp visible letter member
  exact admits _ grantingServer (fun _ => none) [pingCall] sameUrl issues

end InternalAccess

end IgaScheduler

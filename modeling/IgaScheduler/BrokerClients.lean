import IgaScheduler.MetadataSnapshot
import Mathlib.Data.Rat.Init

namespace IgaScheduler

/-!
# The two `BrokerIgaClient`s

The client of the JavaScript SDK and the one of the Python SDK, each as a
function of the replies it gets.  What is sent is what the client hands to its
HTTP library, which follows redirects by itself and throws when no reply
arrives.  The token requests differ in nothing that matters here, so only their
number is kept; how a token's payload is decoded is left to the two libraries.
-/

/-- `IGA_BROKER_URL`, `IGA_SCHEDULER_RUN_ID` and `IGA_SCHEDULER_DISPATCH_ID`. -/
structure BrokerEnvironment where
  brokerUrl : String
  runId : String
  dispatchId : String
  deriving DecidableEq, Repr

/-- One `execute(method, path, body)`, with the clock when it needs a token. -/
structure ExecuteCall where
  method : String
  path : String
  body : Json
  calledAt : Timestamp
  /-- The clock after a 401. -/
  retriedAt : Timestamp

/-- A `POST` of the client. -/
structure ProxyRequest where
  url : String
  authorization : String
  body : Json

/-- What the metadata server answers. -/
inductive TokenReply where
  | answered (status : Nat) (text : String)
  | failed
  deriving DecidableEq, Repr

/-- What the proxy answers; `none` is a body that is not JSON. -/
inductive ProxyReply where
  | answered (status : Nat) (json : Option Json)
  | failed

/-- The replies to the token requests and to the proxy requests, in order. -/
structure BrokerServer where
  tokens : Nat → TokenReply
  replies : Nat → ProxyReply

/-- How `execute` ends; `none` is JavaScript's `undefined`. -/
inductive ExecuteOutcome where
  | returned (value : Option Json)
  | failed

/-- What a client keeps between its calls, and what it has sent, oldest first. -/
structure BrokerSession (κ : Type) where
  cached : κ
  fetched : Nat
  sent : List ProxyRequest

namespace BrokerEnvironment

/-- The body of a proxy request. -/
def requestBody
    (environment : BrokerEnvironment)
    (call : ExecuteCall) :
    Json :=
  .obj [("runId", .str environment.runId),
    ("dispatchId", .str environment.dispatchId),
    ("method", .str call.method), ("path", .str call.path),
    ("body", call.body)]

end BrokerEnvironment

namespace BrokerSession

variable {κ : Type}

/-- Send a proxy request and get its reply. -/
def post
    (server : BrokerServer)
    (session : BrokerSession κ)
    (request : ProxyRequest) :
    ProxyReply × BrokerSession κ :=
  (server.replies session.sent.length,
    { session with sent := session.sent ++ [request] })

/-- Whether a reply has the status 401. -/
def isUnauthorized : ProxyReply → Bool
  | .answered status _ => status = 401
  | .failed => false

/-- Make the calls one after the other. -/
def run
    (execute :
      BrokerSession κ →
        ExecuteCall →
        ExecuteOutcome × BrokerSession κ)
    (session : BrokerSession κ) :
    List ExecuteCall →
      List ExecuteOutcome × BrokerSession κ
  | [] => ([], session)
  | call :: rest =>
      let (outcome, next) := execute session call
      let (outcomes, final) := run execute next rest
      (outcome :: outcomes, final)

end BrokerSession

/-- The number that a JSON number stands for. -/
def decimalValue
    (mantissa : Int)
    (exponent : Nat) :
    ℚ :=
  mantissa / 10 ^ exponent

/-! ## `src/sdk/scheduler-sdk.js` -/

namespace SchedulerSdk

/-- `_cachedToken`. -/
structure CachedToken where
  token : String
  expiresAtMs : ℚ

abbrev Session := BrokerSession (Option CachedToken)

/-- `text.replace(/\/+$/, "")`. -/
def stripTrailingSlashes (text : String) : String :=
  String.ofList
    (text.toList.reverse.dropWhile fun letter => letter = '/').reverse

/-- The `_brokerUrl` with the path of the proxy route. -/
def requestUrl (environment : BrokerEnvironment) : String :=
  stripTrailingSlashes environment.brokerUrl ++
    "/internal/runtime/iga/request"

/-- `parseJwtExp`. -/
def parseJwtExp
    (payload : String → Option Json)
    (jwt : String) :
    Option ℚ :=
  match ExecutionMetadata.field (payload jwt) "exp" with
  | some (.num mantissa exponent) =>
      some (decimalValue mantissa exponent * 1000)
  | _ => none

/-- `_fetchOidcToken`; `none` is a throw. -/
def fetchOidcToken : TokenReply → Option String
  | .answered status text =>
      if 200 ≤ status ∧ status ≤ 299 then some text else none
  | .failed => none

/-- `_getToken` when nothing usable is cached. -/
def refresh
    (payload : String → Option Json)
    (server : BrokerServer)
    (session : Session)
    (now : Timestamp) :
    Option String × Session :=
  match fetchOidcToken (server.tokens session.fetched) with
  | none => (none, { session with fetched := session.fetched + 1 })
  | some token =>
      (some token,
        { session with
          cached :=
            some ⟨token,
              (parseJwtExp payload token).getD (now + 3600000)⟩
          fetched := session.fetched + 1 })

/-- `_getToken`. -/
def getToken
    (payload : String → Option Json)
    (server : BrokerServer)
    (session : Session)
    (now : Timestamp) :
    Option String × Session :=
  match session.cached with
  | some cached =>
      if cached.expiresAtMs - now > 60000 then
        (some cached.token, session)
      else
        refresh payload server session now
  | none => refresh payload server session now

/-- The end of `_request`, past the retry. -/
def conclude : ProxyReply → ExecuteOutcome
  | .answered status json =>
      if 200 ≤ status ∧ status ≤ 299 then
        match json.getD (.obj []) with
        | .null => .failed
        | value =>
            .returned (ExecutionMetadata.field (some value) "result")
      else
        .failed
  | .failed => .failed

/-- The request that `_request` sends. -/
def proxyRequest
    (environment : BrokerEnvironment)
    (call : ExecuteCall)
    (token : String) :
    ProxyRequest where
  url := requestUrl environment
  authorization := "Bearer " ++ token
  body := environment.requestBody call

/-- `_request` with `retryOn401`. -/
def request
    (payload : String → Option Json)
    (environment : BrokerEnvironment)
    (server : BrokerServer)
    (session : Session)
    (call : ExecuteCall)
    (token : String) :
    ExecuteOutcome × Session :=
  let (reply, answered) :=
    session.post server (proxyRequest environment call token)
  if BrokerSession.isUnauthorized reply then
    match getToken payload server { answered with cached := none }
        call.retriedAt with
    | (none, refreshed) => (.failed, refreshed)
    | (some freshToken, refreshed) =>
        let (again, final) :=
          refreshed.post server (proxyRequest environment call freshToken)
        (conclude again, final)
  else
    (conclude reply, answered)

def execute
    (payload : String → Option Json)
    (environment : BrokerEnvironment)
    (server : BrokerServer)
    (session : Session)
    (call : ExecuteCall) :
    ExecuteOutcome × Session :=
  match getToken payload server session call.calledAt with
  | (none, refreshed) => (.failed, refreshed)
  | (some token, refreshed) =>
      request payload environment server refreshed call token

/-- A new client. -/
def initial : Session where
  cached := none
  fetched := 0
  sent := []

end SchedulerSdk

/-! ## `sdk/python/iga_scheduler/iga_client.py` -/

namespace PythonSdk

/-- `_token` and `_token_exp`; `none` is an `exp` that is no number. -/
structure Token where
  token : Option String
  tokenExp : Option ℚ

abbrev Session := BrokerSession Token

/-- The characters that `str.strip()` takes off. -/
def isSpace (letter : Char) : Bool :=
  letter.toNat ∈
    [9, 10, 11, 12, 13, 28, 29, 30, 31, 32, 133, 160, 5760, 8232, 8233, 8239,
      8287, 12288] ||
    (8192 ≤ letter.toNat && letter.toNat ≤ 8202)

def strip (text : String) : String :=
  String.ofList
    ((text.toList.dropWhile isSpace).reverse.dropWhile isSpace).reverse

/-- The `_token_exp` that `_fetch_token` stores for a token. -/
def tokenExp
    (payload : String → Option Json)
    (token : String)
    (now : Timestamp) :
    Option ℚ :=
  match payload token with
  | some (.obj fields) =>
      match fields.lookup "exp" with
      | none => some 0
      | some (.num mantissa exponent) =>
          some (decimalValue mantissa exponent)
      | some (.bool value) => some (if value then 1 else 0)
      | some _ => none
  | _ => some (now / 1000 + 3600)

/-- What `raise_for_status` raises on. -/
def isError (status : Nat) : Bool :=
  400 ≤ status && status < 600

/-- `_fetch_token`, and the token that `_get_token` then returns. -/
def fetchToken
    (payload : String → Option Json)
    (server : BrokerServer)
    (session : Session)
    (now : Timestamp) :
    Option String × Session :=
  match server.tokens session.fetched with
  | .failed => (none, { session with fetched := session.fetched + 1 })
  | .answered status text =>
      if isError status then
        (none, { session with fetched := session.fetched + 1 })
      else
        (some (strip text),
          { session with
            cached := ⟨some (strip text), tokenExp payload (strip text) now⟩
            fetched := session.fetched + 1 })

/-- `_get_token`; comparing with an `exp` that is no number raises. -/
def getToken
    (payload : String → Option Json)
    (server : BrokerServer)
    (session : Session)
    (now : Timestamp) :
    Option String × Session :=
  match session.cached.token with
  | none => fetchToken payload server session now
  | some token =>
      if token = "" then
        fetchToken payload server session now
      else
        match session.cached.tokenExp with
        | none => (none, session)
        | some tokenExp =>
            if (now : ℚ) / 1000 ≥ tokenExp - 60 then
              fetchToken payload server session now
            else
              (some token, session)

/-- `raise_for_status()` and `json()`. -/
def conclude : ProxyReply → ExecuteOutcome
  | .answered status json =>
      if isError status then
        .failed
      else
        match json with
        | none => .failed
        | some value => .returned (some value)
  | .failed => .failed

/-- The request that `execute` posts. -/
def proxyRequest
    (environment : BrokerEnvironment)
    (call : ExecuteCall)
    (token : String) :
    ProxyRequest where
  url := environment.brokerUrl
  authorization := "Bearer " ++ token
  body := environment.requestBody call

def execute
    (payload : String → Option Json)
    (environment : BrokerEnvironment)
    (server : BrokerServer)
    (session : Session)
    (call : ExecuteCall) :
    ExecuteOutcome × Session :=
  match getToken payload server session call.calledAt with
  | (none, refreshed) => (.failed, refreshed)
  | (some token, refreshed) =>
      let (reply, answered) :=
        refreshed.post server (proxyRequest environment call token)
      if BrokerSession.isUnauthorized reply then
        match getToken payload server
            { answered with cached := ⟨none, answered.cached.tokenExp⟩ }
            call.retriedAt with
        | (none, again) => (.failed, again)
        | (some fresh, again) =>
            let (reply, final) :=
              again.post server (proxyRequest environment call fresh)
            (conclude reply, final)
      else
        (conclude reply, answered)

/-- A new client. -/
def initial : Session where
  cached := ⟨none, some 0⟩
  fetched := 0
  sent := []

end PythonSdk

end IgaScheduler

import IgaScheduler.JavaScript
import IgaScheduler.RunControl

namespace IgaScheduler

/-!
# `RuntimeIgaProxyService`

The service behind `POST /internal/runtime/iga/request`.  The checks on the
request itself come before the row is read, the checks on the row right after;
only then does the service emit audit events and call IGA.
-/

/-- What the route passes to `request`. -/
structure IgaRequest where
  runId : Option Json
  dispatchId : Option Json
  method : Option Json
  path : Option Json
  body : Option Json
  principal : Option String

/-- The settings of the service. -/
structure RuntimeIgaProxyService where
  enabled : Bool := true
  maxRequestBytes : Nat := 262144
  maxResponseBytes : Nat := 1048576
  auditEnabled : Bool := true
  auditActor : String := "scheduler-runtime-iga-proxy"

/-- An error that `request` throws. -/
inductive IgaProxyError where
  /-- `badRequest(code, message, statusCode)`. -/
  | badRequest (code message : String) (statusCode : Nat)
  /-- `getRun` threw. -/
  | raised
  /-- `igaClient.request` threw. -/
  | iga (message : String)
  deriving DecidableEq, Repr

namespace IgaProxyError

/-- The `code` field, which errors of IGA and of the database leave out. -/
def code? : IgaProxyError → Option String
  | .badRequest code _ _ => some code
  | _ => none

def message : IgaProxyError → String
  | .badRequest _ message _ => message
  | .raised => "query failed"
  | .iga message => message

end IgaProxyError

/-- An event of the audit index. -/
structure IgaAuditEvent where
  eventType : String
  outcome : String
  actor : String
  principal : Option String
  runId : String
  createdAt : Timestamp
  method : String
  path : String
  jobDefinitionId : String
  jobInstanceId : String
  errorCode : Option String
  errorMessage : Option String
  deriving DecidableEq, Repr

/-- What the service does to the world. -/
inductive IgaEffect where
  /-- `esClient.create` on the audit index; its failure is swallowed. -/
  | audit (event : IgaAuditEvent)
  /-- `igaClient.request`. -/
  | forward (method path : String) (body : Option Json)

/-- A request that has passed the checks before the row is read. -/
structure CheckedRequest where
  runId : String
  dispatchId : Option Json
  method : String
  path : String
  body : Option Json
  principal : Option String

/-- `{ ok: true, method, path, result }`. -/
structure IgaEnvelope where
  method : String
  path : String
  result : Json

namespace RuntimeIgaProxyService

def allowedMethods : List String :=
  ["GET", "POST", "PUT", "PATCH", "DELETE"]

def normalizeMethod
    (method : Option Json) :
    Except IgaProxyError String :=
  let given :=
    match method with
    | some value =>
        if JavaScript.truthy (some value) then JavaScript.text value else ""
    | none => ""
  let normalizedMethod := JavaScript.toUpperCase given
  if normalizedMethod ∈ allowedMethods then
    .ok normalizedMethod
  else
    .error (.badRequest "IGA_METHOD_NOT_ALLOWED"
      "method must be one of GET, POST, PUT, PATCH, DELETE" 400)

/-- `/^https?:\/\//i.test(path)`. -/
def isAbsoluteUrl (path : String) : Bool :=
  let lowered := String.ofList (path.toList.map Char.toLower)
  JavaScript.startsWith lowered "http://" ||
    JavaScript.startsWith lowered "https://"

def normalizePath
    (path : Option Json) :
    Except IgaProxyError String :=
  let required :=
    IgaProxyError.badRequest "IGA_PATH_REQUIRED" "path is required" 400
  let invalid (message : String) :=
    IgaProxyError.badRequest "IGA_PATH_INVALID" message 400
  match path with
  | some (.str path) =>
      if path = "" then .error required
      else if !JavaScript.startsWith path "/" then
        .error (invalid "path must start with /")
      else if JavaScript.startsWith path "//" then
        .error (invalid "path must not start with //")
      else if isAbsoluteUrl path then
        .error (invalid "path must be relative, not an absolute URL")
      else .ok path
  | _ => .error required

def validateRequestSize
    (service : RuntimeIgaProxyService) :
    Option Json → Except IgaProxyError Unit
  | none => .ok ()
  | some .null => .ok ()
  | some body =>
      if JavaScript.byteLength body > service.maxRequestBytes then
        .error (.badRequest "IGA_REQUEST_TOO_LARGE"
          "IGA request body exceeds configured size limit" 413)
      else .ok ()

/-- `result || {}` is measured. -/
def validateResponseSize
    (service : RuntimeIgaProxyService)
    (result : Json) :
    Except IgaProxyError Unit :=
  let measured := if JavaScript.truthy (some result) then result else .obj []
  if JavaScript.byteLength measured > service.maxResponseBytes then
    .error (.badRequest "IGA_RESPONSE_TOO_LARGE"
      "IGA response exceeds configured size limit" 502)
  else .ok ()

/-- `!runId || typeof runId !== "string"` is refused. -/
def requireRunId (runId : Option Json) : Except IgaProxyError String :=
  let required :=
    IgaProxyError.badRequest "RUN_ID_REQUIRED" "runId is required" 400
  match runId with
  | some (.str runId) => if runId = "" then .error required else .ok runId
  | _ => .error required

/-- The steps of `request` before its first `await`. -/
def checkRequest
    (service : RuntimeIgaProxyService)
    (request : IgaRequest) :
    Except IgaProxyError CheckedRequest := do
  if !service.enabled then
    throw (.badRequest "RUNTIME_IGA_PROXY_DISABLED"
      "runtime IGA proxy is disabled" 403)
  let runId ← requireRunId request.runId
  let normalizedMethod ← normalizeMethod request.method
  let normalizedPath ← normalizePath request.path
  service.validateRequestSize request.body
  return {
    runId := runId
    dispatchId := request.dispatchId
    method := normalizedMethod
    path := normalizedPath
    body := request.body
    principal := request.principal
  }

/-- A request passes when each check does, and keeps what it shows. -/
theorem checkRequest_eq_ok
    {service : RuntimeIgaProxyService}
    {request : IgaRequest}
    {checked : CheckedRequest}
    (accepted : service.checkRequest request = .ok checked) :
    requireRunId request.runId = .ok checked.runId ∧
      checked.dispatchId = request.dispatchId := by
  unfold checkRequest at accepted
  cases enabled : service.enabled with
  | false =>
      rw [enabled] at accepted
      cases accepted
  | true =>
      rw [enabled] at accepted
      cases runId : requireRunId request.runId with
      | error error =>
          rw [runId] at accepted
          cases accepted
      | ok runId =>
          cases method : normalizeMethod request.method with
          | error error =>
              rw [runId, method] at accepted
              cases accepted
          | ok method =>
              cases path : normalizePath request.path with
              | error error =>
                  rw [runId, method, path] at accepted
                  cases accepted
              | ok path =>
                  cases size : service.validateRequestSize request.body with
                  | error error =>
                      rw [runId, method, path, size] at accepted
                      cases accepted
                  | ok _ =>
                      rw [runId, method, path, size] at accepted
                      cases accepted
                      exact ⟨rfl, rfl⟩

/-- `dispatchId !== run.dispatchId`, which a row without one skips. -/
def dispatchMismatch
    (dispatchId : Option Json)
    (run : RunDocument) :
    Bool :=
  match run.dispatchId with
  | none => false
  | some owner =>
      owner ≠ "" &&
        match dispatchId with
        | some (.str shown) => shown ≠ owner
        | _ => true

/-- The steps of `request` between the read row and the first audit event. -/
def checkRun
    (request : CheckedRequest)
    (found : Option RunDocument) :
    Except IgaProxyError RunDocument :=
  match found with
  | none => .error (.badRequest "RUN_NOT_FOUND" "run not found" 404)
  | some run =>
      if run.state ≠ .running then
        .error (.badRequest "RUN_NOT_RUNNING"
          s!"run {request.runId} is {run.state.text}; IGA requests are only allowed while RUNNING"
          409)
      else if dispatchMismatch request.dispatchId run then
        .error (.badRequest "IGA_RUN_DISPATCH_MISMATCH"
          s!"dispatchId does not match the current dispatch for run {request.runId}"
          403)
      else .ok run

/-- The row passes when it is `RUNNING` and its dispatch is the shown one. -/
theorem checkRun_eq_ok
    {request : CheckedRequest}
    {found : Option RunDocument}
    {run : RunDocument} :
    checkRun request found = .ok run ↔
      found = some run ∧ run.state = .running ∧
        dispatchMismatch request.dispatchId run = false := by
  cases found with
  | none =>
      simp [checkRun]
  | some loaded =>
      simp only [checkRun]
      split
      · rename_i notRunning
        constructor
        · intro impossible
          cases impossible
        · rintro ⟨⟨⟩, running, -⟩
          exact (notRunning running).elim
      · rename_i running
        split
        · rename_i mismatch
          constructor
          · intro impossible
            cases impossible
          · rintro ⟨⟨⟩, -, matching⟩
            rw [mismatch] at matching
            cases matching
        · rename_i matching
          constructor
          · intro passed
            cases passed
            exact ⟨rfl, by simpa using running, by simpa using matching⟩
          · rintro ⟨⟨⟩, -, -⟩
            rfl

/-- A row with an identifier matches only the request that shows it. -/
theorem dispatchMismatch_eq_false
    {shown : Option Json}
    {run : RunDocument}
    {owner : String}
    (bears : run.dispatchId = some owner)
    (nonempty : owner ≠ "") :
    dispatchMismatch shown run = false ↔ shown = some (.str owner) := by
  unfold dispatchMismatch
  rw [bears]
  cases shown with
  | none =>
      simp [nonempty]
  | some value =>
      cases value <;> simp [nonempty]

/-- `emitAuditEvent`; nothing is sent when auditing is off. -/
def emitAuditEvent
    (service : RuntimeIgaProxyService)
    (eventType outcome : String)
    (request : CheckedRequest)
    (run : RunDocument)
    (createdAt : Timestamp)
    (error : Option IgaProxyError) :
    Option IgaEffect :=
  if service.auditEnabled then
    some (.audit {
      eventType := eventType
      outcome := outcome
      actor := service.auditActor
      principal := request.principal
      runId := request.runId
      createdAt := createdAt
      method := request.method
      path := request.path
      jobDefinitionId := run.definitionId
      jobInstanceId := run.instanceId
      errorCode := error.bind IgaProxyError.code?
      errorMessage := error.map IgaProxyError.message
    })
  else
    none

end RuntimeIgaProxyService

namespace IgaProxyCall

/-- Where a call of `request` stands; each state names what it does next. -/
inductive Local where
  /-- The request is in order; `getRun` is next. -/
  | reading (request : CheckedRequest)
  /-- The row is in order; the `started` event is next. -/
  | starting (request : CheckedRequest) (run : RunDocument)
  /-- `igaClient.request` is next. -/
  | forwarding (request : CheckedRequest) (run : RunDocument)
  /-- IGA has answered; the `succeeded` event is next. -/
  | succeeding (request : CheckedRequest) (run : RunDocument) (result : Json)
  /-- Inside the `catch` block; the `failed` event is next. -/
  | failing
      (request : CheckedRequest)
      (run : RunDocument)
      (error : IgaProxyError)
  | done (outcome : Except IgaProxyError IgaEnvelope)

/-- The clock and IGA's answer to the call. -/
structure Environment where
  now : Timestamp
  answer : Except String Json

/-- The first `await` of a received request. -/
def receive
    (service : RuntimeIgaProxyService)
    (request : IgaRequest) :
    Local :=
  match service.checkRequest request with
  | .ok checked => .reading checked
  | .error error => .done (.error error)

/-- What the next step does to the world, if anything. -/
def effect
    (service : RuntimeIgaProxyService) :
    Local →
      Environment →
      Option IgaEffect
  | .starting request run, environment =>
      service.emitAuditEvent "runtime.iga.request.started" "started"
        request run environment.now none
  | .forwarding request _, _ =>
      some (.forward request.method request.path request.body)
  | .succeeding request run _, environment =>
      service.emitAuditEvent "runtime.iga.request.succeeded" "success"
        request run environment.now none
  | .failing request run error, environment =>
      service.emitAuditEvent "runtime.iga.request.failed" "failure"
        request run environment.now (some error)
  | _, _ => none

/-- Go on with what `getRun` answered. -/
def loaded
    (request : CheckedRequest)
    (found : Option RunDocument) :
    Local :=
  match RuntimeIgaProxyService.checkRun request found with
  | .ok run => .starting request run
  | .error error => .done (.error error)

/-- Go on with what IGA answered. -/
def answered
    (service : RuntimeIgaProxyService)
    (request : CheckedRequest)
    (run : RunDocument) :
    Except String Json →
      Local
  | .error message => .failing request run (.iga message)
  | .ok result =>
      match service.validateResponseSize result with
      | .ok () => .succeeding request run result
      | .error error => .failing request run error

/-- The call after its next step; `getRun` answers `found`. -/
def advance
    (service : RuntimeIgaProxyService)
    (found : Option RunDocument) :
    Local →
      Environment →
      Local
  | .reading request, _ => loaded request found
  | .starting request run, _ => .forwarding request run
  | .forwarding request run, environment =>
      answered service request run environment.answer
  | .succeeding request _ result, _ =>
      .done (.ok ⟨request.method, request.path, result⟩)
  | .failing _ _ error, _ => .done (.error error)
  | .done outcome, _ => .done outcome

/-- Once the row has been read the call does not read it again. -/
theorem loaded_ne_reading
    (request again : CheckedRequest)
    (found : Option RunDocument) :
    loaded request found ≠ .reading again := by
  unfold loaded
  split <;> exact fun impossible => by cases impossible

theorem advance_ne_reading
    {service : RuntimeIgaProxyService}
    {call : Local}
    (notReading : ∀ request, call ≠ .reading request)
    (found : Option RunDocument)
    (environment : Environment)
    (again : CheckedRequest) :
    advance service found call environment ≠ .reading again := by
  intro impossible
  cases call with
  | reading request =>
      exact notReading request rfl
  | forwarding request run =>
      simp only [advance] at impossible
      generalize environment.answer = answer at impossible
      cases answer with
      | error message =>
          cases impossible
      | ok result =>
          simp only [answered] at impossible
          split at impossible <;> cases impossible
  | starting | succeeding | failing | done =>
      cases impossible

/-- The request of a call whose row has passed. -/
def Local.passed? : Local → Option CheckedRequest
  | .starting request _ => some request
  | .forwarding request _ => some request
  | .succeeding request _ _ => some request
  | .failing request _ _ => some request
  | _ => none

/-- The effect is one for this request, under the run it names. -/
def Serves (request : CheckedRequest) : IgaEffect → Prop
  | .audit event => event.runId = request.runId
  | .forward method path body =>
      method = request.method ∧ path = request.path ∧ body = request.body

theorem emitAuditEvent_serves
    {service : RuntimeIgaProxyService}
    {eventType outcome : String}
    {request : CheckedRequest}
    {run : RunDocument}
    {createdAt : Timestamp}
    {error : Option IgaProxyError}
    {done : IgaEffect}
    (emitted :
      service.emitAuditEvent eventType outcome request run createdAt error =
        some done) :
    Serves request done := by
  unfold RuntimeIgaProxyService.emitAuditEvent at emitted
  split at emitted
  · cases emitted
    rfl
  · cases emitted

/-- Only a call whose row has passed acts, and only for its own request. -/
theorem effect_serves
    {service : RuntimeIgaProxyService}
    {call : Local}
    {environment : Environment}
    {done : IgaEffect}
    (performed : effect service call environment = some done) :
    ∃ request, call.passed? = some request ∧ Serves request done := by
  cases call with
  | reading | done =>
      cases performed
  | forwarding request run =>
      cases performed
      exact ⟨request, rfl, rfl, rfl, rfl⟩
  | starting request | succeeding request | failing request =>
      exact ⟨request, rfl, emitAuditEvent_serves performed⟩

/-- A call whose row has passed goes on for the same request. -/
theorem passed_of_advance
    {service : RuntimeIgaProxyService}
    {call : Local}
    {found : Option RunDocument}
    {environment : Environment}
    {request : CheckedRequest}
    (notReading : ∀ earlier, call ≠ .reading earlier)
    (passed :
      (advance service found call environment).passed? = some request) :
    call.passed? = some request := by
  cases call with
  | reading earlier =>
      exact (notReading earlier rfl).elim
  | forwarding earlier run =>
      simp only [advance] at passed
      generalize environment.answer = answer at passed
      cases answer with
      | error message =>
          exact passed
      | ok result =>
          simp only [answered] at passed
          split at passed <;> exact passed
  | starting =>
      exact passed
  | succeeding | failing | done =>
      cases passed

/-- The call goes on exactly when the row passes. -/
theorem passed_of_loaded
    {request later : CheckedRequest}
    {found : Option RunDocument}
    (passed : (loaded request found).passed? = some later) :
    later = request ∧
      ∃ run, RuntimeIgaProxyService.checkRun request found = .ok run := by
  unfold loaded at passed
  split at passed
  · rename_i run accepted
    cases passed
    exact ⟨rfl, run, accepted⟩
  · cases passed

end IgaProxyCall

end IgaScheduler

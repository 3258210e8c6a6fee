import IgaScheduler.JavaScript
import IgaScheduler.RunIds
import IgaScheduler.RunSystem

namespace IgaScheduler

open Relational Interleaving

/-!
# The public run API

`GET /job-runs/:runId`, `GET /job-instances/:instanceId/runs` and
`POST /job-runs/:runId/cancel`, from the stored rows to the JSON that is sent.
-/

/-- A status code with a JSON body. -/
structure HttpResponse where
  status : Nat
  body : Json

namespace PublicRuns

def optionalText (value : Option String) : Json :=
  (value.map Json.str).getD .null

/-- `toIso`. -/
def optionalInstant (value : Option Timestamp) : Json :=
  (value.map fun instant => Json.str (toISOString instant)).getD .null

def parameterValueJson : ParameterValue → Json
  | .string value => .obj [("type", .str "string"), ("value", .str value)]
  | .stringArray value =>
      .obj [("type", .str "string[]"), ("value", .arr (value.map .str))]
  | .sensitive secretRef =>
      .obj [("type", .str "sensitive"), ("secretRef", .str secretRef)]

def parametersJson (parameters : Parameters) : Json :=
  .obj (parameters.map fun (name, value) =>
    (name, parameterValueJson value))

/-- The fields of the object that `rowToDocument` returns. -/
def documentFields (run : RunDocument) : List (String × Json) :=
  [("runId", .str run.runId),
    ("tenantId", optionalText run.tenantId),
    ("instanceId", .str run.instanceId),
    ("definitionId", .str run.definitionId),
    ("definitionVersion",
      (run.definitionVersion.map fun version => Json.num version 0).getD
        .null),
    ("scheduledFireTime", .str (toISOString run.scheduledFireTime)),
    ("state", .str run.state.text),
    ("attempt", .num run.attempt 0),
    ("dispatchId", optionalText run.dispatchId),
    ("params", parametersJson run.params),
    ("status", run.status.getD .null),
    ("result", run.result.getD .null),
    ("error", run.error.getD .null),
    ("executionMetadata", run.executionMetadata.getD .null),
    ("runtimeExecution", run.runtimeExecution.getD .null),
    ("parentRunId", optionalText run.parentRunId),
    ("redriveOfRunId", optionalText run.redriveOfRunId),
    ("cancelRequestedAt", optionalInstant run.cancelRequestedAt),
    ("cancelledAt", optionalInstant run.cancelledAt),
    ("cancelledBy", optionalText run.cancelledBy),
    ("cancelReason", optionalText run.cancelReason),
    ("createdAt", .str (toISOString run.createdAt)),
    ("startedAt", optionalInstant run.startedAt),
    ("endedAt", optionalInstant run.endedAt),
    ("heartbeatAt", optionalInstant run.heartbeatAt),
    ("updatedAt", .str (toISOString run.updatedAt))]

/-- `const { runtimeExecution: _omit, ...rest } = run`. -/
def toPublicRun (run : RunDocument) : Json :=
  .obj ((documentFields run).filter fun field =>
    field.1 ≠ "runtimeExecution")

/-- The body `globalErrorHandler` sends. -/
def errorBody (error requestId : String) : Json :=
  .obj [("error", .str error), ("requestId", .str requestId)]

/-- `globalErrorHandler` for an error without a `statusCode`. -/
def internalError (requestId : String) : HttpResponse where
  status := 500
  body := errorBody "internal error" requestId

/-- `globalErrorHandler` on what a service call throws. -/
def errorResponse
    (requestId : String) :
    CallError → HttpResponse
  | .transitionError statusCode message =>
      ⟨statusCode, errorBody message requestId⟩
  | .raised => internalError requestId

/-! ## The reading routes -/

/-- `GET /job-runs/:runId`. -/
def getRun
    (rows : JobRuns)
    (runId : String) :
    HttpResponse :=
  match (rows.lookup runId).map (rowToDocument runId) with
  | none => ⟨404, .obj [("error", .str "run not found")]⟩
  | some run => ⟨200, toPublicRun run⟩

/-- `Math.min(parseInt(limit || "50", 10) || 50, 200)`. -/
def pageLimit (limit : Option String) : Int :=
  let given :=
    match limit with
    | none => "50"
    | some text => if text = "" then "50" else text
  let parsed :=
    match JavaScript.parseInt given with
    | none => 50
    | some 0 => 50
    | some value => value
  min parsed 200

/-- The rows `listRunsForInstance` selects. -/
def listRunsForInstance
    (rows : JobRuns)
    (instanceId : String)
    (limit : Nat)
    (state : Option String) :
    List (String × JobRun) :=
  rows.select
    (fun _ row =>
      row.instanceId = instanceId &&
        match state with
        | none => true
        | some wanted => wanted = "" || row.state.text = wanted)
    (fun row => -row.createdAt) limit

/-- `GET /job-instances/:instanceId/runs`; a negative `LIMIT` is an error. -/
def listRuns
    (rows : JobRuns)
    (requestId instanceId : String)
    (limit state : Option String) :
    HttpResponse :=
  match pageLimit limit with
  | .ofNat limit =>
      ⟨200, .obj [("items", .arr
        ((listRunsForInstance rows instanceId limit state).map
          fun (runId, row) => toPublicRun (rowToDocument runId row)))]⟩
  | .negSucc _ => internalError requestId

/-! ## The cancel route -/

/-- The body of an accepted cancel. -/
def cancelBody (result : CancelRun.Result) : Json :=
  .obj ([("status", .str result.state.text.toLower),
      ("action", .str "cancel"),
      ("runId", .str result.runId),
      ("state", .str result.state.text)] ++
    if result.idempotent then [("idempotent", .bool true)] else [])

/-- What the route sends once `cancelRun` has settled. -/
def cancelResponse
    (requestId : String) :
    RunCall → Option HttpResponse
  | .cancelRun (.done (.ok result)) => some ⟨202, cancelBody result⟩
  | .cancelRun (.done (.error error)) => some (errorResponse requestId error)
  | _ => none

/-- Process 0 calls `cancelRun` on the stored rows, and nobody else does. -/
def cancelSchedule
    (arguments : CancelRun.Arguments)
    (inputs : List RunInput) :
    List (Label RunInput) :=
  (0, .start (.cancelRun arguments)) :: inputs.map fun input => (0, input)

/-- `POST /job-runs/:runId/cancel`; the inputs are its environment's choices. -/
def cancel
    (rows : JobRuns)
    (requestId : String)
    (arguments : CancelRun.Arguments)
    (inputs : List RunInput) :
    Option HttpResponse :=
  (runSystem.run? (RunPool.initial rows)
    (cancelSchedule arguments inputs)).bind fun pool =>
      cancelResponse requestId (pool.locals 0)

end PublicRuns

/-- A request to the public run API. -/
inductive PublicRunRequest where
  | getRun (runId : String)
  | listRuns (instanceId : String) (limit state : Option String)
  | cancel (arguments : CancelRun.Arguments) (inputs : List RunInput)

/-- What the API answers over the stored rows; `none` while it is at work. -/
def PublicRunRequest.respond
    (rows : JobRuns)
    (requestId : String) :
    PublicRunRequest → Option HttpResponse
  | .getRun runId => some (PublicRuns.getRun rows runId)
  | .listRuns instanceId limit state =>
      some (PublicRuns.listRuns rows requestId instanceId limit state)
  | .cancel arguments inputs =>
      PublicRuns.cancel rows requestId arguments inputs

end IgaScheduler

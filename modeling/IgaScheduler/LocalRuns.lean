import IgaScheduler.JsonPrinter
import IgaScheduler.LocalColumns

namespace IgaScheduler

open Relational

/-!
# `LocalRunStore`

The store of the local application keeps `job_runs` in SQLite, with its JSON
columns as text.  An instant is kept as its ISO text, and listings are in the
order of these texts; `updated_at` is also written in SQLite's own format, so
it is kept as the text itself.  Of the rows whose texts are equal SQL leaves the
order open; here, as in PostgreSQL, they come as they are in the table.
-/

/-- The columns of the local `job_runs` that both stores keep alike. -/
structure SharedColumns where
  tenantId : Option String
  instanceId : String
  definitionId : String
  definitionVersion : Option Int
  scheduledFireTime : Timestamp
  state : RunState
  attempt : Nat
  params : Option String
  status : Option String
  result : Option String
  error : Option String
  runtimeExecution : Option String
  parentRunId : Option String
  redriveOfRunId : Option String
  cancelRequestedAt : Option Timestamp
  cancelledAt : Option Timestamp
  cancelledBy : Option String
  cancelReason : Option String
  createdAt : Timestamp
  startedAt : Option Timestamp
  endedAt : Option Timestamp
  heartbeatAt : Option Timestamp

/-- The columns of the local `job_runs` beside `run_id`. -/
structure LocalRun extends SharedColumns where
  dispatchId : Option String
  updatedAt : String

/-- The local `job_runs` table. -/
abbrev LocalRuns := Table String LocalRun

namespace LocalRunStore

open JavaScript (stringify truthy)

/-- The JSON columns are serialised unless they are null. -/
def columnText (value : Option Json) : Option String :=
  (jsonColumn value).map stringify

def toRow (document : RunDocument) : LocalRun where
  tenantId := document.tenantId
  instanceId := document.instanceId
  definitionId := document.definitionId
  definitionVersion := document.definitionVersion
  scheduledFireTime := document.scheduledFireTime
  state := document.state
  attempt := document.attempt
  dispatchId := document.dispatchId
  params := columnText (some (PublicRuns.parametersJson document.params))
  status := columnText document.status
  result := columnText document.result
  error := columnText document.error
  runtimeExecution := columnText document.runtimeExecution
  parentRunId := document.parentRunId
  redriveOfRunId := document.redriveOfRunId
  cancelRequestedAt := document.cancelRequestedAt
  cancelledAt := document.cancelledAt
  cancelledBy := document.cancelledBy
  cancelReason := document.cancelReason
  createdAt := document.createdAt
  startedAt := document.startedAt
  endedAt := document.endedAt
  heartbeatAt := document.heartbeatAt
  updatedAt := toISOString document.updatedAt

/-- `JSON.parse` on a column; what is no JSON is left as it is. -/
def columnValue : Option String → Json
  | none => .null
  | some text => (JavaScript.parse text.toList).getD (.str text)

/--
The fields of the object that `fromRow` returns; a JSON text has its null
characters escaped.
-/
def documentFields
    (runId : String)
    (row : LocalRun) :
    List (String × Json) :=
  [("runId", readJson runId),
    ("tenantId", readOptional row.tenantId),
    ("instanceId", readJson row.instanceId),
    ("definitionId", readJson row.definitionId),
    ("definitionVersion",
      (row.definitionVersion.map fun version => Json.num version 0).getD
        .null),
    ("scheduledFireTime", .str (toISOString row.scheduledFireTime)),
    ("state", .str row.state.text),
    ("attempt", .num row.attempt 0),
    ("dispatchId", readOptional row.dispatchId),
    ("params", columnValue row.params),
    ("status", columnValue row.status),
    ("result", columnValue row.result),
    ("error", columnValue row.error),
    ("runtimeExecution", columnValue row.runtimeExecution),
    ("parentRunId", readOptional row.parentRunId),
    ("redriveOfRunId", readOptional row.redriveOfRunId),
    ("cancelRequestedAt",
      PublicRuns.optionalInstant row.cancelRequestedAt),
    ("cancelledAt", PublicRuns.optionalInstant row.cancelledAt),
    ("cancelledBy", readOptional row.cancelledBy),
    ("cancelReason", readOptional row.cancelReason),
    ("createdAt", .str (toISOString row.createdAt)),
    ("startedAt", PublicRuns.optionalInstant row.startedAt),
    ("endedAt", PublicRuns.optionalInstant row.endedAt),
    ("heartbeatAt", PublicRuns.optionalInstant row.heartbeatAt),
    ("updatedAt", .str row.updatedAt)]

/-- `status ? JSON.stringify(status) : JSON.stringify({ phase, message })`. -/
def statusText
    (status : Option Json)
    (phase message : String) :
    String :=
  if truthy status then
    stringify (status.getD .null)
  else
    stringify (statusJson phase message)

/-- `claimRun`; no `dispatch_id` is minted. -/
def claimRun
    (startedAt : Timestamp)
    (status : Option Json) :
    RowUpdate LocalRun where
  guard row := row.state = .queued
  set row := { row with
    state := .running
    startedAt := some startedAt
    heartbeatAt := some startedAt
    status := some
      (statusText status "running" "Run claimed by worker")
    updatedAt := toISOString startedAt }

/-- The writes below are guarded by the state alone. -/
def recordRuntimeExecution
    (runtimeExecution : Json)
    (startedAt : Timestamp)
    (status : Option Json) :
    RowUpdate LocalRun where
  guard row := row.state = .running
  set row := { row with
    runtimeExecution := some (stringify runtimeExecution)
    heartbeatAt := some startedAt
    status := some
      (statusText status "dispatched"
        "Run dispatched to isolated runtime")
    updatedAt := toISOString startedAt }

def markSucceeded
    (endedAt : Timestamp)
    (result status : Option Json) :
    RowUpdate LocalRun where
  guard row := row.state = .running
  set row := { row with
    state := .succeeded
    endedAt := some endedAt
    heartbeatAt := some endedAt
    status := some
      (statusText status "succeeded" "Run completed successfully")
    result := columnText result
    error := none
    updatedAt := toISOString endedAt }

def markFailed
    (endedAt : Timestamp)
    (error status : Option Json) :
    RowUpdate LocalRun where
  guard row := row.state = .running
  set row := { row with
    state := .failed
    endedAt := some endedAt
    heartbeatAt := some endedAt
    status := some
      (statusText status "failed" "Run failed in worker runtime executor")
    error := columnText error
    updatedAt := toISOString endedAt }

/-- A value given to `transition`: objects are serialised, texts are not. -/
def givenText : Option Json → Option String
  | none => none
  | some .null => none
  | some (.str value) => some value
  | some value => some (stringify value)

/-- `datetime('now')`: the ISO text up to the seconds, a blank for its `T`. -/
def datetimeText (now : Timestamp) : String :=
  String.ofList ((Civil.text now).takeWhile (fun letter => letter != 'T') ++
    ' ' :: (((Civil.text now).dropWhile fun letter =>
      letter != 'T').drop 1).takeWhile fun letter => letter != '.')

/-- `transition`; the rightmost of two values for `updated_at` counts. -/
def transition
    (fromStates : List RunState)
    (set : RunStore.TransitionSet)
    (now : Timestamp) :
    RowUpdate LocalRun where
  guard row := row.state ∈ fromStates
  set row := { row with
    state := set.state
    attempt := set.attempt.getD row.attempt
    dispatchId := set.dispatchId.getD row.dispatchId
    startedAt := set.startedAt.getD row.startedAt
    endedAt := set.endedAt.getD row.endedAt
    heartbeatAt := set.heartbeatAt.getD row.heartbeatAt
    status := (set.status.map givenText).getD row.status
    error := (set.error.map givenText).getD row.error
    runtimeExecution :=
      (set.runtimeExecution.map givenText).getD row.runtimeExecution
    cancelRequestedAt := set.cancelRequestedAt.getD row.cancelRequestedAt
    cancelledAt := set.cancelledAt.getD row.cancelledAt
    cancelledBy := set.cancelledBy.getD row.cancelledBy
    cancelReason := set.cancelReason.getD row.cancelReason
    updatedAt := datetimeText now }

end LocalRunStore

/-! ## The calls of either store -/

/-- A call of a method that both stores have. -/
inductive StoreCall where
  /-- `createRun`, or `createRunTx` in a transaction that commits. -/
  | createRun (document : RunDocument)
  /-- `dispatchId` is what `randomUUID()` gives to `RunStore`. -/
  | claimRun
      (runId : String)
      (startedAt : Timestamp)
      (status : Option Json)
      (dispatchId : Uuid)
  | recordRuntimeExecution
      (runId : String)
      (runtimeExecution : Json)
      (startedAt : Timestamp)
      (status : Option Json)
      (dispatchId : Option String)
  | markSucceeded
      (runId : String)
      (endedAt : Timestamp)
      (result status : Option Json)
      (dispatchId : Option String)
  | markFailed
      (runId : String)
      (endedAt : Timestamp)
      (error status : Option Json)
      (dispatchId : Option String)
  | transition
      (runId : String)
      (fromStates : List RunState)
      (set : RunStore.TransitionSet)
      (now : Timestamp)
  | getRun (runId : String)
  | listQueuedRunIds (limit : Int)
  | listRunsForInstance
      (instanceId : String)
      (limit : Int)
      (state : Option String)

namespace StoreCall

/-- No text that goes to PostgreSQL has a null character. -/
def plain : StoreCall → Bool
  | .createRun document =>
      withoutNull (.obj (PublicRuns.documentFields document))
  | .claimRun runId _ status dispatchId =>
      withoutNull (.arr [.str runId, status.getD .null,
        .str dispatchId.text])
  | .recordRuntimeExecution runId runtimeExecution _ status dispatchId =>
      withoutNull (.arr [.str runId, runtimeExecution, status.getD .null,
        PublicRuns.optionalText dispatchId])
  | .markSucceeded runId _ result status dispatchId =>
      withoutNull (.arr [.str runId, result.getD .null, status.getD .null,
        PublicRuns.optionalText dispatchId])
  | .markFailed runId _ error status dispatchId =>
      withoutNull (.arr [.str runId, error.getD .null, status.getD .null,
        PublicRuns.optionalText dispatchId])
  | .transition runId _ set _ =>
      withoutNull (.arr [.str runId, set.status.join.getD .null,
        set.error.join.getD .null, set.runtimeExecution.join.getD .null,
        PublicRuns.optionalText set.dispatchId.join,
        PublicRuns.optionalText set.cancelledBy.join,
        PublicRuns.optionalText set.cancelReason.join])
  | .getRun runId => withoutNull (.str runId)
  | .listQueuedRunIds _ => true
  | .listRunsForInstance instanceId _ state =>
      withoutNull (.arr [.str instanceId, PublicRuns.optionalText state])

/-- What `createRun` returns. -/
def createdJson (created : Bool) : Json :=
  .obj [("created", .bool created)]

/-- What `claimRun` returns when it has claimed nothing. -/
def notClaimedJson (runExists : Bool) : Json :=
  .obj (("claimed", .bool false) ::
    if runExists then [] else [("missing", .bool true)])

/-- The filter on `state`, which is left out for a falsy one. -/
def stateAdmits
    (state : Option String)
    (stored : RunState) :
    Bool :=
  match state with
  | none => true
  | some wanted => wanted = "" || stored.text = wanted

end StoreCall

namespace RunStore

/-- A `LIMIT` of PostgreSQL, which a negative value fails. -/
def limit? : Int → Option Nat
  | .ofNat limit => some limit
  | .negSucc _ => none

/-- `rowToDocument`, or null without a row. -/
def foundJson
    (runId : String)
    (found : Option JobRun) :
    Json :=
  (found.map fun row =>
    Json.obj (PublicRuns.documentFields (rowToDocument runId row))).getD .null

/-- What the queries of `RunStore` do to `job_runs`, and what it returns. -/
def query
    (table : JobRuns) :
    StoreCall →
      JobRuns × Option Json
  | .createRun document =>
      let (next, created) :=
        table.insertIfAbsent document.runId (documentToRow document)
      (next, some (StoreCall.createdJson created))
  | .claimRun runId startedAt status dispatchId =>
      let (next, claimed) :=
        table.updateWhere runId (claimRun startedAt status dispatchId)
      (next, some
        (match claimed with
        | some row =>
            .obj [("claimed", .bool true),
              ("dispatchId", PublicRuns.optionalText row.dispatchId)]
        | none => StoreCall.notClaimedJson (decide (runId ∈ table))))
  | .recordRuntimeExecution runId runtimeExecution startedAt status
      dispatchId =>
      let (next, written) :=
        table.updateWhere runId
          (recordRuntimeExecution (some runtimeExecution) startedAt status
            dispatchId)
      (next, some (.bool written.isSome))
  | .markSucceeded runId endedAt result status dispatchId =>
      let (next, written) :=
        table.updateWhere runId
          (markSucceeded endedAt result status dispatchId)
      (next, some (.bool written.isSome))
  | .markFailed runId endedAt error status dispatchId =>
      let (next, written) :=
        table.updateWhere runId (markFailed endedAt error status dispatchId)
      (next, some (.bool written.isSome))
  | .transition runId fromStates set now =>
      let (next, written) :=
        table.updateWhere runId (transition fromStates set now)
      (next, some (foundJson runId written))
  | .getRun runId => (table, some (foundJson runId (table.lookup runId)))
  | .listQueuedRunIds limit =>
      (table, (limit? limit).map fun limit =>
        .arr ((table.select (fun _ row => row.state = .queued)
          (fun row => row.createdAt) limit).map
            fun (runId, _) => .str runId))
  | .listRunsForInstance instanceId limit state =>
      (table, (limit? limit).map fun limit =>
        .arr ((table.select
          (fun _ row => row.instanceId = instanceId &&
            StoreCall.stateAdmits state row.state)
          (fun row => -row.createdAt) limit).map
            fun (runId, row) =>
              .obj (PublicRuns.documentFields (rowToDocument runId row))))

/--
What `RunStore` does to `job_runs` and returns; `none` if it throws.
PostgreSQL refuses a query when a text for it has a null character.
-/
def answer
    (table : JobRuns)
    (call : StoreCall) :
    JobRuns × Option Json :=
  if call.plain then query table call else (table, none)

end RunStore

namespace LocalRunStore

/-- A `LIMIT` of SQLite; a negative value sets no limit. -/
def limit
    (table : LocalRuns) :
    Int → Nat
  | .ofNat limit => limit
  | .negSucc _ => table.entries.length

/-- `fromRow`, or null without a row. -/
def foundJson
    (runId : String)
    (found : Option LocalRun) :
    Json :=
  (found.map fun row => Json.obj (documentFields runId row)).getD .null

/-- What `LocalRunStore` does to its table and returns. -/
def answer
    (table : LocalRuns) :
    StoreCall →
      LocalRuns × Option Json
  | .createRun document =>
      let (next, created) :=
        table.insertIfAbsent document.runId (toRow document)
      (next, some (StoreCall.createdJson created))
  | .claimRun runId startedAt status _ =>
      let (next, claimed) :=
        table.updateWhere runId (claimRun startedAt status)
      (next, some
        (if claimed.isSome then
          .obj [("claimed", .bool true)]
        else
          StoreCall.notClaimedJson (decide (runId ∈ table))))
  | .recordRuntimeExecution runId runtimeExecution startedAt status _ =>
      let (next, written) :=
        table.updateWhere runId
          (recordRuntimeExecution runtimeExecution startedAt status)
      (next, some (.bool written.isSome))
  | .markSucceeded runId endedAt result status _ =>
      let (next, written) :=
        table.updateWhere runId (markSucceeded endedAt result status)
      (next, some (.bool written.isSome))
  | .markFailed runId endedAt error status _ =>
      let (next, written) :=
        table.updateWhere runId (markFailed endedAt error status)
      (next, some (.bool written.isSome))
  | .transition runId fromStates set now =>
      let (next, written) :=
        table.updateWhere runId (transition fromStates set now)
      (next, some (foundJson runId written))
  | .getRun runId => (table, some (foundJson runId (table.lookup runId)))
  | .listQueuedRunIds given =>
      (table, some (.arr
        ((table.select (fun _ row => row.state = .queued)
          (fun row => Civil.text row.createdAt) (limit table given)).map
            fun (runId, _) => readJson runId)))
  | .listRunsForInstance instanceId given state =>
      (table, some (.arr
        ((table.select
          (fun _ row => row.instanceId = instanceId &&
            StoreCall.stateAdmits state row.state)
          (fun row => OrderDual.toDual (Civil.text row.createdAt))
          (limit table given)).map
            fun (runId, row) => .obj (documentFields runId row))))

end LocalRunStore

end IgaScheduler

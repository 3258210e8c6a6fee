import IgaScheduler.AnsweredCalls
import IgaScheduler.LocalRuns
import IgaScheduler.RelationalViews

namespace IgaScheduler

open Relational

/-!
# `LocalRunStore` in the place of `RunStore`

The local store keeps no `execution_metadata`, mints no `dispatch_id`, fences
no write and has its own clock for `updated_at`.  Apart from these columns it
answers a history of calls as `RunStore` does, exactly when no text has a null
character, every fenced write bears the identifier of the row it meets and no
limit is negative.
-/

namespace StoreCall

/-- A fenced write finds no running row under another identifier. -/
def fenceHolds
    (table : JobRuns)
    (runId : String)
    (dispatchId : Option String) :
    Bool :=
  match table.lookup runId with
  | none => true
  | some row => row.state ≠ .running || RunStore.fencing dispatchId row

/-- The fence of a call holds, and its limit is not negative. -/
def fits (table : JobRuns) : StoreCall → Bool
  | .recordRuntimeExecution runId _ _ _ dispatchId =>
      fenceHolds table runId dispatchId
  | .markSucceeded runId _ _ _ dispatchId =>
      fenceHolds table runId dispatchId
  | .markFailed runId _ _ _ dispatchId =>
      fenceHolds table runId dispatchId
  | .listQueuedRunIds limit => decide (0 ≤ limit)
  | .listRunsForInstance _ limit _ => decide (0 ≤ limit)
  | _ => true

/-- Both stores take the call, and would write the same rows. -/
def portable
    (table : JobRuns)
    (call : StoreCall) :
    Bool :=
  call.plain && call.fits table

/-- The instants that are given to a call. -/
def instants : StoreCall → List Timestamp
  | .createRun document =>
      document.scheduledFireTime :: document.createdAt ::
        document.updatedAt ::
        [document.cancelRequestedAt, document.cancelledAt,
          document.startedAt, document.endedAt,
          document.heartbeatAt].reduceOption
  | .claimRun _ startedAt _ _ => [startedAt]
  | .recordRuntimeExecution _ _ startedAt _ _ => [startedAt]
  | .markSucceeded _ endedAt _ _ _ => [endedAt]
  | .markFailed _ endedAt _ _ _ => [endedAt]
  | .transition _ _ set now =>
      now :: [set.startedAt.join, set.endedAt.join, set.heartbeatAt.join,
        set.cancelRequestedAt.join, set.cancelledAt.join].reduceOption
  | _ => []

/-- The values for columns of type `integer`. -/
def integers : StoreCall → List Int
  | .createRun document =>
      (document.attempt : Int) :: document.definitionVersion.toList
  | .transition _ _ set _ =>
      (set.attempt.map fun attempt : Nat => (attempt : Int)).toList
  | _ => []

def limit? : StoreCall → Option Int
  | .listQueuedRunIds limit => some limit
  | .listRunsForInstance _ limit _ => some limit
  | _ => none

/-- The columns of PostgreSQL have room for the values of a call. -/
def inRange (call : StoreCall) : Bool :=
  call.instants.all isTimestamptz && call.integers.all isInteger &&
    call.limit?.all isBigint

/-- The columns of which `LocalRunStore` has its own idea, or none. -/
def ownColumns : List String :=
  ["dispatchId", "executionMetadata", "updatedAt"]

def sharedFields (fields : List (String × Json)) : List (String × Json) :=
  fields.filter fun field => field.1 ∉ ownColumns

/-- A document, or each document of a list, without those columns. -/
def sharedDocument : Json → Json
  | .obj fields => .obj (sharedFields fields)
  | value => value

def sharedAnswer : Json → Json
  | .arr items => .arr (items.map sharedDocument)
  | value => sharedDocument value

end StoreCall

namespace LocalRunStore

open StoreCall

/-! ## Values that are text in one store and values in the other -/

/-- `JSON.stringify` keeps every value of the column. -/
def Built (value : Option Json) : Prop :=
  ∀ json ∈ value, JavaScript.built json = true

/-- A value that a service gives to a write: an object, if any. -/
def Given (value : Option Json) : Prop :=
  ∀ json ∈ value,
    (∃ fields, json = .obj fields) ∧ JavaScript.built json = true

/-- The JSON columns of a run. -/
structure Readable (run : JobRun) : Prop where
  params :
    JavaScript.built (PublicRuns.parametersJson run.params) = true
  status : Built run.status
  result : Built run.result
  error : Built run.error
  runtimeExecution : Built run.runtimeExecution

/-- What the services hand to a store: objects, if anything. -/
def GivesObjects : StoreCall → Prop
  | .createRun document => Readable document.toJobRun
  | .claimRun _ _ status _ => Given status
  | .recordRuntimeExecution _ runtimeExecution _ status _ =>
      Given (some runtimeExecution) ∧ Given status
  | .markSucceeded _ _ result status _ => Given result ∧ Given status
  | .markFailed _ _ error status _ => Given error ∧ Given status
  | .transition _ _ set _ =>
      (∀ value ∈ set.status, Given value) ∧
        (∀ value ∈ set.error, Given value) ∧
          ∀ value ∈ set.runtimeExecution, Given value
  | _ => True

/-- The values of a call are such as both stores have columns for. -/
structure Admissible (call : StoreCall) : Prop where
  objects : GivesObjects call
  inRange : call.inRange = true

theorem Given.built
    {value : Option Json}
    (given : Given value) :
    Built value :=
  fun json member => (given json member).2

theorem built_none : Built none := by
  rintro json ⟨⟩

theorem built_statusJson (phase message : String) :
    JavaScript.built (statusJson phase message) = true := by
  have ordered : JavaScript.precedes "phase" "message" = true := by decide
  simp [statusJson, JavaScript.built, JavaScript.builtFields, ordered]

theorem built_getD
    {value : Option Json}
    {phase message : String}
    (given : Given value) :
    Built (some (value.getD (statusJson phase message))) := by
  rintro json ⟨⟩
  cases value with
  | none =>
      exact built_statusJson phase message
  | some value =>
      exact (given value rfl).2

/-- A column that is read back has the value it was stored with. -/
theorem columnValue_columnText
    {value : Option Json}
    (valid : Built value) :
    columnValue (columnText value) = value.getD .null := by
  cases value with
  | none =>
      rfl
  | some json =>
      have read :
          columnValue (some (JavaScript.stringify json)) = json := by
        rw [columnValue, JavaScript.parse_stringify (valid json rfl)]
        rfl
      cases json with
      | null =>
          rfl
      | _ =>
          exact read

theorem columnText_object (fields : List (String × Json)) :
    columnText (some (.obj fields)) =
      some (JavaScript.stringify (.obj fields)) :=
  rfl

/-- Both stores choose the same status. -/
theorem columnText_status
    {status : Option Json}
    (phase message : String)
    (given : Given status) :
    columnText (some (status.getD (statusJson phase message))) =
      some (statusText status phase message) := by
  cases status with
  | none =>
      rfl
  | some json =>
      obtain ⟨⟨fields, rfl⟩, -⟩ := given json rfl
      rfl

/-- A value of `transition` is stored alike, as is one it does not set. -/
theorem columnText_set
    {value : Option (Option Json)}
    (stored : Option Json)
    (given : ∀ set ∈ value, Given set) :
    columnText (value.getD stored) =
      (value.map givenText).getD (columnText stored) := by
  cases value with
  | none =>
      rfl
  | some set =>
      cases set with
      | none =>
          rfl
      | some json =>
          obtain ⟨⟨fields, rfl⟩, -⟩ := given _ rfl json rfl
          rfl

theorem built_set
    {value : Option (Option Json)}
    {stored : Option Json}
    (given : ∀ set ∈ value, Given set)
    (valid : Built stored) :
    Built (value.getD stored) := by
  cases value with
  | none =>
      exact valid
  | some set =>
      exact (given set rfl).built

theorem built_jsonColumn
    {value : Option Json}
    (valid : Built value) :
    Built (jsonColumn value) := by
  cases value with
  | none =>
      exact valid
  | some json =>
      cases json with
      | null =>
          exact built_none
      | _ =>
          exact valid

/-! ## Rows that agree -/

/-- A run as `LocalRunStore` keeps it, as far as both stores keep it alike. -/
def sharedColumns (run : JobRun) : SharedColumns :=
  (toRow (rowToDocument "" run)).toSharedColumns

/-- Read from SQLite, the texts of a run and its place in a listing are kept. -/
structure Ordinary
    (runId : String)
    (run : JobRun) :
    Prop where
  texts :
    ∀ text ∈ [runId, run.instanceId, run.definitionId],
      '\x00' ∉ text.toList
  optionalTexts :
    ∀ text ∈ [run.tenantId, run.parentRunId, run.redriveOfRunId,
        run.cancelledBy, run.cancelReason],
      ∀ value ∈ text, '\x00' ∉ value.toList
  createdAt : Civil.FourDigitYear run.createdAt

/-- An inserted document is kept alike. -/
theorem sharedColumns_documentToRow (document : RunDocument) :
    sharedColumns (documentToRow document) =
      (toRow document).toSharedColumns := by
  have once (value : Option Json) :
      columnText (jsonColumn value) = columnText value := by
    cases value with
    | none =>
        rfl
    | some json =>
        cases json <;> rfl
  simp only [sharedColumns, toRow, documentToRow, rowToDocument, once]

/-- The fields of a document that is read, apart from the stores' own. -/
theorem sharedFields_documentFields
    {run : JobRun}
    {row : LocalRun}
    (readable : Readable run)
    {runId : String}
    (ordinary : Ordinary runId run)
    (same : sharedColumns run = row.toSharedColumns) :
    sharedFields (PublicRuns.documentFields (rowToDocument runId run)) =
      sharedFields (documentFields runId row) := by
  obtain ⟨columns, dispatchId, updatedAt⟩ := row
  cases same
  have texts := fun text member =>
    readJson_eq (ordinary.texts text member)
  have optionalTexts := fun text member =>
    readOptional_eq (ordinary.optionalTexts text member)
  simp only [List.forall_mem_cons, List.not_mem_nil, false_imp_iff,
    implies_true, and_true] at texts optionalTexts
  obtain ⟨ofRun, ofInstance, ofDefinition⟩ := texts
  obtain ⟨ofTenant, ofParent, ofRedriven, ofCanceller, ofReason⟩ :=
    optionalTexts
  have params :
      columnValue (columnText
          (some (PublicRuns.parametersJson run.params))) =
        PublicRuns.parametersJson run.params := by
    refine columnValue_columnText ?_
    rintro json ⟨⟩
    exact readable.params
  simp only [documentFields, rowToDocument, params,
    ofRun, ofInstance, ofDefinition, ofTenant, ofParent, ofRedriven,
    ofCanceller, ofReason, columnValue_columnText readable.status,
    columnValue_columnText readable.result,
    columnValue_columnText readable.error,
    columnValue_columnText readable.runtimeExecution]
  rfl

theorem sharedDocument_foundJson
    {run : Option JobRun}
    {row : Option LocalRun}
    {runId : String}
    (readable : ∀ found ∈ run, Readable found)
    (ordinary : ∀ found ∈ run, Ordinary runId found)
    (same : run.map sharedColumns = row.map LocalRun.toSharedColumns) :
    sharedAnswer (RunStore.foundJson runId run) =
      sharedAnswer (foundJson runId row) := by
  cases run with
  | none =>
      cases row with
      | none =>
          rfl
      | some row =>
          cases same
  | some run =>
      cases row with
      | none =>
          cases same
      | some row =>
          exact congrArg Json.obj (sharedFields_documentFields
            (readable run rfl) (ordinary run rfl) (Option.some.inj same))

/-! ## Tables that agree -/

/-- Both stores keep the same runs in the columns they share. -/
structure Agrees
    (table : JobRuns)
    (rows : LocalRuns) :
    Prop where
  views :
    table.mapRows sharedColumns = rows.mapRows LocalRun.toSharedColumns
  readable :
    ∀ {runId : String} {run : JobRun},
      table.lookup runId = some run → Readable run
  ordinary :
    ∀ {runId : String} {run : JobRun},
      table.lookup runId = some run → Ordinary runId run

variable {table : JobRuns} {rows : LocalRuns}

theorem agrees_empty : Agrees ∅ ∅ where
  views := rfl
  readable := by
    rintro runId run ⟨⟩
  ordinary := by
    rintro runId run ⟨⟩

/-- The update of a run does the same in both stores. -/
theorem Agrees.update
    (agrees : Agrees table rows)
    (runId : String)
    (update : RowUpdate JobRun)
    (localUpdate : RowUpdate LocalRun)
    (guard :
      ∀ {run : JobRun} {row : LocalRun},
        table.lookup runId = some run →
        run.state = row.state →
        update.guard run = localUpdate.guard row)
    (set :
      ∀ {run : JobRun} {row : LocalRun},
        sharedColumns run = row.toSharedColumns →
        sharedColumns (update.set run) =
          (localUpdate.set row).toSharedColumns)
    (readable :
      ∀ {run : JobRun}, Readable run → Readable (update.set run))
    (ordinary :
      ∀ {run : JobRun},
        Ordinary runId run → Ordinary runId (update.set run)) :
    Agrees (table.updateWhere runId update).1
        (rows.updateWhere runId localUpdate).1 ∧
      (table.updateWhere runId update).2.map sharedColumns =
        (rows.updateWhere runId localUpdate).2.map
          LocalRun.toSharedColumns ∧
      ∀ written ∈ (table.updateWhere runId update).2,
        Readable written ∧ Ordinary runId written := by
  obtain ⟨views, answered⟩ :=
    Table.updateWhere_views agrees.views runId
      fun run row found _ same => ⟨guard found
        (congrArg SharedColumns.state same), set same⟩
  obtain ⟨stillReadable, writtenReadable⟩ :=
    Table.kept_updateWhere (fun found => agrees.readable found) readable
  obtain ⟨stillOrdinary, writtenOrdinary⟩ :=
    Table.kept_updateWhere (fun found => agrees.ordinary found) ordinary
  exact ⟨⟨views, stillReadable, stillOrdinary⟩, answered,
    fun written member => ⟨writtenReadable written member,
      writtenOrdinary written member⟩⟩

/-- A call that is answered with the row it wrote, or with whether it wrote. -/
theorem isSome_of_views
    {written : Option JobRun}
    {writtenRow : Option LocalRun}
    (same :
      written.map sharedColumns = writtenRow.map LocalRun.toSharedColumns) :
    written.isSome = writtenRow.isSome := by
  have present := congrArg Option.isSome same
  rwa [Option.isSome_map, Option.isSome_map] at present

/-- A fence that holds leaves only the state to guard the write. -/
theorem guard_of_fenceHolds
    {runId : String}
    {dispatchId : Option String}
    (holds : fenceHolds table runId dispatchId = true)
    {run : JobRun}
    {row : LocalRun}
    (found : table.lookup runId = some run)
    (same : run.state = row.state) :
    (decide (run.state = .running) && RunStore.fencing dispatchId run) =
      decide (row.state = .running) := by
  rw [fenceHolds, found] at holds
  rw [← same]
  by_cases running : run.state = .running
  · simpa [running] using holds
  · simp [running]

/-- What two answers have in common. -/
def sharedReply (reply : Option Json) : Option Json :=
  reply.map sharedAnswer

/-! ## One call -/

/-- A document that PostgreSQL takes is read back from SQLite as it is. -/
theorem ordinary_created
    {document : RunDocument}
    (plain : (StoreCall.createRun document).plain = true)
    (inRange : (StoreCall.createRun document).inRange = true) :
    Ordinary document.runId (documentToRow document) := by
  have fields := withoutNullFields_iff.mp plain
  have text
      {name : String}
      {value : Json}
      (member : (name, value) ∈ PublicRuns.documentFields document) :
      withoutNull value = true :=
    (fields _ member).2
  have instants : ∀ instant ∈ (StoreCall.createRun document).instants,
      isTimestamptz instant = true := by
    rw [StoreCall.inRange, Bool.and_eq_true, Bool.and_eq_true] at inRange
    exact List.all_eq_true.mp inRange.1.1
  constructor
  · simp only [List.forall_mem_cons, List.not_mem_nil, false_imp_iff,
      implies_true, and_true]
    exact ⟨
      withoutNull_str.mp (@text "runId" _
        (by simp [PublicRuns.documentFields])),
      withoutNull_str.mp (@text "instanceId" _
        (by simp [PublicRuns.documentFields, documentToRow])),
      withoutNull_str.mp (@text "definitionId" _
        (by simp [PublicRuns.documentFields, documentToRow]))⟩
  · simp only [List.forall_mem_cons, List.not_mem_nil, false_imp_iff,
      implies_true, and_true]
    exact ⟨
      withoutNull_optionalText.mp (@text "tenantId" _
        (by simp [PublicRuns.documentFields, documentToRow])),
      withoutNull_optionalText.mp (@text "parentRunId" _
        (by simp [PublicRuns.documentFields, documentToRow])),
      withoutNull_optionalText.mp (@text "redriveOfRunId" _
        (by simp [PublicRuns.documentFields, documentToRow])),
      withoutNull_optionalText.mp (@text "cancelledBy" _
        (by simp [PublicRuns.documentFields, documentToRow])),
      withoutNull_optionalText.mp (@text "cancelReason" _
        (by simp [PublicRuns.documentFields, documentToRow]))⟩
  · exact fourDigitYear (instants _ (by simp [StoreCall.instants,
      documentToRow]))

/-- A write that sets none of these columns leaves them as they are read. -/
theorem Ordinary.of_same
    {runId : String}
    {run written : JobRun}
    (ordinary : Ordinary runId run)
    (same :
      (written.instanceId, written.definitionId, written.tenantId,
          written.parentRunId, written.redriveOfRunId, written.cancelledBy,
          written.cancelReason, written.createdAt) =
        (run.instanceId, run.definitionId, run.tenantId, run.parentRunId,
          run.redriveOfRunId, run.cancelledBy, run.cancelReason,
          run.createdAt)) :
    Ordinary runId written := by
  simp only [Prod.mk.injEq] at same
  obtain ⟨ofInstance, ofDefinition, ofTenant, ofParent, ofRedriven,
    ofCanceller, ofReason, created⟩ := same
  constructor
  · rw [ofInstance, ofDefinition]
    exact ordinary.texts
  · rw [ofTenant, ofParent, ofRedriven, ofCanceller, ofReason]
    exact ordinary.optionalTexts
  · rw [created]
    exact ordinary.createdAt

/-- A text that is set, or the one before, has no null character. -/
theorem plain_set
    {value : Option (Option String)}
    {stored : Option String}
    (plain : ∀ text ∈ value.join, '\x00' ∉ text.toList)
    (before : ∀ text ∈ stored, '\x00' ∉ text.toList) :
    ∀ text ∈ value.getD stored, '\x00' ∉ text.toList := by
  cases value with
  | none =>
      exact before
  | some text =>
      exact plain

theorem readable_documentToRow
    {document : RunDocument}
    (readable : Readable document.toJobRun) :
    Readable (documentToRow document) where
  params := readable.params
  status := built_jsonColumn readable.status
  result := built_jsonColumn readable.result
  error := built_jsonColumn readable.error
  runtimeExecution := built_jsonColumn readable.runtimeExecution

section Keeping

variable {run : JobRun} (readable : Readable run)
include readable

theorem Readable.claimRun
    {startedAt : Timestamp}
    {status : Option Json}
    {dispatchId : Uuid}
    (given : Given status) :
    Readable ((RunStore.claimRun startedAt status dispatchId).set run) :=
  { readable with status := built_getD given }

theorem Readable.recordRuntimeExecution
    {runtimeExecution : Json}
    {startedAt : Timestamp}
    {status : Option Json}
    {dispatchId : Option String}
    (given : Given (some runtimeExecution))
    (givenStatus : Given status) :
    Readable ((RunStore.recordRuntimeExecution (some runtimeExecution)
      startedAt status dispatchId).set run) :=
  { readable with
    status := built_getD givenStatus
    runtimeExecution := given.built }

theorem Readable.markSucceeded
    {endedAt : Timestamp}
    {result status : Option Json}
    {dispatchId : Option String}
    (given : Given result)
    (givenStatus : Given status) :
    Readable
      ((RunStore.markSucceeded endedAt result status dispatchId).set run) :=
  { readable with
    status := built_getD givenStatus
    result := given.built
    error := built_none }

theorem Readable.markFailed
    {endedAt : Timestamp}
    {error status : Option Json}
    {dispatchId : Option String}
    (given : Given error)
    (givenStatus : Given status) :
    Readable ((RunStore.markFailed endedAt error status dispatchId).set run) :=
  { readable with
    status := built_getD givenStatus
    error := given.built }

theorem Readable.transition
    {fromStates : List RunState}
    {set : RunStore.TransitionSet}
    {now : Timestamp}
    (givenStatus : ∀ value ∈ set.status, Given value)
    (givenError : ∀ value ∈ set.error, Given value)
    (givenExecution : ∀ value ∈ set.runtimeExecution, Given value) :
    Readable ((RunStore.transition fromStates set now).set run) :=
  { readable with
    status := built_set givenStatus readable.status
    error := built_set givenError readable.error
    runtimeExecution := built_set givenExecution readable.runtimeExecution }

end Keeping

/-- A call that is given objects leaves JSON columns that can be read back. -/
theorem readable_query
    {call : StoreCall}
    (readable :
      ∀ {runId : String} {run : JobRun},
        table.lookup runId = some run → Readable run)
    (objects : GivesObjects call) :
    ∀ {runId : String} {run : JobRun},
      (RunStore.query table call).1.lookup runId = some run →
        Readable run := by
  cases call with
  | createRun document =>
      exact Table.kept_insertIfAbsent readable (readable_documentToRow objects)
  | claimRun =>
      exact (Table.kept_updateWhere readable
        fun before => before.claimRun objects).1
  | recordRuntimeExecution =>
      exact (Table.kept_updateWhere readable
        fun before => before.recordRuntimeExecution objects.1 objects.2).1
  | markSucceeded =>
      exact (Table.kept_updateWhere readable
        fun before => before.markSucceeded objects.1 objects.2).1
  | markFailed =>
      exact (Table.kept_updateWhere readable
        fun before => before.markFailed objects.1 objects.2).1
  | transition =>
      exact (Table.kept_updateWhere readable fun before =>
        before.transition objects.1 objects.2.1 objects.2.2).1
  | getRun | listQueuedRunIds | listRunsForInstance =>
      exact readable

section OneCall

variable (agrees : Agrees table rows)
include agrees

theorem createRun_alike
    {document : RunDocument}
    (readable : Readable document.toJobRun)
    (ordinary : Ordinary document.runId (documentToRow document)) :
    Agrees (RunStore.query table (.createRun document)).1
        (answer rows (.createRun document)).1 ∧
      sharedReply (RunStore.query table (.createRun document)).2 =
        sharedReply (answer rows (.createRun document)).2 := by
  obtain ⟨views, created⟩ :=
    Table.insertIfAbsent_views agrees.views document.runId
      (sharedColumns_documentToRow document)
  refine ⟨⟨views, ?_, ?_⟩, ?_⟩
  · exact Table.kept_insertIfAbsent (fun found => agrees.readable found)
      (readable_documentToRow readable)
  · exact Table.kept_insertIfAbsent (fun found => agrees.ordinary found) ordinary
  · simp only [RunStore.query, answer, created]

theorem claimRun_alike
    (runId : String)
    (startedAt : Timestamp)
    {status : Option Json}
    (dispatchId : Uuid)
    (given : Given status) :
    let call := StoreCall.claimRun runId startedAt status dispatchId
    Agrees (RunStore.query table call).1 (answer rows call).1 ∧
      sharedReply (RunStore.query table call).2 =
        sharedReply (answer rows call).2 := by
  obtain ⟨kept, answered, -⟩ :=
    agrees.update runId (RunStore.claimRun startedAt status dispatchId)
      (claimRun startedAt status)
      (by
        intro run row _ same
        simp only [RunStore.claimRun, claimRun, same])
      (by
        rintro run ⟨columns, -, -⟩ rfl
        simp only [sharedColumns, toRow, rowToDocument, claimRun,
          RunStore.claimRun, columnText_status _ _ given])
      (fun readable => readable.claimRun given)
      (fun ordinary => ordinary.of_same rfl)
  refine ⟨kept, ?_⟩
  have wrote := isSome_of_views answered
  have present : decide (runId ∈ table) = decide (runId ∈ rows) :=
    decide_eq_decide.mpr (Table.mem_views agrees.views runId)
  simp only [RunStore.query, answer, ← wrote, ← present]
  cases (table.updateWhere runId
    (RunStore.claimRun startedAt status dispatchId)).2 <;> rfl

theorem recordRuntimeExecution_alike
    {runId : String}
    {runtimeExecution : Json}
    (startedAt : Timestamp)
    {status : Option Json}
    {dispatchId : Option String}
    (given : Given (some runtimeExecution))
    (givenStatus : Given status)
    (holds : fenceHolds table runId dispatchId = true) :
    let call := StoreCall.recordRuntimeExecution runId runtimeExecution
      startedAt status dispatchId
    Agrees (RunStore.query table call).1 (answer rows call).1 ∧
      sharedReply (RunStore.query table call).2 =
        sharedReply (answer rows call).2 := by
  obtain ⟨⟨fields, rfl⟩, -⟩ := given runtimeExecution rfl
  obtain ⟨kept, answered, -⟩ :=
    agrees.update runId
      (RunStore.recordRuntimeExecution (some (.obj fields)) startedAt status
        dispatchId)
      (recordRuntimeExecution (.obj fields) startedAt status)
      (guard_of_fenceHolds holds)
      (by
        rintro run ⟨columns, -, -⟩ rfl
        simp only [sharedColumns, toRow, rowToDocument,
          recordRuntimeExecution, RunStore.recordRuntimeExecution,
          columnText_status _ _ givenStatus, columnText_object])
      (fun readable => readable.recordRuntimeExecution given givenStatus)
      (fun ordinary => ordinary.of_same rfl)
  refine ⟨kept, ?_⟩
  simp only [RunStore.query, answer, isSome_of_views answered]

theorem markSucceeded_alike
    {runId : String}
    (endedAt : Timestamp)
    {result status : Option Json}
    {dispatchId : Option String}
    (given : Given result)
    (givenStatus : Given status)
    (holds : fenceHolds table runId dispatchId = true) :
    let call := StoreCall.markSucceeded runId endedAt result status dispatchId
    Agrees (RunStore.query table call).1 (answer rows call).1 ∧
      sharedReply (RunStore.query table call).2 =
        sharedReply (answer rows call).2 := by
  obtain ⟨kept, answered, -⟩ :=
    agrees.update runId
      (RunStore.markSucceeded endedAt result status dispatchId)
      (markSucceeded endedAt result status)
      (guard_of_fenceHolds holds)
      (by
        rintro run ⟨columns, -, -⟩ rfl
        simp only [sharedColumns, toRow, rowToDocument, markSucceeded,
          RunStore.markSucceeded, columnText_status _ _ givenStatus]
        rfl)
      (fun readable => readable.markSucceeded given givenStatus)
      (fun ordinary => ordinary.of_same rfl)
  refine ⟨kept, ?_⟩
  simp only [RunStore.query, answer, isSome_of_views answered]

theorem markFailed_alike
    {runId : String}
    (endedAt : Timestamp)
    {error status : Option Json}
    {dispatchId : Option String}
    (given : Given error)
    (givenStatus : Given status)
    (holds : fenceHolds table runId dispatchId = true) :
    let call := StoreCall.markFailed runId endedAt error status dispatchId
    Agrees (RunStore.query table call).1 (answer rows call).1 ∧
      sharedReply (RunStore.query table call).2 =
        sharedReply (answer rows call).2 := by
  obtain ⟨kept, answered, -⟩ :=
    agrees.update runId
      (RunStore.markFailed endedAt error status dispatchId)
      (markFailed endedAt error status)
      (guard_of_fenceHolds holds)
      (by
        rintro run ⟨columns, -, -⟩ rfl
        simp only [sharedColumns, toRow, rowToDocument, markFailed,
          RunStore.markFailed, columnText_status _ _ givenStatus])
      (fun readable => readable.markFailed given givenStatus)
      (fun ordinary => ordinary.of_same rfl)
  refine ⟨kept, ?_⟩
  simp only [RunStore.query, answer, isSome_of_views answered]

theorem transition_alike
    (runId : String)
    (fromStates : List RunState)
    {set : RunStore.TransitionSet}
    (now : Timestamp)
    (givenStatus : ∀ value ∈ set.status, Given value)
    (givenError : ∀ value ∈ set.error, Given value)
    (givenExecution : ∀ value ∈ set.runtimeExecution, Given value)
    (plain :
      (StoreCall.transition runId fromStates set now).plain = true) :
    let call := StoreCall.transition runId fromStates set now
    Agrees (RunStore.query table call).1 (answer rows call).1 ∧
      sharedReply (RunStore.query table call).2 =
        sharedReply (answer rows call).2 := by
  simp only [StoreCall.plain, withoutNull, withoutNullItems,
    Bool.and_eq_true, Bool.and_true] at plain
  obtain ⟨-, -, -, -, -, ofCanceller, ofReason⟩ := plain
  obtain ⟨kept, answered, written⟩ :=
    agrees.update runId (RunStore.transition fromStates set now)
      (transition fromStates set now)
      (by
        intro run row _ same
        simp only [RunStore.transition, transition, same])
      (by
        rintro run ⟨columns, -, -⟩ rfl
        simp only [sharedColumns, toRow, rowToDocument, transition,
          RunStore.transition, columnText_set _ givenStatus,
          columnText_set _ givenError, columnText_set _ givenExecution])
      (fun readable =>
        readable.transition givenStatus givenError givenExecution)
      (by
        intro run ordinary
        have optionalTexts := ordinary.optionalTexts
        simp only [List.forall_mem_cons, List.not_mem_nil, false_imp_iff,
          implies_true, and_true] at optionalTexts
        obtain ⟨ofTenant, ofParent, ofRedriven, before, beforeReason⟩ :=
          optionalTexts
        refine ⟨ordinary.texts, ?_, ordinary.createdAt⟩
        simp only [List.forall_mem_cons, List.not_mem_nil, false_imp_iff,
          implies_true, and_true]
        exact ⟨ofTenant, ofParent, ofRedriven,
          plain_set (withoutNull_optionalText.mp ofCanceller) before,
          plain_set (withoutNull_optionalText.mp ofReason) beforeReason⟩)
  refine ⟨kept, ?_⟩
  exact congrArg some (sharedDocument_foundJson
    (fun run member => (written run member).1)
    (fun run member => (written run member).2) answered)

theorem getRun_alike (runId : String) :
    sharedReply (RunStore.query table (.getRun runId)).2 =
      sharedReply (answer rows (.getRun runId)).2 :=
  congrArg some (sharedDocument_foundJson
    (fun _ found => agrees.readable found)
    (fun _ found => agrees.ordinary found)
    (Table.lookup_views agrees.views runId))

/-- Texts of instants list the runs as the instants do, newest last. -/
theorem select_byText
    (admits : String → JobRun → Bool)
    (limit : Nat) :
    table.select admits (fun run => run.createdAt) limit =
      table.select admits (fun run => Civil.text run.createdAt) limit :=
  Table.select_congr (fun _ => rfl)
    (fun found _ otherFound _ =>
      (Civil.text_le_iff (agrees.ordinary found).createdAt
        (agrees.ordinary otherFound).createdAt).symm)
    limit

/-- The same with the newest first. -/
theorem select_byText_desc
    (admits : String → JobRun → Bool)
    (limit : Nat) :
    table.select admits (fun run => -run.createdAt) limit =
      table.select admits
        (fun run => OrderDual.toDual (Civil.text run.createdAt)) limit :=
  Table.select_congr (fun _ => rfl)
    (fun found _ otherFound _ =>
      Int.neg_le_neg_iff.trans
        (Civil.text_le_iff (agrees.ordinary otherFound).createdAt
          (agrees.ordinary found).createdAt).symm)
    limit

theorem listQueuedRunIds_alike (limit : Nat) :
    sharedReply (RunStore.query table (.listQueuedRunIds limit)).2 =
      sharedReply (answer rows (.listQueuedRunIds limit)).2 := by
  refine congrArg (fun items => sharedReply (some (.arr items))) ?_
  rw [select_byText agrees]
  exact Table.shown_of_views agrees.views
    (fun _ columns => decide (columns.state = .queued))
    (fun columns => Civil.text columns.createdAt) limit
    fun found _ =>
      (readJson_eq ((agrees.ordinary found).texts _ List.mem_cons_self)).symm

theorem listRunsForInstance_alike
    (instanceId : String)
    (limit : Nat)
    (state : Option String) :
    let call := StoreCall.listRunsForInstance instanceId limit state
    sharedReply (RunStore.query table call).2 =
      sharedReply (answer rows call).2 := by
  have listed :=
    @Table.shown_of_views _ _ _ _ _ _ _ _ _ _ _ _ _ agrees.views
      (fun _ columns => decide (columns.instanceId = instanceId) &&
        stateAdmits state columns.state)
      (fun columns => OrderDual.toDual (Civil.text columns.createdAt)) limit
      (fun entry => sharedDocument (.obj
        (PublicRuns.documentFields (rowToDocument entry.1 entry.2))))
      (fun entry => sharedDocument (.obj
        (documentFields entry.1 entry.2)))
      (fun found same => congrArg Json.obj
        (sharedFields_documentFields (agrees.readable found)
          (agrees.ordinary found) same))
  have shown := congrArg (fun items => some (Json.arr items)) listed
  simp only [sharedReply, RunStore.query, RunStore.limit?, answer,
    sharedAnswer, Option.map_some, List.map_map, select_byText_desc agrees]
  exact shown

/-- A call that both stores take and write alike is answered alike. -/
theorem query_alike
    {call : StoreCall}
    (admissible : Admissible call)
    (plain : call.plain = true)
    (fits : call.fits table = true) :
    Agrees (RunStore.query table call).1 (answer rows call).1 ∧
      sharedReply (RunStore.query table call).2 =
        sharedReply (answer rows call).2 := by
  have objects := admissible.objects
  cases call with
  | createRun document =>
      exact createRun_alike agrees objects
        (ordinary_created plain admissible.inRange)
  | claimRun runId startedAt status dispatchId =>
      exact claimRun_alike agrees runId startedAt dispatchId objects
  | recordRuntimeExecution runId runtimeExecution startedAt =>
      exact recordRuntimeExecution_alike agrees startedAt objects.1
        objects.2 fits
  | markSucceeded runId endedAt =>
      exact markSucceeded_alike agrees endedAt objects.1 objects.2 fits
  | markFailed runId endedAt =>
      exact markFailed_alike agrees endedAt objects.1 objects.2 fits
  | transition runId fromStates set now =>
      exact transition_alike agrees runId fromStates now objects.1
        objects.2.1 objects.2.2 plain
  | getRun runId =>
      exact ⟨agrees, getRun_alike agrees runId⟩
  | listQueuedRunIds limit =>
      obtain ⟨size, rfl⟩ := Int.eq_ofNat_of_zero_le
        (of_decide_eq_true fits)
      exact ⟨agrees, listQueuedRunIds_alike agrees size⟩
  | listRunsForInstance instanceId limit state =>
      obtain ⟨size, rfl⟩ := Int.eq_ofNat_of_zero_le
        (of_decide_eq_true fits)
      exact ⟨agrees, listRunsForInstance_alike agrees instanceId size state⟩

/-- A fence that does not hold refuses a write that is made here. -/
theorem fenced_unlike
    {runId : String}
    {dispatchId : Option String}
    (fails : ¬ fenceHolds table runId dispatchId = true)
    {update : RowUpdate JobRun}
    {localUpdate : RowUpdate LocalRun}
    (guard :
      ∀ run, update.guard run =
        (decide (run.state = .running) && RunStore.fencing dispatchId run))
    (localGuard :
      ∀ row, localUpdate.guard row = decide (row.state = .running)) :
    (table.updateWhere runId update).2.isSome ≠
      (rows.updateWhere runId localUpdate).2.isSome := by
  have views := Table.lookup_views agrees.views runId
  cases found : table.lookup runId with
  | none =>
      simp [fenceHolds, found] at fails
  | some run =>
      obtain ⟨row, stored, same⟩ :=
        Option.map_eq_some_iff.mp (views.symm.trans (by rw [found]; rfl))
      have sameState : row.state = run.state :=
        congrArg SharedColumns.state same
      simp only [fenceHolds, found, ne_eq, Bool.or_eq_true,
        decide_eq_true_eq, not_or, not_not, Bool.not_eq_true] at fails
      obtain ⟨running, stale⟩ := fails
      rw [Table.returned_updateWhere, Table.returned_updateWhere, found,
        stored, Option.bind_some, Option.bind_some, RowUpdate.returning,
        RowUpdate.returning, guard, localGuard, sameState]
      simp [running, stale]

theorem query_unlike
    {call : StoreCall}
    (unfit : ¬ call.fits table = true) :
    sharedReply (RunStore.query table call).2 ≠
      sharedReply (answer rows call).2 := by
  have flags
      {first second : Bool}
      (different : first ≠ second) :
      sharedReply (some (.bool first)) ≠
        sharedReply (some (.bool second)) := by
    intro same
    cases same
    exact different rfl
  cases call with
  | recordRuntimeExecution | markSucceeded | markFailed =>
      exact flags (fenced_unlike agrees unfit (fun _ => rfl) fun _ => rfl)
  | listQueuedRunIds limit | listRunsForInstance _ limit _ =>
      cases limit with
      | ofNat limit =>
          exact (unfit (decide_eq_true (Int.natCast_nonneg limit))).elim
      | negSucc limit =>
          rintro ⟨⟩
  | _ =>
      exact (unfit rfl).elim

end OneCall

/-- SQLite takes every call. -/
theorem isSome_answer
    (rows : LocalRuns)
    (call : StoreCall) :
    (answer rows call).2.isSome = true := by
  cases call <;> rfl

theorem answer_of_plain
    {call : StoreCall}
    (plain : call.plain = true)
    (table : JobRuns) :
    RunStore.answer table call = RunStore.query table call :=
  if_pos plain

/-- `RunStore` takes a history of calls without null characters. -/
theorem after_of_plain
    {calls : List StoreCall}
    (plain : ∀ call ∈ calls, call.plain = true)
    (table : JobRuns) :
    Answering.after RunStore.answer table calls =
      Answering.after RunStore.query table calls := by
  induction calls generalizing table with
  | nil =>
      rfl
  | cons call rest inductionHypothesis =>
      obtain ⟨first, others⟩ := List.forall_mem_cons.mp plain
      rw [Answering.after, Answering.after, answer_of_plain first]
      exact inductionHypothesis others _

theorem along_portable
    {calls : List StoreCall}
    (plain : ∀ call ∈ calls, call.plain = true)
    (fits :
      Answering.Along RunStore.query
        (fun table call => call.fits table = true) table calls) :
    Answering.Along RunStore.answer
      (fun table call => call.portable table = true) table calls := by
  induction calls generalizing table with
  | nil =>
      trivial
  | cons call rest inductionHypothesis =>
      obtain ⟨first, others⟩ := List.forall_mem_cons.mp plain
      refine ⟨Bool.and_eq_true_iff.mpr ⟨first, fits.1⟩, ?_⟩
      rw [answer_of_plain first]
      exact inductionHypothesis others fits.2

/-- A portable call is answered alike, and leaves tables that agree. -/
theorem answer_alike
    {call : StoreCall}
    (agrees : Agrees table rows)
    (admissible : Admissible call)
    (portable : call.portable table = true) :
    Agrees (RunStore.answer table call).1 (answer rows call).1 ∧
      sharedReply (RunStore.answer table call).2 =
        sharedReply (answer rows call).2 := by
  obtain ⟨plain, fits⟩ := Bool.and_eq_true_iff.mp portable
  rw [answer_of_plain plain]
  exact query_alike agrees admissible plain fits

theorem answer_unlike
    {call : StoreCall}
    (agrees : Agrees table rows)
    (unportable : ¬ call.portable table = true) :
    sharedReply (RunStore.answer table call).2 ≠
      sharedReply (answer rows call).2 := by
  by_cases plain : call.plain = true
  · rw [answer_of_plain plain]
    exact query_unlike agrees fun fits =>
      unportable (Bool.and_eq_true_iff.mpr ⟨plain, fits⟩)
  · rw [RunStore.answer, if_neg plain]
    intro same
    have present := congrArg Option.isSome same
    rw [sharedReply, sharedReply, Option.isSome_map, Option.isSome_map,
      isSome_answer] at present
    cases present

/-- Portable calls leave tables that agree. -/
theorem agrees_after
    {calls : List StoreCall}
    (agrees : Agrees table rows)
    (admissible : ∀ call ∈ calls, Admissible call)
    (portable :
      Answering.Along RunStore.answer
        (fun table call => call.portable table = true) table calls) :
    Agrees (Answering.after RunStore.answer table calls)
      (Answering.after answer rows calls) := by
  refine Answering.related_after ?_ agrees admissible portable
  intro table rows call agrees admissible portable
  exact (answer_alike agrees admissible portable).1

/--
Started on tables that agree, both stores answer a history of calls alike
exactly when each of its calls is portable where `RunStore` meets it.
-/
theorem answers_like_runStore_iff
    {calls : List StoreCall}
    (agrees : Agrees table rows)
    (admissible : ∀ call ∈ calls, Admissible call) :
    (Answering.answers RunStore.answer table calls).map sharedReply =
        (Answering.answers answer rows calls).map sharedReply ↔
      Answering.Along RunStore.answer
        (fun table call => call.portable table = true) table calls := by
  refine Answering.answers_alike_iff ?_ ?_ agrees admissible
  · intro table rows call agrees admissible portable
    exact answer_alike agrees admissible portable
  · intro table rows call agrees _ unportable
    exact answer_unlike agrees unportable

/-- A worker writes under an identifier that the claim has replaced. -/
def ghostWrite : List StoreCall :=
  [.createRun (runNowDocument nightly 5 manualUuid),
    .claimRun nightlyRunId 6 none firstUuid,
    .getRun nightlyRunId,
    .markSucceeded nightlyRunId 7 (some (.obj [])) none (some "stale")]

/-- `RunStore` refuses the write of the ghost, and `LocalRunStore` takes it. -/
theorem answers_like_runStore_iff_ghostWrite :
    (Answering.answers RunStore.answer ∅ ghostWrite).map sharedReply ≠
      (Answering.answers answer ∅ ghostWrite).map sharedReply := by
  have admissible : ∀ call ∈ ghostWrite, Admissible call := by
    have given : Given (some (.obj [])) := by
      rintro json ⟨⟩
      exact ⟨⟨[], rfl⟩, by decide⟩
    have absent : Given none := by
      rintro json ⟨⟩
    have queued : Built (some (statusJson "queued" "Run queued by run-now")) := by
      rintro json ⟨⟩
      exact built_statusJson _ _
    simp only [ghostWrite, List.forall_mem_cons, List.not_mem_nil,
      false_imp_iff, implies_true, and_true]
    exact ⟨
      ⟨⟨by decide, queued, built_none, built_none, built_none⟩, by decide⟩,
      ⟨absent, by decide⟩, ⟨trivial, by decide⟩,
      ⟨given, absent⟩, by decide⟩
  rw [ne_eq, answers_like_runStore_iff agrees_empty admissible]
  decide

end LocalRunStore

end IgaScheduler

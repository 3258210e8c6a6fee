import IgaScheduler.AnsweredCalls
import IgaScheduler.InstanceOperations
import IgaScheduler.JsonPrinter
import IgaScheduler.LocalColumns
import IgaScheduler.RelationalViews

namespace IgaScheduler

open Relational

/-!
# `LocalInstanceStore` in the place of `InstanceStore`

The store of the local application keeps `job_instances` in SQLite: its JSON
columns are text, `enabled` is a number, and an instant is its ISO text, by
which it is compared and listed.  It answers every history of calls as
`InstanceStore` does, up to the texts and the limits that PostgreSQL refuses.
-/

/-- The columns of the local `job_instances` beside `instance_id`. -/
structure LocalInstance where
  tenantId : Option String
  definitionId : String
  definitionVersion : Option Int
  definitionParameterSchema : Option String
  enabled : Nat
  state : InstanceState
  schedule : Option String
  nextFireAt : Option Timestamp
  lastFireAt : Option Timestamp
  parameters : Option String
  createdAt : Timestamp
  updatedAt : Timestamp
  deriving DecidableEq

/-- The local `job_instances` table. -/
abbrev LocalInstances := Table String LocalInstance

/-- The text stored in the `state` column. -/
def InstanceState.text : InstanceState → String
  | .active => "ACTIVE"
  | .paused => "PAUSED"
  | .deleted => "DELETED"

/-! ## Documents -/

def jobParameterJson (parameter : JobParameter) : Json :=
  .obj [("name", .str parameter.name),
    ("type", .str parameter.type.text),
    ("required", .bool parameter.required)]

def parameterSchemaJson (schema : List JobParameter) : Json :=
  .arr (schema.map jobParameterJson)

/-- A field that an object has only if it is given. -/
def givenField
    (name : String)
    (value : Option String) :
    List (String × Json) :=
  (value.map fun text => (name, Json.str text)).toList

def scheduleJson (schedule : Schedule) : Json :=
  .obj (("type", .str schedule.type) ::
    (givenField "expression" schedule.expression ++
      (givenField "cron" schedule.cron ++
        givenField "timezone" schedule.timezone)))

namespace InstanceStore

/-- The fields of the object that `rowToDocument` returns. -/
def documentFields
    (instanceId : String)
    (row : JobInstance) :
    List (String × Json) :=
  [("instanceId", .str instanceId),
    ("tenantId", PublicRuns.optionalText row.tenantId),
    ("definitionId", .str row.definitionId),
    ("definitionVersion", .num row.definitionVersion 0),
    ("definitionParameterSchema",
      parameterSchemaJson row.definitionParameterSchema),
    ("enabled", .bool row.enabled),
    ("state", .str row.state.text),
    ("schedule", scheduleJson row.schedule),
    ("nextFireAt", PublicRuns.optionalInstant row.nextFireAt),
    ("lastFireAt", PublicRuns.optionalInstant row.lastFireAt),
    ("parameters", PublicRuns.parametersJson row.parameters),
    ("createdAt", .str (toISOString row.createdAt)),
    ("updatedAt", .str (toISOString row.updatedAt))]

end InstanceStore

namespace LocalInstanceStore

open JavaScript (stringify)

def toRow (document : JobInstance) : LocalInstance where
  tenantId := document.tenantId
  definitionId := document.definitionId
  definitionVersion := some document.definitionVersion
  definitionParameterSchema :=
    some (stringify
      (parameterSchemaJson document.definitionParameterSchema))
  enabled := if document.enabled then 1 else 0
  state := document.state
  schedule := some (stringify (scheduleJson document.schedule))
  nextFireAt := document.nextFireAt
  lastFireAt := document.lastFireAt
  parameters :=
    some (stringify (PublicRuns.parametersJson document.parameters))
  createdAt := document.createdAt
  updatedAt := document.updatedAt

/-- `JSON.parse` on a column; what is no JSON is left as it is. -/
def columnValue : Option String → Json
  | none => .null
  | some text => (JavaScript.parse text.toList).getD (.str text)

/-- The fields of the object that `fromRow` returns. -/
def documentFields
    (instanceId : String)
    (row : LocalInstance) :
    List (String × Json) :=
  [("instanceId", readJson instanceId),
    ("tenantId", readOptional row.tenantId),
    ("definitionId", readJson row.definitionId),
    ("definitionVersion",
      (row.definitionVersion.map fun version => Json.num version 0).getD
        .null),
    ("definitionParameterSchema", columnValue row.definitionParameterSchema),
    ("enabled", .bool (decide (row.enabled = 1))),
    ("state", .str row.state.text),
    ("schedule", columnValue row.schedule),
    ("nextFireAt", PublicRuns.optionalInstant row.nextFireAt),
    ("lastFireAt", PublicRuns.optionalInstant row.lastFireAt),
    ("parameters", columnValue row.parameters),
    ("createdAt", .str (toISOString row.createdAt)),
    ("updatedAt", .str (toISOString row.updatedAt))]

/-- A deleted instance gives way to a new one of the same id. -/
def replaceable (row : LocalInstance) : Bool :=
  row.state = .deleted

/-- `updateInstance`: every column is written from the document. -/
def updateInstance (document : JobInstance) : RowUpdate LocalInstance where
  guard _ := true
  set _ := toRow document

/-- `WHERE enabled = 1 AND state = 'ACTIVE' AND next_fire_at <= ?`. -/
def due
    (nowIso : Timestamp)
    (row : LocalInstance) :
    Bool :=
  row.enabled = 1 && row.state = .active &&
    row.nextFireAt.any fun next => Civil.text next ≤ Civil.text nowIso

/-- The texts in whose order the due instances are listed. -/
def fireText (row : LocalInstance) : List Char :=
  (row.nextFireAt.map Civil.text).getD []

def advanceInstance
    (lastFireAt nextFireAt nowIso : Timestamp) :
    RowUpdate LocalInstance where
  guard _ := true
  set row := { row with
    lastFireAt := some lastFireAt
    nextFireAt := some nextFireAt
    updatedAt := nowIso }

end LocalInstanceStore

/-! ## The calls of either store -/

/-- A call of a method that both stores have. -/
inductive InstanceCall where
  | createInstance (document : InstanceDocument)
  | getInstance (instanceId : String)
  | updateInstance (instanceId : String) (document : JobInstance)
  | listInstancesForDefinition (definitionId : String)
  /-- No other session holds a lock. -/
  | claimDueInstances (nowIso : Timestamp) (batchSize : Int)
  | advanceInstance
      (instanceId : String)
      (lastFireAt nextFireAt nowIso : Timestamp)

/-- What a method of either store throws. -/
inductive InstanceError where
  | alreadyExists
  | notFound
  /-- PostgreSQL refuses a null character or a negative `LIMIT`. -/
  | database
  deriving DecidableEq

/-- No text that goes to PostgreSQL has a null character. -/
def InstanceCall.plain : InstanceCall → Bool
  | .createInstance document =>
      withoutNull (.obj (InstanceStore.documentFields document.instanceId
        document.toJobInstance))
  | .getInstance instanceId => withoutNull (.str instanceId)
  | .updateInstance instanceId document =>
      withoutNull (.obj (InstanceStore.documentFields instanceId document))
  | .listInstancesForDefinition definitionId =>
      withoutNull (.str definitionId)
  | .claimDueInstances _ _ => true
  | .advanceInstance instanceId _ _ _ => withoutNull (.str instanceId)

namespace InstanceStore

/-- `rowToDocument`, for every row that is listed. -/
def listJson (rows : List (String × JobInstance)) : Json :=
  .arr (rows.map fun entry => .obj (documentFields entry.1 entry.2))

/-- What the queries of `InstanceStore` do, and what it returns or throws. -/
def query
    (table : JobInstances) :
    InstanceCall →
      JobInstances × Except InstanceError Json
  | .createInstance document =>
      let (next, stored) :=
        table.upsertWhere document.instanceId document.toJobInstance
          replaceable
      (next,
        if stored then
          .ok (.obj
            (documentFields document.instanceId document.toJobInstance))
        else
          .error .alreadyExists)
  | .getInstance instanceId =>
      (table, .ok (((table.lookup instanceId).map fun row =>
        Json.obj (documentFields instanceId row)).getD .null))
  | .updateInstance instanceId document =>
      let (next, written) :=
        table.updateWhere instanceId (updateInstance document)
      (next,
        match written with
        | some row => .ok (.obj (documentFields instanceId row))
        | none => .error .notFound)
  | .listInstancesForDefinition definitionId =>
      (table, .ok (listJson
        (table.select (fun _ row => row.definitionId = definitionId)
          (fun row => -row.updatedAt) table.entries.length)))
  | .claimDueInstances nowIso batchSize =>
      (table,
        match batchSize with
        | .ofNat limit =>
            .ok (listJson
              (table.select (fun _ row => due nowIso row)
                (fun row => row.nextFireAt.getD 0) limit))
        | .negSucc _ => .error .database)
  | .advanceInstance instanceId lastFireAt nextFireAt nowIso =>
      ((table.updateWhere instanceId
        (advanceInstance lastFireAt nextFireAt nowIso)).1, .ok .null)

/--
What `InstanceStore` does to `job_instances` and returns or throws.  PostgreSQL
refuses a query when a text for it has a null character.
-/
def answer
    (table : JobInstances)
    (call : InstanceCall) :
    JobInstances × Except InstanceError Json :=
  if call.plain then query table call else (table, .error .database)

end InstanceStore

namespace LocalInstanceStore

/-- `fromRow`, for every row that is listed. -/
def listJson (rows : List (String × LocalInstance)) : Json :=
  .arr (rows.map fun entry => .obj (documentFields entry.1 entry.2))

/-- What `LocalInstanceStore` does to its table and returns or throws. -/
def answer
    (table : LocalInstances) :
    InstanceCall →
      LocalInstances × Except InstanceError Json
  | .createInstance document =>
      let (next, stored) :=
        table.upsertWhere document.instanceId
          (toRow document.toJobInstance) replaceable
      (next,
        -- the document is returned as it was given
        if stored then
          .ok (.obj (InstanceStore.documentFields document.instanceId
            document.toJobInstance))
        else
          .error .alreadyExists)
  | .getInstance instanceId =>
      (table, .ok (((table.lookup instanceId).map fun row =>
        Json.obj (documentFields instanceId row)).getD .null))
  | .updateInstance instanceId document =>
      let (next, written) :=
        table.updateWhere instanceId (updateInstance document)
      (next,
        match written with
        | some row => .ok (.obj (documentFields instanceId row))
        | none => .error .notFound)
  | .listInstancesForDefinition definitionId =>
      (table, .ok (listJson
        (table.select (fun _ row => row.definitionId = definitionId)
          (fun row => OrderDual.toDual (Civil.text row.updatedAt))
          table.entries.length)))
  | .claimDueInstances nowIso batchSize =>
      (table, .ok (listJson
        (table.select (fun _ row => due nowIso row)
          fireText
          (match batchSize with
          | .ofNat limit => limit
          | .negSucc _ => table.entries.length))))
  | .advanceInstance instanceId lastFireAt nextFireAt nowIso =>
      ((table.updateWhere instanceId
        (advanceInstance lastFireAt nextFireAt nowIso)).1, .ok .null)

/-! ## Calls that both stores take -/

/-- The objects of an instance are as they can be built in JavaScript. -/
def Readable (row : JobInstance) : Prop :=
  JavaScript.built (PublicRuns.parametersJson row.parameters) = true

/-- The documents that are handed to a store are readable. -/
def GivesReadable : InstanceCall → Prop
  | .createInstance document => Readable document.toJobInstance
  | .updateInstance _ document => Readable document
  | _ => True

/-- The instants of a document. -/
def documentInstants (document : JobInstance) : List Timestamp :=
  document.createdAt :: document.updatedAt ::
    (document.nextFireAt.toList ++ document.lastFireAt.toList)

/-- The instants that are given to a call. -/
def instants : InstanceCall → List Timestamp
  | .createInstance document => documentInstants document.toJobInstance
  | .updateInstance _ document => documentInstants document
  | .claimDueInstances nowIso _ => [nowIso]
  | .advanceInstance _ lastFireAt nextFireAt nowIso =>
      [lastFireAt, nextFireAt, nowIso]
  | _ => []

/-- PostgreSQL has room for the numbers of a call. -/
def numbersFit : InstanceCall → Bool
  | .createInstance document => isInteger document.definitionVersion
  | .updateInstance _ document => isInteger document.definitionVersion
  | .claimDueInstances _ batchSize => isBigint batchSize
  | _ => true

/-- The values of a call are such as both stores have columns for. -/
structure Admissible (call : InstanceCall) : Prop where
  readable : GivesReadable call
  instants : ∀ instant ∈ instants call, isTimestamptz instant = true
  numbers : numbersFit call = true

/-- PostgreSQL takes the texts of a call, and its limit is not negative. -/
def portable (call : InstanceCall) : Bool :=
  call.plain &&
    match call with
    | .claimDueInstances _ batchSize => decide (0 ≤ batchSize)
    | _ => true

/-! ## Rows and tables that agree -/

/-- A row that SQLite reads and orders as PostgreSQL does. -/
structure Ordinary
    (instanceId : String)
    (row : JobInstance) :
    Prop where
  readable : Readable row
  texts : ∀ text ∈ [instanceId, row.definitionId], '\x00' ∉ text.toList
  tenantId : ∀ text ∈ row.tenantId, '\x00' ∉ text.toList
  nextFireAt : ∀ next ∈ row.nextFireAt, Civil.FourDigitYear next
  updatedAt : Civil.FourDigitYear row.updatedAt

/-- Both stores keep the same instances. -/
structure Agrees
    (table : JobInstances)
    (rows : LocalInstances) :
    Prop where
  views : table.mapRows toRow = rows.mapRows id
  ordinary :
    ∀ {instanceId : String} {row : JobInstance},
      table.lookup instanceId = some row → Ordinary instanceId row

theorem agrees_empty : Agrees ∅ ∅ where
  views := rfl
  ordinary := by
    rintro instanceId row ⟨⟩

/-- A document that PostgreSQL takes is read back from SQLite as it is. -/
theorem ordinary_given
    {instanceId : String}
    {document : JobInstance}
    (readable : Readable document)
    (plain :
      withoutNull (.obj (InstanceStore.documentFields instanceId document)) =
        true)
    (instants :
      ∀ instant ∈ documentInstants document, isTimestamptz instant = true) :
    Ordinary instanceId document := by
  have fields := withoutNullFields_iff.mp plain
  simp only [InstanceStore.documentFields, List.forall_mem_cons] at fields
  obtain ⟨ofInstance, ofTenant, ofDefinition, -⟩ := fields
  refine ⟨readable, ?_, withoutNull_optionalText.mp ofTenant.2, ?_,
    fourDigitYear (instants _ (by simp [documentInstants]))⟩
  · simp only [List.forall_mem_cons, List.not_mem_nil, false_imp_iff,
      implies_true, and_true]
    exact ⟨withoutNull_str.mp ofInstance.2,
      withoutNull_str.mp ofDefinition.2⟩
  · intro next member
    refine fourDigitYear (instants next ?_)
    simp [documentInstants, Option.mem_def.mp member]

theorem columnValue_stringify
    {value : Json}
    (valid : JavaScript.built value = true) :
    columnValue (some (JavaScript.stringify value)) = value := by
  rw [columnValue, JavaScript.parse_stringify valid]
  rfl

theorem built_parameterSchemaJson (schema : List JobParameter) :
    JavaScript.built (parameterSchemaJson schema) = true := by
  rw [parameterSchemaJson, JavaScript.built]
  induction schema with
  | nil =>
      simp [JavaScript.builtItems]
  | cons parameter rest inductionHypothesis =>
      have first : JavaScript.built (jobParameterJson parameter) = true := by
        have ordered :
            JavaScript.precedes "name" "type" = true ∧
              JavaScript.precedes "name" "required" = true ∧
              JavaScript.precedes "type" "required" = true := by
          decide
        simp [jobParameterJson, JavaScript.built, JavaScript.builtFields,
          ordered]
      rw [List.map_cons, JavaScript.builtItems, first, inductionHypothesis]
      rfl

theorem built_scheduleJson (schedule : Schedule) :
    JavaScript.built (scheduleJson schedule) = true := by
  have ordered :
      JavaScript.precedes "type" "expression" = true ∧
        JavaScript.precedes "type" "cron" = true ∧
        JavaScript.precedes "type" "timezone" = true ∧
        JavaScript.precedes "expression" "cron" = true ∧
        JavaScript.precedes "expression" "timezone" = true ∧
        JavaScript.precedes "cron" "timezone" = true := by
    decide
  obtain ⟨type, expression, cron, timezone⟩ := schedule
  cases expression <;> cases cron <;> cases timezone <;>
    simp [scheduleJson, givenField, JavaScript.built,
      JavaScript.builtFields, ordered]

/-- A stored document is read back as it was. -/
theorem documentFields_toRow
    {instanceId : String}
    {row : JobInstance}
    (ordinary : Ordinary instanceId row) :
    documentFields instanceId (toRow row) =
      InstanceStore.documentFields instanceId row := by
  have enabled : decide ((toRow row).enabled = 1) = row.enabled := by
    unfold toRow
    cases row.enabled <;> rfl
  have texts := fun text member =>
    readJson_eq (ordinary.texts text member)
  simp only [List.forall_mem_cons, List.not_mem_nil, false_imp_iff,
    implies_true, and_true] at texts
  obtain ⟨ofInstance, ofDefinition⟩ := texts
  rw [documentFields, enabled]
  simp only [toRow, InstanceStore.documentFields, ofInstance, ofDefinition,
    readOptional_eq ordinary.tenantId,
    columnValue_stringify (built_parameterSchemaJson _),
    columnValue_stringify (built_scheduleJson _),
    columnValue_stringify ordinary.readable, Option.map_some,
    Option.getD_some]

/-- The texts of two instants are compared as the instants are. -/
theorem due_toRow
    {instanceId : String}
    {row : JobInstance}
    {nowIso : Timestamp}
    (ordinary : Ordinary instanceId row)
    (now : Civil.FourDigitYear nowIso) :
    due nowIso (toRow row) = InstanceStore.due nowIso row := by
  have compared :
      (row.nextFireAt.any fun next => Civil.text next ≤ Civil.text nowIso) =
        row.nextFireAt.any (· ≤ nowIso) := by
    cases planned : row.nextFireAt with
    | none =>
        rfl
    | some next =>
        exact decide_eq_decide.mpr
          (Civil.text_le_iff (ordinary.nextFireAt next planned) now)
  unfold due InstanceStore.due toRow
  rw [compared]
  cases row.enabled <;> rfl

variable {table : JobInstances} {rows : LocalInstances}

/-- A listing that looks at the columns lists the same documents. -/
theorem listJson_alike
    {ω : Type}
    [LE ω]
    [DecidableLE ω]
    (agrees : Agrees table rows)
    (admits : LocalInstance → Bool)
    (order : LocalInstance → ω)
    (limit : Nat) :
    InstanceStore.listJson
        (table.select (fun _ row => admits (toRow row))
          (fun row => order (toRow row)) limit) =
      listJson (rows.select (fun _ row => admits row) order limit) := by
  refine congrArg Json.arr
    (Table.shown_of_views agrees.views (fun _ => admits) order limit ?_)
  rintro instanceId row otherRow found rfl
  exact congrArg Json.obj
    (documentFields_toRow (agrees.ordinary found)).symm

/-- The due instances, in the order of their instants or of the texts. -/
theorem select_due
    {nowIso : Timestamp}
    (agrees : Agrees table rows)
    (now : Civil.FourDigitYear nowIso)
    (limit : Nat) :
    table.select (fun _ row => InstanceStore.due nowIso row)
        (fun row => row.nextFireAt.getD 0) limit =
      table.select (fun _ row => due nowIso (toRow row))
        (fun row => fireText (toRow row)) limit := by
  have planned
      {row : JobInstance}
      (isDue : InstanceStore.due nowIso row = true) :
      ∃ next, row.nextFireAt = some next := by
    unfold InstanceStore.due at isDue
    cases present : row.nextFireAt with
    | none =>
        rw [present] at isDue
        simp at isDue
    | some next =>
        exact ⟨next, rfl⟩
  refine Table.select_congr
    (fun found => (due_toRow (agrees.ordinary found) now).symm) ?_ limit
  intro instanceId otherId row otherRow found isDue otherFound otherDue
  obtain ⟨next, fires⟩ := planned isDue
  obtain ⟨otherNext, otherFires⟩ := planned otherDue
  have ordered :=
    Civil.text_le_iff ((agrees.ordinary found).nextFireAt next fires)
      ((agrees.ordinary otherFound).nextFireAt otherNext otherFires)
  rw [fires, otherFires]
  simpa only [fireText, toRow, fires, otherFires, Option.map_some,
    Option.getD_some] using ordered.symm

/-- The instances, newest first. -/
theorem select_newest
    (agrees : Agrees table rows)
    (admits : String → JobInstance → Bool)
    (limit : Nat) :
    table.select admits (fun row => -row.updatedAt) limit =
      table.select admits
        (fun row => OrderDual.toDual (Civil.text row.updatedAt)) limit :=
  Table.select_congr (fun _ => rfl)
    (fun found _ otherFound _ =>
      Int.neg_le_neg_iff.trans
        (Civil.text_le_iff (agrees.ordinary otherFound).updatedAt
          (agrees.ordinary found).updatedAt).symm)
    limit

/-- An update of an instance does the same in both stores. -/
theorem Agrees.update
    (agrees : Agrees table rows)
    (instanceId : String)
    (update : RowUpdate JobInstance)
    (localUpdate : RowUpdate LocalInstance)
    (guard :
      ∀ row, update.guard row = localUpdate.guard (toRow row))
    (set : ∀ row, toRow (update.set row) = localUpdate.set (toRow row))
    (ordinary :
      ∀ {row}, Ordinary instanceId row →
        Ordinary instanceId (update.set row)) :
    Agrees (table.updateWhere instanceId update).1
        (rows.updateWhere instanceId localUpdate).1 ∧
      (table.updateWhere instanceId update).2.map toRow =
        (rows.updateWhere instanceId localUpdate).2 := by
  obtain ⟨views, answered⟩ :=
    Table.updateWhere_views agrees.views instanceId
      (by
        rintro row otherRow - - rfl
        exact ⟨guard row, set row⟩)
  obtain ⟨kept, -⟩ :=
    Table.kept_updateWhere (fun found => agrees.ordinary found) ordinary
  exact ⟨⟨views, kept⟩, by rwa [Option.map_id_apply] at answered⟩

section OneCall

variable (agrees : Agrees table rows)
include agrees

theorem createInstance_alike
    {document : InstanceDocument}
    (ordinary : Ordinary document.instanceId document.toJobInstance) :
    let call := InstanceCall.createInstance document
    Agrees (InstanceStore.query table call).1 (answer rows call).1 ∧
      (InstanceStore.query table call).2 = (answer rows call).2 := by
  obtain ⟨views, stored⟩ :=
    Table.upsertWhere_views agrees.views document.instanceId
      InstanceStore.replaceable replaceable
      (show toRow document.toJobInstance = id _ from rfl)
      (by
        rintro row otherRow rfl
        rfl)
  refine ⟨⟨views, Table.kept_upsertWhere
    (fun found => agrees.ordinary found) InstanceStore.replaceable
    ordinary⟩, ?_⟩
  change (if (table.upsertWhere document.instanceId
      document.toJobInstance InstanceStore.replaceable).2 then
        Except.ok _ else _) = _
  rw [stored]
  rfl

theorem getInstance_alike (instanceId : String) :
    (InstanceStore.query table (.getInstance instanceId)).2 =
      (answer rows (.getInstance instanceId)).2 := by
  have found := Table.lookup_views agrees.views instanceId
  rw [Option.map_id_apply] at found
  simp only [InstanceStore.query, answer, ← found]
  cases stored : table.lookup instanceId with
  | none =>
      rfl
  | some row =>
      simp only [Option.map_some,
        documentFields_toRow (agrees.ordinary stored)]

theorem updateInstance_alike
    {instanceId : String}
    {document : JobInstance}
    (ordinary : Ordinary instanceId document) :
    let call := InstanceCall.updateInstance instanceId document
    Agrees (InstanceStore.query table call).1 (answer rows call).1 ∧
      (InstanceStore.query table call).2 = (answer rows call).2 := by
  obtain ⟨kept, answered⟩ :=
    agrees.update instanceId
      (InstanceStore.updateInstance document) (updateInstance document)
      (fun _ => rfl) (fun _ => rfl) (fun _ => ordinary)
  refine ⟨kept, ?_⟩
  simp only [InstanceStore.query, answer, ← answered]
  have wrote := Table.returned_updateWhere table instanceId
    (InstanceStore.updateInstance document)
  rw [wrote]
  cases table.lookup instanceId with
  | none =>
      rfl
  | some row =>
      exact congrArg (fun fields => Except.ok (Json.obj fields))
        (documentFields_toRow ordinary).symm

theorem listInstancesForDefinition_alike (definitionId : String) :
    let call := InstanceCall.listInstancesForDefinition definitionId
    (InstanceStore.query table call).2 = (answer rows call).2 := by
  refine congrArg Except.ok ?_
  rw [select_newest agrees, ← Table.length_views agrees.views]
  exact listJson_alike agrees
    (fun row => decide (row.definitionId = definitionId))
    (fun row => OrderDual.toDual (Civil.text row.updatedAt)) _

theorem claimDueInstances_alike
    {nowIso : Timestamp}
    (now : Civil.FourDigitYear nowIso)
    (limit : Nat) :
    let call := InstanceCall.claimDueInstances nowIso limit
    (InstanceStore.query table call).2 = (answer rows call).2 := by
  refine congrArg Except.ok ?_
  rw [select_due agrees now]
  exact listJson_alike agrees (due nowIso) fireText limit

theorem advanceInstance_alike
    (instanceId : String)
    {lastFireAt nextFireAt nowIso : Timestamp}
    (next : Civil.FourDigitYear nextFireAt)
    (now : Civil.FourDigitYear nowIso) :
    let call :=
      InstanceCall.advanceInstance instanceId lastFireAt nextFireAt nowIso
    Agrees (InstanceStore.query table call).1 (answer rows call).1 :=
  (agrees.update instanceId
    (InstanceStore.advanceInstance lastFireAt nextFireAt nowIso)
    (advanceInstance lastFireAt nextFireAt nowIso)
    (fun _ => rfl) (fun _ => rfl) fun ordinary => {
      readable := ordinary.readable
      texts := ordinary.texts
      tenantId := ordinary.tenantId
      nextFireAt := by
        rintro _ ⟨⟩
        exact next
      updatedAt := now }).1

end OneCall

/-- Both stores answer a portable call alike, and keep the same instances. -/
theorem answer_alike
    {call : InstanceCall}
    (agrees : Agrees table rows)
    (admissible : Admissible call)
    (taken : portable call = true) :
    Agrees (InstanceStore.answer table call).1 (answer rows call).1 ∧
      (InstanceStore.answer table call).2 = (answer rows call).2 := by
  obtain ⟨plain, limit⟩ := Bool.and_eq_true_iff.mp taken
  obtain ⟨readable, given, -⟩ := admissible
  rw [InstanceStore.answer, if_pos plain]
  cases call with
  | createInstance document =>
      exact createInstance_alike agrees (ordinary_given readable plain given)
  | getInstance instanceId =>
      exact ⟨agrees, getInstance_alike agrees instanceId⟩
  | updateInstance instanceId document =>
      exact updateInstance_alike agrees (ordinary_given readable plain given)
  | listInstancesForDefinition definitionId =>
      exact ⟨agrees, listInstancesForDefinition_alike agrees definitionId⟩
  | claimDueInstances nowIso batchSize =>
      obtain ⟨size, rfl⟩ :=
        Int.eq_ofNat_of_zero_le (of_decide_eq_true limit)
      exact ⟨agrees, claimDueInstances_alike agrees
        (fourDigitYear (given nowIso (by simp [instants]))) size⟩
  | advanceInstance instanceId lastFireAt nextFireAt nowIso =>
      exact ⟨advanceInstance_alike agrees instanceId
        (fourDigitYear (given nextFireAt (by simp [instants])))
        (fourDigitYear (given nowIso (by simp [instants]))), rfl⟩

/-- SQLite takes every call. -/
theorem answer_ne_database
    (rows : LocalInstances)
    (call : InstanceCall) :
    (answer rows call).2 ≠ .error .database := by
  cases call with
  | createInstance | updateInstance =>
      simp only [answer]
      split <;> rintro ⟨⟩
  | _ =>
      rintro ⟨⟩

/-- PostgreSQL does not take one that is not portable. -/
theorem answer_unlike
    {call : InstanceCall}
    (refused : ¬ portable call = true) :
    (InstanceStore.answer table call).2 ≠ (answer rows call).2 := by
  have throws :
      (InstanceStore.answer table call).2 = .error .database := by
    unfold InstanceStore.answer
    split
    · rename_i plain
      cases call with
      | claimDueInstances nowIso batchSize =>
          cases batchSize with
          | ofNat limit =>
              exact (refused (Bool.and_eq_true_iff.mpr
                ⟨plain, decide_eq_true (Int.natCast_nonneg limit)⟩)).elim
          | negSucc limit =>
              rfl
      | _ =>
          exact (refused (Bool.and_eq_true_iff.mpr ⟨plain, rfl⟩)).elim
    · rfl
  rw [throws]
  exact (answer_ne_database rows call).symm

end LocalInstanceStore

end IgaScheduler

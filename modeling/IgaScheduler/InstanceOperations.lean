import IgaScheduler.JavaScript
import IgaScheduler.JobDefinition
import IgaScheduler.JobInstance

namespace IgaScheduler

open Relational

/-!
# Operations on a job instance

What `JobInstanceService` and `SchedulerTickService` make of the row of an
instance, and the bodies they accept.  The cron parser is a parameter.
-/

/-- How a call of the definition or instance service ends when it throws. -/
inductive ServiceError where
  /-- An error with a `statusCode`. -/
  | status (statusCode : Nat) (message : String)
  | error (message : String)
  /-- A schema refused the body. -/
  | validation
  /-- The schedule has no next fire time. -/
  | schedule
  /-- An awaited statement threw. -/
  | raised
  deriving DecidableEq, Repr

/-- `CronExpressionParser`: the first fire time after an instant, if it parses. -/
structure CronParser where
  next :
    (expression timezone : String) →
      Timestamp →
      Option Timestamp

/-- Fire times lie strictly after the instant they are computed from. -/
def CronParser.Later (cron : CronParser) : Prop :=
  ∀ expression timezone fromDate next,
    cron.next expression timezone fromDate = some next →
    fromDate < next

/-- `timezone || "UTC"`. -/
def Schedule.timezoneOrUtc (schedule : Schedule) : String :=
  match schedule.timezone with
  | none => "UTC"
  | some timezone => if timezone = "" then "UTC" else timezone

/-- `computeNextFireAt` of `utils/schedule.js`; `none` when it throws. -/
def computeNextFireAt
    (cron : CronParser)
    (schedule : Schedule)
    (fromDate : Timestamp) :
    Option Timestamp :=
  if schedule.type = "cron" then
    schedule.expression.bind fun expression =>
      cron.next expression schedule.timezoneOrUtc fromDate
  else
    none

namespace SchedulerTickService

/-- `schedule.expression || schedule.cron`. -/
def getCronExpression (schedule : Schedule) : Option String :=
  match schedule.expression with
  | none => schedule.cron
  | some expression =>
      if expression = "" then schedule.cron else some expression

/-- `SchedulerTickService.computeNextFireAt`; `none` when it throws. -/
def computeNextFireAt
    (cron : CronParser)
    (schedule : Schedule)
    (scheduledFireTime : Timestamp) :
    Option Timestamp :=
  (getCronExpression schedule).bind fun expression =>
    if expression = "" then
      none
    else
      cron.next expression schedule.timezoneOrUtc scheduledFireTime

end SchedulerTickService

/-! ## Schemas -/

/-- The `schedule` of a request body. -/
structure ScheduleInput where
  type : String
  expression : String
  timezone : Option String
  deriving DecidableEq

/-- `cronScheduleSchema`. -/
def cronScheduleSchema (input : ScheduleInput) : Option Schedule :=
  if input.type = "cron" ∧ input.expression ≠ "" ∧
      input.timezone ≠ some "" then
    some ⟨"cron", some input.expression, none,
      some (input.timezone.getD "UTC")⟩
  else
    none

/-- `instanceParameterValueSchema`: a secret reference is not empty. -/
def instanceParameterValueSchema : ParameterValue → Bool
  | .sensitive secretRef => secretRef ≠ ""
  | _ => true

/-- Every value of a `parameters` record passes its schema. -/
def parametersSchema (parameters : Parameters) : Bool :=
  parameters.all fun entry => instanceParameterValueSchema entry.2

/-- The body of `createInstance`. -/
structure InstanceInput where
  instanceId : String
  enabled : Option Bool
  schedule : ScheduleInput
  parameters : Option Parameters
  deriving DecidableEq

/-- What `createJobInstanceSchema` leaves of a body. -/
structure NewInstance where
  instanceId : String
  enabled : Bool
  schedule : Schedule
  parameters : Parameters

/-- `createJobInstanceSchema.parse`; `none` when it throws. -/
def createJobInstanceSchema (input : InstanceInput) : Option NewInstance :=
  if isIdentifier input.instanceId ∧
      input.parameters.all parametersSchema then
    (cronScheduleSchema input.schedule).map fun schedule => {
      instanceId := input.instanceId
      enabled := input.enabled.getD true
      schedule := schedule
      parameters := input.parameters.getD []
    }
  else
    none

/-- The body of `patchInstance`. -/
structure PatchInput where
  enabled : Option Bool := none
  schedule : Option ScheduleInput := none
  parameters : Option Parameters := none
  deriving DecidableEq

/-- What `patchJobInstanceSchema` leaves of a body. -/
structure InstancePatch where
  enabled : Option Bool
  schedule : Option Schedule
  parameters : Option Parameters
  deriving DecidableEq

/-- `patchJobInstanceSchema.parse`; `none` when it throws. -/
def patchJobInstanceSchema (input : PatchInput) : Option InstancePatch :=
  if input.parameters.all parametersSchema then
    match input.schedule with
    | none => some ⟨input.enabled, none, input.parameters⟩
    | some schedule =>
        (cronScheduleSchema schedule).map fun schedule =>
          ⟨input.enabled, some schedule, input.parameters⟩
  else
    none

/-- A patch that sets `enabled` to `true`. -/
def InstancePatch.Enabling (patch : InstancePatch) : Prop :=
  patch.enabled = some true

instance (patch : InstancePatch) : Decidable patch.Enabling :=
  inferInstanceAs (Decidable (_ = _))

/-- A patch after which `nextFireAt` is computed anew. -/
def InstancePatch.Reschedules (patch : InstancePatch) : Prop :=
  patch.schedule.isSome = true ∨ patch.Enabling

instance (patch : InstancePatch) : Decidable patch.Reschedules :=
  inferInstanceAs (Decidable (_ ∨ _))

/-! ## Parameters -/

/-- The declared type as the schema spells it. -/
def ParameterType.text : ParameterType → String
  | .string => "string"
  | .stringArray => "string[]"
  | .sensitive => "sensitive"

/-- The type a value declares for itself. -/
def ParameterValue.type : ParameterValue → ParameterType
  | .string _ => .string
  | .stringArray _ => .stringArray
  | .sensitive _ => .sensitive

/--
`validateParameterValue`: the message it throws, if it throws.  A value that
passed its schema is an object whose contents have the type it declares.
-/
def validateParameterValue
    (parameter : JobParameter)
    (supplied : ParameterValue) :
    Option String :=
  if supplied.type = parameter.type then
    match supplied with
    | .sensitive secretRef =>
        if secretRef = "" then
          some ("Parameter " ++ parameter.name ++ " must include secretRef")
        else
          none
    | _ => none
  else
    some ("Parameter " ++ parameter.name ++ " must declare type " ++
      parameter.type.text)

/--
`validateParameterValue` on what an object without such a parameter has under
its name: nothing, or what every object inherits.
-/
def validateInherited (parameter : JobParameter) : Option String :=
  if parameter.name = "__proto__" then
    some ("Parameter " ++ parameter.name ++ " must declare type " ++
      parameter.type.text)
  else if parameter.name ∈ JavaScript.objectPrototypeNames then
    some ("Parameter " ++ parameter.name ++ " must be an object")
  else
    none

/-- `validateParametersAgainstDefinition`: the first message it throws. -/
def validateParametersAgainstDefinition
    (parameters : Parameters)
    (parameterSchema : List JobParameter) :
    Option String :=
  parameterSchema.findSome? fun parameter =>
    match parameters.lookup parameter.name with
    | none =>
        match validateInherited parameter with
        | some message => some message
        | none =>
            if parameter.required then
              some ("Missing required parameter: " ++ parameter.name)
            else
              none
    | some supplied => validateParameterValue parameter supplied

/-! ## Rows -/

/-- The state of an instance that is not deleted. -/
def stateOf (enabled : Bool) : InstanceState :=
  if enabled then .active else .paused

/-- The row that `createInstance` inserts. -/
def createdRow
    (cron : CronParser)
    (definitionId : String)
    (definition : DefinitionDocument)
    (parsed : NewInstance)
    (now fromDate : Timestamp) :
    Except ServiceError JobInstance :=
  match validateParametersAgainstDefinition
      parsed.parameters definition.parameters with
  | some message => .error (.error message)
  | none =>
      match computeNextFireAt cron parsed.schedule fromDate with
      | none => .error .schedule
      | some nextFireAt =>
          .ok {
            tenantId := none
            definitionId := definitionId
            definitionVersion := definition.version
            definitionParameterSchema := definition.parameters
            enabled := parsed.enabled
            state := stateOf parsed.enabled
            schedule := parsed.schedule
            nextFireAt := some nextFireAt
            lastFireAt := none
            parameters := parsed.parameters
            createdAt := now
            updatedAt := now
          }

namespace InstancePatch

/-- `{ ...existing, ...parsed }`. -/
def merge
    (patch : InstancePatch)
    (existing : JobInstance) :
    JobInstance :=
  { existing with
    enabled := patch.enabled.getD existing.enabled
    schedule := patch.schedule.getD existing.schedule
    parameters := patch.parameters.getD existing.parameters }

/-- The `nextFireAt` a patch leaves; `none` when its schedule does not parse. -/
def nextFireAt
    (patch : InstancePatch)
    (cron : CronParser)
    (fromDate : Timestamp)
    (existing : JobInstance) :
    Option (Option Timestamp) :=
  if patch.Reschedules then
    (computeNextFireAt cron (patch.merge existing).schedule fromDate).map
      some
  else
    some existing.nextFireAt

/-- The row that `patchInstance` writes over `existing`. -/
def row
    (patch : InstancePatch)
    (cron : CronParser)
    (fromDate updatedAt : Timestamp)
    (existing : JobInstance) :
    Except ServiceError JobInstance :=
  match patch.parameters.bind fun parameters =>
      validateParametersAgainstDefinition
        parameters existing.definitionParameterSchema with
  | some message => .error (.error message)
  | none =>
      match patch.nextFireAt cron fromDate existing with
      | none => .error .schedule
      | some nextFireAt =>
          .ok { patch.merge existing with
            nextFireAt := nextFireAt
            state := stateOf (patch.merge existing).enabled
            updatedAt := updatedAt }

end InstancePatch

/-- The row that `deleteInstance` writes over `existing`. -/
def deletedRow
    (updatedAt : Timestamp)
    (existing : JobInstance) :
    JobInstance :=
  { existing with
    enabled := false
    state := .deleted
    updatedAt := updatedAt }

namespace InstanceStore

/-- `advanceInstance`. -/
def advanceInstance
    (lastFireAt nextFireAt nowIso : Timestamp) :
    RowUpdate JobInstance where
  guard _ := true
  set row := { row with
    lastFireAt := some lastFireAt
    nextFireAt := some nextFireAt
    updatedAt := nowIso }

/-- `updateInstance`: every column is written from the document. -/
def updateInstance (document : JobInstance) : RowUpdate JobInstance where
  guard _ := true
  set _ := document

/-- `WHERE enabled AND state = 'ACTIVE' AND next_fire_at <= $1`. -/
def due
    (nowIso : Timestamp)
    (row : JobInstance) :
    Bool :=
  row.enabled && row.state = .active && row.nextFireAt.any (· ≤ nowIso)

/-- A deleted instance gives way to a new one of the same id. -/
def replaceable (row : JobInstance) : Bool :=
  row.state = .deleted

end InstanceStore

/-- The row a tick leaves of an instance that is due. -/
def advancedRow
    (cron : CronParser)
    (nowIso : Timestamp)
    (row : JobInstance) :
    Option JobInstance :=
  row.nextFireAt.bind fun fire =>
    (SchedulerTickService.computeNextFireAt cron row.schedule fire).map
      fun next => (InstanceStore.advanceInstance fire next nowIso).set row

/-- An instance that the scheduler fires. -/
def JobInstance.Live (row : JobInstance) : Prop :=
  row.enabled = true ∧ row.state = .active

instance (row : JobInstance) : Decidable row.Live :=
  inferInstanceAs (Decidable (_ ∧ _))

/-! ## Operations executed one at a time -/

/-- An operation on one instance, with the clocks its call has read. -/
inductive InstanceOperation where
  | created (row : JobInstance)
  | patched
      (patch : InstancePatch)
      (fromDate updatedAt : Timestamp)
  | deleted (updatedAt : Timestamp)
  | advanced (nowIso : Timestamp)
  deriving DecidableEq

namespace InstanceOperation

/-- The row an operation leaves when nothing else runs; `none` when it fails. -/
def run
    (cron : CronParser) :
    InstanceOperation →
      Option JobInstance →
      Option JobInstance
  | .created row, none => some row
  | .created row, some existing =>
      if InstanceStore.replaceable existing then some row else none
  | .patched patch fromDate updatedAt, existing =>
      existing.bind fun row =>
        (patch.row cron fromDate updatedAt row).toOption
  | .deleted updatedAt, existing => existing.map (deletedRow updatedAt)
  | .advanced nowIso, existing =>
      (existing.filter (InstanceStore.due nowIso)).bind
        (advancedRow cron nowIso)

/-- Execute operations one after the other; `none` when one of them fails. -/
def runAll
    (cron : CronParser)
    (operations : List InstanceOperation)
    (row : Option JobInstance) :
    Option (Option JobInstance) :=
  operations.foldlM
    (fun current operation => (operation.run cron current).map some) row

theorem runAll_append_singleton
    {cron : CronParser}
    {operations : List InstanceOperation}
    {operation : InstanceOperation}
    {first current : Option JobInstance}
    {next : JobInstance}
    (earlier : runAll cron operations first = some current)
    (last : operation.run cron current = some next) :
    runAll cron (operations ++ [operation]) first = some (some next) := by
  unfold runAll at earlier ⊢
  rw [List.foldlM_append, earlier]
  simp [last]

end InstanceOperation

/-! ## Parameters that passed the check -/

/-- A value with the tag of a declared type, and of that type. -/
def ParameterValue.HasType : ParameterValue → ParameterType → Prop
  | .string _, .string => True
  | .stringArray _, .stringArray => True
  | .sensitive secretRef, .sensitive => secretRef ≠ ""
  | _, _ => False

/-- Parameters as the definition declares them. -/
structure Conforms
    (parameters : Parameters)
    (parameterSchema : List JobParameter) :
    Prop where
  required :
    ∀ parameter ∈ parameterSchema,
      parameter.required = true →
      ∃ supplied, parameters.lookup parameter.name = some supplied
  typed :
    ∀ parameter ∈ parameterSchema,
      ∀ supplied,
        parameters.lookup parameter.name = some supplied →
        supplied.HasType parameter.type

theorem ParameterValue.type_of_hasType
    {supplied : ParameterValue}
    {type : ParameterType}
    (typed : supplied.HasType type) :
    supplied.type = type := by
  cases supplied <;> cases type <;>
    first
    | rfl
    | exact typed.elim

/-- A required parameter has a value of the declared type. -/
theorem Conforms.supplied
    {parameters : Parameters}
    {parameterSchema : List JobParameter}
    (conforms : Conforms parameters parameterSchema)
    {parameter : JobParameter}
    (declared : parameter ∈ parameterSchema)
    (required : parameter.required = true) :
    ∃ supplied,
      parameters.lookup parameter.name = some supplied ∧
        supplied.type = parameter.type := by
  obtain ⟨supplied, found⟩ := conforms.required parameter declared required
  have typed := conforms.typed parameter declared supplied found
  exact ⟨supplied, found, ParameterValue.type_of_hasType typed⟩

theorem hasType_of_validate
    {parameter : JobParameter}
    {supplied : ParameterValue}
    (valid : validateParameterValue parameter supplied = none) :
    supplied.HasType parameter.type := by
  unfold validateParameterValue at valid
  split at valid
  · rename_i sameType
    rw [← sameType]
    cases supplied with
    | string value =>
        trivial
    | stringArray value =>
        trivial
    | sensitive secretRef =>
        intro empty
        rw [empty] at valid
        cases valid
  · cases valid

theorem conforms_of_validate
    {parameters : Parameters}
    {parameterSchema : List JobParameter}
    (valid :
      validateParametersAgainstDefinition parameters parameterSchema = none) :
    Conforms parameters parameterSchema where
  required := by
    intro parameter declared required
    have passed := List.findSome?_eq_none_iff.mp valid parameter declared
    cases found : parameters.lookup parameter.name with
    | some supplied =>
        exact ⟨supplied, rfl⟩
    | none =>
        rw [found] at passed
        dsimp only at passed
        split at passed
        · cases passed
        · rw [if_pos required] at passed
          cases passed
  typed := by
    intro parameter declared supplied found
    have passed := List.findSome?_eq_none_iff.mp valid parameter declared
    rw [found] at passed
    exact hasType_of_validate passed

/-! ## What a patch leaves -/

/-- When a patch succeeds, and the row it writes. -/
theorem InstancePatch.row_eq_ok
    {patch : InstancePatch}
    {cron : CronParser}
    {fromDate updatedAt : Timestamp}
    {existing written : JobInstance} :
    patch.row cron fromDate updatedAt existing = .ok written ↔
      (patch.parameters.bind fun parameters =>
        validateParametersAgainstDefinition
          parameters existing.definitionParameterSchema) = none ∧
        ∃ nextFireAt,
          patch.nextFireAt cron fromDate existing = some nextFireAt ∧
            written =
              { patch.merge existing with
                nextFireAt := nextFireAt
                state := stateOf (patch.merge existing).enabled
                updatedAt := updatedAt } := by
  unfold InstancePatch.row
  split
  · rename_i message invalid
    simp [invalid]
  · rename_i valid
    split
    · rename_i unparsed
      simp [unparsed]
    · rename_i nextFireAt computed
      simp [valid, computed, eq_comm]

/-- A patched row is active exactly when it is enabled. -/
theorem InstancePatch.row_state
    {patch : InstancePatch}
    {cron : CronParser}
    {fromDate updatedAt : Timestamp}
    {existing written : JobInstance}
    (patched : patch.row cron fromDate updatedAt existing = .ok written) :
    written.enabled = patch.enabled.getD existing.enabled ∧
      written.state = stateOf written.enabled := by
  obtain ⟨-, nextFireAt, -, rfl⟩ := InstancePatch.row_eq_ok.mp patched
  exact ⟨rfl, rfl⟩

end IgaScheduler

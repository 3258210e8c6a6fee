namespace IgaScheduler

/-!
# Values stored in the scheduler's tables
-/

/-- A JSON value; numbers are decimal, `mantissa * 10 ^ -exponent`. -/
inductive Json where
  | null
  | bool (value : Bool)
  | num (mantissa : Int) (exponent : Nat)
  | str (value : String)
  | arr (items : List Json)
  | obj (fields : List (String × Json))

mutual

/-- PostgreSQL takes a text, alone or in `jsonb`, without null characters. -/
def withoutNull : Json → Bool
  | .str text => '\x00' ∉ text.toList
  | .arr items => withoutNullItems items
  | .obj fields => withoutNullFields fields
  | _ => true

def withoutNullItems : List Json → Bool
  | [] => true
  | item :: rest => withoutNull item && withoutNullItems rest

def withoutNullFields : List (String × Json) → Bool
  | [] => true
  | (name, value) :: rest =>
      '\x00' ∉ name.toList && withoutNull value && withoutNullFields rest

end

/-- An instant in milliseconds since the epoch, as `Date.getTime` counts. -/
abbrev Timestamp := Int

/-- A value of `randomUUID()`; it is never the empty string. -/
structure Uuid where
  text : String
  nonempty : text ≠ ""
  deriving DecidableEq

/-- The `type` of a declared parameter. -/
inductive ParameterType where
  | string
  | stringArray
  | sensitive
  deriving DecidableEq, Repr

/-- One entry of a definition's parameter schema. -/
structure JobParameter where
  name : String
  type : ParameterType
  required : Bool
  deriving DecidableEq, Repr

/-- A parameter value of an instance, tagged with its own type. -/
inductive ParameterValue where
  | string (value : String)
  | stringArray (value : List String)
  | sensitive (secretRef : String)
  deriving DecidableEq, Repr

/-- The parameters of an instance or a run, by name. -/
abbrev Parameters := List (String × ParameterValue)

/-- The `schedule` of an instance. -/
structure Schedule where
  type : String
  expression : Option String
  cron : Option String
  timezone : Option String
  deriving DecidableEq, Repr

/-- The `{ phase, message }` objects written to the `status` column. -/
def statusJson
    (phase message : String) :
    Json :=
  .obj [("phase", .str phase), ("message", .str message)]

/-- The `{ code, message }` objects written to the `error` column. -/
def errorJson
    (code message : String) :
    Json :=
  .obj [("code", .str code), ("message", .str message)]

/-- An `error` object that also says whether the failure may be retried. -/
def retryableErrorJson
    (code message : String)
    (retryable : Bool) :
    Json :=
  .obj [("code", .str code), ("message", .str message),
    ("retryable", .bool retryable)]

/-- A nullable `jsonb` column: `null` and an absent field both store `NULL`. -/
def jsonColumn : Option Json → Option Json
  | none => none
  | some .null => none
  | some value => some value

end IgaScheduler

import IgaScheduler.InstanceOperations
import IgaScheduler.PublicRuns
import IgaScheduler.SecretReferences

namespace IgaScheduler

/-!
# How a job reads its parameters

The two ways to resolve the parameters of a run, the `params` of the context
that a job is started with, and the typed readers of the SDKs for JavaScript
and Python.
-/

namespace ParameterReaders

open PublicRuns (parameterValueJson)

/-- The entries of the parameters of a run, as the column has them. -/
def entries (parameters : Parameters) : List (String × Json) :=
  parameters.map fun (name, value) => (name, parameterValueJson value)

/-! ## `LocalParameterResolver` -/

/-- `process.env[envKey] ?? value.secretRef ?? ""`. -/
def localSecret
    (env : String → Option String)
    (name : String)
    (secretRef : Option Json) :
    Json :=
  match env ("LOCAL_SECRET_" ++ JavaScript.toUpperCase name) with
  | some text => .str text
  | none =>
      match secretRef with
      | none | some .null => .str ""
      | some secretRef => secretRef

/-- What `resolved` gets under the name of an entry. -/
def localValue
    (env : String → Option String)
    (name : String)
    (parameter : Json) :
    Json :=
  match jsonField parameter "type" with
  | some (.str "sensitive") =>
      localSecret env name (jsonField parameter "secretRef")
  | _ => parameter

/-- `LocalParameterResolver.resolveParameters`. -/
def resolveLocally
    (env : String → Option String)
    (parameters : List (String × Json)) :
    List (String × Json) :=
  parameters.filterMap fun (name, parameter) =>
    if name = "__proto__" then none
    else some (name, localValue env name parameter)

/-! ## The context of a job -/

/-- The letters of code units without lone surrogates. -/
def letters : List Nat → List Char
  | high :: low :: rest =>
      if 0xD800 ≤ high && high < 0xDC00 then
        Char.ofNat (0x10000 + (high - 0xD800) * 0x400 + (low - 0xDC00)) ::
          letters rest
      else
        Char.ofNat high :: letters (low :: rest)
  | [unit] => [Char.ofNat unit]
  | [] => []

/-- A resolved value in the context file; `undefined` is left out of it. -/
def resolvedJson : ResolvedParameter → Option Json
  | .secret text => some (.str (String.ofList (letters text)))
  | .value value => value

/-- The `params` of the context that a run is started with. -/
def contextParams
    (resolved : List (String × ResolvedParameter)) :
    List (String × Json) :=
  resolved.filterMap fun (name, value) =>
    (resolvedJson value).map fun value => (name, value)

/-! ## `createParameterReader` -/

/-- A value of JavaScript that a reader comes across. -/
inductive JsValue where
  | undefined
  | json (value : Json)
  /-- What every object inherits under this name. -/
  | inherited (name : String)

/-- `params[name]`. -/
def property (params : List (String × Json)) (name : String) : JsValue :=
  match params.lookup name with
  | some value => .json value
  | none =>
      if name ∈ JavaScript.objectPrototypeNames then .inherited name
      else .undefined

/-- `parameterError(code, message)`. -/
structure ParameterError where
  code : String
  message : String
  deriving DecidableEq

def missing (name : String) : ParameterError :=
  ⟨"RUNTIME_PARAMETER_REQUIRED",
    "required runtime parameter is missing: " ++ name⟩

def invalid (name type : String) : ParameterError :=
  ⟨"RUNTIME_PARAMETER_TYPE_INVALID",
    "runtime parameter " ++ name ++ " must be a " ++ type⟩

/-- `typeof value === "string"`. -/
def JsValue.isString : JsValue → Bool
  | .json (.str _) => true
  | _ => false

/-- `Array.isArray(value) && value.every((item) => typeof item === "string")`. -/
def JsValue.isStringArray : JsValue → Bool
  | .json (.arr items) =>
      items.all fun
        | .str _ => true
        | _ => false
  | _ => false

section Reading

variable (params : List (String × Json))
variable (name : String)

def get (defaultValue : JsValue) : JsValue :=
  match property params name with
  | .undefined => defaultValue
  | value => value

def require : Except ParameterError JsValue :=
  match property params name with
  | .undefined => .error (missing name)
  | .json .null => .error (missing name)
  | .json (.str "") => .error (missing name)
  | value => .ok value

/-- `string(name, defaultValue)` and `stringArray(name, defaultValue)`. -/
def optional
    (accepts : JsValue → Bool)
    (type : String)
    (defaultValue : JsValue) :
    Except ParameterError JsValue :=
  match get params name defaultValue with
  | .undefined => .ok .undefined
  | value => if accepts value then .ok value else .error (invalid name type)

/-- `requiredString(name)` and `requiredStringArray(name)`. -/
def required
    (accepts : JsValue → Bool)
    (type : String) :
    Except ParameterError JsValue := do
  let value ← require params name
  if accepts value then .ok value else .error (invalid name type)

def string (defaultValue : JsValue) : Except ParameterError JsValue :=
  optional params name JsValue.isString "string" defaultValue

def requiredString : Except ParameterError JsValue :=
  required params name JsValue.isString "string"

def stringArray (defaultValue : JsValue) : Except ParameterError JsValue :=
  optional params name JsValue.isStringArray "string array" defaultValue

def requiredStringArray : Except ParameterError JsValue :=
  required params name JsValue.isStringArray "string array"

end Reading

/-- A call of the reader of a context. -/
inductive ReaderCall where
  | get (name : String) (defaultValue : JsValue)
  | require (name : String)
  | string (name : String) (defaultValue : JsValue)
  | requiredString (name : String)
  | stringArray (name : String) (defaultValue : JsValue)
  | requiredStringArray (name : String)

def ReaderCall.read
    (params : List (String × Json)) :
    ReaderCall → Except ParameterError JsValue
  | .get name defaultValue => .ok (ParameterReaders.get params name defaultValue)
  | .require name => ParameterReaders.require params name
  | .string name defaultValue =>
      ParameterReaders.string params name defaultValue
  | .requiredString name => ParameterReaders.requiredString params name
  | .stringArray name defaultValue =>
      ParameterReaders.stringArray params name defaultValue
  | .requiredStringArray name =>
      ParameterReaders.requiredStringArray params name

/-! ## `ParameterReader` of the SDK for Python -/

namespace Python

/-- Whether a value counts as true; an empty container does not. -/
def truthy : Json → Bool
  | .null => false
  | .bool value => value
  | .num mantissa _ => mantissa ≠ 0
  | .str value => value ≠ ""
  | .arr items => items ≠ []
  | .obj fields => fields ≠ []

section Reading

variable (params : List (String × Json))
variable (name : String)

/-- `required_string`; what is raised is a `ValueError` with this message. -/
def requiredString : Except String Json :=
  let refused :=
    Except.error ("missing required string parameter: " ++ name)
  match params.lookup name with
  | some (.str value) =>
      if truthy (.str value) then .ok (.str value) else refused
  | _ => refused

/-- `required_string_array`. -/
def requiredStringArray : Except String Json :=
  let refused :=
    Except.error ("missing required string array parameter: " ++ name)
  match params.lookup name with
  | some (.arr items) =>
      if truthy (.arr items) then .ok (.arr items) else refused
  | _ => refused

end Reading

end Python

/-! ## What the readers return -/

section Reading

variable {params : List (String × Json)}
variable {name type : String}
variable {accepts : JsValue → Bool}

theorem required_eq_ok
    {value : JsValue} :
    required params name accepts type = .ok value ↔
      require params name = .ok value ∧ accepts value = true := by
  unfold required
  rw [JavaScript.bind_eq_ok]
  constructor
  · rintro ⟨found, isFound, passed⟩
    split at passed
    · rename_i accepted
      cases passed
      exact ⟨isFound, accepted⟩
    · cases passed
  · rintro ⟨isFound, accepted⟩
    exact ⟨value, isFound, if_pos accepted⟩

/-- What `require` returns is no missing value. -/
theorem require_eq_ok_json
    {value : Json} :
    require params name = .ok (.json value) ↔
      params.lookup name = some value ∧ value ≠ .null ∧ value ≠ .str "" := by
  unfold require property
  cases params.lookup name with
  | none =>
      dsimp only
      constructor
      · intro returned
        by_cases inherits : name ∈ JavaScript.objectPrototypeNames
        · rw [if_pos inherits] at returned
          cases returned
        · rw [if_neg inherits] at returned
          cases returned
      · rintro ⟨impossible, -⟩
        cases impossible
  | some found =>
      dsimp only
      constructor
      · intro returned
        split at returned
        · cases returned
        · cases returned
        · cases returned
        · rename_i notNull notEmpty
          cases returned
          refine ⟨rfl, ?_, ?_⟩
          · rintro rfl
            exact notNull rfl
          · rintro rfl
            exact notEmpty rfl
      · rintro ⟨same, notNull, notEmpty⟩
        cases same
        split
        · rename_i impossible
          cases impossible
        · rename_i isNull
          cases isNull
          exact (notNull rfl).elim
        · rename_i isEmpty
          cases isEmpty
          exact (notEmpty rfl).elim
        · rfl

theorem isString_iff
    {value : JsValue} :
    value.isString = true ↔ ∃ text, value = .json (.str text) := by
  constructor
  · intro accepted
    unfold JsValue.isString at accepted
    split at accepted
    · exact ⟨_, rfl⟩
    · cases accepted
  · rintro ⟨text, rfl⟩
    rfl

/-- A list of texts, as JSON. -/
def AreTexts (items : List Json) : Prop :=
  ∀ item ∈ items, ∃ text, item = .str text

theorem isStringArray_iff
    {value : JsValue} :
    value.isStringArray = true ↔
      ∃ items, AreTexts items ∧ value = .json (.arr items) := by
  constructor
  · intro accepted
    unfold JsValue.isStringArray at accepted
    split at accepted
    · rename_i items
      refine ⟨items, ?_, rfl⟩
      intro item member
      have isText := List.all_eq_true.mp accepted item member
      split at isText
      · exact ⟨_, rfl⟩
      · cases isText
    · cases accepted
  · rintro ⟨items, texts, rfl⟩
    apply List.all_eq_true.mpr
    intro item member
    obtain ⟨text, rfl⟩ := texts item member
    rfl

theorem requiredString_eq_ok
    {value : JsValue} :
    requiredString params name = .ok value ↔
      ∃ text,
        text ≠ "" ∧ params.lookup name = some (.str text) ∧
          value = .json (.str text) := by
  unfold requiredString
  rw [required_eq_ok, isString_iff]
  constructor
  · rintro ⟨returned, text, rfl⟩
    obtain ⟨found, -, notEmpty⟩ := require_eq_ok_json.mp returned
    refine ⟨text, ?_, found, rfl⟩
    rintro rfl
    exact notEmpty rfl
  · rintro ⟨text, nonempty, found, rfl⟩
    refine ⟨require_eq_ok_json.mpr ⟨found, nofun, ?_⟩, text, rfl⟩
    intro same
    exact nonempty (Json.str.inj same)

theorem requiredStringArray_eq_ok
    {value : JsValue} :
    requiredStringArray params name = .ok value ↔
      ∃ items,
        AreTexts items ∧ params.lookup name = some (.arr items) ∧
          value = .json (.arr items) := by
  unfold requiredStringArray
  rw [required_eq_ok, isStringArray_iff]
  constructor
  · rintro ⟨returned, items, texts, rfl⟩
    exact ⟨items, texts, (require_eq_ok_json.mp returned).1, rfl⟩
  · rintro ⟨items, texts, found, rfl⟩
    exact ⟨require_eq_ok_json.mpr ⟨found, nofun, nofun⟩, items, texts, rfl⟩

theorem Python.requiredString_eq_ok
    {value : Json} :
    Python.requiredString params name = .ok value ↔
      ∃ text,
        text ≠ "" ∧ params.lookup name = some (.str text) ∧
          value = .str text := by
  unfold Python.requiredString
  constructor
  · intro returned
    dsimp only at returned
    split at returned
    · rename_i text found
      split at returned
      · rename_i nonempty
        cases returned
        exact ⟨text, of_decide_eq_true nonempty, found, rfl⟩
      · cases returned
    · cases returned
  · rintro ⟨text, nonempty, found, rfl⟩
    rw [found]
    exact if_pos (decide_eq_true nonempty)

theorem Python.requiredStringArray_eq_ok
    {value : Json} :
    Python.requiredStringArray params name = .ok value ↔
      ∃ items,
        items ≠ [] ∧ params.lookup name = some (.arr items) ∧
          value = .arr items := by
  unfold Python.requiredStringArray
  constructor
  · intro returned
    dsimp only at returned
    split at returned
    · rename_i items found
      split at returned
      · rename_i nonempty
        cases returned
        exact ⟨items, of_decide_eq_true nonempty, found, rfl⟩
      · cases returned
    · cases returned
  · rintro ⟨items, nonempty, found, rfl⟩
    rw [found]
    exact if_pos (decide_eq_true nonempty)

end Reading

/-! ## What the resolvers leave of a parameter -/

theorem lookup_entries
    (parameters : Parameters)
    (name : String) :
    (entries parameters).lookup name =
      (parameters.lookup name).map parameterValueJson := by
  induction parameters with
  | nil =>
      rfl
  | cons entry rest inductionHypothesis =>
      obtain ⟨first, value⟩ := entry
      rw [entries, List.map_cons, List.lookup_cons, List.lookup_cons]
      split
      · rfl
      · exact inductionHypothesis

theorem lookup_resolveLocally
    {env : String → Option String}
    {parameters : List (String × Json)}
    {name : String}
    (ordinary : name ≠ "__proto__") :
    (resolveLocally env parameters).lookup name =
      (parameters.lookup name).map (localValue env name) := by
  induction parameters with
  | nil =>
      rfl
  | cons entry rest inductionHypothesis =>
      obtain ⟨first, parameter⟩ := entry
      unfold resolveLocally at inductionHypothesis ⊢
      rw [List.filterMap_cons, List.lookup_cons]
      dsimp only
      by_cases proto : first = "__proto__"
      · have different : (name == first) = false := by
          rw [proto]
          exact beq_eq_false_iff_ne.mpr ordinary
        rw [if_pos proto, different]
        exact inductionHypothesis
      · rw [if_neg proto]
        dsimp only
        rw [List.lookup_cons]
        split
        · rename_i same
          rw [eq_of_beq same]
          rfl
        · exact inductionHypothesis

/-- The value of a parameter that is no reference to a secret. -/
def plainValue : ParameterValue → Option Json
  | .string value => some (.str value)
  | .stringArray value => some (.arr (value.map .str))
  | .sensitive _ => none

/-- The loop of `resolveParameters` goes on behind an entry. -/
theorem resolveEntries_cons
    {resolver : SecretManagerParameterResolver}
    {Error : Type}
    {client : SecretManager Error}
    {name : String}
    {value : ParameterValue}
    {rest : List (String × Json)}
    {calls : List SecretAccess}
    {before resolved : List (String × ResolvedParameter)}
    (finished :
      (resolver.resolveEntries client ((name, parameterValueJson value) :: rest)
        calls before).outcome = .ok resolved) :
    ∃ later given,
      (resolver.resolveEntries client rest later
        (assignField before name given)).outcome = .ok resolved ∧
      ∀ plain, plainValue value = some plain → given = .value (some plain) := by
  cases value with
  | string text =>
      refine ⟨calls, .value (some (.str text)), finished, ?_⟩
      rintro _ ⟨⟩
      rfl
  | stringArray texts =>
      refine ⟨calls, .value (some (.arr (texts.map .str))), finished, ?_⟩
      rintro _ ⟨⟩
      rfl
  | sensitive secretRef =>
      have sensitive :
          jsonField (parameterValueJson (.sensitive secretRef)) "type" =
            some (.str "sensitive") := rfl
      rw [SecretManagerParameterResolver.resolveEntries] at finished
      split at finished
      · dsimp only at finished
        split at finished
        · cases finished
        · split at finished
          · cases finished
          · exact ⟨_, _, finished, nofun⟩
      · rename_i text
        have same := Option.some.inj (sensitive.symm.trans text)
        exact absurd (Json.str.inj same) (by decide)
      · rename_i texts
        have same := Option.some.inj (sensitive.symm.trans texts)
        exact absurd (Json.str.inj same) (by decide)
      · rename_i notSensitive _ _
        exact (notSensitive sensitive).elim

/-- A field that was there stays as it was. -/
theorem lookup_assignField_of_some
    {before : List (String × ResolvedParameter)}
    {name other : String}
    {found given : ResolvedParameter}
    (there : before.lookup name = some found) :
    (assignField before other given).lookup name = some found := by
  unfold assignField
  split
  · exact there
  · rw [List.lookup_append, there]
    rfl

theorem lookup_assignField_self
    {before : List (String × ResolvedParameter)}
    {name : String}
    {given : ResolvedParameter}
    (ordinary : name ≠ "__proto__")
    (absent : before.lookup name = none) :
    (assignField before name given).lookup name = some given := by
  unfold assignField
  rw [if_neg ordinary, List.lookup_append, absent, List.lookup_cons_self]
  rfl

theorem lookup_assignField_of_ne
    {before : List (String × ResolvedParameter)}
    {name other : String}
    {given : ResolvedParameter}
    (different : name ≠ other)
    (absent : before.lookup name = none) :
    (assignField before other given).lookup name = none := by
  unfold assignField
  split
  · exact absent
  · rw [List.lookup_append, absent, List.lookup_cons,
      beq_eq_false_iff_ne.mpr different]
    rfl

section Resolving

variable {resolver : SecretManagerParameterResolver}
variable {Error : Type}
variable {client : SecretManager Error}
variable {parameters : Parameters}
variable {calls : List SecretAccess}
variable {before resolved : List (String × ResolvedParameter)}

theorem lookup_resolveEntries_of_some
    {name : String}
    {found : ResolvedParameter}
    (finished :
      (resolver.resolveEntries client (entries parameters) calls
        before).outcome = .ok resolved)
    (there : before.lookup name = some found) :
    resolved.lookup name = some found := by
  induction parameters generalizing calls before with
  | nil =>
      cases finished
      exact there
  | cons entry rest inductionHypothesis =>
      obtain ⟨later, given, finishedLater, -⟩ := resolveEntries_cons finished
      exact inductionHypothesis finishedLater
        (lookup_assignField_of_some there)

/-- A string, or a list of strings, is resolved to itself. -/
theorem lookup_resolveEntries
    {name : String}
    {value : ParameterValue}
    {plain : Json}
    (finished :
      (resolver.resolveEntries client (entries parameters) calls
        before).outcome = .ok resolved)
    (ordinary : name ≠ "__proto__")
    (absent : before.lookup name = none)
    (given : parameters.lookup name = some value)
    (isPlain : plainValue value = some plain) :
    resolved.lookup name = some (.value (some plain)) := by
  induction parameters generalizing calls before with
  | nil =>
      cases given
  | cons entry rest inductionHypothesis =>
      obtain ⟨first, firstValue⟩ := entry
      obtain ⟨later, assigned, finishedLater, firstPlain⟩ :=
        resolveEntries_cons finished
      rw [List.lookup_cons] at given
      split at given
      · rename_i same
        cases eq_of_beq same
        cases given
        rw [← firstPlain plain isPlain]
        exact lookup_resolveEntries_of_some finishedLater
          (lookup_assignField_self ordinary absent)
      · rename_i different
        exact inductionHypothesis finishedLater
          (lookup_assignField_of_ne (beq_eq_false_iff_ne.mp different) absent)
          given

theorem lookup_contextParams
    {name : String}
    {value : ResolvedParameter}
    {written : Json}
    (found : resolved.lookup name = some value)
    (isWritten : resolvedJson value = some written) :
    (contextParams resolved).lookup name = some written := by
  induction resolved with
  | nil =>
      cases found
  | cons entry rest inductionHypothesis =>
      obtain ⟨first, firstValue⟩ := entry
      unfold contextParams at inductionHypothesis ⊢
      rw [List.lookup_cons] at found
      rw [List.filterMap_cons]
      split at found
      · rename_i same
        cases found
        dsimp only
        rw [isWritten, Option.map_some, List.lookup_cons, same]
      · rename_i different
        dsimp only
        cases resolvedJson firstValue with
        | none =>
            exact inductionHypothesis found
        | some firstWritten =>
            rw [Option.map_some, List.lookup_cons, different]
            exact inductionHypothesis found

/-- What the context of a run has under the name of such a parameter. -/
theorem lookup_params
    {name : String}
    {value : ParameterValue}
    {plain : Json}
    (finished :
      (resolver.resolveParameters client (entries parameters)).outcome =
        .ok resolved)
    (ordinary : name ≠ "__proto__")
    (given : parameters.lookup name = some value)
    (isPlain : plainValue value = some plain) :
    (contextParams resolved).lookup name = some plain :=
  lookup_contextParams
    (lookup_resolveEntries finished ordinary List.lookup_nil given isPlain) rfl

end Resolving

end ParameterReaders

end IgaScheduler

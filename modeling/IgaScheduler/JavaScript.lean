import Mathlib.Data.List.DropRight
import Mathlib.Tactic.IntervalCases
import IgaScheduler.Values

namespace IgaScheduler

/-!
# JavaScript on JSON values

The built-in conversions the services apply to values that came out of
`JSON.parse`.  A field that may be missing is an `Option Json`, whose `none`
is `undefined`.
-/

namespace JavaScript

/-- What follows a step that may throw runs on the step's result. -/
theorem bind_eq_ok
    {ε α β : Type}
    {first : Except ε α}
    {next : α → Except ε β}
    {result : β} :
    (first >>= next) = .ok result ↔
      ∃ middle, first = .ok middle ∧ next middle = .ok result := by
  cases first with
  | error failure =>
      constructor
      · intro impossible
        cases impossible
      · rintro ⟨middle, impossible, -⟩
        cases impossible
  | ok value =>
      constructor
      · intro ran
        exact ⟨value, rfl, ran⟩
      · rintro ⟨middle, same, ran⟩
        cases same
        exact ran

/-- Whether a value counts as true in a condition. -/
def truthy : Option Json → Bool
  | none => false
  | some .null => false
  | some (.bool value) => value
  | some (.num mantissa _) => mantissa ≠ 0
  | some (.str value) => value ≠ ""
  | some (.arr _) => true
  | some (.obj _) => true

@[simp] theorem truthy_obj (fields : List (String × Json)) :
    truthy (some (.obj fields)) = true :=
  rfl

/-- The names under which every object inherits something. -/
def objectPrototypeNames : List String :=
  ["__defineGetter__", "__defineSetter__", "__lookupGetter__",
    "__lookupSetter__", "__proto__", "constructor", "hasOwnProperty",
    "isPrototypeOf", "propertyIsEnumerable", "toLocaleString", "toString",
    "valueOf"]

/-- `text.startsWith(start)`. -/
def startsWith (text start : String) : Bool :=
  start.toList.isPrefixOf text.toList

/--
The upper-case form of a character.  Beside the letters of ASCII these are the
characters whose upper-case form is written in ASCII; the others keep a form
outside ASCII and stand for themselves.
-/
def upperCase : Char → List Char
  | 'ß' => ['S', 'S']
  | 'ı' => ['I']
  | 'ſ' => ['S']
  | 'ﬀ' => ['F', 'F']
  | 'ﬁ' => ['F', 'I']
  | 'ﬂ' => ['F', 'L']
  | 'ﬃ' => ['F', 'F', 'I']
  | 'ﬄ' => ['F', 'F', 'L']
  | 'ﬅ' => ['S', 'T']
  | 'ﬆ' => ['S', 'T']
  | letter => [letter.toUpper]

/-- `text.toUpperCase()`. -/
def toUpperCase (text : String) : String :=
  String.ofList (text.toList.flatMap upperCase)

/-! ## `String(value)` -/

/--
The decimal digits of a number without trailing zeros, and the power of ten
that `0.d₁d₂…` has to be multiplied with.
-/
def significant
    (magnitude exponent : Nat) :
    List Char × Int :=
  let digits := Nat.toDigits 10 magnitude
  (digits.rdropWhile (· == '0'), digits.length - exponent)

/-- The text of a positive number, with an exponent from `1e21` on. -/
def magnitudeText
    (digits : List Char)
    (point : Int) :
    List Char :=
  let count : Int := digits.length
  if count ≤ point ∧ point ≤ 21 then
    digits ++ List.replicate (point - count).toNat '0'
  else if 0 < point ∧ point ≤ 21 then
    digits.take point.toNat ++ '.' :: digits.drop point.toNat
  else if -6 < point ∧ point ≤ 0 then
    '0' :: '.' :: (List.replicate (-point).toNat '0' ++ digits)
  else
    let fraction :=
      match digits.drop 1 with
      | [] => []
      | rest => '.' :: rest
    let sign := if 0 < point - 1 then '+' else '-'
    digits.take 1 ++ fraction ++
      'e' :: sign :: Nat.toDigits 10 (point - 1).natAbs

/-- `String(number)` of the decimal number `mantissa * 10 ^ -exponent`. -/
def numberText
    (mantissa : Int)
    (exponent : Nat) :
    String :=
  if mantissa = 0 then
    "0"
  else
    let (digits, point) := significant mantissa.natAbs exponent
    let magnitude := magnitudeText digits point
    String.ofList (if mantissa < 0 then '-' :: magnitude else magnitude)

/-- A positive number has a digit other than zero. -/
theorem exists_digit
    {magnitude : Nat}
    (positive : 0 < magnitude) :
    ∃ digit ∈ Nat.toDigits 10 magnitude, digit ≠ '0' := by
  induction magnitude using Nat.strongRecOn with
  | _ magnitude inductionHypothesis =>
      by_cases small : magnitude < 10
      · refine ⟨_, by rw [Nat.toDigits_of_lt_base small,
          List.mem_singleton], ?_⟩
        interval_cases magnitude <;> decide
      · obtain ⟨digit, member, nonzero⟩ :=
          inductionHypothesis (magnitude / 10) (by omega) (by omega)
        refine ⟨digit, ?_, nonzero⟩
        rw [Nat.toDigits_of_base_le (by decide) (by omega)]
        exact List.mem_append_left _ member

theorem significant_ne_nil
    {magnitude : Nat}
    (positive : 0 < magnitude)
    (exponent : Nat) :
    (significant magnitude exponent).1 ≠ [] := by
  obtain ⟨digit, member, nonzero⟩ := exists_digit positive
  intro empty
  have zeros := List.rdropWhile_eq_nil_iff.mp empty
  exact nonzero (by simpa using zeros digit member)

theorem magnitudeText_ne_nil
    {digits : List Char}
    (nonempty : digits ≠ [])
    (point : Int) :
    magnitudeText digits point ≠ [] := by
  unfold magnitudeText
  simp only
  split
  · simp [nonempty]
  · split
    · simp
    · split <;> simp

/-- No number is shown as the empty string. -/
theorem numberText_ne_empty
    (mantissa : Int)
    (exponent : Nat) :
    numberText mantissa exponent ≠ "" := by
  unfold numberText
  split
  · decide
  · rename_i nonzero
    have digits :=
      significant_ne_nil (Int.natAbs_pos.mpr nonzero) exponent
    intro empty
    have letters := congrArg String.toList empty
    simp only [String.toList_ofList] at letters
    split at letters
    · cases letters
    · exact magnitudeText_ne_nil digits _ letters

mutual

/-- `String(value)`. -/
def text : Json → String
  | .null => "null"
  | .bool value => if value then "true" else "false"
  | .num mantissa exponent => numberText mantissa exponent
  | .str value => value
  | .arr items => ",".intercalate (itemTexts items)
  | .obj _ => "[object Object]"

/-- What `items.join()` joins: a `null` leaves its place empty. -/
def itemTexts : List Json → List String
  | [] => []
  | .null :: rest => "" :: itemTexts rest
  | item :: rest => text item :: itemTexts rest

end

/-! ## `parseInt(text, 10)` -/

/-- What counts as white space in front of a number. -/
def isWhiteSpace (letter : Char) : Bool :=
  letter.toNat ∈ [9, 10, 11, 12, 13, 32, 160, 5760, 8232, 8233, 8239, 8287,
    12288, 65279] ||
    8192 ≤ letter.toNat && letter.toNat ≤ 8202

/-- `parseInt(text, 10)`; `none` is `NaN`. -/
def parseInt (text : String) : Option Int :=
  let trimmed := text.toList.dropWhile isWhiteSpace
  let (negative, rest) :=
    match trimmed with
    | '-' :: rest => (true, rest)
    | '+' :: rest => (false, rest)
    | rest => (false, rest)
  let digits := rest.takeWhile Char.isDigit
  let magnitude : Int :=
    digits.foldl (fun value digit => value * 10 + (digit.toNat - 48)) 0
  if digits = [] then none
  else some (if negative then -magnitude else magnitude)

/-! ## `JSON.stringify(value)` -/

/-- A character inside a quoted string. -/
def quotedChar (letter : Char) : List Char :=
  if letter = '"' then ['\\', '"']
  else if letter = '\\' then ['\\', '\\']
  else if letter = '\x08' then ['\\', 'b']
  else if letter = '\x0c' then ['\\', 'f']
  else if letter = '\n' then ['\\', 'n']
  else if letter = '\r' then ['\\', 'r']
  else if letter = '\t' then ['\\', 't']
  else if letter.toNat < 32 then
    ['\\', 'u', '0', '0', Nat.digitChar (letter.toNat / 16),
      Nat.digitChar (letter.toNat % 16)]
  else [letter]

def quoted (value : String) : String :=
  String.ofList ('"' :: value.toList.flatMap quotedChar ++ ['"'])

mutual

/-- `JSON.stringify(value)`. -/
def stringify : Json → String
  | .null => "null"
  | .bool value => if value then "true" else "false"
  | .num mantissa exponent => numberText mantissa exponent
  | .str value => quoted value
  | .arr items => "[" ++ ",".intercalate (stringifyItems items) ++ "]"
  | .obj fields => "\x7b" ++ ",".intercalate (stringifyFields fields) ++ "\x7d"

def stringifyItems : List Json → List String
  | [] => []
  | item :: rest => stringify item :: stringifyItems rest

def stringifyFields : List (String × Json) → List String
  | [] => []
  | (name, value) :: rest =>
      (quoted name ++ ":" ++ stringify value) :: stringifyFields rest

end

/-- The lines between two brackets, and the line of the closing one. -/
def bracketed
    (opening closing indent : String)
    (lines : List String) :
    String :=
  if lines.isEmpty then
    opening ++ closing
  else
    opening ++ "\n" ++ ",\n".intercalate lines ++ "\n" ++ indent ++ closing

mutual

/-- `JSON.stringify(value, null, 2)`, where the indentation has got so far. -/
def stringifyIndented (indent : String) : Json → String
  | .arr items =>
      bracketed "[" "]" indent (stringifyItemLines (indent ++ "  ") items)
  | .obj fields =>
      bracketed "\x7b" "\x7d" indent
        (stringifyFieldLines (indent ++ "  ") fields)
  | value => stringify value

def stringifyItemLines (indent : String) : List Json → List String
  | [] => []
  | item :: rest =>
      (indent ++ stringifyIndented indent item) ::
        stringifyItemLines indent rest

def stringifyFieldLines
    (indent : String) :
    List (String × Json) → List String
  | [] => []
  | (name, value) :: rest =>
      (indent ++ quoted name ++ ": " ++ stringifyIndented indent value) ::
        stringifyFieldLines indent rest

end

/-- `Buffer.byteLength(JSON.stringify(value), "utf8")`. -/
def byteLength (value : Json) : Nat :=
  (stringify value).utf8ByteSize

end JavaScript

end IgaScheduler

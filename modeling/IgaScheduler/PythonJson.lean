import IgaScheduler.JsonPrinter

namespace IgaScheduler

/-!
# `json.dumps(value)` of Python

The text that Python prints for a value is of printable ASCII, and JavaScript
reads it as the value.  A number with a fraction is a `float`, any other an
`int`; `NaN` and the infinities are no values.
-/

namespace PythonJson

open JavaScript
open Utf8Chunks (codeUnits utf16)

/-- The digits of an exponent: at least two. -/
def exponentDigits (exponent : Nat) : List Char :=
  if exponent < 10 then '0' :: Nat.toDigits 10 exponent
  else Nat.toDigits 10 exponent

/-- `repr` of a positive `float`. -/
def floatText
    (digits : List Char)
    (point : Int) :
    List Char :=
  let count : Int := digits.length
  if -4 < point ∧ point ≤ 0 then
    '0' :: '.' :: (List.replicate (-point).toNat '0' ++ digits)
  else if 0 < point ∧ point < count ∧ point ≤ 16 then
    digits.take point.toNat ++ '.' :: digits.drop point.toNat
  else if 0 < point ∧ point ≤ 16 then
    digits ++ List.replicate (point - count).toNat '0' ++ ['.', '0']
  else
    let fraction :=
      match digits.drop 1 with
      | [] => []
      | rest => '.' :: rest
    let sign := if 0 < point - 1 then '+' else '-'
    digits.take 1 ++ fraction ++
      'e' :: sign :: exponentDigits (point - 1).natAbs

/-- `int.__repr__` or `float.__repr__`. -/
def numberText
    (mantissa : Int)
    (exponent : Nat) :
    List Char :=
  let magnitude :=
    if exponent = 0 then
      Nat.toDigits 10 mantissa.natAbs
    else
      let (digits, point) := significant mantissa.natAbs exponent
      floatText digits point
  if mantissa < 0 then '-' :: magnitude else magnitude

/-- `\uXXXX`. -/
def escapedUnit (unit : Nat) : List Char :=
  ['\\', 'u', Nat.digitChar (unit / 4096), Nat.digitChar (unit / 256 % 16),
    Nat.digitChar (unit / 16 % 16), Nat.digitChar (unit % 16)]

/-- A character inside a quoted string, with `ensure_ascii`. -/
def quotedChar (letter : Char) : List Char :=
  if letter = '"' then ['\\', '"']
  else if letter = '\\' then ['\\', '\\']
  else if letter = '\n' then ['\\', 'n']
  else if letter = '\r' then ['\\', 'r']
  else if letter = '\t' then ['\\', 't']
  else if letter = '\x0c' then ['\\', 'f']
  else if letter = '\x08' then ['\\', 'b']
  else if 32 ≤ letter.toNat ∧ letter.toNat ≤ 126 then [letter]
  else (codeUnits letter.toNat).flatMap escapedUnit

def quoted (value : String) : List Char :=
  '"' :: (value.toList.flatMap quotedChar ++ ['"'])

mutual

/-- `json.dumps(value)`. -/
def dumps : Json → List Char
  | .null => "null".toList
  | .bool true => "true".toList
  | .bool false => "false".toList
  | .num mantissa exponent => numberText mantissa exponent
  | .str value => quoted value
  | .arr items => '[' :: (dumpsItems items ++ [']'])
  | .obj fields => '\x7b' :: (dumpsFields fields ++ ['\x7d'])

/-- The items, joined by `", "`. -/
def dumpsItems : List Json → List Char
  | [] => []
  | [item] => dumps item
  | item :: next :: rest => dumps item ++ ',' :: ' ' :: dumpsItems (next :: rest)

/-- The fields, joined by `", "`. -/
def dumpsFields : List (String × Json) → List Char
  | [] => []
  | [(name, value)] => quoted name ++ ':' :: ' ' :: dumps value
  | (name, value) :: next :: rest =>
      quoted name ++ ':' :: ' ' :: (dumps value ++
        ',' :: ' ' :: dumpsFields (next :: rest))

end

/-! ## The value that JavaScript reads -/

mutual

/-- Every number has one form. -/
def lowest : Json → Bool
  | .num mantissa exponent => decide (InLowestTerms mantissa exponent)
  | .arr items => lowestItems items
  | .obj fields => lowestFields fields
  | _ => true

def lowestItems : List Json → Bool
  | [] => true
  | item :: rest => lowest item && lowestItems rest

def lowestFields : List (String × Json) → Bool
  | [] => true
  | (_, value) :: rest => lowest value && lowestFields rest

end

mutual

/-- A dictionary is read as an object, whose fields are in its own order. -/
def asRead : Json → Json
  | .arr items => .arr (asReadItems items)
  | .obj fields => .obj (fromEntries (asReadFields fields))
  | value => value

def asReadItems : List Json → List Json
  | [] => []
  | item :: rest => asRead item :: asReadItems rest

def asReadFields : List (String × Json) → List (String × Json)
  | [] => []
  | (name, value) :: rest => (name, asRead value) :: asReadFields rest

end

/-! ## Numbers -/

theorem digitsValue_cons_zero (digits : List Char) :
    digitsValue ('0' :: digits) = digitsValue digits :=
  zeros_digitsValue digits 1

theorem exponentDigits_spec (exponent : Nat) :
    Digits (exponentDigits exponent) ∧
      digitsValue (exponentDigits exponent) = exponent := by
  have plain := digits_toDigits exponent
  have value : digitsValue (Nat.toDigits 10 exponent) = exponent :=
    Nat.ofDigitChars_ten_toDigits
  unfold exponentDigits
  split
  · refine ⟨⟨List.cons_ne_nil _ _, ?_⟩, ?_⟩
    · exact List.forall_mem_cons.mpr ⟨by decide, plain.2⟩
    · rw [digitsValue_cons_zero, value]
  · exact ⟨plain, value⟩

theorem exponent_exponentDigits (exponent : Int) :
    Exponent
      ('e' :: (if 0 < exponent then '+' else '-') ::
        exponentDigits exponent.natAbs)
      exponent := by
  obtain ⟨valid, value⟩ := exponentDigits_spec exponent.natAbs
  by_cases positive : 0 < exponent
  · rw [if_pos positive]
    have read : ((exponent.natAbs : Nat) : Int) = exponent := by omega
    have written := @Exponent.positive 'e' _ (.inl rfl) valid
    rw [value, read] at written
    exact written
  · rw [if_neg positive]
    have read : -((exponent.natAbs : Nat) : Int) = exponent := by omega
    have written := @Exponent.negative 'e' _ (.inl rfl) valid
    rw [value, read] at written
    exact written

section Floats

variable {digits : List Char}
variable (valid : Digits digits)
variable (leading : digits.head? ≠ some '0')
include valid leading

/-- An integral `float` ends with `.0`. -/
theorem shows_integral
    {point : Int}
    (after : digits.length ≤ point) :
    Shows
      (digits ++ List.replicate (point - digits.length).toNat '0' ++
        ['.', '0'])
      digits point := by
  have zero : Digits ['0'] := ⟨by simp, by simp⟩
  refine ⟨_, _, _, [], 0, whole_append valid leading _ (zeros_isDigit _),
    .present zero, .absent, by rw [List.append_nil], ?_⟩
  have zeros :
      digits ++ List.replicate (point - digits.length).toNat '0' ++ ['0'] =
        digits ++
          List.replicate ((point - digits.length).toNat + 1) '0' := by
    rw [List.append_assoc, List.replicate_succ']
  rw [zeros, digitsValue_zeros, decimal_pow]
  congr 1
  simp only [List.length_singleton]
  omega

theorem shows_floatText (point : Int) :
    Shows (floatText digits point) digits point := by
  unfold floatText
  dsimp only
  split
  · rename_i small
    exact shows_small valid small.2
  split
  · rename_i fraction
    exact shows_fraction valid leading fraction.1 fraction.2.1
  split
  · rename_i notFraction integral
    exact shows_integral valid leading (by omega)
  · refine ⟨_, _, _, _, _, whole_take valid leading (by decide : 0 < 1),
      fraction_drop valid, exponent_exponentDigits (point - 1),
      List.append_assoc .., ?_⟩
    obtain ⟨first, more, rfl, -⟩ := valid.exists_cons
    rw [List.take_append_drop, List.length_drop, List.length_cons]
    congr 1
    omega

end Floats

theorem numeral_numberText
    {mantissa : Int}
    {exponent : Nat}
    (lowest : InLowestTerms mantissa exponent) :
    Numeral (numberText mantissa exponent) (.num mantissa exponent) := by
  unfold numberText
  dsimp only
  by_cases integral : exponent = 0
  · rw [if_pos integral]
    refine numeral_of_shows (shows_toDigits mantissa.natAbs) ?_
    have value :
        digitsValue (Nat.toDigits 10 mantissa.natAbs) = mantissa.natAbs :=
      Nat.ofDigitChars_ten_toDigits
    rw [value, Int.sub_self, integral, decimal]
    simp [lowestTerms]
  · rw [if_neg integral]
    have nonzero : mantissa ≠ 0 := by
      rintro rfl
      unfold InLowestTerms at lowest
      rw [Int.natAbs_zero, lowestTerms_zero] at lowest
      exact integral (congrArg Prod.snd lowest).symm
    cases shown : significant mantissa.natAbs exponent with
    | mk digits point =>
        obtain ⟨valid, leading, value⟩ :=
          significant_value nonzero lowest shown
        exact numeral_of_shows (shows_floatText valid leading point) value

/-! ## Strings -/

theorem hexUnit?_escaped
    {unit : Nat}
    (small : unit < 65536) :
    hexUnit? (Nat.digitChar (unit / 4096)) (Nat.digitChar (unit / 256 % 16))
        (Nat.digitChar (unit / 16 % 16)) (Nat.digitChar (unit % 16)) =
      some unit := by
  have first := @hexDigit?_digitChar (unit / 4096) (by omega)
  have second := @hexDigit?_digitChar (unit / 256 % 16) (by omega)
  have third := @hexDigit?_digitChar (unit / 16 % 16) (by omega)
  have fourth := @hexDigit?_digitChar (unit % 16) (by omega)
  rw [hexUnit?, first, second, third, fourth]
  dsimp only [Option.bind_eq_bind, Option.bind_some]
  exact congrArg some (by omega)

theorem units_escapedUnits
    {codes : List Nat}
    (small : ∀ unit ∈ codes, unit < 65536)
    {text : List Char}
    {units : List Nat}
    (rest : Units text units) :
    Units (codes.flatMap escapedUnit ++ text) (codes ++ units) := by
  induction codes with
  | nil =>
      exact rest
  | cons unit codes inductionHypothesis =>
      rw [List.forall_mem_cons] at small
      rw [List.flatMap_cons, List.append_assoc]
      exact .hexadecimal (hexUnit?_escaped small.1)
        (inductionHypothesis small.2)

theorem codeUnits_small (letter : Char) :
    ∀ unit ∈ codeUnits letter.toNat, unit < 65536 := by
  have valid := letter.valid
  unfold UInt32.isValidChar Nat.isValidChar at valid
  have scalar :
      letter.toNat < 0xD800 ∨ 0xDFFF < letter.toNat ∧ letter.toNat < 0x110000 :=
    valid
  intro unit member
  unfold codeUnits at member
  split at member
  · rw [List.mem_singleton] at member
    omega
  · simp only [List.mem_cons, List.not_mem_nil, or_false] at member
    omega

/-- A letter in quotes is read as itself. -/
theorem units_quotedChar
    (letter : Char)
    {text : List Char}
    {units : List Nat}
    (rest : Units text units) :
    Units (quotedChar letter ++ text) (codeUnits letter.toNat ++ units) := by
  unfold quotedChar
  split
  · rename_i quote
    subst quote
    exact @Units.escape _ 34 _ _ rfl rest
  split
  · rename_i backslash
    subst backslash
    exact @Units.escape _ 92 _ _ rfl rest
  split
  · rename_i newline
    subst newline
    exact @Units.escape _ 10 _ _ rfl rest
  split
  · rename_i carriageReturn
    subst carriageReturn
    exact @Units.escape _ 13 _ _ rfl rest
  split
  · rename_i tab
    subst tab
    exact @Units.escape _ 9 _ _ rfl rest
  split
  · rename_i formFeed
    subst formFeed
    exact @Units.escape _ 12 _ _ rfl rest
  split
  · rename_i backspace
    subst backspace
    exact @Units.escape _ 8 _ _ rfl rest
  rename_i noQuote noBackslash _ _ _ _ _
  split
  · rename_i plain
    exact .letter noQuote noBackslash plain.1 rest
  · exact units_escapedUnits (codeUnits_small letter) rest

theorem quotes_quoted (value : String) :
    Quotes (quoted value) value := by
  have inside (text : List Char) :
      Units (text.flatMap quotedChar) (utf16 text) := by
    induction text with
    | nil =>
        exact .nil
    | cons letter rest inductionHypothesis =>
        rw [List.flatMap_cons, utf16, List.flatMap_cons]
        exact units_quotedChar letter inductionHypothesis
  exact .string (inside _) (scalars?_utf16 _)

/-! ## Values -/

theorem blank_space : Blank [' '] := by
  simp [Blank, isBlank]

/-- A text behind a space. -/
theorem writes_spaced
    {text : List Char}
    {value : Json}
    (written : Writes text value) :
    Writes (' ' :: text) value := by
  have padded := Writes.padded blank_space written blank_nil
  rw [List.append_nil] at padded
  exact padded

/-- A space in front of items belongs to the first of them. -/
theorem writesItems_spaced
    {text : List Char}
    {items : List Json}
    (written : WritesItems text items) :
    WritesItems (' ' :: text) items := by
  cases written with
  | last inside =>
      exact .last (writes_spaced inside)
  | cons first others =>
      exact .cons (writes_spaced first) others

theorem writesFields_spaced
    {text : List Char}
    {fields : List (String × Json)}
    (written : WritesFields text fields) :
    WritesFields (' ' :: text) fields := by
  cases written with
  | last leading named trailing inside =>
      exact .last (blank_space.append leading) named trailing inside
  | cons leading named trailing inside others =>
      exact .cons (blank_space.append leading) named trailing inside others

mutual

theorem writes_dumps :
    ∀ {value : Json}, lowest value = true →
      Writes (dumps value) (asRead value)
  | .null, _ => .null
  | .bool true, _ => .yes
  | .bool false, _ => .no
  | .num _ _, valid => .number (numeral_numberText (of_decide_eq_true valid))
  | .str value, _ => .string (quotes_quoted value)
  | .arr [], _ => Writes.emptyArray blank_nil
  | .arr (item :: items), valid =>
      .array (writesItems_dumps (List.cons_ne_nil _ _) valid)
  | .obj [], _ => by
      rw [asRead, asReadFields, fromEntries_eq List.Pairwise.nil]
      exact .emptyObject blank_nil
  | .obj (field :: fields), valid =>
      .object (writesFields_dumps (List.cons_ne_nil _ _) valid)

theorem writesItems_dumps :
    ∀ {items : List Json}, items ≠ [] → lowestItems items = true →
      WritesItems (dumpsItems items) (asReadItems items)
  | [], nonempty, _ => absurd rfl nonempty
  | [item], _, valid => by
      rw [lowestItems, Bool.and_eq_true] at valid
      exact .last (writes_dumps valid.1)
  | item :: next :: items, _, valid => by
      rw [lowestItems, Bool.and_eq_true] at valid
      exact .cons (writes_dumps valid.1)
        (writesItems_spaced
          (writesItems_dumps (List.cons_ne_nil _ _) valid.2))

theorem writesFields_dumps :
    ∀ {fields : List (String × Json)}, fields ≠ [] →
      lowestFields fields = true →
        WritesFields (dumpsFields fields) (asReadFields fields)
  | [], nonempty, _ => absurd rfl nonempty
  | [(name, value)], _, valid => by
      rw [lowestFields, Bool.and_eq_true] at valid
      exact .last blank_nil (quotes_quoted name) blank_nil
        (writes_spaced (writes_dumps valid.1))
  | (name, value) :: next :: fields, _, valid => by
      rw [lowestFields, Bool.and_eq_true] at valid
      exact .cons blank_nil (quotes_quoted name) blank_nil
        (writes_spaced (writes_dumps valid.1))
        (writesFields_spaced
          (writesFields_dumps (List.cons_ne_nil _ _) valid.2))

end

/-- `JSON.parse(json.dumps(value))`. -/
theorem parse_dumps
    {value : Json}
    (valid : lowest value = true) :
    parse (dumps value) = some (asRead value) :=
  parse_of_writes (writes_dumps valid)

/-! ## Printable ASCII -/

/-- Every letter is one of ASCII that is shown, or a space. -/
def Printable (text : List Char) : Prop :=
  ∀ letter ∈ text, 32 ≤ letter.toNat ∧ letter.toNat ≤ 126

instance (text : List Char) : Decidable (Printable text) :=
  decidable_of_iff
    (text.all fun letter =>
      decide (32 ≤ letter.toNat) && decide (letter.toNat ≤ 126))
    (by simp [Printable])

theorem Printable.append
    {first second : List Char}
    (shown : Printable first)
    (shownToo : Printable second) :
    Printable (first ++ second) :=
  List.forall_mem_append.mpr ⟨shown, shownToo⟩

theorem printable_digits
    {text : List Char}
    (valid : Digits text) :
    Printable text := by
  intro letter member
  have digit := valid.2 letter member
  simp only [Char.isDigit, Bool.and_eq_true, decide_eq_true_eq] at digit
  have low : 48 ≤ letter.toNat := UInt32.le_iff_toNat_le.mp digit.1
  have high : letter.toNat ≤ 57 := UInt32.le_iff_toNat_le.mp digit.2
  omega

theorem printable_fraction
    {text fraction : List Char}
    (valid : Fraction text fraction) :
    Printable text := by
  cases valid with
  | absent =>
      decide
  | present valid =>
      exact @Printable.append ['.'] _ (by decide)
        (printable_digits valid)

theorem printable_exponent
    {text : List Char}
    {exponent : Int}
    (valid : Exponent text exponent) :
    Printable text := by
  have mark {letter : Char} (marked : letter = 'e' ∨ letter = 'E') :
      Printable [letter] := by
    rcases marked with rfl | rfl <;> decide
  cases valid with
  | absent =>
      decide
  | unsigned marked valid =>
      exact (mark marked).append (printable_digits valid)
  | positive marked valid =>
      exact (mark marked).append
        (@Printable.append ['+'] _ (by decide)
          (printable_digits valid))
  | negative marked valid =>
      exact (mark marked).append
        (@Printable.append ['-'] _ (by decide)
          (printable_digits valid))

theorem printable_numeral
    {text : List Char}
    {value : Json}
    (numeral : Numeral text value) :
    Printable text := by
  obtain ⟨before, behind, scaled⟩ := numeral
  rename_i negative whole fractionText fraction exponentText exponent
  refine Printable.append ?_ ((printable_digits before.digits).append
    ((printable_fraction behind).append (printable_exponent scaled)))
  cases negative <;> decide

theorem printable_digitChar
    {digit : Nat}
    (small : digit < 16) :
    Printable [Nat.digitChar digit] := by
  interval_cases digit <;> decide

theorem printable_escapedUnit
    {unit : Nat}
    (small : unit < 65536) :
    Printable (escapedUnit unit) := by
  have first := @printable_digitChar (unit / 4096) (by omega)
  have second := @printable_digitChar (unit / 256 % 16) (by omega)
  have third := @printable_digitChar (unit / 16 % 16) (by omega)
  have fourth := @printable_digitChar (unit % 16) (by omega)
  exact @Printable.append ['\\', 'u'] _ (by decide)
    (first.append (second.append (third.append fourth)))

theorem printable_quotedChar (letter : Char) :
    Printable (quotedChar letter) := by
  unfold quotedChar
  split
  · decide
  split
  · decide
  split
  · decide
  split
  · decide
  split
  · decide
  split
  · decide
  split
  · decide
  split
  · rename_i plain
    intro other member
    rw [List.mem_singleton.mp member]
    exact plain
  · intro other member
    obtain ⟨unit, units, inside⟩ := List.mem_flatMap.mp member
    exact printable_escapedUnit (codeUnits_small letter unit units) other
      inside

theorem printable_quoted (value : String) :
    Printable (quoted value) := by
  refine @Printable.append ['"'] _ (by decide)
    (Printable.append ?_ (by decide))
  intro letter member
  obtain ⟨source, -, inside⟩ := List.mem_flatMap.mp member
  exact printable_quotedChar source letter inside

/-- Two texts with a separator between them. -/
theorem Printable.separated
    {first second : List Char}
    {mark : Char}
    (shown : Printable first)
    (separator : Printable [mark, ' '])
    (shownToo : Printable second) :
    Printable (first ++ mark :: ' ' :: second) :=
  shown.append (separator.append shownToo)

/-- A text between brackets. -/
theorem Printable.enclosed
    {text : List Char}
    {opening closing : Char}
    (shown : Printable text)
    (brackets : Printable [opening, closing]) :
    Printable (opening :: (text ++ [closing])) := by
  have opens : Printable [opening] := by
    intro letter member
    exact brackets letter (by simp_all)
  have closes : Printable [closing] := by
    intro letter member
    exact brackets letter (by simp_all)
  exact opens.append (shown.append closes)

mutual

theorem printable_dumps :
    ∀ {value : Json}, lowest value = true → Printable (dumps value)
  | .null, _ => by
      decide
  | .bool true, _ => by
      decide
  | .bool false, _ => by
      decide
  | .num _ _, valid =>
      printable_numeral (numeral_numberText (of_decide_eq_true valid))
  | .str value, _ => printable_quoted value
  | .arr _, valid => (printable_dumpsItems valid).enclosed (by decide)
  | .obj _, valid => (printable_dumpsFields valid).enclosed (by decide)

theorem printable_dumpsItems :
    ∀ {items : List Json}, lowestItems items = true →
      Printable (dumpsItems items)
  | [], _ => by
      simp [dumpsItems, Printable]
  | [item], valid => by
      rw [lowestItems, Bool.and_eq_true] at valid
      exact printable_dumps valid.1
  | item :: next :: items, valid => by
      rw [lowestItems, Bool.and_eq_true] at valid
      exact (printable_dumps valid.1).separated (by decide)
        (printable_dumpsItems valid.2)

theorem printable_dumpsFields :
    ∀ {fields : List (String × Json)}, lowestFields fields = true →
      Printable (dumpsFields fields)
  | [], _ => by
      simp [dumpsFields, Printable]
  | [(name, value)], valid => by
      rw [lowestFields, Bool.and_eq_true] at valid
      exact (printable_quoted name).separated (by decide)
        (printable_dumps valid.1)
  | (name, value) :: next :: fields, valid => by
      rw [lowestFields, Bool.and_eq_true] at valid
      exact (printable_quoted name).separated (by decide)
        ((printable_dumps valid.1).separated (by decide)
          (printable_dumpsFields valid.2))

end

end PythonJson

end IgaScheduler

import IgaScheduler.JavaScript

namespace IgaScheduler

/-!
# Numbers in JSON texts

How `JSON.parse` reads a number, the grammar of its texts, and that the text
`String(number)` shows is read as the number.  Numbers are decimal and are read
exactly here, as those that `String(number)` shows may be; `JsonDoubles` rounds
the others.
-/

namespace JavaScript

/-- What `digits` stand for. -/
def digitsValue (digits : List Char) : Nat :=
  Nat.ofDigitChars 10 digits 0

/-- `magnitude * 10 ^ -exponent` without the zeros that its fraction ends with. -/
def lowestTerms : Nat → Nat → Nat × Nat
  | magnitude, 0 => (magnitude, 0)
  | magnitude, exponent + 1 =>
      if magnitude % 10 = 0 then
        lowestTerms (magnitude / 10) exponent
      else
        (magnitude, exponent + 1)

/-- `magnitude * 10 ^ scale`. -/
def decimal
    (magnitude : Nat)
    (scale : Int) :
    Nat × Nat :=
  lowestTerms (magnitude * 10 ^ scale.toNat) (-scale).toNat

/-- The number with a sign; there is no negative zero. -/
def signed
    (negative : Bool)
    (number : Nat × Nat) :
    Json :=
  .num (if negative then -number.1 else number.1) number.2

/-! ## The grammar -/

/-- At least one digit. -/
def Digits (text : List Char) : Prop :=
  text ≠ [] ∧ ∀ letter ∈ text, letter.isDigit = true

/-- The digits in front of the point; only `0` begins with a zero. -/
structure Whole (text : List Char) : Prop where
  digits : Digits text
  leading : text.head? = some '0' → text = ['0']

/-- The text of a fraction, and its digits. -/
inductive Fraction : List Char → List Char → Prop where
  | absent : Fraction [] []
  | present {digits : List Char} (valid : Digits digits) :
      Fraction ('.' :: digits) digits

/-- The text of an exponent, and its value. -/
inductive Exponent : List Char → Int → Prop where
  | absent : Exponent [] 0
  | unsigned {mark : Char} {digits : List Char}
      (marked : mark = 'e' ∨ mark = 'E')
      (valid : Digits digits) :
      Exponent (mark :: digits) (digitsValue digits)
  | positive {mark : Char} {digits : List Char}
      (marked : mark = 'e' ∨ mark = 'E')
      (valid : Digits digits) :
      Exponent (mark :: '+' :: digits) (digitsValue digits)
  | negative {mark : Char} {digits : List Char}
      (marked : mark = 'e' ∨ mark = 'E')
      (valid : Digits digits) :
      Exponent (mark :: '-' :: digits) (-digitsValue digits)

/-- The text of a number. -/
inductive Numeral : List Char → Json → Prop where
  | number
      {negative : Bool}
      {whole fractionText fraction exponentText : List Char}
      {exponent : Int}
      (before : Whole whole)
      (behind : Fraction fractionText fraction)
      (scaled : Exponent exponentText exponent) :
      Numeral
        ((if negative then ['-'] else []) ++
          (whole ++ (fractionText ++ exponentText)))
        (signed negative
          (decimal (digitsValue (whole ++ fraction))
            (exponent - fraction.length)))

/-! ## The parser -/

/-- The digits a text begins with, and what is left. -/
def digits (text : List Char) : List Char × List Char :=
  (text.takeWhile Char.isDigit, text.dropWhile Char.isDigit)

/-- The sign in front of a number. -/
def parseMinus : List Char → Bool × List Char
  | [] => (false, [])
  | letter :: rest =>
      if letter = '-' then (true, rest) else (false, letter :: rest)

def parseWhole (text : List Char) : Option (List Char × List Char) :=
  let (whole, rest) := digits text
  if whole = [] then none
  else if whole.head? = some '0' ∧ whole ≠ ['0'] then none
  else some (whole, rest)

def parseFraction : List Char → Option (List Char × List Char)
  | [] => some ([], [])
  | letter :: rest =>
      if letter = '.' then
        let (fraction, rest) := digits rest
        if fraction = [] then none else some (fraction, rest)
      else
        some ([], letter :: rest)

/-- The digits of an exponent behind its sign. -/
def parseExponentDigits
    (negative : Bool)
    (text : List Char) :
    Option (Int × List Char) :=
  let (exponent, rest) := digits text
  if exponent = [] then none
  else
    some (if negative then -(digitsValue exponent : Int)
      else digitsValue exponent, rest)

/-- The sign of an exponent, which may also be a plus. -/
def parseSignedDigits : List Char → Option (Int × List Char)
  | [] => none
  | sign :: rest =>
      if sign = '-' then parseExponentDigits true rest
      else if sign = '+' then parseExponentDigits false rest
      else parseExponentDigits false (sign :: rest)

def parseExponent : List Char → Option (Int × List Char)
  | [] => some (0, [])
  | letter :: rest =>
      if letter = 'e' ∨ letter = 'E' then parseSignedDigits rest
      else some (0, letter :: rest)

def parseNumber (text : List Char) : Option (Json × List Char) := do
  let (negative, text) := parseMinus text
  let (whole, text) ← parseWhole text
  let (fraction, text) ← parseFraction text
  let (exponent, text) ← parseExponent text
  return (signed negative
    (decimal (digitsValue (whole ++ fraction)) (exponent - fraction.length)),
    text)

/-! ## The parser reads the grammar -/

/-- What follows a number does not go on with it. -/
def EndsNumber (rest : List Char) : Prop :=
  ∀ letter ∈ rest.head?,
    letter.isDigit = false ∧ letter ≠ '.' ∧ letter ≠ 'e' ∧ letter ≠ 'E'

theorem digits_append
    {text rest : List Char}
    (valid : ∀ letter ∈ text, letter.isDigit = true)
    (ends : ∀ letter ∈ rest.head?, letter.isDigit = false) :
    digits (text ++ rest) = (text, rest) := by
  have nothing :
      rest.takeWhile Char.isDigit = [] ∧
        rest.dropWhile Char.isDigit = rest := by
    cases rest with
    | nil =>
        exact ⟨rfl, rfl⟩
    | cons letter rest =>
        have other := ends letter rfl
        simp [other]
  rw [digits, List.takeWhile_append_of_pos valid,
    List.dropWhile_append_of_pos valid, nothing.1, nothing.2,
    List.append_nil]

theorem parseWhole_append
    {whole rest : List Char}
    (valid : Whole whole)
    (ends : ∀ letter ∈ rest.head?, letter.isDigit = false) :
    parseWhole (whole ++ rest) = some (whole, rest) := by
  rw [parseWhole, digits_append valid.digits.2 ends]
  dsimp only
  rw [if_neg valid.digits.1, if_neg]
  rintro ⟨zero, more⟩
  exact more (valid.leading zero)

theorem parseExponentDigits_append
    {exponent rest : List Char}
    (valid : Digits exponent)
    (ends : ∀ letter ∈ rest.head?, letter.isDigit = false)
    (negative : Bool) :
    parseExponentDigits negative (exponent ++ rest) =
      some (if negative then -(digitsValue exponent : Int)
        else digitsValue exponent, rest) := by
  rw [parseExponentDigits, digits_append valid.2 ends]
  dsimp only
  rw [if_neg valid.1]

/-- A text of digits has a first one. -/
theorem Digits.exists_cons
    {text : List Char}
    (valid : Digits text) :
    ∃ first more, text = first :: more ∧ first.isDigit = true := by
  cases text with
  | nil =>
      exact absurd rfl valid.1
  | cons first more =>
      exact ⟨first, more, rfl, valid.2 first List.mem_cons_self⟩

theorem ne_of_isDigit
    {letter other : Char}
    (digit : letter.isDigit = true)
    (foreign : other.isDigit = false) :
    letter ≠ other := by
  rintro rfl
  rw [digit] at foreign
  cases foreign

theorem Exponent.parsed
    {text : List Char}
    {exponent : Int}
    (valid : Exponent text exponent)
    {rest : List Char}
    (ends : EndsNumber rest) :
    parseExponent (text ++ rest) = some (exponent, rest) := by
  have noDigit : ∀ letter ∈ rest.head?, letter.isDigit = false :=
    fun letter member => (ends letter member).1
  cases valid with
  | absent =>
      rw [List.nil_append]
      cases rest with
      | nil =>
          rfl
      | cons letter rest =>
          obtain ⟨-, -, lower, upper⟩ := ends letter rfl
          exact if_neg (by simp [lower, upper])
  | unsigned marked valid =>
      obtain ⟨first, more, rfl, digit⟩ := valid.exists_cons
      rw [List.cons_append, List.cons_append, parseExponent, if_pos marked,
        parseSignedDigits, if_neg (ne_of_isDigit digit (by decide)),
        if_neg (ne_of_isDigit digit (by decide)), ← List.cons_append,
        parseExponentDigits_append valid noDigit]
      rfl
  | positive marked valid =>
      rw [List.cons_append, List.cons_append, parseExponent, if_pos marked,
        parseSignedDigits, if_neg (by decide), if_pos rfl,
        parseExponentDigits_append valid noDigit]
      rfl
  | negative marked valid =>
      rw [List.cons_append, List.cons_append, parseExponent, if_pos marked,
        parseSignedDigits, if_pos rfl, parseExponentDigits_append valid noDigit]
      rfl

/-- Neither an exponent nor the end of a number begins with a digit or a point. -/
theorem Exponent.head_append
    {text : List Char}
    {exponent : Int}
    (valid : Exponent text exponent)
    {rest : List Char}
    (ends : EndsNumber rest) :
    ∀ letter ∈ (text ++ rest).head?,
      letter.isDigit = false ∧ letter ≠ '.' := by
  have marks {mark : Char} (marked : mark = 'e' ∨ mark = 'E') :
      mark.isDigit = false ∧ mark ≠ '.' := by
    rcases marked with rfl | rfl <;> decide
  cases valid with
  | absent =>
      intro letter member
      obtain ⟨digit, point, -⟩ := ends letter member
      exact ⟨digit, point⟩
  | unsigned marked valid =>
      rintro letter ⟨⟩
      exact marks marked
  | positive marked valid =>
      rintro letter ⟨⟩
      exact marks marked
  | negative marked valid =>
      rintro letter ⟨⟩
      exact marks marked

theorem Fraction.parsed
    {text fraction : List Char}
    (valid : Fraction text fraction)
    {rest : List Char}
    (ends :
      ∀ letter ∈ rest.head?, letter.isDigit = false ∧ letter ≠ '.') :
    parseFraction (text ++ rest) = some (fraction, rest) := by
  cases valid with
  | absent =>
      rw [List.nil_append]
      cases rest with
      | nil =>
          rfl
      | cons letter rest =>
          rw [parseFraction, if_neg (ends letter rfl).2]
  | present valid =>
      rw [List.cons_append, parseFraction, if_pos rfl,
        digits_append valid.2 fun letter member => (ends letter member).1]
      dsimp only
      rw [if_neg valid.1]

theorem Fraction.head_append
    {text fraction : List Char}
    (valid : Fraction text fraction)
    {rest : List Char}
    (ends :
      ∀ letter ∈ rest.head?, letter.isDigit = false ∧ letter ≠ '.') :
    ∀ letter ∈ (text ++ rest).head?, letter.isDigit = false := by
  cases valid with
  | absent =>
      intro letter member
      exact (ends letter member).1
  | present valid =>
      rintro letter ⟨⟩
      decide

/-- The parser reads the text of a number up to its end. -/
theorem Numeral.parsed
    {text : List Char}
    {value : Json}
    (numeral : Numeral text value)
    {rest : List Char}
    (ends : EndsNumber rest) :
    parseNumber (text ++ rest) = some (value, rest) := by
  obtain ⟨before, behind, scaled⟩ := numeral
  rename_i negative whole fractionText fraction exponentText exponent
  have pointless := scaled.head_append ends
  have minus :
      parseMinus ((if negative then ['-'] else []) ++
          (whole ++ (fractionText ++ exponentText)) ++ rest) =
        (negative, whole ++ (fractionText ++ (exponentText ++ rest))) := by
    rw [List.append_assoc, List.append_assoc, List.append_assoc]
    cases negative with
    | true =>
        rfl
    | false =>
        obtain ⟨first, more, rfl, digit⟩ := before.digits.exists_cons
        exact if_neg (ne_of_isDigit digit (by decide))
  rw [parseNumber, minus]
  dsimp only
  rw [parseWhole_append before (behind.head_append pointless)]
  dsimp only [Option.bind_eq_bind, Option.bind_some]
  rw [behind.parsed pointless]
  dsimp only [Option.bind_some]
  rw [scaled.parsed ends]
  rfl

/-- The text of a number begins with its sign or with a digit. -/
theorem Numeral.exists_cons
    {text : List Char}
    {value : Json}
    (numeral : Numeral text value) :
    ∃ first more,
      text = first :: more ∧ (first = '-' ∨ first.isDigit = true) := by
  obtain ⟨before, -, -⟩ := numeral
  rename_i negative whole fractionText fraction exponentText exponent
  cases negative with
  | true =>
      exact ⟨'-', _, rfl, .inl rfl⟩
  | false =>
      obtain ⟨first, more, rfl, digit⟩ := before.digits.exists_cons
      exact ⟨first, _, rfl, .inr digit⟩

/-! ## `String(number)` is a number of the grammar -/

/-- The number has one form: its fraction does not end with a zero. -/
def InLowestTerms
    (mantissa : Int)
    (exponent : Nat) :
    Prop :=
  lowestTerms mantissa.natAbs exponent = (mantissa.natAbs, exponent)

instance
    (mantissa : Int)
    (exponent : Nat) :
    Decidable (InLowestTerms mantissa exponent) :=
  inferInstanceAs (Decidable (_ = _))

theorem lowestTerms_zero (exponent : Nat) :
    lowestTerms 0 exponent = (0, 0) := by
  induction exponent with
  | zero =>
      rfl
  | succ exponent inductionHypothesis =>
      exact inductionHypothesis

/-- A factor of ten moves the point by one digit. -/
theorem decimal_ten
    (magnitude : Nat)
    (scale : Int) :
    decimal (magnitude * 10) scale = decimal magnitude (scale + 1) := by
  rcases lt_or_ge scale 0 with negative | positive
  · obtain ⟨places, rfl⟩ : ∃ places : Nat, scale = -(places + 1 : Int) :=
      ⟨(-scale).toNat - 1, by omega⟩
    have left : (-(places + 1 : Int)).toNat = 0 := by omega
    have right : (-(places + 1 : Int) + 1).toNat = 0 := by omega
    have before : (-(-(places + 1 : Int))).toNat = places + 1 := by omega
    have behind : (-(-(places + 1 : Int) + 1)).toNat = places := by omega
    rw [decimal, decimal, left, right, before, behind, Nat.pow_zero,
      Nat.mul_one, Nat.mul_one, lowestTerms, if_pos (Nat.mul_mod_left ..),
      Nat.mul_div_cancel _ (by decide)]
  · have next : (scale + 1).toNat = scale.toNat + 1 := by omega
    have before : (-scale).toNat = 0 := by omega
    have behind : (-(scale + 1)).toNat = 0 := by omega
    rw [decimal, decimal, next, before, behind, Nat.pow_succ',
      Nat.mul_assoc]

theorem decimal_pow
    (magnitude places : Nat)
    (scale : Int) :
    decimal (magnitude * 10 ^ places) scale =
      decimal magnitude (scale + places) := by
  induction places generalizing magnitude with
  | zero =>
      simp
  | succ places inductionHypothesis =>
      rw [Nat.pow_succ, Nat.mul_comm _ 10, ← Nat.mul_assoc,
        inductionHypothesis, decimal_ten]
      congr 1
      omega

theorem zeros_isDigit (count : Nat) :
    ∀ letter ∈ List.replicate count '0', letter.isDigit = true := by
  intro letter member
  rw [List.eq_of_mem_replicate member]
  decide

theorem digitsValue_zeros
    (digits : List Char)
    (count : Nat) :
    digitsValue (digits ++ List.replicate count '0') =
      digitsValue digits * 10 ^ count := by
  rw [digitsValue, Nat.ofDigitChars_append, Nat.ofDigitChars_replicate_zero,
    Nat.mul_comm]
  rfl

theorem zeros_digitsValue
    (digits : List Char)
    (count : Nat) :
    digitsValue (List.replicate count '0' ++ digits) = digitsValue digits := by
  rw [digitsValue, Nat.ofDigitChars_append, Nat.ofDigitChars_replicate_zero,
    Nat.mul_zero]
  rfl

theorem digits_toDigits (magnitude : Nat) :
    Digits (Nat.toDigits 10 magnitude) :=
  ⟨Nat.toDigits_ne_nil, fun _ member =>
    Nat.isDigit_of_mem_toDigits (by decide) (by decide) member⟩

/-- A positive number does not begin with a zero. -/
theorem head?_toDigits
    {magnitude : Nat}
    (positive : 0 < magnitude) :
    (Nat.toDigits 10 magnitude).head? ≠ some '0' := by
  induction magnitude using Nat.strongRecOn with
  | _ magnitude inductionHypothesis =>
      by_cases small : magnitude < 10
      · rw [Nat.toDigits_of_lt_base small]
        interval_cases magnitude <;> decide
      · rw [Nat.toDigits_of_base_le (by decide) (by omega),
          List.head?_append_of_ne_nil _ Nat.toDigits_ne_nil]
        exact inductionHypothesis (magnitude / 10) (by omega) (by omega)

/-- The digits of a number beside the zeros it ends with. -/
theorem significant_spec
    (magnitude exponent : Nat) :
    ∃ zeros : Nat,
      Nat.toDigits 10 magnitude =
          (significant magnitude exponent).1 ++ List.replicate zeros '0' ∧
        (significant magnitude exponent).2 =
          (significant magnitude exponent).1.length + zeros - exponent := by
  have parts :
      (Nat.toDigits 10 magnitude).rdropWhile (· == '0') ++
          (Nat.toDigits 10 magnitude).rtakeWhile (· == '0') =
        Nat.toDigits 10 magnitude :=
    List.rdropWhile_append_rtakeWhile
  have same :
      (Nat.toDigits 10 magnitude).rtakeWhile (· == '0') =
        List.replicate
          ((Nat.toDigits 10 magnitude).rtakeWhile (· == '0')).length '0' := by
    refine List.eq_replicate_iff.mpr ⟨rfl, fun letter member => ?_⟩
    have zero := List.mem_rtakeWhile_imp member
    simpa using zero
  refine ⟨_, (parts.symm.trans (congrArg _ same)), ?_⟩
  have lengths := congrArg List.length parts
  rw [List.length_append] at lengths
  unfold significant
  dsimp only
  omega

/-- The text is that of a positive number `0.d₁d₂… * 10 ^ point`. -/
def Shows
    (text digits : List Char)
    (point : Int) :
    Prop :=
  ∃ whole fractionText fraction exponentText exponent,
    Whole whole ∧ Fraction fractionText fraction ∧
      Exponent exponentText exponent ∧
        text = whole ++ (fractionText ++ exponentText) ∧
          decimal (digitsValue (whole ++ fraction))
              (exponent - fraction.length) =
            decimal (digitsValue digits) (point - digits.length)

theorem exponent_natAbs (exponent : Int) :
    Exponent
      ('e' :: (if 0 < exponent then '+' else '-') ::
        Nat.toDigits 10 exponent.natAbs)
      exponent := by
  have value : digitsValue (Nat.toDigits 10 exponent.natAbs) = exponent.natAbs :=
    Nat.ofDigitChars_ten_toDigits
  by_cases positive : 0 < exponent
  · rw [if_pos positive]
    have read : ((exponent.natAbs : Nat) : Int) = exponent := by omega
    have written :=
      @Exponent.positive 'e' _ (.inl rfl) (digits_toDigits exponent.natAbs)
    rw [value, read] at written
    exact written
  · rw [if_neg positive]
    have read : -((exponent.natAbs : Nat) : Int) = exponent := by omega
    have written :=
      @Exponent.negative 'e' _ (.inl rfl) (digits_toDigits exponent.natAbs)
    rw [value, read] at written
    exact written

section Showing

variable {digits : List Char}
variable (valid : Digits digits)
variable (leading : digits.head? ≠ some '0')
include valid leading

theorem whole_append (more : List Char)
    (digit : ∀ letter ∈ more, letter.isDigit = true) :
    Whole (digits ++ more) := by
  refine ⟨⟨?_, ?_⟩, ?_⟩
  · simp [valid.1]
  · exact List.forall_mem_append.mpr ⟨valid.2, digit⟩
  · rw [List.head?_append_of_ne_nil _ valid.1]
    intro zero
    exact absurd zero leading

theorem whole_take
    {count : Nat}
    (positive : 0 < count) :
    Whole (digits.take count) := by
  obtain ⟨first, more, rfl, digit⟩ := valid.exists_cons
  cases count with
  | zero =>
      exact absurd positive (Nat.lt_irrefl 0)
  | succ count =>
      refine ⟨⟨by simp, fun letter member => ?_⟩, fun zero => ?_⟩
      · exact valid.2 letter (List.mem_of_mem_take member)
      · rw [List.take_succ_cons, List.head?_cons] at zero
        exact absurd zero leading

theorem shows_integer
    {point : Int}
    (after : digits.length ≤ point) :
    Shows (digits ++ List.replicate (point - digits.length).toNat '0')
      digits point := by
  refine ⟨_, [], [], [], 0, whole_append valid leading _ (zeros_isDigit _),
    .absent, .absent, by rw [List.append_nil, List.append_nil], ?_⟩
  rw [List.append_nil, digitsValue_zeros, decimal_pow]
  congr 1
  simp only [List.length_nil]
  omega

theorem shows_fraction
    {point : Int}
    (positive : 0 < point)
    (inside : point < digits.length) :
    Shows (digits.take point.toNat ++ '.' :: digits.drop point.toNat)
      digits point := by
  have rest : Digits (digits.drop point.toNat) := by
    refine ⟨?_, fun letter member =>
      valid.2 letter (List.mem_of_mem_drop member)⟩
    rw [Ne, List.drop_eq_nil_iff]
    omega
  have some : 0 < point.toNat := by omega
  refine ⟨_, _, _, [], 0, whole_take valid leading some, .present rest,
    .absent, by rw [List.append_nil], ?_⟩
  rw [List.take_append_drop, List.length_drop]
  congr 1
  omega

omit leading in
theorem shows_small
    {point : Int}
    (before : point ≤ 0) :
    Shows
      ('0' :: '.' :: (List.replicate (-point).toNat '0' ++ digits))
      digits point := by
  have zero : Whole ['0'] :=
    ⟨⟨by simp, by simp⟩, fun _ => rfl⟩
  have rest : Digits (List.replicate (-point).toNat '0' ++ digits) := by
    exact ⟨by simp [valid.1],
      List.forall_mem_append.mpr ⟨zeros_isDigit _, valid.2⟩⟩
  refine ⟨['0'], _, _, [], 0, zero, .present rest, .absent, by simp, ?_⟩
  have zeros :
      ['0'] ++ (List.replicate (-point).toNat '0' ++ digits) =
        List.replicate ((-point).toNat + 1) '0' ++ digits := by
    rw [List.replicate_succ]
    rfl
  rw [zeros, zeros_digitsValue, List.length_append, List.length_replicate]
  congr 1
  omega

omit leading in
/-- The digits behind the first one, as a fraction. -/
theorem fraction_drop :
    Fraction
      (match digits.drop 1 with
      | [] => []
      | rest => '.' :: rest)
      (digits.drop 1) := by
  cases rest : digits.drop 1 with
  | nil =>
      exact .absent
  | cons first more =>
      refine .present ⟨by simp, fun letter member => valid.2 letter ?_⟩
      rw [← rest] at member
      exact List.mem_of_mem_drop member

theorem shows_scientific (point : Int) :
    Shows
      (digits.take 1 ++
        (match digits.drop 1 with
        | [] => []
        | rest => '.' :: rest) ++
          'e' :: (if 0 < point - 1 then '+' else '-') ::
            Nat.toDigits 10 (point - 1).natAbs)
      digits point := by
  refine ⟨_, _, _, _, _, whole_take valid leading (by decide : 0 < 1),
    fraction_drop valid, exponent_natAbs (point - 1),
    List.append_assoc .., ?_⟩
  obtain ⟨first, more, rfl, -⟩ := valid.exists_cons
  rw [List.take_append_drop, List.length_drop, List.length_cons]
  congr 1
  omega

theorem shows_magnitudeText (point : Int) :
    Shows (magnitudeText digits point) digits point := by
  unfold magnitudeText
  dsimp only
  split
  · rename_i integer
    exact shows_integer valid leading integer.1
  · split
    · rename_i long fraction
      exact shows_fraction valid leading fraction.1 (by omega)
    · split
      · rename_i small
        exact shows_small valid small.2
      · exact shows_scientific valid leading point

end Showing

/-- The text of a magnitude, with a sign in front, is that of a number. -/
theorem numeral_of_shows
    {mantissa : Int}
    {exponent : Nat}
    {text digits : List Char}
    {point : Int}
    (shown : Shows text digits point)
    (magnitude :
      decimal (digitsValue digits) (point - digits.length) =
        (mantissa.natAbs, exponent)) :
    Numeral (if mantissa < 0 then '-' :: text else text)
      (.num mantissa exponent) := by
  obtain ⟨whole, fractionText, fraction, exponentText, scale, before, behind,
    scaled, rfl, value⟩ := shown
  have numeral :=
    @Numeral.number (decide (mantissa < 0)) whole fractionText fraction
      exponentText scale before behind scaled
  have number :
      signed (decide (mantissa < 0)) (mantissa.natAbs, exponent) =
        .num mantissa exponent := by
    unfold signed
    dsimp only
    congr 1
    by_cases negative : mantissa < 0
    · rw [if_pos (decide_eq_true negative)]
      omega
    · rw [if_neg (by simpa using negative)]
      omega
  rw [value, magnitude, number] at numeral
  by_cases negative : mantissa < 0
  · simpa [negative] using numeral
  · simpa [negative] using numeral

/-- The significant digits of a number stand for it. -/
theorem significant_value
    {mantissa : Int}
    {exponent : Nat}
    (nonzero : mantissa ≠ 0)
    (lowest : InLowestTerms mantissa exponent)
    {digits : List Char}
    {point : Int}
    (shown : significant mantissa.natAbs exponent = (digits, point)) :
    Digits digits ∧ digits.head? ≠ some '0' ∧
      decimal (digitsValue digits) (point - digits.length) =
        (mantissa.natAbs, exponent) := by
  have positive : 0 < mantissa.natAbs := Int.natAbs_pos.mpr nonzero
  obtain ⟨zeros, spelled, placed⟩ :=
    significant_spec mantissa.natAbs exponent
  have nonempty := significant_ne_nil positive exponent
  rw [shown] at spelled placed nonempty
  dsimp only at spelled placed nonempty
  have all := digits_toDigits mantissa.natAbs
  have first := head?_toDigits positive
  rw [spelled] at all first
  rw [List.head?_append_of_ne_nil _ nonempty] at first
  refine ⟨⟨nonempty, (List.forall_mem_append.mp all.2).1⟩, first, ?_⟩
  have total :
      digitsValue (digits ++ List.replicate zeros '0') = mantissa.natAbs := by
    rw [← spelled]
    exact Nat.ofDigitChars_ten_toDigits
  rw [digitsValue_zeros] at total
  have shift :
      point - digits.length = -(exponent : Int) + (zeros : Nat) := by
    omega
  have none : (-(exponent : Int)).toNat = 0 := by omega
  have some : (- -(exponent : Int)).toNat = exponent := by omega
  rw [shift, ← decimal_pow, total, decimal, none, some, Nat.pow_zero,
    Nat.mul_one]
  exact lowest

/-- The digits of an integer. -/
theorem shows_toDigits (magnitude : Nat) :
    Shows (Nat.toDigits 10 magnitude) (Nat.toDigits 10 magnitude)
      (Nat.toDigits 10 magnitude).length := by
  refine ⟨_, [], [], [], 0, ⟨digits_toDigits magnitude, ?_⟩, .absent, .absent,
    by rw [List.append_nil, List.append_nil], ?_⟩
  · intro zero
    cases magnitude with
    | zero =>
        rfl
    | succ magnitude =>
        exact absurd zero (head?_toDigits (Nat.zero_lt_succ magnitude))
  · rw [List.append_nil, Int.sub_self]
    rfl

/-- `String(number)` is read as the number. -/
theorem numeral_numberText
    {mantissa : Int}
    {exponent : Nat}
    (lowest : InLowestTerms mantissa exponent) :
    Numeral (numberText mantissa exponent).toList (.num mantissa exponent) := by
  unfold numberText
  split
  · rename_i zero
    subst zero
    have exact : exponent = 0 := by
      unfold InLowestTerms at lowest
      rw [Int.natAbs_zero, lowestTerms_zero] at lowest
      exact (congrArg Prod.snd lowest).symm
    subst exact
    exact @numeral_of_shows 0 0 _ _ _ (shows_toDigits 0) rfl
  · rename_i nonzero
    cases shown : significant mantissa.natAbs exponent with
    | mk digits point =>
        obtain ⟨valid, leading, value⟩ :=
          significant_value nonzero lowest shown
        dsimp only
        rw [String.toList_ofList]
        exact numeral_of_shows (shows_magnitudeText valid leading point) value

end JavaScript

end IgaScheduler

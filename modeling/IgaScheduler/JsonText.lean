import IgaScheduler.JsonNumbers
import IgaScheduler.Utf8Chunks

namespace IgaScheduler

/-!
# `JSON.parse(text)`

A parser by recursive descent, the grammar of the texts it reads, and that both
forms of `JSON.stringify` write texts of the grammar.  A string is the list of
its code units until it is closed; one that has half of a surrogate pair is no
value of `Json` and is not read.
-/

namespace JavaScript

open Utf8Chunks (codeUnits utf16)

/-! ## Objects -/

/-- The number under which an array element is found. -/
def arrayIndex? (name : String) : Option Nat :=
  let index := digitsValue name.toList
  if Nat.toDigits 10 index = name.toList ∧ index < 4294967295 then some index
  else none

/-- `object[name] = value` keeps the place of a name that is there. -/
def assign
    (fields : List (String × Json))
    (entry : String × Json) :
    List (String × Json) :=
  if fields.any fun field => field.1 = entry.1 then
    fields.map fun field => if field.1 = entry.1 then entry else field
  else
    fields ++ [entry]

/-- Indices come first and in order. -/
def inOrder (fields : List (String × Json)) : List (String × Json) :=
  let (indices, names) :=
    fields.partition fun field => (arrayIndex? field.1).isSome
  indices.mergeSort (fun first second =>
    (arrayIndex? first.1).getD 0 ≤ (arrayIndex? second.1).getD 0) ++ names

/-- The fields of the object that gets the entries one after the other. -/
def fromEntries (entries : List (String × Json)) : List (String × Json) :=
  inOrder (entries.foldl assign [])

/-! ## Strings -/

/-- The value of a hexadecimal digit. -/
def hexDigit? (letter : Char) : Option Nat :=
  if letter.isDigit then some (letter.toNat - 48)
  else if 'a' ≤ letter ∧ letter ≤ 'f' then some (letter.toNat - 87)
  else if 'A' ≤ letter ∧ letter ≤ 'F' then some (letter.toNat - 55)
  else none

/-- The code unit that four digits escape. -/
def hexUnit? (first second third fourth : Char) : Option Nat := do
  let first ← hexDigit? first
  let second ← hexDigit? second
  let third ← hexDigit? third
  let fourth ← hexDigit? fourth
  return ((first * 16 + second) * 16 + third) * 16 + fourth

/-- The code unit that a letter escapes. -/
def escaped? (name : Char) : Option Nat :=
  if name = '"' then some 34
  else if name = '\\' then some 92
  else if name = '/' then some 47
  else if name = 'b' then some 8
  else if name = 'f' then some 12
  else if name = 'n' then some 10
  else if name = 'r' then some 13
  else if name = 't' then some 9
  else none

/-- The letters of code units, if every surrogate has its other half. -/
def scalars? : List Nat → Option (List Char)
  | [] => some []
  | unit :: rest =>
      if 0xD800 ≤ unit ∧ unit < 0xDC00 then
        match rest with
        | [] => none
        | low :: rest =>
            if 0xDC00 ≤ low ∧ low < 0xE000 then
              (scalars? rest).map fun letters =>
                Char.ofNat
                  (0x10000 + (unit - 0xD800) * 0x400 + (low - 0xDC00)) ::
                    letters
            else
              none
      else if 0xDC00 ≤ unit ∧ unit < 0xE000 then
        none
      else
        (scalars? rest).map fun letters => Char.ofNat unit :: letters

/-- The code units of a string up to its closing quote. -/
def parseUnits : List Char → Option (List Nat × List Char)
  | [] => none
  | letter :: rest =>
      if letter = '"' then
        some ([], rest)
      else if letter = '\\' then
        match rest with
        | [] => none
        | name :: rest =>
            if name = 'u' then
              match rest with
              | first :: second :: third :: fourth :: rest => do
                  let unit ← hexUnit? first second third fourth
                  let (units, rest) ← parseUnits rest
                  return (unit :: units, rest)
              | _ => none
            else do
              let unit ← escaped? name
              let (units, rest) ← parseUnits rest
              return (unit :: units, rest)
      else if letter.toNat < 32 then
        none
      else do
        let (units, rest) ← parseUnits rest
        return (codeUnits letter.toNat ++ units, rest)

/-- A string behind its opening quote. -/
def parseString (text : List Char) : Option (String × List Char) := do
  let (units, rest) ← parseUnits text
  let letters ← scalars? units
  return (String.ofList letters, rest)

/-! ## Values -/

/-- What may stand between the parts of a text. -/
def isBlank (letter : Char) : Bool :=
  letter = ' ' || letter = '\t' || letter = '\n' || letter = '\r'

def skip (text : List Char) : List Char :=
  text.dropWhile isBlank

def parseLiteral
    (word : List Char)
    (value : Json)
    (text : List Char) :
    Option (Json × List Char) :=
  if word.isPrefixOf text then some (value, skip (text.drop word.length))
  else none

mutual

/-- A value with what is blank around it; the fuel bounds the nesting. -/
def parseValue : Nat → List Char → Option (Json × List Char)
  | 0, _ => none
  | fuel + 1, text =>
      match skip text with
      | [] => none
      | letter :: rest =>
          if letter = 'n' then parseLiteral "ull".toList .null rest
          else if letter = 't' then
            parseLiteral "rue".toList (.bool true) rest
          else if letter = 'f' then
            parseLiteral "alse".toList (.bool false) rest
          else if letter = '"' then do
            let (value, rest) ← parseString rest
            return (.str value, skip rest)
          else if letter = '[' then
            match skip rest with
            | [] => none
            | next :: more =>
                if next = ']' then some (.arr [], skip more)
                else do
                  let (items, rest) ← parseItems fuel (next :: more)
                  return (.arr items, skip rest)
          else if letter = '\x7b' then
            match skip rest with
            | [] => none
            | next :: more =>
                if next = '\x7d' then some (.obj [], skip more)
                else do
                  let (entries, rest) ← parseFields fuel (next :: more)
                  return (.obj (fromEntries entries), skip rest)
          else do
            let (value, rest) ← parseNumber (letter :: rest)
            return (value, skip rest)

/-- The items of an array up to its bracket. -/
def parseItems : Nat → List Char → Option (List Json × List Char)
  | 0, _ => none
  | fuel + 1, text => do
      let (item, rest) ← parseValue fuel text
      match rest with
      | [] => none
      | letter :: rest =>
          if letter = ']' then some ([item], rest)
          else if letter = ',' then do
            let (items, rest) ← parseItems fuel rest
            return (item :: items, rest)
          else none

/-- The fields of an object up to its brace. -/
def parseFields : Nat → List Char → Option (List (String × Json) × List Char)
  | 0, _ => none
  | fuel + 1, text =>
      match skip text with
      | [] => none
      | letter :: rest =>
          if letter = '"' then do
            let (name, rest) ← parseString rest
            match skip rest with
            | [] => none
            | letter :: rest =>
                if letter = ':' then do
                  let (value, rest) ← parseValue fuel rest
                  match rest with
                  | [] => none
                  | letter :: rest =>
                      if letter = '\x7d' then some ([(name, value)], rest)
                      else if letter = ',' then do
                        let (fields, rest) ← parseFields fuel rest
                        return ((name, value) :: fields, rest)
                      else none
                else none
          else none

end

/-- `JSON.parse(text)`; `none` is a `SyntaxError`. -/
def parse (text : List Char) : Option Json :=
  match parseValue (2 * text.length) text with
  | some (value, []) => some value
  | _ => none

/-! ## The grammar -/

def Blank (text : List Char) : Prop :=
  ∀ letter ∈ text, isBlank letter = true

/-- The text between two quotes, and its code units. -/
inductive Units : List Char → List Nat → Prop where
  | nil : Units [] []
  | letter
      {letter : Char} {text : List Char} {units : List Nat}
      (noQuote : letter ≠ '"')
      (noBackslash : letter ≠ '\\')
      (noControl : 32 ≤ letter.toNat)
      (rest : Units text units) :
      Units (letter :: text) (codeUnits letter.toNat ++ units)
  | escape
      {name : Char} {unit : Nat} {text : List Char} {units : List Nat}
      (escaped : escaped? name = some unit)
      (rest : Units text units) :
      Units ('\\' :: name :: text) (unit :: units)
  | hexadecimal
      {first second third fourth : Char}
      {unit : Nat} {text : List Char} {units : List Nat}
      (escaped : hexUnit? first second third fourth = some unit)
      (rest : Units text units) :
      Units ('\\' :: 'u' :: first :: second :: third :: fourth :: text)
        (unit :: units)

/-- A string in quotes. -/
inductive Quotes : List Char → String → Prop where
  | string
      {text : List Char} {units : List Nat} {value : String}
      (inside : Units text units)
      (paired : scalars? units = some value.toList) :
      Quotes ('"' :: (text ++ ['"'])) value

mutual

/-- The text of a value. -/
inductive Writes : List Char → Json → Prop where
  | null : Writes "null".toList .null
  | yes : Writes "true".toList (.bool true)
  | no : Writes "false".toList (.bool false)
  | number {text : List Char} {value : Json} (numeral : Numeral text value) :
      Writes text value
  | string {text : List Char} {value : String} (quotes : Quotes text value) :
      Writes text (.str value)
  | emptyArray {blank : List Char} (inside : Blank blank) :
      Writes ('[' :: (blank ++ [']'])) (.arr [])
  | array {text : List Char} {items : List Json}
      (inside : WritesItems text items) :
      Writes ('[' :: (text ++ [']'])) (.arr items)
  | emptyObject {blank : List Char} (inside : Blank blank) :
      Writes ('\x7b' :: (blank ++ ['\x7d'])) (.obj [])
  | object {text : List Char} {entries : List (String × Json)}
      (inside : WritesFields text entries) :
      Writes ('\x7b' :: (text ++ ['\x7d'])) (.obj (fromEntries entries))
  | padded {before text behind : List Char} {value : Json}
      (first : Blank before)
      (inside : Writes text value)
      (last : Blank behind) :
      Writes (before ++ (text ++ behind)) value

/-- The texts of items, separated by commas. -/
inductive WritesItems : List Char → List Json → Prop where
  | last {text : List Char} {item : Json} (inside : Writes text item) :
      WritesItems text [item]
  | cons {text rest : List Char} {item : Json} {items : List Json}
      (first : Writes text item)
      (others : WritesItems rest items) :
      WritesItems (text ++ ',' :: rest) (item :: items)

/-- The texts of fields, separated by commas. -/
inductive WritesFields : List Char → List (String × Json) → Prop where
  | last
      {before nameText behind text : List Char}
      {name : String} {value : Json}
      (leading : Blank before)
      (named : Quotes nameText name)
      (trailing : Blank behind)
      (inside : Writes text value) :
      WritesFields (before ++ (nameText ++ (behind ++ ':' :: text)))
        [(name, value)]
  | cons
      {before nameText behind text rest : List Char}
      {name : String} {value : Json} {fields : List (String × Json)}
      (leading : Blank before)
      (named : Quotes nameText name)
      (trailing : Blank behind)
      (inside : Writes text value)
      (others : WritesFields rest fields) :
      WritesFields
        (before ++ (nameText ++ (behind ++ ':' :: (text ++ ',' :: rest))))
        ((name, value) :: fields)

end

/-! ## The parser reads the grammar -/

theorem skip_append
    {blank : List Char}
    (valid : Blank blank)
    (rest : List Char) :
    skip (blank ++ rest) = skip rest :=
  List.dropWhile_append_of_pos valid

theorem skip_cons
    {letter : Char}
    (shown : isBlank letter = false)
    (rest : List Char) :
    skip (letter :: rest) = letter :: rest := by
  rw [skip, List.dropWhile_cons_of_neg (by simp [shown])]

theorem Units.parsed
    {text : List Char}
    {units : List Nat}
    (inside : Units text units)
    (rest : List Char) :
    parseUnits (text ++ '"' :: rest) = some (units, rest) := by
  induction inside with
  | nil =>
      rw [List.nil_append, parseUnits.eq_def]
      exact if_pos rfl
  | letter noQuote noBackslash noControl inside inductionHypothesis =>
      rw [List.cons_append, parseUnits.eq_def]
      dsimp only
      rw [if_neg noQuote, if_neg noBackslash, if_neg (by omega),
        inductionHypothesis]
      rfl
  | escape escaped inside inductionHypothesis =>
      rename_i name unit text units
      have noUnit : name ≠ 'u' := by
        rintro rfl
        cases escaped
      rw [List.cons_append, List.cons_append, parseUnits.eq_def]
      dsimp only
      rw [if_neg (by decide), if_pos rfl, if_neg noUnit, escaped,
        inductionHypothesis]
      rfl
  | hexadecimal escaped inside inductionHypothesis =>
      simp only [List.cons_append]
      rw [parseUnits.eq_def]
      dsimp only
      rw [if_neg (by decide), if_pos rfl, if_pos rfl, escaped,
        inductionHypothesis]
      rfl

theorem Quotes.parsed
    {text : List Char}
    {value : String}
    (quotes : Quotes text value) :
    ∃ inside,
      text = '"' :: inside ∧
        ∀ rest, parseString (inside ++ rest) = some (value, rest) := by
  obtain ⟨inside, paired⟩ := quotes
  rename_i text units
  refine ⟨text ++ ['"'], rfl, fun rest => ?_⟩
  rw [List.append_assoc, List.singleton_append, parseString,
    inside.parsed rest]
  dsimp only [Option.bind_eq_bind, Option.bind_some]
  rw [paired]
  dsimp only [Option.bind_some]
  rw [String.ofList_toList]
  rfl

/-- A value ends here: a blank, a comma or a bracket follows, or nothing. -/
def Closes (rest : List Char) : Prop :=
  ∀ letter ∈ rest.head?,
    isBlank letter = true ∨ letter = ',' ∨ letter = ']' ∨ letter = '\x7d'

theorem Closes.endsNumber
    {rest : List Char}
    (closes : Closes rest) :
    EndsNumber rest := by
  intro letter member
  rcases closes letter member with blank | rfl | rfl | rfl
  · simp only [isBlank, Bool.or_eq_true, decide_eq_true_eq] at blank
    rcases blank with ((rfl | rfl) | rfl) | rfl <;> decide
  · decide
  · decide
  · decide

theorem closes_cons
    {letter : Char}
    (closing : letter = ',' ∨ letter = ']' ∨ letter = '\x7d')
    (rest : List Char) :
    Closes (letter :: rest) := by
  rintro other ⟨⟩
  exact .inr closing

theorem Blank.closes
    {blank rest : List Char}
    (valid : Blank blank)
    (closes : Closes rest) :
    Closes (blank ++ rest) := by
  cases blank with
  | nil =>
      exact closes
  | cons letter blank =>
      rintro other ⟨⟩
      exact .inl (valid letter List.mem_cons_self)

theorem skip_skip (text : List Char) :
    skip (skip text) = skip text :=
  List.dropWhile_idempotent ..

theorem parseValue_skip
    (fuel : Nat)
    (text : List Char) :
    parseValue fuel (skip text) = parseValue fuel text := by
  cases fuel with
  | zero =>
      rfl
  | succ fuel =>
      rw [parseValue.eq_def, parseValue.eq_def]
      dsimp only
      rw [skip_skip]

theorem parseItems_skip
    (fuel : Nat)
    (text : List Char) :
    parseItems fuel (skip text) = parseItems fuel text := by
  cases fuel with
  | zero =>
      rfl
  | succ fuel =>
      rw [parseItems.eq_def, parseItems.eq_def]
      dsimp only
      rw [parseValue_skip]

theorem parseFields_skip
    (fuel : Nat)
    (text : List Char) :
    parseFields fuel (skip text) = parseFields fuel text := by
  cases fuel with
  | zero =>
      rfl
  | succ fuel =>
      rw [parseFields.eq_def, parseFields.eq_def]
      dsimp only
      rw [skip_skip]

/-- A digit or a sign is neither blank nor the beginning of another value. -/
theorem number_begins
    {first : Char}
    (number : first = '-' ∨ first.isDigit = true) :
    isBlank first = false ∧ first ≠ ']' ∧ first ≠ 'n' ∧ first ≠ 't' ∧
      first ≠ 'f' ∧ first ≠ '"' ∧ first ≠ '[' ∧ first ≠ '\x7b' := by
  rcases number with rfl | digit
  · decide
  · have differs {other : Char} (foreign : other.isDigit = false) :
        first ≠ other :=
      ne_of_isDigit digit foreign
    refine ⟨?_, differs (by decide), differs (by decide), differs (by decide),
      differs (by decide), differs (by decide), differs (by decide),
      differs (by decide)⟩
    simp [isBlank, @differs ' ' (by decide), @differs '\t' (by decide),
      @differs '\n' (by decide), @differs '\r' (by decide)]

/-- Behind its blanks a value does not begin with a closing bracket. -/
def Begins (text : List Char) : Prop :=
  ∃ first more, skip text = first :: more ∧ first ≠ ']'

theorem begins_cons
    {first : Char}
    (shown : isBlank first = false)
    (opens : first ≠ ']')
    (more : List Char) :
    Begins (first :: more) :=
  ⟨first, more, skip_cons shown more, opens⟩

theorem Begins.append
    {text : List Char}
    (begins : Begins text)
    (rest : List Char) :
    Begins (text ++ rest) := by
  obtain ⟨first, more, shown, opens⟩ := begins
  refine ⟨first, more ++ rest, ?_, opens⟩
  rw [skip] at shown ⊢
  rw [List.dropWhile_append, shown]
  rfl

theorem Writes.begins
    {text : List Char}
    {value : Json} :
    Writes text value → Begins text
  | .null | .yes | .no =>
      begins_cons (by decide) (by decide) _
  | .number numeral => by
      obtain ⟨first, more, rfl, number⟩ := numeral.exists_cons
      obtain ⟨shown, opens, -⟩ := number_begins number
      exact begins_cons shown opens more
  | .string quotes => by
      obtain ⟨inside, rfl, -⟩ := quotes.parsed
      exact begins_cons (by decide) (by decide) inside
  | .emptyArray _ | .array _ | .emptyObject _ | .object _ =>
      begins_cons (by decide) (by decide) _
  | .padded first inside _ => by
      obtain ⟨letter, more, shown, opens⟩ := inside.begins.append _
      exact ⟨letter, more, (skip_append first _).trans shown, opens⟩

theorem WritesItems.begins
    {text : List Char}
    {items : List Json}
    (written : WritesItems text items) :
    Begins text := by
  cases written with
  | last inside =>
      exact inside.begins
  | cons first others =>
      exact first.begins.append _

/-- Behind its blanks a field begins with a quote. -/
theorem WritesFields.begins
    {text : List Char}
    {fields : List (String × Json)}
    (written : WritesFields text fields)
    (rest : List Char) :
    ∃ more, skip (text ++ rest) = '"' :: more := by
  have general {before nameText : List Char} {name : String}
      (leading : Blank before) (named : Quotes nameText name)
      (behind : List Char) :
      ∃ more, skip (before ++ (nameText ++ behind) ++ rest) = '"' :: more := by
    obtain ⟨inside, rfl, -⟩ := named.parsed
    rw [List.append_assoc, skip_append leading]
    exact ⟨_, skip_cons (by decide) _⟩
  cases written with
  | last leading named _ _ =>
      exact general leading named _
  | cons leading named _ _ _ =>
      exact general leading named _

theorem parseLiteral_append
    (word rest : List Char)
    (value : Json) :
    parseLiteral word value (word ++ rest) = some (value, skip rest) := by
  rw [parseLiteral, if_pos (List.isPrefixOf_iff_prefix.mpr
    (List.prefix_append word rest)), List.drop_left]

theorem Writes.length_pos
    {text : List Char}
    {value : Json}
    (written : Writes text value) :
    0 < text.length := by
  obtain ⟨first, more, shown, -⟩ := written.begins
  cases text with
  | nil =>
      cases shown
  | cons letter text =>
      exact Nat.zero_lt_succ _

mutual

/-- The parser reads a value up to its end, and the blanks behind it. -/
theorem Writes.parsed
    {text : List Char}
    {value : Json} :
    Writes text value →
      ∀ {fuel : Nat} {rest : List Char},
        2 * text.length ≤ fuel →
          Closes rest →
            parseValue fuel (text ++ rest) = some (value, skip rest)
  | written, 0, rest, enough, _ => by
      have positive := written.length_pos
      omega
  | .null, fuel + 1, rest, _, _ =>
      parseLiteral_append "ull".toList rest .null
  | .yes, fuel + 1, rest, _, _ =>
      parseLiteral_append "rue".toList rest (.bool true)
  | .no, fuel + 1, rest, _, _ =>
      parseLiteral_append "alse".toList rest (.bool false)
  | .number numeral, fuel + 1, rest, _, closes => by
      have read := numeral.parsed closes.endsNumber
      obtain ⟨first, more, rfl, number⟩ := numeral.exists_cons
      obtain ⟨shown, -, noNull, noTrue, noFalse, noQuote, noBracket, noBrace⟩ :=
        number_begins number
      rw [List.cons_append] at read ⊢
      rw [parseValue.eq_def]
      dsimp only
      rw [skip_cons shown]
      dsimp only
      rw [if_neg noNull, if_neg noTrue, if_neg noFalse, if_neg noQuote,
        if_neg noBracket, if_neg noBrace, read]
      rfl
  | .string quotes, fuel + 1, rest, _, _ => by
      obtain ⟨inside, rfl, read⟩ := quotes.parsed
      rw [List.cons_append, parseValue.eq_def]
      dsimp only
      rw [skip_cons (by decide)]
      dsimp only
      rw [if_neg (by decide), if_neg (by decide), if_neg (by decide),
        if_pos rfl, read]
      rfl
  | .emptyArray inside, fuel + 1, rest, _, _ => by
      rw [List.cons_append, List.append_assoc, parseValue.eq_def]
      dsimp only
      rw [skip_cons (by decide)]
      dsimp only
      rw [if_neg (by decide), if_neg (by decide), if_neg (by decide),
        if_neg (by decide), if_pos rfl, skip_append inside,
        List.singleton_append, skip_cons (by decide)]
      rfl
  | .array inside, fuel + 1, rest, enough, _ => by
      have read := @WritesItems.parsed _ _ inside fuel rest (by
        rw [List.length_cons, List.length_append] at enough
        omega)
      obtain ⟨first, more, shown, opens⟩ := inside.begins.append (']' :: rest)
      rw [← parseItems_skip, shown] at read
      rw [List.cons_append, List.append_assoc, parseValue.eq_def]
      dsimp only
      rw [skip_cons (by decide)]
      dsimp only
      rw [if_neg (by decide), if_neg (by decide), if_neg (by decide),
        if_neg (by decide), if_pos rfl, List.singleton_append, shown]
      dsimp only
      rw [if_neg opens, read]
      rfl
  | .emptyObject inside, fuel + 1, rest, _, _ => by
      rw [List.cons_append, List.append_assoc, parseValue.eq_def]
      dsimp only
      rw [skip_cons (by decide)]
      dsimp only
      rw [if_neg (by decide), if_neg (by decide), if_neg (by decide),
        if_neg (by decide), if_neg (by decide), if_pos rfl,
        skip_append inside, List.singleton_append, skip_cons (by decide)]
      rfl
  | .object inside, fuel + 1, rest, enough, _ => by
      have read := @WritesFields.parsed _ _ inside fuel rest (by
        rw [List.length_cons, List.length_append] at enough
        omega)
      obtain ⟨more, shown⟩ := inside.begins ('\x7d' :: rest)
      rw [← parseFields_skip, shown] at read
      rw [List.cons_append, List.append_assoc, parseValue.eq_def]
      dsimp only
      rw [skip_cons (by decide)]
      dsimp only
      rw [if_neg (by decide), if_neg (by decide), if_neg (by decide),
        if_neg (by decide), if_neg (by decide), if_pos rfl,
        List.singleton_append, shown]
      dsimp only
      rw [if_neg (by decide), read]
      rfl
  | .padded first inside last, fuel + 1, rest, enough, closes => by
      rw [List.append_assoc, List.append_assoc, ← parseValue_skip,
        skip_append first, parseValue_skip,
        inside.parsed (by
          rw [List.length_append, List.length_append] at enough
          omega) (last.closes closes), skip_append last]

theorem WritesItems.parsed
    {text : List Char}
    {items : List Json} :
    WritesItems text items →
      ∀ {fuel : Nat} {rest : List Char},
        2 * text.length < fuel →
          parseItems fuel (text ++ ']' :: rest) = some (items, rest)
  | _, 0, _, enough => by
      omega
  | .last inside, fuel + 1, rest, enough => by
      rw [parseItems.eq_def]
      dsimp only
      rw [inside.parsed (by omega) (closes_cons (by decide) rest),
        skip_cons (by decide)]
      rfl
  | .cons first others, fuel + 1, rest, enough => by
      rw [List.length_append, List.length_cons] at enough
      rw [List.append_assoc, List.cons_append, parseItems.eq_def]
      dsimp only
      rw [first.parsed (by omega) (closes_cons (by decide) _),
        skip_cons (by decide)]
      dsimp only [Option.bind_eq_bind, Option.bind_some]
      rw [if_neg (by decide), if_pos rfl, others.parsed (by omega)]
      rfl

theorem WritesFields.parsed
    {text : List Char}
    {fields : List (String × Json)} :
    WritesFields text fields →
      ∀ {fuel : Nat} {rest : List Char},
        2 * text.length < fuel →
          parseFields fuel (text ++ '\x7d' :: rest) = some (fields, rest)
  | _, 0, _, enough => by
      omega
  | .last leading named trailing inside, fuel + 1, rest, enough => by
      obtain ⟨quoted, rfl, read⟩ := named.parsed
      simp only [List.length_append, List.length_cons] at enough
      simp only [List.append_assoc, List.cons_append]
      rw [parseFields.eq_def]
      dsimp only
      rw [skip_append leading, skip_cons (by decide)]
      dsimp only
      rw [if_pos rfl, read]
      dsimp only [Option.bind_eq_bind, Option.bind_some]
      rw [skip_append trailing, skip_cons (by decide)]
      dsimp only
      rw [if_pos rfl,
        inside.parsed (by omega) (closes_cons (by decide) rest),
        skip_cons (by decide)]
      rfl
  | .cons leading named trailing inside others, fuel + 1, rest, enough => by
      obtain ⟨quoted, rfl, read⟩ := named.parsed
      simp only [List.length_append, List.length_cons] at enough
      simp only [List.append_assoc, List.cons_append]
      rw [parseFields.eq_def]
      dsimp only
      rw [skip_append leading, skip_cons (by decide)]
      dsimp only
      rw [if_pos rfl, read]
      dsimp only [Option.bind_eq_bind, Option.bind_some]
      rw [skip_append trailing, skip_cons (by decide)]
      dsimp only
      rw [if_pos rfl,
        inside.parsed (by omega) (closes_cons (by decide) _),
        skip_cons (by decide)]
      dsimp only [Option.bind_some]
      rw [if_neg (by decide), if_pos rfl, others.parsed (by omega)]
      rfl

end

/-- The parser reads every text of the grammar. -/
theorem parse_of_writes
    {text : List Char}
    {value : Json}
    (written : Writes text value) :
    parse text = some value := by
  have read := @Writes.parsed _ _ written _ [] (Nat.le_refl _) (by simp [Closes])
  rw [List.append_nil] at read
  rw [parse, read]
  rfl

end JavaScript

end IgaScheduler

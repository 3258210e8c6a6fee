import IgaScheduler.JsonText

namespace IgaScheduler

/-!
# `JSON.parse(JSON.stringify(value))`

A value as JavaScript builds it is printed, with or without indentation, as a
text that is read as the value.
-/

namespace JavaScript

open Utf8Chunks (codeUnits utf16)

/-! ## Values as JavaScript builds them -/

/-- The first name may stand in front of the second one in an object. -/
def precedes (first second : String) : Bool :=
  first ≠ second &&
    match arrayIndex? first, arrayIndex? second with
    | _, none => true
    | none, some _ => false
    | some index, some next => index ≤ next

mutual

/-- Numbers have one form, and the names of an object one order. -/
def built : Json → Bool
  | .num mantissa exponent => decide (InLowestTerms mantissa exponent)
  | .arr items => builtItems items
  | .obj fields =>
      decide (fields.Pairwise fun first second => precedes first.1 second.1) &&
        builtFields fields
  | _ => true

def builtItems : List Json → Bool
  | [] => true
  | item :: rest => built item && builtItems rest

def builtFields : List (String × Json) → Bool
  | [] => true
  | (_, value) :: rest => built value && builtFields rest

end

/-! ## Objects are built from their own fields -/

theorem foldl_assign
    {fields entries : List (String × Json)}
    (distinct : (fields ++ entries).Pairwise fun first second =>
      first.1 ≠ second.1) :
    entries.foldl assign fields = fields ++ entries := by
  induction entries generalizing fields with
  | nil =>
      rw [List.foldl_nil, List.append_nil]
  | cons entry rest inductionHypothesis =>
      have fresh : assign fields entry = fields ++ [entry] := by
        refine if_neg ?_
        rw [Bool.not_eq_true, List.any_eq_false]
        intro field member same
        exact (List.pairwise_append.mp distinct).2.2 field member entry
          List.mem_cons_self (of_decide_eq_true same)
      rw [List.foldl_cons, fresh, inductionHypothesis]
      · rw [List.append_assoc, List.singleton_append]
      · rw [List.append_assoc, List.singleton_append]
        exact distinct

/-- Where what passes the test comes first, the parts stay in their order. -/
theorem filter_append_filter
    {α : Type}
    {test : α → Bool}
    {list : List α}
    (first : list.Pairwise fun before behind =>
      test behind = true → test before = true) :
    list.filter test ++ list.filter (fun entry => !test entry) = list := by
  induction list with
  | nil =>
      rfl
  | cons entry rest inductionHypothesis =>
      rw [List.pairwise_cons] at first
      by_cases passes : test entry = true
      · rw [List.filter_cons_of_pos passes,
          List.filter_cons_of_neg (by simp [passes]), List.cons_append,
          inductionHypothesis first.2]
      · have none : rest.filter test = [] :=
          List.filter_eq_nil_iff.mpr fun other member other' =>
            passes (first.1 other member other')
        have all : rest.filter (fun entry => !test entry) = rest := by
          refine List.filter_eq_self.mpr fun other member => ?_
          have fails := List.filter_eq_nil_iff.mp none other member
          simpa using fails
        rw [List.filter_cons_of_neg passes,
          List.filter_cons_of_pos (by simp [passes]), none, all]
        rfl

theorem precedes_spec
    {first second : String}
    (ordered : precedes first second = true) :
    first ≠ second ∧
      ((arrayIndex? second).isSome = true →
        (arrayIndex? first).isSome = true ∧
          (arrayIndex? first).getD 0 ≤ (arrayIndex? second).getD 0) := by
  unfold precedes at ordered
  rw [Bool.and_eq_true] at ordered
  refine ⟨of_decide_eq_true ordered.1, fun some => ?_⟩
  cases left : arrayIndex? first <;> cases right : arrayIndex? second <;>
    simp_all

theorem fromEntries_eq
    {fields : List (String × Json)}
    (ordered : fields.Pairwise fun first second =>
      precedes first.1 second.1 = true) :
    fromEntries fields = fields := by
  have distinct :
      fields.foldl assign [] = fields :=
    foldl_assign (ordered.imp fun before => (precedes_spec before).1)
  have sorted :
      (fields.filter fun field => (arrayIndex? field.1).isSome).Pairwise
        fun first second =>
          decide ((arrayIndex? first.1).getD 0 ≤
            (arrayIndex? second.1).getD 0) = true := by
    refine (List.Pairwise.filter _ ordered).imp_of_mem ?_
    intro first second _ member before
    exact decide_eq_true
      ((precedes_spec before).2 (List.mem_filter.mp member).2).2
  have parts :=
    @filter_append_filter _ (fun field : String × Json =>
      (arrayIndex? field.1).isSome) fields
      (ordered.imp fun before some => ((precedes_spec before).2 some).1)
  rw [fromEntries, distinct, inOrder, List.partition_eq_filter_filter]
  dsimp only
  rw [List.mergeSort_of_pairwise sorted]
  exact parts

/-! ## Strings -/

theorem scalars?_codeUnits
    (letter : Char)
    (rest : List Nat) :
    scalars? (codeUnits letter.toNat ++ rest) =
      (scalars? rest).map fun letters => letter :: letters := by
  have valid := letter.valid
  unfold UInt32.isValidChar Nat.isValidChar at valid
  have scalar :
      letter.toNat < 0xD800 ∨ 0xDFFF < letter.toNat ∧ letter.toNat < 0x110000 :=
    valid
  have back : Char.ofNat letter.toNat = letter := Char.ofNat_toNat letter
  unfold codeUnits
  split
  · rw [List.singleton_append, scalars?.eq_def]
    dsimp only
    rw [if_neg (by omega), if_neg (by omega), back]
  · rename_i pair
    rw [List.cons_append, List.singleton_append, scalars?.eq_def]
    dsimp only
    rw [if_pos (by omega), if_pos (by omega)]
    have whole :
        0x10000 +
            (0xD800 + (letter.toNat - 0x10000) / 0x400 - 0xD800) * 0x400 +
            (0xDC00 + (letter.toNat - 0x10000) % 0x400 - 0xDC00) =
          letter.toNat := by
      omega
    rw [whole, back]

theorem scalars?_utf16 (text : List Char) :
    scalars? (utf16 text) = some text := by
  induction text with
  | nil =>
      rfl
  | cons letter rest inductionHypothesis =>
      rw [utf16, List.flatMap_cons, scalars?_codeUnits]
      rw [utf16] at inductionHypothesis
      rw [inductionHypothesis]
      rfl

theorem hexDigit?_digitChar
    {digit : Nat}
    (small : digit < 16) :
    hexDigit? (Nat.digitChar digit) = some digit := by
  interval_cases digit <;> decide

/-- A letter in quotes is read as itself. -/
theorem units_quotedChar
    (letter : Char)
    {text : List Char}
    {units : List Nat}
    (rest : Units text units) :
    Units (quotedChar letter ++ text) (codeUnits letter.toNat ++ units) := by
  unfold quotedChar
  split
  · rename_i quote
    subst quote
    exact @Units.escape _ 34 _ _ rfl rest
  split
  · rename_i backslash
    subst backslash
    exact @Units.escape _ 92 _ _ rfl rest
  split
  · rename_i backspace
    subst backspace
    exact @Units.escape _ 8 _ _ rfl rest
  split
  · rename_i formFeed
    subst formFeed
    exact @Units.escape _ 12 _ _ rfl rest
  split
  · rename_i newline
    subst newline
    exact @Units.escape _ 10 _ _ rfl rest
  split
  · rename_i carriageReturn
    subst carriageReturn
    exact @Units.escape _ 13 _ _ rfl rest
  split
  · rename_i tab
    subst tab
    exact @Units.escape _ 9 _ _ rfl rest
  rename_i noQuote noBackslash _ _ _ _ _
  split
  · rename_i control
    have single : codeUnits letter.toNat = [letter.toNat] :=
      if_pos (by omega)
    rw [single]
    refine .hexadecimal ?_ rest
    have first := @hexDigit?_digitChar (letter.toNat / 16) (by omega)
    have second := @hexDigit?_digitChar (letter.toNat % 16) (by omega)
    have zero : hexDigit? '0' = some 0 := by decide
    rw [hexUnit?, zero, first, second]
    dsimp only [Option.bind_eq_bind, Option.bind_some]
    exact congrArg some (by omega)
  · rename_i plain
    exact .letter noQuote noBackslash (Nat.not_lt.mp plain) rest

theorem units_flatMap (text : List Char) :
    Units (text.flatMap quotedChar) (utf16 text) := by
  induction text with
  | nil =>
      exact .nil
  | cons letter rest inductionHypothesis =>
      rw [List.flatMap_cons, utf16, List.flatMap_cons]
      exact units_quotedChar letter inductionHypothesis

theorem quotes_quoted (value : String) :
    Quotes (quoted value).toList value := by
  rw [quoted, String.toList_ofList]
  exact .string (units_flatMap _) (scalars?_utf16 _)

/-! ## `JSON.stringify` -/

theorem toList_intercalate_comma
    (text next : String)
    (rest : List String) :
    (",".intercalate (text :: next :: rest)).toList =
      text.toList ++ ',' :: (",".intercalate (next :: rest)).toList := by
  rw [String.intercalate_cons_cons, String.toList_append,
    String.toList_append]
  exact List.append_assoc ..

/-- A text between two others. -/
theorem toList_enclosed (opening text closing : String) :
    (opening ++ text ++ closing).toList =
      opening.toList ++ (text.toList ++ closing.toList) := by
  rw [String.toList_append, String.toList_append, List.append_assoc]

theorem blank_nil : Blank [] := by
  simp [Blank]

/-- A field without anything blank. -/
theorem toList_field
    (name : String)
    (value : Json)
    (rest : List Char) :
    (quoted name ++ ":" ++ stringify value).toList ++ rest =
      [] ++ ((quoted name).toList ++
        ([] ++ ':' :: ((stringify value).toList ++ rest))) := by
  rw [toList_enclosed, List.append_assoc, List.append_assoc]
  rfl

mutual

theorem writes_stringify :
    ∀ {value : Json}, built value = true →
      Writes (stringify value).toList value
  | .null, _ => .null
  | .bool true, _ => .yes
  | .bool false, _ => .no
  | .num _ _, valid => .number (numeral_numberText (of_decide_eq_true valid))
  | .str value, _ => .string (quotes_quoted value)
  | .arr [], _ => Writes.emptyArray blank_nil
  | .arr (item :: items), valid => by
      rw [stringify, toList_enclosed]
      exact .array (writesItems_stringify (List.cons_ne_nil _ _) valid)
  | .obj [], _ => Writes.emptyObject blank_nil
  | .obj (field :: fields), valid => by
      rw [built, Bool.and_eq_true] at valid
      have written := Writes.object
        (writesFields_stringify (List.cons_ne_nil _ _) valid.2)
      rw [fromEntries_eq (of_decide_eq_true valid.1)] at written
      rw [stringify, toList_enclosed]
      exact written

theorem writesItems_stringify :
    ∀ {items : List Json}, items ≠ [] → builtItems items = true →
      WritesItems (",".intercalate (stringifyItems items)).toList items
  | [], nonempty, _ => absurd rfl nonempty
  | [item], _, valid => by
      rw [builtItems, Bool.and_eq_true] at valid
      rw [stringifyItems, stringifyItems, String.intercalate_singleton]
      exact .last (writes_stringify valid.1)
  | item :: next :: items, _, valid => by
      rw [builtItems, Bool.and_eq_true] at valid
      rw [stringifyItems, stringifyItems, toList_intercalate_comma,
        ← stringifyItems]
      exact .cons (writes_stringify valid.1)
        (writesItems_stringify (List.cons_ne_nil _ _) valid.2)

theorem writesFields_stringify :
    ∀ {fields : List (String × Json)}, fields ≠ [] →
      builtFields fields = true →
        WritesFields (",".intercalate (stringifyFields fields)).toList fields
  | [], nonempty, _ => absurd rfl nonempty
  | [(name, value)], _, valid => by
      rw [builtFields, Bool.and_eq_true] at valid
      rw [stringifyFields, stringifyFields, String.intercalate_singleton,
        ← List.append_nil (String.toList _), toList_field, List.append_nil]
      exact .last blank_nil (quotes_quoted name) blank_nil
        (writes_stringify valid.1)
  | (name, value) :: (nextName, next) :: fields, _, valid => by
      rw [builtFields, Bool.and_eq_true] at valid
      rw [stringifyFields, stringifyFields, toList_intercalate_comma,
        ← stringifyFields, toList_field]
      exact .cons blank_nil (quotes_quoted name) blank_nil
        (writes_stringify valid.1)
        (writesFields_stringify (List.cons_ne_nil _ _) valid.2)

end

/-- `JSON.parse(JSON.stringify(value))`. -/
theorem parse_stringify
    {value : Json}
    (valid : built value = true) :
    parse (stringify value).toList = some value :=
  parse_of_writes (writes_stringify valid)

/-! ## `JSON.stringify` with indentation -/

theorem Blank.append
    {first second : List Char}
    (leading : Blank first)
    (trailing : Blank second) :
    Blank (first ++ second) :=
  List.forall_mem_append.mpr ⟨leading, trailing⟩

theorem Blank.newLine
    {indent : List Char}
    (spaces : Blank indent) :
    Blank ('\n' :: indent) :=
  List.forall_mem_cons.mpr ⟨by decide, spaces⟩

theorem Blank.deeper
    {indent : String}
    (spaces : Blank indent.toList) :
    Blank (indent ++ "  ").toList := by
  rw [String.toList_append]
  exact spaces.append (by simp [Blank, isBlank])

/-- Lines between brackets. -/
theorem toList_bracketed
    (opening closing indent line : String)
    (lines : List String) :
    (bracketed opening closing indent (line :: lines)).toList =
      opening.toList ++
        ('\n' :: ((",\n".intercalate (line :: lines)).toList ++
          '\n' :: indent.toList) ++ closing.toList) := by
  rw [bracketed, if_neg (by simp)]
  simp only [String.toList_append, List.append_assoc, List.cons_append]
  rfl

theorem toList_intercalate_line
    (line next : String)
    (rest : List String) :
    (",\n".intercalate (line :: next :: rest)).toList =
      line.toList ++
        ',' :: '\n' :: (",\n".intercalate (next :: rest)).toList := by
  rw [String.intercalate_cons_cons, String.toList_append,
    String.toList_append]
  exact List.append_assoc ..

/-- The line of an item, and what is blank around it. -/
theorem writes_line
    {indent text behind : List Char}
    {value : Json}
    (spaces : Blank indent)
    (written : Writes text value)
    (last : Blank behind) :
    Writes ('\n' :: (indent ++ text ++ behind)) value := by
  have padded := Writes.padded spaces.newLine written last
  rw [List.cons_append, ← List.append_assoc] at padded
  exact padded

/-- The line of a field, up to its value. -/
theorem toList_fieldLine
    (indent name text : String)
    (behind : List Char) :
    '\n' :: ((indent ++ quoted name ++ ": " ++ text).toList ++ behind) =
      ('\n' :: indent.toList) ++ ((quoted name).toList ++
        ([] ++ ':' :: ([' '] ++ (text.toList ++ behind)))) := by
  simp only [String.toList_append, List.append_assoc]
  rfl

mutual

theorem writes_stringifyIndented :
    ∀ {value : Json} {indent : String}, Blank indent.toList →
      built value = true →
        Writes (stringifyIndented indent value).toList value
  | .null, _, _, valid => writes_stringify valid
  | .bool _, _, _, valid => writes_stringify valid
  | .num _ _, _, _, valid => writes_stringify valid
  | .str _, _, _, valid => writes_stringify valid
  | .arr [], _, _, _ => by
      rw [stringifyIndented, stringifyItemLines, bracketed,
        if_pos List.isEmpty_nil]
      exact .emptyArray blank_nil
  | .arr (item :: items), indent, spaces, valid => by
      rw [stringifyIndented, stringifyItemLines, toList_bracketed,
        ← stringifyItemLines]
      exact .array (writesItems_lines spaces.deeper (List.cons_ne_nil _ _)
        valid spaces.newLine)
  | .obj [], _, _, _ => by
      rw [stringifyIndented, stringifyFieldLines, bracketed,
        if_pos List.isEmpty_nil]
      exact .emptyObject blank_nil
  | .obj ((name, value) :: fields), indent, spaces, valid => by
      rw [built, Bool.and_eq_true] at valid
      have written := Writes.object
        (writesFields_lines spaces.deeper (List.cons_ne_nil _ _) valid.2
          spaces.newLine)
      rw [fromEntries_eq (of_decide_eq_true valid.1)] at written
      rw [stringifyIndented, stringifyFieldLines, toList_bracketed,
        ← stringifyFieldLines]
      exact written

theorem writesItems_lines :
    ∀ {items : List Json} {indent : String} {behind : List Char},
      Blank indent.toList → items ≠ [] → builtItems items = true →
        Blank behind →
          WritesItems
            ('\n' ::
              ((",\n".intercalate (stringifyItemLines indent items)).toList ++
                behind))
            items
  | [], _, _, _, nonempty, _, _ => absurd rfl nonempty
  | [item], indent, behind, spaces, _, valid, last => by
      rw [builtItems, Bool.and_eq_true] at valid
      rw [stringifyItemLines, stringifyItemLines,
        String.intercalate_singleton, String.toList_append]
      exact .last (writes_line spaces
        (writes_stringifyIndented spaces valid.1) last)
  | item :: next :: items, indent, behind, spaces, _, valid, last => by
      rw [builtItems, Bool.and_eq_true] at valid
      rw [stringifyItemLines, stringifyItemLines, toList_intercalate_line,
        ← stringifyItemLines, String.toList_append, List.append_assoc,
        List.cons_append, List.cons_append]
      have written := writes_line spaces
        (writes_stringifyIndented spaces valid.1) blank_nil
      rw [List.append_nil] at written
      exact .cons written (writesItems_lines spaces (List.cons_ne_nil _ _)
        valid.2 last)

theorem writesFields_lines :
    ∀ {fields : List (String × Json)} {indent : String} {behind : List Char},
      Blank indent.toList → fields ≠ [] → builtFields fields = true →
        Blank behind →
          WritesFields
            ('\n' ::
              ((",\n".intercalate
                (stringifyFieldLines indent fields)).toList ++ behind))
            fields
  | [], _, _, _, nonempty, _, _ => absurd rfl nonempty
  | [(name, value)], indent, behind, spaces, _, valid, last => by
      rw [builtFields, Bool.and_eq_true] at valid
      rw [stringifyFieldLines, stringifyFieldLines,
        String.intercalate_singleton, toList_fieldLine]
      exact .last spaces.newLine (quotes_quoted name) blank_nil
        (.padded (by simp [Blank, isBlank])
          (writes_stringifyIndented spaces valid.1) last)
  | (name, value) :: (nextName, next) :: fields, indent, behind, spaces, _,
      valid, last => by
      rw [builtFields, Bool.and_eq_true] at valid
      have written := @Writes.padded [' '] _ [] _ (by simp [Blank, isBlank])
        (writes_stringifyIndented spaces valid.1) blank_nil
      have others := writesFields_lines spaces (List.cons_ne_nil _ _) valid.2
        last
      have all := WritesFields.cons spaces.newLine (quotes_quoted name)
        blank_nil written others
      rw [stringifyFieldLines, stringifyFieldLines, toList_intercalate_line,
        ← stringifyFieldLines, List.append_assoc, toList_fieldLine]
      rw [List.append_nil, List.append_assoc] at all
      exact all

end

/-- `JSON.parse(JSON.stringify(value, null, 2))`. -/
theorem parse_stringifyIndented
    {value : Json}
    (valid : built value = true) :
    parse (stringifyIndented "" value).toList = some value :=
  parse_of_writes (writes_stringifyIndented blank_nil valid)

end JavaScript

end IgaScheduler

import IgaScheduler.JobOutput

namespace IgaScheduler.JobOutput

/-!
# Results across the output of a process

The capture keeps the first code units of what the chunks decode to, so that
the line of a result is found when it is not cut off and no chunk ended inside
one of its letters.
-/

open TextLines (StartsLine Terminated)
open Utf8Chunks (Decoded Reads SplitsLetter bytes codeUnits decode encode events
  isAscii run utf16)

/-! ## The capture -/

theorem unitBytes_pos (unit : Nat) : 0 < unitBytes unit := by
  unfold unitBytes
  split
  · decide
  · split <;> decide

/-- A text has at least as many bytes as code units. -/
theorem length_le_byteLength (text : List Nat) :
    text.length ≤ byteLength text := by
  induction text using byteLength.induct with
  | case1 =>
      exact Nat.le_refl _
  | case2 unit =>
      exact unitBytes_pos unit
  | case3 unit next rest pair inductionHypothesis =>
      rw [byteLength, if_pos pair]
      simp only [List.length_cons]
      omega
  | case4 unit next rest single inductionHypothesis =>
      have positive := unitBytes_pos unit
      rw [byteLength, if_neg single]
      simp only [List.length_cons] at inductionHypothesis ⊢
      omega

/-- Appending to the first units of a text gives the first units of both. -/
theorem appendWithLimit_take
    (done : List Nat)
    (chunk : List UInt8)
    (maxBytes : Nat) :
    (appendWithLimit (done.take maxBytes) chunk maxBytes).value =
      (done ++ decode chunk).take maxBytes := by
  unfold appendWithLimit
  dsimp only
  by_cases fits : byteLength (done.take maxBytes ++ decode chunk) ≤ maxBytes
  · rw [if_pos fits]
    have short := Nat.le_trans (length_le_byteLength _) fits
    rw [List.length_append, List.length_take] at short
    by_cases whole : done.length ≤ maxBytes
    · rw [List.take_of_length_le whole, List.take_of_length_le]
      rw [List.length_append]
      omega
    · have nothing : decode chunk = [] := by
        apply List.eq_nil_of_length_eq_zero
        omega
      rw [nothing, List.append_nil, List.append_nil]
  · rw [if_neg fits]
    dsimp only
    rw [List.take_append, List.take_append, List.take_take, Nat.min_self,
      List.length_take]
    congr 2
    omega

/-- The capture is the beginning of what the chunks decode to. -/
theorem capture_value
    (maxBytes : Nat)
    (chunks : List (List UInt8)) :
    (capture maxBytes chunks).value =
      (chunks.flatMap decode).take maxBytes := by
  have general (done : List Nat) (captured : Captured)
      (value : captured.value = done.take maxBytes) :
      (chunks.foldl (fun captured chunk =>
          let appended := appendWithLimit captured.value chunk maxBytes
          { value := appended.value
            truncated := captured.truncated || appended.truncated : Captured })
        captured).value = (done ++ chunks.flatMap decode).take maxBytes := by
    induction chunks generalizing done captured with
    | nil =>
        rw [List.flatMap_nil, List.append_nil]
        exact value
    | cons chunk rest inductionHypothesis =>
        rw [List.foldl_cons, List.flatMap_cons, ← List.append_assoc]
        apply inductionHypothesis
        dsimp only
        rw [value, appendWithLimit_take]
  exact general [] _ List.take_nil.symm

/-! ## The bytes of texts -/

theorem byteLength_cons
    {unit : Nat}
    (notHigh : isHighSurrogate unit = false)
    (rest : List Nat) :
    byteLength (unit :: rest) = unitBytes unit + byteLength rest := by
  cases rest with
  | nil =>
      rfl
  | cons next rest =>
      rw [byteLength, notHigh, Bool.false_and, if_neg Bool.false_ne_true]

theorem byteLength_codeUnits
    (letter : Char)
    (rest : List Nat) :
    byteLength (codeUnits letter.toNat ++ rest) =
      (String.utf8EncodeChar letter).length + byteLength rest := by
  have valid := letter.valid
  unfold UInt32.isValidChar Nat.isValidChar at valid
  unfold String.utf8EncodeChar codeUnits Char.toNat
  generalize letter.val.toNat = value at *
  dsimp only
  by_cases single : value < 0x10000
  · have notHigh : isHighSurrogate value = false := by
      rw [isHighSurrogate, Bool.and_eq_false_iff, decide_eq_false_iff_not,
        decide_eq_false_iff_not]
      omega
    rw [if_pos single, List.singleton_append, byteLength_cons notHigh]
    congr 1
    unfold unitBytes
    by_cases one : value ≤ 0x7F
    · rw [if_pos (by omega), if_pos one]
      rfl
    rw [if_neg (by omega), if_neg one]
    by_cases two : value ≤ 0x7FF
    · rw [if_pos (by omega), if_pos two]
      rfl
    rw [if_neg (by omega), if_neg two, if_pos (by omega)]
    rfl
  · rw [if_neg single, if_neg (by omega), if_neg (by omega),
      if_neg (by omega), List.cons_append, List.singleton_append, byteLength,
      if_pos]
    · rfl
    · simp only [isHighSurrogate, isLowSurrogate, Bool.and_eq_true,
        decide_eq_true_eq]
      omega

theorem byteLength_utf16 (text : List Char) :
    byteLength (utf16 text) = (encode text).length := by
  induction text with
  | nil =>
      rfl
  | cons letter rest inductionHypothesis =>
      rw [utf16, List.flatMap_cons, byteLength_codeUnits, encode,
        List.flatMap_cons, List.length_append]
      exact congrArg _ inductionHypothesis

theorem byteLength_stringify (value : Json) :
    byteLength (utf16 (JavaScript.stringify value).toList) =
      JavaScript.byteLength value := by
  rw [byteLength_utf16, JavaScript.byteLength, ← String.size_toByteArray,
    ← String.utf8Encode_toList]
  simp [List.utf8Encode, encode]

/-! ## The text of a value -/

/-- No line ends inside the text. -/
def OneLine (text : List Char) : Prop :=
  ∀ letter ∈ text, letter ≠ '\n' ∧ letter ≠ '\r'

instance (text : List Char) : Decidable (OneLine text) :=
  decidable_of_iff
    (text.all fun letter => letter ≠ '\n' && letter ≠ '\r')
    (by simp [OneLine])

theorem OneLine.append
    {first second : List Char}
    (firstLine : OneLine first)
    (secondLine : OneLine second) :
    OneLine (first ++ second) := by
  intro letter member
  rcases List.mem_append.mp member with inFirst | inSecond
  · exact firstLine letter inFirst
  · exact secondLine letter inSecond

theorem digitChar_oneLine
    {digit : Nat}
    (small : digit < 16) :
    Nat.digitChar digit ≠ '\n' ∧ Nat.digitChar digit ≠ '\r' := by
  interval_cases digit <;> decide

theorem quotedChar_oneLine (letter : Char) :
    OneLine (JavaScript.quotedChar letter) := by
  unfold JavaScript.quotedChar
  split
  · decide
  split
  · decide
  split
  · decide
  split
  · decide
  split
  · decide
  split
  · decide
  split
  · decide
  split
  · rename_i control
    have high := @digitChar_oneLine (letter.toNat / 16) (by omega)
    have low := @digitChar_oneLine (letter.toNat % 16) (by omega)
    intro other member
    simp only [List.mem_cons, List.not_mem_nil, or_false] at member
    rcases member with rfl | rfl | rfl | rfl | rfl | rfl
    · decide
    · decide
    · decide
    · decide
    · exact high
    · exact low
  · rename_i notNewline notReturn _ _
    intro other member
    rw [List.mem_singleton] at member
    rw [member]
    exact ⟨notNewline, notReturn⟩

theorem quoted_oneLine (value : String) :
    OneLine (JavaScript.quoted value).toList := by
  intro letter member
  rw [JavaScript.quoted, String.toList_ofList] at member
  simp only [List.cons_append, List.mem_cons, List.mem_append,
    List.mem_flatMap, List.not_mem_nil, or_false] at member
  rcases member with rfl | ⟨source, -, inside⟩ | rfl
  · decide
  · exact quotedChar_oneLine source letter inside
  · decide

/-- The letters that numbers are written with. -/
def NumberLetter (letter : Char) : Prop :=
  letter.isDigit = true ∨ letter ∈ ['-', '+', '.', 'e']

instance (letter : Char) : Decidable (NumberLetter letter) :=
  inferInstanceAs (Decidable (_ ∨ _))

theorem toDigits_letters (number : Nat) :
    ∀ letter ∈ Nat.toDigits 10 number, NumberLetter letter := by
  intro letter member
  exact .inl (Nat.isDigit_of_mem_toDigits (by decide) (by decide) member)

theorem magnitudeText_letters
    {digits : List Char}
    (numbers : ∀ letter ∈ digits, NumberLetter letter)
    (point : Int) :
    ∀ letter ∈ JavaScript.magnitudeText digits point, NumberLetter letter := by
  have zeros (count : Nat) :
      ∀ letter ∈ List.replicate count '0', NumberLetter letter := by
    intro letter member
    rw [List.eq_of_mem_replicate member]
    decide
  have kept (count : Nat) :
      ∀ letter ∈ digits.take count, NumberLetter letter :=
    fun letter member => numbers letter (List.mem_of_mem_take member)
  have dropped (count : Nat) :
      ∀ letter ∈ digits.drop count, NumberLetter letter :=
    fun letter member => numbers letter (List.mem_of_mem_drop member)
  unfold JavaScript.magnitudeText
  dsimp only
  split
  · rw [List.forall_mem_append]
    exact ⟨numbers, zeros _⟩
  split
  · rw [List.forall_mem_append, List.forall_mem_cons]
    exact ⟨kept _, by decide, dropped _⟩
  split
  · rw [List.forall_mem_cons, List.forall_mem_cons, List.forall_mem_append]
    exact ⟨by decide, by decide, zeros _, numbers⟩
  · rw [List.forall_mem_append, List.forall_mem_append, List.forall_mem_cons,
      List.forall_mem_cons]
    refine ⟨⟨kept _, ?_⟩, by decide, ?_, toDigits_letters _⟩
    · split
      · simp
      · rename_i fraction _
        rw [List.forall_mem_cons]
        exact ⟨by decide, dropped 1⟩
    · split <;> decide

theorem numberText_letters
    (mantissa : Int)
    (exponent : Nat) :
    ∀ letter ∈ (JavaScript.numberText mantissa exponent).toList,
      NumberLetter letter := by
  unfold JavaScript.numberText
  split
  · intro letter member
    rw [show letter = '0' from List.mem_singleton.mp member]
    decide
  · have digits :
        ∀ letter ∈ (JavaScript.significant mantissa.natAbs exponent).1,
          NumberLetter letter := by
      intro letter member
      exact toDigits_letters mantissa.natAbs letter
        ((List.rdropWhile_prefix _ _).subset member)
    have magnitude := magnitudeText_letters digits
      (JavaScript.significant mantissa.natAbs exponent).2
    dsimp only
    rw [String.toList_ofList]
    split
    · rw [List.forall_mem_cons]
      exact ⟨by decide, magnitude⟩
    · exact magnitude

theorem NumberLetter.oneLine
    {text : List Char}
    (numbers : ∀ letter ∈ text, NumberLetter letter) :
    OneLine text := by
  intro letter member
  constructor
  · rintro rfl
    exact absurd (numbers _ member) (by decide)
  · rintro rfl
    exact absurd (numbers _ member) (by decide)

theorem intercalate_oneLine
    {texts : List String}
    (oneLines : ∀ text ∈ texts, OneLine text.toList) :
    OneLine (",".intercalate texts).toList := by
  induction texts with
  | nil =>
      rw [String.intercalate_nil]
      decide
  | cons text rest inductionHypothesis =>
      rw [List.forall_mem_cons] at oneLines
      cases rest with
      | nil =>
          rw [String.intercalate_singleton]
          exact oneLines.1
      | cons next rest =>
          rw [String.intercalate_cons_cons, String.toList_append,
            String.toList_append]
          exact (oneLines.1.append (by decide)).append
            (inductionHypothesis oneLines.2)

mutual

theorem stringify_oneLine :
    ∀ value, OneLine (JavaScript.stringify value).toList
  | .null => by
      decide
  | .bool value => by
      cases value <;> decide
  | .num mantissa exponent => by
      rw [JavaScript.stringify]
      exact NumberLetter.oneLine (numberText_letters mantissa exponent)
  | .str value => by
      rw [JavaScript.stringify]
      exact quoted_oneLine value
  | .arr items => by
      have inside := intercalate_oneLine (stringifyItems_oneLine items)
      rw [JavaScript.stringify, String.toList_append, String.toList_append]
      exact (OneLine.append (by decide) inside).append (by decide)
  | .obj fields => by
      have inside := intercalate_oneLine (stringifyFields_oneLine fields)
      rw [JavaScript.stringify, String.toList_append, String.toList_append]
      exact (OneLine.append (by decide) inside).append (by decide)

theorem stringifyItems_oneLine :
    ∀ items, ∀ text ∈ JavaScript.stringifyItems items, OneLine text.toList
  | [] => by
      rw [JavaScript.stringifyItems]
      simp
  | item :: rest => by
      rw [JavaScript.stringifyItems, List.forall_mem_cons]
      exact ⟨stringify_oneLine item, stringifyItems_oneLine rest⟩

theorem stringifyFields_oneLine :
    ∀ fields, ∀ text ∈ JavaScript.stringifyFields fields, OneLine text.toList
  | [] => by
      rw [JavaScript.stringifyFields]
      simp
  | (name, value) :: rest => by
      rw [JavaScript.stringifyFields, List.forall_mem_cons,
        String.toList_append, String.toList_append]
      exact ⟨((quoted_oneLine name).append (by decide)).append
        (stringify_oneLine value), stringifyFields_oneLine rest⟩

end

theorem NumberLetter.ascii
    {letter : Char}
    (number : NumberLetter letter) :
    letter.toNat < 0x80 := by
  rcases number with digit | sign
  · simp only [Char.isDigit, Bool.and_eq_true, decide_eq_true_eq] at digit
    have bound := UInt32.le_iff_toNat_le.mp digit.2
    exact Nat.lt_of_le_of_lt bound (by decide)
  · simp only [List.mem_cons, List.not_mem_nil, or_false] at sign
    rcases sign with rfl | rfl | rfl | rfl <;> decide

/-- The text of a value ends with a letter of ASCII. -/
theorem stringify_ends (value : Json) :
    ∃ text last,
      (JavaScript.stringify value).toList = text ++ [last] ∧
        last.toNat < 0x80 := by
  cases value with
  | null =>
      exact ⟨['n', 'u', 'l'], 'l', by decide, by decide⟩
  | bool value =>
      cases value with
      | true => exact ⟨['t', 'r', 'u'], 'e', by decide, by decide⟩
      | false => exact ⟨['f', 'a', 'l', 's'], 'e', by decide, by decide⟩
  | num mantissa exponent =>
      have numbers := numberText_letters mantissa exponent
      have nonempty := JavaScript.numberText_ne_empty mantissa exponent
      rw [JavaScript.stringify]
      rcases List.eq_nil_or_concat'
        (JavaScript.numberText mantissa exponent).toList with
        empty | ⟨text, last, shape⟩
      · exact absurd (String.toList_eq_nil_iff.mp empty) nonempty
      · refine ⟨text, last, shape, (numbers last ?_).ascii⟩
        rw [shape]
        simp
  | str value =>
      rw [JavaScript.stringify, JavaScript.quoted, String.toList_ofList]
      exact ⟨_, '"', rfl, by decide⟩
  | arr items =>
      rw [JavaScript.stringify, String.toList_append]
      exact ⟨_, ']', rfl, by decide⟩
  | obj fields =>
      rw [JavaScript.stringify, String.toList_append]
      exact ⟨_, '\x7d', rfl, by decide⟩

/-! ## Marks in what is decoded -/

/-- Nothing is read only from nothing. -/
theorem reads_nil
    {read : List UInt8}
    {units : List Nat}
    (reads : Reads read units)
    (nothing : units = []) :
    read = [] := by
  cases reads with
  | nil =>
      rfl
  | ascii _ _ =>
      cases nothing
  | other _ _ more _ _ =>
      exact absurd (List.append_eq_nil_iff.mp nothing).1 more

/-- A mark of ASCII is read from its own bytes. -/
theorem reads_mark
    {mark read : List UInt8}
    {after : List Nat}
    (ascii : ∀ byte ∈ mark, byte.toNat < 0x80)
    (reads : Reads read (mark.map UInt8.toNat ++ after)) :
    ∃ rest, read = mark ++ rest ∧ Reads rest after := by
  induction mark generalizing read with
  | nil =>
      exact ⟨read, rfl, reads⟩
  | cons byte mark inductionHypothesis =>
      rw [List.forall_mem_cons] at ascii
      obtain ⟨first, found, second, rfl, same, before, later⟩ :=
        reads.split (List.nil_append (byte.toNat ::
          (mark.map UInt8.toNat ++ after))).symm ascii.1
      rw [reads_nil before rfl]
      obtain ⟨rest, rfl, more⟩ := inductionHypothesis ascii.2 later
      rw [UInt8.toNat_inj.mp same]
      exact ⟨rest, rfl, more⟩

/-- A line that starts with a mark was written so. -/
theorem startsLine_of_reads
    {newline : UInt8}
    {mark read : List UInt8}
    {units : List Nat}
    (newlineAscii : newline.toNat < 0x80)
    (ascii : ∀ byte ∈ mark, byte.toNat < 0x80)
    (reads : Reads read units)
    (starts : StartsLine newline.toNat (mark.map UInt8.toNat) units) :
    StartsLine newline mark read := by
  obtain ⟨before, after, rfl, rfl | ⟨earlier, rfl⟩⟩ := starts
  · obtain ⟨rest, rfl, -⟩ := reads_mark ascii reads
    exact ⟨[], rest, rfl, .inl rfl⟩
  · rw [List.append_assoc] at reads
    obtain ⟨first, found, second, rfl, same, -, later⟩ :=
      reads.split rfl newlineAscii
    obtain ⟨rest, rfl, -⟩ := reads_mark ascii later
    rw [UInt8.toNat_inj.mp same]
    exact ⟨first ++ [newline], rest, by simp, .inr ⟨first, rfl⟩⟩

/-! ## The line of a result in the stream -/

/-- Every letter of the text is one of ASCII. -/
def AsciiText (text : List Char) : Prop :=
  ∀ letter ∈ text, letter.toNat < 0x80

instance (text : List Char) : Decidable (AsciiText text) :=
  decidable_of_iff (text.all fun letter => letter.toNat < 0x80)
    (by simp [AsciiText])

theorem encode_ascii
    {text : List Char}
    (ascii : AsciiText text) :
    (encode text).map UInt8.toNat = utf16 text ∧
      ∀ byte ∈ encode text, byte.toNat < 0x80 := by
  induction text with
  | nil =>
      exact ⟨rfl, by simp [encode]⟩
  | cons letter rest inductionHypothesis =>
      rw [AsciiText, List.forall_mem_cons] at ascii
      obtain ⟨units, bytes⟩ := inductionHypothesis ascii.2
      have one :
          String.utf8EncodeChar letter = [UInt8.ofNat letter.toNat] :=
        if_pos (Nat.le_of_lt_succ ascii.1)
      have value : (UInt8.ofNat letter.toNat).toNat = letter.toNat := by
        rw [UInt8.toNat_ofNat']
        omega
      have unit : codeUnits letter.toNat = [letter.toNat] :=
        if_pos (by omega)
      have encoded :
          encode (letter :: rest) = UInt8.ofNat letter.toNat :: encode rest :=
        congrArg (· ++ encode rest) one
      have spelled : utf16 (letter :: rest) = letter.toNat :: utf16 rest :=
        congrArg (· ++ utf16 rest) unit
      rw [encoded, spelled, List.map_cons, value, units,
        List.forall_mem_cons, value]
      exact ⟨rfl, ascii.1, bytes⟩

/-- What the chunks of an output and a result decode to. -/
structure Delivered
    (output : List UInt8)
    (json : List Char)
    (chunks : List (List UInt8))
    (earlier payload : List Nat) :
    Prop where
  text : chunks.flatMap decode =
    earlier ++ (utf16 resultPrefix ++ (payload ++ [10]))
  reads : Reads output earlier
  terminated : Terminated 10 earlier
  ascii : payload.filter isAscii = (utf16 json).filter isAscii
  exact : payload = utf16 json ↔
    ¬ SplitsLetter chunks (output ++ encode resultPrefix) json
  ends : ∃ units last, payload = units ++ [last] ∧ last < 0x80

theorem encode_append
    (first second : List Char) :
    encode (first ++ second) = encode first ++ encode second :=
  List.flatMap_append

/-- An output without its end is still read from what is decoded of it. -/
theorem run_terminated
    {stream : List Utf8Chunks.Event}
    (terminated : Terminated 10 (bytes stream)) :
    ∃ units, run [] stream = (units, []) ∧ Reads (bytes stream) units ∧
      Terminated 10 units := by
  have reads := Utf8Chunks.reads_run .nil stream
  rcases terminated with empty | ⟨earlier, ends⟩
  · rw [Utf8Chunks.run_quiet empty] at reads ⊢
    exact ⟨[], rfl, reads, .inl rfl⟩
  · obtain ⟨units, ran⟩ :=
      @Utf8Chunks.run_ends_ascii [] _ _ _ ends (by decide)
    rw [ran] at reads ⊢
    refine ⟨_, rfl, ?_, .inr ⟨units, rfl⟩⟩
    simpa [Utf8Chunks.flush] using reads

theorem delivered_of_written
    {output : List UInt8}
    {value : Json}
    {chunks : List (List UInt8)}
    (terminated : Terminated 10 output)
    (written : chunks.flatten = output ++ emitResult value) :
    ∃ earlier payload,
      Delivered output (JavaScript.stringify value).toList chunks earlier
        payload := by
  have stream : bytes (events chunks) =
      output ++ (encode resultPrefix ++
        (encode (JavaScript.stringify value).toList ++ [10])) := by
    rw [Utf8Chunks.bytes_events, written, emitResult, encode_append,
      encode_append]
    rfl
  obtain ⟨first, afterFirst, shape, rfl, rest⟩ :=
    List.filterMap_eq_append_iff.mp stream
  obtain ⟨second, afterSecond, rfl, marked, rest⟩ :=
    List.filterMap_eq_append_iff.mp rest
  obtain ⟨third, fourth, rfl, spelled, newline⟩ :=
    List.filterMap_eq_append_iff.mp rest
  obtain ⟨earlier, firstRan, reads, ended⟩ := run_terminated terminated
  obtain ⟨prefixUnits, prefixAscii⟩ :=
    @encode_ascii resultPrefix (by decide)
  have secondRan : run [] second = (utf16 resultPrefix, []) := by
    have ran := @Utf8Chunks.run_ascii second
      (by rw [bytes, marked]; exact prefixAscii)
    rw [ran, bytes, marked, prefixUnits]
  obtain ⟨payload, decoded⟩ := Utf8Chunks.decoded_text spelled
  have fourthRan : run [] fourth = ([10], []) := by
    have ran := @Utf8Chunks.run_ascii fourth
      (by rw [bytes, newline]; simp)
    rw [ran, bytes, newline]
    rfl
  have text := Utf8Chunks.run_events chunks
  rw [shape, Utf8Chunks.run_append, firstRan] at text
  dsimp only at text
  rw [Utf8Chunks.run_append, secondRan] at text
  dsimp only at text
  rw [Utf8Chunks.run_append, decoded.ran] at text
  dsimp only at text
  rw [fourthRan] at text
  refine ⟨earlier, payload, (Prod.mk.inj text).1.symm, reads, ended,
    decoded.ascii, ?_, ?_⟩
  · have parts : events chunks = first ++ second ++ (third ++ fourth) := by
      rw [shape]
      simp
    have splits := Utf8Chunks.splitsLetter_iff parts spelled
    rw [Utf8Chunks.bytes_append] at splits
    rw [decoded.exact, ← splits,
      show bytes second = encode resultPrefix from marked]
    rfl
  · obtain ⟨text, last, ends, ascii⟩ := stringify_ends value
    have one : encode [last] = [UInt8.ofNat last.toNat] := by
      have single : String.utf8EncodeChar last = [UInt8.ofNat last.toNat] :=
        if_pos (Nat.le_of_lt_succ ascii)
      simp [encode, single]
    have lastByte : (UInt8.ofNat last.toNat).toNat < 0x80 := by
      rw [UInt8.toNat_ofNat']
      omega
    have bytesEnd : bytes third = encode text ++ [UInt8.ofNat last.toNat] := by
      rw [show bytes third = _ from spelled, ends, encode_append, one]
    obtain ⟨units, ran⟩ :=
      @Utf8Chunks.run_ends_ascii [] _ _ _ bytesEnd lastByte
    rw [decoded.ran] at ran
    exact ⟨units, _, (Prod.mk.inj ran).1, lastByte⟩

theorem mem_utf16
    {text : List Char}
    {unit : Nat}
    (ascii : unit < 0x80)
    (member : unit ∈ utf16 text) :
    ∃ letter ∈ text, letter.toNat = unit := by
  obtain ⟨letter, inside, units⟩ := List.mem_flatMap.mp member
  refine ⟨letter, inside, ?_⟩
  unfold codeUnits at units
  split at units
  · exact (List.mem_singleton.mp units).symm
  · simp only [List.mem_cons, List.not_mem_nil, or_false] at units
    omega

/-- No line ends inside the result, however it was decoded. -/
theorem Delivered.oneLine
    {output : List UInt8}
    {value : Json}
    {chunks : List (List UInt8)}
    {earlier payload : List Nat}
    (delivered :
      Delivered output (JavaScript.stringify value).toList chunks earlier
        payload) :
    ∀ unit ∈ payload, unit ≠ 10 ∧ unit ≠ 13 := by
  have absent {letter : Char} {unit : Nat} (ascii : unit < 0x80)
      (same : letter.toNat = unit)
      (outside : letter ∉ (JavaScript.stringify value).toList) :
      unit ∉ payload := by
    intro member
    have kept : unit ∈ payload.filter isAscii :=
      List.mem_filter.mpr ⟨member, decide_eq_true ascii⟩
    rw [delivered.ascii] at kept
    obtain ⟨other, inside, value⟩ :=
      mem_utf16 ascii (List.mem_filter.mp kept).1
    rw [← same] at value
    rw [← Char.toNat_inj.mp value] at outside
    exact outside inside
  have oneLine := stringify_oneLine value
  intro unit member
  constructor
  · rintro rfl
    exact @absent '\n' 10 (by decide) rfl
      (fun inside => (oneLine _ inside).1 rfl) member
  · rintro rfl
    exact @absent '\r' 13 (by decide) rfl
      (fun inside => (oneLine _ inside).2 rfl) member

/-! ## What is read from the capture -/

/-- `JSON.stringify(value)`, as code units. -/
def jsonText (value : Json) : List Nat :=
  utf16 (JavaScript.stringify value).toList

/-- No line of the output is taken for a result. -/
def Unmarked (output : List UInt8) : Prop :=
  ¬ StartsLine 10 (encode resultPrefix) output

section Reading

variable {output : List UInt8} {value : Json}
variable {chunks : List (List UInt8)} {earlier payload : List Nat}
variable (delivered :
  Delivered output (JavaScript.stringify value).toList chunks earlier payload)
variable (unmarked : Unmarked output)
include delivered unmarked

theorem Delivered.startsNoLine :
    ¬ StartsLine 10 (utf16 resultPrefix) earlier := by
  intro starts
  obtain ⟨units, ascii⟩ := @encode_ascii resultPrefix (by decide)
  rw [← units] at starts
  exact unmarked (startsLine_of_reads (by decide) ascii delivered.reads starts)

/-- Cut off in front of the result or inside its mark, there is no result. -/
theorem parseResult_cut
    (parse : List Nat → Except String Json)
    {limits : Limits}
    (cut : limits.maxStdoutBytes < earlier.length + 16) :
    parseResult parse limits
        ((chunks.flatMap decode).take limits.maxStdoutBytes) =
      .ok .null := by
  have oneLine : 10 ∉ utf16 resultPrefix := by decide
  have none := @TextLines.not_startsLine_take _ _ _ _ (payload ++ [10])
    delivered.terminated (delivered.startsNoLine unmarked) oneLine _ cut
  rw [delivered.text, parseResult, TextLines.find?_lines_eq_none none]

/-- Otherwise the payload is read as far as it was captured. -/
theorem parseResult_kept
    (parse : List Nat → Except String Json)
    {limits : Limits}
    (kept : earlier.length + 16 ≤ limits.maxStdoutBytes) :
    parseResult parse limits
        ((chunks.flatMap decode).take limits.maxStdoutBytes) =
      parsePayload parse limits
        (payload.take (limits.maxStdoutBytes - (earlier.length + 16))) := by
  generalize room : limits.maxStdoutBytes - (earlier.length + 16) = count
  have marks : (utf16 resultPrefix).length = 16 := by decide
  have captured :
      (chunks.flatMap decode).take limits.maxStdoutBytes =
        earlier ++ ((utf16 resultPrefix ++ payload.take count) ++
          [10].take (count - payload.length)) := by
    rw [delivered.text, List.take_append, List.take_of_length_le (by omega),
      List.take_append, List.take_of_length_le (by omega), List.take_append,
      marks, Nat.sub_sub, room, List.append_assoc]
  have plain :
      ∀ unit ∈ utf16 resultPrefix ++ payload.take count,
        unit ≠ 10 ∧ unit ≠ 13 := by
    rw [List.forall_mem_append]
    exact ⟨by decide, fun unit member =>
      delivered.oneLine unit (List.mem_of_mem_take member)⟩
  have tail :
      [10].take (count - payload.length) = [] ∨
        [10].take (count - payload.length) = [10] := by
    cases count - payload.length <;> simp
  have found := TextLines.find?_lines_eq_some
    delivered.terminated (delivered.startsNoLine unmarked)
    (List.prefix_append (utf16 resultPrefix) (payload.take count))
    (fun member => (plain _ member).1 rfl)
    (fun last => (plain _ (List.mem_of_getLast? last)).2 rfl) tail
  rw [captured, parseResult, found]
  dsimp only
  rw [List.drop_left]

end Reading

/-! ## Parsing -/

/--
`JSON.parse` inverts `JSON.stringify`.  A number has several decimal forms, so
two values are the same when their texts are.
-/
def InvertsStringify (parse : List Nat → Except String Json) : Prop :=
  ∀ value, ∃ parsed,
    parse (jsonText value) = .ok parsed ∧ jsonText parsed = jsonText value

open Classical in
/-- The parser that accepts the texts of values and nothing else. -/
noncomputable def strictParse (text : List Nat) : Except String Json :=
  if valid : ∃ value, jsonText value = text then .ok valid.choose
  else .error "invalid JSON"

theorem strictParse_spec
    {text : List Nat}
    {value : Json}
    (parsed : strictParse text = .ok value) :
    jsonText value = text := by
  unfold strictParse at parsed
  split at parsed
  · rename_i valid
    cases parsed
    exact valid.choose_spec
  · cases parsed

theorem strictParse_inverts : InvertsStringify strictParse := by
  intro value
  have valid : ∃ other, jsonText other = jsonText value := ⟨value, rfl⟩
  exact ⟨valid.choose, dif_pos valid, valid.choose_spec⟩

/-- A payload gives back a permitted value exactly when it is its text. -/
theorem parsePayload_iff
    {limits : Limits}
    {value : Json}
    (permitted : JavaScript.byteLength value ≤ limits.maxResultOutputBytes)
    (payload : List Nat) :
    (∀ parse, InvertsStringify parse →
      ∃ output, parsePayload parse limits payload = .ok output ∧
        jsonText output = jsonText value) ↔
      payload = jsonText value := by
  constructor
  · intro always
    obtain ⟨output, read, same⟩ := always strictParse strictParse_inverts
    unfold parsePayload at read
    split at read
    · cases read
    · cases parsed : strictParse payload with
      | error message =>
          rw [parsed] at read
          cases read
      | ok found =>
          rw [parsed] at read
          cases read
          rw [← same]
          exact (strictParse_spec parsed).symm
  · rintro rfl parse inverts
    obtain ⟨parsed, read, same⟩ := inverts value
    refine ⟨parsed, ?_, same⟩
    unfold parsePayload
    rw [if_neg, read]
    rw [jsonText, byteLength_stringify]
    exact Nat.not_lt.mpr permitted

/-- A beginning with all of the ASCII is all of a text that ends with some. -/
theorem take_eq_iff
    {payload expected : List Nat}
    (ascii : payload.filter isAscii = expected.filter isAscii)
    (ends : ∃ units last, payload = units ++ [last] ∧ last < 0x80)
    (count : Nat) :
    payload.take count = expected ↔
      payload = expected ∧ payload.length ≤ count := by
  constructor
  · intro taken
    by_cases whole : payload.length ≤ count
    · rw [List.take_of_length_le whole] at taken
      exact ⟨taken, whole⟩
    · exfalso
      obtain ⟨units, last, shape, lastAscii⟩ := ends
      have parts := List.take_append_drop count payload
      have rest : (payload.drop count).filter isAscii = [] := by
        have filtered := congrArg (List.filter isAscii) parts
        rw [List.filter_append, taken, ascii] at filtered
        exact List.append_right_eq_self.mp filtered
      have nonempty : payload.drop count ≠ [] := by
        rw [Ne, List.drop_eq_nil_iff]
        exact whole
      have lastRest : (payload.drop count).getLast? = some last := by
        rw [← List.getLast?_append_of_ne_nil (payload.take count) nonempty,
          parts, shape]
        simp
      exact List.filter_eq_nil_iff.mp rest last
        (List.mem_of_getLast? lastRest) (decide_eq_true lastAscii)
  · rintro ⟨same, whole⟩
    rw [List.take_of_length_le whole]
    exact same

/-! ## The null result -/

theorem jsonText_eq_null
    {value : Json} :
    jsonText value = jsonText .null ↔ value = .null := by
  constructor
  · intro same
    cases value with
    | null =>
        rfl
    | bool value =>
        cases value <;> exact absurd same (by decide)
    | num mantissa exponent =>
        exfalso
        have member : 110 ∈ jsonText (.num mantissa exponent) := by
          rw [same]
          decide
        obtain ⟨letter, inside, unit⟩ := mem_utf16 (by decide) member
        rw [JavaScript.stringify] at inside
        have number := numberText_letters mantissa exponent letter inside
        rw [show letter = 'n' from Char.toNat_inj.mp unit] at number
        exact absurd number (by decide)
    | str value =>
        rw [jsonText, JavaScript.stringify, JavaScript.quoted,
          String.toList_ofList] at same
        have quote : some 34 = some 110 := congrArg List.head? same
        exact absurd quote (by decide)
    | arr items =>
        rw [jsonText, JavaScript.stringify, String.toList_append,
          String.toList_append] at same
        have bracket : some 91 = some 110 := congrArg List.head? same
        exact absurd bracket (by decide)
    | obj fields =>
        rw [jsonText, JavaScript.stringify, String.toList_append,
          String.toList_append] at same
        have brace : some 123 = some 110 := congrArg List.head? same
        exact absurd brace (by decide)
  · rintro rfl
    rfl

/-- Chunks cannot end inside a letter of ASCII. -/
theorem not_splitsLetter_of_ascii
    {chunks : List (List UInt8)}
    {start : List UInt8}
    {text : List Char}
    (ascii : AsciiText text) :
    ¬ SplitsLetter chunks start text := by
  rintro ⟨_, _, _, -, -, done, letter, rest, first, second, rfl, spelled,
    begun, more, -⟩
  have one :
      String.utf8EncodeChar letter = [UInt8.ofNat letter.toNat] :=
    if_pos (Nat.le_of_lt_succ (ascii letter (by simp)))
  rw [one] at spelled
  have lengths := congrArg List.length spelled
  have firstPositive := List.length_pos_iff.mpr begun
  have secondPositive := List.length_pos_iff.mpr more
  rw [List.length_singleton, List.length_append] at lengths
  omega

/-! ## From the process to its result -/

/--
With exit code 0 and no timeout, the execution resolves with the value, for
every parser that inverts the text of values.
-/
def DeliversResult
    (limits : Limits)
    (timeoutSeconds : Nat)
    (chunks : List (List UInt8))
    (value : Json) :
    Prop :=
  ∀ parse, InvertsStringify parse →
    ∃ execution,
      spawnEntrypoint parse limits timeoutSeconds chunks (some 0) false =
          .ok execution ∧
        jsonText execution.output = jsonText value

theorem deliversResult_iff_parsed
    {limits : Limits}
    {timeoutSeconds : Nat}
    {chunks : List (List UInt8)}
    {value : Json} :
    DeliversResult limits timeoutSeconds chunks value ↔
      ∀ parse, InvertsStringify parse →
        ∃ output,
          parseResult parse limits
              ((chunks.flatMap decode).take limits.maxStdoutBytes) =
              .ok output ∧
            jsonText output = jsonText value := by
  unfold DeliversResult
  apply forall₂_congr
  intro parse _
  unfold spawnEntrypoint
  dsimp only
  rw [capture_value]
  cases parseResult parse limits
    ((chunks.flatMap decode).take limits.maxStdoutBytes) with
  | error failure => simp
  | ok output => simp

/--
A permitted result is delivered exactly when no chunk ends inside one of its
letters and the chunks decode to no more code units than are kept, but for the
last newline; or when it is `null` and they decode to so many that its mark is
cut off.
-/
theorem result_delivered_iff
    {limits : Limits}
    {output : List UInt8}
    {value : Json}
    {chunks : List (List UInt8)}
    (timeoutSeconds : Nat)
    (permitted : JavaScript.byteLength value ≤ limits.maxResultOutputBytes)
    (terminated : Terminated 10 output)
    (unmarked : Unmarked output)
    (written : chunks.flatten = output ++ runJob (some value)) :
    DeliversResult limits timeoutSeconds chunks value ↔
      (¬ SplitsLetter chunks (output ++ encode resultPrefix)
          (JavaScript.stringify value).toList ∧
        (chunks.flatMap decode).length ≤ limits.maxStdoutBytes + 1) ∨
      (value = .null ∧
        limits.maxStdoutBytes + 5 < (chunks.flatMap decode).length) := by
  obtain ⟨earlier, payload, delivered⟩ :=
    @delivered_of_written output value chunks terminated written
  have total :
      (chunks.flatMap decode).length = earlier.length + payload.length + 17 := by
    rw [delivered.text]
    simp only [List.length_append, List.length_singleton,
      show (utf16 resultPrefix).length = 16 by decide]
    omega
  have payloadNull (null : value = .null) : payload.length = 4 := by
    subst null
    have exact := delivered.exact.mpr
      (not_splitsLetter_of_ascii (by decide))
    rw [exact]
    decide
  have nonempty : 0 < payload.length := by
    obtain ⟨units, last, rfl, -⟩ := delivered.ends
    simp
  rw [deliversResult_iff_parsed]
  by_cases kept : earlier.length + 16 ≤ limits.maxStdoutBytes
  · simp only [parseResult_kept delivered unmarked _ kept]
    rw [parsePayload_iff permitted, jsonText,
      take_eq_iff delivered.ascii delivered.ends, delivered.exact]
    constructor
    · rintro ⟨whole, fits⟩
      exact .inl ⟨whole, by omega⟩
    · rintro (⟨whole, fits⟩ | ⟨null, cut⟩)
      · exact ⟨whole, by omega⟩
      · have four := payloadNull null
        omega
  · simp only [parseResult_cut delivered unmarked _ (Nat.lt_of_not_le kept)]
    constructor
    · intro always
      obtain ⟨parsed, read, same⟩ := always strictParse strictParse_inverts
      cases read
      have null := jsonText_eq_null.mp same.symm
      have four := payloadNull null
      exact .inr ⟨null, by omega⟩
    · rintro (⟨-, fits⟩ | ⟨rfl, -⟩) parse -
      · omega
      · exact ⟨_, rfl, rfl⟩

/-- The limits that an executor has when nothing else is configured. -/
def defaultLimits : Limits where
  maxStdoutBytes := 64 * 1024
  maxResultOutputBytes := 64 * 1024

/-- A short result after a line of output is delivered. -/
theorem result_delivered_ok :
    DeliversResult defaultLimits 300
      [encode ['h', 'i', '\n'], runJob (some (.str "ok"))] (.str "ok") :=
  (@result_delivered_iff defaultLimits (encode ['h', 'i', '\n']) (.str "ok")
    [encode ['h', 'i', '\n'], runJob (some (.str "ok"))] 300 (by decide)
    (.inr ⟨encode ['h', 'i'], rfl⟩)
    (by
      rintro ⟨before, after, shape, -⟩
      have lengths := congrArg List.length shape
      have mark : (encode resultPrefix).length = 16 := by decide
      have short : (encode ['h', 'i', '\n']).length = 3 := by decide
      rw [short, List.length_append, List.length_append, mark] at lengths
      omega)
    rfl).mpr (.inl ⟨not_splitsLetter_of_ascii (by decide), by decide⟩)

/-- The bytes of a result, with a chunk that ends after the first ones. -/
def twoChunks
    (value : Json)
    (count : Nat) :
    List (List UInt8) :=
  [(runJob (some value)).take count, (runJob (some value)).drop count]

/-- A result whose letter arrives in two chunks is not delivered. -/
theorem twoChunks_not_delivered :
    ¬ ∀ (limits : Limits) (timeoutSeconds : Nat) (output : List UInt8)
        (value : Json) (chunks : List (List UInt8)),
        JavaScript.byteLength value ≤ limits.maxResultOutputBytes →
          Terminated 10 output → Unmarked output →
          chunks.flatten = output ++ runJob (some value) →
          DeliversResult limits timeoutSeconds chunks value := by
  intro always
  have delivers := always defaultLimits 300 [] (.str "é")
    (twoChunks (.str "é") 18) (by decide) (.inl rfl)
    (by
      rintro ⟨before, after, shape, -⟩
      have lengths := congrArg List.length shape
      have mark : (encode resultPrefix).length = 16 := by decide
      rw [List.length_nil, List.length_append, List.length_append, mark]
        at lengths
      omega)
    (by simp [twoChunks])
  rw [deliversResult_iff_parsed] at delivers
  have read (parse : List Nat → Except String Json) :
      parseResult parse defaultLimits
          (((twoChunks (.str "é") 18).flatMap decode).take
            defaultLimits.maxStdoutBytes) =
        parsePayload parse defaultLimits [34, 0xFFFD, 0xFFFD, 34] :=
    rfl
  simp only [read] at delivers
  have payload := (parsePayload_iff (by decide) _).mp delivers
  exact absurd payload (by decide)

end IgaScheduler.JobOutput

import IgaScheduler.ResultProtocol

namespace IgaScheduler.JobOutput

/-!
# What is captured of an output

The capture of an output that arrives in chunks, against the text of the whole
output.  A limit in bytes that is applied to code units is exact for ASCII
only, and chunks that are decoded one by one are the text of the whole only
where no character has more than one byte.
-/

open Utf8Chunks (Reads bytes codePoint codeUnits continues decode events flush
  reads_run replacement restart run run_append run_events sequenceLength step)

/-! ## The property -/

/-- Every way to split an output into chunks. -/
def Splits (chunks : List (List UInt8)) (output : List UInt8) : Prop :=
  chunks.flatten = output

/--
Whatever the chunks, what is kept of an output is one beginning of its text
within the limit, and the flag says whether there is more.
-/
structure CapturedWell (maxBytes : Nat) (output : List UInt8) : Prop where
  bounded : ∀ chunks, Splits chunks output →
    byteLength (capture maxBytes chunks).value ≤ maxBytes
  beginning : ∀ chunks, Splits chunks output →
    (capture maxBytes chunks).value <+: decode output
  same : ∀ first second, Splits first output → Splits second output →
    (capture maxBytes first).value = (capture maxBytes second).value
  truncated : ∀ chunks, Splits chunks output →
    ((capture maxBytes chunks).truncated = true ↔
      maxBytes < byteLength (decode output))

def IsAscii (output : List UInt8) : Prop :=
  ∀ byte ∈ output, byte.toNat < 0x80

/-- No byte begins a character that the next byte goes on with. -/
def Alone (output : List UInt8) : Prop :=
  ∀ before byte next after,
    output = before ++ byte :: next :: after →
    2 ≤ sequenceLength byte →
      continues [byte] next = false

/-- The unit of a byte that is decoded by itself. -/
def unitOf (byte : UInt8) : Nat :=
  if byte.toNat < 0x80 then byte.toNat else replacement

/-- The bytes of that unit. -/
def widthOf (byte : UInt8) : Nat :=
  if byte.toNat < 0x80 then 1 else 3

/--
The output is ASCII as far as the limit goes; or each byte is a character of
its own, and with replacement characters for those that are not ASCII the whole
output fits.
-/
def Capturable (maxBytes : Nat) (output : List UInt8) : Prop :=
  IsAscii (output.take maxBytes) ∨
    Alone output ∧ (output.map widthOf).sum ≤ maxBytes

/-! ## Lengths in bytes -/

theorem byteLength_le_append
    (first second : List Nat) :
    byteLength first ≤ byteLength (first ++ second) := by
  induction first using byteLength.induct with
  | case1 =>
      exact Nat.zero_le _
  | case2 unit =>
      cases second with
      | nil =>
          exact Nat.le_refl _
      | cons next rest =>
          rw [List.singleton_append, byteLength, byteLength]
          have small : unitBytes unit ≤ 3 := by
            unfold unitBytes
            split
            · decide
            · split <;> decide
          split <;> omega
  | case3 unit next rest pair inductionHypothesis =>
      rw [List.cons_append, List.cons_append, byteLength, byteLength,
        if_pos pair, if_pos pair]
      omega
  | case4 unit next rest single inductionHypothesis =>
      rw [List.cons_append] at inductionHypothesis
      rw [List.cons_append, List.cons_append, byteLength, byteLength,
        if_neg single, if_neg single]
      omega

/-- Without surrogates the units are counted one by one. -/
theorem byteLength_plain
    {units : List Nat}
    (plain : ∀ unit ∈ units, isHighSurrogate unit = false) :
    byteLength units = (units.map unitBytes).sum := by
  induction units with
  | nil =>
      rfl
  | cons unit rest inductionHypothesis =>
      rw [List.forall_mem_cons] at plain
      rw [byteLength_cons plain.1, List.map_cons, List.sum_cons,
        inductionHypothesis plain.2]

/-- A text with no more bytes than units is ASCII. -/
theorem ascii_of_byteLength_le
    {units : List Nat}
    (short : byteLength units ≤ units.length) :
    ∀ unit ∈ units, unit < 0x80 := by
  induction units using byteLength.induct with
  | case1 =>
      rintro unit ⟨⟩
  | case2 unit =>
      rw [byteLength, List.length_singleton] at short
      unfold unitBytes at short
      intro other member
      rw [List.mem_singleton.mp member]
      split at short
      · assumption
      · split at short <;> omega
  | case3 unit next rest pair inductionHypothesis =>
      have least := length_le_byteLength rest
      rw [byteLength, if_pos pair, List.length_cons, List.length_cons] at short
      omega
  | case4 unit next rest single inductionHypothesis =>
      have least := length_le_byteLength (next :: rest)
      have positive := unitBytes_pos unit
      rw [byteLength, if_neg single, List.length_cons] at short
      rw [List.forall_mem_cons]
      refine ⟨?_, inductionHypothesis (by omega)⟩
      unfold unitBytes at short
      split at short
      · assumption
      · split at short <;> omega

/-! ## The capture -/

/-- The capture is cut off exactly when the chunks decode to too much. -/
theorem capture_truncated
    (maxBytes : Nat)
    (chunks : List (List UInt8)) :
    (capture maxBytes chunks).truncated = true ↔
      maxBytes < byteLength (chunks.flatMap decode) := by
  induction chunks using List.reverseRecOn with
  | nil =>
      refine iff_of_false Bool.false_ne_true ?_
      exact Nat.not_lt_zero _
  | append_singleton earlier chunk inductionHypothesis =>
      have last :
          (capture maxBytes (earlier ++ [chunk])).truncated =
            ((capture maxBytes earlier).truncated ||
              (appendWithLimit (capture maxBytes earlier).value chunk
                maxBytes).truncated) := by
        rw [capture, List.foldl_append]
        rfl
      have more :=
        byteLength_le_append (earlier.flatMap decode) (decode chunk)
      rw [last, Bool.or_eq_true, inductionHypothesis, List.flatMap_append,
        List.flatMap_singleton]
      by_cases before : maxBytes < byteLength (earlier.flatMap decode)
      · exact iff_of_true (.inl before) (by omega)
      · have whole :
            (earlier.flatMap decode).take maxBytes =
              earlier.flatMap decode := by
          apply List.take_of_length_le
          have least := length_le_byteLength (earlier.flatMap decode)
          omega
        rw [or_iff_right before, capture_value, whole, appendWithLimit]
        split
        · refine iff_of_false Bool.false_ne_true ?_
          omega
        · refine iff_of_true rfl ?_
          omega

/-! ## Bytes and the units that are read from them -/

/-- The chunks are read as the bytes of the whole output. -/
theorem reads_chunks
    {chunks : List (List UInt8)}
    {output : List UInt8}
    (splits : Splits chunks output) :
    Reads output (chunks.flatMap decode) := by
  have reads := reads_run .nil (events chunks)
  rw [run_events, Utf8Chunks.bytes_events, splits] at reads
  simpa [flush] using reads

theorem splits_whole (output : List UInt8) :
    Splits [output] output := by
  rw [Splits, List.flatten_cons, List.flatten_nil, List.append_nil]

theorem flatMap_whole (output : List UInt8) :
    [output].flatMap decode = decode output := by
  rw [List.flatMap_singleton]

/-- Units of ASCII at the front are bytes of ASCII at the front. -/
theorem bytes_ascii_of_units
    {output : List UInt8}
    {units : List Nat}
    (reads : Reads output units)
    {count : Nat}
    (enough : count ≤ units.length)
    (ascii : ∀ unit ∈ units.take count, unit < 0x80) :
    IsAscii (output.take count) := by
  induction reads generalizing count with
  | nil =>
      rw [List.take_nil]
      rintro byte ⟨⟩
  | @ascii byte rest units small reads inductionHypothesis =>
      cases count with
      | zero =>
          rintro byte ⟨⟩
      | succ fewer =>
          rw [List.take_succ_cons, List.forall_mem_cons] at ascii
          rw [List.take_succ_cons, IsAscii, List.forall_mem_cons]
          rw [List.length_cons] at enough
          exact ⟨small, inductionHypothesis (by omega) ascii.2⟩
  | @other part rest read units some notAscii more notAsciiUnits reads
      inductionHypothesis =>
      cases count with
      | zero =>
          rintro byte ⟨⟩
      | succ fewer =>
          obtain ⟨first, others, rfl⟩ := List.exists_cons_of_ne_nil more
          have large := notAsciiUnits first List.mem_cons_self
          rw [List.cons_append, List.take_succ_cons,
            List.forall_mem_cons] at ascii
          omega

/-- Bytes of ASCII at the front are read as themselves. -/
theorem units_of_bytes_ascii
    {output : List UInt8}
    {units : List Nat}
    (reads : Reads output units)
    {count : Nat}
    (enough : count ≤ output.length)
    (ascii : IsAscii (output.take count)) :
    units.take count = (output.take count).map UInt8.toNat ∧
      (count < output.length → count < units.length) := by
  induction reads generalizing count with
  | nil =>
      rw [List.take_nil, List.take_nil]
      exact ⟨rfl, fun impossible => absurd impossible (Nat.not_lt_zero _)⟩
  | @ascii byte rest units small reads inductionHypothesis =>
      cases count with
      | zero =>
          exact ⟨rfl, fun _ => Nat.zero_lt_succ _⟩
      | succ fewer =>
          rw [List.take_succ_cons, IsAscii, List.forall_mem_cons] at ascii
          rw [List.length_cons] at enough
          obtain ⟨front, longer⟩ :=
            inductionHypothesis (by omega) ascii.2
          rw [List.take_succ_cons, List.take_succ_cons, List.map_cons, front]
          refine ⟨rfl, ?_⟩
          rw [List.length_cons, List.length_cons]
          intro more
          have := longer (by omega)
          omega
  | @other part rest read units some notAscii more notAsciiUnits reads
      inductionHypothesis =>
      cases count with
      | zero =>
          refine ⟨rfl, fun _ => ?_⟩
          rw [List.length_append]
          have := List.length_pos_iff.mpr more
          omega
      | succ fewer =>
          obtain ⟨first, others, rfl⟩ := List.exists_cons_of_ne_nil some
          have large := notAscii first List.mem_cons_self
          rw [List.cons_append, List.take_succ_cons, IsAscii,
            List.forall_mem_cons] at ascii
          omega

/-- The units of ASCII bytes take one byte each. -/
theorem byteLength_ascii
    {output : List UInt8}
    (ascii : IsAscii output) :
    byteLength (output.map UInt8.toNat) = output.length := by
  rw [byteLength_plain]
  · rw [List.map_map]
    have one : ∀ byte ∈ output, (unitBytes ∘ UInt8.toNat) byte = 1 := by
      intro byte member
      exact if_pos (ascii byte member)
    rw [List.map_congr_left one, List.map_const', List.sum_replicate_nat,
      Nat.mul_one]
  · intro unit member
    obtain ⟨byte, inside, rfl⟩ := List.mem_map.mp member
    have small := ascii byte inside
    rw [isHighSurrogate, Bool.and_eq_false_iff, decide_eq_false_iff_not]
    exact .inl (by omega)

/-! ## Bytes that are characters of their own -/

theorem Alone.tail
    {byte : UInt8}
    {rest : List UInt8}
    (alone : Alone (byte :: rest)) :
    Alone rest := by
  rintro before first next after rfl
  exact alone (byte :: before) first next after rfl

theorem Alone.middle
    {before middle after : List UInt8}
    (alone : Alone (before ++ middle ++ after)) :
    Alone middle := by
  rintro earlier byte next later rfl
  exact alone (before ++ earlier) byte next (later ++ after) (by simp)

theorem restart_alone (byte : UInt8) :
    sequenceLength byte < 2 ∧ restart byte = ([unitOf byte], []) ∨
      2 ≤ sequenceLength byte ∧ restart byte = ([], [byte]) ∧
        unitOf byte = replacement := by
  unfold restart unitOf
  by_cases ascii : byte.toNat < 0x80
  · have one : sequenceLength byte = 1 := if_pos ascii
    rw [if_pos one, if_pos ascii, one]
    exact .inl ⟨by decide, rfl⟩
  · have notOne : sequenceLength byte ≠ 1 := by
      unfold sequenceLength
      dsimp only
      rw [if_neg ascii]
      split
      · decide
      · split
        · decide
        · split
          · decide
          · split <;> decide
    rw [if_neg notOne, if_neg ascii]
    by_cases none : sequenceLength byte = 0
    · rw [if_pos none, none]
      exact .inl ⟨by decide, rfl⟩
    · rw [if_neg none]
      exact .inr ⟨by omega, rfl, rfl⟩

/-- A first byte that is not continued is replaced, and the rest starts anew. -/
theorem run_pending
    {byte : UInt8}
    {rest : List UInt8}
    (notContinued :
      ∀ next after, rest = next :: after → continues [byte] next = false) :
    run [byte] (rest.map some ++ [none]) =
      (replacement :: (run [] (rest.map some ++ [none])).1,
        (run [] (rest.map some ++ [none])).2) := by
  cases rest with
  | nil =>
      rfl
  | cons next after =>
      have replaced :
          step [byte] (some next) =
            (replacement :: (restart next).1, (restart next).2) := by
        rw [step, if_neg]
        rw [notContinued next after rfl]
        exact Bool.false_ne_true
      rw [List.map_cons, List.cons_append, run, run, replaced]
      rfl

theorem run_alone
    {output : List UInt8}
    (alone : Alone output) :
    run [] (output.map some ++ [none]) = (output.map unitOf, []) := by
  induction output with
  | nil =>
      rfl
  | cons byte rest inductionHypothesis =>
      have later := inductionHypothesis alone.tail
      rw [List.map_cons, List.cons_append, run, List.map_cons]
      rcases restart_alone byte with ⟨-, started⟩ | ⟨lead, started, unit⟩
      · change ((restart byte).1 ++ (run (restart byte).2 _).1,
          (run (restart byte).2 _).2) = _
        rw [started, later]
        rfl
      · have notContinued :
            ∀ next after, rest = next :: after →
              continues [byte] next = false := by
          rintro next after rfl
          exact alone [] byte next after rfl lead
        change ((restart byte).1 ++ (run (restart byte).2 _).1,
          (run (restart byte).2 _).2) = _
        rw [started, run_pending notContinued, later, unit]
        rfl

theorem decode_alone
    {output : List UInt8}
    (alone : Alone output) :
    decode output = output.map unitOf := by
  rw [decode, run_alone alone]

/-- Such an output decodes to the same units, whatever the chunks. -/
theorem flatMap_decode_alone
    {chunks : List (List UInt8)}
    {output : List UInt8}
    (alone : Alone output)
    (splits : Splits chunks output) :
    chunks.flatMap decode = output.map unitOf := by
  induction chunks generalizing output with
  | nil =>
      cases splits
      rfl
  | cons chunk rest inductionHypothesis =>
      have parts : output = chunk ++ rest.flatten := by
        rw [← splits, List.flatten_cons]
      subst parts
      have first : Alone chunk := by
        apply @Alone.middle [] chunk rest.flatten
        exact alone
      have others : Alone rest.flatten := by
        apply @Alone.middle chunk rest.flatten []
        rw [List.append_nil]
        exact alone
      rw [List.flatMap_cons, List.map_append, decode_alone first,
        inductionHypothesis others rfl]

theorem byteLength_alone (output : List UInt8) :
    byteLength (output.map unitOf) = (output.map widthOf).sum := by
  rw [byteLength_plain]
  · rw [List.map_map]
    congr 1
    apply List.map_congr_left
    intro byte _
    rw [Function.comp_apply]
    unfold unitOf widthOf
    split
    · rename_i ascii
      exact if_pos ascii
    · rfl
  · intro unit member
    obtain ⟨byte, -, rfl⟩ := List.mem_map.mp member
    unfold unitOf
    split
    · rename_i ascii
      rw [isHighSurrogate, Bool.and_eq_false_iff, decide_eq_false_iff_not]
      exact .inl (by omega)
    · rfl

theorem decode_single (byte : UInt8) :
    decode [byte] = [unitOf byte] := by
  apply decode_alone
  intro before first next after shape
  have lengths := congrArg List.length shape
  simp only [List.length_append, List.length_cons, List.length_nil] at lengths
  omega

/-- Two bytes that belong together are a single unit. -/
theorem decode_pair
    {byte next : UInt8}
    (lead : 2 ≤ sequenceLength byte)
    (continued : continues [byte] next = true) :
    (decode [byte, next]).length = 1 := by
  have started : restart byte = ([], [byte]) := by
    rcases restart_alone byte with ⟨short, -⟩ | ⟨-, started, -⟩
    · omega
    · exact started
  have shape :
      decode [byte, next] =
        (step [byte] (some next)).1 ++ flush (step [byte] (some next)).2 := by
    change (restart byte).1 ++ (run (restart byte).2 _).1 = _
    rw [started]
    change [] ++ ((step [byte] (some next)).1 ++
      (flush (step [byte] (some next)).2 ++ [])) = _
    rw [List.nil_append, List.append_nil]
  rw [shape, step, if_pos continued]
  dsimp only
  split
  · have small : codePoint ([byte] ++ [next]) < 0x10000 := by
      change byte.toNat % 0x20 * 0x40 + next.toNat % 0x40 < 0x10000
      omega
    rw [codeUnits, if_pos small]
    rfl
  · rfl

/-! ## When an output is captured well -/

section Captured

variable {maxBytes : Nat}
variable {output : List UInt8}

/-- ASCII within the limit is kept as it is, and what follows is cut off. -/
theorem capturedWell_of_ascii
    (long : maxBytes < output.length)
    (ascii : IsAscii (output.take maxBytes)) :
    CapturedWell maxBytes output := by
  have front {chunks : List (List UInt8)} (splits : Splits chunks output) :
      (chunks.flatMap decode).take maxBytes =
          (output.take maxBytes).map UInt8.toNat ∧
        maxBytes < (chunks.flatMap decode).length := by
    obtain ⟨units, more⟩ :=
      units_of_bytes_ascii (reads_chunks splits) (Nat.le_of_lt long) ascii
    exact ⟨units, more long⟩
  have whole := front (splits_whole output)
  rw [flatMap_whole] at whole
  have least := length_le_byteLength (decode output)
  refine ⟨?_, ?_, ?_, ?_⟩
  · intro chunks splits
    rw [capture_value, (front splits).1, byteLength_ascii ascii]
    exact List.length_take_le _ _
  · intro chunks splits
    rw [capture_value, (front splits).1, ← whole.1]
    exact List.take_prefix _ _
  · intro first second splitsFirst splitsSecond
    rw [capture_value, capture_value, (front splitsFirst).1,
      (front splitsSecond).1]
  · intro chunks splits
    have leastUnits := length_le_byteLength (chunks.flatMap decode)
    have longUnits := (front splits).2
    have longText := whole.2
    rw [capture_truncated]
    exact iff_of_true (by omega) (by omega)

/-- An output of single characters that fits is kept as it is. -/
theorem capturedWell_of_alone
    (alone : Alone output)
    (fits : (output.map widthOf).sum ≤ maxBytes) :
    CapturedWell maxBytes output := by
  have kept {chunks : List (List UInt8)} (splits : Splits chunks output) :
      (capture maxBytes chunks).value = decode output := by
    rw [capture_value, flatMap_decode_alone alone splits, decode_alone alone]
    apply List.take_of_length_le
    have least := length_le_byteLength (output.map unitOf)
    rw [byteLength_alone] at least
    omega
  have size : byteLength (decode output) ≤ maxBytes := by
    rw [decode_alone alone, byteLength_alone]
    exact fits
  refine ⟨?_, ?_, ?_, ?_⟩
  · intro chunks splits
    rw [kept splits]
    exact size
  · intro chunks splits
    rw [kept splits]
  · intro first second splitsFirst splitsSecond
    rw [kept splitsFirst, kept splitsSecond]
  · intro chunks splits
    rw [capture_truncated, flatMap_decode_alone alone splits,
      decode_alone alone]

/-- Bytes of ASCII are characters of their own. -/
theorem alone_of_ascii
    (ascii : IsAscii output) :
    Alone output ∧ (output.map widthOf).sum = output.length := by
  constructor
  · rintro before byte next after rfl -
    exact Utf8Chunks.not_continues (ascii next (by simp))
  · rw [← byteLength_alone]
    have units : output.map unitOf = output.map UInt8.toNat := by
      apply List.map_congr_left
      intro byte member
      exact if_pos (ascii byte member)
    rw [units, byteLength_ascii ascii]

/-- A text that fits is the same in single bytes, which leaves no characters
of several bytes. -/
theorem alone_of_fits
    (well : CapturedWell maxBytes output)
    (fits : byteLength (decode output) ≤ maxBytes) :
    Alone output ∧ (output.map widthOf).sum ≤ maxBytes := by
  have kept (chunks : List (List UInt8)) (splits : Splits chunks output) :
      chunks.flatMap decode = decode output := by
    have notCut :
        ¬ maxBytes < byteLength (chunks.flatMap decode) := by
      rw [← capture_truncated, well.truncated chunks splits]
      omega
    have same := well.same chunks [output] splits (splits_whole output)
    rw [capture_value, capture_value, flatMap_whole] at same
    have least := length_le_byteLength (chunks.flatMap decode)
    have leastWhole := length_le_byteLength (decode output)
    rw [List.take_of_length_le (by omega),
      List.take_of_length_le (by omega)] at same
    exact same
  have alone : Alone output := by
    rintro before byte next after rfl lead
    rw [← Bool.not_eq_true]
    intro continued
    have together :=
      kept [before, [byte, next], after] (by simp [Splits])
    have apart :=
      kept [before, [byte], [next], after] (by simp [Splits])
    have lengths := congrArg List.length (together.trans apart.symm)
    simp only [List.flatMap_cons, List.flatMap_nil, List.length_append,
      decode_pair lead continued, decode_single, List.length_singleton,
      List.length_nil] at lengths
    omega
  refine ⟨alone, ?_⟩
  rw [decode_alone alone, byteLength_alone] at fits
  exact fits

/-- A text that is cut off within the limit is ASCII as far as it is kept. -/
theorem ascii_of_cut
    (well : CapturedWell maxBytes output)
    (long : maxBytes < byteLength (decode output)) :
    IsAscii (output.take maxBytes) := by
  have bounded := well.bounded [output] (splits_whole output)
  rw [capture_value, flatMap_whole] at bounded
  have longer : maxBytes < (decode output).length := by
    by_contra short
    rw [List.take_of_length_le (Nat.le_of_not_lt short)] at bounded
    omega
  have count : ((decode output).take maxBytes).length = maxBytes := by
    rw [List.length_take]
    omega
  have reads := reads_chunks (splits_whole output)
  rw [flatMap_whole] at reads
  apply bytes_ascii_of_units reads (Nat.le_of_lt longer)
  apply ascii_of_byteLength_le
  omega

end Captured

/-- An output is captured well exactly when it is capturable. -/
theorem capturedWell_iff
    (maxBytes : Nat)
    (output : List UInt8) :
    CapturedWell maxBytes output ↔ Capturable maxBytes output := by
  constructor
  · intro well
    by_cases fits : byteLength (decode output) ≤ maxBytes
    · exact .inr (alone_of_fits well fits)
    · exact .inl (ascii_of_cut well (Nat.lt_of_not_le fits))
  · rintro (ascii | ⟨alone, fits⟩)
    · by_cases long : maxBytes < output.length
      · exact capturedWell_of_ascii long ascii
      · rw [List.take_of_length_le (Nat.le_of_not_lt long)] at ascii
        obtain ⟨alone, size⟩ := alone_of_ascii ascii
        exact capturedWell_of_alone alone (by omega)
    · exact capturedWell_of_alone alone fits

/-- Four bytes of two letters are cut to as many code units as bytes. -/
theorem letters_not_captured_well :
    byteLength (capture 3 [[0xC3, 0xA4, 0xC3, 0xA4]]).value = 4 ∧
      (capture 8 [[0xC3, 0xA4]]).value ≠ (capture 8 [[0xC3], [0xA4]]).value ∧
      ¬ ∀ (maxBytes : Nat) (output : List UInt8),
        CapturedWell maxBytes output := by
  refine ⟨by decide, by decide, fun always => ?_⟩
  have bounded :=
    (always 3 [0xC3, 0xA4, 0xC3, 0xA4]).bounded [[0xC3, 0xA4, 0xC3, 0xA4]] rfl
  exact absurd bounded (by decide)

end IgaScheduler.JobOutput

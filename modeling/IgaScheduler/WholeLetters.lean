import Mathlib.Data.List.Basic
import IgaScheduler.JobOutput
import IgaScheduler.JsonPrinter

namespace Utf8Chunks

/-!
# Whole letters

What is decoded from chunks is the code units of letters: an incomplete or
impossible sequence becomes a replacement character, which is one.  A beginning
of such units is short of a letter exactly when it ends in the first half of a
surrogate pair.
-/

/-- A complete sequence is that of a letter. -/
theorem codePoint_valid
    {first byte : UInt8}
    {rest : List UInt8}
    (partially : Partial (first :: rest))
    (byteContinues : continues (first :: rest) byte = true)
    (complete : (first :: rest ++ [byte]).length = sequenceLength first) :
    (codePoint (first :: rest ++ [byte])).isValidChar := by
  have byteBounds := continues_bounds byteContinues
  unfold Nat.isValidChar
  cases partially with
  | one leads =>
      have bounds := lead_bounds leads
      have value :
          codePoint ([first] ++ [byte]) =
            first.toNat % 0x20 * 0x40 + byte.toNat % 0x40 :=
        rfl
      change 2 = sequenceLength first at complete
      rw [value]
      omega
  | @two _ second leads secondContinues =>
      have bounds := lead_bounds (show 2 ≤ sequenceLength first by omega)
      have secondBounds := continues_bounds secondContinues
      -- a sequence that begins so would be that of a surrogate
      have surrogates : first.toNat = 0xED → second.toNat ≤ 0x9F := by
        intro isED
        simp [continues, lowest, highest, isED] at secondContinues
        exact secondContinues.2
      have value :
          codePoint ([first, second] ++ [byte]) =
            (first.toNat % 0x10 * 0x40 + second.toNat % 0x40) * 0x40 +
              byte.toNat % 0x40 :=
        rfl
      change 3 = sequenceLength first at complete
      rw [value]
      omega
  | @three _ second third leads secondContinues thirdContinues =>
      have bounds := lead_bounds (show 2 ≤ sequenceLength first by omega)
      have secondBounds := continues_bounds secondContinues
      have thirdBounds := continues_bounds thirdContinues
      have special := second_bounds secondContinues
      have greatest : first.toNat = 0xF4 → second.toNat ≤ 0x8F := by
        intro isF4
        simp [continues, lowest, highest, isF4] at secondContinues
        exact secondContinues.2
      have value :
          codePoint ([first, second, third] ++ [byte]) =
            ((first.toNat % 0x08 * 0x40 + second.toNat % 0x40) * 0x40 +
              third.toNat % 0x40) * 0x40 + byte.toNat % 0x40 :=
        rfl
      change 4 = sequenceLength first at complete
      rw [value]
      omega

/-- The units are those of whole letters. -/
def WholeLetters (units : List Nat) : Prop :=
  ∃ text, units = utf16 text

theorem WholeLetters.nil : WholeLetters [] :=
  ⟨[], rfl⟩

theorem WholeLetters.append
    {first second : List Nat}
    (firstWhole : WholeLetters first)
    (secondWhole : WholeLetters second) :
    WholeLetters (first ++ second) := by
  obtain ⟨text, rfl⟩ := firstWhole
  obtain ⟨more, rfl⟩ := secondWhole
  exact ⟨text ++ more, List.flatMap_append.symm⟩

theorem wholeLetters_codeUnits
    {codePoint : Nat}
    (valid : codePoint.isValidChar) :
    WholeLetters (codeUnits codePoint) := by
  refine ⟨[Char.ofNatAux codePoint valid], ?_⟩
  rw [utf16, List.flatMap_singleton]
  rfl

theorem wholeLetters_unit
    {unit : Nat}
    (small : unit < 0xD800 ∨ 0xDFFF < unit ∧ unit < 0x10000) :
    WholeLetters [unit] := by
  have units : codeUnits unit = [unit] := if_pos (by omega)
  rw [← units]
  apply wholeLetters_codeUnits
  unfold Nat.isValidChar
  omega

theorem wholeLetters_flush (pending : List UInt8) :
    WholeLetters (flush pending) := by
  unfold flush
  split
  · exact .nil
  · exact wholeLetters_unit (by decide)

theorem wholeLetters_restart (byte : UInt8) :
    WholeLetters (restart byte).1 := by
  have bounded := byte.toNat_lt
  unfold restart
  split
  · exact wholeLetters_unit (by omega)
  · split
    · exact wholeLetters_unit (by decide)
    · exact .nil

theorem wholeLetters_step
    {pending : List UInt8}
    (partially : Partial pending)
    (event : Event) :
    WholeLetters (step pending event).1 := by
  cases event with
  | none =>
      exact wholeLetters_flush pending
  | some byte =>
      cases pending with
      | nil =>
          exact wholeLetters_restart byte
      | cons first rest =>
          unfold step
          dsimp only
          split
          · rename_i byteContinues
            split
            · rename_i complete
              exact wholeLetters_codeUnits
                (codePoint_valid partially byteContinues complete)
            · exact .nil
          · exact (wholeLetters_unit (by decide)).append
              (wholeLetters_restart byte)

/-- A stream is decoded to whole letters, and what is pending is flushed. -/
theorem wholeLetters_run
    {pending : List UInt8}
    (partially : Partial pending)
    (stream : List Event) :
    WholeLetters (run pending stream).1 := by
  induction stream generalizing pending with
  | nil =>
      exact .nil
  | cons event rest inductionHypothesis =>
      have next : Partial (step pending event).2 := by
        cases event with
        | none => exact .nil
        | some byte => exact (step_reads partially byte).1
      exact (wholeLetters_step partially event).append
        (inductionHypothesis next)

theorem wholeLetters_decode (chunk : List UInt8) :
    WholeLetters (decode chunk) :=
  wholeLetters_run .nil _

theorem wholeLetters_flatMap_decode (chunks : List (List UInt8)) :
    WholeLetters (chunks.flatMap decode) := by
  induction chunks with
  | nil =>
      exact .nil
  | cons chunk rest inductionHypothesis =>
      exact (wholeLetters_decode chunk).append inductionHypothesis

/-! ## Beginnings -/

/-- The first half of a surrogate pair. -/
def FirstHalf (unit : Nat) : Prop :=
  0xD800 ≤ unit ∧ unit < 0xDC00

theorem scalar_bounds (letter : Char) :
    letter.toNat < 0xD800 ∨
      0xDFFF < letter.toNat ∧ letter.toNat < 0x110000 := by
  have valid := letter.valid
  unfold UInt32.isValidChar Nat.isValidChar at valid
  exact valid

/-- What is taken of a text is letters, and at most half of one more. -/
theorem take_utf16
    (text : List Char)
    (count : Nat) :
    ∃ kept,
      (utf16 text).take count = utf16 kept ∨
        ∃ half, FirstHalf half ∧
          (utf16 text).take count = utf16 kept ++ [half] := by
  induction text generalizing count with
  | nil =>
      exact ⟨[], .inl List.take_nil⟩
  | cons letter rest inductionHypothesis =>
      have units :
          utf16 (letter :: rest) = codeUnits letter.toNat ++ utf16 rest :=
        List.flatMap_cons
      by_cases short : count < (codeUnits letter.toNat).length
      · refine ⟨[], ?_⟩
        rw [units, List.take_append_of_le_length (Nat.le_of_lt short)]
        have bounds := scalar_bounds letter
        unfold codeUnits at short ⊢
        split at short
        · obtain rfl : count = 0 := by simpa using short
          exact .inl rfl
        · rename_i pair
          rw [if_neg pair]
          obtain rfl | rfl : count = 0 ∨ count = 1 := by
            simp only [List.length_cons, List.length_nil] at short
            omega
          · exact .inl rfl
          · exact .inr ⟨_, ⟨by omega, by omega⟩, rfl⟩
      · obtain ⟨more, rfl⟩ :=
          Nat.exists_eq_add_of_le (Nat.le_of_not_lt short)
        obtain ⟨kept, whole | ⟨half, first, taken⟩⟩ :=
          inductionHypothesis more
        · refine ⟨letter :: kept, .inl ?_⟩
          rw [units, List.take_length_add_append, whole]
          rfl
        · refine ⟨letter :: kept, .inr ⟨half, first, ?_⟩⟩
          rw [units, List.take_length_add_append, taken, ← List.append_assoc]
          rfl

/-- A whole text does not end in a first half. -/
theorem getLast?_utf16
    (text : List Char) :
    ∀ last ∈ (utf16 text).getLast?, ¬ FirstHalf last := by
  induction text with
  | nil =>
      exact nofun
  | cons letter rest inductionHypothesis =>
      intro last
      have units :
          utf16 (letter :: rest) = codeUnits letter.toNat ++ utf16 rest :=
        List.flatMap_cons
      rw [units, List.getLast?_append, Option.mem_def, Option.or_eq_some_iff]
      rintro (behind | ⟨-, ofLetter⟩)
      · exact inductionHypothesis last behind
      · have bounds := scalar_bounds letter
        unfold FirstHalf
        unfold codeUnits at ofLetter
        split at ofLetter
        · rw [List.getLast?_singleton, Option.some_inj] at ofLetter
          omega
        · rw [List.getLast?_cons_cons, List.getLast?_singleton,
            Option.some_inj] at ofLetter
          omega

/-- A null character is a unit of its own. -/
theorem zero_mem_utf16
    {text : List Char} :
    0 ∈ utf16 text ↔ '\x00' ∈ text := by
  unfold utf16
  rw [List.mem_flatMap]
  constructor
  · rintro ⟨letter, member, unit⟩
    have null : letter.toNat = 0 := by
      unfold codeUnits at unit
      split at unit
      · exact (List.mem_singleton.mp unit).symm
      · simp only [List.mem_cons, List.not_mem_nil, or_false] at unit
        omega
    rwa [← Char.ofNat_toNat letter, null] at member
  · intro member
    exact ⟨'\x00', member, List.mem_cons_self⟩

end Utf8Chunks

namespace IgaScheduler

namespace JavaScript

open Utf8Chunks (FirstHalf WholeLetters codeUnits take_utf16 utf16)

/-- Half of a letter is not a text. -/
theorem scalars?_half
    {half : Nat}
    (first : FirstHalf half)
    (text : List Char) :
    scalars? (utf16 text ++ [half]) = none := by
  induction text with
  | nil =>
      exact if_pos first
  | cons letter rest inductionHypothesis =>
      have units :
          utf16 (letter :: rest) = codeUnits letter.toNat ++ utf16 rest :=
        List.flatMap_cons
      rw [units, List.append_assoc, scalars?_codeUnits, inductionHypothesis]
      rfl

/-- A beginning of whole letters is a text, or it ends in half of a letter. -/
theorem scalars?_take
    {units : List Nat}
    (whole : WholeLetters units)
    (count : Nat) :
    (∃ kept,
        units.take count = utf16 kept ∧
          scalars? (units.take count) = some kept) ∨
      scalars? (units.take count) = none ∧
        ∃ half ∈ (units.take count).getLast?, FirstHalf half := by
  obtain ⟨text, rfl⟩ := whole
  obtain ⟨kept, taken | ⟨half, first, taken⟩⟩ := take_utf16 text count
  · rw [taken]
    exact .inl ⟨kept, rfl, scalars?_utf16 kept⟩
  · rw [taken]
    refine .inr ⟨scalars?_half first kept, half, ?_, first⟩
    rw [List.getLast?_append]
    rfl

end JavaScript

end IgaScheduler

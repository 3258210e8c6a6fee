import Mathlib.Data.List.Basic

namespace Utf8Chunks

/-!
# UTF-8 text that arrives in chunks

A decoder keeps the bytes of a sequence that is not yet complete.  What cannot
belong to a sequence becomes a replacement character, and so does a sequence
that the end of a chunk leaves incomplete.  A stream of chunks is read here as
a list of events: bytes, and the ends of chunks.  UTF-16 code units are numbers.
-/

def replacement : Nat := 0xFFFD

/-- The code units of a code point. -/
def codeUnits (codePoint : Nat) : List Nat :=
  if codePoint < 0x10000 then
    [codePoint]
  else
    [0xD800 + (codePoint - 0x10000) / 0x400,
      0xDC00 + (codePoint - 0x10000) % 0x400]

/-- The length of the sequences that begin with the byte; `0` if none does. -/
def sequenceLength (byte : UInt8) : Nat :=
  let value := byte.toNat
  if value < 0x80 then 1
  else if value < 0xC2 then 0
  else if value < 0xE0 then 2
  else if value < 0xF0 then 3
  else if value < 0xF5 then 4
  else 0

/-- The least byte that may follow the pending ones. -/
def lowest : List UInt8 → Nat
  | [first] =>
      if first.toNat = 0xE0 then 0xA0
      else if first.toNat = 0xF0 then 0x90
      else 0x80
  | _ => 0x80

/-- The greatest byte that may follow the pending ones. -/
def highest : List UInt8 → Nat
  | [first] =>
      if first.toNat = 0xED then 0x9F
      else if first.toNat = 0xF4 then 0x8F
      else 0xBF
  | _ => 0xBF

def continues
    (pending : List UInt8)
    (byte : UInt8) :
    Bool :=
  lowest pending ≤ byte.toNat && byte.toNat ≤ highest pending

/-- The code point of a complete sequence. -/
def codePoint : List UInt8 → Nat
  | [first] => first.toNat
  | [first, second] => first.toNat % 0x20 * 0x40 + second.toNat % 0x40
  | [first, second, third] =>
      (first.toNat % 0x10 * 0x40 + second.toNat % 0x40) * 0x40 +
        third.toNat % 0x40
  | [first, second, third, fourth] =>
      ((first.toNat % 0x08 * 0x40 + second.toNat % 0x40) * 0x40 +
        third.toNat % 0x40) * 0x40 + fourth.toNat % 0x40
  | _ => replacement

/-- Begin a sequence; the units that are known now, and the pending bytes. -/
def restart (byte : UInt8) : List Nat × List UInt8 :=
  if sequenceLength byte = 1 then ([byte.toNat], [])
  else if sequenceLength byte = 0 then ([replacement], [])
  else ([], [byte])

/-- What becomes of a sequence that is not continued. -/
def flush (pending : List UInt8) : List Nat :=
  if pending = [] then [] else [replacement]

/-- A byte, or the end of a chunk. -/
abbrev Event := Option UInt8

def step
    (pending : List UInt8)
    (event : Event) :
    List Nat × List UInt8 :=
  match event, pending with
  | none, pending => (flush pending, [])
  | some byte, [] => restart byte
  | some byte, first :: rest =>
      if continues (first :: rest) byte then
        let sequence := first :: rest ++ [byte]
        if sequence.length = sequenceLength first then
          (codeUnits (codePoint sequence), [])
        else
          ([], sequence)
      else
        (replacement :: (restart byte).1, (restart byte).2)

def run
    (pending : List UInt8) :
    List Event → List Nat × List UInt8
  | [] => ([], pending)
  | event :: rest =>
      ((step pending event).1 ++ (run (step pending event).2 rest).1,
        (run (step pending event).2 rest).2)

/-- The text of one chunk, as `chunk.toString("utf8")` decodes it. -/
def decode (chunk : List UInt8) : List Nat :=
  (run [] (chunk.map some ++ [none])).1

def events (chunks : List (List UInt8)) : List Event :=
  chunks.flatMap fun chunk => chunk.map some ++ [none]

def bytes (events : List Event) : List UInt8 :=
  events.filterMap id

/-- The bytes of a text. -/
def encode (text : List Char) : List UInt8 :=
  text.flatMap String.utf8EncodeChar

/-- The code units of a text. -/
def utf16 (text : List Char) : List Nat :=
  text.flatMap fun letter => codeUnits letter.toNat

/-! ## Runs -/

theorem run_append
    (pending : List UInt8)
    (first second : List Event) :
    run pending (first ++ second) =
      ((run pending first).1 ++ (run (run pending first).2 second).1,
        (run (run pending first).2 second).2) := by
  induction first generalizing pending with
  | nil =>
      rfl
  | cons event rest inductionHypothesis =>
      simp only [List.cons_append, run, inductionHypothesis,
        List.append_assoc]

@[simp] theorem bytes_nil : bytes [] = [] :=
  rfl

@[simp] theorem bytes_append
    (first second : List Event) :
    bytes (first ++ second) = bytes first ++ bytes second :=
  List.filterMap_append

@[simp] theorem bytes_map_some
    (chunk : List UInt8) :
    bytes (chunk.map some) = chunk := by
  simp [bytes]

@[simp] theorem bytes_none_cons
    (rest : List Event) :
    bytes (none :: rest) = bytes rest :=
  rfl

@[simp] theorem bytes_some_cons
    (byte : UInt8)
    (rest : List Event) :
    bytes (some byte :: rest) = byte :: bytes rest :=
  rfl

theorem bytes_events (chunks : List (List UInt8)) :
    bytes (events chunks) = chunks.flatten := by
  induction chunks with
  | nil =>
      rfl
  | cons chunk rest inductionHypothesis =>
      rw [events, List.flatMap_cons, bytes_append, bytes_append,
        bytes_map_some, List.flatten_cons, ← inductionHypothesis]
      simp [bytes, events]

/-- The chunks one by one decode to what the stream of events does. -/
theorem run_events (chunks : List (List UInt8)) :
    run [] (events chunks) = (chunks.flatMap decode, []) := by
  induction chunks with
  | nil =>
      rfl
  | cons chunk rest inductionHypothesis =>
      have ended : (run [] (chunk.map some ++ [none])).2 = [] := by
        rw [run_append]
        rfl
      rw [events, List.flatMap_cons, run_append, ended, List.flatMap_cons]
      change (_ ++ (run [] (events rest)).1, (run [] (events rest)).2) = _
      rw [inductionHypothesis]
      rfl

/-! ## Bytes that follow others -/

theorem le_lowest (pending : List UInt8) :
    0x80 ≤ lowest pending := by
  unfold lowest
  split
  · split
    · omega
    · split <;> omega
  · exact Nat.le_refl _

theorem highest_le (pending : List UInt8) :
    highest pending ≤ 0xBF := by
  unfold highest
  split
  · split
    · omega
    · split <;> omega
  · exact Nat.le_refl _

/-! ## Bytes of ASCII -/

theorem not_continues
    {pending : List UInt8}
    {byte : UInt8}
    (ascii : byte.toNat < 0x80) :
    continues pending byte = false := by
  have least := le_lowest pending
  unfold continues
  simp only [Bool.and_eq_false_iff, decide_eq_false_iff_not]
  omega

theorem restart_ascii
    {byte : UInt8}
    (ascii : byte.toNat < 0x80) :
    restart byte = ([byte.toNat], []) := by
  simp [restart, sequenceLength, ascii]

/-- A byte of ASCII stands for itself, whatever is pending. -/
theorem step_ascii
    (pending : List UInt8)
    {byte : UInt8}
    (ascii : byte.toNat < 0x80) :
    step pending (some byte) = (flush pending ++ [byte.toNat], []) := by
  cases pending with
  | nil =>
      exact restart_ascii ascii
  | cons first rest =>
      simp [step, not_continues ascii, restart_ascii ascii, flush]

/-- Bytes of ASCII decode to themselves, wherever chunks end. -/
theorem run_ascii
    {stream : List Event}
    (ascii : ∀ byte ∈ bytes stream, byte.toNat < 0x80) :
    run [] stream = ((bytes stream).map UInt8.toNat, []) := by
  induction stream with
  | nil =>
      rfl
  | cons event rest inductionHypothesis =>
      cases event with
      | none =>
          have tail := inductionHypothesis ascii
          rw [run]
          simp only [step, flush, tail, if_true, List.nil_append,
            bytes_none_cons]
      | some byte =>
          rw [bytes_some_cons, List.forall_mem_cons] at ascii
          rw [run, step_ascii [] ascii.1, inductionHypothesis ascii.2]
          rfl

/-- A last byte of ASCII stands at the end, and nothing is pending after it. -/
theorem run_ends_ascii
    {pending : List UInt8}
    {stream : List Event}
    {earlier : List UInt8}
    {byte : UInt8}
    (ends : bytes stream = earlier ++ [byte])
    (ascii : byte.toNat < 0x80) :
    ∃ units, run pending stream = (units ++ [byte.toNat], []) := by
  obtain ⟨before, after, rfl, -, last⟩ := List.filterMap_eq_append_iff.mp ends
  obtain ⟨between, event, rest, rfl, -, same, nothing⟩ :=
    List.filterMap_eq_cons_iff.mp last
  cases same
  have quiet : ∀ byte ∈ bytes rest, byte.toNat < 0x80 := by
    rw [bytes, nothing]
    simp
  refine ⟨(run pending before).1 ++
    ((run (run pending before).2 between).1 ++
      flush (run (run pending before).2 between).2), ?_⟩
  rw [run_append, run_append]
  simp only [run, step_ascii _ ascii, run_ascii quiet]
  rw [bytes, nothing]
  simp

/-! ## The bytes of a letter -/

/-- The bytes of one code point. -/
inductive IsSequence : List UInt8 → Prop where
  | one {first : UInt8} :
      first.toNat < 0x80 → IsSequence [first]
  | two {first second : UInt8} :
      sequenceLength first = 2 → continues [first] second = true →
        IsSequence [first, second]
  | three {first second third : UInt8} :
      sequenceLength first = 3 → continues [first] second = true →
        continues [first, second] third = true →
        IsSequence [first, second, third]
  | four {first second third fourth : UInt8} :
      sequenceLength first = 4 → continues [first] second = true →
        continues [first, second] third = true →
        continues [first, second, third] fourth = true →
        IsSequence [first, second, third, fourth]

theorem continues_first
    {first second : UInt8}
    (notLow : 0x80 ≤ second.toNat)
    (notHigh : second.toNat ≤ 0xBF)
    (e0 : first.toNat = 0xE0 → 0xA0 ≤ second.toNat)
    (f0 : first.toNat = 0xF0 → 0x90 ≤ second.toNat)
    (ed : first.toNat = 0xED → second.toNat ≤ 0x9F)
    (f4 : first.toNat = 0xF4 → second.toNat ≤ 0x8F) :
    continues [first] second = true := by
  unfold continues lowest highest
  dsimp only
  rw [Bool.and_eq_true, decide_eq_true_eq, decide_eq_true_eq]
  constructor
  · split
    · exact e0 ‹_›
    · split
      · exact f0 ‹_›
      · exact notLow
  · split
    · exact ed ‹_›
    · split
      · exact f4 ‹_›
      · exact notHigh

theorem continues_later
    {first second byte : UInt8}
    {rest : List UInt8}
    (notLow : 0x80 ≤ byte.toNat)
    (notHigh : byte.toNat ≤ 0xBF) :
    continues (first :: second :: rest) byte = true := by
  simp [continues, lowest, highest, notLow, notHigh]

theorem sequence_letter (letter : Char) :
    IsSequence (String.utf8EncodeChar letter) ∧
      codePoint (String.utf8EncodeChar letter) = letter.toNat := by
  have valid := letter.valid
  unfold UInt32.isValidChar Nat.isValidChar at valid
  unfold String.utf8EncodeChar Char.toNat
  generalize letter.val.toNat = value at *
  dsimp only
  have small (number : Nat) (fits : number < 256) :
      (UInt8.ofNat number).toNat = number := by
    rw [UInt8.toNat_ofNat']
    omega
  have tail (number : Nat) :
      (UInt8.ofNat (number % 0x40 + 0x80)).toNat = number % 0x40 + 0x80 :=
    small _ (by omega)
  by_cases one : value ≤ 0x7F
  · rw [if_pos one]
    have same := small value (by omega)
    exact ⟨.one (by omega), same⟩
  rw [if_neg one]
  by_cases two : value ≤ 0x7FF
  · rw [if_pos two]
    have head := small (value / 64 % 0x20 + 0xC0) (by omega)
    refine ⟨.two ?_ ?_, ?_⟩
    · rw [sequenceLength, head, if_neg (by omega), if_neg (by omega),
        if_pos (by omega)]
    · apply continues_first <;> rw [tail] <;> omega
    · rw [codePoint, head, tail]
      omega
  rw [if_neg two]
  by_cases three : value ≤ 0xFFFF
  · rw [if_pos three]
    have head := small (value / 4096 % 0x10 + 0xE0) (by omega)
    refine ⟨.three ?_ ?_ ?_, ?_⟩
    · rw [sequenceLength, head, if_neg (by omega), if_neg (by omega),
        if_neg (by omega), if_pos (by omega)]
    · apply continues_first <;> rw [tail] <;> omega
    · apply continues_later <;> rw [tail] <;> omega
    · rw [codePoint, head, tail, tail]
      omega
  · rw [if_neg three]
    have head := small (value / 262144 % 0x08 + 0xF0) (by omega)
    refine ⟨.four ?_ ?_ ?_ ?_, ?_⟩
    · rw [sequenceLength, head, if_neg (by omega), if_neg (by omega),
        if_neg (by omega), if_neg (by omega), if_pos (by omega)]
    · apply continues_first <;> rw [tail] <;> omega
    · apply continues_later <;> rw [tail] <;> omega
    · apply continues_later <;> rw [tail] <;> omega
    · rw [codePoint, head, tail, tail, tail]
      omega

/-- The bytes of a code point are decoded to its units. -/
theorem run_sequence
    {sequence : List UInt8}
    (isSequence : IsSequence sequence) :
    run [] (sequence.map some) = (codeUnits (codePoint sequence), []) := by
  cases isSequence with
  | one ascii =>
      rw [List.map_cons, List.map_nil, run, step_ascii [] ascii, codePoint,
        codeUnits, if_pos (by omega)]
      rfl
  | two two second =>
      simp [run, step, restart, two, second]
  | three three second third =>
      simp [run, step, restart, three, second, third]
  | four four second third fourth =>
      simp [run, step, restart, four, second, third, fourth]

/-- A text that is encoded and then decoded in one piece. -/
theorem decode_encode (text : List Char) :
    decode (encode text) = utf16 text := by
  have whole (text : List Char) :
      run [] ((encode text).map some) = (utf16 text, []) := by
    induction text with
    | nil =>
        rfl
    | cons letter rest inductionHypothesis =>
        obtain ⟨isSequence, value⟩ := sequence_letter letter
        have first := run_sequence isSequence
        rw [value] at first
        rw [encode, List.flatMap_cons, List.map_append, run_append, first,
          utf16, List.flatMap_cons]
        dsimp only
        rw [encode, utf16] at inductionHypothesis
        rw [inductionHypothesis]
  rw [decode, run_append, whole]
  exact List.append_nil _

/-- Before the last byte the bytes are kept pending. -/
theorem step_incomplete
    {pending more : List UInt8}
    {byte : UInt8}
    (isSequence : IsSequence (pending ++ byte :: more))
    (begun : pending ≠ [])
    (incomplete : more ≠ []) :
    step pending (some byte) = ([], pending ++ [byte]) := by
  obtain ⟨lead, rest, rfl⟩ := List.exists_cons_of_ne_nil begun
  obtain ⟨next, others, rfl⟩ := List.exists_cons_of_ne_nil incomplete
  generalize shape : lead :: rest ++ byte :: next :: others = sequence
    at isSequence
  have stays
      (byteContinues : continues (lead :: rest) byte = true)
      (short : (lead :: rest ++ [byte]).length ≠ sequenceLength lead) :
      step (lead :: rest) (some byte) = ([], lead :: rest ++ [byte]) := by
    rw [step, if_pos byteContinues]
    exact if_neg short
  cases isSequence with
  | one ascii =>
      simp at shape
  | two two second =>
      rcases rest with _ | ⟨third, rest⟩ <;> simp at shape
  | three three second third =>
      rcases rest with _ | ⟨middle, rest⟩
      · simp only [List.cons_append, List.nil_append, List.cons.injEq] at shape
        obtain ⟨rfl, rfl, -⟩ := shape
        exact stays second (by simp [three])
      · rcases rest with _ | ⟨last, rest⟩ <;> simp at shape
  | four four second third fourth =>
      rcases rest with _ | ⟨middle, rest⟩
      · simp only [List.cons_append, List.nil_append, List.cons.injEq] at shape
        obtain ⟨rfl, rfl, -⟩ := shape
        exact stays second (by simp [four])
      · rcases rest with _ | ⟨last, rest⟩
        · simp only [List.cons_append, List.nil_append, List.cons.injEq]
            at shape
          obtain ⟨rfl, rfl, rfl, -⟩ := shape
          exact stays third (by simp [four])
        · rcases rest with _ | ⟨beyond, rest⟩ <;> simp at shape

theorem continues_bounds
    {pending : List UInt8}
    {byte : UInt8}
    (byteContinues : continues pending byte = true) :
    0x80 ≤ byte.toNat ∧ byte.toNat ≤ 0xBF := by
  have least := le_lowest pending
  have greatest := highest_le pending
  rw [continues, Bool.and_eq_true, decide_eq_true_eq, decide_eq_true_eq]
    at byteContinues
  omega

/-- A byte that may follow others begins no sequence. -/
theorem begins_none
    {byte : UInt8}
    (bounds : 0x80 ≤ byte.toNat ∧ byte.toNat ≤ 0xBF) :
    sequenceLength byte = 0 := by
  rw [sequenceLength, if_neg (by omega), if_pos (by omega)]

theorem tail_bounds
    {first : UInt8}
    {rest : List UInt8}
    (isSequence : IsSequence (first :: rest)) :
    ∀ byte ∈ rest, 0x80 ≤ byte.toNat ∧ byte.toNat ≤ 0xBF := by
  cases isSequence with
  | one ascii =>
      simp
  | two two second =>
      simpa using continues_bounds second
  | three three second third =>
      simpa using ⟨continues_bounds second, continues_bounds third⟩
  | four four second third fourth =>
      simpa using ⟨continues_bounds second, continues_bounds third,
        continues_bounds fourth⟩

/-- Bytes that begin nothing are replaced one by one. -/
theorem run_tail
    {stream : List Event}
    (tail : ∀ byte ∈ bytes stream, 0x80 ≤ byte.toNat ∧ byte.toNat ≤ 0xBF) :
    run [] stream =
      (List.replicate (bytes stream).length replacement, []) := by
  induction stream with
  | nil =>
      rfl
  | cons event rest inductionHypothesis =>
      cases event with
      | none =>
          have later := inductionHypothesis tail
          rw [run]
          simp only [step, flush, later, if_true, List.nil_append,
            bytes_none_cons]
      | some byte =>
          rw [bytes_some_cons, List.forall_mem_cons] at tail
          have later := inductionHypothesis tail.2
          rw [run]
          simp [step, restart, begins_none tail.1, later,
            List.replicate_succ]

/-- A code point in which a chunk ends becomes replacement characters. -/
theorem run_cut
    {pending : List UInt8}
    {stream : List Event}
    (isSequence : IsSequence (pending ++ bytes stream))
    (begun : pending ≠ [])
    {before after : List Event}
    (cut : stream = before ++ none :: after)
    (incomplete : bytes after ≠ []) :
    ∃ count,
      2 ≤ count ∧
        run pending stream = (List.replicate count replacement, []) := by
  induction stream generalizing pending before with
  | nil =>
      simp at cut
  | cons event rest inductionHypothesis =>
      obtain ⟨lead, others, rfl⟩ := List.exists_cons_of_ne_nil begun
      have restBytes : bytes rest ≠ [] := by
        cases before with
        | nil =>
            cases cut
            exact incomplete
        | cons first before =>
            cases cut
            simp [incomplete]
      cases event with
      | none =>
          have tail := tail_bounds isSequence
          rw [bytes_none_cons] at tail
          have later := @run_tail rest fun byte member =>
            tail byte (List.mem_append_right _ member)
          have positive := List.length_pos_iff.mpr restBytes
          refine ⟨(bytes rest).length + 1, by omega, ?_⟩
          rw [run]
          simp [step, flush, later, List.replicate_succ]
      | some byte =>
          cases before with
          | nil =>
              cases cut
          | cons first before =>
              rw [bytes_some_cons] at isSequence
              have kept := step_incomplete isSequence
                (List.cons_ne_nil lead others) restBytes
              rw [List.append_cons] at isSequence
              obtain ⟨count, many, ran⟩ := inductionHypothesis isSequence
                (by simp) (List.cons.inj cut).2
              refine ⟨count, many, ?_⟩
              rw [run, kept, ran]
              rfl

/-! ## Letters in the stream -/

/-- A chunk ends among the bytes. -/
def CutInside (stream : List Event) : Prop :=
  ∃ before after, stream = before ++ none :: after ∧
    bytes before ≠ [] ∧ bytes after ≠ []

theorem run_quiet
    {stream : List Event}
    (quiet : bytes stream = []) :
    run [] stream = ([], []) := by
  rw [run_ascii (by rw [quiet]; simp), quiet]
  rfl

/-- Where no chunk ends inside, only ends of chunks surround the bytes. -/
theorem surrounded
    {stream : List Event}
    (whole : ¬ CutInside stream) :
    ∃ leading trailing,
      stream = leading ++ (bytes stream).map some ++ trailing ∧
        bytes leading = [] ∧ bytes trailing = [] := by
  induction stream with
  | nil =>
      exact ⟨[], [], rfl, rfl, rfl⟩
  | cons event rest inductionHypothesis =>
      have restWhole : ¬ CutInside rest := by
        rintro ⟨before, after, shape, begun, incomplete⟩
        refine whole ⟨event :: before, after, by rw [shape]; rfl, ?_,
          incomplete⟩
        cases event with
        | none => exact begun
        | some byte => simp
      obtain ⟨leading, trailing, shape, leads, trails⟩ :=
        inductionHypothesis restWhole
      cases event with
      | none =>
          refine ⟨none :: leading, trailing, ?_, leads, trails⟩
          rw [bytes_none_cons, List.cons_append, List.cons_append, ← shape]
      | some byte =>
          by_cases last : bytes rest = []
          · refine ⟨[], rest, ?_, rfl, last⟩
            rw [bytes_some_cons, last]
            rfl
          · refine ⟨[], trailing, ?_, rfl, trails⟩
            cases leading with
            | nil =>
                rw [bytes_some_cons, List.map_cons, List.nil_append,
                  List.cons_append]
                exact congrArg _ shape
            | cons first leading =>
                exfalso
                cases first with
                | some early =>
                    cases leads
                | none =>
                    refine whole ⟨[some byte], _, congrArg _ shape, by simp, ?_⟩
                    simp [last]

/-- Where no chunk ends inside, the bytes are decoded as one chunk. -/
theorem run_whole
    {stream : List Event}
    (isSequence : IsSequence (bytes stream))
    (whole : ¬ CutInside stream) :
    run [] stream = (codeUnits (codePoint (bytes stream)), []) := by
  obtain ⟨leading, trailing, shape, leads, trails⟩ := surrounded whole
  rw [shape, run_append, run_append, run_quiet leads]
  dsimp only
  rw [run_sequence isSequence, run_quiet trails, ← shape]
  simp

theorem restart_lead
    {first : UInt8}
    {rest : List UInt8}
    (isSequence : IsSequence (first :: rest))
    (more : rest ≠ []) :
    restart first = ([], [first]) := by
  cases isSequence with
  | one ascii => exact absurd rfl more
  | two two second => simp [restart, two]
  | three three second third => simp [restart, three]
  | four four second third fourth => simp [restart, four]

theorem run_cutInside
    {stream : List Event}
    (isSequence : IsSequence (bytes stream))
    (cut : CutInside stream) :
    ∃ count,
      2 ≤ count ∧
        run [] stream = (List.replicate count replacement, []) := by
  induction stream with
  | nil =>
      cases isSequence
  | cons event rest inductionHypothesis =>
      obtain ⟨before, after, shape, begun, incomplete⟩ := cut
      cases before with
      | nil =>
          exact absurd rfl begun
      | cons first before =>
          obtain ⟨rfl, rfl⟩ := List.cons.inj shape
          cases event with
          | none =>
              obtain ⟨count, many, ran⟩ := inductionHypothesis isSequence
                ⟨before, after, rfl, begun, incomplete⟩
              refine ⟨count, many, ?_⟩
              rw [run]
              simp only [step, flush, ran, if_true, List.nil_append]
          | some byte =>
              have more : bytes (before ++ none :: after) ≠ [] := by
                simp [incomplete]
              have lead := restart_lead isSequence more
              obtain ⟨count, many, ran⟩ := @run_cut [byte] _ isSequence
                (List.cons_ne_nil _ _) _ _ rfl incomplete
              refine ⟨count, many, ?_⟩
              rw [run, step, lead, ran]
              rfl

/-! ## Texts in the stream -/

/-- The bytes lead into the middle of a letter of the text. -/
def LeadsInside
    (text : List Char)
    (lead : List UInt8) :
    Prop :=
  ∃ done letter rest first second,
    text = done ++ letter :: rest ∧
      String.utf8EncodeChar letter = first ++ second ∧
      first ≠ [] ∧ second ≠ [] ∧ lead = encode done ++ first

/-- A chunk ends in the middle of a letter of the text. -/
def CutsLetter
    (stream : List Event)
    (text : List Char) :
    Prop :=
  ∃ before after,
    stream = before ++ none :: after ∧ LeadsInside text (bytes before)

theorem LeadsInside.nonempty
    {text : List Char}
    {lead : List UInt8}
    (inside : LeadsInside text lead) :
    lead ≠ [] := by
  obtain ⟨done, letter, rest, first, second, -, -, begun, -, rfl⟩ := inside
  simp [begun]

theorem LeadsInside.shorter
    {text : List Char}
    {lead : List UInt8}
    (inside : LeadsInside text lead) :
    lead.length < (encode text).length := by
  obtain ⟨done, letter, rest, first, second, rfl, spelled, -, more, rfl⟩ :=
    inside
  have positive := List.length_pos_iff.mpr more
  simp only [encode, List.flatMap_append, List.flatMap_cons, spelled,
    List.length_append]
  omega

theorem leadsInside_cons
    {letter : Char}
    {rest : List Char}
    {lead : List UInt8} :
    LeadsInside (letter :: rest) lead ↔
      (lead ≠ [] ∧ ∃ second, second ≠ [] ∧
        String.utf8EncodeChar letter = lead ++ second) ∨
      ∃ more, lead = String.utf8EncodeChar letter ++ more ∧
        LeadsInside rest more := by
  constructor
  · rintro ⟨done, cut, others, first, second, text, spelled, begun, more, rfl⟩
    cases done with
    | nil =>
        cases text
        exact .inl ⟨begun, second, more, spelled⟩
    | cons head done =>
        cases text
        refine .inr ⟨encode done ++ first, ?_,
          done, cut, others, first, second, rfl, spelled, begun, more, rfl⟩
        simp [encode]
  · rintro (⟨begun, second, more, spelled⟩ |
      ⟨_, rfl, done, cut, others, first, second, rfl, spelled, begun, more,
        rfl⟩)
    · exact ⟨[], letter, rest, lead, second, rfl, spelled, begun, more, rfl⟩
    · refine ⟨letter :: done, cut, others, first, second, rfl, spelled, begun,
        more, ?_⟩
      simp [encode]

/-- An end of a chunk lies in the first part of a stream or in the second. -/
theorem append_eq_append_none
    {first second before after : List Event} :
    first ++ second = before ++ none :: after ↔
      (∃ rest, first = before ++ none :: rest ∧ after = rest ++ second) ∨
        ∃ rest, before = first ++ rest ∧ second = rest ++ none :: after := by
  constructor
  · intro same
    rcases List.append_eq_append_iff.mp same with
      ⟨rest, longer, shape⟩ | ⟨rest, longer, shape⟩
    · exact .inr ⟨rest, longer, shape⟩
    · cases rest with
      | nil =>
          refine .inr ⟨[], ?_, shape.symm⟩
          rw [longer, List.append_nil, List.append_nil]
      | cons event rest =>
          obtain ⟨rfl, rfl⟩ := List.cons.inj shape
          exact .inl ⟨rest, longer, rfl⟩
  · rintro (⟨rest, rfl, rfl⟩ | ⟨rest, rfl, rfl⟩) <;> simp

theorem cutsLetter_cons
    {letter : Char}
    {rest : List Char}
    {first second : List Event}
    (spelled : bytes first = String.utf8EncodeChar letter) :
    CutsLetter (first ++ second) (letter :: rest) ↔
      CutInside first ∨ CutsLetter second rest := by
  constructor
  · rintro ⟨before, after, shape, inside⟩
    rcases append_eq_append_none.mp shape with
      ⟨between, rfl, rfl⟩ | ⟨between, rfl, rfl⟩
    · left
      rcases leadsInside_cons.mp inside with
        ⟨begun, last, more, whole⟩ | ⟨more, longer, restInside⟩
      · refine ⟨before, between, rfl, begun, ?_⟩
        rw [bytes_append, bytes_none_cons, whole] at spelled
        rw [List.append_cancel_left spelled]
        exact more
      · exfalso
        rw [bytes_append, longer] at spelled
        have lengths := congrArg List.length spelled
        have positive := List.length_pos_iff.mpr restInside.nonempty
        simp only [List.length_append] at lengths
        omega
    · right
      rw [bytes_append, spelled] at inside
      rcases leadsInside_cons.mp inside with
        ⟨-, last, more, whole⟩ | ⟨more, longer, restInside⟩
      · exfalso
        have lengths := congrArg List.length whole
        have positive := List.length_pos_iff.mpr more
        simp only [List.length_append] at lengths
        omega
      · refine ⟨between, after, rfl, ?_⟩
        rw [List.append_cancel_left longer]
        exact restInside
  · rintro (⟨before, after, rfl, begun, more⟩ | ⟨before, after, rfl, inside⟩)
    · refine ⟨before, after ++ second, by simp, leadsInside_cons.mpr
        (.inl ⟨begun, bytes after, more, ?_⟩)⟩
      rw [← spelled, bytes_append, bytes_none_cons]
    · refine ⟨first ++ before, after, by simp, leadsInside_cons.mpr
        (.inr ⟨bytes before, ?_, inside⟩)⟩
      rw [bytes_append, spelled]

/-! ## What is decoded where chunks end anywhere -/

def isAscii (unit : Nat) : Bool :=
  unit < 0x80

theorem codeUnits_length (codePoint : Nat) :
    (codeUnits codePoint).length ≤ 2 := by
  unfold codeUnits
  split <;> simp

theorem filter_codeUnits
    {codePoint : Nat}
    (notAscii : 0x80 ≤ codePoint) :
    (codeUnits codePoint).filter isAscii = [] := by
  rw [List.filter_eq_nil_iff]
  intro unit member
  unfold codeUnits at member
  rw [isAscii, decide_eq_true_eq]
  split at member
  · rw [List.mem_singleton] at member
    omega
  · simp only [List.mem_cons, List.not_mem_nil, or_false] at member
    omega

/-- Replacement characters are not the units of a letter that was cut. -/
theorem replicate_ne_codeUnits
    {count codePoint : Nat}
    (many : 2 ≤ count)
    (valid : codePoint < 0x110000) :
    List.replicate count replacement ≠ codeUnits codePoint := by
  intro same
  have lengths := congrArg List.length same
  have first := congrArg List.head? same
  rw [List.length_replicate] at lengths
  rw [List.head?_replicate, if_neg (by omega)] at first
  unfold codeUnits at lengths first
  split at lengths
  · rw [List.length_singleton] at lengths
    omega
  · rename_i large
    rw [if_neg large, List.head?_cons, Option.some_inj, replacement] at first
    omega

theorem notAscii_of_cutInside
    {stream : List Event}
    {letter : Char}
    (spelled : bytes stream = String.utf8EncodeChar letter)
    (cut : CutInside stream) :
    0x80 ≤ letter.toNat := by
  obtain ⟨before, after, rfl, begun, more⟩ := cut
  by_contra ascii
  have lengths := congrArg List.length spelled
  have first := List.length_pos_iff.mpr begun
  have last := List.length_pos_iff.mpr more
  have one : (String.utf8EncodeChar letter).length = 1 := by
    unfold String.utf8EncodeChar
    unfold Char.toNat at ascii
    dsimp only
    rw [if_pos (by omega)]
    rfl
  rw [one, bytes_append, bytes_none_cons, List.length_append] at lengths
  omega

/-- A text as it comes out: exact unless cut, and its ASCII in any case. -/
structure Decoded
    (stream : List Event)
    (expected units : List Nat)
    (cut : Prop) :
    Prop where
  ran : run [] stream = (units, [])
  ascii : units.filter isAscii = expected.filter isAscii
  length : expected.length ≤ units.length
  exact : units = expected ↔ ¬ cut

theorem decoded_letter
    {stream : List Event}
    {letter : Char}
    (spelled : bytes stream = String.utf8EncodeChar letter) :
    ∃ units,
      Decoded stream (codeUnits letter.toNat) units (CutInside stream) := by
  obtain ⟨isSequence, value⟩ := sequence_letter letter
  rw [← spelled] at isSequence value
  by_cases cut : CutInside stream
  · obtain ⟨count, many, ran⟩ := run_cutInside isSequence cut
    have valid : letter.toNat < 0x110000 := by
      have := letter.valid
      unfold UInt32.isValidChar Nat.isValidChar at this
      unfold Char.toNat
      omega
    refine ⟨_, ran, ?_, ?_, ?_⟩
    · rw [filter_codeUnits (notAscii_of_cutInside spelled cut),
        List.filter_eq_nil_iff]
      intro unit member
      rw [List.eq_of_mem_replicate member]
      decide
    · rw [List.length_replicate]
      exact Nat.le_trans (codeUnits_length _) many
    · exact iff_of_false (replicate_ne_codeUnits many valid)
        (not_not.mpr cut)
  · have ran := run_whole isSequence cut
    rw [value] at ran
    exact ⟨_, ran, rfl, Nat.le_refl _, iff_of_true rfl cut⟩

theorem decoded_text
    {stream : List Event}
    {text : List Char}
    (spelled : bytes stream = encode text) :
    ∃ units, Decoded stream (utf16 text) units (CutsLetter stream text) := by
  induction text generalizing stream with
  | nil =>
      refine ⟨[], run_quiet spelled, rfl, Nat.le_refl _, ?_⟩
      apply iff_of_true rfl
      rintro ⟨before, after, -, done, letter, rest, first, second, impossible,
        -⟩
      simp at impossible
  | cons letter rest inductionHypothesis =>
      obtain ⟨first, second, rfl, head, tail⟩ :=
        List.filterMap_eq_append_iff.mp spelled
      obtain ⟨headUnits, headDecoded⟩ := decoded_letter head
      obtain ⟨tailUnits, tailDecoded⟩ := inductionHypothesis tail
      have expected :
          utf16 (letter :: rest) = codeUnits letter.toNat ++ utf16 rest :=
        rfl
      rw [expected]
      refine ⟨headUnits ++ tailUnits, ?_, ?_, ?_, ?_⟩
      · rw [run_append, headDecoded.ran]
        dsimp only
        rw [tailDecoded.ran]
      · rw [List.filter_append, List.filter_append, headDecoded.ascii,
          tailDecoded.ascii]
      · rw [List.length_append, List.length_append]
        exact Nat.add_le_add headDecoded.length tailDecoded.length
      · rw [cutsLetter_cons head, not_or, ← headDecoded.exact,
          ← tailDecoded.exact]
        constructor
        · intro same
          have lengths := congrArg List.length same
          rw [List.length_append, List.length_append] at lengths
          have headLength := headDecoded.length
          have tailLength := tailDecoded.length
          exact List.append_inj same (by omega)
        · rintro ⟨rfl, rfl⟩
          rfl

/-! ## Ends of chunks -/

/-- After `start`, a chunk ends in the middle of a letter of the text. -/
def SplitsLetter
    (chunks : List (List UInt8))
    (start : List UInt8)
    (text : List Char) :
    Prop :=
  ∃ earlier later lead,
    chunks = earlier ++ later ∧
      earlier.flatten = start ++ lead ∧ LeadsInside text lead

theorem events_append
    (first second : List (List UInt8)) :
    events (first ++ second) = events first ++ events second :=
  List.flatMap_append

/-- Where an event says that a chunk ends, one does. -/
theorem chunks_of_events
    {chunks : List (List UInt8)}
    {before after : List Event}
    (shape : events chunks = before ++ none :: after) :
    ∃ earlier later,
      chunks = earlier ++ later ∧ earlier.flatten = bytes before := by
  induction chunks generalizing before with
  | nil =>
      simp [events] at shape
  | cons chunk rest inductionHypothesis =>
      rw [events, List.flatMap_cons, List.append_assoc] at shape
      rcases append_eq_append_none.mp shape with
        ⟨between, impossible, -⟩ | ⟨between, rfl, others⟩
      · have member : none ∈ chunk.map some := by
          rw [impossible]
          simp
        simp at member
      · cases between with
        | nil =>
            refine ⟨[chunk], rest, rfl, ?_⟩
            simp
        | cons event between =>
            obtain ⟨rfl, ends⟩ := List.cons.inj others
            obtain ⟨earlier, later, rfl, flat⟩ := inductionHypothesis ends
            refine ⟨chunk :: earlier, later, rfl, ?_⟩
            rw [List.flatten_cons, flat, bytes_append, bytes_map_some,
              bytes_none_cons]

/-- The chunks that end somewhere end with an event. -/
theorem events_of_ne_nil
    {chunks : List (List UInt8)}
    (nonempty : chunks ≠ []) :
    ∃ before, events chunks = before ++ [none] := by
  obtain ⟨chunk, earlier, rfl⟩ :=
    (List.eq_nil_or_concat' chunks).resolve_left nonempty
  refine ⟨events chunk ++ earlier.map some, ?_⟩
  simp [events]

theorem splitsLetter_iff
    {chunks : List (List UInt8)}
    {first middle last : List Event}
    {text : List Char}
    (shape : events chunks = first ++ (middle ++ last))
    (spelled : bytes middle = encode text) :
    SplitsLetter chunks (bytes first) text ↔ CutsLetter middle text := by
  constructor
  · rintro ⟨earlier, later, lead, rfl, flat, inside⟩
    have positive := List.length_pos_iff.mpr inside.nonempty
    have shorter := inside.shorter
    have nonempty : earlier ≠ [] := by
      rintro rfl
      have lengths := congrArg List.length flat
      rw [List.length_append] at lengths
      simp only [List.flatten_nil, List.length_nil] at lengths
      omega
    obtain ⟨before, ends⟩ := events_of_ne_nil nonempty
    have led : bytes before = bytes first ++ lead := by
      rw [← flat, ← bytes_events, ends]
      simp
    rw [events_append, ends, List.append_assoc] at shape
    rcases append_eq_append_none.mp shape.symm with
      ⟨between, early, -⟩ | ⟨between, rfl, rest⟩
    · exfalso
      rw [early, bytes_append, bytes_none_cons] at led
      have lengths := congrArg List.length led
      simp only [List.length_append] at lengths
      omega
    · rw [bytes_append] at led
      have led := List.append_cancel_left led
      rcases append_eq_append_none.mp rest with
        ⟨others, rfl, -⟩ | ⟨others, rfl, -⟩
      · exact ⟨between, others, rfl, led ▸ inside⟩
      · exfalso
        rw [bytes_append, spelled] at led
        have lengths := congrArg List.length led
        rw [List.length_append] at lengths
        omega
  · rintro ⟨before, after, rfl, inside⟩
    have ends :
        events chunks = first ++ before ++ none :: (after ++ last) := by
      rw [shape]
      simp
    obtain ⟨earlier, later, same, flat⟩ := chunks_of_events ends
    exact ⟨earlier, later, bytes before, same, by rw [flat, bytes_append],
      inside⟩

/-! ## ASCII in what is decoded -/

/--
Units read from bytes: ASCII stands for itself, and between it bytes that are
not ASCII become units that are not.
-/
inductive Reads : List UInt8 → List Nat → Prop where
  | nil : Reads [] []
  | ascii {byte : UInt8} {rest : List UInt8} {units : List Nat} :
      byte.toNat < 0x80 → Reads rest units →
        Reads (byte :: rest) (byte.toNat :: units)
  | other {part rest : List UInt8} {read units : List Nat} :
      part ≠ [] → (∀ byte ∈ part, 0x80 ≤ byte.toNat) →
        read ≠ [] → (∀ unit ∈ read, 0x80 ≤ unit) → Reads rest units →
        Reads (part ++ rest) (read ++ units)

/-- An ASCII unit was read from its byte. -/
theorem Reads.split
    {read : List UInt8}
    {units before after : List Nat}
    {unit : Nat}
    (reads : Reads read units)
    (shape : units = before ++ unit :: after)
    (ascii : unit < 0x80) :
    ∃ first byte second,
      read = first ++ byte :: second ∧ byte.toNat = unit ∧
        Reads first before ∧ Reads second after := by
  induction reads generalizing before with
  | nil =>
      simp at shape
  | @ascii byte rest units isAscii reads inductionHypothesis =>
      cases before with
      | nil =>
          obtain ⟨rfl, rfl⟩ := List.cons.inj shape
          exact ⟨[], byte, rest, rfl, rfl, .nil, reads⟩
      | cons head before =>
          obtain ⟨rfl, rfl⟩ := List.cons.inj shape
          obtain ⟨first, found, second, rfl, same, firstReads, secondReads⟩ :=
            inductionHypothesis rfl
          exact ⟨byte :: first, found, second, rfl, same,
            .ascii isAscii firstReads, secondReads⟩
  | @other part rest read units some notAscii more notAsciiUnits reads
      inductionHypothesis =>
      rcases List.append_eq_append_iff.mp shape with
        ⟨between, rfl, others⟩ | ⟨between, rfl, others⟩
      · obtain ⟨first, found, second, rfl, same, firstReads, secondReads⟩ :=
          inductionHypothesis others
        refine ⟨part ++ first, found, second, by simp, same, ?_, secondReads⟩
        exact .other some notAscii more notAsciiUnits firstReads
      · cases between with
        | nil =>
            obtain ⟨first, found, second, rfl, same, firstReads, secondReads⟩ :=
              @inductionHypothesis [] others.symm
            refine ⟨part ++ first, found, second, by simp, same, ?_,
              secondReads⟩
            have whole := Reads.other some notAscii more notAsciiUnits
              firstReads
            simpa using whole
        | cons head between =>
            exfalso
            obtain ⟨rfl, -⟩ := List.cons.inj others
            have large := notAsciiUnits unit (by simp)
            omega

/-- The beginning of a sequence. -/
inductive Partial : List UInt8 → Prop where
  | nil : Partial []
  | one {first : UInt8} : 2 ≤ sequenceLength first → Partial [first]
  | two {first second : UInt8} :
      3 ≤ sequenceLength first → continues [first] second = true →
        Partial [first, second]
  | three {first second third : UInt8} :
      4 ≤ sequenceLength first → continues [first] second = true →
        continues [first, second] third = true →
        Partial [first, second, third]

theorem sequenceLength_le (byte : UInt8) : sequenceLength byte ≤ 4 := by
  unfold sequenceLength
  grind

theorem lead_bounds
    {byte : UInt8}
    (leads : 2 ≤ sequenceLength byte) :
    0xC2 ≤ byte.toNat ∧
      (3 ≤ sequenceLength byte → 0xE0 ≤ byte.toNat) ∧
      (4 ≤ sequenceLength byte → 0xF0 ≤ byte.toNat) ∧
      (sequenceLength byte = 2 → byte.toNat < 0xE0) ∧
      (sequenceLength byte = 3 → byte.toNat < 0xF0) ∧
      byte.toNat < 0xF5 := by
  unfold sequenceLength at *
  grind

theorem Partial.notAscii
    {pending : List UInt8}
    (partially : Partial pending) :
    ∀ byte ∈ pending, 0x80 ≤ byte.toNat := by
  cases partially with
  | nil =>
      simp
  | one first =>
      have bounds := lead_bounds first
      simp only [List.forall_mem_singleton]
      omega
  | two first second =>
      have bounds := lead_bounds (Nat.le_of_succ_le first)
      simp only [List.forall_mem_cons]
      exact ⟨by omega, (continues_bounds second).1, by simp⟩
  | three first second third =>
      have bounds := lead_bounds (Nat.le_trans (by decide) first)
      simp only [List.forall_mem_cons]
      exact ⟨by omega, (continues_bounds second).1, (continues_bounds third).1,
        by simp⟩

theorem second_bounds
    {first second : UInt8}
    (secondContinues : continues [first] second = true) :
    (first.toNat = 0xE0 → 0xA0 ≤ second.toNat) ∧
      (first.toNat = 0xF0 → 0x90 ≤ second.toNat) := by
  unfold continues lowest highest at secondContinues
  dsimp only at secondContinues
  rw [Bool.and_eq_true, decide_eq_true_eq, decide_eq_true_eq]
    at secondContinues
  constructor
  · intro e0
    rw [if_pos e0] at secondContinues
    exact secondContinues.1
  · intro f0
    rw [if_neg (by omega), if_pos f0] at secondContinues
    exact secondContinues.1

/-- One byte more completes a code point outside ASCII, or is kept pending. -/
theorem Partial.next
    {first byte : UInt8}
    {rest : List UInt8}
    (partially : Partial (first :: rest))
    (byteContinues : continues (first :: rest) byte = true) :
    ((first :: rest ++ [byte]).length = sequenceLength first →
      0x80 ≤ codePoint (first :: rest ++ [byte])) ∧
    ((first :: rest ++ [byte]).length ≠ sequenceLength first →
      Partial (first :: rest ++ [byte])) := by
  have byteBounds := continues_bounds byteContinues
  cases partially with
  | one leads =>
      have bounds := lead_bounds leads
      constructor
      · intro complete
        change 2 = sequenceLength first at complete
        change 0x80 ≤ first.toNat % 0x20 * 0x40 + byte.toNat % 0x40
        omega
      · intro incomplete
        change 2 ≠ sequenceLength first at incomplete
        exact .two (by omega) byteContinues
  | @two _ second leads secondContinues =>
      have bounds := lead_bounds (show 2 ≤ sequenceLength first by omega)
      have secondBounds := continues_bounds secondContinues
      have special := second_bounds secondContinues
      constructor
      · intro complete
        change 3 = sequenceLength first at complete
        change 0x80 ≤ (first.toNat % 0x10 * 0x40 + second.toNat % 0x40) * 0x40 +
          byte.toNat % 0x40
        omega
      · intro incomplete
        change 3 ≠ sequenceLength first at incomplete
        exact .three (by omega) secondContinues byteContinues
  | @three _ second third leads secondContinues thirdContinues =>
      have bounds := lead_bounds (show 2 ≤ sequenceLength first by omega)
      have secondBounds := continues_bounds secondContinues
      have special := second_bounds secondContinues
      have most := sequenceLength_le first
      constructor
      · intro complete
        change 0x80 ≤ ((first.toNat % 0x08 * 0x40 + second.toNat % 0x40) * 0x40 +
          third.toNat % 0x40) * 0x40 + byte.toNat % 0x40
        omega
      · intro incomplete
        change 4 ≠ sequenceLength first at incomplete
        omega

theorem codeUnits_notAscii
    {codePoint : Nat}
    (notAscii : 0x80 ≤ codePoint) :
    codeUnits codePoint ≠ [] ∧ ∀ unit ∈ codeUnits codePoint, 0x80 ≤ unit := by
  have none := List.filter_eq_nil_iff.mp (filter_codeUnits notAscii)
  constructor
  · unfold codeUnits
    split <;> exact List.cons_ne_nil _ _
  · intro unit member
    have large := none unit member
    rw [isAscii, decide_eq_true_eq] at large
    exact Nat.le_of_not_lt large

/-- Bytes outside ASCII that become one replacement character. -/
theorem Reads.replaced
    {part rest : List UInt8}
    {units : List Nat}
    (notAscii : ∀ byte ∈ part, 0x80 ≤ byte.toNat)
    (reads : Reads rest units) :
    Reads (part ++ rest) (flush part ++ units) := by
  by_cases empty : part = []
  · rw [empty]
    exact reads
  · rw [flush, if_neg empty]
    exact .other empty notAscii (List.cons_ne_nil _ _) (by simp [replacement])
      reads

theorem restart_reads (byte : UInt8) :
    Partial (restart byte).2 ∧
      ∀ {rest units}, Reads ((restart byte).2 ++ rest) units →
        Reads (byte :: rest) ((restart byte).1 ++ units) := by
  unfold restart
  by_cases one : sequenceLength byte = 1
  · have ascii : byte.toNat < 0x80 := by
      unfold sequenceLength at one
      grind
    rw [if_pos one]
    exact ⟨.nil, fun reads => .ascii ascii reads⟩
  · rw [if_neg one]
    by_cases zero : sequenceLength byte = 0
    · have notAscii : 0x80 ≤ byte.toNat := by
        unfold sequenceLength at zero
        grind
      rw [if_pos zero]
      refine ⟨.nil, fun reads => ?_⟩
      exact @Reads.replaced [byte] _ _ (by simpa using notAscii) reads
    · rw [if_neg zero]
      exact ⟨.one (by omega), fun reads => reads⟩

theorem step_reads
    {pending : List UInt8}
    (partially : Partial pending)
    (byte : UInt8) :
    Partial (step pending (some byte)).2 ∧
      ∀ {rest units}, Reads ((step pending (some byte)).2 ++ rest) units →
        Reads (pending ++ byte :: rest)
          ((step pending (some byte)).1 ++ units) := by
  cases pending with
  | nil =>
      exact restart_reads byte
  | cons first earlier =>
      unfold step
      dsimp only
      by_cases byteContinues : continues (first :: earlier) byte = true
      · rw [if_pos byteContinues]
        obtain ⟨complete, incomplete⟩ := partially.next byteContinues
        by_cases whole :
            (first :: earlier ++ [byte]).length = sequenceLength first
        · rw [if_pos whole]
          obtain ⟨some, notAscii⟩ := codeUnits_notAscii (complete whole)
          refine ⟨.nil, fun reads => ?_⟩
          rw [List.append_cons]
          refine .other (by simp) ?_ some notAscii reads
          intro other member
          rcases List.mem_append.mp member with earlier | last
          · exact partially.notAscii other earlier
          · rw [List.mem_singleton.mp last]
            exact (continues_bounds byteContinues).1
        · rw [if_neg whole]
          refine ⟨incomplete whole, fun reads => ?_⟩
          rw [List.append_cons]
          exact reads
      · rw [if_neg byteContinues]
        obtain ⟨begun, more⟩ := restart_reads byte
        refine ⟨begun, fun reads => ?_⟩
        exact (more reads).replaced partially.notAscii

/-- What a stream decodes to is read from its bytes. -/
theorem reads_run
    {pending : List UInt8}
    (partially : Partial pending)
    (stream : List Event) :
    Reads (pending ++ bytes stream)
      ((run pending stream).1 ++ flush (run pending stream).2) := by
  induction stream generalizing pending with
  | nil =>
      have reads := Reads.nil.replaced partially.notAscii
      simpa [run] using reads
  | cons event rest inductionHypothesis =>
      cases event with
      | none =>
          have later := inductionHypothesis .nil
          have reads := later.replaced partially.notAscii
          rw [run, List.append_assoc]
          exact reads
      | some byte =>
          obtain ⟨next, more⟩ := step_reads partially byte
          rw [run, List.append_assoc]
          exact more (inductionHypothesis next)

end Utf8Chunks

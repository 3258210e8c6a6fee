import Mathlib.Data.List.TakeWhile

namespace RegularExpressions

/-!
# Regular expressions with capture groups

Literals, character classes, groups and optional parts, matched by
backtracking: a pattern yields its threads in the order in which they are
tried.  Which threads there are does not depend on that order, and is what the
derivations of `Matches` say.
-/

/-- What the groups of a pattern captured; `none` is a group left out. -/
abbrev Captures := List (Option (List Char))

inductive Pattern where
  | literal (text : List Char)
  /-- `[…]+`, greedy. -/
  | many (allowed : Char → Bool)
  /-- `(…)`. -/
  | group (body : Pattern)
  /-- `(?:…)?`, greedy. -/
  | optional (body : Pattern)
  | seq (first second : Pattern)

namespace Pattern

/-- The number of groups. -/
def groups : Pattern → Nat
  | .literal _ => 0
  | .many _ => 0
  | .group body => body.groups + 1
  | .optional body => body.groups
  | .seq first second => first.groups + second.groups

/-- The pattern matches the text, and its groups capture these parts of it. -/
inductive Matches : Pattern → List Char → Captures → Prop where
  | literal
      (text : List Char) :
      Matches (.literal text) text []
  | many
      {allowed : Char → Bool}
      {text : List Char}
      (nonempty : text ≠ [])
      (letters : ∀ letter ∈ text, allowed letter = true) :
      Matches (.many allowed) text []
  | group
      {body : Pattern}
      {text : List Char}
      {captures : Captures}
      (inner : Matches body text captures) :
      Matches (.group body) text (some text :: captures)
  | skipped
      (body : Pattern) :
      Matches (.optional body) [] (List.replicate body.groups none)
  | taken
      {body : Pattern}
      {text : List Char}
      {captures : Captures}
      (nonempty : text ≠ [])
      (inner : Matches body text captures) :
      Matches (.optional body) text captures
  | seq
      {first second : Pattern}
      {text later : List Char}
      {captures others : Captures}
      (ahead : Matches first text captures)
      (behind : Matches second later others) :
      Matches (.seq first second) (text ++ later) (captures ++ others)

section Inversion

variable {text : List Char}
variable {captures : Captures}

theorem matches_literal
    {expected : List Char} :
    (Pattern.literal expected).Matches text captures ↔
      text = expected ∧ captures = [] := by
  constructor
  · rintro ⟨⟩
    exact ⟨rfl, rfl⟩
  · rintro ⟨rfl, rfl⟩
    exact .literal text

theorem matches_many
    {allowed : Char → Bool} :
    (Pattern.many allowed).Matches text captures ↔
      text ≠ [] ∧ (∀ letter ∈ text, allowed letter = true) ∧
        captures = [] := by
  constructor
  · intro matched
    cases matched with
    | many nonempty letters =>
        exact ⟨nonempty, letters, rfl⟩
  · rintro ⟨nonempty, letters, rfl⟩
    exact .many nonempty letters

theorem matches_group
    {body : Pattern} :
    (Pattern.group body).Matches text captures ↔
      ∃ inner, body.Matches text inner ∧ captures = some text :: inner := by
  constructor
  · intro matched
    cases matched with
    | group inner =>
        exact ⟨_, inner, rfl⟩
  · rintro ⟨inner, matched, rfl⟩
    exact .group matched

theorem matches_optional
    {body : Pattern} :
    (Pattern.optional body).Matches text captures ↔
      text = [] ∧ captures = List.replicate body.groups none ∨
        text ≠ [] ∧ body.Matches text captures := by
  constructor
  · intro matched
    cases matched with
    | skipped =>
        exact .inl ⟨rfl, rfl⟩
    | taken nonempty inner =>
        exact .inr ⟨nonempty, inner⟩
  · rintro (⟨rfl, rfl⟩ | ⟨nonempty, matched⟩)
    · exact .skipped body
    · exact .taken nonempty matched

theorem matches_seq
    {first second : Pattern} :
    (Pattern.seq first second).Matches text captures ↔
      ∃ ahead behind inFirst inSecond,
        first.Matches ahead inFirst ∧
          second.Matches behind inSecond ∧
          text = ahead ++ behind ∧
          captures = inFirst ++ inSecond := by
  constructor
  · intro matched
    cases matched with
    | seq ahead behind =>
        exact ⟨_, _, _, _, ahead, behind, rfl, rfl⟩
  · rintro ⟨ahead, behind, inFirst, inSecond, first, second, rfl, rfl⟩
    exact .seq first second

end Inversion

end Pattern

/-- One way to match the beginning of the input. -/
structure Thread (input : List Char) where
  captures : Captures
  consumed : List Char
  rest : List Char
  whole : consumed ++ rest = input

namespace Thread

variable {input : List Char}

/-- The first letters of the input, so many of them. -/
def take
    (input : List Char)
    (count : Nat) :
    Thread input where
  captures := []
  consumed := input.take count
  rest := input.drop count
  whole := List.take_append_drop count input

/-- The same letters, as a group. -/
def capture (thread : Thread input) : Thread input :=
  { thread with captures := some thread.consumed :: thread.captures }

/-- Nothing at all. -/
def skip
    (groups : Nat)
    (input : List Char) :
    Thread input where
  captures := List.replicate groups none
  consumed := []
  rest := input
  whole := rfl

/-- What a thread leaves over is matched further. -/
def append
    (thread : Thread input)
    (next : Thread thread.rest) :
    Thread input where
  captures := thread.captures ++ next.captures
  consumed := thread.consumed ++ next.consumed
  rest := next.rest
  whole := by rw [List.append_assoc, next.whole, thread.whole]

end Thread

namespace Pattern

/-- The ways to match the beginning of the input, in the order of trial. -/
def threads : Pattern → (input : List Char) → List (Thread input)
  | .literal text, input =>
      if text <+: input then [Thread.take input text.length] else []
  | .many allowed, input =>
      (List.range (input.takeWhile allowed).length).reverse.map fun count =>
        Thread.take input (count + 1)
  | .group body, input =>
      (body.threads input).map Thread.capture
  | .optional body, input =>
      (body.threads input).filter (fun thread => thread.consumed ≠ []) ++
        [Thread.skip body.groups input]
  | .seq first second, input =>
      (first.threads input).flatMap fun thread =>
        (second.threads thread.rest).map thread.append

/-- `input.match(/^…$/)`, without the whole match at its front. -/
def exec
    (pattern : Pattern)
    (input : List Char) :
    Option Captures :=
  ((pattern.threads input).find? fun thread => thread.rest = []).map
    Thread.captures

/-- Every thread is a match of what it consumed. -/
theorem matches_of_mem_threads
    {pattern : Pattern}
    {input : List Char}
    {thread : Thread input}
    (member : thread ∈ pattern.threads input) :
    pattern.Matches thread.consumed thread.captures := by
  induction pattern generalizing input with
  | literal text =>
      rw [threads] at member
      split at member
      · rename_i starts
        rw [List.mem_singleton.mp member]
        obtain ⟨rest, rfl⟩ := starts
        change Matches _ ((text ++ rest).take text.length) []
        rw [List.take_left]
        exact .literal text
      · cases member
  | many allowed =>
      obtain ⟨count, bounded, rfl⟩ := List.mem_map.mp member
      rw [List.mem_reverse, List.mem_range] at bounded
      have start : input.takeWhile allowed <+: input :=
        List.takeWhile_prefix allowed
      have long := Nat.lt_of_lt_of_le bounded start.length_le
      refine .many ?_ ?_
      · change input.take (count + 1) ≠ []
        rw [Ne, List.take_eq_nil_iff]
        rintro (impossible | empty)
        · cases impossible
        · rw [empty] at long
          cases long
      · intro letter taken
        change letter ∈ input.take (count + 1) at taken
        have within :
            input.take (count + 1) <+: input.takeWhile allowed :=
          List.prefix_of_prefix_length_le (List.take_prefix _ _) start
            (Nat.le_trans (List.length_take_le _ _) bounded)
        exact List.mem_takeWhile_imp (within.subset taken)
  | group body inductionHypothesis =>
      obtain ⟨inner, found, rfl⟩ := List.mem_map.mp member
      exact .group (inductionHypothesis found)
  | optional body inductionHypothesis =>
      rcases List.mem_append.mp member with found | last
      · rw [List.mem_filter, decide_eq_true_eq] at found
        exact .taken found.2 (inductionHypothesis found.1)
      · rw [List.mem_singleton.mp last]
        exact .skipped body
  | seq first second ofFirst ofSecond =>
      obtain ⟨ahead, found, inRest⟩ := List.mem_flatMap.mp member
      obtain ⟨behind, foundToo, rfl⟩ := List.mem_map.mp inRest
      exact .seq (ofFirst found) (ofSecond foundToo)

/-- Every match of a beginning of the input is one of the threads. -/
theorem mem_threads_of_matches
    {pattern : Pattern}
    {text : List Char}
    {captures : Captures}
    (matched : pattern.Matches text captures)
    {input rest : List Char}
    (whole : text ++ rest = input) :
    ⟨captures, text, rest, whole⟩ ∈ pattern.threads input := by
  induction matched generalizing input rest with
  | literal text =>
      subst whole
      rw [threads, if_pos (List.prefix_append text rest),
        List.mem_singleton]
      simp [Thread.take]
  | many nonempty letters =>
      rename_i allowed text
      subst whole
      obtain ⟨count, counted⟩ : ∃ count, text.length = count + 1 :=
        Nat.exists_eq_succ_of_ne_zero
          (mt List.length_eq_zero_iff.mp nonempty)
      refine List.mem_map.mpr ⟨count, ?_, ?_⟩
      · rw [List.mem_reverse, List.mem_range,
          List.takeWhile_append_of_pos letters, List.length_append, counted]
        exact Nat.lt_of_lt_of_le (Nat.lt_succ_self count)
          (Nat.le_add_right _ _)
      · simp [Thread.take, ← counted]
  | group inner inductionHypothesis =>
      exact List.mem_map.mpr ⟨_, inductionHypothesis whole, rfl⟩
  | skipped body =>
      subst whole
      exact List.mem_append_right _ (List.mem_singleton.mpr rfl)
  | taken nonempty inner inductionHypothesis =>
      refine List.mem_append_left _ (List.mem_filter.mpr
        ⟨inductionHypothesis whole, ?_⟩)
      exact decide_eq_true nonempty
  | seq ahead behind ofFirst ofSecond =>
      rw [List.append_assoc] at whole
      exact List.mem_flatMap.mpr ⟨_, ofFirst whole,
        List.mem_map.mpr ⟨_, ofSecond rfl, rfl⟩⟩

theorem matches_of_exec
    {pattern : Pattern}
    {input : List Char}
    {captures : Captures}
    (found : pattern.exec input = some captures) :
    pattern.Matches input captures := by
  obtain ⟨thread, first, rfl⟩ := Option.map_eq_some_iff.mp found
  have last := List.find?_some first
  have complete : thread.rest = [] := of_decide_eq_true last
  have whole := thread.whole
  rw [complete, List.append_nil] at whole
  have matched := matches_of_mem_threads (List.mem_of_find?_eq_some first)
  rw [whole] at matched
  exact matched

theorem exec_ne_none
    {pattern : Pattern}
    {input : List Char}
    {captures : Captures}
    (matched : pattern.Matches input captures) :
    pattern.exec input ≠ none := by
  intro none
  have unfound := List.find?_eq_none.mp (Option.map_eq_none_iff.mp none)
  exact unfound _
    (mem_threads_of_matches matched (List.append_nil input))
    (decide_eq_true rfl)

/-- A pattern that matches in one way only finds that one. -/
theorem exec_eq_some
    {pattern : Pattern}
    {input : List Char}
    {captures : Captures}
    (matched : pattern.Matches input captures)
    (determined :
      ∀ {others : Captures},
        pattern.Matches input others → others = captures) :
    pattern.exec input = some captures := by
  obtain ⟨others, found⟩ :=
    Option.ne_none_iff_exists'.mp (exec_ne_none matched)
  rw [found, determined (matches_of_exec found)]

end Pattern

end RegularExpressions

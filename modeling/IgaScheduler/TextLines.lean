import Mathlib.Data.List.Infix

namespace TextLines

/-!
# Lines of a text

A text is divided at its newlines, each with the carriage return in front of
it.  A search for the first line that starts with a mark finds a line exactly
where the mark follows a newline or begins the text.
-/

variable {α : Type}

/-- The text is empty or ends with a newline. -/
def Terminated
    (newline : α)
    (text : List α) :
    Prop :=
  text = [] ∨ ∃ earlier, text = earlier ++ [newline]

/-- Some line of the text starts with the mark. -/
def StartsLine
    (newline : α)
    (mark text : List α) :
    Prop :=
  ∃ before after, text = before ++ (mark ++ after) ∧ Terminated newline before

/-- What a longer text starts with keeps its lines. -/
theorem StartsLine.append
    {newline : α}
    {mark text : List α}
    (starts : StartsLine newline mark text)
    (more : List α) :
    StartsLine newline mark (text ++ more) := by
  obtain ⟨before, after, rfl, terminated⟩ := starts
  exact ⟨before, after ++ more, by simp, terminated⟩

/-- A mark that a text is cut in front of, or inside, starts no line of it. -/
theorem not_startsLine_take
    {newline : α}
    {start mark rest : List α}
    (terminated : Terminated newline start)
    (unmarked : ¬ StartsLine newline mark start)
    (oneLine : newline ∉ mark)
    {count : Nat}
    (short : count < start.length + mark.length) :
    ¬ StartsLine newline mark ((start ++ (mark ++ rest)).take count) := by
  rintro ⟨before, after, shape, lineStart⟩
  have kept := List.take_append_drop count (start ++ (mark ++ rest))
  rw [shape, List.append_assoc, List.append_assoc] at kept
  have fits : before.length + mark.length ≤ count := by
    have lengths := congrArg List.length shape
    simp only [List.length_take, List.length_append] at lengths
    omega
  rcases List.append_eq_append_iff.mp kept with
    ⟨between, longer, others⟩ | ⟨between, longer, others⟩
  · rcases List.append_eq_append_iff.mp others with
      ⟨tail, inside, -⟩ | ⟨tail, inside, -⟩
    · refine unmarked ⟨before, tail, ?_, lineStart⟩
      rw [longer, inside]
    · rcases terminated with empty | ⟨earlier, ends⟩
      · rw [empty] at short
        simp only [List.length_nil] at short
        omega
      · have nonempty : between ≠ [] := by
          rintro rfl
          rw [List.append_nil] at longer
          rw [longer] at short
          omega
        have last : between.getLast? = some newline := by
          rw [← List.getLast?_append_of_ne_nil before nonempty, ← longer, ends]
          simp
        rw [inside] at oneLine
        exact oneLine (List.mem_append_left _ (List.mem_of_getLast? last))
  · rw [longer, List.length_append] at fits
    omega

theorem Terminated.after
    {newline : α}
    {text : List α}
    (terminated : Terminated newline text)
    (line : List α) :
    Terminated newline (line ++ [newline] ++ text) := by
  right
  rcases terminated with rfl | ⟨earlier, rfl⟩
  · exact ⟨line, by simp⟩
  · exact ⟨line ++ [newline] ++ earlier, by simp⟩

/-- Each piece of a joined text follows a newline or begins the text. -/
theorem intercalate_at
    (newline : α)
    (earlier : List (List α))
    (piece : List α)
    (later : List (List α)) :
    ∃ before after,
      [newline].intercalate (earlier ++ piece :: later) =
          before ++ (piece ++ after) ∧
        Terminated newline before := by
  induction earlier with
  | nil =>
      cases later with
      | nil => exact ⟨[], [], by simp, .inl rfl⟩
      | cons next later =>
          exact ⟨[], [newline] ++ [newline].intercalate (next :: later),
            by simp, .inl rfl⟩
  | cons line earlier inductionHypothesis =>
      obtain ⟨before, after, shape, terminated⟩ := inductionHypothesis
      refine ⟨line ++ [newline] ++ before, after, ?_, terminated.after line⟩
      rw [List.cons_append, List.intercalate_cons_of_ne_nil (by simp), shape]
      simp

section Lines

variable [DecidableEq α]

def withoutReturn
    (carriage : α)
    (line : List α) :
    List α :=
  if line.getLast? = some carriage then line.dropLast else line

/-- `text.split(/\\r?\\n/)`. -/
def lines
    (newline carriage : α)
    (text : List α) :
    List (List α) :=
  let pieces := text.splitOn newline
  pieces.dropLast.map (withoutReturn carriage) ++ pieces.getLast?.toList

theorem mem_splitOn
    {newline : α}
    {piece text : List α}
    (member : piece ∈ text.splitOn newline) :
    ∃ before after,
      text = before ++ (piece ++ after) ∧ Terminated newline before := by
  obtain ⟨earlier, later, shape⟩ := List.append_of_mem member
  have joined := intercalate_at newline earlier piece later
  rw [← shape, List.intercalate_splitOn] at joined
  exact joined

theorem lines_append
    (newline carriage : α)
    (first second : List α) :
    lines newline carriage (first ++ newline :: second) =
      (first.splitOn newline).map (withoutReturn carriage) ++
        lines newline carriage second := by
  have nonempty : second.splitOn newline ≠ [] := List.splitOn_ne_nil _ _
  unfold lines
  simp only [List.splitOn_append_cons_self]
  rw [List.dropLast_append_of_ne_nil nonempty,
    List.getLast?_append_of_ne_nil _ nonempty, List.map_append,
    List.append_assoc]

theorem prefix_of_withoutReturn
    {carriage : α}
    {mark line : List α}
    (starts : mark <+: withoutReturn carriage line) :
    mark <+: line := by
  unfold withoutReturn at starts
  split at starts
  · exact starts.trans (List.dropLast_prefix line)
  · exact starts

theorem startsLine_of_mem_splitOn
    {newline : α}
    {mark piece text : List α}
    (member : piece ∈ text.splitOn newline)
    (starts : mark <+: piece) :
    StartsLine newline mark text := by
  obtain ⟨before, after, rfl, terminated⟩ := mem_splitOn member
  obtain ⟨tail, rfl⟩ := starts
  exact ⟨before, tail ++ after, by rw [List.append_assoc], terminated⟩

/-- Without a marked line the search finds nothing. -/
theorem find?_lines_eq_none
    {newline carriage : α}
    {mark text : List α}
    (unmarked : ¬ StartsLine newline mark text) :
    (lines newline carriage text).find? (fun line => mark.isPrefixOf line) =
      none := by
  rw [List.find?_eq_none]
  intro line member starts
  rw [List.isPrefixOf_iff_prefix] at starts
  apply unmarked
  rcases List.mem_append.mp member with earlier | last
  · obtain ⟨piece, inside, rfl⟩ := List.mem_map.mp earlier
    exact startsLine_of_mem_splitOn (List.mem_of_mem_dropLast inside)
      (prefix_of_withoutReturn starts)
  · rw [Option.mem_toList] at last
    exact startsLine_of_mem_splitOn (List.mem_of_getLast? last) starts

/-- The first marked line is found whole, terminated or not. -/
theorem find?_lines_eq_some
    {newline carriage : α}
    {start line tail : List α}
    {mark : List α}
    (terminated : Terminated newline start)
    (unmarked : ¬ StartsLine newline mark start)
    (marked : mark <+: line)
    (oneLine : newline ∉ line)
    (noReturn : line.getLast? ≠ some carriage)
    (ends : tail = [] ∨ tail = [newline]) :
    (lines newline carriage (start ++ (line ++ tail))).find?
        (fun line => mark.isPrefixOf line) =
      some line := by
  have found : mark.isPrefixOf line = true :=
    List.isPrefixOf_iff_prefix.mpr marked
  have rest :
      (lines newline carriage (line ++ tail)).find?
          (fun line => mark.isPrefixOf line) =
        some line := by
    have single : line.splitOn newline = [line] :=
      List.splitOn_eq_singleton oneLine
    rcases ends with rfl | rfl
    · simp [lines, single, found]
    · rw [lines_append, single, List.map_singleton, withoutReturn,
        if_neg noReturn, List.singleton_append,
        List.find?_cons_of_pos found]
  rcases terminated with rfl | ⟨earlier, rfl⟩
  · exact rest
  · rw [List.append_assoc, List.singleton_append, lines_append,
      List.find?_append, rest]
    have nothing :
        ((earlier.splitOn newline).map (withoutReturn carriage)).find?
            (fun line => mark.isPrefixOf line) =
          none := by
      rw [List.find?_eq_none]
      intro other member starts
      obtain ⟨piece, inside, rfl⟩ := List.mem_map.mp member
      rw [List.isPrefixOf_iff_prefix] at starts
      exact unmarked ((startsLine_of_mem_splitOn inside
        (prefix_of_withoutReturn starts)).append _)
    rw [nothing]
    rfl

end Lines

end TextLines

import Mathlib.Data.List.Infix

namespace PosixPaths

/-!
# POSIX paths as lists of characters

`path.posix.normalize` and `path.posix.resolve`.  A path that stays inside the
directory it is relative to is normalised to the names on the way, and from
that text the same names are found again.
-/

/-- What stands between two slashes. -/
abbrev Segment := List Char

def parent : Segment := ['.', '.']

/-- A segment that names something in the directory it is looked up in. -/
structure Plain (segment : Segment) : Prop where
  nonempty : segment ≠ []
  notHere : segment ≠ ['.']
  notParent : segment ≠ parent
  noSlash : '/' ∉ segment

/--
Follow one segment from a place, whose names are listed innermost first.  Above
its start a relative path collects parents, and an absolute one stays.
-/
def follow
    (relative : Bool)
    (place : List Segment)
    (segment : Segment) :
    List Segment :=
  if segment = [] ∨ segment = ['.'] then
    place
  else if segment = parent then
    match place with
    | [] => if relative then [parent] else []
    | name :: outer => if name = parent then parent :: place else outer
  else
    segment :: place

def followAll
    (relative : Bool)
    (place : List Segment)
    (path : List Char) :
    List Segment :=
  (path.splitOn '/').foldl (follow relative) place

def isAbsolute (path : List Char) : Bool :=
  path.head? = some '/'

def endsInSlash (path : List Char) : Bool :=
  path.getLast? = some '/'

def slashIf (slash : Bool) : List Char :=
  if slash then ['/'] else []

/-- The text of a relative path to these names. -/
def rendered
    (names : List Segment)
    (slash : Bool) :
    List Char :=
  if names = [] then
    '.' :: slashIf slash
  else
    ['/'].intercalate names ++ slashIf slash

/-- `path.posix.normalize(path)`. -/
def normalize (path : List Char) : List Char :=
  if path = [] then
    ['.']
  else if isAbsolute path then
    let names := (followAll false [] path).reverse
    if names = [] then ['/'] else '/' :: rendered names (endsInSlash path)
  else
    rendered (followAll true [] path).reverse (endsInSlash path)

/-- `path.posix.resolve(root, path)`, for an absolute root and as its names. -/
def resolve
    (root : List Segment)
    (path : List Char) :
    List Segment :=
  (followAll false (if isAbsolute path then [] else root.reverse) path).reverse

/-- The path leads to its start or out of it. -/
def Escapes (normalized : List Char) : Prop :=
  normalized = ['.'] ∨ normalized = parent ∨ parent ++ ['/'] <+: normalized

instance (normalized : List Char) : Decidable (Escapes normalized) :=
  inferInstanceAs (Decidable (_ ∨ _ ∨ _))

/-! ## Letters of a text and of its segments -/

theorem mem_intercalate
    {names : List Segment}
    {letter : Char}
    (notSlash : letter ≠ '/') :
    letter ∈ ['/'].intercalate names ↔ ∃ name ∈ names, letter ∈ name := by
  induction names with
  | nil =>
      simp
  | cons name rest inductionHypothesis =>
      cases rest with
      | nil =>
          simp
      | cons next others =>
          rw [List.intercalate_cons_cons, List.mem_append, List.mem_append,
            inductionHypothesis]
          simp [notSlash]

theorem mem_splitOn
    {path : List Char}
    {letter : Char}
    (notSlash : letter ≠ '/') :
    (∃ segment ∈ path.splitOn '/', letter ∈ segment) ↔ letter ∈ path := by
  rw [← mem_intercalate notSlash, List.intercalate_splitOn]

theorem mem_rendered
    {names : List Segment}
    {slash : Bool}
    {letter : Char}
    (notSlash : letter ≠ '/')
    (notDot : letter ≠ '.') :
    letter ∈ rendered names slash ↔ ∃ name ∈ names, letter ∈ name := by
  unfold rendered slashIf
  by_cases empty : names = []
  · cases slash <;> simp [empty, notSlash, notDot]
  · rw [if_neg empty, List.mem_append, mem_intercalate notSlash]
    cases slash <;> simp [notSlash]

/-- Names come from the path, from the place it starts at, or from going up. -/
theorem mem_foldl_follow
    {relative : Bool}
    {segments place : List Segment}
    {name : Segment}
    (member : name ∈ segments.foldl (follow relative) place) :
    name ∈ place ∨ name ∈ segments ∨ name = parent := by
  induction segments generalizing place with
  | nil =>
      exact .inl member
  | cons segment rest inductionHypothesis =>
      rw [List.foldl_cons] at member
      rcases inductionHypothesis member with followed | later | up
      · unfold follow at followed
        split at followed
        · exact .inl followed
        · split at followed
          · cases place with
            | nil =>
                cases relative with
                | false => cases followed
                | true => exact .inr (.inr (List.mem_singleton.mp followed))
            | cons last outer =>
                dsimp only at followed
                split at followed
                · rcases List.mem_cons.mp followed with up | earlier
                  · exact .inr (.inr up)
                  · exact .inl earlier
                · exact .inl (List.mem_cons_of_mem _ followed)
          · rcases List.mem_cons.mp followed with same | earlier
            · exact .inr (.inl (same ▸ List.mem_cons_self))
            · exact .inl earlier
      · exact .inr (.inl (List.mem_cons_of_mem _ later))
      · exact .inr (.inr up)

/-! ## Where a relative path leads -/

theorem noSlash_of_mem_splitOn
    {path : List Char}
    {segment : Segment}
    (member : segment ∈ path.splitOn '/') :
    '/' ∉ segment := by
  induction path generalizing segment with
  | nil =>
      simp_all
  | cons letter rest inductionHypothesis =>
      rw [List.splitOn_cons_eq_if_modifyHead] at member
      split at member
      · rcases List.mem_cons.mp member with rfl | later
        · simp
        · exact inductionHypothesis later
      · rename_i different
        have nonempty := List.splitOn_ne_nil '/' rest
        generalize rest.splitOn '/' = parts at *
        cases parts with
        | nil => exact absurd rfl nonempty
        | cons first others =>
            rw [List.modifyHead_cons] at member
            rcases List.mem_cons.mp member with rfl | later
            · have tail := inductionHypothesis (List.mem_cons_self)
              rintro (_ | ⟨_, later⟩)
              · exact different rfl
              · exact tail later
            · exact inductionHypothesis (List.mem_cons_of_mem _ later)

/-- Names in some directory above the start. -/
def Ascending (place : List Segment) : Prop :=
  ∃ names up, place = names ++ List.replicate up parent ∧
    ∀ name ∈ names, Plain name

theorem follow_ascending
    {place : List Segment}
    {segment : Segment}
    (noSlash : '/' ∉ segment)
    (ascending : Ascending place) :
    Ascending (follow true place segment) := by
  obtain ⟨names, up, rfl, plain⟩ := ascending
  unfold follow
  split
  · exact ⟨names, up, rfl, plain⟩
  · rename_i kept
    rw [not_or] at kept
    split
    · cases names with
      | nil =>
          refine ⟨[], up + 1, ?_, by simp⟩
          cases up with
          | zero => rfl
          | succ fewer => simp [List.replicate_succ]
      | cons name outer =>
          have ordinary := (plain name (List.mem_cons_self)).notParent
          refine ⟨outer, up, ?_, fun other member =>
            plain other (List.mem_cons_of_mem _ member)⟩
          simp [ordinary]
    · rename_i ordinary
      refine ⟨segment :: names, up, rfl, ?_⟩
      intro name member
      rcases List.mem_cons.mp member with rfl | earlier
      · exact ⟨kept.1, kept.2, ordinary, noSlash⟩
      · exact plain name earlier

theorem foldl_ascending
    {segments : List Segment}
    (noSlash : ∀ segment ∈ segments, '/' ∉ segment)
    {place : List Segment}
    (ascending : Ascending place) :
    Ascending (segments.foldl (follow true) place) := by
  induction segments generalizing place with
  | nil =>
      exact ascending
  | cons segment rest inductionHypothesis =>
      apply inductionHypothesis
      · intro other member
        exact noSlash other (List.mem_cons_of_mem _ member)
      · exact follow_ascending (noSlash segment List.mem_cons_self) ascending

theorem followAll_ascending
    (path : List Char) :
    Ascending (followAll true [] path) := by
  apply foldl_ascending
  · intro segment member
    exact noSlash_of_mem_splitOn member
  · exact ⟨[], 0, rfl, by simp⟩

/-- A path that collects no parent leads to names. -/
theorem plain_of_not_parent
    {path : List Char}
    (inside : parent ∉ followAll true [] path) :
    ∀ name ∈ followAll true [] path, Plain name := by
  obtain ⟨names, up, place, plain⟩ := followAll_ascending path
  rw [place] at inside ⊢
  cases up with
  | zero =>
      intro name member
      exact plain name (by simpa using member)
  | succ fewer =>
      exact absurd (by simp) inside

/-- A path that does not escape leads to names inside its start. -/
theorem plain_of_not_escapes
    {path : List Char}
    (inside : ¬ Escapes
      (rendered (followAll true [] path).reverse (endsInSlash path))) :
    ∀ name ∈ (followAll true [] path).reverse, Plain name := by
  obtain ⟨names, up, place, plain⟩ := followAll_ascending path
  rw [place] at inside ⊢
  cases up with
  | zero =>
      intro name member
      apply plain
      simpa using member
  | succ fewer =>
      exfalso
      apply inside
      have shape :
          (names ++ List.replicate (fewer + 1) parent).reverse =
            parent :: (List.replicate fewer parent ++ names.reverse) := by
        rw [List.reverse_append, List.reverse_replicate, List.replicate_succ,
          List.cons_append]
      rw [shape]
      unfold rendered
      rw [if_neg (List.cons_ne_nil _ _)]
      cases rest : List.replicate fewer parent ++ names.reverse with
      | nil =>
          cases endsInSlash path with
          | false => exact .inr (.inl (by simp [slashIf]))
          | true => exact .inr (.inr (by simp [slashIf]))
      | cons next others =>
          refine .inr (.inr ?_)
          rw [List.intercalate_cons_cons]
          simp

/-- The normal form of a relative path that stays inside its start. -/
theorem normalize_inside
    {path : List Char}
    (nonempty : path ≠ [])
    (relative : isAbsolute path = false)
    (inside : ¬ Escapes (normalize path)) :
    ∃ names,
      (∀ name ∈ names, Plain name) ∧
        (names = [] → endsInSlash path = true) ∧
        normalize path = rendered names (endsInSlash path) := by
  have shape :
      normalize path =
        rendered (followAll true [] path).reverse (endsInSlash path) := by
    rw [normalize, if_neg nonempty, relative, if_neg Bool.false_ne_true]
  rw [shape] at inside ⊢
  refine ⟨_, plain_of_not_escapes inside, ?_, rfl⟩
  intro empty
  by_contra noSlash
  rw [Bool.not_eq_true] at noSlash
  apply inside
  rw [empty, noSlash]
  exact .inl rfl

/-- Normalising a relative path brings in no new letters but slash and dot. -/
theorem mem_of_mem_normalize
    {path : List Char}
    (nonempty : path ≠ [])
    (relative : isAbsolute path = false)
    {letter : Char}
    (notSlash : letter ≠ '/')
    (notDot : letter ≠ '.')
    (member : letter ∈ normalize path) :
    letter ∈ path := by
  rw [normalize, if_neg nonempty, relative, if_neg Bool.false_ne_true,
    mem_rendered notSlash notDot] at member
  obtain ⟨name, named, inside⟩ := member
  rw [List.mem_reverse] at named
  rcases mem_foldl_follow named with impossible | segment | up
  · cases impossible
  · exact (mem_splitOn notSlash).mp ⟨name, segment, inside⟩
  · rw [up] at inside
    simp [parent, notDot] at inside

/-! ## The text of names -/

section Rendered

variable {names : List Segment} {slash : Bool}
variable (plain : ∀ name ∈ names, Plain name)
include plain

/-- Names are followed as they are. -/
theorem foldl_plain
    (relative : Bool)
    (place : List Segment) :
    names.foldl (follow relative) place = names.reverse ++ place := by
  induction names generalizing place with
  | nil =>
      rfl
  | cons name rest inductionHypothesis =>
      have first := plain name List.mem_cons_self
      have named : follow relative place name = name :: place := by
        simp [follow, first.nonempty, first.notHere, first.notParent]
      rw [List.foldl_cons, named, inductionHypothesis fun other member =>
        plain other (List.mem_cons_of_mem _ member)]
      simp

omit plain in
theorem intercalate_concat_nil
    (nonempty : names ≠ []) :
    ['/'].intercalate (names ++ [[]]) = ['/'].intercalate names ++ ['/'] := by
  induction names with
  | nil =>
      exact absurd rfl nonempty
  | cons name rest inductionHypothesis =>
      cases rest with
      | nil =>
          simp
      | cons next others =>
          have tail := inductionHypothesis (List.cons_ne_nil next others)
          rw [List.cons_append] at tail
          rw [List.cons_append, List.cons_append, List.intercalate_cons_cons,
            List.intercalate_cons_cons, tail]
          simp

/-- The segments of the text are the names, and an empty one for the slash. -/
theorem splitOn_rendered :
    (rendered names slash).splitOn '/' =
      (if names = [] then [['.']] else names) ++
        (if slash then [[]] else []) := by
  have parts :
      rendered names slash =
        ['/'].intercalate
          ((if names = [] then [['.']] else names) ++
            (if slash then [[]] else [])) := by
    unfold rendered slashIf
    by_cases empty : names = []
    · cases slash <;> simp [empty]
    · cases slash with
      | false => simp [empty]
      | true => simp [empty, intercalate_concat_nil empty]
  rw [parts, List.splitOn_intercalate]
  · intro segment member
    rcases List.mem_append.mp member with named | last
    · split at named
      · rw [List.mem_singleton.mp named]
        decide
      · exact (plain segment named).noSlash
    · split at last
      · rw [List.mem_singleton.mp last]
        exact List.not_mem_nil
      · cases last
  · split <;> simp_all

/-- Following the text leads to the names. -/
theorem followAll_rendered
    (relative : Bool)
    (place : List Segment) :
    followAll relative place (rendered names slash) =
      names.reverse ++ place := by
  rw [followAll, splitOn_rendered plain, List.foldl_append]
  have named :
      (if names = [] then [['.']] else names).foldl (follow relative) place =
        names.reverse ++ place := by
    split
    · rename_i empty
      rw [empty]
      rfl
    · exact foldl_plain plain relative place
  rw [named]
  split
  · simp [follow]
  · rfl

theorem isAbsolute_rendered :
    isAbsolute (rendered names slash) = false := by
  cases names with
  | nil =>
      rfl
  | cons name rest =>
      have first := plain name List.mem_cons_self
      cases name with
      | nil =>
          exact absurd rfl first.nonempty
      | cons letter more =>
          have different : letter ≠ '/' := fun same =>
            first.noSlash (same ▸ List.mem_cons_self)
          cases rest <;>
            simp [isAbsolute, rendered, different]

theorem intercalate_ne_nil
    (nonempty : names ≠ []) :
    ['/'].intercalate names ≠ [] := by
  cases names with
  | nil =>
      exact absurd rfl nonempty
  | cons name rest =>
      cases rest with
      | nil => simpa using (plain name List.mem_cons_self).nonempty
      | cons next others => simp

theorem rendered_ne_nil : rendered names slash ≠ [] := by
  unfold rendered
  split
  · exact List.cons_ne_nil _ _
  · rename_i nonempty
    exact List.append_ne_nil_of_left_ne_nil
      (intercalate_ne_nil plain nonempty) _

/-- The last of the names ends the text. -/
theorem getLast?_intercalate :
    (['/'].intercalate names).getLast? ≠ some '/' := by
  induction names with
  | nil =>
      simp
  | cons name rest inductionHypothesis =>
      have first := plain name List.mem_cons_self
      cases rest with
      | nil =>
          rw [List.intercalate_singleton]
          intro last
          exact first.noSlash (List.mem_of_getLast? last)
      | cons next others =>
          have tail := inductionHypothesis fun other member =>
            plain other (List.mem_cons_of_mem _ member)
          have nonempty := intercalate_ne_nil
            (fun other member => plain other (List.mem_cons_of_mem _ member))
            (List.cons_ne_nil next others)
          rw [List.intercalate_cons_cons, List.getLast?_append_of_ne_nil _
            nonempty]
          exact tail

theorem endsInSlash_rendered :
    endsInSlash (rendered names slash) = slash := by
  unfold endsInSlash rendered slashIf
  cases slash with
  | true =>
      split <;> simp
  | false =>
      split
      · simp
      · simpa using getLast?_intercalate plain

/-- The text is its own normal form. -/
theorem normalize_rendered :
    normalize (rendered names slash) = rendered names slash := by
  unfold normalize
  rw [if_neg (rendered_ne_nil plain), isAbsolute_rendered plain,
    if_neg Bool.false_ne_true, followAll_rendered plain,
    endsInSlash_rendered plain]
  simp

/-- A text of names does not lead out of its start. -/
theorem not_escapes_rendered
    (nonempty : names ≠ []) :
    ¬ Escapes (rendered names slash) := by
  obtain ⟨name, rest, rfl⟩ := List.exists_cons_of_ne_nil nonempty
  have first := plain name List.mem_cons_self
  have segments := @splitOn_rendered _ slash plain
  rw [if_neg nonempty] at segments
  rintro (here | up | ⟨more, up⟩)
  · rw [here] at segments
    exact first.notHere (List.cons.inj segments).1.symm
  · rw [up] at segments
    exact first.notParent (List.cons.inj segments).1.symm
  · rw [← up, List.append_assoc, List.singleton_append,
      List.splitOn_append_cons_self] at segments
    exact first.notParent (List.cons.inj segments).1.symm

/-- From a root the text leads to its names below the root. -/
theorem resolve_rendered
    (root : List Segment) :
    resolve root (rendered names slash) = root ++ names := by
  rw [resolve, isAbsolute_rendered plain, if_neg Bool.false_ne_true,
    followAll_rendered plain]
  simp

end Rendered

end PosixPaths

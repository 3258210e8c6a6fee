import Mathlib.Data.List.DropRight
import IgaScheduler.PosixPaths

namespace PosixPaths

/-!
# Absolute POSIX paths

`path.resolve` and `path.dirname` on texts.  A resolved text is a slash before
each of its names; which names these are is found by following the arguments
one after the other.
-/

/-- The text of an absolute path. -/
def absoluteText (names : List Segment) : List Char :=
  '/' :: ['/'].intercalate names

/-- The loop of `path.resolve`, over its arguments from the last one on. -/
def gather :
    List (List Char) →
    List Char →
    List Char × Bool
  | [], resolvedPath => (resolvedPath, false)
  | path :: earlier, resolvedPath =>
      if path = [] then
        gather earlier resolvedPath
      else
        let resolvedPath := path ++ '/' :: resolvedPath
        if isAbsolute path then
          (resolvedPath, true)
        else
          gather earlier resolvedPath

/-- `path.resolve(…arguments)`, in a process with this working directory. -/
def resolveText
    (cwd : List Char)
    (arguments : List (List Char)) :
    List Char :=
  let resolved := gather (arguments.reverse ++ [cwd]) []
  let names := (followAll (!resolved.2) [] resolved.1).reverse
  if resolved.2 then absoluteText names else rendered names false

/-- `path.dirname(path)`. -/
def dirname (path : List Char) : List Char :=
  let above :=
    (path.rdropWhile fun letter => letter = '/').rdropWhile fun letter =>
      letter ≠ '/'
  if above = [] ∨ above = ['/'] then
    if isAbsolute path then ['/'] else ['.']
  else if above = ['/', '/'] then
    ['/', '/']
  else
    above.dropLast

/-! ## Following absolute paths -/

theorem followAll_append
    {relative : Bool}
    {place : List Segment}
    (first second : List Char) :
    followAll relative place (first ++ '/' :: second) =
      followAll relative (followAll relative place first) second := by
  rw [followAll, List.splitOn_append_cons_self, List.foldl_append]
  rfl

theorem followAll_slash
    {relative : Bool}
    {place : List Segment}
    (path : List Char) :
    followAll relative place (path ++ ['/']) =
      followAll relative place path := by
  rw [followAll_append]
  rfl

/-- A leading `./` goes away. -/
theorem normalize_here
    {names : List Segment}
    {slash : Bool}
    (plain : ∀ name ∈ names, Plain name) :
    normalize ('.' :: '/' :: rendered names slash) =
      rendered names slash := by
  have followed :
      followAll true [] (['.'] ++ '/' :: rendered names slash) =
        names.reverse := by
    rw [followAll_append]
    exact (followAll_rendered plain true []).trans (List.append_nil _)
  have ends :
      endsInSlash ('.' :: '/' :: rendered names slash) = slash := by
    rw [endsInSlash, List.getLast?_cons_of_ne_nil (List.cons_ne_nil _ _),
      List.getLast?_cons_of_ne_nil (rendered_ne_nil plain)]
    exact endsInSlash_rendered plain
  rw [normalize, if_neg (List.cons_ne_nil _ _), ends]
  change rendered (followAll true []
    (['.'] ++ '/' :: rendered names slash)).reverse slash = _
  rw [followed, List.reverse_reverse]

/-- From the root only names are followed. -/
theorem foldl_follow_plain
    {segments : List Segment}
    (noSlash : ∀ segment ∈ segments, '/' ∉ segment)
    {place : List Segment}
    (plain : ∀ name ∈ place, Plain name) :
    ∀ name ∈ segments.foldl (follow false) place, Plain name := by
  induction segments generalizing place with
  | nil =>
      exact plain
  | cons segment rest inductionHypothesis =>
      apply inductionHypothesis
      · intro other member
        exact noSlash other (List.mem_cons_of_mem _ member)
      · intro name member
        unfold follow at member
        split at member
        · exact plain name member
        · rename_i kept
          rw [not_or] at kept
          split at member
          · cases place with
            | nil =>
                cases member
            | cons last outer =>
                have ordinary := (plain last List.mem_cons_self).notParent
                dsimp only at member
                rw [if_neg ordinary] at member
                exact plain name (List.mem_cons_of_mem _ member)
          · rename_i ordinary
            rcases List.mem_cons.mp member with rfl | earlier
            · exact ⟨kept.1, kept.2, ordinary,
                noSlash name List.mem_cons_self⟩
            · exact plain name earlier

theorem followAll_plain
    {place : List Segment}
    (plain : ∀ name ∈ place, Plain name)
    (path : List Char) :
    ∀ name ∈ followAll false place path, Plain name :=
  foldl_follow_plain (fun _ => noSlash_of_mem_splitOn) plain

/-- An absolute working directory is the last argument to be needed. -/
theorem gather_absolute
    {cwd : List Char}
    (absolute : isAbsolute cwd = true)
    (arguments : List (List Char))
    (resolvedPath : List Char) :
    (gather (arguments ++ [cwd]) resolvedPath).2 = true := by
  induction arguments generalizing resolvedPath with
  | nil =>
      have nonempty : cwd ≠ [] := by
        rintro rfl
        cases absolute
      rw [List.nil_append, gather, if_neg nonempty, if_pos absolute]
  | cons path earlier inductionHypothesis =>
      rw [List.cons_append, gather]
      split
      · exact inductionHypothesis resolvedPath
      · dsimp only
        split
        · rfl
        · exact inductionHypothesis _

/-- Where an absolute working directory and the arguments lead. -/
def resolvedNames
    (cwd : List Char)
    (arguments : List (List Char)) :
    List Segment :=
  (followAll false [] (gather (arguments.reverse ++ [cwd]) []).1).reverse

theorem plain_resolvedNames
    (cwd : List Char)
    (arguments : List (List Char)) :
    ∀ name ∈ resolvedNames cwd arguments, Plain name := by
  intro name member
  have atRoot : ∀ name ∈ ([] : List Segment), Plain name := by simp
  exact followAll_plain atRoot _ name (List.mem_reverse.mp member)

theorem resolveText_eq
    {cwd : List Char}
    (absolute : isAbsolute cwd = true)
    (arguments : List (List Char)) :
    resolveText cwd arguments =
      absoluteText (resolvedNames cwd arguments) := by
  rw [resolveText, gather_absolute absolute]
  rfl

section Names

variable {names : List Segment}
variable (plain : ∀ name ∈ names, Plain name)
include plain

theorem followAll_absoluteText :
    followAll false [] (absoluteText names) = names.reverse := by
  have shape :
      absoluteText names = [] ++ '/' :: ['/'].intercalate names :=
    rfl
  rw [shape, followAll_append]
  by_cases empty : names = []
  · rw [empty]
    rfl
  · have text : rendered names false = ['/'].intercalate names := by
      rw [rendered, if_neg empty]
      exact List.append_nil _
    rw [← text, followAll_rendered plain]
    exact List.append_nil _

/-- Below a resolved path, a relative one leads where it leads below its names. -/
theorem resolvedNames_below
    {cwd path : List Char}
    (relative : isAbsolute path = false)
    (nonempty : path ≠ []) :
    resolvedNames cwd [absoluteText names, path] = resolve names path := by
  have gathered :
      gather [path, absoluteText names, cwd] [] =
        (absoluteText names ++ '/' :: (path ++ ['/']), true) := by
    rw [gather, if_neg nonempty]
    dsimp only
    have written : absoluteText names ≠ [] := List.cons_ne_nil _ _
    have absolute : isAbsolute (absoluteText names) = true := rfl
    rw [relative, if_neg Bool.false_ne_true, gather, if_neg written,
      if_pos absolute]
  rw [resolvedNames]
  change (followAll false [] (gather [path, absoluteText names, cwd] []).1
    ).reverse = _
  rw [gathered, followAll_append, followAll_absoluteText plain,
    followAll_slash, resolve, relative, if_neg Bool.false_ne_true]

end Names

/-! ## Texts of absolute paths -/

theorem intercalate_append
    {first second : List Segment}
    (nonempty : first ≠ [])
    (others : second ≠ []) :
    ['/'].intercalate (first ++ second) =
      ['/'].intercalate first ++ '/' :: ['/'].intercalate second := by
  induction first with
  | nil =>
      exact absurd rfl nonempty
  | cons name rest inductionHypothesis =>
      cases rest with
      | nil =>
          cases second with
          | nil =>
              exact absurd rfl others
          | cons next more =>
              rw [List.singleton_append, List.intercalate_cons_cons,
                List.intercalate_singleton, List.append_assoc,
                List.singleton_append]
      | cons next more =>
          rw [List.cons_append, List.cons_append,
            List.intercalate_cons_cons, ← List.cons_append,
            inductionHypothesis (List.cons_ne_nil _ _),
            List.intercalate_cons_cons]
          simp only [List.append_assoc]

theorem absoluteText_append
    {root names : List Segment}
    (notRoot : root ≠ [])
    (nonempty : names ≠ []) :
    absoluteText (root ++ names) =
      absoluteText root ++ '/' :: ['/'].intercalate names := by
  rw [absoluteText, intercalate_append notRoot nonempty]
  rfl

/-- Names are read off the text of an absolute path. -/
theorem absoluteText_inj
    {first second : List Segment}
    (plain : ∀ name ∈ first, Plain name)
    (plainToo : ∀ name ∈ second, Plain name)
    (same : absoluteText first = absoluteText second) :
    first = second := by
  have followed := followAll_absoluteText plain
  rw [same, followAll_absoluteText plainToo] at followed
  exact List.reverse_injective followed.symm

/-- What the `startsWith` of a containment test says about names. -/
theorem slash_prefix_absoluteText
    {root names : List Segment}
    (plain : ∀ name ∈ root ++ names, Plain name) :
    absoluteText root ++ ['/'] <+: absoluteText (root ++ names) ↔
      root ≠ [] ∧ names ≠ [] := by
  constructor
  · intro within
    refine ⟨?_, ?_⟩
    · rintro rfl
      rw [List.nil_append] at plain within
      obtain ⟨rest, shape⟩ := within
      have twice : '/' :: rest = ['/'].intercalate names :=
        (List.cons.inj shape).2
      by_cases empty : names = []
      · rw [empty] at twice
        cases twice
      · have relative : isAbsolute (rendered names false) = false :=
          isAbsolute_rendered plain
        rw [rendered, if_neg empty, ← twice] at relative
        cases relative
    · rintro rfl
      rw [List.append_nil] at within
      have longer := within.length_le
      rw [List.length_append, List.length_singleton] at longer
      exact Nat.not_succ_le_self _ longer
  · rintro ⟨notRoot, nonempty⟩
    rw [absoluteText_append notRoot nonempty]
    exact ⟨['/'].intercalate names, by simp⟩

/-- The last name, and the slash before it, can be told from the rest. -/
theorem dirname_append
    {above : List Char}
    {last : Segment}
    (isName : Plain last) :
    dirname (above ++ '/' :: last) =
      if above = [] then ['/']
      else if above = ['/'] then ['/', '/']
      else above := by
  have ends : (above ++ '/' :: last).rdropWhile (fun letter => letter = '/') =
      above ++ '/' :: last := by
    refine List.rdropWhile_eq_self_iff.mpr fun _ => ?_
    rw [List.getLast_append_of_ne_nil _ (List.cons_ne_nil _ _),
      List.getLast_cons isName.nonempty, decide_eq_true_eq]
    intro slash
    exact isName.noSlash (slash ▸ List.getLast_mem isName.nonempty)
  have cut : (above ++ '/' :: last).rdropWhile (fun letter => letter ≠ '/') =
      above ++ ['/'] := by
    have letters : ∀ letter ∈ last.reverse, decide (letter ≠ '/') = true := by
      intro letter member
      refine decide_eq_true ?_
      rintro rfl
      exact isName.noSlash (List.mem_reverse.mp member)
    rw [List.rdropWhile, List.reverse_append, List.reverse_cons,
      List.append_assoc, List.dropWhile_append_of_pos letters]
    simp
  rw [dirname, ends, cut]
  by_cases atRoot : above = []
  · subst atRoot
    rfl
  · have notRoot : ¬ (above ++ ['/'] = [] ∨ above ++ ['/'] = ['/']) := by
      simp [atRoot]
    have slashes : above ++ ['/'] = ['/'] ++ ['/'] ↔ above = ['/'] :=
      List.append_left_inj ['/']
    rw [if_neg notRoot, if_neg atRoot, List.dropLast_concat]
    exact if_congr slashes rfl rfl

theorem dirname_absoluteText
    {names : List Segment}
    {last : Segment}
    (plain : ∀ name ∈ names ++ [last], Plain name) :
    dirname (absoluteText (names ++ [last])) = absoluteText names := by
  have isName := plain last (by simp)
  by_cases empty : names = []
  · subst empty
    have text : absoluteText ([] ++ [last]) = [] ++ '/' :: last := by
      rw [absoluteText, List.nil_append, List.intercalate_singleton]
      rfl
    rw [text, dirname_append isName, if_pos rfl]
    rfl
  · have plainNames : ∀ name ∈ names, Plain name := fun name member =>
      plain name (List.mem_append_left _ member)
    have notEmpty : absoluteText names ≠ [] := List.cons_ne_nil _ _
    have notRoot : absoluteText names ≠ ['/'] := by
      intro same
      exact intercalate_ne_nil plainNames empty (List.cons.inj same).2
    rw [absoluteText_append empty (List.cons_ne_nil _ _),
      List.intercalate_singleton, dirname_append isName, if_neg notEmpty,
      if_neg notRoot]

/-! ## Paths that end in names -/

theorem noSlash_followAll
    {relative : Bool}
    {path : List Char} :
    ∀ name ∈ followAll relative [] path, '/' ∉ name := by
  intro name member
  rcases mem_foldl_follow member with impossible | segment | up
  · cases impossible
  · exact noSlash_of_mem_splitOn segment
  · rw [up]
    decide

/-- A name that ends a path is the last one to be followed. -/
theorem followAll_name
    {relative : Bool}
    {place : List Segment}
    (path : List Char)
    {name : Segment}
    (plain : Plain name) :
    followAll relative place (path ++ '/' :: name) =
      name :: followAll relative place path := by
  have named : rendered [name] false = name := by
    simp [rendered, slashIf]
  have alone : ∀ other ∈ [name], Plain other := by
    intro other member
    rw [List.mem_singleton.mp member]
    exact plain
  have followed :=
    @followAll_rendered [name] false alone relative
      (followAll relative place path)
  rw [named] at followed
  rw [followAll_append, followed]
  rfl

/-- The names that end a path end its normal form. -/
theorem splitOn_normalize
    (path : List Char)
    {first second : Segment}
    (plainFirst : Plain first)
    (plainSecond : Plain second) :
    ∃ outer,
      (normalize (path ++ '/' :: first ++ '/' :: second)).splitOn '/' =
        outer ++ [first, second] := by
  have followed
      (relative : Bool) :
      (followAll relative []
          (path ++ '/' :: first ++ '/' :: second)).reverse =
        (followAll relative [] path).reverse ++ [first, second] := by
    rw [followAll_name _ plainSecond, followAll_name _ plainFirst]
    simp
  have noSlash :
      endsInSlash (path ++ '/' :: first ++ '/' :: second) = false := by
    unfold endsInSlash
    rw [List.getLast?_append_of_ne_nil _ (List.cons_ne_nil _ _),
      List.getLast?_cons, decide_eq_false_iff_not]
    intro last
    cases found : second.getLast? with
    | none =>
        exact plainSecond.nonempty (List.getLast?_eq_none_iff.mp found)
    | some letter =>
        rw [found] at last
        cases last
        exact plainSecond.noSlash (List.mem_of_getLast? found)
  have parts
      (relative : Bool) :
      (rendered ((followAll relative [] path).reverse ++ [first, second])
          false).splitOn '/' =
        (followAll relative [] path).reverse ++ [first, second] := by
    rw [rendered, if_neg (by simp), slashIf, if_neg Bool.false_ne_true,
      List.append_nil, List.splitOn_intercalate]
    · intro name member
      rcases List.mem_append.mp member with outer | last
      · exact noSlash_followAll name (List.mem_reverse.mp outer)
      · rcases List.mem_cons.mp last with rfl | last
        · exact plainFirst.noSlash
        · rw [List.mem_singleton.mp last]
          exact plainSecond.noSlash
    · simp
  unfold normalize
  rw [if_neg (by simp), noSlash]
  split
  · dsimp only
    rw [followed, if_neg (by simp)]
    refine ⟨[] :: (followAll false [] path).reverse, ?_⟩
    have slash :=
      @List.splitOn_append_cons_self _ _ _ '/' []
        (rendered ((followAll false [] path).reverse ++ [first, second]) false)
    rw [List.nil_append] at slash
    rw [slash, parts]
    rfl
  · rw [followed]
    exact ⟨_, parts true⟩

/-- Which names end a path is read off its normal form. -/
theorem normalize_ends_inj
    {path other : List Char}
    {first second otherFirst otherSecond : Segment}
    (plainFirst : Plain first)
    (plainSecond : Plain second)
    (plainOtherFirst : Plain otherFirst)
    (plainOtherSecond : Plain otherSecond)
    (same :
      normalize (path ++ '/' :: first ++ '/' :: second) =
        normalize (other ++ '/' :: otherFirst ++ '/' :: otherSecond)) :
    first = otherFirst ∧ second = otherSecond := by
  obtain ⟨outer, parts⟩ := splitOn_normalize path plainFirst plainSecond
  obtain ⟨otherOuter, otherParts⟩ :=
    splitOn_normalize other plainOtherFirst plainOtherSecond
  rw [same, otherParts] at parts
  obtain ⟨-, ends⟩ := List.append_inj' parts rfl
  cases ends
  exact ⟨rfl, rfl⟩

end PosixPaths

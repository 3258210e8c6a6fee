import Mathlib.Data.List.Infix

namespace FileTrees

/-!
# Unpacking items into a tree of directories and files

A tree says what stands at each path, a path being the list of names from the
root.  Directories and files are put into it one after another, each with the
directories above it.  Whether all of them fit, and which tree results, depends
on the items alone and, for two files with one path, on the order of these.
-/

variable {σ β : Type}

/-- What may stand at a path. -/
inductive Node (β : Type) where
  | directory
  | file (content : β)

namespace Node

def isDirectory : Option (Node β) → Bool
  | some .directory => true
  | _ => false

def isFile : Option (Node β) → Bool
  | some (.file _) => true
  | _ => false

@[simp] theorem isDirectory_directory :
    isDirectory (some (.directory : Node β)) = true :=
  rfl

@[simp] theorem isDirectory_file
    (content : β) :
    isDirectory (some (.file content)) = false :=
  rfl

@[simp] theorem isDirectory_none :
    isDirectory (none : Option (Node β)) = false :=
  rfl

@[simp] theorem isFile_none :
    isFile (none : Option (Node β)) = false :=
  rfl

@[simp] theorem isFile_directory :
    isFile (some (.directory : Node β)) = false :=
  rfl

@[simp] theorem isFile_file
    (content : β) :
    isFile (some (.file content)) = true :=
  rfl

end Node

open Node

/-- What stands at each path. -/
abbrev Tree (σ β : Type) := List σ → Option (Node β)

/-- What is put into a tree. -/
inductive Item (σ β : Type) where
  | directory (path : List σ)
  | file (path : List σ) (content : β)

variable [DecidableEq σ]

/-- Make a directory and those above it; a file in the way refuses it. -/
def mkdirp
    (tree : Tree σ β)
    (path : List σ) :
    Option (Tree σ β) :=
  if path.inits.any fun above => isFile (tree above) then
    none
  else
    some fun place => if place <+: path then some .directory else tree place

/-- Write a file into an existing directory; it may replace a file. -/
def writeFile
    (tree : Tree σ β)
    (path : List σ)
    (content : β) :
    Option (Tree σ β) :=
  if isDirectory (tree path.dropLast) && !isDirectory (tree path) then
    some fun place => if place = path then some (.file content) else tree place
  else
    none

/-- Put one item into the tree. -/
def put
    (tree : Tree σ β) :
    Item σ β → Option (Tree σ β)
  | .directory path => mkdirp tree path
  | .file path content =>
      (mkdirp tree path.dropLast).bind fun tree => writeFile tree path content

/-- Put the items into the tree, first to last. -/
def unpack
    (tree : Tree σ β)
    (items : List (Item σ β)) :
    Option (Tree σ β) :=
  items.foldlM put tree

/-! ## What the items ask for -/

namespace Item

/-- The directory below which the item puts nothing but itself. -/
def directoryPath : Item σ β → List σ
  | .directory path => path
  | .file path _ => path.dropLast

/-- The content the item gives to a path. -/
def contentAt
    (item : Item σ β)
    (place : List σ) :
    Option β :=
  match item with
  | .directory _ => none
  | .file path content => if place = path then some content else none

end Item

/-- A directory stands at the path when all items are in the tree. -/
def AsDirectory
    (items : List (Item σ β))
    (place : List σ) :
    Prop :=
  ∃ item ∈ items, place <+: item.directoryPath

instance
    (items : List (Item σ β))
    (place : List σ) :
    Decidable (AsDirectory items place) :=
  inferInstanceAs (Decidable (∃ item ∈ items, _))

/-- The content that the last item for the path gives to it. -/
def contentAt :
    List (Item σ β) → List σ → Option β
  | [], _ => none
  | item :: rest, place => (contentAt rest place).or (item.contentAt place)

/-- The tree with the items in it. -/
def overlay
    (tree : Tree σ β)
    (items : List (Item σ β)) :
    Tree σ β :=
  fun place =>
    if AsDirectory items place then
      some .directory
    else
      ((contentAt items place).map .file).or (tree place)

/-- Nothing has to be a directory and a file at once. -/
structure Fits
    (tree : Tree σ β)
    (items : List (Item σ β)) :
    Prop where
  apart : ∀ place, AsDirectory items place → contentAt items place = none
  directories : ∀ place, AsDirectory items place → isFile (tree place) = false
  files : ∀ place,
    (contentAt items place).isSome → isDirectory (tree place) = false

omit [DecidableEq σ] in
theorem asDirectory_cons
    {item : Item σ β}
    {rest : List (Item σ β)}
    {place : List σ} :
    AsDirectory (item :: rest) place ↔
      AsDirectory [item] place ∨ AsDirectory rest place := by
  simp [AsDirectory]

theorem contentAt_cons
    (item : Item σ β)
    (rest : List (Item σ β))
    (place : List σ) :
    contentAt (item :: rest) place =
      (contentAt rest place).or (contentAt [item] place) := by
  simp [contentAt]

omit [DecidableEq σ] in
theorem asDirectory_singleton
    {item : Item σ β}
    {place : List σ} :
    AsDirectory [item] place ↔ place <+: item.directoryPath := by
  simp [AsDirectory]

@[simp] theorem contentAt_singleton
    (item : Item σ β)
    (place : List σ) :
    contentAt [item] place = item.contentAt place := by
  simp [contentAt]

/-- A path with content is the path of a file. -/
theorem contentAt_isSome
    {items : List (Item σ β)}
    {place : List σ} :
    (contentAt items place).isSome ↔
      ∃ content, Item.file place content ∈ items := by
  induction items with
  | nil =>
      simp [contentAt]
  | cons item rest inductionHypothesis =>
      rw [contentAt, Option.isSome_or, Bool.or_eq_true, inductionHypothesis]
      cases item with
      | directory path =>
          simp [Item.contentAt]
      | file path content =>
          by_cases same : place = path
          · subst same
            simp [Item.contentAt]
          · simp [Item.contentAt, same]

/-! ## One item -/

theorem mkdirp_eq_some
    {tree next : Tree σ β}
    {path : List σ} :
    mkdirp tree path = some next ↔
      (∀ place, place <+: path → isFile (tree place) = false) ∧
        next = fun place =>
          if place <+: path then some .directory else tree place := by
  unfold mkdirp
  by_cases blocked : path.inits.any fun above => isFile (tree above)
  · rw [if_pos blocked]
    obtain ⟨above, member, file⟩ := List.any_eq_true.mp blocked
    constructor
    · intro impossible
      cases impossible
    · rintro ⟨free, -⟩
      rw [free above ((List.mem_inits _ _).mp member)] at file
      cases file
  · rw [if_neg blocked]
    simp only [List.any_eq_true, not_exists, not_and, List.mem_inits,
      Bool.not_eq_true] at blocked
    rw [Option.some_inj]
    constructor
    · intro made
      exact ⟨blocked, made.symm⟩
    · intro free
      exact free.2.symm

theorem writeFile_eq_some
    {tree next : Tree σ β}
    {path : List σ}
    {content : β} :
    writeFile tree path content = some next ↔
      isDirectory (tree path.dropLast) = true ∧
        isDirectory (tree path) = false ∧
        next = fun place =>
          if place = path then some (.file content) else tree place := by
  unfold writeFile
  by_cases allowed :
      (isDirectory (tree path.dropLast) && !isDirectory (tree path)) = true
  · rw [if_pos allowed, Option.some_inj]
    rw [Bool.and_eq_true, Bool.not_eq_true'] at allowed
    constructor
    · intro written
      exact ⟨allowed.1, allowed.2, written.symm⟩
    · intro written
      exact written.2.2.symm
  · rw [if_neg allowed]
    constructor
    · intro impossible
      cases impossible
    · rintro ⟨directory, free, -⟩
      exact absurd (by rw [directory, free]; rfl) allowed

/-- The tree with one file in it. -/
theorem overlay_file
    {tree : Tree σ β}
    {path : List σ}
    {content : β}
    (outside : ¬ path <+: path.dropLast) :
    overlay tree [.file path content] = fun place =>
      if place = path then
        some (.file content)
      else if place <+: path.dropLast then
        some .directory
      else
        tree place := by
  funext place
  simp only [overlay, asDirectory_singleton, Item.directoryPath,
    contentAt_singleton, Item.contentAt]
  by_cases same : place = path
  · subst same
    rw [if_neg outside, if_pos rfl, if_pos rfl]
    rfl
  · rw [if_neg same, if_neg same]
    rfl

theorem fits_file
    {tree : Tree σ β}
    {path : List σ}
    {content : β}
    (outside : ¬ path <+: path.dropLast)
    (free : ∀ place, place <+: path.dropLast → isFile (tree place) = false)
    (vacant : isDirectory (tree path) = false) :
    Fits tree [.file path content] := by
  refine ⟨?_, ?_, ?_⟩
  · intro place inside
    rw [contentAt_singleton, Item.contentAt]
    apply if_neg
    rintro rfl
    exact outside (asDirectory_singleton.mp inside)
  · intro place inside
    exact free place (asDirectory_singleton.mp inside)
  · intro place hasContent
    obtain ⟨_, member⟩ := contentAt_isSome.mp hasContent
    rw [List.mem_singleton] at member
    cases member
    exact vacant

/-- One item goes in exactly when it fits. -/
theorem put_eq_some
    {tree next : Tree σ β}
    {item : Item σ β} :
    put tree item = some next ↔
      Fits tree [item] ∧ next = overlay tree [item] := by
  cases item with
  | directory path =>
      rw [put, mkdirp_eq_some]
      have made :
          overlay tree [Item.directory path] = fun place =>
            if place <+: path then some .directory else tree place := by
        funext place
        simp only [overlay, asDirectory_singleton, Item.directoryPath,
          contentAt_singleton, Item.contentAt, Option.map_none, Option.none_or]
      rw [made]
      apply and_congr_left
      intro _
      constructor
      · intro free
        refine ⟨?_, ?_, ?_⟩
        · intro place _
          simp [Item.contentAt]
        · intro place inside
          exact free place (asDirectory_singleton.mp inside)
        · intro place hasContent
          simp [Item.contentAt] at hasContent
      · intro fits place inside
        exact fits.directories place (asDirectory_singleton.mpr inside)
  | file path content =>
      rw [put, Option.bind_eq_some_iff]
      constructor
      · rintro ⟨middle, made, written⟩
        obtain ⟨free, rfl⟩ := mkdirp_eq_some.mp made
        obtain ⟨-, vacant, rfl⟩ := writeFile_eq_some.mp written
        have outside : ¬ path <+: path.dropLast := by
          intro inside
          rw [if_pos inside] at vacant
          cases vacant
        rw [if_neg outside] at vacant
        refine ⟨fits_file outside free vacant, ?_⟩
        exact (overlay_file outside).symm
      · rintro ⟨fits, rfl⟩
        have outside : ¬ path <+: path.dropLast := by
          intro inside
          have nothing := fits.apart path (asDirectory_singleton.mpr inside)
          simp [Item.contentAt] at nothing
        have free :
            ∀ place, place <+: path.dropLast →
              isFile (tree place) = false := by
          intro place inside
          exact fits.directories place (asDirectory_singleton.mpr inside)
        have vacant : isDirectory (tree path) = false :=
          fits.files path (by simp [Item.contentAt])
        refine ⟨_, mkdirp_eq_some.mpr ⟨free, rfl⟩,
          writeFile_eq_some.mpr ⟨?_, ?_, overlay_file outside⟩⟩
        · rw [if_pos (List.prefix_refl _)]
          rfl
        · rw [if_neg outside]
          exact vacant

/-! ## All items -/

theorem isDirectory_overlay
    {tree : Tree σ β}
    {items : List (Item σ β)}
    {place : List σ} :
    isDirectory (overlay tree items place) = true ↔
      AsDirectory items place ∨
        contentAt items place = none ∧ isDirectory (tree place) = true := by
  unfold overlay
  by_cases directory : AsDirectory items place
  · simp [directory]
  · cases content : contentAt items place <;>
      simp [directory]

theorem isFile_overlay
    {tree : Tree σ β}
    {items : List (Item σ β)}
    {place : List σ} :
    isFile (overlay tree items place) = true ↔
      ¬ AsDirectory items place ∧
        ((contentAt items place).isSome ∨ isFile (tree place) = true) := by
  unfold overlay
  by_cases directory : AsDirectory items place
  · simp [directory]
  · cases content : contentAt items place <;>
      simp [directory]

/-- The first item fits if all do. -/
theorem Fits.first
    {tree : Tree σ β}
    {item : Item σ β}
    {rest : List (Item σ β)}
    (fits : Fits tree (item :: rest)) :
    Fits tree [item] := by
  refine ⟨?_, ?_, ?_⟩
  · intro place inside
    have nothing := fits.apart place (asDirectory_cons.mpr (.inl inside))
    rw [contentAt_cons] at nothing
    exact (Option.or_eq_none_iff.mp nothing).2
  · intro place inside
    exact fits.directories place (asDirectory_cons.mpr (.inl inside))
  · intro place hasContent
    apply fits.files
    rw [contentAt_cons, Option.isSome_or, hasContent, Bool.or_true]

/-- And the others fit the tree in which the first one is. -/
theorem Fits.others
    {tree : Tree σ β}
    {item : Item σ β}
    {rest : List (Item σ β)}
    (fits : Fits tree (item :: rest)) :
    Fits (overlay tree [item]) rest := by
  refine ⟨?_, ?_, ?_⟩
  · intro place inside
    have nothing := fits.apart place (asDirectory_cons.mpr (.inr inside))
    rw [contentAt_cons] at nothing
    exact (Option.or_eq_none_iff.mp nothing).1
  · intro place inside
    have nothing := fits.apart place (asDirectory_cons.mpr (.inr inside))
    rw [contentAt_cons] at nothing
    have free := fits.directories place (asDirectory_cons.mpr (.inr inside))
    rw [← Bool.not_eq_true, isFile_overlay]
    rintro ⟨-, hasContent | file⟩
    · rw [(Option.or_eq_none_iff.mp nothing).2] at hasContent
      cases hasContent
    · rw [free] at file
      cases file
  · intro place hasContent
    have someContent : (contentAt (item :: rest) place).isSome := by
      rw [contentAt_cons, Option.isSome_or, hasContent, Bool.true_or]
    rw [← Bool.not_eq_true, isDirectory_overlay]
    rintro (inside | ⟨-, directory⟩)
    · have nothing := fits.apart place (asDirectory_cons.mpr (.inl inside))
      rw [nothing] at someContent
      cases someContent
    · rw [fits.files place someContent] at directory
      cases directory

/-- Further items fit when they fit the tree in which the first one is. -/
theorem fits_cons
    {tree : Tree σ β}
    {item : Item σ β}
    {rest : List (Item σ β)} :
    Fits tree (item :: rest) ↔
      Fits tree [item] ∧ Fits (overlay tree [item]) rest := by
  constructor
  · intro fits
    exact ⟨fits.first, fits.others⟩
  · rintro ⟨first, others⟩
    refine ⟨?_, ?_, ?_⟩
    · intro place inside
      rw [contentAt_cons, Option.or_eq_none_iff]
      rcases asDirectory_cons.mp inside with firstInside | restInside
      · refine ⟨?_, first.apart place firstInside⟩
        by_contra hasContent
        have vacant :=
          others.files place (Option.isSome_iff_ne_none.mpr hasContent)
        rw [isDirectory_overlay.mpr (.inl firstInside)] at vacant
        cases vacant
      · refine ⟨others.apart place restInside, ?_⟩
        have free := others.directories place restInside
        rw [← Bool.not_eq_true, isFile_overlay] at free
        by_contra hasContent
        refine free ⟨?_, .inl (Option.isSome_iff_ne_none.mpr hasContent)⟩
        intro firstInside
        exact hasContent (first.apart place firstInside)
    · intro place inside
      by_cases firstInside : AsDirectory [item] place
      · exact first.directories place firstInside
      · have restInside :=
          (asDirectory_cons.mp inside).resolve_left firstInside
        have free := others.directories place restInside
        rw [← Bool.not_eq_true, isFile_overlay] at free
        rw [← Bool.not_eq_true]
        intro file
        exact free ⟨firstInside, .inr file⟩
    · intro place hasContent
      by_cases firstContent : (contentAt [item] place).isSome
      · exact first.files place firstContent
      · rw [contentAt_cons, Option.isSome_or, Bool.or_eq_true] at hasContent
        have restContent := hasContent.resolve_right firstContent
        have vacant := others.files place restContent
        rw [← Bool.not_eq_true, isDirectory_overlay] at vacant
        rw [← Bool.not_eq_true]
        intro directory
        rw [Bool.not_eq_true, Option.isSome_eq_false_iff,
          Option.isNone_iff_eq_none] at firstContent
        exact vacant (.inr ⟨firstContent, directory⟩)

/-- Putting in the rest after the first item puts in all of them. -/
theorem overlay_cons
    {tree : Tree σ β}
    {item : Item σ β}
    {rest : List (Item σ β)}
    (fits : Fits tree (item :: rest)) :
    overlay (overlay tree [item]) rest = overlay tree (item :: rest) := by
  funext place
  by_cases inside : AsDirectory (item :: rest) place
  · have nothing := fits.apart place inside
    rw [contentAt_cons, Option.or_eq_none_iff] at nothing
    have whole : overlay tree (item :: rest) place = some .directory :=
      if_pos inside
    rw [whole]
    by_cases restInside : AsDirectory rest place
    · exact if_pos restInside
    · have firstInside := (asDirectory_cons.mp inside).resolve_right restInside
      rw [overlay, if_neg restInside, nothing.1]
      exact if_pos firstInside
  · have outside := mt asDirectory_cons.mpr inside
    rw [not_or] at outside
    simp only [overlay, if_neg inside, if_neg outside.1, if_neg outside.2]
    rw [contentAt_cons item rest place]
    cases contentAt rest place <;> rfl

theorem unpack_cons
    {tree final : Tree σ β}
    {item : Item σ β}
    {rest : List (Item σ β)} :
    unpack tree (item :: rest) = some final ↔
      ∃ next, put tree item = some next ∧ unpack next rest = some final :=
  Option.bind_eq_some_iff

/-- The items can be unpacked exactly when they fit. -/
theorem unpack_eq_some
    {tree final : Tree σ β}
    {items : List (Item σ β)} :
    unpack tree items = some final ↔
      Fits tree items ∧ final = overlay tree items := by
  induction items generalizing tree with
  | nil =>
      have nothing : overlay tree [] = tree := by
        funext place
        simp [overlay, AsDirectory, contentAt]
      have fits : Fits tree [] := by
        refine ⟨?_, ?_, ?_⟩
        · intro place _
          rfl
        · rintro place ⟨item, member, -⟩
          cases member
        · intro place hasContent
          cases hasContent
      rw [nothing]
      constructor
      · intro unpacked
        cases unpacked
        exact ⟨fits, rfl⟩
      · rintro ⟨-, rfl⟩
        rfl
  | cons item rest inductionHypothesis =>
      rw [unpack_cons]
      constructor
      · rintro ⟨next, first, others⟩
        obtain ⟨firstFits, rfl⟩ := put_eq_some.mp first
        obtain ⟨restFits, rfl⟩ := inductionHypothesis.mp others
        have fits := fits_cons.mpr ⟨firstFits, restFits⟩
        exact ⟨fits, overlay_cons fits⟩
      · rintro ⟨fits, rfl⟩
        obtain ⟨firstFits, restFits⟩ := fits_cons.mp fits
        exact ⟨_, put_eq_some.mpr ⟨firstFits, rfl⟩,
          inductionHypothesis.mpr ⟨restFits, (overlay_cons fits).symm⟩⟩

end FileTrees

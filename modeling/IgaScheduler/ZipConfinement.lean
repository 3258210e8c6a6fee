import IgaScheduler.AbsolutePaths
import IgaScheduler.ArtifactExtraction

namespace IgaScheduler.ZipArtifacts

/-!
# Where the extraction of an archive writes

The paths of `safeZipExtract.js` as texts, and the calls of the file system
that an extraction makes; the file system may let any of them fail.  A name
that passes the policy leads into the directory of the extraction and over no
denied name.  It is a name the policy passes again unless it is blank.
-/

open PosixPaths (Plain Segment absoluteText resolveText resolvedNames)

/-! ## The extraction, by its calls -/

/-- `safeJoin(root, relativePath)`, in a process with a working directory. -/
def safeJoinText
    (cwd root : List Char)
    (relativePath : String) :
    Except String (List Char) :=
  let resolvedRoot := resolveText cwd [root]
  let resolvedTarget := resolveText cwd [resolvedRoot, relativePath.toList]
  if resolvedTarget ≠ resolvedRoot ∧
      ¬ resolvedRoot ++ ['/'] <+: resolvedTarget then
    .error ("unsafe extraction target: " ++ relativePath)
  else
    .ok resolvedTarget

/-- What an extraction asks the zip reader and the file system for. -/
inductive FileCall where
  | openReadStream (fileName : String)
  /-- `fs.mkdir(path, { recursive: true })`. -/
  | mkdir (path : List Char)
  /-- `writeStreamToFile(readStream, path)`. -/
  | write (path : List Char)

/-- The path that a call creates. -/
def FileCall.path? : FileCall → Option (List Char)
  | .openReadStream _ => none
  | .mkdir path => some path
  | .write path => some path

/-- Whether, after these calls, the last of them has succeeded. -/
abbrev FileAnswers := List FileCall → Bool

/-- Make calls one after the other, as long as they succeed. -/
def callAll
    (answers : FileAnswers) :
    List FileCall →
    List FileCall →
    List FileCall × Bool
  | made, [] => (made, true)
  | made, call :: rest =>
      if answers (made ++ [call]) then
        callAll answers (made ++ [call]) rest
      else
        (made ++ [call], false)

/-- The calls that unpack an entry. -/
def entryCalls
    (targetPath : List Char)
    (entry : ZipEntry) :
    List FileCall :=
  if isZipEntryDirectory entry.fileName then
    [.mkdir targetPath]
  else
    [.openReadStream entry.fileName, .mkdir (PosixPaths.dirname targetPath),
      .write targetPath]

structure ExtractionLimits where
  maxFileCount : Nat
  maxUncompressedBytes : Nat

section Extraction

variable (cwd extractDir : List Char)
variable (limits : ExtractionLimits)
variable (answers : FileAnswers)

/-- The `entry` events of `extractZipEntries`, after these calls. -/
def extractCalls :
    List ZipEntry →
    (fileCount uncompressedBytes : Nat) →
    List FileCall →
    List FileCall
  | [], _, _, made => made
  | entry :: rest, fileCount, uncompressedBytes, made =>
      match validateZipEntryPolicy entry with
      | .error _ => made
      | .ok normalizedName =>
          let fileCount := fileCount + countedFiles entry
          let uncompressedBytes := uncompressedBytes + entry.uncompressedSize
          if limits.maxFileCount < fileCount then
            made
          else if limits.maxUncompressedBytes < uncompressedBytes then
            made
          else
            match safeJoinText cwd extractDir normalizedName with
            | .error _ => made
            | .ok targetPath =>
                let called := callAll answers made (entryCalls targetPath entry)
                if called.2 then
                  extractCalls rest fileCount uncompressedBytes called.1
                else
                  called.1

end Extraction

/-! ## What the policy lets pass -/

/-- A name that is not on the lists of denied ones. -/
structure AllowedName (name : Segment) : Prop extends Plain name where
  notDeniedFile : String.ofList name ∉ deniedFilenames
  notDeniedDirectory : String.ofList name ∉ deniedDirectoryNames

theorem not_isDeniedPath_of_policy
    {entry : ZipEntry}
    {name : String}
    (passed : validateZipEntryPolicy entry = .ok name) :
    isDeniedPath name = false := by
  unfold validateZipEntryPolicy at passed
  split at passed
  · cases passed
  · split at passed
    · cases passed
    · rename_i allowed
      split at passed
      · cases passed
      · cases passed
        exact Bool.not_eq_true _ ▸ allowed

/-- No name on the way of an accepted entry is denied. -/
theorem allowed_of_policy
    {entry : ZipEntry}
    {name : String}
    (passed : validateZipEntryPolicy entry = .ok name) :
    ∀ component ∈ entryPath entry, AllowedName component := by
  obtain ⟨rfl, wellNamed⟩ := wellNamed_of_policy passed
  have notDenied := not_isDeniedPath_of_policy passed
  intro component member
  have plain := wellNamed.plain component member
  have part :
      component ∈
        ((normalizedName entry).toList.splitOn '/').filter
          fun part => part ≠ [] := by
    rw [List.mem_filter, normalizedName, String.toList_ofList,
      wellNamed.text, PosixPaths.splitOn_rendered wellNamed.plain,
      if_neg (List.ne_nil_of_mem member)]
    exact ⟨List.mem_append_left _ member, decide_eq_true plain.nonempty⟩
  have allowed := List.any_eq_false.mp notDenied component part
  rw [Bool.or_eq_true, List.contains_iff_mem, List.contains_iff_mem,
    not_or] at allowed
  exact ⟨plain, allowed.1, allowed.2⟩

/-- The name leads to a single one of white space. -/
def BlankName (entry : ZipEntry) : Prop :=
  isZipEntryDirectory entry.fileName = false ∧
    ∃ name,
      entryPath entry = [name] ∧ isBlank (String.ofList name) = true

/-- A text with a slash in it is not blank. -/
theorem isBlank_of_slash
    {text : List Char}
    (slash : '/' ∈ text) :
    isBlank (String.ofList text) = false := by
  rw [isBlank, String.toList_ofList, List.all_eq_false]
  exact ⟨'/', slash, by decide⟩

/-- The text of names is blank when it is that of a single blank one. -/
theorem isBlank_rendered
    {names : List Segment}
    {slash : Bool}
    (plain : ∀ name ∈ names, Plain name) :
    isBlank (String.ofList (PosixPaths.rendered names slash)) = true ↔
      slash = false ∧
        ∃ name, names = [name] ∧ isBlank (String.ofList name) = true := by
  cases slash with
  | true =>
      have inside : '/' ∈ PosixPaths.rendered names true := by
        have ends :
            PosixPaths.endsInSlash (PosixPaths.rendered names true) = true :=
          PosixPaths.endsInSlash_rendered plain
        exact List.mem_of_getLast? (of_decide_eq_true ends)
      rw [isBlank_of_slash inside]
      refine iff_of_false Bool.false_ne_true ?_
      rintro ⟨impossible, -⟩
      cases impossible
  | false =>
      cases names with
      | nil =>
          refine iff_of_false (by decide) ?_
          rintro ⟨-, name, impossible, -⟩
          cases impossible
      | cons name rest =>
          rw [PosixPaths.rendered, if_neg (List.cons_ne_nil _ _),
            PosixPaths.slashIf, if_neg Bool.false_ne_true, List.append_nil]
          cases rest with
          | nil =>
              rw [List.intercalate_singleton]
              constructor
              · exact fun blank => ⟨rfl, name, rfl, blank⟩
              · rintro ⟨-, other, same, blank⟩
                rw [(List.cons.inj same).1]
                exact blank
          | cons next others =>
              have inside :
                  '/' ∈ ['/'].intercalate (name :: next :: others) := by
                rw [List.intercalate_cons_cons]
                simp
              rw [isBlank_of_slash inside]
              refine iff_of_false Bool.false_ne_true ?_
              rintro ⟨-, other, same, -⟩
              cases same

theorem isBlank_normalizedName
    {entry : ZipEntry}
    (wellNamed : WellNamed entry) :
    isBlank (normalizedName entry) = true ↔ BlankName entry := by
  rw [normalizedName, wellNamed.text]
  exact isBlank_rendered wellNamed.plain

/-! ## Where a name leads -/

section Joining

variable {cwd extractDir : List Char}
variable {entry : ZipEntry}

/-- The target of an entry, and when it is refused. -/
theorem safeJoinText_normalizedName
    (absolute : PosixPaths.isAbsolute cwd = true)
    (wellNamed : WellNamed entry) :
    safeJoinText cwd extractDir (normalizedName entry) =
      if resolveText cwd [extractDir] = ['/'] ∧ entryPath entry ≠ [] then
        .error ("unsafe extraction target: " ++ normalizedName entry)
      else
        .ok (absoluteText
          (resolvedNames cwd [extractDir] ++ entryPath entry)) := by
  have plainRoot := PosixPaths.plain_resolvedNames cwd [extractDir]
  have text := normalText_of_wellNamed wellNamed
  have target :
      resolveText cwd
          [absoluteText (resolvedNames cwd [extractDir]),
            (normalizedName entry).toList] =
        absoluteText (resolvedNames cwd [extractDir] ++ entryPath entry) := by
    rw [PosixPaths.resolveText_eq absolute,
      PosixPaths.resolvedNames_below plainRoot text.relative text.nonempty,
      toList_normalizedName, wellNamed.text,
      PosixPaths.resolve_rendered wellNamed.plain]
  rw [safeJoinText, PosixPaths.resolveText_eq absolute [extractDir], target]
  generalize resolvedNames cwd [extractDir] = root at plainRoot
  have plain : ∀ name ∈ root ++ entryPath entry, Plain name := by
    intro name member
    rcases List.mem_append.mp member with inRoot | below
    · exact plainRoot name inRoot
    · exact wellNamed.plain name below
  have atRoot : absoluteText root = ['/'] ↔ root = [] := by
    constructor
    · intro same
      by_contra named
      exact PosixPaths.intercalate_ne_nil plainRoot named
        (List.cons.inj same).2
    · rintro rfl
      rfl
  have itself :
      absoluteText (root ++ entryPath entry) = absoluteText root ↔
        entryPath entry = [] := by
    constructor
    · intro same
      exact List.append_right_eq_self.mp
        (PosixPaths.absoluteText_inj plain plainRoot same)
    · intro empty
      rw [empty, List.append_nil]
  refine if_congr ?_ rfl rfl
  constructor
  · rintro ⟨different, outside⟩
    have nonempty : entryPath entry ≠ [] := mt itself.mpr different
    refine ⟨atRoot.mpr ?_, nonempty⟩
    by_contra notRoot
    exact outside ((PosixPaths.slash_prefix_absoluteText plain).mpr
      ⟨notRoot, nonempty⟩)
  · rintro ⟨isRoot, nonempty⟩
    refine ⟨mt itself.mp nonempty, fun inside => ?_⟩
    exact ((PosixPaths.slash_prefix_absoluteText plain).mp inside).1
      (atRoot.mp isRoot)

/-- Anywhere but at the root, texts and names say the same. -/
theorem safeJoinText_eq_safeJoin
    (absolute : PosixPaths.isAbsolute cwd = true)
    (wellNamed : WellNamed entry)
    (notRoot : resolveText cwd [extractDir] ≠ ['/'])
    {path : Path} :
    safeJoin (resolvedNames cwd [extractDir]) (normalizedName entry) =
        .ok path →
      safeJoinText cwd extractDir (normalizedName entry) =
        .ok (absoluteText path) := by
  intro joined
  rw [safeJoin_normalizedName wellNamed] at joined
  cases joined
  rw [safeJoinText_normalizedName absolute wellNamed,
    if_neg (fun atRoot => notRoot atRoot.1)]

end Joining

/-! ## The calls of a whole extraction -/

theorem mem_callAll
    {answers : FileAnswers}
    {made calls : List FileCall}
    {call : FileCall}
    (member : call ∈ (callAll answers made calls).1) :
    call ∈ made ∨ call ∈ calls := by
  induction calls generalizing made with
  | nil =>
      exact .inl member
  | cons next rest inductionHypothesis =>
      rw [callAll] at member
      have known : call ∈ made ++ [next] → call ∈ made ∨ call ∈ next :: rest := by
        intro earlier
        rcases List.mem_append.mp earlier with before | now
        · exact .inl before
        · rw [List.mem_singleton.mp now]
          exact .inr List.mem_cons_self
      split at member
      · rcases inductionHypothesis member with earlier | later
        · exact known earlier
        · exact .inr (List.mem_cons_of_mem _ later)
      · exact known member

/-- A call unpacks an accepted entry at the target that was joined for it. -/
theorem mem_extractCalls
    {cwd extractDir : List Char}
    {limits : ExtractionLimits}
    {answers : FileAnswers}
    {entries : List ZipEntry}
    {fileCount uncompressedBytes : Nat}
    {made : List FileCall}
    {call : FileCall}
    (member :
      call ∈ extractCalls cwd extractDir limits answers entries fileCount
        uncompressedBytes made) :
    call ∈ made ∨
      ∃ entry ∈ entries, ∃ name targetPath,
        validateZipEntryPolicy entry = .ok name ∧
          safeJoinText cwd extractDir name = .ok targetPath ∧
          call ∈ entryCalls targetPath entry := by
  induction entries generalizing fileCount uncompressedBytes made with
  | nil =>
      exact .inl member
  | cons entry rest inductionHypothesis =>
      rw [extractCalls] at member
      split at member
      · exact .inl member
      · rename_i name policy
        dsimp only at member
        split at member
        · exact .inl member
        · split at member
          · exact .inl member
          · split at member
            · exact .inl member
            · rename_i targetPath joined
              have known :
                  call ∈ (callAll answers made
                      (entryCalls targetPath entry)).1 →
                    call ∈ made ∨
                      ∃ other ∈ entry :: rest, ∃ name targetPath,
                        validateZipEntryPolicy other = .ok name ∧
                          safeJoinText cwd extractDir name =
                            .ok targetPath ∧
                          call ∈ entryCalls targetPath other := by
                intro called
                rcases mem_callAll called with before | now
                · exact .inl before
                · exact .inr ⟨entry, List.mem_cons_self, name, targetPath,
                    policy, joined, now⟩
              split at member
              · rcases inductionHypothesis member with
                  called | ⟨other, inRest, later⟩
                · exact known called
                · exact .inr ⟨other, List.mem_cons_of_mem _ inRest, later⟩
              · exact known member

/-! ## Confinement -/

/-- The path stands in the directory, below which no name on it is denied. -/
structure Within
    (cwd extractDir : List Char)
    (path : List Char)
    (names : List Segment) :
    Prop where
  text : path = absoluteText (resolvedNames cwd [extractDir] ++ names)
  allowed : ∀ name ∈ names, AllowedName name

/-- What the name of an accepted entry is worth. -/
structure NameConfined
    (cwd extractDir : List Char)
    (entry : ZipEntry)
    (name : String) :
    Prop where
  joins :
    ∃ targetPath names,
      safeJoinText cwd extractDir name = .ok targetPath ∧
        Within cwd extractDir targetPath names ∧
        (names = [] → isZipEntryDirectory entry.fileName = true)
  relative : PosixPaths.isAbsolute name.toList = false
  noBackslash : '\\' ∉ name.toList
  normal : normalizeZipRelativePath name "zip entry" = .ok name

/-- What an extraction of the entries may do, whatever the file system does. -/
structure ExtractionConfined
    (cwd extractDir : List Char)
    (entries : List ZipEntry) :
    Prop where
  names :
    ∀ entry ∈ entries,
      ∀ name,
        validateZipEntryPolicy entry = .ok name →
        NameConfined cwd extractDir entry name
  created :
    ∀ limits answers,
      ∀ call ∈ extractCalls cwd extractDir limits answers entries 0 0 [],
        ∀ path ∈ call.path?,
          ∃ names,
            Within cwd extractDir path names ∧
              (call = .write path → names ≠ [])

section Confinement

variable {cwd extractDir : List Char}
variable {entry : ZipEntry}

theorem nameConfined_iff
    {name : String}
    (absolute : PosixPaths.isAbsolute cwd = true)
    (passed : validateZipEntryPolicy entry = .ok name) :
    NameConfined cwd extractDir entry name ↔
      ¬ BlankName entry ∧
        (resolveText cwd [extractDir] = ['/'] → entryPath entry = []) := by
  obtain ⟨rfl, wellNamed⟩ := wellNamed_of_policy passed
  have joined :
      safeJoinText cwd extractDir (normalizedName entry) =
        if resolveText cwd [extractDir] = ['/'] ∧ entryPath entry ≠ [] then
          .error ("unsafe extraction target: " ++ normalizedName entry)
        else
          .ok (absoluteText
            (resolvedNames cwd [extractDir] ++ entryPath entry)) :=
    safeJoinText_normalizedName absolute wellNamed
  have normal :
      normalizeZipRelativePath (normalizedName entry) "zip entry" =
          .ok (normalizedName entry) ↔
        ¬ BlankName entry := by
    rw [normalizeZipRelativePath_normalizedName wellNamed,
      and_iff_left rfl, ← isBlank_normalizedName wellNamed,
      Bool.not_eq_true]
  constructor
  · intro confined
    refine ⟨normal.mp confined.normal, fun isRoot => ?_⟩
    by_contra nonempty
    obtain ⟨targetPath, names, joins, -⟩ := confined.joins
    rw [joined, if_pos ⟨isRoot, nonempty⟩] at joins
    cases joins
  · rintro ⟨notBlank, atRoot⟩
    have text := normalText_of_wellNamed wellNamed
    rw [if_neg (fun refused => refused.2 (atRoot refused.1))] at joined
    exact ⟨⟨_, entryPath entry, joined, ⟨rfl, allowed_of_policy passed⟩,
      wellNamed.inside⟩, text.relative, text.noBackslash,
      normal.mpr notBlank⟩

/-- The calls that unpack an accepted entry stay in the directory. -/
theorem within_of_entryCalls
    {name : String}
    {targetPath path : List Char}
    {call : FileCall}
    (absolute : PosixPaths.isAbsolute cwd = true)
    (passed : validateZipEntryPolicy entry = .ok name)
    (joined : safeJoinText cwd extractDir name = .ok targetPath)
    (member : call ∈ entryCalls targetPath entry)
    (creates : path ∈ call.path?) :
    ∃ names,
      Within cwd extractDir path names ∧
        (call = .write path → names ≠ []) := by
  have allowed := allowed_of_policy passed
  obtain ⟨rfl, wellNamed⟩ := wellNamed_of_policy passed
  rw [safeJoinText_normalizedName absolute wellNamed] at joined
  split at joined
  · cases joined
  · cases joined
    unfold entryCalls at member
    split at member
    · rw [List.mem_singleton.mp member] at creates ⊢
      cases creates
      exact ⟨entryPath entry, ⟨rfl, allowed⟩, nofun⟩
    · rename_i file
      rw [Bool.not_eq_true] at file
      have nonempty := wellNamed.nonempty file
      obtain ⟨above, last, shape⟩ :=
        (List.eq_nil_or_concat' (entryPath entry)).resolve_left nonempty
      have directory :
          PosixPaths.dirname
              (absoluteText
                (resolvedNames cwd [extractDir] ++ entryPath entry)) =
            absoluteText (resolvedNames cwd [extractDir] ++ above) := by
        rw [shape, ← List.append_assoc]
        refine PosixPaths.dirname_absoluteText fun name inPath => ?_
        rw [List.append_assoc, ← shape] at inPath
        rcases List.mem_append.mp inPath with inRoot | below
        · exact PosixPaths.plain_resolvedNames _ _ name inRoot
        · exact wellNamed.plain name below
      have allowedAbove : ∀ name ∈ above, AllowedName name := by
        intro name inAbove
        refine allowed name ?_
        rw [shape]
        exact List.mem_append_left _ inAbove
      rw [directory] at member
      simp only [List.mem_cons, List.not_mem_nil, or_false] at member
      rcases member with rfl | rfl | rfl
      · cases creates
      · cases creates
        exact ⟨above, ⟨rfl, allowedAbove⟩, nofun⟩
      · cases creates
        exact ⟨entryPath entry, ⟨rfl, allowed⟩, fun _ => nonempty⟩

/--
Extracted entries and their names are confined, if and only if no accepted name
leads to a single blank one, and none leads anywhere from the root.
-/
theorem extraction_confined_iff
    {entries : List ZipEntry}
    (absolute : PosixPaths.isAbsolute cwd = true) :
    ExtractionConfined cwd extractDir entries ↔
      ∀ entry ∈ entries,
        (∃ name, validateZipEntryPolicy entry = .ok name) →
        ¬ BlankName entry ∧
          (resolveText cwd [extractDir] = ['/'] → entryPath entry = []) := by
  constructor
  · rintro confined entry member ⟨name, passed⟩
    exact (nameConfined_iff absolute passed).mp
      (confined.names entry member name passed)
  · intro condition
    refine ⟨fun entry member name passed => (nameConfined_iff absolute
      passed).mpr (condition entry member ⟨name, passed⟩), ?_⟩
    intro limits answers call made path creates
    rcases mem_extractCalls made with nothing |
      ⟨entry, -, name, targetPath, passed, joined, member⟩
    · cases nothing
    · exact within_of_entryCalls absolute passed joined member creates

end Confinement

/-- A name that is not blank, but leads to one that is. -/
def blankEntry : ZipEntry :=
  ⟨"./ ", 0, []⟩

/-- The name is accepted and normalised to one that is refused. -/
theorem blankEntry_not_confined :
    ¬ ∀ cwd extractDir entries,
      PosixPaths.isAbsolute cwd = true →
      ExtractionConfined cwd extractDir entries := by
  intro confined
  have name : validateZipEntryPolicy blankEntry = .ok " " := by decide
  have again :=
    ((confined "/app".toList "/tmp/iga-job-1".toList [blankEntry]
      (by decide)).names blankEntry (List.mem_singleton.mpr rfl) " " name
      ).normal
  exact absurd again (by decide)

/-- A name that begins with a dot is unpacked where it leads. -/
def detourEntry : ZipEntry :=
  ⟨"./index.js", 0, []⟩

theorem extraction_confined_detourEntry :
    ExtractionConfined "/app".toList "/tmp/iga-job-1".toList
      [detourEntry] := by
  refine (extraction_confined_iff (by decide)).mpr ?_
  intro entry member _
  have path : entryPath detourEntry = ["index.js".toList] := by decide
  rw [List.mem_singleton.mp member]
  refine ⟨?_, fun atRoot => absurd atRoot (by decide)⟩
  rintro ⟨-, name, single, blank⟩
  rw [path] at single
  rw [← (List.cons.inj single).1] at blank
  exact absurd blank (by decide)

end IgaScheduler.ZipArtifacts

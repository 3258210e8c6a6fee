import IgaScheduler.ZipConfinement

namespace IgaScheduler.ZipArtifacts

/-!
# The entrypoints that archives have

Whatever is in an archive, the extraction ends well only for an entrypoint that
one of its entries can bear.  For every path of such names there is an archive
with which it does.
-/

open FileTrees (AsDirectory Fits Item Node)
open JavaScript (bind_eq_ok)
open PosixPaths (Plain Segment rendered)

/-! ## What an archive leaves behind -/

/-- An entry that the extraction accepts, in terms of its path and item. -/
theorem extractEntry_unpacks
    {extractDir : Path}
    {progress next : Progress}
    {entry : ZipEntry} :
    extractEntry extractDir progress entry = .ok next ↔
      validateZipEntryPolicy entry = .ok (normalizedName entry) ∧
        progress.fileCount + countedFiles entry ≤ maxFileCount ∧
        progress.uncompressedBytes + entry.uncompressedSize ≤
          maxUncompressedBytes ∧
        hasNull (extractDir ++ entryPath entry) = false ∧
        ∃ files,
          FileTrees.put progress.files (entryItem extractDir entry) =
              some files ∧
            next =
              { files
                fileCount := progress.fileCount + countedFiles entry
                uncompressedBytes :=
                  progress.uncompressedBytes + entry.uncompressedSize } := by
  constructor
  · intro extracted
    unfold extractEntry at extracted
    cases policy : validateZipEntryPolicy entry with
    | error message =>
        rw [policy] at extracted
        cases extracted
    | ok name =>
        obtain ⟨rfl, wellNamed⟩ := wellNamed_of_policy policy
        rw [policy] at extracted
        dsimp only at extracted
        split at extracted
        · cases extracted
        · rename_i fewFiles
          split at extracted
          · cases extracted
          · rename_i fewBytes
            rw [safeJoin_normalizedName wellNamed] at extracted
            obtain ⟨target, joined, rest⟩ := bind_eq_ok.mp extracted
            cases joined
            obtain ⟨files, unpacked, finished⟩ := bind_eq_ok.mp rest
            cases finished
            obtain ⟨noNull, put⟩ := unpackEntry_eq_ok.mp unpacked
            exact ⟨rfl, Nat.le_of_not_lt fewFiles,
              Nat.le_of_not_lt fewBytes, noNull, files, put, rfl⟩
  · rintro ⟨policy, fewFiles, fewBytes, noNull, files, put, rfl⟩
    obtain ⟨-, wellNamed⟩ := wellNamed_of_policy policy
    rw [extractEntry, policy]
    dsimp only
    rw [if_neg (Nat.not_lt.mpr fewFiles), if_neg (Nat.not_lt.mpr fewBytes),
      safeJoin_normalizedName wellNamed]
    exact bind_eq_ok.mpr ⟨_, rfl,
      bind_eq_ok.mpr ⟨files, unpackEntry_eq_ok.mpr ⟨noNull, put⟩, rfl⟩⟩

/-- The extraction of all entries puts their items into the tree. -/
theorem unpack_of_extract
    {entries : List ZipEntry}
    {extractDir : Path}
    {progress result : Progress}
    (ran :
      entries.foldlM (extractEntry extractDir) progress = .ok result) :
    (∀ entry ∈ entries,
        validateZipEntryPolicy entry = .ok (normalizedName entry)) ∧
      FileTrees.unpack progress.files (entries.map (entryItem extractDir)) =
        some result.files := by
  induction entries generalizing progress with
  | nil =>
      cases ran
      exact ⟨by simp, rfl⟩
  | cons entry rest inductionHypothesis =>
      rw [List.foldlM_cons, bind_eq_ok] at ran
      obtain ⟨next, first, others⟩ := ran
      obtain ⟨policy, -, -, -, files, put, rfl⟩ :=
        extractEntry_unpacks.mp first
      obtain ⟨policies, unpacked⟩ := inductionHypothesis others
      refine ⟨List.forall_mem_cons.mpr ⟨policy, policies⟩, ?_⟩
      rw [List.map_cons, FileTrees.unpack_cons]
      exact ⟨files, put, unpacked⟩

/-- Below a new directory, a file is where an accepted entry has put it. -/
theorem entry_of_isFile
    {entries : List ZipEntry}
    {created : TemporaryDirectory}
    {progress result : Progress}
    (fresh : progress.files = created.files)
    (ran :
      entries.foldlM (extractEntry created.path) progress = .ok result)
    {names : Path}
    (isFile : Node.isFile (result.files (created.path ++ names)) = true) :
    ∃ entry ∈ entries,
      validateZipEntryPolicy entry = .ok (normalizedName entry) ∧
        isZipEntryDirectory entry.fileName = false ∧
        entryPath entry = names := by
  obtain ⟨policies, unpacked⟩ := unpack_of_extract ran
  rw [fresh, FileTrees.unpack_eq_some] at unpacked
  obtain ⟨-, tree⟩ := unpacked
  rw [tree, FileTrees.overlay] at isFile
  split at isFile
  · cases isFile
  · cases content :
        FileTrees.contentAt (entries.map (entryItem created.path))
          (created.path ++ names) with
    | none =>
        rw [content, Option.map_none, Option.none_or,
          not_isFile_created created (List.prefix_refl _)] at isFile
        cases isFile
    | some bytes =>
        obtain ⟨given, member⟩ := FileTrees.contentAt_isSome.mp
          (Option.isSome_iff_exists.mpr ⟨bytes, content⟩)
        obtain ⟨entry, listed, notDirectory, same, -⟩ :=
          file_mem_entryItems.mp member
        exact ⟨entry, listed, policies entry listed, notDirectory,
          List.append_cancel_left same⟩

/-! ## The text of an entrypoint as the name of an entry -/

/-- `-rw-r--r--`, as the upper half of the attributes. -/
def regularMode : UInt32 := 0x81a40000

/-- An empty entry of this name, with the mode of a regular file. -/
def emptyEntry (text : List Char) : ZipEntry where
  fileName := String.ofList text
  externalFileAttributes := regularMode
  content := []

section Rendered

variable {names : Path} {slash : Bool}
variable (plain : ∀ name ∈ names, Plain name)
include plain

theorem entryPath_emptyEntry :
    entryPath (emptyEntry (rendered names slash)) = names := by
  rw [entryPath, emptyEntry, String.toList_ofList,
    PosixPaths.normalize_rendered plain, PosixPaths.resolve_rendered plain,
    List.nil_append]

theorem normalizedName_emptyEntry :
    normalizedName (emptyEntry (rendered names slash)) =
      String.ofList (rendered names slash) := by
  rw [normalizedName, emptyEntry, String.toList_ofList,
    PosixPaths.normalize_rendered plain]

theorem wellNamed_emptyEntry
    (noBackslash : '\\' ∉ rendered names slash)
    (inside : ¬ PosixPaths.Escapes (rendered names slash)) :
    WellNamed (emptyEntry (rendered names slash)) where
  plain := by
    rw [entryPath_emptyEntry plain]
    exact plain
  inside := by
    rw [entryPath_emptyEntry plain, isZipEntryDirectory, emptyEntry,
      String.toList_ofList, PosixPaths.endsInSlash_rendered plain]
    rintro rfl
    by_contra noSlash
    rw [Bool.not_eq_true] at noSlash
    rw [noSlash] at inside
    exact inside (.inl rfl)
  text := by
    rw [entryPath_emptyEntry plain, isZipEntryDirectory, emptyEntry,
      String.toList_ofList, PosixPaths.endsInSlash_rendered plain,
      PosixPaths.normalize_rendered plain]
  noBackslash := by
    rw [emptyEntry, String.toList_ofList,
      PosixPaths.normalize_rendered plain]
    exact noBackslash
  notEscaping := by
    rw [emptyEntry, String.toList_ofList,
      PosixPaths.normalize_rendered plain]
    exact inside

end Rendered

/-! ## An archive with one file -/

/-- Names that an entry can bear. -/
structure BearableName (name : Segment) : Prop extends AllowedName name where
  noBackslash : '\\' ∉ name
  noNull : '\x00' ∉ name

/-- The file of an archive, named from `./` so that no name is blank. -/
def fileEntry (names : Path) : ZipEntry :=
  emptyEntry ('.' :: '/' :: rendered names false)

/-- The archive of one file: two headers with its name, and the end record. -/
def archiveOf (names : Path) : ZipBuffer where
  length := 98 + 2 * (fileEntry names).fileName.utf8ByteSize
  opened := .ok [fileEntry names]

section Bearable

variable {names : Path}
variable (bearable : ∀ name ∈ names, BearableName name)
include bearable

theorem normalize_fileEntry :
    PosixPaths.normalize (fileEntry names).fileName.toList =
      rendered names false := by
  rw [fileEntry, emptyEntry, String.toList_ofList]
  exact PosixPaths.normalize_here fun name member =>
    (bearable name member).toPlain

theorem entryPath_fileEntry : entryPath (fileEntry names) = names := by
  rw [entryPath, normalize_fileEntry bearable,
    PosixPaths.resolve_rendered fun name member =>
      (bearable name member).toPlain,
    List.nil_append]

theorem hasNull_below
    (created : TemporaryDirectory) :
    hasNull (created.path ++ names) = false := by
  have root := created.noNull
  unfold hasNull at root ⊢
  rw [List.any_append, root, Bool.false_or, List.any_eq_false]
  intro name member
  simpa using (bearable name member).noNull

variable (nonempty : names ≠ [])
include nonempty

theorem policy_fileEntry :
    validateZipEntryPolicy (fileEntry names) =
      .ok (normalizedName (fileEntry names)) := by
  have plain : ∀ name ∈ names, Plain name := fun name member =>
    (bearable name member).toPlain
  have normal := normalize_fileEntry bearable
  have letters :
      (fileEntry names).fileName.toList =
        '.' :: '/' :: rendered names false :=
    String.toList_ofList
  have accepted :
      normalizeZipRelativePath (fileEntry names).fileName "zip entry" =
        .ok (normalizedName (fileEntry names)) := by
    rw [normalizeZipRelativePath_eq_ok]
    refine ⟨?_, ?_, ?_, ?_, rfl⟩
    · exact isBlank_of_slash (by simp)
    · rw [letters, List.mem_cons, List.mem_cons, not_or, not_or]
      refine ⟨by decide, by decide, ?_⟩
      rw [PosixPaths.mem_rendered (by decide) (by decide)]
      rintro ⟨name, member, inside⟩
      exact (bearable name member).noBackslash inside
    · rw [letters]
      rfl
    · rw [normal]
      exact PosixPaths.not_escapes_rendered plain nonempty
  have notDenied :
      isDeniedPath (normalizedName (fileEntry names)) = false := by
    rw [isDeniedPath, normalizedName, normal, String.toList_ofList,
      PosixPaths.splitOn_rendered plain, if_neg nonempty]
    apply List.any_eq_false.mpr
    intro part listed
    obtain ⟨member, -⟩ := List.mem_filter.mp listed
    rw [if_neg Bool.false_ne_true, List.append_nil] at member
    rw [Bool.or_eq_true, List.contains_iff_mem, List.contains_iff_mem,
      not_or]
    exact ⟨(bearable part member).notDeniedFile,
      (bearable part member).notDeniedDirectory⟩
  have regular :
      regularMode >>> 16 &&& 0o170000 ≠ 0o120000 ∧
        regularMode >>> 16 &&& 0o170000 ≠ 0 := by
    decide
  have notSymlink : isZipEntrySymlink (fileEntry names) = false := by
    unfold isZipEntrySymlink
    dsimp only [fileEntry, emptyEntry]
    rw [if_neg regular.1, decide_eq_false regular.2, Bool.false_and,
      Bool.false_and]
  rw [validateZipEntryPolicy, accepted]
  dsimp only
  rw [notDenied, notSymlink]
  rfl

theorem isZipEntryDirectory_fileEntry :
    isZipEntryDirectory (fileEntry names).fileName = false := by
  have wellNamed :=
    (wellNamed_of_policy (policy_fileEntry bearable nonempty)).2
  have text := wellNamed.text
  rw [normalize_fileEntry bearable,
    entryPath_fileEntry bearable] at text
  have ends := congrArg PosixPaths.endsInSlash text
  rw [PosixPaths.endsInSlash_rendered fun name member =>
      (bearable name member).toPlain,
    PosixPaths.endsInSlash_rendered fun name member =>
      (bearable name member).toPlain] at ends
  exact ends.symm

/-- The one file of the archive stands where its names lead. -/
theorem extract_archiveOf
    (created : TemporaryDirectory) :
    ∃ result,
      extractZipEntries (archiveOf names) created.path created.files =
          .ok result ∧
        Node.isFile (result.files (created.path ++ names)) = true := by
  have policy := policy_fileEntry bearable nonempty
  obtain ⟨-, wellNamed⟩ := wellNamed_of_policy policy
  have path := entryPath_fileEntry bearable
  have notDirectory := isZipEntryDirectory_fileEntry bearable nonempty
  have named : ∀ entry ∈ [fileEntry names], WellNamed entry := by
    intro entry member
    rw [List.mem_singleton.mp member]
    exact wellNamed
  have fit : PathsFit [fileEntry names] := by
    intro file fileMember _ other otherMember _
    rw [List.mem_singleton.mp fileMember, List.mem_singleton.mp otherMember]
    exact ⟨notDirectory, rfl⟩
  have fits := (fits_iff named created).mpr fit
  have unpacked := FileTrees.unpack_eq_some.mpr
    ⟨fits, rfl⟩
  rw [List.map_singleton, FileTrees.unpack_cons] at unpacked
  obtain ⟨files, put, rest⟩ := unpacked
  have final := Option.some.inj rest
  obtain ⟨last, -, written⟩ := overlay_lastNamed named
    (List.mem_singleton_self _) notDirectory fits
  have counted : countedFiles (fileEntry names) = 1 := by
    rw [countedFiles, notDirectory]
    rfl
  have extracted :
      extractEntry created.path ⟨created.files, 0, 0⟩ (fileEntry names) =
        .ok ⟨files, 0 + countedFiles (fileEntry names), 0 + 0⟩ := by
    refine extractEntry_unpacks.mpr
      ⟨policy, ?_, Nat.zero_le _, ?_, files, put, rfl⟩
    · rw [counted]
      exact (by decide : 0 + 1 ≤ maxFileCount)
    · rw [path]
      exact hasNull_below bearable created
  refine ⟨_, bind_eq_ok.mpr ⟨_, extracted, rfl⟩, ?_⟩
  rw [path] at written
  rw [final]
  exact congrArg Node.isFile written

/-- The archive is extracted, whether or not its entrypoint ends in a slash. -/
theorem safeZipExtract_archiveOf
    {slash : Bool}
    (notBlank :
      isBlank (String.ofList (rendered names slash)) = false)
    (created : TemporaryDirectory) :
    ∃ extracted,
      safeZipExtract (archiveOf names)
          (String.ofList (rendered names slash)) created =
        .ok extracted := by
  have plain : ∀ name ∈ names, Plain name := fun name member =>
    (bearable name member).toPlain
  have noBackslash : '\\' ∉ rendered names slash := by
    rw [PosixPaths.mem_rendered (by decide) (by decide)]
    rintro ⟨name, member, inside⟩
    exact (bearable name member).noBackslash inside
  have wellNamed := wellNamed_emptyEntry plain noBackslash
    (PosixPaths.not_escapes_rendered plain nonempty)
  obtain ⟨result, ran, isFile⟩ :=
    extract_archiveOf bearable nonempty created
  rw [← normalizedName_emptyEntry plain] at notBlank ⊢
  have path := @entryPath_emptyEntry _ slash plain
  refine ⟨_, (safeZipExtract_eq_ok wellNamed).mpr
    ⟨?_, notBlank, result, ran, ?_, ?_, rfl⟩⟩
  · exact Nat.ne_of_gt (Nat.lt_of_lt_of_le (by decide)
      (Nat.le_add_right 98 _))
  · rw [path]
    exact hasNull_below bearable created
  · rw [path]
    exact isFile

end Bearable

/-- Some archive is extracted with this entrypoint. -/
def Satisfiable (entrypoint : String) : Prop :=
  ∃ buffer created extracted,
    safeZipExtract buffer entrypoint created = .ok extracted

/--
The text of a path that stays inside is satisfiable when it is not blank and
leads to a file whose names entries can bear.
-/
theorem satisfiable_iff
    {names : Path}
    {slash : Bool}
    (plain : ∀ name ∈ names, Plain name)
    (noBackslash : '\\' ∉ rendered names slash)
    (inside : ¬ PosixPaths.Escapes (rendered names slash)) :
    Satisfiable (String.ofList (rendered names slash)) ↔
      isBlank (String.ofList (rendered names slash)) = false ∧
        names ≠ [] ∧ ∀ name ∈ names, BearableName name := by
  constructor
  · rintro ⟨buffer, created, extracted, succeeded⟩
    have wellNamed := wellNamed_emptyEntry plain noBackslash inside
    rw [← normalizedName_emptyEntry plain] at succeeded ⊢
    obtain ⟨-, notBlank, result, ran, noNull, isFile, -⟩ :=
      (safeZipExtract_eq_ok wellNamed).mp succeeded
    rw [entryPath_emptyEntry plain] at noNull isFile
    unfold extractZipEntries at ran
    split at ran
    · cases ran
    · obtain ⟨entry, -, policy, notDirectory, path⟩ :=
        entry_of_isFile rfl ran isFile
      obtain ⟨-, named⟩ := wellNamed_of_policy policy
      have allowed := allowed_of_policy policy
      have nonempty := named.nonempty notDirectory
      rw [path] at allowed nonempty
      refine ⟨notBlank, nonempty, fun name member =>
        ⟨allowed name member, ?_, ?_⟩⟩
      · intro inName
        exact noBackslash ((PosixPaths.mem_rendered (by decide)
          (by decide)).mpr ⟨name, member, inName⟩)
      · have clean := List.any_eq_false.mp noNull name
          (List.mem_append_right _ member)
        simpa using clean
  · rintro ⟨notBlank, nonempty, bearable⟩
    exact ⟨_, emptyTemporaryDirectory,
      safeZipExtract_archiveOf bearable nonempty notBlank
        emptyTemporaryDirectory⟩

end IgaScheduler.ZipArtifacts

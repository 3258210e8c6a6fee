import IgaScheduler.ZipArtifacts

namespace IgaScheduler.ZipArtifacts

/-!
# Validated archives and their extraction

The walk of the validation and the walk of the extraction count alike and
refuse the same names.  What only the extraction can refuse is a path: one with
a null character, or one that would have to be a file and a directory at once.
-/

open ExecutionMetadata (strictEquals)
open JavaScript (bind_eq_ok)
open FileTrees (AsDirectory Fits Item Node)
open PosixPaths (Escapes Plain Segment)

/-! ## The names of entries -/

/-- The name that both walks go on with. -/
def normalizedName (entry : ZipEntry) : String :=
  String.ofList (PosixPaths.normalize entry.fileName.toList)

/-- Where the entry belongs, seen from the directory of the extraction. -/
def entryPath (entry : ZipEntry) : Path :=
  PosixPaths.resolve [] (PosixPaths.normalize entry.fileName.toList)

/-- What the entry puts below that directory. -/
def entryItem
    (extractDir : Path)
    (entry : ZipEntry) :
    Item Segment (List UInt8) :=
  if isZipEntryDirectory entry.fileName then
    .directory (extractDir ++ entryPath entry)
  else
    .file (extractDir ++ entryPath entry) entry.content

theorem normalizeZipRelativePath_eq_ok
    {value label normalized : String} :
    normalizeZipRelativePath value label = .ok normalized ↔
      isBlank value = false ∧
        '\\' ∉ value.toList ∧
        PosixPaths.isAbsolute value.toList = false ∧
        ¬ Escapes (PosixPaths.normalize value.toList) ∧
        normalized = String.ofList (PosixPaths.normalize value.toList) := by
  unfold normalizeZipRelativePath
  by_cases blank : isBlank value
  · simp [blank]
  · by_cases backslash : '\\' ∈ value.toList
    · simp [backslash]
    · by_cases absolute : PosixPaths.isAbsolute value.toList
      · simp [absolute]
      · by_cases outside : Escapes (PosixPaths.normalize value.toList)
        · simp [outside]
        · simp [blank, backslash, absolute, outside, eq_comm]

theorem validateZipEntryPolicy_eq_ok
    {entry : ZipEntry}
    {name : String}
    (passed : validateZipEntryPolicy entry = .ok name) :
    normalizeZipRelativePath entry.fileName "zip entry" = .ok name := by
  unfold validateZipEntryPolicy at passed
  cases normal : normalizeZipRelativePath entry.fileName "zip entry" with
  | error message =>
      rw [normal] at passed
      cases passed
  | ok normalized =>
      rw [normal] at passed
      dsimp only at passed
      split at passed
      · cases passed
      · split at passed
        · cases passed
        · exact passed

/-- An entry whose normal name is the text of a path inside the archive. -/
structure WellNamed (entry : ZipEntry) : Prop where
  plain : ∀ name ∈ entryPath entry, Plain name
  inside : entryPath entry = [] → isZipEntryDirectory entry.fileName = true
  text : PosixPaths.normalize entry.fileName.toList =
    PosixPaths.rendered (entryPath entry) (isZipEntryDirectory entry.fileName)
  noBackslash : '\\' ∉ PosixPaths.normalize entry.fileName.toList
  notEscaping : ¬ Escapes (PosixPaths.normalize entry.fileName.toList)

theorem wellNamed_of_policy
    {entry : ZipEntry}
    {name : String}
    (passed : validateZipEntryPolicy entry = .ok name) :
    name = normalizedName entry ∧ WellNamed entry := by
  obtain ⟨blank, backslash, relative, notEscaping, rfl⟩ :=
    normalizeZipRelativePath_eq_ok.mp (validateZipEntryPolicy_eq_ok passed)
  have nonempty : entry.fileName.toList ≠ [] := by
    intro empty
    rw [isBlank, empty] at blank
    cases blank
  obtain ⟨names, plain, inside, text⟩ :=
    PosixPaths.normalize_inside nonempty relative notEscaping
  have path : entryPath entry = names := by
    rw [entryPath, text, PosixPaths.resolve_rendered plain, List.nil_append]
  refine ⟨rfl, ?_⟩
  rw [← path] at plain inside text
  refine ⟨plain, inside, text, ?_, notEscaping⟩
  intro member
  exact backslash (PosixPaths.mem_of_mem_normalize nonempty relative
    (by decide) (by decide) member)

/-- Below a root the entry goes to its own path. -/
theorem safeJoin_normalizedName
    {entry : ZipEntry}
    (wellNamed : WellNamed entry)
    (root : Path) :
    safeJoin root (normalizedName entry) = .ok (root ++ entryPath entry) := by
  have target :
      PosixPaths.resolve root (normalizedName entry).toList =
        root ++ entryPath entry := by
    rw [normalizedName, String.toList_ofList, wellNamed.text,
      PosixPaths.resolve_rendered wellNamed.plain]
  rw [safeJoin, target]
  exact if_pos (List.prefix_append _ _)

/-! ## One entry in each walk -/

section Walks

variable {parse : List UInt8 → Except String Json}
variable {entrypoint : Option Json}

/-- What an entry that passes the validation adds to the scan. -/
structure Scanned
    (entrypoint : Option Json)
    (scan : Scan)
    (entry : ZipEntry)
    (next : Scan) :
    Prop where
  policy : validateZipEntryPolicy entry = .ok (normalizedName entry)
  wellNamed : WellNamed entry
  fileCount : next.fileCount = scan.fileCount + countedFiles entry
  uncompressedBytes : next.uncompressedBytes =
    scan.uncompressedBytes + entry.uncompressedSize
  fewFiles : next.fileCount ≤ maxFileCount
  fewBytes : next.uncompressedBytes ≤ maxUncompressedBytes
  hasEntrypoint : next.hasEntrypoint =
    (scan.hasEntrypoint ||
      strictEquals (some (.str (normalizedName entry))) entrypoint)

theorem scanned_of_validateEntry
    {scan next : Scan}
    {entry : ZipEntry}
    (passed : validateEntry parse entrypoint scan entry = .ok next) :
    Scanned entrypoint scan entry next := by
  unfold validateEntry at passed
  cases policy : validateZipEntryPolicy entry with
  | error message =>
      rw [policy] at passed
      cases passed
  | ok name =>
      obtain ⟨rfl, wellNamed⟩ := wellNamed_of_policy policy
      rw [policy] at passed
      dsimp only at passed
      split at passed
      · cases passed
      · rename_i fewFiles
        split at passed
        · cases passed
        · rename_i fewBytes
          split at passed
          · cases passed
            exact ⟨policy, wellNamed, rfl, rfl, Nat.le_of_not_lt fewFiles,
              Nat.le_of_not_lt fewBytes, rfl⟩
          · split at passed
            · cases passed
            · split at passed
              · cases passed
              · cases passed
                exact ⟨policy, wellNamed, rfl, rfl, Nat.le_of_not_lt fewFiles,
                  Nat.le_of_not_lt fewBytes, rfl⟩

theorem mkdir_eq_ok
    {files made : Files}
    {path : Path} :
    mkdir files path = .ok made ↔
      hasNull path = false ∧ FileTrees.mkdirp files path = some made := by
  unfold mkdir
  by_cases null : hasNull path
  · simp [null]
  · cases result : FileTrees.mkdirp files path <;>
      simp [null]

theorem writeStreamToFile_eq_ok
    {files written : Files}
    {content : List UInt8}
    {path : Path} :
    writeStreamToFile files content path = .ok written ↔
      hasNull path = false ∧
        FileTrees.writeFile files path content = some written := by
  unfold writeStreamToFile
  by_cases null : hasNull path
  · simp [null]
  · cases result : FileTrees.writeFile files path content <;>
      simp [null]

theorem hasNull_dropLast
    {path : Path}
    (noNull : hasNull path = false) :
    hasNull path.dropLast = false := by
  rw [hasNull, List.any_eq_false] at noNull ⊢
  intro name member
  exact noNull name (List.mem_of_mem_dropLast member)

theorem unpackEntry_eq_ok
    {files unpacked : Files}
    {extractDir : Path}
    {entry : ZipEntry} :
    unpackEntry files (extractDir ++ entryPath entry) entry = .ok unpacked ↔
      hasNull (extractDir ++ entryPath entry) = false ∧
        FileTrees.put files (entryItem extractDir entry) = some unpacked := by
  unfold unpackEntry entryItem
  by_cases directory : isZipEntryDirectory entry.fileName = true
  · rw [if_pos directory, if_pos directory]
    exact mkdir_eq_ok
  · rw [if_neg directory, if_neg directory, bind_eq_ok, FileTrees.put,
      Option.bind_eq_some_iff]
    constructor
    · rintro ⟨middle, made, written⟩
      obtain ⟨noNull, put⟩ := writeStreamToFile_eq_ok.mp written
      exact ⟨noNull, middle, (mkdir_eq_ok.mp made).2, put⟩
    · rintro ⟨noNull, middle, made, written⟩
      exact ⟨middle, mkdir_eq_ok.mpr ⟨hasNull_dropLast noNull, made⟩,
        writeStreamToFile_eq_ok.mpr ⟨noNull, written⟩⟩

/-- A scanned entry is unpacked when its path can be used and its item put. -/
theorem extractEntry_eq_ok
    {scan next : Scan}
    {entry : ZipEntry}
    (scanned : Scanned entrypoint scan entry next)
    {extractDir : Path}
    {progress result : Progress}
    (sameFiles : progress.fileCount = scan.fileCount)
    (sameBytes : progress.uncompressedBytes = scan.uncompressedBytes) :
    extractEntry extractDir progress entry = .ok result ↔
      hasNull (extractDir ++ entryPath entry) = false ∧
        FileTrees.put progress.files (entryItem extractDir entry) =
          some result.files ∧
        result.fileCount = next.fileCount ∧
        result.uncompressedBytes = next.uncompressedBytes := by
  have count := scanned.fileCount ▸ scanned.fewFiles
  have bytes := scanned.uncompressedBytes ▸ scanned.fewBytes
  rw [extractEntry, scanned.policy]
  dsimp only
  rw [sameFiles, sameBytes, if_neg (Nat.not_lt.mpr count),
    if_neg (Nat.not_lt.mpr bytes), ← scanned.fileCount,
    ← scanned.uncompressedBytes, safeJoin_normalizedName scanned.wellNamed,
    bind_eq_ok]
  constructor
  · rintro ⟨target, joined, rest⟩
    cases joined
    obtain ⟨files, unpacked, finished⟩ := bind_eq_ok.mp rest
    cases finished
    obtain ⟨noNull, put⟩ := unpackEntry_eq_ok.mp unpacked
    exact ⟨noNull, put, rfl, rfl⟩
  · rintro ⟨noNull, put, sameCount, sameSize⟩
    refine ⟨_, rfl, bind_eq_ok.mpr ⟨result.files, ?_, ?_⟩⟩
    · exact unpackEntry_eq_ok.mpr ⟨noNull, put⟩
    · rw [← sameCount, ← sameSize]
      rfl

/-! ## Both walks over all entries -/

/-- What the validation of all entries establishes. -/
theorem scanned_of_foldlM
    {entries : List ZipEntry}
    {scan final : Scan}
    (passed :
      entries.foldlM (validateEntry parse entrypoint) scan = .ok final) :
    (∀ entry ∈ entries, WellNamed entry) ∧
      (final.hasEntrypoint = true →
        scan.hasEntrypoint = true ∨
          ∃ entry ∈ entries,
            strictEquals (some (.str (normalizedName entry))) entrypoint =
              true) := by
  induction entries generalizing scan with
  | nil =>
      cases passed
      exact ⟨by simp, fun found => .inl found⟩
  | cons entry rest inductionHypothesis =>
      rw [List.foldlM_cons, bind_eq_ok] at passed
      obtain ⟨next, first, others⟩ := passed
      have scanned := scanned_of_validateEntry first
      obtain ⟨wellNamed, found⟩ := inductionHypothesis others
      constructor
      · intro other member
        rcases List.mem_cons.mp member with rfl | later
        · exact scanned.wellNamed
        · exact wellNamed other later
      · intro hasEntrypoint
        rcases found hasEntrypoint with already | ⟨other, member, same⟩
        · rw [scanned.hasEntrypoint, Bool.or_eq_true] at already
          rcases already with before | now
          · exact .inl before
          · exact .inr ⟨entry, List.mem_cons_self, now⟩
        · exact .inr ⟨other, List.mem_cons_of_mem _ member, same⟩

/-- The extraction of scanned entries, in terms of paths and items. -/
theorem extract_eq_ok
    {entries : List ZipEntry}
    {scan final : Scan}
    (passed :
      entries.foldlM (validateEntry parse entrypoint) scan = .ok final)
    {extractDir : Path}
    {progress result : Progress}
    (sameFiles : progress.fileCount = scan.fileCount)
    (sameBytes : progress.uncompressedBytes = scan.uncompressedBytes) :
    entries.foldlM (extractEntry extractDir) progress = .ok result ↔
      (∀ entry ∈ entries, hasNull (extractDir ++ entryPath entry) = false) ∧
        FileTrees.unpack progress.files (entries.map (entryItem extractDir)) =
          some result.files ∧
        result.fileCount = final.fileCount ∧
        result.uncompressedBytes = final.uncompressedBytes := by
  induction entries generalizing scan progress with
  | nil =>
      cases passed
      constructor
      · intro finished
        cases finished
        exact ⟨by simp, rfl, sameFiles, sameBytes⟩
      · rintro ⟨-, unpacked, sameCount, sameSize⟩
        have files : progress.files = result.files := Option.some.inj unpacked
        cases progress
        cases result
        cases files
        cases sameFiles.trans sameCount.symm
        cases sameBytes.trans sameSize.symm
        rfl
  | cons entry rest inductionHypothesis =>
      rw [List.foldlM_cons, bind_eq_ok] at passed
      obtain ⟨next, first, others⟩ := passed
      have scanned := scanned_of_validateEntry first
      rw [List.foldlM_cons, bind_eq_ok, List.forall_mem_cons, List.map_cons,
        FileTrees.unpack_cons]
      constructor
      · rintro ⟨middle, extracted, later⟩
        obtain ⟨noNull, put, count, bytes⟩ :=
          (extractEntry_eq_ok scanned sameFiles sameBytes).mp extracted
        obtain ⟨restNull, unpacked, totals⟩ :=
          (inductionHypothesis others count bytes).mp later
        exact ⟨⟨noNull, restNull⟩, ⟨middle.files, put, unpacked⟩, totals⟩
      · rintro ⟨⟨noNull, restNull⟩, ⟨files, put, unpacked⟩, totals⟩
        refine ⟨⟨files, next.fileCount, next.uncompressedBytes⟩, ?_, ?_⟩
        · exact (extractEntry_eq_ok scanned sameFiles sameBytes).mpr
            ⟨noNull, put, rfl, rfl⟩
        · exact (inductionHypothesis others rfl rfl).mpr
            ⟨restNull, unpacked, totals⟩

end Walks

/-! ## Which paths fit together -/

/-- No file stands at or above another entry, except for a file of its path. -/
def PathsFit (entries : List ZipEntry) : Prop :=
  ∀ file ∈ entries, isZipEntryDirectory file.fileName = false →
    ∀ other ∈ entries, entryPath file <+: entryPath other →
      isZipEntryDirectory other.fileName = false ∧
        entryPath other = entryPath file

/-- The directory that the entry needs. -/
def entryDirectory (entry : ZipEntry) : Path :=
  if isZipEntryDirectory entry.fileName then entryPath entry
  else (entryPath entry).dropLast

theorem WellNamed.nonempty
    {entry : ZipEntry}
    (wellNamed : WellNamed entry)
    (file : isZipEntryDirectory entry.fileName = false) :
    entryPath entry ≠ [] := by
  intro empty
  rw [wellNamed.inside empty] at file
  cases file

theorem directoryPath_entryItem
    {entry : ZipEntry}
    (wellNamed : WellNamed entry)
    (root : Path) :
    (entryItem root entry).directoryPath = root ++ entryDirectory entry := by
  unfold entryItem entryDirectory
  cases kind : isZipEntryDirectory entry.fileName with
  | true => rfl
  | false =>
      exact List.dropLast_append_of_ne_nil (wellNamed.nonempty kind)

theorem file_mem_entryItems
    {entries : List ZipEntry}
    {root place : Path}
    {content : List UInt8} :
    Item.file place content ∈ entries.map (entryItem root) ↔
      ∃ entry ∈ entries,
        isZipEntryDirectory entry.fileName = false ∧
          root ++ entryPath entry = place ∧ entry.content = content := by
  rw [List.mem_map]
  apply exists_congr
  intro entry
  apply and_congr_right
  intro _
  unfold entryItem
  cases isZipEntryDirectory entry.fileName <;> simp

theorem prefix_dropLast
    {first second : Path}
    (above : first <+: second)
    (different : first ≠ second) :
    first <+: second.dropLast := by
  obtain ⟨more, rfl⟩ := above
  have nonempty : more ≠ [] := by
    rintro rfl
    exact different (List.append_nil _).symm
  rw [List.dropLast_append_of_ne_nil nonempty]
  exact List.prefix_append _ _

theorem not_prefix_dropLast
    {path : Path}
    (nonempty : path ≠ []) :
    ¬ path <+: path.dropLast := by
  intro above
  have shorter := above.length_le
  rw [List.length_dropLast] at shorter
  have positive := List.length_pos_iff.mpr nonempty
  omega

theorem asDirectory_entryItems
    {entries : List ZipEntry}
    (wellNamed : ∀ entry ∈ entries, WellNamed entry)
    (root place : Path) :
    AsDirectory (entries.map (entryItem root)) place ↔
      ∃ entry ∈ entries, place <+: root ++ entryDirectory entry := by
  constructor
  · rintro ⟨item, member, below⟩
    obtain ⟨entry, entryMember, rfl⟩ := List.mem_map.mp member
    rw [directoryPath_entryItem (wellNamed entry entryMember)] at below
    exact ⟨entry, entryMember, below⟩
  · rintro ⟨entry, member, below⟩
    refine ⟨_, List.mem_map_of_mem member, ?_⟩
    rw [directoryPath_entryItem (wellNamed entry member)]
    exact below

/-- What fits has its files apart from its directories. -/
theorem pathsFit_of_fits
    {entries : List ZipEntry}
    (wellNamed : ∀ entry ∈ entries, WellNamed entry)
    {created : TemporaryDirectory}
    (fits : Fits created.files (entries.map (entryItem created.path))) :
    PathsFit entries := by
  intro file fileMember isFile other otherMember above
  by_contra conflict
  have below : entryPath file <+: entryDirectory other := by
    unfold entryDirectory
    cases kind : isZipEntryDirectory other.fileName with
    | true => exact above
    | false =>
        apply prefix_dropLast above
        intro same
        exact conflict ⟨kind, same.symm⟩
  have nothing := fits.apart (created.path ++ entryPath file)
    ((asDirectory_entryItems wellNamed created.path _).mpr
      ⟨other, otherMember, (List.prefix_append_right_inj _).mpr below⟩)
  have hasContent :
      (FileTrees.contentAt (entries.map (entryItem created.path))
        (created.path ++ entryPath file)).isSome :=
    FileTrees.contentAt_isSome.mpr ⟨file.content,
      file_mem_entryItems.mpr ⟨file, fileMember, isFile, rfl, rfl⟩⟩
  rw [nothing] at hasContent
  cases hasContent

/-- No file is where another entry needs a directory. -/
theorem not_prefix_entryDirectory
    {entries : List ZipEntry}
    (wellNamed : ∀ entry ∈ entries, WellNamed entry)
    (fit : PathsFit entries)
    {file other : ZipEntry}
    (fileMember : file ∈ entries)
    (isFile : isZipEntryDirectory file.fileName = false)
    (otherMember : other ∈ entries) :
    ¬ entryPath file <+: entryDirectory other := by
  have nonempty := (wellNamed file fileMember).nonempty isFile
  unfold entryDirectory
  intro below
  cases kind : isZipEntryDirectory other.fileName with
  | true =>
      rw [if_pos kind] at below
      have kept := (fit file fileMember isFile other otherMember below).1
      rw [kind] at kept
      cases kept
  | false =>
      rw [if_neg (by rw [kind]; exact Bool.false_ne_true)] at below
      obtain ⟨-, same⟩ := fit file fileMember isFile other otherMember
        (below.trans (List.dropLast_prefix _))
      rw [same] at below
      exact not_prefix_dropLast nonempty below

/-- At and above a new directory nothing is a file. -/
theorem not_isFile_created
    (created : TemporaryDirectory)
    {place below : Path}
    (above : place <+: created.path ++ below) :
    Node.isFile (created.files place) = false := by
  rcases List.prefix_or_prefix_of_prefix above (List.prefix_append _ _) with
    outer | inner
  · rw [created.above place outer]
    rfl
  · by_cases same : place = created.path
    · rw [same, created.above _ (List.prefix_refl _)]
      rfl
    · rw [created.below place inner same]
      rfl

/-- What entries unpack into a new directory fits when their paths do. -/
theorem fits_iff
    {entries : List ZipEntry}
    (wellNamed : ∀ entry ∈ entries, WellNamed entry)
    (created : TemporaryDirectory) :
    Fits created.files (entries.map (entryItem created.path)) ↔
      PathsFit entries := by
  have needed := asDirectory_entryItems wellNamed created.path
  refine ⟨pathsFit_of_fits wellNamed, fun fit => ⟨?_, ?_, ?_⟩⟩
  · intro place inside
    by_contra hasContent
    obtain ⟨content, member⟩ := FileTrees.contentAt_isSome.mp
      (Option.isSome_iff_ne_none.mpr hasContent)
    obtain ⟨file, fileMember, isFile, rfl, -⟩ :=
      file_mem_entryItems.mp member
    obtain ⟨other, otherMember, below⟩ := (needed _).mp inside
    exact not_prefix_entryDirectory wellNamed fit fileMember isFile otherMember
      ((List.prefix_append_right_inj _).mp below)
  · intro place inside
    obtain ⟨other, -, below⟩ := (needed place).mp inside
    exact not_isFile_created created below
  · intro place hasContent
    obtain ⟨content, member⟩ := FileTrees.contentAt_isSome.mp hasContent
    obtain ⟨file, fileMember, isFile, rfl, -⟩ :=
      file_mem_entryItems.mp member
    have nonempty := (wellNamed file fileMember).nonempty isFile
    rw [created.below _ (List.prefix_append _ _) (by simpa using nonempty)]
    rfl

/-! ## The entrypoint -/

/-- The last entry of the archive with the normal name. -/
def lastNamed
    (entries : List ZipEntry)
    (name : String) :
    Option ZipEntry :=
  entries.reverse.find? fun entry => normalizedName entry = name

theorem lastNamed_cons
    (entry : ZipEntry)
    (rest : List ZipEntry)
    (name : String) :
    lastNamed (entry :: rest) name =
      (lastNamed rest name).or
        (if normalizedName entry = name then some entry else none) := by
  rw [lastNamed, List.reverse_cons, List.find?_append]
  by_cases named : normalizedName entry = name <;>
    simp [lastNamed, named]

theorem isZipEntryDirectory_normalizedName
    {entry : ZipEntry}
    (wellNamed : WellNamed entry) :
    isZipEntryDirectory (normalizedName entry) =
      isZipEntryDirectory entry.fileName := by
  rw [isZipEntryDirectory, normalizedName, String.toList_ofList,
    wellNamed.text, PosixPaths.endsInSlash_rendered wellNamed.plain]

/-- A name of a file is shared exactly by the files of its path. -/
theorem normalizedName_eq_iff
    {entry file : ZipEntry}
    (entryNamed : WellNamed entry)
    (fileNamed : WellNamed file)
    (isFile : isZipEntryDirectory file.fileName = false) :
    normalizedName entry = normalizedName file ↔
      isZipEntryDirectory entry.fileName = false ∧
        entryPath entry = entryPath file := by
  constructor
  · intro same
    have kind := isZipEntryDirectory_normalizedName entryNamed
    rw [same, isZipEntryDirectory_normalizedName fileNamed, isFile] at kind
    have text := String.ofList_injective same
    refine ⟨kind.symm, ?_⟩
    rw [entryPath, text, entryPath]
  · rintro ⟨kind, path⟩
    rw [normalizedName, entryNamed.text, kind, path, ← isFile,
      ← fileNamed.text, normalizedName]

theorem contentAt_entryItem
    {entry file : ZipEntry}
    (entryNamed : WellNamed entry)
    (fileNamed : WellNamed file)
    (isFile : isZipEntryDirectory file.fileName = false)
    (root : Path) :
    (entryItem root entry).contentAt (root ++ entryPath file) =
      if normalizedName entry = normalizedName file then some entry.content
      else none := by
  have sameName := normalizedName_eq_iff entryNamed fileNamed isFile
  unfold entryItem
  by_cases named : normalizedName entry = normalizedName file
  · obtain ⟨kind, path⟩ := sameName.mp named
    rw [if_pos named, kind, if_neg Bool.false_ne_true, path]
    exact if_pos rfl
  · rw [if_neg named]
    cases kind : isZipEntryDirectory entry.fileName with
    | true => rfl
    | false =>
        have different : entryPath entry ≠ entryPath file := fun same =>
          named (sameName.mpr ⟨kind, same⟩)
        rw [if_neg Bool.false_ne_true]
        exact if_neg (by simpa using different.symm)

/-- The file at the path of an entry is the last one with its name. -/
theorem contentAt_entryItems
    {entries : List ZipEntry}
    (wellNamed : ∀ entry ∈ entries, WellNamed entry)
    {file : ZipEntry}
    (fileNamed : WellNamed file)
    (isFile : isZipEntryDirectory file.fileName = false)
    (root : Path) :
    FileTrees.contentAt (entries.map (entryItem root))
        (root ++ entryPath file) =
      (lastNamed entries (normalizedName file)).map ZipEntry.content := by
  induction entries with
  | nil =>
      rfl
  | cons entry rest inductionHypothesis =>
      rw [List.map_cons, FileTrees.contentAt, lastNamed_cons,
        contentAt_entryItem (wellNamed entry List.mem_cons_self) fileNamed
          isFile,
        inductionHypothesis fun other member =>
          wellNamed other (List.mem_cons_of_mem _ member)]
      cases lastNamed rest (normalizedName file) with
      | some found => rfl
      | none =>
          by_cases named : normalizedName entry = normalizedName file <;>
            simp [named]

/-- A path of the archive has a null character when the normal name has. -/
theorem hasNull_entryPath
    {entry : ZipEntry}
    (wellNamed : WellNamed entry)
    (created : TemporaryDirectory) :
    hasNull (created.path ++ entryPath entry) = false ↔
      '\x00' ∉ (normalizedName entry).toList := by
  have root := created.noNull
  unfold hasNull at root ⊢
  rw [List.any_append, root, Bool.false_or, normalizedName,
    String.toList_ofList, wellNamed.text,
    PosixPaths.mem_rendered (by decide) (by decide)]
  simp

theorem statEntrypoint_eq_ok
    {files : Files}
    {path : Path}
    {entrypoint : String} :
    statEntrypoint files path entrypoint = .ok () ↔
      hasNull path = false ∧ Node.isFile (files path) = true := by
  unfold statEntrypoint stat
  by_cases null : hasNull path
  · simp [null]
  · cases found : files path with
    | none =>
        cases path.inits.any fun above => Node.isFile (files above) <;>
          simp [null]
    | some node => simp [null]

/-! ## From the validation to the extraction -/

/-- The entries of an archive that can be opened. -/
def ZipBuffer.entries (buffer : ZipBuffer) : List ZipEntry :=
  buffer.opened.toOption.getD []

/-- The entrypoint is accepted, unpacked, and holds its last entry's content. -/
def Extracts
    (buffer : ZipBuffer)
    (entrypoint : Option Json)
    (created : TemporaryDirectory) :
    Prop :=
  ∃ normalized extracted entry,
    validateEntrypoint entrypoint = .ok normalized ∧
      safeZipExtract buffer normalized created = .ok extracted ∧
      lastNamed buffer.entries normalized = some entry ∧
      extracted.files extracted.entrypointPath = some (.file entry.content)

/-- What the validation leaves to be asked of an archive and its entrypoint. -/
structure Extractable
    (entries : List ZipEntry)
    (entrypoint : Option Json) :
    Prop where
  named : ∃ name, entrypoint = some (.str name) ∧
    isBlank name = false ∧ isZipEntryDirectory name = false
  noNull : ∀ entry ∈ entries, '\x00' ∉ (normalizedName entry).toList
  pathsFit : PathsFit entries

theorem strictEquals_str
    {text : String}
    {value : Option Json} :
    strictEquals (some (.str text)) value = true ↔
      value = some (.str text) := by
  cases value with
  | none => simp [strictEquals]
  | some value => cases value <;> simp [strictEquals, eq_comm]

/-- What the validation of an archive has seen. -/
structure Validated
    (parse : List UInt8 → Except String Json)
    (buffer : ZipBuffer)
    (options : Options)
    (file : ZipEntry)
    (scan : Scan) :
    Prop where
  length : buffer.length ≠ 0
  opened : buffer.opened = .ok buffer.entries
  scanned : buffer.entries.foldlM
    (validateEntry parse options.entrypoint) Scan.initial = .ok scan
  member : file ∈ buffer.entries
  entrypoint : options.entrypoint = some (.str (normalizedName file))

theorem validated_of_accepted
    {parse : List UInt8 → Except String Json}
    {buffer : ZipBuffer}
    {options : Options}
    {info : ZipInfo}
    (accepted : validateZipBuffer parse buffer options = .ok info) :
    ∃ file scan, Validated parse buffer options file scan := by
  unfold validateZipBuffer at accepted
  split at accepted
  · cases accepted
  · rename_i length
    split at accepted
    · cases accepted
    · cases opened : buffer.opened with
      | error message =>
          rw [opened] at accepted
          cases accepted
      | ok entries =>
          have entriesShape : buffer.entries = entries := by
            rw [ZipBuffer.entries, opened]
            rfl
          rw [opened] at accepted
          dsimp only at accepted
          obtain ⟨scan, scanned, checked⟩ := bind_eq_ok.mp accepted
          split at checked
          · cases checked
          · split at checked
            · cases checked
            · rename_i hasEntrypoint
              rw [Bool.not_eq_true, Bool.not_eq_false'] at hasEntrypoint
              obtain ⟨-, found⟩ := scanned_of_foldlM scanned
              rcases found hasEntrypoint with impossible | ⟨file, member, same⟩
              · cases impossible
              · rw [← entriesShape] at scanned member
                exact ⟨file, scan, length, opened.trans (by rw [entriesShape]),
                  scanned, member, strictEquals_str.mp same⟩

theorem toList_normalizedName (entry : ZipEntry) :
    (normalizedName entry).toList =
      PosixPaths.normalize entry.fileName.toList :=
  String.toList_ofList

theorem slashes_normalizedName
    {file : ZipEntry}
    (wellNamed : WellNamed file) :
    slashes (normalizedName file) = (normalizedName file).toList := by
  have unchanged :
      ∀ letter ∈ (normalizedName file).toList,
        (if letter = '\\' then '/' else letter) = letter := by
    intro letter member
    rw [toList_normalizedName] at member
    apply if_neg
    rintro rfl
    exact wellNamed.noBackslash member
  exact (List.map_congr_left unchanged).trans (List.map_id' _)

/-- A text that normalisation accepts and leaves as it is. -/
structure NormalText (text : List Char) : Prop where
  nonempty : text ≠ []
  relative : PosixPaths.isAbsolute text = false
  normal : PosixPaths.normalize text = text
  noBackslash : '\\' ∉ text
  notEscaping : ¬ Escapes text

theorem normalText_of_wellNamed
    {file : ZipEntry}
    (wellNamed : WellNamed file) :
    NormalText (normalizedName file).toList := by
  rw [toList_normalizedName]
  have noBackslash := wellNamed.noBackslash
  have notEscaping := wellNamed.notEscaping
  rw [wellNamed.text] at noBackslash notEscaping ⊢
  exact ⟨PosixPaths.rendered_ne_nil wellNamed.plain,
    PosixPaths.isAbsolute_rendered wellNamed.plain,
    PosixPaths.normalize_rendered wellNamed.plain, noBackslash, notEscaping⟩

/-- The executor accepts the name that the validation has found. -/
theorem validateEntrypoint_normalizedName
    {file : ZipEntry}
    (wellNamed : WellNamed file) :
    validateEntrypoint (some (.str (normalizedName file))) =
      .ok (normalizedName file) := by
  have text := normalText_of_wellNamed wellNamed
  have nonempty : normalizedName file ≠ "" := by
    intro empty
    exact text.nonempty (congrArg String.toList empty)
  unfold validateEntrypoint
  dsimp only
  rw [if_neg nonempty, text.relative, if_neg Bool.false_ne_true,
    slashes_normalizedName wellNamed, text.normal, if_neg text.notEscaping,
    String.ofList_toList]

/-- The extraction accepts it too, unless it is blank. -/
theorem normalizeZipRelativePath_normalizedName
    {file : ZipEntry}
    (wellNamed : WellNamed file)
    {label normalized : String} :
    normalizeZipRelativePath (normalizedName file) label = .ok normalized ↔
      isBlank (normalizedName file) = false ∧
        normalized = normalizedName file := by
  have text := normalText_of_wellNamed wellNamed
  rw [normalizeZipRelativePath_eq_ok, text.normal, String.ofList_toList]
  constructor
  · rintro ⟨notBlank, -, -, -, same⟩
    exact ⟨notBlank, same⟩
  · rintro ⟨notBlank, same⟩
    exact ⟨notBlank, text.noBackslash, text.relative, text.notEscaping, same⟩

/-- What makes the extraction succeed. -/
theorem safeZipExtract_eq_ok
    {buffer : ZipBuffer}
    {file : ZipEntry}
    (wellNamed : WellNamed file)
    {created : TemporaryDirectory}
    {extracted : Extracted} :
    safeZipExtract buffer (normalizedName file) created = .ok extracted ↔
      buffer.length ≠ 0 ∧
        isBlank (normalizedName file) = false ∧
        ∃ result,
          extractZipEntries buffer created.path created.files = .ok result ∧
            hasNull (created.path ++ entryPath file) = false ∧
            Node.isFile (result.files (created.path ++ entryPath file)) =
              true ∧
            extracted =
              { files := result.files
                extractDir := created.path
                entrypointPath := created.path ++ entryPath file
                fileCount := result.fileCount
                uncompressedBytes := result.uncompressedBytes } := by
  unfold safeZipExtract
  by_cases empty : buffer.length = 0
  · simp [empty]
  rw [if_neg empty]
  constructor
  · intro succeeded
    cases normal :
        normalizeZipRelativePath (normalizedName file) "entrypoint" with
    | error message =>
        rw [normal] at succeeded
        cases succeeded
    | ok normalized =>
        obtain ⟨notBlank, rfl⟩ :=
          (normalizeZipRelativePath_normalizedName wellNamed).mp normal
        rw [normal] at succeeded
        obtain ⟨result, unpacked, rest⟩ := bind_eq_ok.mp succeeded
        rw [safeJoin_normalizedName wellNamed] at rest
        obtain ⟨path, joined, rest⟩ := bind_eq_ok.mp rest
        cases joined
        obtain ⟨⟨⟩, found, finished⟩ := bind_eq_ok.mp rest
        cases finished
        obtain ⟨noNull, isFile⟩ := statEntrypoint_eq_ok.mp found
        exact ⟨empty, notBlank, result, unpacked, noNull, isFile, rfl⟩
  · rintro ⟨-, notBlank, result, unpacked, noNull, isFile, rfl⟩
    rw [(normalizeZipRelativePath_normalizedName wellNamed).mpr
      ⟨notBlank, rfl⟩]
    refine bind_eq_ok.mpr ⟨result, unpacked, ?_⟩
    rw [safeJoin_normalizedName wellNamed]
    exact bind_eq_ok.mpr ⟨_, rfl,
      bind_eq_ok.mpr ⟨(), statEntrypoint_eq_ok.mpr ⟨noNull, isFile⟩, rfl⟩⟩

theorem overlay_directory
    {entries : List ZipEntry}
    (wellNamed : ∀ entry ∈ entries, WellNamed entry)
    {directory : ZipEntry}
    (member : directory ∈ entries)
    (isDirectory : isZipEntryDirectory directory.fileName = true)
    (created : TemporaryDirectory) :
    FileTrees.overlay created.files (entries.map (entryItem created.path))
        (created.path ++ entryPath directory) =
      some .directory := by
  apply if_pos
  rw [asDirectory_entryItems wellNamed]
  refine ⟨directory, member, ?_⟩
  rw [entryDirectory, if_pos isDirectory]

/-- What is a file after the extraction was no directory in the archive. -/
theorem isFile_of_overlay
    {entries : List ZipEntry}
    (wellNamed : ∀ entry ∈ entries, WellNamed entry)
    {entry : ZipEntry}
    (member : entry ∈ entries)
    {created : TemporaryDirectory}
    (isFile :
      Node.isFile (FileTrees.overlay created.files
        (entries.map (entryItem created.path))
        (created.path ++ entryPath entry)) = true) :
    isZipEntryDirectory entry.fileName = false := by
  by_contra isDirectory
  rw [Bool.not_eq_false] at isDirectory
  rw [overlay_directory wellNamed member isDirectory] at isFile
  cases isFile

/-- A file that fits ends up with the content of the last one of its name. -/
theorem overlay_lastNamed
    {entries : List ZipEntry}
    (wellNamed : ∀ entry ∈ entries, WellNamed entry)
    {file : ZipEntry}
    (member : file ∈ entries)
    (isFile : isZipEntryDirectory file.fileName = false)
    {created : TemporaryDirectory}
    (fits : Fits created.files (entries.map (entryItem created.path))) :
    ∃ last,
      lastNamed entries (normalizedName file) = some last ∧
        FileTrees.overlay created.files
            (entries.map (entryItem created.path))
            (created.path ++ entryPath file) =
          some (.file last.content) := by
  have hasContent :
      (FileTrees.contentAt (entries.map (entryItem created.path))
        (created.path ++ entryPath file)).isSome :=
    FileTrees.contentAt_isSome.mpr ⟨file.content,
      file_mem_entryItems.mpr ⟨file, member, isFile, rfl, rfl⟩⟩
  have outside :
      ¬ AsDirectory (entries.map (entryItem created.path))
        (created.path ++ entryPath file) := by
    intro inside
    rw [fits.apart _ inside] at hasContent
    cases hasContent
  have content := contentAt_entryItems wellNamed (wellNamed file member) isFile
    created.path
  rw [content, Option.isSome_map] at hasContent
  obtain ⟨last, found⟩ := Option.isSome_iff_exists.mp hasContent
  refine ⟨last, found, ?_⟩
  rw [FileTrees.overlay, if_neg outside, content, found]
  rfl

/-- What the extraction of a validated archive needs, and what it leaves. -/
theorem extractZipEntries_eq_ok
    {parse : List UInt8 → Except String Json}
    {buffer : ZipBuffer}
    {options : Options}
    {file : ZipEntry}
    {scan : Scan}
    (validated : Validated parse buffer options file scan)
    (created : TemporaryDirectory)
    {result : Progress} :
    extractZipEntries buffer created.path created.files = .ok result ↔
      (∀ entry ∈ buffer.entries, '\x00' ∉ (normalizedName entry).toList) ∧
        (PathsFit buffer.entries ∧
          result.files = FileTrees.overlay created.files
            (buffer.entries.map (entryItem created.path))) ∧
        result.fileCount = scan.fileCount ∧
        result.uncompressedBytes = scan.uncompressedBytes := by
  obtain ⟨wellNamed, -⟩ := scanned_of_foldlM validated.scanned
  rw [extractZipEntries, validated.opened]
  dsimp only
  rw [extract_eq_ok validated.scanned rfl rfl, FileTrees.unpack_eq_some,
    fits_iff wellNamed]
  apply and_congr_left
  intro _
  exact forall₂_congr fun entry member =>
    hasNull_entryPath (wellNamed entry member) created

/--
A validated archive can be extracted at its entrypoint exactly when this is
not blank and no directory, and all paths of the archive fit together.
-/
theorem extracts_iff
    {parse : List UInt8 → Except String Json}
    {buffer : ZipBuffer}
    {options : Options}
    {info : ZipInfo}
    (accepted : validateZipBuffer parse buffer options = .ok info)
    (created : TemporaryDirectory) :
    Extracts buffer options.entrypoint created ↔
      Extractable buffer.entries options.entrypoint := by
  obtain ⟨file, scan, validated⟩ := validated_of_accepted accepted
  obtain ⟨wellNamed, -⟩ := scanned_of_foldlM validated.scanned
  have fileNamed := wellNamed file validated.member
  rw [validated.entrypoint]
  constructor
  · rintro ⟨normalized, extracted, entry, entrypoint, succeeded, -, -⟩
    rw [validateEntrypoint_normalizedName fileNamed] at entrypoint
    cases entrypoint
    obtain ⟨-, notBlank, result, ran, -, isFile, -⟩ :=
      (safeZipExtract_eq_ok fileNamed).mp succeeded
    obtain ⟨noNull, ⟨fit, files⟩, -⟩ :=
      (extractZipEntries_eq_ok validated created).mp ran
    refine ⟨⟨_, rfl, notBlank, ?_⟩, noNull, fit⟩
    rw [isZipEntryDirectory_normalizedName fileNamed]
    exact isFile_of_overlay wellNamed validated.member (files ▸ isFile)
  · rintro ⟨⟨name, named, notBlank, notDirectory⟩, noNull, fit⟩
    cases named
    rw [isZipEntryDirectory_normalizedName fileNamed] at notDirectory
    obtain ⟨last, found, written⟩ := overlay_lastNamed wellNamed
      validated.member notDirectory ((fits_iff wellNamed created).mpr fit)
    have fileNoNull :=
      (hasNull_entryPath fileNamed created).mpr (noNull file validated.member)
    refine ⟨_, _, last, validateEntrypoint_normalizedName fileNamed,
      (safeZipExtract_eq_ok fileNamed).mpr ⟨validated.length, notBlank,
        ⟨_, scan.fileCount, scan.uncompressedBytes⟩,
        (extractZipEntries_eq_ok validated created).mpr
          ⟨noNull, ⟨fit, rfl⟩, rfl, rfl⟩, fileNoNull, ?_, rfl⟩,
      found, written⟩
    exact congrArg Node.isFile written

/-! ## Two archives -/

/-- `/tmp`, in a file system with nothing in it. -/
def emptyTemporaryDirectory : TemporaryDirectory where
  files := fun place =>
    if place <+: [['t', 'm', 'p']] then some .directory else none
  path := [['t', 'm', 'p']]
  noNull := by decide
  above := fun _ inside => if_pos inside
  below := by
    intro place below different
    apply if_neg
    intro above
    exact different (above.eq_of_length_le below.length_le)

def manifestText : List UInt8 :=
  "\x7b\"entrypoint\":\"main.js\"\x7d".toList.map fun letter =>
    letter.toNat.toUInt8

/-- `JSON.parse` on the text of the manifest. -/
def parseManifest (bytes : List UInt8) : Except String Json :=
  if bytes = manifestText then
    .ok (.obj [("entrypoint", .str "main.js")])
  else
    .error "Unexpected token"

def regularFile
    (fileName : String)
    (content : List UInt8) :
    ZipEntry where
  fileName
  externalFileAttributes := 0
  content

/-- An archive of regular files, the manifest and `main.js` among them. -/
def archive (more : List ZipEntry) : ZipBuffer where
  length := 400
  opened := .ok (regularFile "manifest.json" manifestText ::
    regularFile "main.js" [59] :: more)

def mainOptions : Options where
  entrypoint := some (.str "main.js")
  runtime := none
  wrapperVersion := none

/-- The archive of these two files is extracted. -/
theorem extracts_main :
    Extracts (archive []) mainOptions.entrypoint emptyTemporaryDirectory :=
  (extracts_iff
    (show validateZipBuffer parseManifest (archive []) mainOptions =
      .ok ⟨2, 25, some (.obj [("entrypoint", .str "main.js")])⟩ from rfl)
    emptyTemporaryDirectory).mpr
    { named := ⟨"main.js", rfl, by decide, by decide⟩
      noNull := by decide
      pathsFit := by unfold PathsFit; decide }

/-- `lib` is a file in this archive, and a directory too. -/
def twiceUsedName : ZipBuffer :=
  archive [regularFile "lib" [59], regularFile "lib/util.js" [59]]

/-- An archive that the validation accepts may not be extractable. -/
theorem twiceUsedName_not_extracted :
    ¬ ∀ (parse : List UInt8 → Except String Json) (buffer : ZipBuffer)
        (options : Options) (info : ZipInfo) (created : TemporaryDirectory),
        validateZipBuffer parse buffer options = .ok info →
          Extracts buffer options.entrypoint created := by
  intro always
  obtain ⟨normalized, extracted, entry, entrypoint, succeeded, -⟩ :=
    always parseManifest twiceUsedName mainOptions _ emptyTemporaryDirectory
      rfl
  have normal :
      validateEntrypoint mainOptions.entrypoint = .ok "main.js" :=
    rfl
  have refused :
      safeZipExtract twiceUsedName "main.js" emptyTemporaryDirectory =
        .error (.file .EEXIST) :=
    rfl
  rw [normal] at entrypoint
  cases entrypoint
  rw [refused] at succeeded
  cases succeeded

end IgaScheduler.ZipArtifacts

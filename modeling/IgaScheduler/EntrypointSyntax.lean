import IgaScheduler.EntrypointArchives
import IgaScheduler.JobExecution
import IgaScheduler.RetryClassifier

namespace IgaScheduler

namespace JobRuntimeExecutor

/-!
# The text of an entrypoint

The executor checks the entrypoint of a definition, and the extraction checks
it again.  The second check takes what the first one returns, unless the text
began with a backslash or has become a single blank name.  Both let texts pass
that no archive has a file for, and these fail without a code.
-/

open PosixPaths (Escapes Plain follow followAll parent rendered)
open RetryClassifier (Classification WorkerError classifyWorkerError)
open ZipArtifacts (BearableName FileError Satisfiable TemporaryDirectory
  ZipBuffer archive deniedDirectoryNames deniedFilenames
  emptyTemporaryDirectory isBlank isBlank_rendered normalizeZipRelativePath
  normalizeZipRelativePath_eq_ok regularFile safeZipExtract satisfiable_iff
  slashes validateEntrypoint)

/-! ## What is thrown -/

def fileErrorCode : FileError → String
  | .ENOENT => "ENOENT"
  | .ENOTDIR => "ENOTDIR"
  | .EEXIST => "EEXIST"
  | .EISDIR => "EISDIR"
  | .ERR_INVALID_ARG_VALUE => "ERR_INVALID_ARG_VALUE"

/-- The thrown value, as the classifier reads it. -/
def ExecuteFailure.thrown : ExecuteFailure → WorkerError
  | .validation error =>
      { retryable := some (.bool error.retryable)
        code := some (.str error.code) }
  | .files (.message _) => {}
  | .files (.file error) => { code := some (.str (fileErrorCode error)) }

/-- What the two checks have to report about an entrypoint. -/
def entrypointRefusal (entrypoint : Option Json) : Option ExecuteFailure :=
  match validateEntrypoint entrypoint with
  | .error error => some (.validation error)
  | .ok normalized =>
      match normalizeZipRelativePath normalized "entrypoint" with
      | .error message => some (.files (.message message))
      | .ok _ => none

/-- An execution that gets as far as the entrypoint fails with its refusal. -/
theorem execute_of_entrypointRefusal
    {settings : Settings}
    {host : Host}
    {request : Request}
    {definition : ExecutionDefinition}
    {buffer : ZipBuffer}
    {created : TemporaryDirectory}
    {failure : ExecuteFailure}
    (identified : request.runId ≠ "")
    (defined : request.definition = some definition)
    (supported :
      validateRuntime settings definition.runtime definition.runtimeVersion =
        .ok ())
    (isolated : settings.requireRuntimeIsolation = false)
    (filled : buffer.length ≠ 0)
    (refused : entrypointRefusal definition.entrypoint = some failure) :
    execute settings host request buffer created = .error failure := by
  have requested :
      validateExecuteRequest settings request =
        ((validateEntrypoint definition.entrypoint).mapError
          .validation).map fun normalized => (definition, normalized) := by
    rw [validateExecuteRequest, if_neg identified, defined]
    dsimp only
    rw [supported]
    rfl
  unfold entrypointRefusal at refused
  rw [execute, requested]
  cases checked : validateEntrypoint definition.entrypoint with
  | error error =>
      rw [checked] at refused
      cases refused
      rfl
  | ok normalized =>
      rw [checked] at refused
      dsimp only at refused
      have extraction :
          (safeZipExtract buffer normalized created).mapError .files =
            (.error failure : Except ExecuteFailure _) := by
        rw [safeZipExtract, if_neg filled]
        cases again : normalizeZipRelativePath normalized "entrypoint" with
        | error message =>
            rw [again] at refused
            cases refused
            rfl
        | ok same =>
            rw [again] at refused
            cases refused
      have passed : validateRuntimeIsolation settings = .ok () := by
        rw [validateRuntimeIsolation, isolated]
        rfl
      change (validateRuntimeIsolation settings >>= fun _ =>
        (safeZipExtract buffer normalized created).mapError .files >>= _) = _
      rw [passed, extraction]
      rfl

/-! ## The property -/

/-- A path that is read from the artifact root and never left of it. -/
structure InsideRoot (path : String) : Prop where
  nonempty : path ≠ ""
  relative : PosixPaths.isAbsolute path.toList = false
  neverAbove :
    ∀ visited, visited <+: path.toList.splitOn '/' →
      parent ∉ visited.foldl (follow true) []

/--
The first check returns paths that the second one returns again; whatever
either reports about the text is coded and final, and about a text that no
archive can satisfy one of them does report.
-/
structure EntrypointChecked (entrypoint : Option Json) : Prop where
  inside : ∀ normalized, validateEntrypoint entrypoint = .ok normalized →
    InsideRoot normalized
  same : ∀ normalized, validateEntrypoint entrypoint = .ok normalized →
    ∀ label, normalizeZipRelativePath normalized label = .ok normalized
  reported : ∀ failure, entrypointRefusal entrypoint = some failure →
    (failure.thrown.code = some (.str "RUNTIME_ENTRYPOINT_INVALID") ∨
        failure.thrown.code = some (.str "RUNTIME_ENTRYPOINT_REQUIRED")) ∧
      (classifyWorkerError failure.thrown).classification = "NON_RETRYABLE"
  usable : ∀ normalized, validateEntrypoint entrypoint = .ok normalized →
    Satisfiable normalized

/-- Read with slashes, a relative text leads to a single blank name. -/
def LeadsToBlankName (entrypoint : String) : Prop :=
  PosixPaths.isAbsolute entrypoint.toList = false ∧
    PosixPaths.endsInSlash (slashes entrypoint) = false ∧
    ∃ name,
      followAll true [] (slashes entrypoint) = [name] ∧
        isBlank (String.ofList name) = true

/-- Read with slashes, a relative text ends in one and leads nowhere. -/
def LeadsToRoot (entrypoint : String) : Prop :=
  PosixPaths.isAbsolute entrypoint.toList = false ∧
    PosixPaths.endsInSlash (slashes entrypoint) = true ∧
    followAll true [] (slashes entrypoint) = []

/-- A name that no file of an archive can have on its way. -/
def Unbearable (name : PosixPaths.Segment) : Prop :=
  '\x00' ∈ name ∨
    String.ofList name ∈ deniedFilenames ∨
    String.ofList name ∈ deniedDirectoryNames

/-- Read with slashes, a relative text stays inside and leads to such a name. -/
def LeadsToUnbearableName (entrypoint : String) : Prop :=
  PosixPaths.isAbsolute entrypoint.toList = false ∧
    parent ∉ followAll true [] (slashes entrypoint) ∧
    ∃ name ∈ followAll true [] (slashes entrypoint), Unbearable name

/--
A text that the two checks agree about and, when they accept it, some archive
satisfies; what is no text is refused.
-/
structure AgreeableText (entrypoint : String) : Prop where
  notLeading : entrypoint.toList.head? ≠ some '\\'
  notBlank : ¬ LeadsToBlankName entrypoint
  notRoot : ¬ LeadsToRoot entrypoint
  bearable : ¬ LeadsToUnbearableName entrypoint

def Agreeable : Option Json → Prop
  | some (.str entrypoint) => AgreeableText entrypoint
  | _ => True

/-! ## The first check -/

/-- The refusals of the first check are coded and final. -/
theorem validateEntrypoint_error
    {entrypoint : Option Json}
    {error : ZipArtifacts.ValidationError}
    (refused : validateEntrypoint entrypoint = .error error) :
    (error.code = "RUNTIME_ENTRYPOINT_INVALID" ∨
        error.code = "RUNTIME_ENTRYPOINT_REQUIRED") ∧
      error.retryable = false := by
  unfold validateEntrypoint at refused
  split at refused
  · split at refused
    · cases refused
      exact ⟨.inr rfl, rfl⟩
    · split at refused
      · cases refused
        exact ⟨.inl rfl, rfl⟩
      · dsimp only at refused
        split at refused
        · cases refused
          exact ⟨.inl rfl, rfl⟩
        · cases refused
  · cases refused
    exact ⟨.inr rfl, rfl⟩

theorem reported_of_validation
    {entrypoint : Option Json}
    {error : ZipArtifacts.ValidationError}
    (refused : validateEntrypoint entrypoint = .error error) :
    ((ExecuteFailure.validation error).thrown.code =
          some (.str "RUNTIME_ENTRYPOINT_INVALID") ∨
        (ExecuteFailure.validation error).thrown.code =
          some (.str "RUNTIME_ENTRYPOINT_REQUIRED")) ∧
      (classifyWorkerError
          (ExecuteFailure.validation error).thrown).classification =
        "NON_RETRYABLE" := by
  obtain ⟨code, final⟩ := validateEntrypoint_error refused
  have flagged :
      (ExecuteFailure.validation error).thrown.retryable =
        some (.bool false) := by
    rw [ExecuteFailure.thrown, final]
  rw [RetryClassifier.classifyWorkerError_of_flag flagged,
    ExecuteFailure.thrown]
  rcases code with invalid | required
  · exact ⟨.inl (invalid ▸ rfl), rfl⟩
  · exact ⟨.inr (required ▸ rfl), rfl⟩

theorem validateEntrypoint_eq_ok
    {entrypoint : Option Json}
    {normalized : String} :
    validateEntrypoint entrypoint = .ok normalized ↔
      ∃ text : String, entrypoint = some (.str text) ∧ text ≠ "" ∧
        PosixPaths.isAbsolute text.toList = false ∧
        ¬ Escapes (PosixPaths.normalize (slashes text)) ∧
        normalized = String.ofList (PosixPaths.normalize (slashes text)) := by
  constructor
  · intro accepted
    unfold validateEntrypoint at accepted
    split at accepted
    · split at accepted
      · cases accepted
      · rename_i text nonempty
        split at accepted
        · cases accepted
        · rename_i relative
          dsimp only at accepted
          split at accepted
          · cases accepted
          · rename_i inside
            exact ⟨text, rfl, nonempty, Bool.not_eq_true _ ▸ relative, inside,
              (Except.ok.inj accepted).symm⟩
    · cases accepted
  · rintro ⟨text, rfl, nonempty, relative, inside, rfl⟩
    rw [validateEntrypoint, if_neg nonempty, relative,
      if_neg Bool.false_ne_true]
    exact if_neg inside

/-! ## Texts with slashes -/

theorem slashes_noBackslash (text : String) : '\\' ∉ slashes text := by
  intro member
  obtain ⟨letter, -, same⟩ := List.mem_map.mp member
  split at same
  · cases same
  · rename_i other
    exact other same

theorem slashes_ne_nil
    {text : String}
    (nonempty : text ≠ "") :
    slashes text ≠ [] := by
  intro empty
  exact nonempty (String.toList_eq_nil_iff.mp (List.map_eq_nil_iff.mp empty))

/-- A relative text becomes absolute when it begins with a backslash. -/
theorem isAbsolute_slashes
    {text : String}
    (relative : PosixPaths.isAbsolute text.toList = false) :
    PosixPaths.isAbsolute (slashes text) = true ↔
      text.toList.head? = some '\\' := by
  unfold slashes
  cases letters : text.toList with
  | nil =>
      simp [PosixPaths.isAbsolute]
  | cons letter rest =>
      rw [letters] at relative
      have notSlash : letter ≠ '/' := by
        simpa [PosixPaths.isAbsolute] using relative
      by_cases backslash : letter = '\\'
      · simp [PosixPaths.isAbsolute, backslash]
      · simp [PosixPaths.isAbsolute, backslash, notSlash]

/-- An absolute text stays absolute. -/
theorem isAbsolute_normalize
    {path : List Char}
    (absolute : PosixPaths.isAbsolute path = true) :
    PosixPaths.isAbsolute (PosixPaths.normalize path) = true := by
  have nonempty : path ≠ [] := by
    rintro rfl
    cases absolute
  rw [PosixPaths.normalize, if_neg nonempty, if_pos absolute]
  dsimp only
  split <;> rfl

theorem not_escapes_of_isAbsolute
    {path : List Char}
    (absolute : PosixPaths.isAbsolute path = true) :
    ¬ Escapes path := by
  rintro (rfl | rfl | ⟨rest, rfl⟩)
  · cases absolute
  · cases absolute
  · cases absolute

/-- Without a parent on the way, no parent is collected. -/
theorem parent_not_mem_foldl
    {relative : Bool}
    {segments place : List PosixPaths.Segment}
    (descending : parent ∉ segments)
    (inside : parent ∉ place) :
    parent ∉ segments.foldl (follow relative) place := by
  induction segments generalizing place with
  | nil =>
      exact inside
  | cons segment rest inductionHypothesis =>
      rw [List.mem_cons, not_or] at descending
      apply inductionHypothesis descending.2
      unfold follow
      split
      · exact inside
      · rw [if_neg fun same => descending.1 same.symm, List.mem_cons, not_or]
        exact ⟨descending.1, inside⟩

theorem insideRoot_rendered
    {names : List PosixPaths.Segment}
    {slash : Bool}
    (plain : ∀ name ∈ names, Plain name) :
    InsideRoot (String.ofList (rendered names slash)) where
  nonempty empty :=
    PosixPaths.rendered_ne_nil plain
      (by simpa using congrArg String.toList empty)
  relative := by
    rw [String.toList_ofList, PosixPaths.isAbsolute_rendered plain]
  neverAbove visited first := by
    rw [String.toList_ofList, PosixPaths.splitOn_rendered plain] at first
    apply parent_not_mem_foldl _ List.not_mem_nil
    intro member
    rcases List.mem_append.mp (first.subset member) with named | last
    · split at named
      · exact absurd (List.mem_singleton.mp named) (by decide)
      · exact (plain parent named).notParent rfl
    · split at last
      · exact absurd (List.mem_singleton.mp last) (by decide)
      · cases last

/-! ## The two checks together -/

section Accepted

variable {text : String}
variable (nonempty : text ≠ "")
variable (relative : PosixPaths.isAbsolute (slashes text) = false)
variable (inside : ¬ Escapes (PosixPaths.normalize (slashes text)))
include nonempty relative inside

/-- What is accepted of a relative text is the text of names. -/
theorem normalize_slashes :
    (∀ name ∈ (followAll true [] (slashes text)).reverse, Plain name) ∧
      PosixPaths.normalize (slashes text) =
        rendered (followAll true [] (slashes text)).reverse
          (PosixPaths.endsInSlash (slashes text)) := by
  have shape :
      PosixPaths.normalize (slashes text) =
        rendered (followAll true [] (slashes text)).reverse
          (PosixPaths.endsInSlash (slashes text)) := by
    rw [PosixPaths.normalize, if_neg (slashes_ne_nil nonempty), relative,
      if_neg Bool.false_ne_true]
  refine ⟨?_, shape⟩
  apply PosixPaths.plain_of_not_escapes
  rw [← shape]
  exact inside

omit inside in
/-- No backslash is left in what is accepted. -/
theorem noBackslash_normalize :
    '\\' ∉ PosixPaths.normalize (slashes text) := by
  intro member
  exact slashes_noBackslash text
    (PosixPaths.mem_of_mem_normalize (slashes_ne_nil nonempty) relative
      (by decide) (by decide) member)

/-- The second check objects to a blank name only. -/
theorem normalizeZipRelativePath_slashes
    (label : String) :
    normalizeZipRelativePath
          (String.ofList (PosixPaths.normalize (slashes text))) label =
        .ok (String.ofList (PosixPaths.normalize (slashes text))) ↔
      isBlank (String.ofList (PosixPaths.normalize (slashes text))) =
        false := by
  obtain ⟨plain, shape⟩ := normalize_slashes nonempty relative inside
  rw [normalizeZipRelativePath_eq_ok]
  refine and_iff_left ⟨?_, ?_, ?_, ?_⟩
  · rw [String.toList_ofList]
    exact noBackslash_normalize nonempty relative
  · rw [String.toList_ofList, shape, PosixPaths.isAbsolute_rendered plain]
  · rw [String.toList_ofList, shape, PosixPaths.normalize_rendered plain,
      ← shape]
    exact inside
  · rw [String.toList_ofList, shape, PosixPaths.normalize_rendered plain]

theorem isBlank_normalize_slashes
    (textRelative : PosixPaths.isAbsolute text.toList = false) :
    isBlank (String.ofList (PosixPaths.normalize (slashes text))) = true ↔
      LeadsToBlankName text := by
  obtain ⟨plain, shape⟩ := normalize_slashes nonempty relative inside
  rw [shape, isBlank_rendered plain, LeadsToBlankName,
    and_iff_right textRelative]
  apply and_congr_right
  intro _
  apply exists_congr
  intro name
  rw [List.reverse_eq_iff, List.reverse_singleton]

end Accepted

/-- A blank name is not a way out. -/
theorem not_escapes_of_isBlank
    {name : List Char}
    (blank : isBlank (String.ofList name) = true) :
    ¬ Escapes name := by
  rw [isBlank, String.toList_ofList] at blank
  have noDot : '.' ∉ name := fun member =>
    absurd (List.all_eq_true.mp blank '.' member) (by decide)
  rintro (rfl | rfl | ⟨rest, rfl⟩)
  · exact noDot List.mem_cons_self
  · exact noDot List.mem_cons_self
  · exact noDot List.mem_cons_self

theorem not_leadingBackslash_of_checked
    {text : String}
    (checked : EntrypointChecked (some (.str text))) :
    text.toList.head? ≠ some '\\' := by
  intro leading
  have nonempty : text ≠ "" := by
    rintro rfl
    cases leading
  have relative : PosixPaths.isAbsolute text.toList = false := by
    rw [PosixPaths.isAbsolute, leading]
    decide
  have absolute :=
    isAbsolute_normalize ((isAbsolute_slashes relative).mpr leading)
  have accepted :=
    validateEntrypoint_eq_ok.mpr ⟨text, rfl, nonempty, relative,
      not_escapes_of_isAbsolute absolute, rfl⟩
  have inside := (checked.inside _ accepted).relative
  rw [String.toList_ofList, absolute] at inside
  cases inside

theorem not_leadsToBlankName_of_checked
    {text : String}
    (checked : EntrypointChecked (some (.str text))) :
    ¬ LeadsToBlankName text := by
  intro leads
  obtain ⟨textRelative, noSlash, name, path, blank⟩ := leads
  have nonempty : text ≠ "" := by
    rintro rfl
    cases path
  have relative : PosixPaths.isAbsolute (slashes text) = false := by
    rw [← Bool.not_eq_true, isAbsolute_slashes textRelative]
    exact not_leadingBackslash_of_checked checked
  have shape : PosixPaths.normalize (slashes text) = name := by
    rw [PosixPaths.normalize, if_neg (slashes_ne_nil nonempty), relative,
      if_neg Bool.false_ne_true, path, noSlash]
    simp [rendered, PosixPaths.slashIf]
  have inside : ¬ Escapes (PosixPaths.normalize (slashes text)) := by
    rw [shape]
    exact not_escapes_of_isBlank blank
  have accepted :=
    validateEntrypoint_eq_ok.mpr
      ⟨text, rfl, nonempty, textRelative, inside, rfl⟩
  have again :=
    (normalizeZipRelativePath_slashes nonempty relative inside "entrypoint").mp
      (checked.same _ accepted "entrypoint")
  rw [shape, blank] at again
  cases again

/-- Checked texts that are accepted are texts of names, and satisfiable. -/
theorem satisfiable_of_checked
    {text : String}
    (checked : EntrypointChecked (some (.str text)))
    (nonempty : text ≠ "")
    (textRelative : PosixPaths.isAbsolute text.toList = false)
    (inside : ¬ Escapes
      (rendered (followAll true [] (slashes text)).reverse
        (PosixPaths.endsInSlash (slashes text)))) :
    followAll true [] (slashes text) ≠ [] ∧
      ∀ name ∈ followAll true [] (slashes text), BearableName name := by
  have relative : PosixPaths.isAbsolute (slashes text) = false := by
    rw [← Bool.not_eq_true, isAbsolute_slashes textRelative]
    exact not_leadingBackslash_of_checked checked
  have shape :
      PosixPaths.normalize (slashes text) =
        rendered (followAll true [] (slashes text)).reverse
          (PosixPaths.endsInSlash (slashes text)) := by
    rw [PosixPaths.normalize, if_neg (slashes_ne_nil nonempty), relative,
      if_neg Bool.false_ne_true]
  rw [← shape] at inside
  have satisfiable :=
    checked.usable _ (validateEntrypoint_eq_ok.mpr
      ⟨text, rfl, nonempty, textRelative, inside, rfl⟩)
  have noBackslash := noBackslash_normalize nonempty relative
  obtain ⟨plain, -⟩ := normalize_slashes nonempty relative inside
  rw [shape] at satisfiable inside noBackslash
  obtain ⟨-, somewhere, bearable⟩ :=
    (satisfiable_iff plain noBackslash inside).mp satisfiable
  exact ⟨fun empty => somewhere (by rw [empty]; rfl),
    fun name member => bearable name (List.mem_reverse.mpr member)⟩

theorem not_leadsToRoot_of_checked
    {text : String}
    (checked : EntrypointChecked (some (.str text))) :
    ¬ LeadsToRoot text := by
  rintro ⟨textRelative, slash, empty⟩
  have nonempty : text ≠ "" := by
    rintro rfl
    cases slash
  refine (satisfiable_of_checked checked nonempty textRelative ?_).1 empty
  rw [empty, slash]
  decide

theorem not_leadsToUnbearableName_of_checked
    {text : String}
    (checked : EntrypointChecked (some (.str text))) :
    ¬ LeadsToUnbearableName text := by
  rintro ⟨textRelative, descending, name, member, unbearable⟩
  have nonempty : text ≠ "" := by
    rintro rfl
    cases member
  have plain := PosixPaths.plain_of_not_parent descending
  have bearable :=
    (satisfiable_of_checked checked nonempty textRelative
      (PosixPaths.not_escapes_rendered
        (fun other listed => plain other (List.mem_reverse.mp listed))
        (List.reverse_ne_nil_iff.mpr (List.ne_nil_of_mem member)))).2
      name member
  rcases unbearable with null | file | directory
  · exact bearable.noNull null
  · exact bearable.notDeniedFile file
  · exact bearable.notDeniedDirectory directory

/-! ## Agreeable texts -/

/-- What is accepted of an agreeable text. -/
structure Agreed (normalized : String) : Prop where
  inside : InsideRoot normalized
  same : ∀ label, normalizeZipRelativePath normalized label = .ok normalized
  usable : Satisfiable normalized

theorem agreed_of_accepted
    {entrypoint : Option Json}
    {normalized : String}
    (agreeable : Agreeable entrypoint)
    (accepted : validateEntrypoint entrypoint = .ok normalized) :
    Agreed normalized := by
  obtain ⟨text, rfl, nonempty, textRelative, inside, rfl⟩ :=
    validateEntrypoint_eq_ok.mp accepted
  have agreeable : AgreeableText text := agreeable
  have relative : PosixPaths.isAbsolute (slashes text) = false := by
    rw [← Bool.not_eq_true, isAbsolute_slashes textRelative]
    exact agreeable.notLeading
  have notBlank :
      isBlank (String.ofList (PosixPaths.normalize (slashes text))) =
        false := by
    rw [← Bool.not_eq_true,
      isBlank_normalize_slashes nonempty relative inside textRelative]
    exact agreeable.notBlank
  have noBackslash := noBackslash_normalize nonempty relative
  obtain ⟨plain, shape⟩ := normalize_slashes nonempty relative inside
  refine ⟨?_, ?_, ?_⟩
  · rw [shape]
    exact insideRoot_rendered plain
  · intro label
    exact (normalizeZipRelativePath_slashes nonempty relative inside label).mpr
      notBlank
  · rw [shape] at notBlank noBackslash inside ⊢
    refine (satisfiable_iff plain noBackslash inside).mpr
      ⟨notBlank, ?_, ?_⟩
    · -- the text `.` of no names is refused, and `./` is excluded
      intro empty
      have nowhere := List.reverse_eq_nil_iff.mp empty
      apply agreeable.notRoot
      refine ⟨textRelative, ?_, nowhere⟩
      by_contra noSlash
      rw [Bool.not_eq_true] at noSlash
      rw [empty, noSlash] at inside
      exact inside (.inl rfl)
    · intro name listed
      have member := List.mem_reverse.mp listed
      have descending : parent ∉ followAll true [] (slashes text) :=
        fun up => (plain parent (List.mem_reverse.mpr up)).notParent rfl
      have notUnbearable : ¬ Unbearable name := fun unbearable =>
        agreeable.bearable
          ⟨textRelative, descending, name, member, unbearable⟩
      obtain ⟨noNull, notFile, notDirectory⟩ :
          '\x00' ∉ name ∧ String.ofList name ∉ deniedFilenames ∧
            String.ofList name ∉ deniedDirectoryNames := by
        simpa only [Unbearable, not_or] using notUnbearable
      refine ⟨⟨plain name listed, notFile, notDirectory⟩, ?_, noNull⟩
      intro inName
      exact noBackslash ((PosixPaths.mem_rendered (by decide)
        (by decide)).mpr ⟨name, listed, inName⟩)

/-- The checks do what is expected of them exactly on the agreeable texts. -/
theorem entrypointChecked_iff
    (entrypoint : Option Json) :
    EntrypointChecked entrypoint ↔ Agreeable entrypoint := by
  constructor
  · intro checked
    unfold Agreeable
    split
    · exact ⟨not_leadingBackslash_of_checked checked,
        not_leadsToBlankName_of_checked checked,
        not_leadsToRoot_of_checked checked,
        not_leadsToUnbearableName_of_checked checked⟩
    · trivial
  · intro agreeable
    refine ⟨fun _ accepted => (agreed_of_accepted agreeable accepted).inside,
      fun _ accepted => (agreed_of_accepted agreeable accepted).same, ?_,
      fun _ accepted => (agreed_of_accepted agreeable accepted).usable⟩
    intro failure refused
    unfold entrypointRefusal at refused
    cases checked : validateEntrypoint entrypoint with
    | error error =>
        rw [checked] at refused
        cases refused
        exact reported_of_validation checked
    | ok normalized =>
        have again := (agreed_of_accepted agreeable checked).same "entrypoint"
        rw [checked] at refused
        dsimp only at refused
        rw [again] at refused
        cases refused

/--
A leading backslash makes an accepted text absolute, and a name of one blank is
accepted as it is; the extraction refuses both with an error that may be tried
again.  The root itself, a name with a null character and a denied one pass
both checks, and fail after the archive has been unpacked.
-/
theorem entrypoint_refused_late :
    (validateEntrypoint (some (.str "\\main.js")) = .ok "/main.js" ∧
        entrypointRefusal (some (.str "\\main.js")) =
          some (.files (.message "unsafe entrypoint path: /main.js"))) ∧
      (validateEntrypoint (some (.str " ")) = .ok " " ∧
        entrypointRefusal (some (.str " ")) =
          some (.files (.message "unsafe entrypoint path:  "))) ∧
      (entrypointRefusal (some (.str "a/../")) = none ∧
        safeZipExtract (archive []) "./" emptyTemporaryDirectory =
          .error (.message "entrypoint is not a file: ./")) ∧
      (entrypointRefusal (some (.str "main.js\x00")) = none ∧
        safeZipExtract (archive []) "main.js\x00" emptyTemporaryDirectory =
          .error (.file .ERR_INVALID_ARG_VALUE)) ∧
      (entrypointRefusal (some (.str ".env")) = none ∧
        safeZipExtract (archive [regularFile ".env" []]) ".env"
            emptyTemporaryDirectory =
          .error (.message "Denied file in zip: .env")) ∧
      (∀ message,
        (classifyWorkerError
            (ExecuteFailure.files (.message message)).thrown).classification =
          "RETRYABLE") ∧
      ¬ ∀ entrypoint, EntrypointChecked entrypoint := by
  refine ⟨⟨rfl, rfl⟩, ⟨rfl, rfl⟩, ⟨rfl, rfl⟩, ⟨rfl, rfl⟩, ⟨rfl, rfl⟩,
    fun _ => rfl, ?_⟩
  intro always
  exact not_leadingBackslash_of_checked (always (some (.str "\\main.js"))) rfl

end JobRuntimeExecutor

end IgaScheduler

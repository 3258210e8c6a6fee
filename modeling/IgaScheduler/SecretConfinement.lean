import IgaScheduler.SecretReferences

namespace IgaScheduler

open RegularExpressions
open JavaScript (bind_eq_ok)

/-!
# Which secrets a sensitive parameter can name

A reference is resolved to a version of an allowed secret of the own project,
or refused.  The pattern takes whatever follows `/versions/` for the version,
further slashes included: the name has the shape of a secret version exactly
when there are none.
-/

/-! ## What the pattern matches -/

section SecretRefPattern

/-- What `([^/]+)` captures. -/
structure IsSegment (segment : List Char) : Prop where
  nonempty : segment ≠ []
  noSlash : '/' ∉ segment

/-- What `(.+)` captures. -/
structure IsLine (text : List Char) : Prop where
  nonempty : text ≠ []
  letters : ∀ letter ∈ text, isLineLetter letter = true

/-- What follows the secret's id. -/
def versionPart (version : Option (List Char)) : List Char :=
  version.elim [] fun version => "/versions/".toList ++ version

def referenceText
    (project id : List Char)
    (version : Option (List Char)) :
    List Char :=
  "projects/".toList ++
    (project ++ ("/secrets/".toList ++ (id ++ versionPart version)))

theorem referenceText_eq
    (project id : List Char)
    (version : Option (List Char)) :
    referenceText project id version =
      "projects/".toList ++
        (project ++ ("/secrets/".toList ++ (id ++ versionPart version))) :=
  rfl

/-- A segment that stands before the text has its end there. -/
def EndsSegment (rest : List Char) : Prop :=
  rest = [] ∨ ∃ more, rest = '/' :: more

theorem endsSegment_secrets
    (rest : List Char) :
    EndsSegment ("/secrets/".toList ++ rest) := by
  have shape : "/secrets/".toList = '/' :: "secrets/".toList := by decide
  rw [shape]
  exact .inr ⟨_, rfl⟩

theorem endsSegment_versionPart
    (version : Option (List Char)) :
    EndsSegment (versionPart version) := by
  have shape : "/versions/".toList = '/' :: "versions/".toList := by decide
  cases version with
  | none =>
      exact .inl rfl
  | some version =>
      rw [versionPart, Option.elim_some, shape]
      exact .inr ⟨_, rfl⟩

theorem versionPart_ne_nil
    (version : List Char) :
    "/versions/".toList ++ version ≠ [] := by
  have nonempty : "/versions/".toList ≠ [] := by decide
  exact List.append_ne_nil_of_left_ne_nil nonempty version

theorem matches_segment
    {text : List Char}
    {captures : Captures} :
    (Pattern.group (.many isNoSlash)).Matches text captures ↔
      IsSegment text ∧ captures = [some text] := by
  have noSlash :
      (∀ letter ∈ text, isNoSlash letter = true) ↔ '/' ∉ text := by
    constructor
    · intro letters slash
      exact absurd (letters '/' slash) (by decide)
    · intro noSlash letter member
      refine decide_eq_true ?_
      rintro rfl
      exact noSlash member
  simp only [Pattern.matches_group, Pattern.matches_many, noSlash]
  constructor
  · rintro ⟨inner, ⟨nonempty, letters, rfl⟩, rfl⟩
    exact ⟨⟨nonempty, letters⟩, rfl⟩
  · rintro ⟨segment, rfl⟩
    exact ⟨[], ⟨segment.nonempty, segment.noSlash, rfl⟩, rfl⟩

theorem matches_version
    {text : List Char}
    {captures : Captures} :
    (Pattern.seq (.literal "/versions/".toList)
        (.group (.many isLineLetter))).Matches text captures ↔
      ∃ version,
        IsLine version ∧ text = "/versions/".toList ++ version ∧
          captures = [some version] := by
  simp only [Pattern.matches_seq, Pattern.matches_literal,
    Pattern.matches_group, Pattern.matches_many]
  constructor
  · rintro ⟨_, version, _, _, ⟨rfl, rfl⟩,
      ⟨_, ⟨nonempty, letters, rfl⟩, rfl⟩, rfl, rfl⟩
    exact ⟨version, ⟨nonempty, letters⟩, rfl, rfl⟩
  · rintro ⟨version, line, rfl, rfl⟩
    exact ⟨_, version, _, _, ⟨rfl, rfl⟩,
      ⟨[], ⟨line.nonempty, line.letters, rfl⟩, rfl⟩, rfl, rfl⟩

/-- What may stand behind a secret's id. -/
theorem matches_versionPart
    {text : List Char}
    {captures : Captures} :
    (Pattern.optional (.seq (.literal "/versions/".toList)
        (.group (.many isLineLetter)))).Matches text captures ↔
      ∃ version : Option (List Char),
        (∀ line ∈ version, IsLine line) ∧ text = versionPart version ∧
          captures = [version] := by
  rw [Pattern.matches_optional, matches_version]
  constructor
  · rintro (⟨rfl, rfl⟩ | ⟨-, version, line, rfl, rfl⟩)
    · exact ⟨none, nofun, rfl, rfl⟩
    · refine ⟨some version, ?_, rfl, rfl⟩
      rintro _ ⟨⟩
      exact line
  · rintro ⟨version, lines, rfl, rfl⟩
    cases version with
    | none =>
        exact .inl ⟨rfl, rfl⟩
    | some version =>
        exact .inr ⟨versionPart_ne_nil version, version, lines version rfl,
          rfl, rfl⟩

/-- What `SECRET_REF_PATTERN` matches, and what it captures there. -/
theorem matches_secretRefPattern
    {text : List Char}
    {captures : Captures} :
    secretRefPattern.Matches text captures ↔
      ∃ project id version,
        IsSegment project ∧ IsSegment id ∧
          (∀ line ∈ version, IsLine line) ∧
          text = referenceText project id version ∧
          captures = [some project, some id, version] := by
  constructor
  · intro matched
    obtain ⟨_, _, _, _, first, behindFirst, rfl, rfl⟩ :=
      Pattern.matches_seq.mp matched
    obtain ⟨rfl, rfl⟩ := Pattern.matches_literal.mp first
    obtain ⟨project, _, _, _, second, behindProject, rfl, rfl⟩ :=
      Pattern.matches_seq.mp behindFirst
    obtain ⟨isProject, rfl⟩ := matches_segment.mp second
    obtain ⟨_, _, _, _, third, behindSecrets, rfl, rfl⟩ :=
      Pattern.matches_seq.mp behindProject
    obtain ⟨rfl, rfl⟩ := Pattern.matches_literal.mp third
    obtain ⟨id, _, _, _, fourth, behindId, rfl, rfl⟩ :=
      Pattern.matches_seq.mp behindSecrets
    obtain ⟨isId, rfl⟩ := matches_segment.mp fourth
    obtain ⟨version, lines, rfl, rfl⟩ := matches_versionPart.mp behindId
    exact ⟨project, id, version, isProject, isId, lines, rfl, rfl⟩
  · rintro ⟨project, id, version, isProject, isId, lines, rfl, rfl⟩
    exact .seq (.literal _) (.seq (matches_segment.mpr ⟨isProject, rfl⟩)
      (.seq (.literal _) (.seq (matches_segment.mpr ⟨isId, rfl⟩)
        (matches_versionPart.mpr ⟨version, lines, rfl, rfl⟩))))

/-- A text begins with one segment only, if it ends there or in a slash. -/
theorem segment_append_inj
    {first second : List Char}
    {rest others : List Char}
    (noSlash : '/' ∉ first)
    (noSlashToo : '/' ∉ second)
    (ends : EndsSegment rest)
    (endsToo : EndsSegment others)
    (same : first ++ rest = second ++ others) :
    first = second ∧ rest = others := by
  induction first generalizing second with
  | nil =>
      cases second with
      | nil =>
          exact ⟨rfl, same⟩
      | cons letter second =>
          rcases ends with rfl | ⟨more, rfl⟩
          · cases same
          · cases same
            exact (noSlashToo List.mem_cons_self).elim
  | cons letter first inductionHypothesis =>
      cases second with
      | nil =>
          rcases endsToo with rfl | ⟨more, rfl⟩
          · cases same
          · cases same
            exact (noSlash List.mem_cons_self).elim
      | cons other second =>
          obtain ⟨rfl, sameTail⟩ := List.cons_eq_cons.mp same
          obtain ⟨rfl, sameRest⟩ := inductionHypothesis
            (List.not_mem_of_not_mem_cons noSlash)
            (List.not_mem_of_not_mem_cons noSlashToo) sameTail
          exact ⟨rfl, sameRest⟩

theorem versionPart_inj
    {version other : Option (List Char)}
    (same : versionPart version = versionPart other) :
    version = other := by
  cases version with
  | none =>
      cases other with
      | none =>
          rfl
      | some other =>
          exact (versionPart_ne_nil other same.symm).elim
  | some version =>
      cases other with
      | none =>
          exact (versionPart_ne_nil version same).elim
      | some other =>
          rw [List.append_cancel_left same]

/-- The parts of a reference can be read off its text. -/
theorem referenceText_inj
    {project id otherProject otherId : List Char}
    {version otherVersion : Option (List Char)}
    (noSlash : '/' ∉ project ∧ '/' ∉ otherProject)
    (noSlashInId : '/' ∉ id ∧ '/' ∉ otherId)
    (same :
      referenceText project id version =
        referenceText otherProject otherId otherVersion) :
    project = otherProject ∧ id = otherId ∧ version = otherVersion := by
  obtain ⟨sameProject, sameRest⟩ := segment_append_inj noSlash.1 noSlash.2
    (endsSegment_secrets _) (endsSegment_secrets _)
    (List.append_cancel_left same)
  obtain ⟨sameId, sameVersion⟩ := segment_append_inj noSlashInId.1
    noSlashInId.2 (endsSegment_versionPart version)
    (endsSegment_versionPart otherVersion) (List.append_cancel_left sameRest)
  exact ⟨sameProject, sameId, versionPart_inj sameVersion⟩

theorem exec_secretRefPattern
    {text : List Char}
    {captures : Captures} :
    secretRefPattern.exec text = some captures ↔
      secretRefPattern.Matches text captures := by
  constructor
  · exact Pattern.matches_of_exec
  · intro matched
    refine Pattern.exec_eq_some matched fun {others} matchedToo => ?_
    obtain ⟨project, id, version, isProject, isId, -, rfl, rfl⟩ :=
      matches_secretRefPattern.mp matched
    obtain ⟨_, _, _, isOtherProject, isOtherId, -, same, rfl⟩ :=
      matches_secretRefPattern.mp matchedToo
    obtain ⟨rfl, rfl, rfl⟩ := referenceText_inj
      ⟨isProject.noSlash, isOtherProject.noSlash⟩
      ⟨isId.noSlash, isOtherId.noSlash⟩ same
    rfl

end SecretRefPattern

/-! ## What a reference is resolved to -/

/-- The full form of a reference, with or without a version. -/
def fullReference
    (project id : String)
    (version : Option String) :
    String :=
  version.elim (secretName project id) (secretVersionName project id)

theorem toList_secretName
    (project id : String) :
    (secretName project id).toList =
      "projects/".toList ++
        (project.toList ++ ("/secrets/".toList ++ id.toList)) := by
  rw [secretName, String.toList_append, String.toList_append,
    String.toList_append, List.append_assoc, List.append_assoc]

theorem toList_fullReference
    (project id : String)
    (version : Option String) :
    (fullReference project id version).toList =
      referenceText project.toList id.toList (version.map String.toList) := by
  cases version with
  | none =>
      change (secretName project id).toList = _
      rw [toList_secretName, referenceText_eq, Option.map_none]
      exact congrArg _ (congrArg _ (congrArg _ (List.append_nil _).symm))
  | some version =>
      change (secretVersionName project id version).toList = _
      rw [secretVersionName, String.toList_append, String.toList_append,
        toList_secretName, referenceText_eq, Option.map_some, versionPart,
        Option.elim_some]
      simp only [List.append_assoc]

theorem slash_mem_fullReference
    (project id : String)
    (version : Option String) :
    '/' ∈ (fullReference project id version).toList := by
  have slash : '/' ∈ "projects/".toList := by decide
  rw [toList_fullReference, referenceText_eq]
  exact List.mem_append_left _ slash

theorem fullReference_startsWith
    (project id : String)
    (version : Option String) :
    JavaScript.startsWith (fullReference project id version) "projects/" =
      true := by
  rw [JavaScript.startsWith, toList_fullReference, referenceText_eq,
    List.isPrefixOf_iff_prefix]
  exact List.prefix_append _ _

theorem fullReference_inj
    {project id otherId : String}
    {version otherVersion : Option String}
    (noSlash : '/' ∉ project.toList)
    (noSlashInId : '/' ∉ id.toList ∧ '/' ∉ otherId.toList)
    (same :
      fullReference project id version =
        fullReference project otherId otherVersion) :
    id = otherId ∧ version = otherVersion := by
  rw [← String.toList_inj, toList_fullReference, toList_fullReference] at same
  obtain ⟨-, sameId, sameVersion⟩ :=
    referenceText_inj ⟨noSlash, noSlash⟩ noSlashInId same
  exact ⟨String.toList_inj.mp sameId,
    Option.map_injective (fun _ _ => String.toList_inj.mp) sameVersion⟩

theorem secretVersionName_inj
    {project id otherId version otherVersion : String}
    (noSlash : '/' ∉ project.toList)
    (noSlashInId : '/' ∉ id.toList ∧ '/' ∉ otherId.toList)
    (same :
      secretVersionName project id version =
        secretVersionName project otherId otherVersion) :
    id = otherId ∧ version = otherVersion := by
  change fullReference project id (some version) =
    fullReference project otherId (some otherVersion) at same
  obtain ⟨sameId, sameVersion⟩ := fullReference_inj noSlash noSlashInId same
  exact ⟨sameId, Option.some.inj sameVersion⟩

theorem toList_comp_ofList :
    String.toList ∘ String.ofList = id :=
  funext fun _ => String.toList_ofList

theorem ofList_comp_toList :
    String.ofList ∘ String.toList = id :=
  funext fun _ => String.ofList_toList

/-- The id and the version that a reference to the project stands for. -/
structure StandsFor
    (project secretRef id version : String) :
    Prop where
  isId : IsSegment id.toList
  form :
    secretRef = id ∧ version = "latest" ∨
      ∃ named : Option String,
        (∀ text ∈ named, IsLine text.toList) ∧
          secretRef = fullReference project id named ∧
          version = named.getD "latest"

theorem StandsFor.nonempty
    {project secretRef id version : String}
    (stands : StandsFor project secretRef id version) :
    secretRef ≠ "" := by
  obtain ⟨isId, ⟨rfl, -⟩ | ⟨named, -, rfl, -⟩⟩ := stands
  · exact mt String.toList_eq_nil_iff.mpr isId.nonempty
  · intro blank
    have slash := slash_mem_fullReference project id named
    rw [blank] at slash
    exact absurd slash (by decide)

namespace SecretManagerParameterResolver

variable {resolver : SecretManagerParameterResolver}
variable {project secretRef id version : String}

/-- A secret that the references of sensitive parameters may name. -/
structure Allowed
    (resolver : SecretManagerParameterResolver)
    (id : String) :
    Prop where
  startsWith : JavaScript.startsWith id resolver.paramPrefix = true
  notDenied : id ∉ deniedSecretIds

theorem assertAllowed_eq_ok :
    resolver.assertAllowed id = .ok () ↔ resolver.Allowed id := by
  rw [assertAllowed]
  split
  · rename_i denied
    constructor
    · nofun
    · exact fun allowed => (allowed.notDenied denied).elim
  · rename_i notDenied
    split
    · rename_i others
      constructor
      · nofun
      · exact fun allowed => (others allowed.startsWith).elim
    · rename_i starts
      exact ⟨fun _ => ⟨not_not.mp starts, notDenied⟩, fun _ => rfl⟩

/-- What is parsed is a reference into the own project. -/
theorem standsFor_of_parsed
    (own : resolver.projectId = some project)
    (nonempty : secretRef ≠ "")
    (parsed : resolver.parseReference secretRef = .ok (id, version)) :
    StandsFor project secretRef id version := by
  rw [parseReference] at parsed
  split at parsed
  · split at parsed
    · rename_i letters idLetters named found
      obtain ⟨_, _, _, isSegment, isId, lines, text, shape⟩ :=
        matches_secretRefPattern.mp (exec_secretRefPattern.mp found)
      cases shape
      split at parsed
      · cases parsed
      · rename_i same
        cases parsed
        have sameProject : String.ofList letters = project :=
          Option.some.inj ((not_not.mp same).trans own)
        have isLetters : letters = project.toList := by
          rw [← sameProject, String.toList_ofList]
        refine ⟨by rw [String.toList_ofList]; exact isId,
          .inr ⟨named.map String.ofList, ?_, ?_, rfl⟩⟩
        · intro line member
          obtain ⟨lineLetters, isNamed, rfl⟩ :=
            Option.map_eq_some_iff.mp member
          rw [String.toList_ofList]
          exact lines lineLetters isNamed
        · rw [← String.toList_inj, toList_fullReference,
            String.toList_ofList, text, isLetters, Option.map_map,
            toList_comp_ofList, Option.map_id, id_eq]
    · cases parsed
  · split at parsed
    · cases parsed
    · rename_i noSlash
      split at parsed
      · cases parsed
      · cases parsed
        exact ⟨⟨mt String.toList_eq_nil_iff.mp nonempty, noSlash⟩,
          .inl ⟨rfl, rfl⟩⟩

/-- A name without a slash stands for the latest version of that secret. -/
theorem parseReference_name
    (own : resolver.projectId = some project)
    (isProject : IsSegment project.toList)
    (isId : IsSegment id.toList) :
    resolver.parseReference id = .ok (id, "latest") := by
  have notFull :
      ¬ JavaScript.startsWith id "projects/" = true := by
    intro starts
    rw [JavaScript.startsWith, List.isPrefixOf_iff_prefix] at starts
    exact isId.noSlash (starts.subset (by decide))
  have known : ¬ (resolver.projectId = none ∨
      resolver.projectId = some "") := by
    rw [own]
    rintro (missing | blank)
    · cases missing
    · rw [Option.some.inj blank] at isProject
      exact isProject.nonempty rfl
  rw [parseReference, if_neg notFull, if_neg isId.noSlash, if_neg known]

theorem parseReference_fullReference
    {named : Option String}
    (own : resolver.projectId = some project)
    (isProject : IsSegment project.toList)
    (isId : IsSegment id.toList)
    (lines : ∀ line ∈ named, IsLine line.toList) :
    resolver.parseReference (fullReference project id named) =
      .ok (id, named.getD "latest") := by
  have found :
      secretRefPattern.exec (fullReference project id named).toList =
        some [some project.toList, some id.toList,
          named.map String.toList] := by
    refine exec_secretRefPattern.mpr (matches_secretRefPattern.mpr
      ⟨_, _, _, isProject, isId, ?_, toList_fullReference _ _ _, rfl⟩)
    intro line member
    obtain ⟨text, isNamed, rfl⟩ := Option.map_eq_some_iff.mp member
    exact lines text isNamed
  rw [parseReference, if_pos (fullReference_startsWith project id named),
    found]
  dsimp only
  rw [String.ofList_toList, String.ofList_toList, own,
    if_neg (not_not.mpr rfl), Option.map_map, ofList_comp_toList,
    Option.map_id, id_eq]

theorem parseReference_eq_ok
    (own : resolver.projectId = some project)
    (isProject : IsSegment project.toList)
    (nonempty : secretRef ≠ "") :
    resolver.parseReference secretRef = .ok (id, version) ↔
      StandsFor project secretRef id version := by
  constructor
  · exact standsFor_of_parsed own nonempty
  · rintro ⟨isId, ⟨rfl, rfl⟩ | ⟨named, lines, rfl, rfl⟩⟩
    · exact parseReference_name own isProject isId
    · exact parseReference_fullReference own isProject isId lines

/-- The names that references are resolved to. -/
theorem toSecretVersionName_eq_ok
    {name : String}
    (own : resolver.projectId = some project)
    (isProject : IsSegment project.toList) :
    resolver.toSecretVersionName (some (.str secretRef)) = .ok name ↔
      ∃ id version,
        StandsFor project secretRef id version ∧
          resolver.Allowed id ∧
          name = secretVersionName project id version := by
  constructor
  · intro resolved
    rw [toSecretVersionName] at resolved
    split at resolved
    · cases resolved
    · rename_i nonempty
      obtain ⟨⟨id, version⟩, parsed, rest⟩ := bind_eq_ok.mp resolved
      obtain ⟨⟨⟩, allowed, named⟩ := bind_eq_ok.mp rest
      cases named
      have stands := (parseReference_eq_ok own isProject nonempty).mp parsed
      refine ⟨id, version, stands, assertAllowed_eq_ok.mp allowed, ?_⟩
      rw [projectText, own, Option.getD_some]
  · rintro ⟨id, version, stands, allowed, rfl⟩
    have parsed :=
      (parseReference_eq_ok own isProject stands.nonempty).mpr stands
    rw [toSecretVersionName, if_neg stands.nonempty, parsed]
    change (resolver.assertAllowed id >>= _) = _
    rw [assertAllowed_eq_ok.mpr allowed, projectText, own, Option.getD_some]
    rfl

/-- The two forms of a reference without a version come to the same. -/
theorem toSecretVersionName_secretName
    {short name : String}
    (own : resolver.projectId = some project)
    (isProject : IsSegment project.toList)
    (noSlash : '/' ∉ short.toList) :
    resolver.toSecretVersionName (some (.str short)) = .ok name ↔
      resolver.toSecretVersionName (some (.str (secretName project short))) =
        .ok name := by
  have sameStands (id version : String) :
      StandsFor project short id version ↔
        StandsFor project (secretName project short) id version := by
    constructor
    · rintro ⟨isId, ⟨rfl, rfl⟩ | ⟨named, -, rfl, -⟩⟩
      · exact ⟨isId, .inr ⟨none, nofun, rfl, rfl⟩⟩
      · exact (noSlash (slash_mem_fullReference project id named)).elim
    · rintro ⟨isId, ⟨rfl, -⟩ | ⟨named, -, same, rfl⟩⟩
      · exact (isId.noSlash (slash_mem_fullReference project short none)).elim
      · change fullReference project short none = _ at same
        obtain ⟨rfl, rfl⟩ := fullReference_inj isProject.noSlash
          ⟨noSlash, isId.noSlash⟩ same
        exact ⟨isId, .inl ⟨rfl, rfl⟩⟩
  rw [toSecretVersionName_eq_ok own isProject,
    toSecretVersionName_eq_ok own isProject]
  simp only [sameStands]

/-- The name of a version of a secret that a reference may name. -/
def Confined
    (resolver : SecretManagerParameterResolver)
    (project name : String) :
    Prop :=
  ∃ id version : String,
    IsSegment id.toList ∧
      IsSegment version.toList ∧
      resolver.Allowed id ∧
      name = secretVersionName project id version

/-- The full form of a reference, with a slash in its version. -/
def SlashedVersion
    (resolver : SecretManagerParameterResolver)
    (project secretRef : String) :
    Prop :=
  ∃ id version : String,
    IsSegment id.toList ∧
      resolver.Allowed id ∧
      IsLine version.toList ∧
      '/' ∈ version.toList ∧
      secretRef = secretVersionName project id version

/-- A reference is resolved to a confined name only, unless it is slashed. -/
theorem confined_iff
    (own : resolver.projectId = some project)
    (isProject : IsSegment project.toList) :
    (∀ name,
      resolver.toSecretVersionName (some (.str secretRef)) = .ok name →
      resolver.Confined project name) ↔
      ¬ resolver.SlashedVersion project secretRef := by
  constructor
  · rintro confined ⟨id, version, isId, allowed, line, slash, rfl⟩
    have stands :
        StandsFor project (secretVersionName project id version) id
          version := by
      refine ⟨isId, .inr ⟨some version, ?_, rfl, rfl⟩⟩
      rintro _ ⟨⟩
      exact line
    obtain ⟨otherId, otherVersion, isOther, isVersion, -, same⟩ :=
      confined _ ((toSecretVersionName_eq_ok own isProject).mpr
        ⟨id, version, stands, allowed, rfl⟩)
    obtain ⟨-, sameVersion⟩ := secretVersionName_inj isProject.noSlash
      ⟨isId.noSlash, isOther.noSlash⟩ same
    rw [sameVersion] at slash
    exact isVersion.noSlash slash
  · intro unslashed name resolves
    obtain ⟨id, version, ⟨isId, form⟩, allowed, rfl⟩ :=
      (toSecretVersionName_eq_ok own isProject).mp resolves
    have latest : IsSegment "latest".toList := ⟨by decide, by decide⟩
    refine ⟨id, version, isId, ?_, allowed, rfl⟩
    rcases form with ⟨-, rfl⟩ | ⟨named, lines, rfl, rfl⟩
    · exact latest
    · cases named with
      | none =>
          exact latest
      | some version =>
          have line := lines version rfl
          exact ⟨line.nonempty, fun slash => unslashed
            ⟨id, version, isId, allowed, line, slash, rfl⟩⟩

/-- What is resolved is a text. -/
theorem exists_text
    {secretRef : Option Json}
    {name : String}
    (resolves : resolver.toSecretVersionName secretRef = .ok name) :
    ∃ text, secretRef = some (.str text) := by
  unfold toSecretVersionName at resolves
  split at resolves
  · exact ⟨_, rfl⟩
  · cases resolves

section Resolving

variable {Error : Type}
variable {client : SecretManager Error}
variable {parameters : List (String × Json)}

/-- One of the parameters is sensitive and has this reference. -/
def HasReference
    (parameters : List (String × Json))
    (secretRef : Option Json) :
    Prop :=
  ∃ entry ∈ parameters,
    jsonField entry.2 "type" = some (.str "sensitive") ∧
      jsonField entry.2 "secretRef" = secretRef

/-- A call is made for a reference of the parameters that is resolved. -/
theorem mem_resolveEntries
    {calls : List SecretAccess}
    {resolved : List (String × ResolvedParameter)}
    {property : SecretAccess → Prop}
    (before : ∀ call ∈ calls, property call)
    (made :
      ∀ secretRef versionName,
        HasReference parameters secretRef →
        resolver.toSecretVersionName secretRef = .ok versionName →
        property ⟨secretRef, versionName⟩) :
    ∀ call ∈ (resolver.resolveEntries client parameters calls resolved).calls,
      property call := by
  induction parameters generalizing calls resolved with
  | nil =>
      exact before
  | cons entry rest inductionHypothesis =>
      have madeInRest :
          ∀ secretRef versionName,
            HasReference rest secretRef →
            resolver.toSecretVersionName secretRef = .ok versionName →
            property ⟨secretRef, versionName⟩ := by
        rintro secretRef versionName ⟨other, member, shape⟩ named
        exact made secretRef versionName
          ⟨other, List.mem_cons_of_mem _ member, shape⟩ named
      rw [resolveEntries]
      split
      · rename_i sensitive
        dsimp only
        split
        · exact before
        · rename_i versionName named
          have afterwards :
              ∀ call ∈ calls ++
                  [⟨jsonField entry.2 "secretRef", versionName⟩],
                property call := by
            intro call member
            rcases List.mem_append.mp member with earlier | last
            · exact before call earlier
            · rw [List.mem_singleton.mp last]
              exact made _ _
                ⟨entry, List.mem_cons_self, sensitive, rfl⟩ named
          split
          · exact afterwards
          · exact inductionHypothesis afterwards madeInRest
      · exact inductionHypothesis before madeInRest
      · exact inductionHypothesis before madeInRest
      · exact inductionHypothesis before madeInRest

/-- What resolving the parameters of a run may do with their references. -/
structure SecretsConfined
    (resolver : SecretManagerParameterResolver)
    (client : SecretManager Error)
    (project : String)
    (parameters : List (String × Json)) :
    Prop where
  resolved :
    ∀ secretRef,
      HasReference parameters secretRef →
      (∃ error,
        resolver.toSecretVersionName secretRef = .error error ∧
          ∀ call ∈ (resolver.resolveParameters client parameters).calls,
            call.secretRef ≠ secretRef) ∨
        ∃ versionName,
          resolver.toSecretVersionName secretRef = .ok versionName ∧
            resolver.Confined project versionName
  called :
    ∀ call ∈ (resolver.resolveParameters client parameters).calls,
      HasReference parameters call.secretRef ∧
        resolver.toSecretVersionName call.secretRef = .ok call.name
  sameName :
    ∀ short name : String,
      '/' ∉ short.toList →
      (resolver.toSecretVersionName (some (.str short)) = .ok name ↔
        resolver.toSecretVersionName
            (some (.str (secretName project short))) =
          .ok name)

/--
The references of sensitive parameters are confined, if and only if none of
them is a full one whose version contains a slash.
-/
theorem secrets_confined_iff
    (own : resolver.projectId = some project)
    (isProject : IsSegment project.toList) :
    SecretsConfined resolver client project parameters ↔
      ∀ secretRef : String,
        HasReference parameters (some (.str secretRef)) →
        ¬ resolver.SlashedVersion project secretRef := by
  have called :
      ∀ call ∈ (resolver.resolveParameters client parameters).calls,
        HasReference parameters call.secretRef ∧
          resolver.toSecretVersionName call.secretRef = .ok call.name :=
    mem_resolveEntries nofun fun _ _ has named => ⟨has, named⟩
  constructor
  · intro confined secretRef has
    refine (confined_iff own isProject).mp fun name resolves => ?_
    rcases confined.resolved _ has with
      ⟨error, throws, -⟩ | ⟨versionName, returns, inside⟩
    · cases throws.symm.trans resolves
    · cases returns.symm.trans resolves
      exact inside
  · intro unslashed
    refine ⟨fun secretRef has => ?_, called, fun short name noSlash =>
      toSecretVersionName_secretName own isProject noSlash⟩
    cases outcome : resolver.toSecretVersionName secretRef with
    | error error =>
        refine .inl ⟨error, rfl, fun call member same => ?_⟩
        have resolves := (called call member).2
        rw [same, outcome] at resolves
        cases resolves
    | ok versionName =>
        obtain ⟨text, rfl⟩ := exists_text outcome
        exact .inr ⟨versionName, rfl,
          (confined_iff own isProject).mpr (unslashed text has) _ outcome⟩

end Resolving

/-- A sensitive parameter with this reference, and nothing else. -/
def tokenParameter (secretRef : String) : List (String × Json) :=
  [("token",
    .obj [("type", .str "sensitive"), ("secretRef", .str secretRef)])]

def ownResolver : SecretManagerParameterResolver where
  projectId := some "project-1"

theorem ownResolver_project : IsSegment "project-1".toList :=
  ⟨by decide, by decide⟩

/-- The version leads out of the secret, to one of the platform. -/
theorem slashedVersion_token :
    ownResolver.SlashedVersion "project-1"
      ("projects/project-1/secrets/job-param-token/versions/" ++
        "../../iga-scheduler-db-password/versions/latest") := by
  refine ⟨"job-param-token",
    "../../iga-scheduler-db-password/versions/latest",
    ⟨by decide, by decide⟩, ⟨by decide, by decide⟩,
    ⟨by decide, List.all_eq_true.mp (by decide)⟩, by decide, by decide⟩

/-- The claimed shape is not that of every name that is asked for. -/
theorem token_not_confined :
    ¬ ∀ (resolver : SecretManagerParameterResolver)
        (client : SecretManager Unit) project parameters,
      resolver.projectId = some project →
      IsSegment project.toList →
      SecretsConfined resolver client project parameters := by
  intro confined
  have token := confined ownResolver (fun _ => .ok none) "project-1"
    (tokenParameter
      ("projects/project-1/secrets/job-param-token/versions/" ++
        "../../iga-scheduler-db-password/versions/latest"))
    rfl ownResolver_project
  refine (confined_iff rfl ownResolver_project).mp ?_ slashedVersion_token
  intro name resolves
  rcases token.resolved _ ⟨_, List.mem_singleton.mpr rfl, rfl, rfl⟩ with
    ⟨error, throws, -⟩ | ⟨versionName, returns, inside⟩
  · cases throws.symm.trans resolves
  · cases returns.symm.trans resolves
    exact inside

/-- A reference to a numbered version is confined. -/
theorem secrets_confined_token :
    SecretsConfined ownResolver
      (fun _ => (.ok none : Except Unit (Option (List UInt8)))) "project-1"
      (tokenParameter
        "projects/project-1/secrets/job-param-token/versions/5") := by
  refine (secrets_confined_iff rfl ownResolver_project).mpr ?_
  rintro secretRef ⟨entry, member, -, same⟩
    ⟨id, version, isId, -, -, slash, rfl⟩
  obtain rfl := List.mem_singleton.mp member
  have shape :
      secretVersionName "project-1" "job-param-token" "5" =
        secretVersionName "project-1" id version :=
    Eq.trans (by decide) (Json.str.inj (Option.some.inj same))
  obtain ⟨-, rfl⟩ := secretVersionName_inj ownResolver_project.noSlash
    ⟨by decide, isId.noSlash⟩ shape
  exact absurd slash (by decide)

end SecretManagerParameterResolver

end IgaScheduler

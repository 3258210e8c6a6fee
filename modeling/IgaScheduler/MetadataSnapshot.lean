import IgaScheduler.JavaScript
import IgaScheduler.JobRun

namespace IgaScheduler

/-!
# Snapshot and live execution metadata

The definition document as Elasticsearch returns it, any of whose fields may
be missing or of another type, the snapshot a tick takes of it, and the two
ways `buildExecutionMetadata` reads one or the other.
-/

namespace ExecutionMetadata

/-- `value?.name`; `none` is `undefined`. -/
def field
    (value : Option Json)
    (name : String) :
    Option Json :=
  match value with
  | some (.obj fields) => fields.lookup name
  | _ => none

/-- The fields of an object literal that `JSON.stringify` keeps. -/
def defined (fields : List (String × Option Json)) : List (String × Json) :=
  fields.filterMap fun (name, value) => value.map fun value => (name, value)

/-- `first === second`; two objects are never the same one. -/
def strictEquals : Option Json → Option Json → Bool
  | none, none => true
  | some .null, some .null => true
  | some (.bool first), some (.bool second) => first = second
  | some (.num first firstExponent), some (.num second secondExponent) =>
      first * 10 ^ secondExponent = second * 10 ^ firstExponent
  | some (.str first), some (.str second) => first = second
  | _, _ => false

/-- `${value}` in a template. -/
def templateText (value : Option Json) : String :=
  (value.map JavaScript.text).getD "undefined"

/-! ## The snapshot of a tick -/

/-- The fields of a definition that dispatch needs. -/
def definitionFields (definition : Json) : List (String × Option Json) :=
  ["definitionId", "version", "runtime", "runtimeVersion",
    "wrapperVersion", "entrypoint", "timeoutSeconds"].map fun name =>
      (name, field (some definition) name)

/-- `value != null ? String(value) : null`. -/
def textOrNull : Option Json → Json
  | none => .null
  | some .null => .null
  | some value => .str (JavaScript.text value)

/-- `buildExecutionMetadataSnapshot`, after the definition has been fetched. -/
def buildExecutionMetadataSnapshot (definition : Option Json) : Json :=
  match definition with
  | none =>
      .obj [("definition", .null), ("definitionEnabled", .bool false),
        ("definitionState", .null), ("artifact", .null)]
  | some definition =>
      let jobZip := field (some definition) "jobZip"
      .obj [("definition", .obj (defined (definitionFields definition))),
        ("definitionEnabled",
          .bool (strictEquals (field (some definition) "enabled")
            (some (.bool true)))),
        ("definitionState",
          (field (some definition) "state").getD .null),
        ("artifact",
          if JavaScript.truthy jobZip then
            .obj (defined [("uri", field jobZip "uri"),
              ("sha256", field jobZip "sha256"),
              ("generation", some (textOrNull (field jobZip "generation")))])
          else
            .null)]

/-! ## `WorkerRunService.buildExecutionMetadata` -/

/-- `executionMetadataError(code, message)`. -/
structure Failure where
  code : String
  message : String
  deriving DecidableEq, Repr

/-- What is executed: fields that are `undefined` are left out. -/
structure Built where
  definition : List (String × Json)
  artifact : List (String × Json)

/-- The fields of a run that `buildExecutionMetadata` reads. -/
structure Run where
  definitionId : Option Json
  definitionVersion : Option Json
  executionMetadata : Option Json

def notFound (run : Run) : Failure where
  code := "DEFINITION_NOT_FOUND"
  message :=
    s!"job definition {templateText run.definitionId} was not found"

def notActive (run : Run) : Failure where
  code := "DEFINITION_NOT_ACTIVE"
  message :=
    s!"job definition {templateText run.definitionId} is not active"

def versionMismatch
    (run : Run)
    (version : Option Json) :
    Failure where
  code := "DEFINITION_VERSION_MISMATCH"
  message :=
    s!"run requires definition version {templateText run.definitionVersion}, but current version is {templateText version}"

def artifactMissing (run : Run) : Failure where
  code := "DEFINITION_ARTIFACT_MISSING"
  message :=
    s!"job definition {templateText run.definitionId} is missing approved artifact metadata"

/-- `run.definitionVersion !== undefined && version !== run.definitionVersion`. -/
def mismatches
    (run : Run)
    (version : Option Json) :
    Bool :=
  run.definitionVersion.isSome && !strictEquals version run.definitionVersion

/-- `!artifact?.uri || !artifact?.sha256 || !artifact?.generation`. -/
def incomplete (artifact : Option Json) : Bool :=
  !JavaScript.truthy (field artifact "uri") ||
    !JavaScript.truthy (field artifact "sha256") ||
    !JavaScript.truthy (field artifact "generation")

/-- The fields of an object that is spread; other values have none here. -/
def spread : Option Json → List (String × Json)
  | some (.obj fields) => fields
  | _ => []

/-- `{ ...fields, name: value }`. -/
def overwrite
    (fields : List (String × Json))
    (name : String)
    (value : Json) :
    List (String × Json) :=
  if (fields.lookup name).isSome then
    fields.map fun entry => if entry.1 = name then (name, value) else entry
  else
    fields ++ [(name, value)]

/-- The branch of `buildExecutionMetadata` for a run with a snapshot. -/
def fromSnapshot
    (run : Run)
    (snapshot : Json) :
    Except Failure Built :=
  let definition := field (some snapshot) "definition"
  let artifact := field (some snapshot) "artifact"
  if !JavaScript.truthy definition then
    .error (notFound run)
  else if !strictEquals (field (some snapshot) "definitionEnabled")
        (some (.bool true)) ||
      !strictEquals (field (some snapshot) "definitionState")
        (some (.str "ACTIVE")) then
    .error (notActive run)
  else if mismatches run (field definition "version") then
    .error (versionMismatch run (field definition "version"))
  else if incomplete artifact then
    .error (artifactMissing run)
  else
    .ok {
      definition := spread definition
      artifact :=
        overwrite (spread artifact) "generation"
          (.str (templateText (field artifact "generation")))
    }

/-- The branch that looks the definition up. -/
def fromDefinition
    (run : Run)
    (definition : Option Json) :
    Except Failure Built :=
  match definition with
  | none => .error (notFound run)
  | some document =>
      let jobZip := field (some document) "jobZip"
      let version := field (some document) "version"
      if !strictEquals (field (some document) "enabled")
            (some (.bool true)) ||
          !strictEquals (field (some document) "state")
            (some (.str "ACTIVE")) then
        .error (notActive run)
      else if mismatches run version then
        .error (versionMismatch run version)
      else if incomplete jobZip then
        .error (artifactMissing run)
      else
        .ok {
          definition := defined (definitionFields document)
          artifact := defined [("uri", field jobZip "uri"),
            ("sha256", field jobZip "sha256"),
            ("generation",
              some (.str (templateText (field jobZip "generation"))))]
        }

/-- `buildExecutionMetadata`; `getDefinition` answers `null` for a miss. -/
def buildExecutionMetadata
    (run : Run)
    (getDefinition : Option Json) :
    Except Failure Built :=
  if !JavaScript.truthy run.definitionId then
    .error ⟨"RUN_DEFINITION_MISSING", "run definitionId is required"⟩
  else
    match run.executionMetadata with
    | none => fromDefinition run getDefinition
    | some snapshot =>
        if JavaScript.truthy (some snapshot) then
          fromSnapshot run snapshot
        else
          fromDefinition run getDefinition

/-- The run a worker loads, with `null` for a column that is `NULL`. -/
def loadedRun (run : RunDocument) : Run where
  definitionId := some (.str run.definitionId)
  definitionVersion :=
    some ((run.definitionVersion.map fun version => Json.num version 0).getD
      .null)
  executionMetadata := some (run.executionMetadata.getD .null)

/-! ## The two paths agree -/

/-- A generation is absent, a text that is not empty, or a positive number. -/
inductive GenerationAdmitted : Option Json → Prop where
  | absent : GenerationAdmitted none
  | text
      (generation : String)
      (nonempty : generation ≠ "") :
      GenerationAdmitted (some (.str generation))
  | number
      (mantissa : Int)
      (exponent : Nat)
      (positive : 0 < mantissa) :
      GenerationAdmitted (some (.num mantissa exponent))

/-- An admitted generation is there in the snapshot when it is there live. -/
theorem GenerationAdmitted.truthy_textOrNull
    {generation : Option Json}
    (admitted : GenerationAdmitted generation) :
    JavaScript.truthy (some (textOrNull generation)) =
      JavaScript.truthy generation := by
  cases admitted with
  | absent =>
      rfl
  | text generation nonempty =>
      rfl
  | number mantissa exponent positive =>
      have nonempty := JavaScript.numberText_ne_empty mantissa exponent
      simp [textOrNull, JavaScript.text, JavaScript.truthy, nonempty,
        positive.ne']

theorem GenerationAdmitted.text_textOrNull
    {generation : Option Json}
    (admitted : GenerationAdmitted generation)
    (there : JavaScript.truthy generation = true) :
    templateText (some (textOrNull generation)) =
      templateText generation := by
  cases admitted with
  | absent =>
      cases there
  | text | number =>
      rfl

/-- What is kept of a field is what the object had under its name. -/
theorem lookup_defined
    (names : List String)
    (value : String → Option Json)
    (name : String) :
    (defined (names.map fun name => (name, value name))).lookup name =
      if name ∈ names then value name else none := by
  induction names with
  | nil =>
      rfl
  | cons first rest inductionHypothesis =>
      cases there : value first with
      | none =>
          have skipped :
              defined ((first :: rest).map fun name => (name, value name)) =
                defined (rest.map fun name => (name, value name)) := by
            simp [defined, there]
          rw [skipped, inductionHypothesis]
          by_cases same : name = first
          · simp [same, there]
          · simp [same]
      | some found =>
          have kept :
              defined ((first :: rest).map fun name => (name, value name)) =
                (first, found) ::
                  defined (rest.map fun name => (name, value name)) := by
            simp [defined, there]
          rw [kept, List.lookup_cons, inductionHypothesis]
          by_cases same : name = first
          · simp [same, there]
          · have different : (name == first) = false := by
              simpa using same
            simp [different, same]

/-- The snapshot shows the version of the document. -/
theorem version_of_snapshot (document : Json) :
    field (some (.obj (defined (definitionFields document)))) "version" =
      field (some document) "version" := by
  simp only [field, definitionFields]
  rw [lookup_defined]
  simp

/-- The three fields of an artifact as a snapshot keeps them. -/
theorem field_artifact
    (uri sha256 : Option Json)
    (generation : Json) :
    field (some (.obj (defined [("uri", uri), ("sha256", sha256),
        ("generation", some generation)]))) "uri" = uri ∧
      field (some (.obj (defined [("uri", uri), ("sha256", sha256),
        ("generation", some generation)]))) "sha256" = sha256 ∧
      field (some (.obj (defined [("uri", uri), ("sha256", sha256),
        ("generation", some generation)]))) "generation" =
          some generation := by
  cases uri <;> cases sha256 <;> exact ⟨rfl, rfl, rfl⟩

/-- Overwriting the generation of an artifact keeps its other fields. -/
theorem overwrite_generation
    (uri sha256 : Option Json)
    (generation text : Json) :
    overwrite (defined [("uri", uri), ("sha256", sha256),
        ("generation", some generation)]) "generation" text =
      defined [("uri", uri), ("sha256", sha256),
        ("generation", some text)] := by
  cases uri <;> cases sha256 <;> rfl

/-- The four fields of the snapshot of a document. -/
theorem field_snapshot (document : Json) :
    field (some (buildExecutionMetadataSnapshot (some document)))
        "definition" =
        some (.obj (defined (definitionFields document))) ∧
      field (some (buildExecutionMetadataSnapshot (some document)))
        "definitionEnabled" =
        some (.bool (strictEquals (field (some document) "enabled")
          (some (.bool true)))) ∧
      field (some (buildExecutionMetadataSnapshot (some document)))
        "definitionState" =
        some ((field (some document) "state").getD .null) ∧
      field (some (buildExecutionMetadataSnapshot (some document)))
        "artifact" =
        some (if JavaScript.truthy (field (some document) "jobZip") then
          .obj (defined [
            ("uri", field (field (some document) "jobZip") "uri"),
            ("sha256", field (field (some document) "jobZip") "sha256"),
            ("generation", some (textOrNull
              (field (field (some document) "jobZip") "generation")))])
        else
          .null) :=
  ⟨rfl, rfl, rfl, rfl⟩

theorem strictEquals_bool_true (value : Bool) :
    strictEquals (some (.bool value)) (some (.bool true)) = value := by
  cases value <;> rfl

/-- A missing state is kept as `null`, which is not `ACTIVE` either. -/
theorem strictEquals_getD_null
    (state : Option Json)
    (text : String) :
    strictEquals (some (state.getD .null)) (some (.str text)) =
      strictEquals state (some (.str text)) := by
  cases state <;> rfl

/-- An object without an artifact has none of its fields. -/
theorem field_of_falsy
    {value : Option Json}
    (falsy : JavaScript.truthy value = false)
    (name : String) :
    field value name = none := by
  cases value with
  | none =>
      rfl
  | some value =>
      cases value with
      | obj fields =>
          cases falsy
      | _ =>
          rfl

/-- A snapshot is read as the document it was taken of. -/
theorem fromSnapshot_eq
    (run : Run)
    (document : Json)
    (admitted :
      GenerationAdmitted
        (field (field (some document) "jobZip") "generation")) :
    fromSnapshot run (buildExecutionMetadataSnapshot (some document)) =
      fromDefinition run (some document) := by
  obtain ⟨definition, enabled, state, artifact⟩ := field_snapshot document
  simp only [fromSnapshot, fromDefinition, definition, enabled, state,
    artifact, strictEquals_bool_true, strictEquals_getD_null,
    version_of_snapshot, spread]
  simp only [JavaScript.truthy_obj, Bool.not_true, Bool.false_eq_true,
    if_false]
  generalize field (some document) "jobZip" = jobZip at admitted ⊢
  by_cases there : JavaScript.truthy jobZip = true
  · simp only [there, if_true]
    obtain ⟨uri, sha256, generation⟩ :=
      field_artifact (field jobZip "uri") (field jobZip "sha256")
        (textOrNull (field jobZip "generation"))
    have same :
        incomplete (some (.obj (defined [("uri", field jobZip "uri"),
          ("sha256", field jobZip "sha256"),
          ("generation",
            some (textOrNull (field jobZip "generation")))]))) =
          incomplete jobZip := by
      rw [incomplete, uri, sha256, generation,
        admitted.truthy_textOrNull, incomplete]
    rw [same]
    cases complete : incomplete jobZip with
    | true =>
        rfl
    | false =>
        have generationThere :
            JavaScript.truthy (field jobZip "generation") = true := by
          simp only [incomplete, Bool.or_eq_false_iff,
            Bool.not_eq_false'] at complete
          exact complete.2
        rw [generation, admitted.text_textOrNull generationThere,
          overwrite_generation]
  · have falsy : JavaScript.truthy jobZip = false := by
      simpa using there
    have incompleteLive : incomplete jobZip = true := by
      simp [incomplete, field_of_falsy falsy, JavaScript.truthy]
    have incompleteSnapshot : incomplete (some .null) = true :=
      rfl
    simp only [falsy, Bool.false_eq_true, if_false, incompleteLive,
      incompleteSnapshot, if_true]

/-- A snapshot is never mistaken for an absent one. -/
theorem truthy_snapshot (definition : Option Json) :
    JavaScript.truthy (some (buildExecutionMetadataSnapshot definition)) =
      true := by
  cases definition <;> rfl

/-- The run with a snapshot needs no lookup and fares as the one without. -/
theorem buildExecutionMetadata_eq
    {definition : Option Json}
    (run : Run)
    (absent live : Option Json)
    (admitted :
      GenerationAdmitted
        (field (field definition "jobZip") "generation"))
    (falsy : JavaScript.truthy absent = false) :
    buildExecutionMetadata
        { run with
          executionMetadata :=
            some (buildExecutionMetadataSnapshot definition) }
        live =
      buildExecutionMetadata { run with executionMetadata := absent }
        definition := by
  have looksUp :
      buildExecutionMetadata { run with executionMetadata := absent }
          definition =
        if !JavaScript.truthy run.definitionId then
          .error ⟨"RUN_DEFINITION_MISSING", "run definitionId is required"⟩
        else
          fromDefinition run definition := by
    unfold buildExecutionMetadata
    cases absent with
    | none =>
        rfl
    | some value =>
        simp only [falsy, Bool.false_eq_true, if_false]
        rfl
  have reads :
      fromSnapshot run (buildExecutionMetadataSnapshot definition) =
        fromDefinition run definition := by
    cases definition with
    | none =>
        rfl
    | some document =>
        exact fromSnapshot_eq run document admitted
  rw [looksUp, ← reads]
  unfold buildExecutionMetadata
  simp only [truthy_snapshot, if_true]
  rfl

/--
For every definition document, the run that carries a tick's snapshot of it is
executed with the same definition and artifact, or refused with the same error,
as the run that looks the document up; through the table and back, too.
-/
theorem snapshot_agrees_with_lookup
    {definition : Option Json}
    (admitted :
      GenerationAdmitted
        (field (field definition "jobZip") "generation")) :
    (∀ (run : Run) (absent live : Option Json),
      JavaScript.truthy absent = false →
      buildExecutionMetadata
          { run with
            executionMetadata :=
              some (buildExecutionMetadataSnapshot definition) }
          live =
        buildExecutionMetadata { run with executionMetadata := absent }
          definition) ∧
    ∀ (run : RunDocument) (live : Option Json),
      buildExecutionMetadata
          (loadedRun (rowToDocument run.runId (documentToRow
            { run with
              executionMetadata :=
                some (buildExecutionMetadataSnapshot definition) })))
          live =
        buildExecutionMetadata
          (loadedRun (rowToDocument run.runId (documentToRow
            { run with executionMetadata := none })))
          definition := by
  constructor
  · intro run absent live falsy
    exact buildExecutionMetadata_eq run absent live admitted falsy
  · intro run live
    have stored :
        jsonColumn (some (buildExecutionMetadataSnapshot definition)) =
          some (buildExecutionMetadataSnapshot definition) := by
      cases definition <;> rfl
    have agree :=
      buildExecutionMetadata_eq (loadedRun run) (some .null) live admitted
        rfl
    simp only [loadedRun, rowToDocument, documentToRow, stored,
      Option.getD_some]
    exact agree

/-- A document whose artifact has a numeric generation. -/
def nightlyReport : Json :=
  .obj [("definitionId", .str "report"), ("version", .num 1 0),
    ("runtime", .str "javascript"), ("entrypoint", .str "index.js"),
    ("enabled", .bool true), ("state", .str "ACTIVE"),
    ("jobZip", .obj [("uri", .str "gs://jobs/report.zip"),
      ("sha256", .str "hash"), ("generation", .num 170000 0)])]

/-- The run of that document is executed alike by snapshot and by lookup. -/
theorem snapshot_agrees_with_lookup_nightlyReport :
    ∃ built,
      buildExecutionMetadata
          ⟨some (.str "report"), some (.num 1 0),
            some (buildExecutionMetadataSnapshot (some nightlyReport))⟩
          none = .ok built ∧
        buildExecutionMetadata
          ⟨some (.str "report"), some (.num 1 0), none⟩
          (some nightlyReport) = .ok built := by
  have admitted :
      GenerationAdmitted
        (field (field (some nightlyReport) "jobZip") "generation") :=
    .number 170000 0 (by decide)
  have agree :=
    (snapshot_agrees_with_lookup admitted).1
      ⟨some (.str "report"), some (.num 1 0), none⟩ none none rfl
  exact ⟨_, agree.trans rfl, rfl⟩

end ExecutionMetadata

end IgaScheduler

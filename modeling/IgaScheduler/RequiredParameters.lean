import IgaScheduler.ParameterAgreement

namespace IgaScheduler

namespace ParameterReaders

/-!
# Required parameters, from the instance to the job

The service checks that a required parameter is there and has its type, the
readers of both SDKs also that it is not empty, each in its own way.
-/

/-- A definition's parameters have names that `jobParameterSchema` accepts. -/
theorem isParameterName_of_parsed
    {inputs : List (String × String × Option Bool)}
    {parameters : List JobParameter}
    (parsed : inputs.mapM parseJobParameter = some parameters) :
    ∀ parameter ∈ parameters, isParameterName parameter.name = true := by
  induction inputs generalizing parameters with
  | nil =>
      cases parsed
      exact fun _ member => (List.not_mem_nil member).elim
  | cons input rest inductionHypothesis =>
      rw [List.mapM_cons] at parsed
      obtain ⟨first, parsedFirst, parsed⟩ := Option.bind_eq_some_iff.mp parsed
      obtain ⟨others, parsedRest, parsed⟩ := Option.bind_eq_some_iff.mp parsed
      cases parsed
      intro parameter member
      rcases List.mem_cons.mp member with rfl | later
      · obtain ⟨name, type, required⟩ := input
        unfold parseJobParameter at parsedFirst
        dsimp only at parsedFirst
        split at parsedFirst
        · rename_i named
          obtain ⟨type, -, rfl⟩ := Option.map_eq_some_iff.mp parsedFirst
          exact named
        · cases parsedFirst
      · exact inductionHypothesis parsedRest parameter later

theorem isParameterName_of_defined
    {upload : DefinitionInput}
    {definition : DefinitionMetadata}
    (defined : createJobDefinitionSchema upload = some definition) :
    ∀ parameter ∈ definition.parameters,
      isParameterName parameter.name = true := by
  unfold createJobDefinitionSchema at defined
  split at defined
  · obtain ⟨runtime, -, rest⟩ := Option.bind_eq_some_iff.mp defined
    obtain ⟨parameters, parsed, rfl⟩ := Option.map_eq_some_iff.mp rest
    exact isParameterName_of_parsed parsed
  · cases defined

theorem ne_proto_of_isParameterName
    {name : String}
    (named : isParameterName name = true) :
    name ≠ "__proto__" := by
  rintro rfl
  have unnamed : isParameterName "__proto__" = false := by decide
  rw [unnamed] at named
  cases named

/-! ## What a job can read -/

/-- A job reads its required parameters as the instance stores them. -/
structure RequiredRead
    (schema : List JobParameter)
    (parameters : Parameters)
    (params : List (String × Json)) :
    Prop where
  strings :
    ∀ parameter ∈ schema,
      parameter.required = true →
      parameter.type = .string →
      ∃ text,
        parameters.lookup parameter.name = some (.string text) ∧
          requiredString params parameter.name = .ok (.json (.str text)) ∧
          Python.requiredString params parameter.name = .ok (.str text)
  arrays :
    ∀ parameter ∈ schema,
      parameter.required = true →
      parameter.type = .stringArray →
      ∃ texts,
        parameters.lookup parameter.name = some (.stringArray texts) ∧
          requiredStringArray params parameter.name =
            .ok (.json (.arr (texts.map .str))) ∧
          Python.requiredStringArray params parameter.name =
            .ok (.arr (texts.map .str))

/-- The readers of both SDKs accept the value of a name, or neither does. -/
structure ReadersAcceptAlike
    (params : List (String × Json))
    (name : String) :
    Prop where
  strings :
    (∃ value, requiredString params name = .ok value) ↔
      ∃ value, Python.requiredString params name = .ok value
  arrays :
    (∃ value, requiredStringArray params name = .ok value) ↔
      ∃ value, Python.requiredStringArray params name = .ok value

/-- No required parameter is an empty text or an empty list. -/
def NoneEmpty
    (schema : List JobParameter)
    (parameters : Parameters) :
    Prop :=
  ∀ parameter ∈ schema,
    parameter.required = true →
      parameters.lookup parameter.name ≠ some (.string "") ∧
        parameters.lookup parameter.name ≠ some (.stringArray [])

theorem readersAcceptAlike_iff
    {params : List (String × Json)}
    {name : String} :
    ReadersAcceptAlike params name ↔
      ∀ items,
        params.lookup name = some (.arr items) →
        items ≠ [] ∧ AreTexts items := by
  constructor
  · intro alike items found
    by_cases empty : items = []
    · subst empty
      have accepted : requiredStringArray params name = .ok (.json (.arr [])) :=
        requiredStringArray_eq_ok.mpr
          ⟨[], fun _ member => (List.not_mem_nil member).elim, found, rfl⟩
      obtain ⟨value, acceptedToo⟩ := alike.arrays.mp ⟨_, accepted⟩
      obtain ⟨others, nonempty, foundToo, -⟩ :=
        Python.requiredStringArray_eq_ok.mp acceptedToo
      cases found.symm.trans foundToo
      exact (nonempty rfl).elim
    · have accepted :
          Python.requiredStringArray params name = .ok (.arr items) :=
        Python.requiredStringArray_eq_ok.mpr ⟨items, empty, found, rfl⟩
      obtain ⟨value, acceptedToo⟩ := alike.arrays.mpr ⟨_, accepted⟩
      obtain ⟨others, texts, foundToo, -⟩ :=
        requiredStringArray_eq_ok.mp acceptedToo
      cases found.symm.trans foundToo
      exact ⟨empty, texts⟩
  · intro usual
    refine ⟨⟨?_, ?_⟩, ⟨?_, ?_⟩⟩
    · rintro ⟨value, accepted⟩
      obtain ⟨text, nonempty, found, -⟩ := requiredString_eq_ok.mp accepted
      exact ⟨_, Python.requiredString_eq_ok.mpr ⟨text, nonempty, found, rfl⟩⟩
    · rintro ⟨value, accepted⟩
      obtain ⟨text, nonempty, found, -⟩ :=
        Python.requiredString_eq_ok.mp accepted
      exact ⟨_, requiredString_eq_ok.mpr ⟨text, nonempty, found, rfl⟩⟩
    · rintro ⟨value, accepted⟩
      obtain ⟨items, -, found, -⟩ := requiredStringArray_eq_ok.mp accepted
      exact ⟨_, Python.requiredStringArray_eq_ok.mpr
        ⟨items, (usual items found).1, found, rfl⟩⟩
    · rintro ⟨value, accepted⟩
      obtain ⟨items, -, found, -⟩ :=
        Python.requiredStringArray_eq_ok.mp accepted
      exact ⟨_, requiredStringArray_eq_ok.mpr
        ⟨items, (usual items found).2, found, rfl⟩⟩

section Created

variable {resolver : SecretManagerParameterResolver}
variable {Error : Type}
variable {client : SecretManager Error}
variable {schema : List JobParameter}
variable {parameters : Parameters}
variable {resolved : List (String × ResolvedParameter)}

/-- A text in the context is read in both SDKs, unless it is empty. -/
theorem requiredString_stored
    {params : List (String × Json)}
    {name text : String}
    (stored : params.lookup name = some (.str text)) :
    requiredString params name = .ok (.json (.str text)) ∧
        Python.requiredString params name = .ok (.str text) ↔
      text ≠ "" := by
  constructor
  · rintro ⟨returned, -⟩
    obtain ⟨read, nonempty, -, same⟩ := requiredString_eq_ok.mp returned
    cases same
    exact nonempty
  · intro nonempty
    exact ⟨requiredString_eq_ok.mpr ⟨text, nonempty, stored, rfl⟩,
      Python.requiredString_eq_ok.mpr ⟨text, nonempty, stored, rfl⟩⟩

/-- So is a list of texts. -/
theorem requiredStringArray_stored
    {params : List (String × Json)}
    {name : String}
    {texts : List String}
    (stored : params.lookup name = some (.arr (texts.map .str))) :
    requiredStringArray params name = .ok (.json (.arr (texts.map .str))) ∧
        Python.requiredStringArray params name =
          .ok (.arr (texts.map .str)) ↔
      texts ≠ [] := by
  have areTexts : AreTexts (texts.map Json.str) := by
    intro item member
    obtain ⟨text, -, rfl⟩ := List.mem_map.mp member
    exact ⟨text, rfl⟩
  constructor
  · rintro ⟨-, returned⟩ rfl
    obtain ⟨items, nonempty, -, same⟩ :=
      Python.requiredStringArray_eq_ok.mp returned
    cases same
    exact nonempty rfl
  · intro nonempty
    have nonemptyToo : texts.map Json.str ≠ [] :=
      mt List.map_eq_nil_iff.mp nonempty
    exact ⟨requiredStringArray_eq_ok.mpr ⟨_, areTexts, stored, rfl⟩,
      Python.requiredStringArray_eq_ok.mpr ⟨_, nonemptyToo, stored, rfl⟩⟩

/-- What the service accepted is read, unless it is empty. -/
theorem requiredRead_iff
    (conforms : Conforms parameters schema)
    (named : ∀ parameter ∈ schema, isParameterName parameter.name = true)
    (finished :
      (resolver.resolveParameters client (entries parameters)).outcome =
        .ok resolved) :
    RequiredRead schema parameters (contextParams resolved) ↔
      NoneEmpty schema parameters := by
  have inContext
      {parameter : JobParameter}
      {value : ParameterValue}
      {plain : Json}
      (declared : parameter ∈ schema)
      (found : parameters.lookup parameter.name = some value)
      (isPlain : plainValue value = some plain) :
      (contextParams resolved).lookup parameter.name = some plain :=
    lookup_params finished
      (ne_proto_of_isParameterName (named parameter declared)) found isPlain
  constructor
  · intro read parameter declared required
    constructor
    · intro found
      have isString := ParameterValue.type_of_hasType
        (conforms.typed parameter declared _ found)
      obtain ⟨text, stored, returned⟩ :=
        read.strings parameter declared required isString.symm
      cases found.symm.trans stored
      exact (requiredString_stored (inContext declared found rfl)).mp
        returned rfl
    · intro found
      have isArray := ParameterValue.type_of_hasType
        (conforms.typed parameter declared _ found)
      obtain ⟨texts, stored, returned⟩ :=
        read.arrays parameter declared required isArray.symm
      cases found.symm.trans stored
      exact (requiredStringArray_stored (inContext declared found rfl)).mp
        returned rfl
  · intro noneEmpty
    constructor
    · intro parameter declared required isString
      obtain ⟨supplied, found, sameType⟩ :=
        conforms.supplied declared required
      rw [isString] at sameType
      cases supplied with
      | stringArray texts =>
          cases sameType
      | sensitive secretRef =>
          cases sameType
      | string text =>
          refine ⟨text, found,
            (requiredString_stored (inContext declared found rfl)).mpr ?_⟩
          rintro rfl
          exact (noneEmpty parameter declared required).1 found
    · intro parameter declared required isArray
      obtain ⟨supplied, found, sameType⟩ :=
        conforms.supplied declared required
      rw [isArray] at sameType
      cases supplied with
      | string text =>
          cases sameType
      | sensitive secretRef =>
          cases sameType
      | stringArray texts =>
          refine ⟨texts, found, (requiredStringArray_stored
            (inContext declared found rfl)).mpr ?_⟩
          rintro rfl
          exact (noneEmpty parameter declared required).2 found

/--
What an instance was created with can be read by its jobs in both SDKs,
unless it is empty; and both accept the same values, apart from lists that are
empty or have an item that is no text.
-/
theorem required_parameters_read_iff
    {upload : DefinitionInput}
    {definition : DefinitionMetadata}
    {body : InstanceInput}
    {created : NewInstance}
    (defined : createJobDefinitionSchema upload = some definition)
    (_parsed : createJobInstanceSchema body = some created)
    (valid :
      validateParametersAgainstDefinition created.parameters
        definition.parameters = none)
    (finished :
      (resolver.resolveParameters client
        (entries created.parameters)).outcome = .ok resolved) :
    (RequiredRead definition.parameters created.parameters
        (contextParams resolved) ↔
      NoneEmpty definition.parameters created.parameters) ∧
      ∀ (params : List (String × Json)) (name : String),
        ReadersAcceptAlike params name ↔
          ∀ items,
            params.lookup name = some (.arr items) →
            items ≠ [] ∧ AreTexts items :=
  ⟨requiredRead_iff (conforms_of_validate valid)
    (isParameterName_of_defined defined) finished,
    fun _ _ => readersAcceptAlike_iff⟩

end Created

/-! ## An empty text -/

/-- A definition with one required parameter. -/
def modeUpload : DefinitionInput where
  definitionId := "export"
  name := "Export"
  runtime := "python"
  runtimeVersion := "3.12"
  wrapperVersion := "1"
  entrypoint := "job.py"
  parameters := some [("mode", "string", some true)]
  timeoutSeconds := none
  memoryMb := none

def modeDefinition : DefinitionMetadata where
  definitionId := "export"
  name := "Export"
  runtime := .python
  runtimeVersion := "3.12"
  wrapperVersion := "1"
  entrypoint := "job.py"
  parameters := [⟨"mode", .string, true⟩]
  timeoutSeconds := 1800
  memoryMb := none

theorem modeUpload_parsed :
    createJobDefinitionSchema modeUpload = some modeDefinition := by
  decide

/-- An instance of it. -/
def modeBody (mode : String) : InstanceInput where
  instanceId := "nightly"
  enabled := none
  schedule := ⟨"cron", "0 0 * * *", none⟩
  parameters := some [("mode", .string mode)]

def modeInstance (mode : String) : NewInstance where
  instanceId := "nightly"
  enabled := true
  schedule := ⟨"cron", some "0 0 * * *", none, some "UTC"⟩
  parameters := [("mode", .string mode)]

theorem modeBody_parsed (mode : String) :
    createJobInstanceSchema (modeBody mode) = some (modeInstance mode) := by
  have identified : isIdentifier "nightly" = true := by decide
  unfold createJobInstanceSchema
  rw [if_pos ⟨identified, rfl⟩]
  rfl

/--
The service accepts an empty text for a required parameter, which no job can
read; and the readers disagree about an empty list.
-/
theorem empty_mode_unread :
    createJobDefinitionSchema modeUpload = some modeDefinition ∧
      createJobInstanceSchema (modeBody "") = some (modeInstance "") ∧
      validateParametersAgainstDefinition (modeInstance "").parameters
        modeDefinition.parameters = none ∧
      (∃ resolved,
        (nightlyResolver.resolveParameters
          (fun _ => .ok none : SecretManager Unit)
          (entries (modeInstance "").parameters)).outcome = .ok resolved ∧
        ¬ RequiredRead modeDefinition.parameters (modeInstance "").parameters
          (contextParams resolved)) ∧
      ¬ ReadersAcceptAlike [("groups", .arr [])] "groups" := by
  refine ⟨modeUpload_parsed, modeBody_parsed "", by decide, ?_, ?_⟩
  · refine ⟨[("mode", .value (some (.str "")))], rfl, ?_⟩
    intro read
    obtain ⟨text, -, returned, -⟩ :=
      read.strings _ List.mem_cons_self rfl rfl
    have refused :
        requiredString [("mode", .str "")] "mode" =
          .error (missing "mode") := rfl
    cases refused.symm.trans returned
  · intro alike
    obtain ⟨value, accepted⟩ := alike.arrays.mp ⟨.json (.arr []), rfl⟩
    have refused :
        Python.requiredStringArray [("groups", .arr [])] "groups" =
          .error "missing required string array parameter: groups" := rfl
    cases refused.symm.trans accepted

/-- A text that is not empty is read. -/
theorem full_mode_read :
    RequiredRead modeDefinition.parameters (modeInstance "full").parameters
      [("mode", .str "full")] := by
  have valid :
      validateParametersAgainstDefinition (modeInstance "full").parameters
        modeDefinition.parameters = none := by
    decide
  have finished :
      (nightlyResolver.resolveParameters
        (fun _ => .ok none : SecretManager Unit)
        (entries (modeInstance "full").parameters)).outcome =
          .ok [("mode", .value (some (.str "full")))] := rfl
  have read := required_parameters_read_iff modeUpload_parsed
    (modeBody_parsed "full") valid finished
  refine read.1.mpr ?_
  intro parameter declared _
  cases List.mem_singleton.mp declared
  exact ⟨by decide, by decide⟩

end ParameterReaders

end IgaScheduler

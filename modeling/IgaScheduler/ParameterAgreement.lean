import IgaScheduler.ParameterReaders

namespace IgaScheduler

namespace ParameterReaders

open PublicRuns (parameterValueJson)

/-!
# Parameters in a local run and in a production run

`LocalParameterResolver` leaves a parameter as the tagged object that the
instance stores, `SecretManagerParameterResolver` takes its value out of it.
So a job reads the same in both only where there is no parameter at all.
-/

/-- None of the parameters is a reference to a secret. -/
def Insensitive (parameters : Parameters) : Prop :=
  ∀ entry ∈ parameters, ∃ plain, plainValue entry.2 = some plain

/-- Two contexts that a job cannot tell apart by its parameters. -/
structure SameReadings (here there : List (String × Json)) : Prop where
  params : ∀ name, here.lookup name = there.lookup name
  read : ∀ call : ReaderCall, call.read here = call.read there

section Resolvers

variable {env : String → Option String}
variable {resolver : SecretManagerParameterResolver}
variable {Error : Type}
variable {client : SecretManager Error}
variable {parameters : Parameters}

variable (env resolver client parameters) in
/-- A local run of an instance has the parameters of one in production. -/
def ResolversAgree : Prop :=
  ∃ resolved,
    (resolver.resolveParameters client (entries parameters)).outcome =
        .ok resolved ∧
      SameReadings (resolveLocally env (entries parameters))
        (contextParams resolved)

/-- Without a reference to a secret there is nothing that could fail. -/
theorem resolveEntries_of_insensitive
    {calls : List SecretAccess}
    {before : List (String × ResolvedParameter)}
    (insensitive : Insensitive parameters) :
    ∃ resolved,
      (resolver.resolveEntries client (entries parameters) calls
        before).outcome = .ok resolved := by
  induction parameters generalizing calls before with
  | nil =>
      exact ⟨before, rfl⟩
  | cons entry rest inductionHypothesis =>
      obtain ⟨name, value⟩ := entry
      have restInsensitive : Insensitive rest := fun other member =>
        insensitive other (List.mem_cons_of_mem _ member)
      cases value with
      | string text =>
          exact inductionHypothesis restInsensitive
      | stringArray texts =>
          exact inductionHypothesis restInsensitive
      | sensitive secretRef =>
          obtain ⟨_, impossible⟩ := insensitive _ List.mem_cons_self
          cases impossible

/-- A field named `__proto__` leaves nothing behind. -/
theorem resolveEntries_of_proto
    {calls : List SecretAccess}
    {before resolved : List (String × ResolvedParameter)}
    (proto : ∀ entry ∈ parameters, entry.1 = "__proto__")
    (finished :
      (resolver.resolveEntries client (entries parameters) calls
        before).outcome = .ok resolved) :
    resolved = before := by
  induction parameters generalizing calls before with
  | nil =>
      cases finished
      rfl
  | cons entry rest inductionHypothesis =>
      obtain ⟨later, given, finishedLater, -⟩ := resolveEntries_cons finished
      have unassigned : assignField before entry.1 given = before :=
        if_pos (proto entry List.mem_cons_self)
      rw [unassigned] at finishedLater
      apply inductionHypothesis
      · intro other member
        exact proto other (List.mem_cons_of_mem _ member)
      · exact finishedLater

theorem resolveLocally_of_proto
    (proto : ∀ entry ∈ parameters, entry.1 = "__proto__") :
    resolveLocally env (entries parameters) = [] := by
  apply List.filterMap_eq_nil_iff.mpr
  intro entry member
  obtain ⟨origin, originMember, rfl⟩ := List.mem_map.mp member
  exact if_pos (proto origin originMember)

/-- A tagged object is never the value it carries. -/
theorem localValue_ne
    {name : String}
    {value : ParameterValue}
    {plain : Json}
    (isPlain : plainValue value = some plain) :
    localValue env name (parameterValueJson value) ≠ plain := by
  cases value with
  | string text =>
      cases isPlain
      exact nofun
  | stringArray texts =>
      cases isPlain
      exact nofun
  | sensitive secretRef =>
      cases isPlain

/-- The parameter that a name stands for is an entry. -/
theorem mem_of_lookup
    {name : String}
    {value : ParameterValue}
    (found : parameters.lookup name = some value) :
    (name, value) ∈ parameters := by
  obtain ⟨earlier, later, rfl, -⟩ := List.lookup_eq_some_iff.mp found
  exact List.mem_append_right earlier List.mem_cons_self

theorem lookup_of_mem
    {name : String}
    {value : ParameterValue}
    (member : (name, value) ∈ parameters) :
    ∃ found, parameters.lookup name = some found := by
  cases found : parameters.lookup name with
  | some first =>
      exact ⟨first, rfl⟩
  | none =>
      have different := List.lookup_eq_none_iff.mp found _ member
      exact (bne_iff_ne.mp different rfl).elim

/-- Both resolvers give a job the same parameters, if they give it none. -/
theorem resolversAgree_iff
    (insensitive : Insensitive parameters) :
    ResolversAgree env resolver client parameters ↔
      ∀ entry ∈ parameters, entry.1 = "__proto__" := by
  constructor
  · rintro ⟨resolved, finished, same⟩ ⟨name, value⟩ member
    by_contra ordinary
    obtain ⟨first, found⟩ := lookup_of_mem member
    obtain ⟨plain, isPlain⟩ := insensitive _ (mem_of_lookup found)
    have inProduction := lookup_params finished ordinary found isPlain
    have inDevelopment :
        (resolveLocally env (entries parameters)).lookup name =
          some (localValue env name (parameterValueJson first)) := by
      rw [lookup_resolveLocally ordinary, lookup_entries, found]
      rfl
    rw [← same.params, inDevelopment] at inProduction
    exact localValue_ne isPlain (Option.some.inj inProduction)
  · intro proto
    obtain ⟨resolved, finished⟩ :=
      resolveEntries_of_insensitive insensitive
    have nothing : resolved = [] := resolveEntries_of_proto proto finished
    refine ⟨resolved, finished, ?_⟩
    rw [resolveLocally_of_proto proto, nothing]
    exact ⟨fun _ => rfl, fun _ => rfl⟩

end Resolvers

/-- A resolver of the project `nightly`, and the parameter `mode` of a job. -/
def nightlyResolver : SecretManagerParameterResolver where
  projectId := some "nightly"

def fullMode : Parameters :=
  [("mode", .string "full")]

theorem insensitive_fullMode : Insensitive fullMode := by
  intro entry member
  cases List.mem_singleton.mp member
  exact ⟨.str "full", rfl⟩

/-- In a local run `requiredString("mode")` throws; in production it does not. -/
theorem fullMode_read_apart :
    Insensitive fullMode ∧
      ¬ ResolversAgree (fun _ => none) nightlyResolver
        (fun _ => .ok none : SecretManager Unit) fullMode := by
  refine ⟨insensitive_fullMode, ?_⟩
  rintro ⟨resolved, finished, same⟩
  cases finished
  have locally :
      requiredString (resolveLocally (fun _ => none) (entries fullMode))
        "mode" = .error (invalid "mode" "string") := rfl
  have read := same.read (.requiredString "mode")
  cases locally.symm.trans read

/-- Both resolvers drop a field `__proto__`. -/
theorem proto_read_alike :
    ResolversAgree (fun _ => none) nightlyResolver
      (fun _ => .ok none : SecretManager Unit)
      [("__proto__", .string "full")] := by
  have insensitive : Insensitive [("__proto__", .string "full")] := by
    intro entry member
    cases List.mem_singleton.mp member
    exact ⟨.str "full", rfl⟩
  refine (resolversAgree_iff insensitive).mpr ?_
  intro entry member
  cases List.mem_singleton.mp member
  rfl

end ParameterReaders

end IgaScheduler

import IgaScheduler.CivilTime
import IgaScheduler.Values

namespace IgaScheduler

/-!
# Run identifiers

A run that a tick creates is named after its instance and its fire time, so
that a second attempt to create it meets the first one.
-/

/-- `Date.prototype.toISOString`. -/
def toISOString (instant : Timestamp) : String :=
  String.ofList (Civil.text instant)

/-- The instance part of a run id, with its tenant in front when there is one. -/
def runIdScope
    (tenantId : Option String)
    (instanceId : String) :
    String :=
  match tenantId with
  | none => instanceId
  | some tenant =>
      if tenant = "" then instanceId else tenant ++ ":" ++ instanceId

/-- `buildRunId`; it throws when there is no instance id. -/
def buildRunId
    (tenantId : Option String)
    (instanceId : String)
    (scheduledFireTime : Timestamp) :
    Option String :=
  if instanceId = "" then
    none
  else
    some (runIdScope tenantId instanceId ++ ":" ++
      toISOString scheduledFireTime)

/-- An identifier without a colon, as the schemas require. -/
def ColonFree (identifier : String) : Prop :=
  ':' ∉ identifier.toList

instance (identifier : String) : Decidable (ColonFree identifier) :=
  inferInstanceAs (Decidable (_ ∉ _))

/-- The instance id is what follows the last colon of the scope. -/
theorem runIdScope_inj
    {firstTenant secondTenant : Option String}
    {first second : String}
    (firstColonFree : ColonFree first)
    (secondColonFree : ColonFree second)
    (same :
      runIdScope firstTenant first = runIdScope secondTenant second) :
    first = second := by
  have shape (tenantId : Option String) (instanceId : String) :
      runIdScope tenantId instanceId = instanceId ∨
        ∃ tenant : String,
          (runIdScope tenantId instanceId).toList =
            tenant.toList ++ ':' :: instanceId.toList := by
    cases tenantId with
    | none =>
        exact .inl rfl
    | some tenant =>
        by_cases empty : tenant = ""
        · exact .inl (by simp [runIdScope, empty])
        · exact .inr ⟨tenant, by simp [runIdScope, empty]⟩
  rcases shape firstTenant first with
    firstPlain | ⟨firstName, firstNamed⟩
  · rcases shape secondTenant second with
      secondPlain | ⟨secondName, secondNamed⟩
    · rw [← firstPlain, same, secondPlain]
    · rw [← same, firstPlain] at secondNamed
      exact (firstColonFree (by simp [secondNamed])).elim
  · rcases shape secondTenant second with
      secondPlain | ⟨secondName, secondNamed⟩
    · rw [same, secondPlain] at firstNamed
      exact (secondColonFree (by simp [firstNamed])).elim
    · rw [same, secondNamed] at firstNamed
      have split :=
        Civil.split_at_last secondColonFree firstColonFree firstNamed
      exact (String.toList_inj.mp split.2).symm

/-- A run id determines its instance and its fire time. -/
theorem buildRunId_inj
    {firstTenant secondTenant : Option String}
    {first second runId : String}
    {firstFire secondFire : Timestamp}
    (firstColonFree : ColonFree first)
    (secondColonFree : ColonFree second)
    (firstBuilt : buildRunId firstTenant first firstFire = some runId)
    (secondBuilt : buildRunId secondTenant second secondFire = some runId) :
    first = second ∧ firstFire = secondFire := by
  have built
      {tenantId : Option String}
      {instanceId : String}
      {fire : Timestamp}
      (named : buildRunId tenantId instanceId fire = some runId) :
      runId.toList =
        (runIdScope tenantId instanceId).toList ++
          ':' :: Civil.text fire := by
    unfold buildRunId at named
    split at named
    · cases named
    · cases named
      simp [toISOString]
  obtain ⟨scopes, fires⟩ :=
    Civil.text_inj ((built firstBuilt).symm.trans (built secondBuilt))
  exact ⟨runIdScope_inj firstColonFree secondColonFree
    (String.toList_inj.mp scopes), fires⟩

example :
    buildRunId none "nightly" 951782400000 =
      some "nightly:2000-02-29T00:00:00.000Z" := by
  decide

end IgaScheduler

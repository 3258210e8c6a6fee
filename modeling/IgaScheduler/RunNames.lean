import IgaScheduler.JobDefinition
import IgaScheduler.JobRun

namespace IgaScheduler

/-!
# Unique run identifiers

Three call sites build run ids: the tick from an instance and its fire time,
run-now from an instance and a fresh UUID, and a re-drive from the id of the
run it copies and a fresh UUID.  The separator also occurs in fire times and in
the ids that a re-drive extends.  An id is read back from its end: the last
field and the one before it are free of colons, and the latter tells the three
call sites apart.
-/

/-- An instance id that `createJobInstanceSchema` accepts. -/
structure InstanceId where
  text : String
  accepted : isIdentifier text = true
  deriving DecidableEq

theorem InstanceId.colonFree (instanceId : InstanceId) :
    ColonFree instanceId.text :=
  colonFree_of_isIdentifier instanceId.accepted

/-- A hexadecimal digit, in either case. -/
def isHexDigit (char : Char) : Bool :=
  char.isDigit || ('a' ≤ char && char ≤ 'f') || ('A' ≤ char && char ≤ 'F')

/-- The text of a UUID: hexadecimal digits in groups of 8, 4, 4, 4 and 12. -/
def isUuid (text : String) : Bool :=
  text.toList.length = 36 &&
    text.toList.zipIdx.all fun (char, position) =>
      if position ∈ [8, 13, 18, 23] then char = '-' else isHexDigit char

/-- A value of `randomUUID()` in the format of a UUID. -/
structure RandomUuid extends Uuid where
  formatted : isUuid text = true
  deriving DecidableEq

theorem colonFree_of_isUuid
    {text : String}
    (formatted : isUuid text = true) :
    ColonFree text := by
  intro colon
  simp only [isUuid, Bool.and_eq_true, List.all_eq_true] at formatted
  obtain ⟨position, bound, stands⟩ := List.mem_iff_getElem.mp colon
  have checked :=
    formatted.2 (text.toList[position], position)
      (List.mem_zipIdx_iff_getElem?.mpr (List.getElem?_eq_getElem bound))
  simp only [stands] at checked
  split at checked
  · cases checked
  · cases checked

/-- What a run id is built from. -/
inductive RunName where
  | tick
      (instanceId : InstanceId)
      (scheduledFireTime : Timestamp)
  | runNow
      (instanceId : InstanceId)
      (uuid : RandomUuid)
  | redrive
      (source : RunName)
      (uuid : RandomUuid)
  deriving DecidableEq

/-- The ids that the three call sites build. -/
inductive RunName.Identifies : RunName → String → Prop where
  | tick
      {instanceId : InstanceId}
      {scheduledFireTime : Timestamp}
      {runId : String}
      (built :
        buildRunId none instanceId.text scheduledFireTime = some runId) :
      Identifies (.tick instanceId scheduledFireTime) runId
  | runNow
      {instanceId : InstanceId}
      {jobInstance : InstanceDocument}
      (ofInstance : jobInstance.instanceId = instanceId.text)
      (nowIso : Timestamp)
      (uuid : RandomUuid) :
      Identifies (.runNow instanceId uuid)
        (runNowDocument jobInstance nowIso uuid.toUuid).runId
  | redrive
      {name : RunName}
      {source : RunDocument}
      (ofSource : Identifies name source.runId)
      (nowIso : Timestamp)
      (uuid : RandomUuid)
      (dispatchUuid : Uuid) :
      Identifies (.redrive name uuid)
        (redriveDocument source nowIso uuid.toUuid dispatchUuid).runId

/-! ## Reading an id from its end -/

/-- The last two fields of an id, and what stands before them. -/
structure LastFields
    (runId : String)
    (scope kind last : List Char) :
    Prop where
  shape : runId.toList = (scope ++ ':' :: kind) ++ ':' :: last
  kindColonFree : ':' ∉ kind
  lastColonFree : ':' ∉ last

theorem LastFields.unique
    {runId : String}
    {scope scope' kind kind' last last' : List Char}
    (fields : LastFields runId scope kind last)
    (fields' : LastFields runId scope' kind' last') :
    scope = scope' ∧ kind = kind' ∧ last = last' := by
  obtain ⟨fronts, lasts⟩ :=
    Civil.split_at_last fields.lastColonFree fields'.lastColonFree
      (fields.shape.symm.trans fields'.shape)
  obtain ⟨scopes, kinds⟩ :=
    Civil.split_at_last fields.kindColonFree fields'.kindColonFree fronts
  exact ⟨scopes, kinds, lasts⟩

/-- The id of a tick's run ends with the minute and the second. -/
theorem lastFields_tick
    {instanceId : InstanceId}
    {scheduledFireTime : Timestamp}
    {runId : String}
    (built :
      buildRunId none instanceId.text scheduledFireTime = some runId) :
    LastFields runId
      (instanceId.text.toList ++
        ':' :: Civil.dateHourText (Civil.parts scheduledFireTime))
      (Civil.padded 2 (Civil.parts scheduledFireTime).minute)
      (Civil.secondText (Civil.parts scheduledFireTime)) := by
  refine ⟨?_, Civil.not_mem_padded _ _ rfl,
    Civil.colon_not_mem_secondText _⟩
  unfold buildRunId at built
  split at built
  · cases built
  · cases built
    simp [runIdScope, toISOString, Civil.text]

theorem lastFields_runNow
    (jobInstance : InstanceDocument)
    (nowIso : Timestamp)
    (uuid : RandomUuid) :
    LastFields (runNowDocument jobInstance nowIso uuid.toUuid).runId
      jobInstance.instanceId.toList "manual".toList uuid.text.toList := by
  refine ⟨?_, by decide, colonFree_of_isUuid uuid.formatted⟩
  simp [runNowDocument]

theorem lastFields_redrive
    (source : RunDocument)
    (nowIso : Timestamp)
    (uuid : RandomUuid)
    (dispatchUuid : Uuid) :
    LastFields
      (redriveDocument source nowIso uuid.toUuid dispatchUuid).runId
      source.runId.toList "redrive".toList uuid.text.toList := by
  refine ⟨?_, by decide, colonFree_of_isUuid uuid.formatted⟩
  simp [redriveDocument]

/-- The minute of a fire time is a number, and so no word. -/
theorem padded_ne_of_letter
    {width value : Nat}
    {word : List Char}
    (letter : Char)
    (member : letter ∈ word)
    (noDigit : letter.isDigit = false) :
    Civil.padded width value ≠ word := by
  rintro rfl
  exact Civil.not_mem_padded width value noDigit member

theorem InstanceId.ext_text
    {first second : InstanceId}
    (same : first.text = second.text) :
    first = second := by
  obtain ⟨text, _⟩ := first
  cases same
  rfl

/-- `buildRunId` accepts every instance id, and its ids are all different. -/
theorem buildRunId_unique
    (instanceId : InstanceId)
    (fire : Timestamp) :
    ∃ runId,
      buildRunId none instanceId.text fire = some runId ∧
        ∀ (other : InstanceId) (fire' : Timestamp),
          buildRunId none other.text fire' = some runId →
          other = instanceId ∧ fire' = fire := by
  have nonempty : instanceId.text ≠ "" := by
    intro empty
    have accepted := instanceId.accepted
    rw [empty] at accepted
    cases accepted
  refine ⟨_, if_neg nonempty, ?_⟩
  intro other fire' built
  obtain ⟨ids, fires⟩ :=
    buildRunId_inj other.colonFree instanceId.colonFree built
      (if_neg nonempty)
  exact ⟨InstanceId.ext_text ids, fires⟩

theorem RandomUuid.ext_text
    {first second : RandomUuid}
    (same : first.text.toList = second.text.toList) :
    first = second := by
  obtain ⟨⟨text, _⟩, _⟩ := first
  obtain ⟨⟨text', _⟩, _⟩ := second
  cases String.toList_inj.mp same
  rfl

namespace RunName

/-- An id is built from one name only, however deep its re-drives are. -/
theorem Identifies.unique
    {first second : RunName}
    {runId runId' : String}
    (identifies : first.Identifies runId)
    (identifies' : second.Identifies runId')
    (same : runId = runId') :
    first = second := by
  induction identifies generalizing second runId' with
  | tick built =>
      have fields := lastFields_tick built
      rw [same] at fields built
      cases identifies' with
      | tick built' =>
          obtain ⟨ids, fires⟩ :=
            buildRunId_inj (InstanceId.colonFree _)
              (InstanceId.colonFree _) built built'
          rw [InstanceId.ext_text ids, fires]
      | runNow ofInstance nowIso uuid =>
          obtain ⟨-, kinds, -⟩ :=
            fields.unique (lastFields_runNow _ nowIso uuid)
          exact (padded_ne_of_letter 'm' (by decide) rfl kinds).elim
      | redrive ofSource nowIso uuid dispatchUuid =>
          obtain ⟨-, kinds, -⟩ :=
            fields.unique (lastFields_redrive _ nowIso uuid dispatchUuid)
          exact (padded_ne_of_letter 'r' (by decide) rfl kinds).elim
  | @runNow _ jobInstance ofInstance nowIso uuid =>
      have fields := lastFields_runNow jobInstance nowIso uuid
      rw [same] at fields
      cases identifies' with
      | tick built' =>
          obtain ⟨-, kinds, -⟩ := (lastFields_tick built').unique fields
          exact (padded_ne_of_letter 'm' (by decide) rfl kinds).elim
      | runNow ofInstance' nowIso' uuid' =>
          obtain ⟨ids, -, uuids⟩ :=
            fields.unique (lastFields_runNow _ nowIso' uuid')
          rw [String.toList_inj, ofInstance, ofInstance'] at ids
          rw [InstanceId.ext_text ids, RandomUuid.ext_text uuids]
      | redrive ofSource nowIso' uuid' dispatchUuid =>
          obtain ⟨-, kinds, -⟩ :=
            fields.unique (lastFields_redrive _ nowIso' uuid' dispatchUuid)
          exact absurd kinds (by decide)
  | @redrive _ source ofSource nowIso uuid dispatchUuid
      inductionHypothesis =>
      have fields := lastFields_redrive source nowIso uuid dispatchUuid
      rw [same] at fields
      cases identifies' with
      | tick built' =>
          obtain ⟨-, kinds, -⟩ := (lastFields_tick built').unique fields
          exact (padded_ne_of_letter 'r' (by decide) rfl kinds).elim
      | runNow ofInstance nowIso' uuid' =>
          obtain ⟨-, kinds, -⟩ :=
            fields.unique (lastFields_runNow _ nowIso' uuid')
          exact absurd kinds (by decide)
      | redrive ofSource' nowIso' uuid' dispatchUuid' =>
          obtain ⟨sources, -, uuids⟩ :=
            fields.unique
              (lastFields_redrive _ nowIso' uuid' dispatchUuid')
          rw [inductionHypothesis ofSource' (String.toList_inj.mp sources),
            RandomUuid.ext_text uuids]

end RunName

end IgaScheduler

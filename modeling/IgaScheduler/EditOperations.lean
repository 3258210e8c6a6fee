import IgaScheduler.InstanceCalls

namespace IgaScheduler

/-!
# What one operation does to a row

The columns an operation writes, those it copies from the row it has read, and
what it leaves as it was.
-/

/-- The row fires again no earlier than it has fired last. -/
def JobInstance.FireOrdered (row : JobInstance) : Prop :=
  ∀ last ∈ row.lastFireAt, ∀ next ∈ row.nextFireAt, last ≤ next

/-- A tick moves an instance to a later fire time. -/
theorem SchedulerTickService.lt_of_computeNextFireAt
    {cron : CronParser}
    {schedule : Schedule}
    {fire next : Timestamp}
    (later : cron.Later)
    (computed :
      SchedulerTickService.computeNextFireAt cron schedule fire =
        some next) :
    fire < next := by
  obtain ⟨expression, -, parsed⟩ := Option.bind_eq_some_iff.mp computed
  split at parsed
  · cases parsed
  · exact later _ _ _ _ parsed

namespace InstanceOperation

/-- The operation enables the instance or creates it anew. -/
def Revives : InstanceOperation → Prop
  | .created _ => True
  | .patched patch _ _ => patch.Enabling
  | _ => False

/-- The operation is a pause or a deletion. -/
def Disables : InstanceOperation → Prop
  | .patched patch _ _ => patch.enabled = some false
  | .deleted _ => True
  | _ => False

def IsDeletion : InstanceOperation → Prop
  | .deleted _ => True
  | _ => False

def IsCreation : InstanceOperation → Prop
  | .created _ => True
  | _ => False

/-- The operation is meant to write the `schedule` column. -/
def SetsSchedule : InstanceOperation → Prop
  | .created _ => True
  | .patched patch _ _ => patch.schedule.isSome = true
  | _ => False

/-- The operation is meant to write the `parameters` column. -/
def SetsParameters : InstanceOperation → Prop
  | .created _ => True
  | .patched patch _ _ => patch.parameters.isSome = true
  | _ => False

/-- A row with only the columns that the operation copies from its read. -/
def copied : InstanceOperation → JobInstance → JobInstance
  | .patched patch _ _, row =>
      { patch.merge row with
        nextFireAt := if patch.Reschedules then none else row.nextFireAt
        state := .active
        updatedAt := 0 }
  | .deleted _, row => deletedRow 0 row
  | _, row => row

/--
The row that is there admits the operation: only an enabling patch meets a
deleted row, and a patch that recomputes `nextFireAt` does not get a fire time
before the last one.
-/
def Admissible
    (cron : CronParser) :
    InstanceOperation →
      JobInstance →
      Prop
  | .patched patch fromDate _, row =>
      (row.state = .deleted → patch.Enabling) ∧
        (patch.Reschedules →
          ∀ last ∈ row.lastFireAt,
            ∀ next ∈
              computeNextFireAt cron (patch.merge row).schedule fromDate,
              last ≤ next)
  | _, _ => True

instance
    (cron : CronParser)
    (operation : InstanceOperation)
    (row : JobInstance) :
    Decidable (operation.Admissible cron row) :=
  match operation with
  | .patched .. => inferInstanceAs (Decidable (_ ∧ (_ → _)))
  | .created _ => isTrue trivial
  | .deleted _ => isTrue trivial
  | .advanced _ => isTrue trivial

/-- What an operation leaves as it was. -/
structure Keeps
    (operation : InstanceOperation)
    (before after : JobInstance) :
    Prop where
  disabled :
    ¬ operation.Revives → before.enabled = false → after.enabled = false
  deleted :
    ¬ operation.Revives →
      before.state = .deleted →
      after.state = .deleted
  schedule :
    ¬ operation.SetsSchedule → after.schedule = before.schedule
  parameters :
    ¬ operation.SetsParameters → after.parameters = before.parameters
  lastFireAt :
    ¬ operation.IsCreation →
      ∀ last ∈ before.lastFireAt, ∃ newer ∈ after.lastFireAt, last ≤ newer

variable {cron : CronParser}
variable {operation : InstanceOperation}
variable {before after : JobInstance}

/-- A patch succeeds exactly when it has a row to write. -/
theorem run_patched_eq_some
    {patch : InstancePatch}
    {fromDate updatedAt : Timestamp} :
    run cron (.patched patch fromDate updatedAt) (some before) =
        some after ↔
      patch.row cron fromDate updatedAt before = .ok after := by
  change (patch.row cron fromDate updatedAt before).toOption = _ ↔ _
  cases patch.row cron fromDate updatedAt before with
  | error error =>
      exact ⟨(nomatch ·), (nomatch ·)⟩
  | ok row =>
      exact ⟨fun ran => congrArg _ (Option.some.inj ran),
        fun written => congrArg some (Except.ok.inj written)⟩

/-- Only a creation needs no row to work on. -/
theorem run_none_eq_some
    (ran : operation.run cron none = some after) :
    operation = .created after := by
  cases operation with
  | created row =>
      exact congrArg _ (Option.some.inj ran)
  | patched | deleted | advanced =>
      cases ran

/-- A column that does not move is in order. -/
theorem Keeps.lastFireAt_of_eq
    (same : after.lastFireAt = before.lastFireAt) :
    ∀ last ∈ before.lastFireAt,
      ∃ newer ∈ after.lastFireAt, last ≤ newer := by
  intro last found
  exact ⟨last, by rw [same]; exact found, le_refl last⟩

/-- An edit that writes what its operation makes of the row executes it. -/
theorem run_of_rewrite
    (rewritten : EditInstance.rewrite cron before operation = .ok after) :
    operation.run cron (some before) = some after := by
  cases operation with
  | patched patch fromDate updatedAt =>
      exact run_patched_eq_some.mpr rewritten
  | deleted updatedAt =>
      cases rewritten
      rfl
  | created | advanced =>
      cases rewritten

/-- A tick that advances a due row to its next fire time executes an advance. -/
theorem run_advanced
    {nowIso fire next : Timestamp}
    (due : InstanceStore.due nowIso before = true)
    (fires : before.nextFireAt = some fire)
    (computed :
      SchedulerTickService.computeNextFireAt cron before.schedule fire =
        some next) :
    run cron (.advanced nowIso) (some before) =
      some ((InstanceStore.advanceInstance fire next nowIso).set before) := by
  simp only [run, Option.filter, due, if_true, Option.bind_some,
    advancedRow, fires, computed, Option.map_some]

/-- A patch that meets an admissible row keeps what it does not set. -/
theorem keeps_of_row
    {patch : InstancePatch}
    {fromDate updatedAt : Timestamp}
    (written : patch.row cron fromDate updatedAt before = .ok after)
    (admissible :
      (patched patch fromDate updatedAt).Admissible cron before) :
    (patched patch fromDate updatedAt).Keeps before after := by
  obtain ⟨-, nextFireAt, -, rfl⟩ := InstancePatch.row_eq_ok.mp written
  refine ⟨?_, ?_, ?_, ?_, fun _ => Keeps.lastFireAt_of_eq rfl⟩
  · intro notEnabling disabled
    change patch.enabled.getD before.enabled = false
    rw [disabled]
    cases enabled : patch.enabled with
    | none =>
        rfl
    | some value =>
        cases value with
        | false =>
            rfl
        | true =>
            exact (notEnabling enabled).elim
  · intro notEnabling deleted
    exact (notEnabling (admissible.1 deleted)).elim
  · intro silent
    change patch.schedule.getD before.schedule = before.schedule
    cases schedule : patch.schedule with
    | none =>
        rfl
    | some value =>
        refine (silent ?_).elim
        change patch.schedule.isSome = true
        rw [schedule]
        rfl
  · intro silent
    change patch.parameters.getD before.parameters = before.parameters
    cases parameters : patch.parameters with
    | none =>
        rfl
    | some value =>
        refine (silent ?_).elim
        change patch.parameters.isSome = true
        rw [parameters]
        rfl

/-- The row that an advance leaves, column by column. -/
theorem run_advanced_eq_some
    {nowIso : Timestamp}
    (ran : run cron (.advanced nowIso) (some before) = some after) :
    ∃ fire next,
      before.enabled = true ∧
        before.state = .active ∧
        before.nextFireAt = some fire ∧
        SchedulerTickService.computeNextFireAt cron before.schedule fire =
          some next ∧
        after = (InstanceStore.advanceInstance fire next nowIso).set
          before := by
  obtain ⟨row, claimed, advanced⟩ := Option.bind_eq_some_iff.mp ran
  obtain ⟨same, due⟩ := Option.filter_eq_some_iff.mp claimed
  cases same
  obtain ⟨fire, fires, computed⟩ := Option.bind_eq_some_iff.mp advanced
  obtain ⟨next, parsed, shape⟩ := Option.map_eq_some_iff.mp computed
  simp only [InstanceStore.due, Bool.and_eq_true, decide_eq_true_eq]
    at due
  exact ⟨fire, next, due.1.1, due.1.2, fires, parsed, shape.symm⟩

/-- An operation on a row that admits it keeps what it does not set. -/
theorem keeps_of_run
    (ran : operation.run cron (some before) = some after)
    (ordered : before.FireOrdered)
    (admissible : operation.Admissible cron before) :
    operation.Keeps before after := by
  cases operation with
  | created row =>
      exact ⟨fun silent => (silent trivial).elim,
        fun silent => (silent trivial).elim,
        fun silent => (silent trivial).elim,
        fun silent => (silent trivial).elim,
        fun silent => (silent trivial).elim⟩
  | patched patch fromDate updatedAt =>
      exact keeps_of_row (run_patched_eq_some.mp ran) admissible
  | deleted updatedAt =>
      cases ran
      exact ⟨fun _ _ => rfl, fun _ _ => rfl, fun _ => rfl, fun _ => rfl,
        fun _ => Keeps.lastFireAt_of_eq rfl⟩
  | advanced nowIso =>
      obtain ⟨fire, next, enabled, active, fires, computed, rfl⟩ :=
        run_advanced_eq_some ran
      refine ⟨?_, ?_, fun _ => rfl, fun _ => rfl, ?_⟩
      · intro _ disabled
        cases enabled.symm.trans disabled
      · intro _ deleted
        cases active.symm.trans deleted
      · intro _ last found
        exact ⟨fire, rfl, ordered last found fire fires⟩

/-- What an admissible operation leaves is again in order. -/
theorem fireOrdered_of_run
    (later : cron.Later)
    (ran : operation.run cron (some before) = some after)
    (ordered : before.FireOrdered)
    (admissible : operation.Admissible cron before)
    (unfired : ∀ row, operation = .created row → row.lastFireAt = none) :
    after.FireOrdered := by
  cases operation with
  | created row =>
      have same : row = after := by
        change
          (if InstanceStore.replaceable before then some row else none) =
            some after
          at ran
        split at ran
        · exact Option.some.inj ran
        · cases ran
      subst same
      intro last found
      rw [unfired row rfl] at found
      cases found
  | patched patch fromDate updatedAt =>
      obtain ⟨-, nextFireAt, computed, rfl⟩ :=
        InstancePatch.row_eq_ok.mp (run_patched_eq_some.mp ran)
      intro last found next fires
      change nextFireAt = some next at fires
      subst fires
      unfold InstancePatch.nextFireAt at computed
      split at computed
      · rename_i reschedules
        obtain ⟨fire, parsed, shape⟩ := Option.map_eq_some_iff.mp computed
        cases shape
        exact admissible.2 reschedules last found next parsed
      · exact ordered last found next (Option.some.inj computed)
  | deleted updatedAt =>
      cases ran
      exact ordered
  | advanced nowIso =>
      obtain ⟨fire, next, -, -, fires, computed, rfl⟩ :=
        run_advanced_eq_some ran
      intro last found following follows
      cases found
      cases follows
      exact le_of_lt (SchedulerTickService.lt_of_computeNextFireAt later
        computed)

/-- A pause or a deletion leaves a disabled row. -/
theorem disabled_of_run
    (ran : operation.run cron (some before) = some after)
    (disables : operation.Disables) :
    after.enabled = false ∧
      (operation.IsDeletion → after.state = .deleted) := by
  cases operation with
  | patched patch fromDate updatedAt =>
      obtain ⟨enabled, -⟩ :=
        InstancePatch.row_state (run_patched_eq_some.mp ran)
      refine ⟨?_, fun deletion => deletion.elim⟩
      rw [enabled, show patch.enabled = some false from disables]
      rfl
  | deleted updatedAt =>
      cases ran
      exact ⟨rfl, fun _ => rfl⟩
  | created | advanced =>
      exact disables.elim

/-- Rows that agree in the copied columns are rewritten alike. -/
theorem rewrite_of_copied_eq
    {read found : JobInstance}
    (agrees : operation.copied found = operation.copied read) :
    EditInstance.rewrite cron found operation =
      EditInstance.rewrite cron read operation := by
  cases operation with
  | created | advanced =>
      rfl
  | deleted updatedAt =>
      exact congrArg
        (fun row : JobInstance =>
          Except.ok { row with updatedAt := updatedAt })
        agrees
  | patched patch fromDate updatedAt =>
      have sameSchema :=
        congrArg JobInstance.definitionParameterSchema agrees
      change
        found.definitionParameterSchema = read.definitionParameterSchema
        at sameSchema
      have sameSchedule := congrArg JobInstance.schedule agrees
      change (patch.merge found).schedule = (patch.merge read).schedule
        at sameSchedule
      have sameNext :
          patch.nextFireAt cron fromDate found =
            patch.nextFireAt cron fromDate read := by
        have blanked := congrArg JobInstance.nextFireAt agrees
        unfold InstancePatch.nextFireAt
        rw [sameSchedule]
        by_cases reschedules : patch.Reschedules
        · rw [if_pos reschedules, if_pos reschedules]
        · simp only [copied, if_neg reschedules] at blanked
          rw [if_neg reschedules, if_neg reschedules, blanked]
      have sameRow (nextFireAt : Option Timestamp) :
          { patch.merge found with
            nextFireAt := nextFireAt
            state := stateOf (patch.merge found).enabled
            updatedAt := updatedAt } =
          { patch.merge read with
            nextFireAt := nextFireAt
            state := stateOf (patch.merge read).enabled
            updatedAt := updatedAt } :=
        congrArg
          (fun row : JobInstance =>
            { row with
              nextFireAt := nextFireAt
              state := stateOf row.enabled
              updatedAt := updatedAt })
          agrees
      simp only [EditInstance.rewrite, InstancePatch.row, sameSchema,
        sameNext, sameRow]

end InstanceOperation

end IgaScheduler

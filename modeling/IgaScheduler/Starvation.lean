import Mathlib.Data.Int.Interval
import Mathlib.Data.Set.Finite.Lattice
import IgaScheduler.SoloTicks

namespace IgaScheduler

open Relational Interleaving

/-!
# Failing instances in front of healthy ones

A failing instance stays due at its old fire time, so it keeps its place in the
batch of every tick.  Ticks work off the backlog of the healthy instances
exactly when at no pending fire time as many failing instances as fit into a
batch stand ahead.
-/

/-- The same rows, in whatever physical order. -/
structure Stored.SameRows
    (first second : Stored) :
    Prop where
  definitions : second.definitions = first.definitions
  instances :
    ∀ instanceId,
      second.instances.lookup instanceId = first.instances.lookup instanceId
  runs : second.runs = first.runs

/-- The instance is stored with this row, and is due. -/
structure Stored.Due
    (stored : Stored)
    (nowIso : Timestamp)
    (instanceId : String)
    (row : JobInstance) :
    Prop where
  found : stored.instances.lookup instanceId = some row
  due : InstanceStore.due nowIso row = true

/-- Nothing about the instance keeps a tick from firing it. -/
structure Healthy
    (cron : CronParser)
    (successor : Timestamp → Timestamp)
    (instanceId : String)
    (row : JobInstance) :
    Prop where
  identified : instanceId ≠ ""
  succeeds :
    ∀ fire,
      SchedulerTickService.computeNextFireAt cron row.schedule fire =
        some (successor fire)
  increasing : ∀ fire, fire < successor fire

/-- A fire time that is still to come for a due instance that does not fail. -/
structure Stored.Pending
    (stored : Stored)
    (nowIso : Timestamp)
    (failing : Set String)
    (successor : String → Timestamp → Timestamp)
    (instanceId : String)
    (fire : Timestamp) :
    Prop where
  healthy : instanceId ∉ failing
  past : fire ≤ nowIso
  reached :
    ∃ row first k,
      stored.Due nowIso instanceId row ∧
        row.nextFireAt = some first ∧
        fire = (successor instanceId)^[k] first

/-- The pending fire times of the due instances that do not fail. -/
def Stored.backlog
    (stored : Stored)
    (nowIso : Timestamp)
    (failing : Set String)
    (successor : String → Timestamp → Timestamp) :
    Set (String × Timestamp) :=
  {pending |
    stored.Pending nowIso failing successor pending.1 pending.2}

/-- The failing instances that are due at this fire time or before. -/
def Stored.failingBy
    (stored : Stored)
    (nowIso : Timestamp)
    (failing : Set String)
    (fire : Timestamp) :
    Set String :=
  {instanceId |
    instanceId ∈ failing ∧
      ∃ row,
        stored.Due nowIso instanceId row ∧
          row.nextFireAt.getD 0 ≤ fire}

/-- A due row has a fire time that has come. -/
theorem Stored.Due.nextFireAt
    {stored : Stored}
    {nowIso : Timestamp}
    {instanceId : String}
    {row : JobInstance}
    (due : stored.Due nowIso instanceId row) :
    ∃ first, row.nextFireAt = some first ∧ first ≤ nowIso := by
  have isDue := due.due
  rw [InstanceStore.due, Bool.and_eq_true] at isDue
  cases fire : row.nextFireAt with
  | none =>
      rw [fire] at isDue
      cases isDue.2
  | some first =>
      rw [fire] at isDue
      exact ⟨first, rfl, of_decide_eq_true isDue.2⟩

/-- An advanced row is due as long as its new fire time has come. -/
theorem due_advancedRow
    {nowIso : Timestamp}
    {firing : Tick.Firing}
    (due :
      InstanceStore.due nowIso firing.document.toJobInstance = true) :
    InstanceStore.due nowIso (firing.advancedRow nowIso) = true ↔
      firing.nextFireAt ≤ nowIso := by
  rw [InstanceStore.due, Bool.and_eq_true] at due
  change (firing.document.enabled &&
    decide (firing.document.state = .active) &&
      decide (firing.nextFireAt ≤ nowIso)) = true ↔ _
  rw [due.1, Bool.true_and, decide_eq_true_eq]

theorem le_iterate
    {successor : Timestamp → Timestamp}
    (increasing : ∀ fire, fire < successor fire)
    (k : Nat)
    (first : Timestamp) :
    first ≤ successor^[k] first := by
  induction k with
  | zero =>
      exact Int.le_refl first
  | succ k inductionHypothesis =>
      rw [Function.iterate_succ_apply']
      exact inductionHypothesis.trans (increasing _).le

section Backlogs

variable {stored : Stored}
variable {nowIso fire : Timestamp}
variable {failing : Set String}
variable {successor : String → Timestamp → Timestamp}
variable {instanceId : String}
variable {row : JobInstance}

theorem finite_failingBy :
    (stored.failingBy nowIso failing fire).Finite := by
  refine (List.finite_toSet stored.instances.keys).subset ?_
  rintro other ⟨-, row, due, -⟩
  exact AList.lookup_isSome.mp (by rw [due.found]; rfl)

/-- The first fire time of a healthy due instance is pending. -/
theorem pending_first
    {first : Timestamp}
    (healthy : instanceId ∉ failing)
    (due : stored.Due nowIso instanceId row)
    (fire : row.nextFireAt = some first) :
    stored.Pending nowIso failing successor instanceId first := by
  obtain ⟨other, otherFire, past⟩ := due.nextFireAt
  obtain rfl := Option.some.inj (fire.symm.trans otherFire)
  exact ⟨healthy, past, row, first, 0, due, fire, rfl⟩

theorem finite_backlog
    (increasing :
      ∀ {instanceId : String} {row : JobInstance},
        stored.Due nowIso instanceId row →
        instanceId ∉ failing →
        ∀ fire, fire < successor instanceId fire) :
    (stored.backlog nowIso failing successor).Finite := by
  let first (instanceId : String) : Timestamp :=
    ((stored.instances.lookup instanceId).bind JobInstance.nextFireAt).getD 0
  refine (Set.Finite.biUnion
    (List.finite_toSet stored.instances.keys)
    fun instanceId _ =>
      (Set.finite_Icc (first instanceId) nowIso).image
        (Prod.mk instanceId)).subset ?_
  rintro ⟨instanceId, fire⟩ pending
  obtain ⟨row, start, k, due, begins, reached⟩ := pending.reached
  dsimp only at due reached
  have starts : first instanceId = start := by
    simp only [first, due.found, Option.bind_some, begins,
      Option.getD_some]
  refine Set.mem_biUnion
    (AList.lookup_isSome.mp (by rw [due.found]; rfl))
    ⟨fire, ⟨?_, pending.past⟩, rfl⟩
  rw [starts, reached]
  exact le_iterate (increasing due pending.healthy) k start

end Backlogs

namespace CatalogPool

/--
A tick at `nowIso` that commits, with nobody else around: the database may list
rows that are due at the same time in any order.
-/
def CommittedTick
    (cron : CronParser)
    (arguments : Tick.Arguments)
    (nowIso : Timestamp)
    (failing : Set String)
    (before after : Stored) :
    Prop :=
  ∃ stored process schedule pool next,
    before.SameRows stored ∧
      SoloTick cron arguments nowIso failing stored process schedule pool
        next ∧
      after = next.storage

/-- So many committed ticks, one after the other, all at `nowIso`. -/
inductive Ticks
    (cron : CronParser)
    (arguments : Tick.Arguments)
    (nowIso : Timestamp)
    (failing : Set String) :
    Nat → Stored → Stored → Prop where
  | none
      (stored : Stored) :
      Ticks cron arguments nowIso failing 0 stored stored
  | more
      {n : Nat}
      {before middle after : Stored}
      (first : CommittedTick cron arguments nowIso failing before middle)
      (rest : Ticks cron arguments nowIso failing n middle after) :
      Ticks cron arguments nowIso failing (n + 1) before after

section Progress

variable {cron : CronParser}
variable {arguments : Tick.Arguments}
variable {nowIso : Timestamp}
variable {failing : Set String}
variable {successor : String → Timestamp → Timestamp}
variable {before after : Stored}

/-- The due instances that do not fail are healthy. -/
def AllHealthy
    (cron : CronParser)
    (nowIso : Timestamp)
    (failing : Set String)
    (successor : String → Timestamp → Timestamp)
    (stored : Stored) :
    Prop :=
  ∀ {instanceId : String} {row : JobInstance},
    stored.Due nowIso instanceId row →
    instanceId ∉ failing →
    Healthy cron (successor instanceId) instanceId row

/-- A healthy instance that is due can be fired, to its next fire time. -/
theorem firing_of_healthy
    {successor : Timestamp → Timestamp}
    {instanceId : String}
    {row : JobInstance}
    {first : Timestamp}
    (healthy : Healthy cron successor instanceId row)
    (fire : row.nextFireAt = some first) :
    ∃ firing,
      Tick.firing? cron (instanceDocument instanceId row) = some firing ∧
        firing.document = instanceDocument instanceId row ∧
        firing.nextFireAt = successor first := by
  obtain ⟨runId, named⟩ :
      ∃ runId, buildRunId row.tenantId instanceId first = some runId := by
    rw [buildRunId, if_neg healthy.identified]
    exact ⟨_, rfl⟩
  refine ⟨⟨instanceDocument instanceId row, first, successor first, runId⟩,
    ?_, rfl, rfl⟩
  change row.nextFireAt.bind _ = _
  rw [fire, Option.bind_some]
  change (SchedulerTickService.computeNextFireAt cron row.schedule
    first).bind _ = _
  rw [healthy.succeeds, Option.bind_some]
  change (buildRunId row.tenantId instanceId first).map _ = _
  rw [named]
  rfl

/-- The row of a healthy instance before and after it was fired. -/
structure Advanced
    (nowIso : Timestamp)
    (successor : Timestamp → Timestamp)
    (first : Timestamp)
    (row next : JobInstance) :
    Prop where
  fire : row.nextFireAt = some first
  sameSchedule : next.schedule = row.schedule
  nextFire : next.nextFireAt = some (successor first)
  dueAgain :
    InstanceStore.due nowIso next = true ↔ successor first ≤ nowIso

/-- Exactly the instances of the batch that do not fail are advanced. -/
structure TickEffect
    (nowIso : Timestamp)
    (failing : Set String)
    (successor : String → Timestamp → Timestamp)
    (batch : List (String × JobInstance))
    (before after : Stored) :
    Prop where
  due :
    ∀ {instanceId : String} {row : JobInstance},
      (instanceId, row) ∈ batch → before.Due nowIso instanceId row
  kept :
    ∀ {instanceId : String},
      (∀ row, (instanceId, row) ∈ batch → instanceId ∈ failing) →
      after.instances.lookup instanceId =
        before.instances.lookup instanceId
  advanced :
    ∀ {instanceId : String} {row : JobInstance},
      (instanceId, row) ∈ batch →
      instanceId ∉ failing →
      ∃ next first,
        after.instances.lookup instanceId = some next ∧
          Advanced nowIso (successor instanceId) first row next

theorem effect_of_soloTick
    {stored : Stored}
    {process : Nat}
    {schedule : List (Label CatalogInput)}
    {pool next : CatalogPool}
    (healthy : AllHealthy cron nowIso failing successor before)
    (sameRows : before.SameRows stored)
    (tick :
      SoloTick cron arguments nowIso failing stored process schedule pool
        next) :
    TickEffect nowIso failing successor
      (dueBatch arguments nowIso stored) before next.storage := by
  obtain ⟨advances, keeps⟩ := tick.rows
  have isDue
      {instanceId : String}
      {row : JobInstance}
      (selected : (instanceId, row) ∈ dueBatch arguments nowIso stored) :
      before.Due nowIso instanceId row := by
    obtain ⟨found, due⟩ := Table.mem_select selected
    exact ⟨(sameRows.instances instanceId).symm.trans found, due⟩
  refine ⟨isDue, fun fails => (keeps fails).trans (sameRows.instances _),
    ?_⟩
  intro instanceId row selected notFailing
  have due := isDue selected
  obtain ⟨first, fire, -⟩ := due.nextFireAt
  obtain ⟨firing, computed, advanced⟩ := advances selected notFailing
  obtain ⟨other, otherComputed, document, nextFire⟩ :=
    firing_of_healthy (healthy due notFailing) fire
  obtain rfl := Option.some.inj (computed.symm.trans otherComputed)
  refine ⟨firing.advancedRow nowIso, first, advanced, fire, ?_, ?_, ?_⟩
  · change firing.document.schedule = row.schedule
    rw [document]
    rfl
  · rw [← nextFire]
    rfl
  · rw [← nextFire]
    refine due_advancedRow ?_
    rw [document]
    exact due.due

namespace TickEffect

variable {batch : List (String × JobInstance)}
variable {instanceId : String}

/-- An instance keeps its row, or it was healthy and is advanced. -/
theorem cases
    (effect :
      TickEffect nowIso failing successor batch before after)
    (instanceId : String) :
    after.instances.lookup instanceId =
        before.instances.lookup instanceId ∨
      ∃ row next first,
        instanceId ∉ failing ∧
          before.Due nowIso instanceId row ∧
          after.instances.lookup instanceId = some next ∧
          Advanced nowIso (successor instanceId) first row next := by
  by_cases fails :
      ∀ row, (instanceId, row) ∈ batch → instanceId ∈ failing
  · exact .inl (effect.kept fails)
  · obtain ⟨row, notFails⟩ := not_forall.mp fails
    obtain ⟨selected, notFailing⟩ := Classical.not_imp.mp notFails
    obtain ⟨next, first, found, advanced⟩ :=
      effect.advanced selected notFailing
    exact .inr ⟨row, next, first, notFailing, effect.due selected, found,
      advanced⟩

/-- Failing instances stand where they stood. -/
theorem due_failing_iff
    {row : JobInstance}
    (effect :
      TickEffect nowIso failing successor batch before after)
    (fails : instanceId ∈ failing) :
    after.Due nowIso instanceId row ↔ before.Due nowIso instanceId row := by
  have same :
      after.instances.lookup instanceId =
        before.instances.lookup instanceId :=
    effect.kept fun _ _ => fails
  constructor
  · rintro ⟨found, due⟩
    exact ⟨same.symm.trans found, due⟩
  · rintro ⟨found, due⟩
    exact ⟨same.trans found, due⟩

theorem failingBy_eq
    (effect :
      TickEffect nowIso failing successor batch before after)
    (fire : Timestamp) :
    after.failingBy nowIso failing fire =
      before.failingBy nowIso failing fire := by
  ext instanceId
  refine and_congr_right fun fails => exists_congr fun row => ?_
  rw [effect.due_failing_iff fails]

/-- Healthy instances stay healthy. -/
theorem healthy
    (effect :
      TickEffect nowIso failing successor batch before after)
    (allHealthy : AllHealthy cron nowIso failing successor before) :
    AllHealthy cron nowIso failing successor after := by
  intro instanceId row due notFailing
  rcases effect.cases instanceId with same |
    ⟨earlier, next, first, -, dueBefore, found, advanced⟩
  · exact allHealthy ⟨same.symm.trans due.found, due.due⟩ notFailing
  · obtain rfl := Option.some.inj (due.found.symm.trans found)
    have healthy := allHealthy dueBefore notFailing
    refine ⟨healthy.identified, ?_, healthy.increasing⟩
    rw [advanced.sameSchedule]
    exact healthy.succeeds

/-- Nothing is added to the backlog. -/
theorem pending_before
    {fire : Timestamp}
    (effect :
      TickEffect nowIso failing successor batch before after)
    (pending : after.Pending nowIso failing successor instanceId fire) :
    before.Pending nowIso failing successor instanceId fire := by
  obtain ⟨notFailing, past, row, first, k, due, begins, reached⟩ := pending
  rcases effect.cases instanceId with same |
    ⟨earlier, next, start, -, dueBefore, found, advanced⟩
  · exact ⟨notFailing, past, row, first, k,
      ⟨same.symm.trans due.found, due.due⟩, begins, reached⟩
  · obtain rfl := Option.some.inj (due.found.symm.trans found)
    obtain rfl := Option.some.inj (begins.symm.trans advanced.nextFire)
    refine ⟨notFailing, past, earlier, start, k + 1, dueBefore,
      advanced.fire, ?_⟩
    rw [reached, Function.iterate_succ_apply]

/-- The fire time of an instance that was fired is not pending any more. -/
theorem not_pending_after
    {row : JobInstance}
    (effect :
      TickEffect nowIso failing successor batch before after)
    (allHealthy : AllHealthy cron nowIso failing successor before)
    (selected : (instanceId, row) ∈ batch)
    (notFailing : instanceId ∉ failing) :
    ∃ first,
      before.Pending nowIso failing successor instanceId first ∧
        ¬ after.Pending nowIso failing successor instanceId first := by
  have due := effect.due selected
  obtain ⟨next, first, found, advanced⟩ :=
    effect.advanced selected notFailing
  refine ⟨first, pending_first notFailing due advanced.fire, ?_⟩
  rintro ⟨-, -, other, start, k, dueAfter, begins, reached⟩
  obtain rfl := Option.some.inj (dueAfter.found.symm.trans found)
  obtain rfl := Option.some.inj (begins.symm.trans advanced.nextFire)
  have increasing := (allHealthy due notFailing).increasing
  have later := le_iterate increasing k (successor instanceId first)
  rw [← reached] at later
  exact Int.not_le.mpr (increasing first) later

/-- Any other pending fire time stays pending. -/
theorem pending_after
    {fire : Timestamp}
    (effect :
      TickEffect nowIso failing successor batch before after)
    (allHealthy : AllHealthy cron nowIso failing successor before)
    (pending : before.Pending nowIso failing successor instanceId fire)
    (notFired :
      ∀ row, (instanceId, row) ∈ batch → row.nextFireAt ≠ some fire) :
    after.Pending nowIso failing successor instanceId fire := by
  obtain ⟨notFailing, past, row, first, k, due, begins, reached⟩ := pending
  by_cases selected : (instanceId, row) ∈ batch
  · obtain ⟨next, start, found, advanced⟩ :=
      effect.advanced selected notFailing
    obtain rfl := Option.some.inj (begins.symm.trans advanced.fire)
    cases k with
    | zero =>
        rw [reached] at notFired
        exact (notFired row selected begins).elim
    | succ k =>
        rw [Function.iterate_succ_apply] at reached
        have increasing := (allHealthy due notFailing).increasing
        have later := le_iterate increasing k (successor instanceId first)
        rw [← reached] at later
        exact ⟨notFailing, past, next, _, k,
          ⟨found, advanced.dueAgain.mpr (later.trans past)⟩,
          advanced.nextFire, reached⟩
  · have same :
        after.instances.lookup instanceId =
          before.instances.lookup instanceId := by
      refine effect.kept fun other selectedOther => ?_
      have sameRow := Option.some.inj
        ((effect.due selectedOther).found.symm.trans due.found)
      rw [sameRow] at selectedOther
      exact (selected selectedOther).elim
    exact ⟨notFailing, past, row, first, k,
      ⟨same.trans due.found, due.due⟩, begins, reached⟩

end TickEffect

/-- At every pending fire time, the failing instances leave room in a batch. -/
def LeavesRoom
    (arguments : Tick.Arguments)
    (nowIso : Timestamp)
    (failing : Set String)
    (successor : String → Timestamp → Timestamp)
    (stored : Stored) :
    Prop :=
  ∀ pending ∈ stored.backlog nowIso failing successor,
    (stored.failingBy nowIso failing pending.2).ncard < arguments.batchSize

/-- Where there is room, a tick fires one of the healthy instances. -/
theorem exists_selected
    {stored : Stored}
    {instanceId : String}
    {fire : Timestamp}
    (sameRows : before.SameRows stored)
    (room : LeavesRoom arguments nowIso failing successor before)
    (pending : before.Pending nowIso failing successor instanceId fire) :
    ∃ other row,
      (other, row) ∈ dueBatch arguments nowIso stored ∧ other ∉ failing := by
  obtain ⟨notFailing, -, row, first, -, due, begins, -⟩ := pending
  by_contra allFail
  have fails : ∀ entry ∈ dueBatch arguments nowIso stored,
      entry.1 ∈ failing := by
    intro entry selected
    by_contra healthy
    exact allFail ⟨entry.1, entry.2, selected, healthy⟩
  have leftOut : (instanceId, row) ∉ dueBatch arguments nowIso stored :=
    fun selected => notFailing (fails _ selected)
  -- the batch is full of failing instances that come no later
  obtain ⟨full, noLater⟩ := Table.select_full
    ((sameRows.instances instanceId).trans due.found) due.due leftOut
  have distinct :
      ((dueBatch arguments nowIso stored).map Prod.fst).Nodup :=
    Table.select_keys_nodup _ _ _ _
  have ahead :
      {other | other ∈ (dueBatch arguments nowIso stored).map Prod.fst} ⊆
        before.failingBy nowIso failing first := by
    intro other member
    obtain ⟨entry, selected, rfl⟩ := List.mem_map.mp member
    obtain ⟨found, isDue⟩ := Table.mem_select selected
    have before := noLater entry selected
    rw [begins] at before
    exact ⟨fails entry selected, entry.2,
      ⟨(sameRows.instances _).symm.trans found, isDue⟩, before⟩
  have many := Set.ncard_le_ncard ahead finite_failingBy
  rw [ncard_of_nodup distinct, List.length_map] at many
  have few := room (instanceId, first)
    (pending_first notFailing due begins)
  exact Nat.not_le.mpr few (full.symm.le.trans many)

/-- The backlog shrinks with every tick, until there is none. -/
theorem worked_off
    {n : Nat}
    (allHealthy : AllHealthy cron nowIso failing successor before)
    (room : LeavesRoom arguments nowIso failing successor before)
    (bounded : (before.backlog nowIso failing successor).ncard ≤ n)
    (ticks : Ticks cron arguments nowIso failing n before after)
    (instanceId : String)
    (row : JobInstance)
    (due : after.Due nowIso instanceId row) :
    instanceId ∈ failing := by
  have finite {stored : Stored}
      (allHealthy : AllHealthy cron nowIso failing successor stored) :
      (stored.backlog nowIso failing successor).Finite :=
    finite_backlog fun due notFailing =>
      (allHealthy due notFailing).increasing
  induction ticks with
  | none stored =>
      by_contra notFailing
      obtain ⟨first, begins, -⟩ := due.nextFireAt
      have empty := (Set.ncard_eq_zero (finite allHealthy)).mp
        (Nat.le_zero.mp bounded)
      have pending :
          (instanceId, first) ∈ stored.backlog nowIso failing successor :=
        pending_first notFailing due begins
      rw [empty] at pending
      exact pending
  | more first rest inductionHypothesis =>
      rename_i n earlier middle later
      obtain ⟨stored, process, schedule, pool, next, sameRows, tick, rfl⟩ :=
        first
      have effect := effect_of_soloTick allHealthy sameRows tick
      have subset :
          next.storage.backlog nowIso failing successor ⊆
            earlier.backlog nowIso failing successor :=
        fun pending member => effect.pending_before member
      refine inductionHypothesis (effect.healthy allHealthy) ?_ ?_ due
      · intro pending member
        rw [effect.failingBy_eq]
        exact room pending (subset member)
      · by_cases someone :
            (next.storage.backlog nowIso failing successor).Nonempty
        · obtain ⟨⟨instanceId, fire⟩, pending⟩ := someone
          obtain ⟨other, row, selected, notFailing⟩ :=
            exists_selected sameRows room (effect.pending_before pending)
          obtain ⟨fired, pendingBefore, notAfter⟩ :=
            effect.not_pending_after allHealthy selected notFailing
          have smaller :=
            Set.ncard_lt_ncard
              ((Set.ssubset_iff_of_subset subset).mpr
                ⟨(other, fired), pendingBefore, notAfter⟩)
              (finite allHealthy)
          exact Nat.le_of_lt_succ (smaller.trans_le bounded)
        · rw [Set.not_nonempty_iff_eq_empty.mp someone, Set.ncard_empty]
          exact Nat.zero_le n

/-- The healthy instances of a batch are due, and can be fired. -/
theorem computable_of_healthy
    {stored : Stored}
    (sameRows : before.SameRows stored)
    (allHealthy : AllHealthy cron nowIso failing successor before)
    {instanceId : String}
    {row : JobInstance}
    (selected : (instanceId, row) ∈ dueBatch arguments nowIso stored)
    (notFailing : instanceId ∉ failing) :
    Tick.firing? cron (instanceDocument instanceId row) ≠ none := by
  obtain ⟨found, isDue⟩ := Table.mem_select selected
  have due : before.Due nowIso instanceId row :=
    ⟨(sameRows.instances instanceId).symm.trans found, isDue⟩
  obtain ⟨first, begins, -⟩ := due.nextFireAt
  obtain ⟨firing, computed, -⟩ :=
    firing_of_healthy (allHealthy due notFailing) begins
  rw [computed]
  nofun

/-- Behind as many failing instances as fit into a batch, a fire time waits. -/
theorem starves
    {instanceId : String}
    {fire : Timestamp}
    (notDry : arguments.dryRun = false)
    (allHealthy : AllHealthy cron nowIso failing successor before)
    (pending : before.Pending nowIso failing successor instanceId fire)
    (crowded :
      arguments.batchSize ≤
        (before.failingBy nowIso failing fire).ncard)
    (n : Nat) :
    ∃ after,
      Ticks cron arguments nowIso failing n before after ∧
        after.Pending nowIso failing successor instanceId fire := by
  classical
  induction n generalizing before with
  | zero =>
      exact ⟨before, .none before, pending⟩
  | succ n inductionHypothesis =>
      -- the database lists the failing instances first
      let ahead (other : String) : Bool := decide (other ∈ failing)
      let order (row : JobInstance) : Int := row.nextFireAt.getD 0
      let stored : Stored :=
        { before with instances := before.instances.reordered ahead order }
      have sameRows : before.SameRows stored :=
        ⟨rfl, Table.lookup_reordered ahead, rfl⟩
      obtain ⟨schedule, pool, next, tick⟩ :
          ∃ schedule pool next,
            SoloTick cron arguments nowIso failing stored 1 schedule pool
              next :=
        exists_soloTick 1 notDry (computable_of_healthy sameRows allHealthy)
      have effect := effect_of_soloTick allHealthy sameRows tick
      have notFired :
          ∀ row, (instanceId, row) ∈ dueBatch arguments nowIso stored →
            row.nextFireAt ≠ some fire := by
        intro row selected begins
        have behind : ahead instanceId = false :=
          decide_eq_false pending.healthy
        have few := Table.ncard_goingAhead_lt behind selected
        have same :
            before.instances.goingAhead ahead
                (fun _ row => InstanceStore.due nowIso row) order row =
              before.failingBy nowIso failing fire := by
          ext other
          have fails : ahead other = true ↔ other ∈ failing :=
            decide_eq_true_iff
          have orders : order row = fire := by
            change row.nextFireAt.getD 0 = fire
            rw [begins, Option.getD_some]
          refine and_congr fails (exists_congr fun otherRow => ?_)
          rw [orders]
          constructor
          · rintro ⟨found, due, earlier⟩
            exact ⟨⟨found, due⟩, earlier⟩
          · rintro ⟨⟨found, due⟩, earlier⟩
            exact ⟨found, due, earlier⟩
        rw [same] at few
        exact Nat.not_le.mpr few crowded
      obtain ⟨after, ticks, still⟩ :=
        inductionHypothesis (effect.healthy allHealthy)
          (effect.pending_after allHealthy pending notFired)
          (by rw [effect.failingBy_eq]; exact crowded)
      exact ⟨after,
        .more ⟨stored, 1, schedule, pool, next, sameRows, tick, rfl⟩ ticks,
        still⟩

/--
However the database orders what is due at the same time: as many ticks as
there are pending fire times work off all healthy instances, if and only if no
pending fire time has a batch of failing instances ahead.
-/
theorem no_starvation_iff
    (notDry : arguments.dryRun = false)
    (allHealthy : AllHealthy cron nowIso failing successor before) :
    (∀ after,
      Ticks cron arguments nowIso failing
        (before.backlog nowIso failing successor).ncard before after →
      ∀ instanceId row,
        after.Due nowIso instanceId row → instanceId ∈ failing) ↔
      LeavesRoom arguments nowIso failing successor before := by
  constructor
  · intro workedOff pending member
    by_contra crowded
    obtain ⟨after, ticks, still⟩ := starves notDry allHealthy member
      (Nat.le_of_not_lt crowded) _
    obtain ⟨notFailing, -, row, -, -, due, -⟩ := still
    exact notFailing (workedOff after ticks _ row due)
  · intro room after ticks instanceId row due
    exact worked_off allHealthy room (Nat.le_refl _) ticks _ _ due

end Progress

/-- A failing instance that is due, and a healthy one that is due after it. -/
def storedBehind : Stored where
  definitions := ∅
  instances :=
    ((∅ : JobInstances).insert "hourly"
      { hourlyInstance with nextFireAt := some 3600000 }).insert "stuck"
      hourlyInstance
  runs := ∅

def nextHour (_ : String) (fire : Timestamp) : Timestamp :=
  fire + 3600000 - fire % 3600000

theorem storedBehind_healthy
    (nowIso : Timestamp) :
    AllHealthy hourly nowIso {"stuck"} nextHour storedBehind := by
  intro instanceId row due notFailing
  have notStuck : instanceId ≠ "stuck" := notFailing
  have found := due.found
  rw [storedBehind, AList.lookup_insert_ne notStuck] at found
  by_cases same : instanceId = "hourly"
  · subst same
    rw [AList.lookup_insert] at found
    obtain rfl := Option.some.inj found
    exact ⟨by decide, fun fire => rfl,
      fun fire => hourly_later "" "" fire _ rfl⟩
  · rw [AList.lookup_insert_ne same] at found
    cases found

/-- With room for one instance only, the healthy one is never reached. -/
theorem storedBehind_starves :
    ¬ ∀ cron arguments nowIso failing successor before after,
      arguments.dryRun = false →
      1 ≤ arguments.batchSize →
      AllHealthy cron nowIso failing successor before →
      Ticks cron arguments nowIso failing
        (before.backlog nowIso failing successor).ncard before after →
      ∀ instanceId row,
        after.Due nowIso instanceId row → instanceId ∈ failing := by
  intro workedOff
  have pending :
      storedBehind.Pending 3600000 {"stuck"} nextHour "hourly" 3600000 :=
    ⟨by decide, by decide, _, _, 0, ⟨rfl, rfl⟩, rfl, rfl⟩
  have ahead :
      "stuck" ∈ storedBehind.failingBy 3600000 {"stuck"} 3600000 :=
    ⟨rfl, hourlyInstance, ⟨rfl, by decide⟩, by decide⟩
  have crowded :
      1 ≤ (storedBehind.failingBy 3600000 {"stuck"} 3600000).ncard :=
    (Set.ncard_pos finite_failingBy).mpr ⟨_, ahead⟩
  let arguments : Tick.Arguments := ⟨false, 1, true⟩
  have notDry : arguments.dryRun = false := rfl
  obtain ⟨after, ticks, still⟩ :=
    starves notDry (storedBehind_healthy 3600000) pending crowded
      (storedBehind.backlog 3600000 {"stuck"} nextHour).ncard
  obtain ⟨notFailing, -, row, -, -, due, -⟩ := still
  exact notFailing
    (workedOff _ _ _ _ _ _ after notDry (Nat.le_refl 1)
      (storedBehind_healthy 3600000) ticks _ row due)

/-- With room for both, it is. -/
theorem no_starvation_storedBehind :
    LeavesRoom ⟨false, 2, true⟩ 3600000 {"stuck"} nextHour storedBehind ∧
      ∀ after,
        Ticks hourly ⟨false, 2, true⟩ 3600000 {"stuck"}
          (storedBehind.backlog 3600000 {"stuck"} nextHour).ncard
          storedBehind after →
        ∀ instanceId row,
          after.Due 3600000 instanceId row → instanceId = "stuck" := by
  have room :
      LeavesRoom ⟨false, 2, true⟩ 3600000 {"stuck"} nextHour storedBehind := by
    intro pending _
    have few :
        storedBehind.failingBy 3600000 {"stuck"} pending.2 ⊆ {"stuck"} :=
      fun _ fails => fails.1
    have bounded := Set.ncard_le_ncard few (Set.finite_singleton _)
    rw [Set.ncard_singleton] at bounded
    exact Nat.lt_succ_of_le bounded
  exact ⟨room,
    (no_starvation_iff rfl (storedBehind_healthy 3600000)).mpr room⟩

end CatalogPool

end IgaScheduler

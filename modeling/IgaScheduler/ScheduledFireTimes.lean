import Mathlib.Order.Monotone.Basic
import IgaScheduler.InstanceHistory

namespace IgaScheduler

open Relational Interleaving

/-!
# Exactly-once scheduling

The runs that ticks have created for an instance are those of its first fire
times, one for each, and the row of the instance stands at the next one.  It
is the commit that moves both: the row locks make the fire time a tick has read
the one it advances from, and a run id determines instance and fire time.
-/

namespace CatalogPool

variable {cron : CronParser}
variable {stored : Stored}
variable {pool final : CatalogPool}

/-- Stored instances keep ids without colons. -/
theorem Reachable.colonFree
    (reachable : Reachable cron stored pool)
    (identifiers :
      ∀ instanceId row, stored.instances.lookup instanceId = some row →
        ColonFree instanceId)
    {instanceId : String}
    {row : JobInstance}
    (found : pool.shared.jobInstance instanceId = some row) :
    ColonFree instanceId := by
  obtain ⟨schedule, ran⟩ := reachable
  refine System.run?_induction
    (fun _ visited =>
      ∀ instanceId row,
        visited.shared.jobInstance instanceId = some row →
        ColonFree instanceId)
    identifiers ?_ ran instanceId row found
  intro earlier visited next label ranEarlier known stepped instanceId row
    found
  obtain ⟨operations, -, operated⟩ :=
    Reachable.operated ⟨earlier, ranEarlier⟩ stepped instanceId
  rw [found] at operated
  generalize calling : visited.locals label.1 = call at operated
  generalize same : some row = after at operated
  cases operated with
  | kept =>
      exact known instanceId row same.symm
  | created document sameInstance replaceable =>
      rw [← sameInstance]
      exact (Reachable.prepared ⟨earlier, ranEarlier⟩ calling).colonFree
  | edited operation read existing written stored rewritten =>
      exact known instanceId existing stored
  | advanced arguments nowIso summary firing computed sameInstance stored =>
      exact known instanceId _ stored

/-- A run bears the id of its instance and fire time, or was there at first. -/
def Named
    (stored : Stored)
    (runId : String)
    (run : JobRun) :
    Prop :=
  stored.runs.lookup runId = none →
    ColonFree run.instanceId ∧
      ∃ tenantId,
        buildRunId tenantId run.instanceId run.scheduledFireTime =
          some runId

theorem Reachable.named
    (reachable : Reachable cron stored pool)
    (identifiers :
      ∀ instanceId row, stored.instances.lookup instanceId = some row →
        ColonFree instanceId)
    {runId : String}
    {run : JobRun}
    (found : pool.shared.run runId = some run) :
    Named stored runId run := by
  obtain ⟨schedule, ran⟩ := reachable
  refine System.run?_induction
    (fun _ visited =>
      ∀ runId run, visited.shared.run runId = some run →
        Named stored runId run)
    ?_ ?_ ran runId run found
  · intro runId run found absent
    exact (Option.some_ne_none run (found.symm.trans absent)).elim
  · intro earlier visited next label ranEarlier known stepped runId run found
    by_cases before : visited.shared.run runId = some run
    · exact known runId run before
    · obtain ⟨-, row, advanced, -, named⟩ :=
        Reachable.inserted ⟨earlier, ranEarlier⟩ stepped found before
      intro absent
      have reachableNext : Reachable cron stored next :=
        Reachable.step ⟨earlier, ranEarlier⟩ stepped
      exact ⟨reachableNext.colonFree identifiers advanced,
        row.tenantId, named⟩

/-- A run of the instance that was not stored at first. -/
def NewRun
    (stored : Stored)
    (catalog : Catalog)
    (instanceId runId : String)
    (run : JobRun) :
    Prop :=
  catalog.run runId = some run ∧
    run.instanceId = instanceId ∧
    stored.runs.lookup runId = none

/-- The row of the instance and its runs stand at the fire time number `k`. -/
structure Scheduled
    (stored : Stored)
    (instanceId : String)
    (original : JobInstance)
    (next : Timestamp → Timestamp)
    (first : Timestamp)
    (k : Nat)
    (catalog : Catalog) :
    Prop where
  row :
    ∃ row,
      catalog.jobInstance instanceId = some row ∧
        row.schedule = original.schedule ∧
        row.tenantId = original.tenantId ∧
        row.nextFireAt = some (next^[k] first) ∧
        ∀ j, k = j + 1 → row.lastFireAt = some (next^[j] first)
  fired :
    ∀ j < k, ∃ runId,
      buildRunId original.tenantId instanceId (next^[j] first) =
          some runId ∧
        (catalog.run runId).isSome = true
  nothingElse :
    ∀ {runId : String} {run : JobRun},
      NewRun stored catalog instanceId runId run →
      ∃ j < k,
        buildRunId original.tenantId instanceId (next^[j] first) =
          some runId

/-- A step that does not touch the instance keeps it where it stands. -/
theorem Scheduled.keep
    {instanceId : String}
    {original : JobInstance}
    {successor : Timestamp → Timestamp}
    {first : Timestamp}
    {k : Nat}
    {next : CatalogPool}
    {label : Label CatalogInput}
    (scheduled :
      Scheduled stored instanceId original successor first k pool.shared)
    (reachable : Reachable cron stored pool)
    (stepped : (catalogSystem cron).step? pool label = some next)
    (same :
      next.shared.jobInstance instanceId =
        pool.shared.jobInstance instanceId)
    (silent :
      next.shared.operations instanceId =
        pool.shared.operations instanceId) :
    Scheduled stored instanceId original successor first k next.shared := by
  obtain ⟨statement, reply, -, executed, -⟩ := step_moves stepped
  refine ⟨by rw [same]; exact scheduled.row, ?_, ?_⟩
  · intro j before
    obtain ⟨runId, named, present⟩ := scheduled.fired j before
    exact ⟨runId, named, Catalog.exec_run_isSome executed present⟩
  · rintro runId run ⟨found, rfl, absent⟩
    by_cases earlier : pool.shared.run runId = some run
    · exact scheduled.nothingElse ⟨earlier, rfl, absent⟩
    · exact ((reachable.inserted stepped found earlier).1 silent).elim

/-- A step that advances the instance takes it to the next fire time. -/
theorem Scheduled.advance
    {instanceId : String}
    {original : JobInstance}
    {successor : Timestamp → Timestamp}
    {first nowIso : Timestamp}
    {k : Nat}
    {next : CatalogPool}
    {label : Label CatalogInput}
    {firing : Tick.Firing}
    (scheduled :
      Scheduled stored instanceId original successor first k pool.shared)
    (reachable : Reachable cron stored pool)
    (stepped : (catalogSystem cron).step? pool label = some next)
    (succeeds :
      ∀ fire,
        SchedulerTickService.computeNextFireAt cron original.schedule fire =
          some (successor fire))
    (computed : Tick.firing? cron firing.document = some firing)
    (sameInstance : firing.document.instanceId = instanceId)
    (found :
      pool.shared.jobInstance instanceId =
        some firing.document.toJobInstance)
    (advanced :
      next.shared.jobInstance instanceId =
        some (firing.advancedRow nowIso))
    (present : (next.shared.run firing.runId).isSome = true) :
    Scheduled stored instanceId original successor first (k + 1)
      next.shared := by
  obtain ⟨statement, reply, -, executed, -⟩ := step_moves stepped
  obtain ⟨row, standing, sameSchedule, sameTenant, fire, -⟩ := scheduled.row
  cases found.symm.trans standing
  obtain ⟨-, scheduledFireTime, nextFireAt, named⟩ :=
    Tick.firing?_eq_some computed
  have fireTime : firing.scheduledFireTime = successor^[k] first :=
    Option.some.inj (scheduledFireTime.symm.trans fire)
  have nextTime : firing.nextFireAt = successor^[k + 1] first := by
    rw [Function.iterate_succ_apply', ← fireTime]
    rw [sameSchedule, succeeds] at nextFireAt
    exact (Option.some.inj nextFireAt).symm
  rw [sameInstance, sameTenant, fireTime] at named
  refine ⟨⟨_, advanced, sameSchedule, sameTenant, ?_, ?_⟩, ?_, ?_⟩
  · rw [← nextTime]
    rfl
  · intro j last
    cases last
    rw [← fireTime]
    rfl
  · intro j before
    by_cases newest : j = k
    · rw [newest]
      exact ⟨firing.runId, named, present⟩
    · obtain ⟨runId, earlier, stored⟩ :=
        scheduled.fired j (by omega)
      exact ⟨runId, earlier, Catalog.exec_run_isSome executed stored⟩
  · rintro runId run ⟨stands, rfl, absent⟩
    by_cases earlier : pool.shared.run runId = some run
    · obtain ⟨j, before, bears⟩ :=
        scheduled.nothingElse ⟨earlier, rfl, absent⟩
      exact ⟨j, by omega, bears⟩
    · obtain ⟨-, written, row, lastFireAt, bears⟩ :=
        reachable.inserted stepped stands earlier
      cases row.symm.trans advanced
      have firedAt : firing.scheduledFireTime = run.scheduledFireTime :=
        Option.some.inj lastFireAt
      refine ⟨k, Nat.lt_succ_self k, ?_⟩
      rw [← fireTime, firedAt, ← sameTenant]
      exact bears

/-- Nobody has edited the instance: only ticks have advanced it. -/
def Unedited
    (catalog : Catalog)
    (instanceId : String) :
    Prop :=
  ∀ operation ∈ catalog.operations instanceId,
    ∃ nowIso, operation = .advanced nowIso

/-- An instance that nobody edits always stands at one of its fire times. -/
theorem scheduled_of_unedited
    {schedule : List (Label CatalogInput)}
    {instanceId : String}
    {row : JobInstance}
    {first : Timestamp}
    {next : Timestamp → Timestamp}
    (found : stored.instances.lookup instanceId = some row)
    (firstFire : row.nextFireAt = some first)
    (succeeds :
      ∀ fire,
        SchedulerTickService.computeNextFireAt cron row.schedule fire =
          some (next fire))
    (ran : run? cron stored schedule = some final)
    (unedited : Unedited final.shared instanceId) :
    ∃ k, Scheduled stored instanceId row next first k final.shared := by
  refine System.run?_induction
    (fun _ visited =>
      Unedited visited.shared instanceId →
      ∃ k, Scheduled stored instanceId row next first k visited.shared)
    ?_ ?_ ran unedited
  · intro _
    refine ⟨0, ⟨row, found, rfl, rfl, firstFire, fun j last => nomatch last⟩,
      fun j before => (Nat.not_lt_zero j before).elim, ?_⟩
    rintro runId run ⟨stands, -, absent⟩
    exact (Option.some_ne_none run (stands.symm.trans absent)).elim
  · intro earlier visited after label ranEarlier known stepped unedited
    have reachable : Reachable cron stored visited := ⟨earlier, ranEarlier⟩
    obtain ⟨operations, extended, operated⟩ :=
      reachable.operated stepped instanceId
    have uneditedBefore : Unedited visited.shared instanceId := by
      intro operation member
      refine unedited operation ?_
      rw [extended]
      exact List.mem_append_right _ member
    obtain ⟨k, scheduled⟩ := known uneditedBefore
    have advances : ∀ operation ∈ operations,
        ∃ nowIso, operation = .advanced nowIso := by
      intro operation member
      refine unedited operation ?_
      rw [extended]
      exact List.mem_append_left _ member
    generalize same :
      after.shared.jobInstance instanceId = leaves at operated
    generalize before :
      visited.shared.jobInstance instanceId = enters at operated
    generalize visited.locals label.1 = call at operated
    cases operated with
    | kept =>
        exact ⟨k,
          scheduled.keep reachable stepped (same.trans before.symm)
            extended⟩
    | created document =>
        obtain ⟨nowIso, shape⟩ := advances _ List.mem_cons_self
        cases shape
    | edited operation read existing written stands rewritten =>
        obtain ⟨nowIso, rfl⟩ := advances _ List.mem_cons_self
        cases rewritten
    | advanced arguments nowIso summary firing computed sameInstance
        stands due present =>
        exact ⟨k + 1,
          scheduled.advance reachable stepped succeeds computed
            sameInstance (before.trans stands) same present⟩

/--
The instance stands at fire time number `k`, and its new runs are exactly one
for each earlier fire time.
-/
structure ExactlyOnce
    (stored : Stored)
    (instanceId : String)
    (next : Timestamp → Timestamp)
    (first : Timestamp)
    (k : Nat)
    (catalog : Catalog) :
    Prop where
  row :
    ∃ row,
      catalog.jobInstance instanceId = some row ∧
        row.nextFireAt = some (next^[k] first) ∧
        ∀ j, k = j + 1 → row.lastFireAt = some (next^[j] first)
  runs :
    ∃ runIdAt : Nat → String,
      (∀ j < k, ∃ run,
        NewRun stored catalog instanceId (runIdAt j) run ∧
          run.scheduledFireTime = next^[j] first) ∧
        (∀ i < k, ∀ j < k, runIdAt i = runIdAt j → i = j) ∧
        ∀ {runId : String} {run : JobRun},
          NewRun stored catalog instanceId runId run →
          ∃ j < k, runId = runIdAt j

/--
However ticks interleave, fail and abort, and whatever happens to other
instances: an instance that nobody edits has exactly one new run for each of
its fire times so far, and stands at the next one.
-/
theorem exactly_once_scheduling
    {schedule : List (Label CatalogInput)}
    {instanceId : String}
    {row : JobInstance}
    {first : Timestamp}
    {next : Timestamp → Timestamp}
    (found : stored.instances.lookup instanceId = some row)
    (firstFire : row.nextFireAt = some first)
    (succeeds :
      ∀ fire,
        SchedulerTickService.computeNextFireAt cron row.schedule fire =
          some (next fire))
    (increasing : ∀ fire, fire < next fire)
    (identifiers :
      ∀ other stands, stored.instances.lookup other = some stands →
        ColonFree other)
    (unscheduled :
      ∀ fire runId,
        buildRunId row.tenantId instanceId fire = some runId →
        stored.runs.lookup runId = none)
    (ran : run? cron stored schedule = some final)
    (unedited : Unedited final.shared instanceId) :
    ∃ k, ExactlyOnce stored instanceId next first k final.shared := by
  obtain ⟨k, scheduled⟩ :=
    scheduled_of_unedited found firstFire succeeds ran unedited
  have colonFree := identifiers instanceId row found
  have ordered : StrictMono fun j => next^[j] first :=
    strictMono_nat_of_lt_succ fun j => by
      rw [Function.iterate_succ_apply']
      exact increasing _
  refine ⟨k, ?_, fun j =>
    (buildRunId row.tenantId instanceId (next^[j] first)).getD "", ?_, ?_, ?_⟩
  · obtain ⟨stands, here, -, -, fires⟩ := scheduled.row
    exact ⟨stands, here, fires⟩
  · intro j before
    obtain ⟨runId, named, present⟩ := scheduled.fired j before
    obtain ⟨run, stands⟩ := Option.isSome_iff_exists.mp present
    have absent := unscheduled _ _ named
    obtain ⟨runColonFree, tenantId, bears⟩ :=
      Reachable.named ⟨schedule, ran⟩ identifiers stands absent
    obtain ⟨sameInstance, sameFire⟩ :=
      buildRunId_inj colonFree runColonFree named bears
    refine ⟨run, ?_, sameFire.symm⟩
    simp only [named, Option.getD_some]
    exact ⟨stands, sameInstance.symm, absent⟩
  · intro i beforeI j beforeJ same
    obtain ⟨first, namedFirst, -⟩ := scheduled.fired i beforeI
    obtain ⟨second, namedSecond, -⟩ := scheduled.fired j beforeJ
    simp only [namedFirst, namedSecond, Option.getD_some] at same
    subst same
    exact ordered.injective
      (buildRunId_inj colonFree colonFree namedFirst namedSecond).2
  · intro runId run new
    obtain ⟨j, before, named⟩ := scheduled.nothingElse new
    exact ⟨j, before, by simp only [named, Option.getD_some]⟩

/--
Ticks 1 and 2 overlap: tick 1 holds the lock when tick 2 looks, loses its first
insert to an error, and a third tick then fires the instance.
-/
def overlappingTicks : List (Label CatalogInput) :=
  let tick := CatalogRequest.tick ⟨false, 10, false⟩
  [startCall 1 tick, proceedAt 1 5, proceedAt 1 5,
    startCall 2 tick, proceedAt 2 6, proceedAt 2 6, proceedAt 2 6,
    proceedAt 1 5, (1, .raise), proceedAt 1 5, proceedAt 1 5,
    startCall 3 tick, proceedAt 3 7, proceedAt 3 7, proceedAt 3 7,
    proceedAt 3 7, proceedAt 3 7, proceedAt 3 7, proceedAt 3 7]

/-- The instance after the overlapping ticks. -/
theorem exactly_once_scheduling_overlappingTicks :
    ∃ pool,
      run? hourly storedHourly overlappingTicks = some pool ∧
        ∃ k,
          ExactlyOnce storedHourly "hourly"
            (fun fire => fire + 3600000 - fire % 3600000) 0 k
            pool.shared := by
  have outcome :
      (run? hourly storedHourly overlappingTicks).map
          (fun pool => pool.shared.operations "hourly") =
        some [.advanced 7] := by
    decide
  have found :
      storedHourly.instances.lookup "hourly" = some hourlyInstance := by
    decide
  obtain ⟨pool, ran, operations⟩ := Option.map_eq_some_iff.mp outcome
  refine ⟨pool, ran,
    exactly_once_scheduling found rfl (fun _ => rfl) ?_ ?_ ?_ ran ?_⟩
  · intro fire
    exact hourly_later "" "" fire _ rfl
  · intro other stands found
    by_cases same : other = "hourly"
    · subst same
      decide
    · rw [storedHourly, AList.lookup_insert_ne same] at found
      cases found
  · intro fire runId named
    rfl
  · intro operation member
    rw [operations, List.mem_singleton] at member
    exact ⟨7, member⟩

end CatalogPool

end IgaScheduler

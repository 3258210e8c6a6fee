import IgaScheduler.RelationalSelection
import IgaScheduler.TickLedger

namespace IgaScheduler

open Relational Interleaving

/-!
# What the summary of a tick is worth

A counter that was bumped for an instance is not taken back when the instance
is given up afterwards.  So the summary of a tick that commits equals what was
committed exactly when no instance was given up after its insert.
-/

namespace Catalog

/-- A commit of this process would write the row of the instance. -/
def Publishes
    (catalog : Catalog)
    (process : Nat)
    (instanceId : String) :
    Prop :=
  ∃ transaction,
    catalog.instances.transactions.lookup process = some transaction ∧
      instanceId ∈ transaction.writes

end Catalog

namespace Tick

/-- The summary equals the effects of the commit between the two catalogs. -/
structure Summary.Accurate
    (process : Nat)
    (before after : Catalog)
    (summary : Summary) :
    Prop where
  createdRuns :
    summary.createdRuns =
      Set.ncard {runId |
        before.run runId = none ∧ (after.run runId).isSome = true}
  advanced :
    summary.advanced =
      Set.ncard {instanceId | before.Publishes process instanceId}
  inserted : summary.advanced = summary.createdRuns + summary.duplicates
  checked :
    summary.checked =
      summary.createdRuns + summary.duplicates + summary.failed

/-- The instance was given up after its run had been counted. -/
def Entry.slipped : Entry → Bool
  | .failed _ (.advancing _) => true
  | .failed _ (.releasing _) => true
  | _ => false

section Counting

variable (checked : Nat)
variable (entries : List Entry)

theorem tally_checked :
    (tally checked entries).checked = checked := by
  induction entries using List.reverseRecOn with
  | nil =>
      rfl
  | append_singleton earlier newest inductionHypothesis =>
      rw [tally_append]
      cases newest with
      | fired firing snapshot created =>
          cases created <;> exact inductionHypothesis
      | failed document failure =>
          cases failure with
          | advancing created | releasing created =>
              cases created <;> exact inductionHypothesis
          | _ =>
              exact inductionHypothesis

/-- An instance is advanced or counted as failed. -/
theorem Summary.record_failed
    (summary : Summary)
    (entry : Entry) :
    ([entry].filterMap Entry.advanced?).length +
        (summary.record entry).failed =
      summary.failed + 1 := by
  cases entry with
  | fired firing snapshot created =>
      simp [Entry.advanced?, Summary.record, Nat.add_comm]
  | failed document failure =>
      simp [List.filterMap_cons, Entry.advanced?, Summary.record]

/-- What is counted as inserted is advanced, or was given up afterwards. -/
theorem Summary.record_inserted
    (summary : Summary)
    (entry : Entry) :
    (summary.record entry).createdRuns +
        (summary.record entry).duplicates =
      summary.createdRuns + summary.duplicates +
        (([entry].filterMap Entry.advanced?).length +
          [entry].countP Entry.slipped) := by
  cases entry with
  | fired firing snapshot created =>
      exact createdRuns_add_inserted summary created
  | failed document failure =>
      cases failure with
      | advancing created | releasing created =>
          exact createdRuns_add_inserted summary created
      | _ =>
          rfl

/-- Every instance handled is advanced or counted as failed. -/
theorem tally_failed :
    (entries.filterMap Entry.advanced?).length +
        (tally checked entries).failed =
      entries.length := by
  induction entries using List.reverseRecOn with
  | nil =>
      rfl
  | append_singleton earlier newest inductionHypothesis =>
      rw [tally_append, List.filterMap_append, List.length_append,
        List.length_append, Nat.add_assoc, Summary.record_failed,
        ← Nat.add_assoc, inductionHypothesis, List.length_singleton]

/-- Every insert is counted, also where the instance was then given up. -/
theorem tally_inserted :
    (tally checked entries).createdRuns +
        (tally checked entries).duplicates =
      (entries.filterMap Entry.advanced?).length +
        entries.countP Entry.slipped := by
  induction entries using List.reverseRecOn with
  | nil =>
      rfl
  | append_singleton earlier newest inductionHypothesis =>
      rw [tally_append, Summary.record_inserted, inductionHypothesis,
        List.filterMap_append, List.length_append, List.countP_append,
        Nat.add_add_add_comm]

variable {entries} in
/-- Where nothing slipped, the counts are those of what was written. -/
theorem tally_of_unslipped
    (unslipped : entries.countP Entry.slipped = 0) :
    (tally checked entries).createdRuns =
        (entries.filterMap Entry.created?).length ∧
      (tally checked entries).advanced =
        (entries.filterMap Entry.advanced?).length := by
  induction entries using List.reverseRecOn with
  | nil =>
      exact ⟨rfl, rfl⟩
  | append_singleton earlier newest inductionHypothesis =>
      rw [List.countP_append, Nat.add_eq_zero_iff] at unslipped
      obtain ⟨created, advanced⟩ := inductionHypothesis unslipped.1
      rw [tally_append, List.filterMap_append, List.filterMap_append,
        List.length_append, List.length_append, ← created, ← advanced]
      cases newest with
      | fired firing snapshot created =>
          cases created <;> exact ⟨rfl, rfl⟩
      | failed document failure =>
          cases failure with
          | advancing created | releasing created =>
              cases unslipped.2
          | _ =>
              exact ⟨rfl, rfl⟩

end Counting

/-- What was given up after its insert is what threw there. -/
theorem Account.unslipped_iff
    {cron : CronParser}
    {arguments : Arguments}
    {nowIso : Timestamp}
    {evidence : Evidence}
    {documents rest : List InstanceDocument}
    {entries : List Entry}
    (account : Account cron arguments nowIso evidence documents entries rest) :
    entries.countP Entry.slipped = 0 ↔
      ¬ ∃ instanceId,
        evidence.raised .advancing instanceId ∨
          evidence.raised .releasing instanceId := by
  rw [List.countP_eq_zero]
  constructor
  · rintro unslipped ⟨instanceId, raised⟩
    rw [account.raised, account.raised] at raised
    rcases raised with ⟨entry, member, failedAt⟩ | ⟨entry, member, failedAt⟩
    all_goals
      refine unslipped entry member ?_
      cases entry with
      | fired firing snapshot created =>
          exact failedAt.elim
      | failed document failure =>
          cases failure with
          | advancing created | releasing created =>
              rfl
          | _ =>
              cases failedAt.1
  · intro silent entry member slipped
    cases entry with
    | fired firing snapshot created =>
        cases slipped
    | failed document failure =>
        refine silent ⟨document.instanceId, ?_⟩
        rw [account.raised, account.raised]
        cases failure with
        | advancing created =>
            exact .inl ⟨_, member, rfl, rfl⟩
        | releasing created =>
            exact .inr ⟨_, member, rfl, rfl⟩
        | _ =>
            cases slipped

/-- The instances advanced are distinct. -/
theorem Account.advanced_nodup
    {cron : CronParser}
    {arguments : Arguments}
    {nowIso : Timestamp}
    {evidence : Evidence}
    {documents rest : List InstanceDocument}
    {entries : List Entry}
    (account : Account cron arguments nowIso evidence documents entries rest) :
    (entries.filterMap Entry.advanced?).Nodup := by
  have distinct := account.distinct
  rw [account.handled, List.map_append, List.map_map] at distinct
  refine (List.nodup_append'.mp distinct).1.sublist ?_
  clear account distinct
  induction entries with
  | nil =>
      exact .refl _
  | cons entry rest inductionHypothesis =>
      cases entry with
      | fired firing snapshot created =>
          exact inductionHypothesis.cons_cons _
      | failed document failure =>
          exact inductionHypothesis.cons _

end Tick

namespace Catalog

variable {process : Nat}
variable {catalog next : Catalog}
variable {reply : CatalogReply}
variable {instances : Transaction String JobInstance}
variable {runs : Transaction String JobRun}

/-- An open transaction publishes the instances that it has written. -/
theorem publishes_iff_of_open
    {instanceId : String}
    (opened : catalog.Open process instances runs) :
    catalog.Publishes process instanceId ↔ instanceId ∈ instances.writes := by
  constructor
  · rintro ⟨transaction, found, updated⟩
    cases found.symm.trans opened.instances
    exact updated
  · intro updated
    exact ⟨instances, opened.instances, updated⟩

/-- The runs that are new after a commit are those it has written. -/
theorem inserts_iff_of_commit
    {runId : String}
    (executed : catalog.exec process .commit = some (next, reply))
    (opened : catalog.Open process instances runs)
    (fresh : ∀ runId ∈ runs.writes, catalog.run runId = none) :
    catalog.run runId = none ∧ (next.run runId).isSome = true ↔
      runId ∈ runs.writes := by
  rw [(Catalog.exec_commit executed opened).2]
  constructor
  · rintro ⟨absent, present⟩
    rw [absent, Option.or_none] at present
    exact AList.lookup_isSome.mp present
  · intro inserted
    refine ⟨fresh runId inserted, ?_⟩
    rw [Option.isSome_or, AList.lookup_isSome.mpr inserted]
    rfl

end Catalog

namespace CatalogPool

variable {cron : CronParser}
variable {stored : Stored}
variable {process : Nat}
variable {schedule : List (Label CatalogInput)}
variable {pool next : CatalogPool}

/--
A tick that commits returns a summary of what it committed exactly when neither
an `advanceInstance` nor a `RELEASE SAVEPOINT` threw.
-/
theorem tick_summary_accurate_iff
    {arguments : Tick.Arguments}
    {nowIso : Timestamp}
    {summary : Tick.Summary}
    {environment : CatalogEnvironment}
    (ran : run? cron stored schedule = some pool)
    (calling :
      pool.locals process = .tick (.between arguments nowIso [] summary))
    (stepped :
      (catalogSystem cron).step? pool (process, .proceed environment) =
        some next) :
    next.locals process = .tick (.done (.ok summary)) ∧
      (summary.Accurate process pool.shared next.shared ↔
        ¬ ∃ instanceId,
          Happened cron stored schedule
              (RaisesAt process .advancing instanceId) ∨
            Happened cron stored schedule
              (RaisesAt process .releasing instanceId)) := by
  obtain ⟨documents, entries, instances, runs, opened, account, guarded,
    rfl, onInstances, onRuns⟩ := accounted_of_run ran calling
  obtain ⟨statement, reply, issued, executed, resumed⟩ := step_moves stepped
  dsimp only at issued executed resumed
  rw [calling] at issued resumed
  cases issued
  refine ⟨resumed, ?_⟩
  have handled : documents.length = entries.length := by
    rw [account.handled, List.append_nil, List.length_map]
  have created :
      {runId | pool.shared.run runId = none ∧
          (next.shared.run runId).isSome = true} =
        {runId | runId ∈ entries.filterMap Tick.Entry.created?} := by
    ext runId
    refine (Catalog.inserts_iff_of_commit executed opened
      guarded.fresh).trans ?_
    rw [onRuns]
    exact Tick.mem_ledgerRuns
  have advanced :
      {instanceId | pool.shared.Publishes process instanceId} =
        {instanceId |
          instanceId ∈ entries.filterMap Tick.Entry.advanced?} := by
    ext instanceId
    refine (Catalog.publishes_iff_of_open opened).trans ?_
    rw [onInstances]
    exact Tick.mem_ledgerInstances
  have checked := Tick.tally_checked documents.length entries
  have failed := Tick.tally_failed documents.length entries
  have inserted := Tick.tally_inserted documents.length entries
  have slipped := account.unslipped_iff
  refine Iff.trans ?_ slipped
  constructor
  · intro accurate
    have all := accurate.checked
    omega
  · intro unslipped
    obtain ⟨createdRuns, advancedRows⟩ :=
      Tick.tally_of_unslipped documents.length unslipped
    refine ⟨?_, ?_, ?_, ?_⟩
    · rw [created, ncard_of_nodup account.created, createdRuns]
    · rw [advanced, ncard_of_nodup account.advanced_nodup, advancedRows]
    · omega
    · omega

/-- Of the pair, the first instance is given up when it is to be advanced. -/
def advancePairPartly : List (Label CatalogInput) :=
  claimPair ++ [proceedAt 1 5, (1, .raise)] ++
    List.replicate 5 (proceedAt 1 5)

/-- One run and one advance are committed; the summary counts two runs. -/
theorem advancePairPartly_not_accurate :
    ¬ ∀ cron stored schedule pool next process arguments nowIso summary
        environment,
      run? cron stored schedule = some pool →
      pool.locals process = .tick (.between arguments nowIso [] summary) →
      (catalogSystem cron).step? pool (process, .proceed environment) =
        some next →
      summary.Accurate process pool.shared next.shared := by
  intro accurate
  have outcome :
      (run? hourly storedPair advancePairPartly).bind
          (fun pool =>
            ((catalogSystem hourly).step? pool (proceedAt 1 5)).map
              fun _ => committing? (pool.locals 1)) =
        some (some (⟨false, 10, false⟩, 5, ⟨2, 2, 0, 1, 1⟩)) := by
    decide
  obtain ⟨pool, ran, moves⟩ := Option.bind_eq_some_iff.mp outcome
  obtain ⟨next, stepped, shape⟩ := Option.map_eq_some_iff.mp moves
  have handled :=
    (accurate _ _ _ pool next 1 _ _ _ _ ran
      (committing_of_committing? shape) stepped).checked
  exact absurd handled (by decide)

/-- With the insert as the failing step, the summary is exact. -/
theorem tick_summary_accurate_iff_firePairPartly :
    ∃ pool next : CatalogPool,
      run? hourly storedPair firePairPartly = some pool ∧
        next.locals 1 = .tick (.done (.ok ⟨2, 1, 0, 1, 1⟩)) ∧
        ((⟨2, 1, 0, 1, 1⟩ : Tick.Summary).Accurate 1 pool.shared
            next.shared ↔
          ¬ ∃ instanceId,
            Happened hourly storedPair firePairPartly
                (RaisesAt 1 .advancing instanceId) ∨
              Happened hourly storedPair firePairPartly
                (RaisesAt 1 .releasing instanceId)) := by
  have outcome :
      (run? hourly storedPair firePairPartly).bind
          (fun pool =>
            ((catalogSystem hourly).step? pool (proceedAt 1 5)).map
              fun _ => committing? (pool.locals 1)) =
        some (some (⟨false, 10, false⟩, 5, ⟨2, 1, 0, 1, 1⟩)) := by
    decide
  obtain ⟨pool, ran, moves⟩ := Option.bind_eq_some_iff.mp outcome
  obtain ⟨next, stepped, shape⟩ := Option.map_eq_some_iff.mp moves
  exact ⟨pool, next, ran, tick_summary_accurate_iff ran
    (committing_of_committing? shape) stepped⟩

end CatalogPool

end IgaScheduler

import IgaScheduler.ScheduledFireTimes
import IgaScheduler.TickLedger

namespace IgaScheduler

open Relational Interleaving

/-!
# Isolation and atomicity of a tick

A tick that throws has changed no row.  A tick that commits has fired each of
its instances or left it alone, its row and its runs, and which of the two
depends on that instance only.
-/

namespace Tick

/-- A tick that commits: what was seen of it, and the rows around the commit. -/
structure Committed where
  arguments : Arguments
  evidence : Evidence
  before : Catalog
  after : Catalog

namespace Committed

/-- Nothing to fire was computed, or something awaited for the instance threw. -/
def Fails
    (cron : CronParser)
    (tick : Committed)
    (document : InstanceDocument) :
    Prop :=
  firing? cron document = none ∨
    ∃ point, tick.evidence.raised point document.instanceId

/-- The instance is advanced, and the run of its fire time is there. -/
structure Fired
    (nowIso : Timestamp)
    (tick : Committed)
    (firing : Firing) :
    Prop where
  advanced :
    tick.after.jobInstance firing.document.instanceId =
      some (firing.advancedRow nowIso)
  present : (tick.after.run firing.runId).isSome = true
  kept :
    (tick.before.run firing.runId).isSome = true →
    tick.after.run firing.runId = tick.before.run firing.runId
  created :
    tick.before.run firing.runId = none →
    ∃ snapshot,
      tick.evidence.Drafted tick.arguments firing snapshot ∧
        tick.after.run firing.runId =
          some (documentToRow (firing.runDocument nowIso snapshot))

/-- The row of the instance is what it was, and so are its runs. -/
structure LeftAlone
    (tick : Committed)
    (document : InstanceDocument) :
    Prop where
  row :
    tick.after.jobInstance document.instanceId =
      tick.before.jobInstance document.instanceId
  runs :
    ∀ {runId : String} {run : JobRun},
      run.instanceId = document.instanceId →
      (tick.after.run runId = some run ↔ tick.before.run runId = some run)
  runIds :
    ∀ {fire : Timestamp} {runId : String},
      buildRunId document.tenantId document.instanceId fire = some runId →
      tick.after.run runId = tick.before.run runId

/-- What a tick that commits does to an instance that it has claimed. -/
structure Outcome
    (cron : CronParser)
    (nowIso : Timestamp)
    (tick : Committed)
    (document : InstanceDocument) :
    Prop where
  claimed :
    tick.before.jobInstance document.instanceId =
      some document.toJobInstance
  fired :
    ¬ tick.Fails cron document →
    ∃ firing, firing? cron document = some firing ∧ tick.Fired nowIso firing
  leftAlone : tick.Fails cron document → tick.LeftAlone document

/-- Two ticks leave the same row, and the same run where both create it. -/
structure Agrees
    (cron : CronParser)
    (tick other : Committed)
    (document : InstanceDocument) :
    Prop where
  row :
    tick.after.jobInstance document.instanceId =
      other.after.jobInstance document.instanceId
  present :
    ¬ tick.Fails cron document →
    ∀ {firing : Firing}, firing? cron document = some firing →
    (tick.after.run firing.runId).isSome = true ∧
      (other.after.run firing.runId).isSome = true
  run :
    ¬ tick.Fails cron document →
    ∀ {firing : Firing}, firing? cron document = some firing →
    tick.before.run firing.runId = none →
    other.before.run firing.runId = none →
    tick.arguments.definitionService = other.arguments.definitionService →
    (∀ {found otherFound : Option DefinitionDocument},
      tick.evidence.fetched document.instanceId found →
      other.evidence.fetched document.instanceId otherFound →
      found = otherFound) →
    tick.after.run firing.runId = other.after.run firing.runId

/-- Whether an instance fails decides what becomes of it. -/
theorem Outcome.agrees
    {cron : CronParser}
    {nowIso : Timestamp}
    {tick other : Committed}
    {document : InstanceDocument}
    (first : tick.Outcome cron nowIso document)
    (second : other.Outcome cron nowIso document)
    (same : tick.Fails cron document ↔ other.Fails cron document) :
    tick.Agrees cron other document := by
  by_cases fails : tick.Fails cron document
  · refine ⟨?_, fun fired => (fired fails).elim,
      fun fired => (fired fails).elim⟩
    rw [(first.leftAlone fails).row, first.claimed,
      (second.leftAlone (same.mp fails)).row, second.claimed]
  · obtain ⟨firing, computed, fired⟩ := first.fired fails
    obtain ⟨otherFiring, otherComputed, otherFired⟩ :=
      second.fired (mt same.mpr fails)
    obtain rfl := Option.some.inj (computed.symm.trans otherComputed)
    obtain rfl := (firing?_eq_some computed).1
    refine ⟨fired.advanced.trans otherFired.advanced.symm, ?_, ?_⟩
    · intro _ again shape
      obtain rfl := Option.some.inj (computed.symm.trans shape)
      exact ⟨fired.present, otherFired.present⟩
    · intro _ again shape absent otherAbsent served fetches
      obtain rfl := Option.some.inj (computed.symm.trans shape)
      obtain ⟨snapshot, drafted, row⟩ := fired.created absent
      obtain ⟨otherSnapshot, otherDrafted, otherRow⟩ :=
        otherFired.created otherAbsent
      rw [row, otherRow]
      cases snapshot with
      | none =>
          cases otherSnapshot with
          | none =>
              rfl
          | some otherSnapshot =>
              have unserved : tick.arguments.definitionService = false :=
                drafted
              rw [served, otherDrafted.1] at unserved
              cases unserved
      | some snapshot =>
          cases otherSnapshot with
          | none =>
              have unserved : other.arguments.definitionService = false :=
                otherDrafted
              rw [← served, drafted.1] at unserved
              cases unserved
          | some otherSnapshot =>
              obtain ⟨-, found, fetched, rfl⟩ := drafted
              obtain ⟨-, otherFound, otherFetched, rfl⟩ := otherDrafted
              rw [fetches fetched otherFetched]

end Committed

section Commit

variable {cron : CronParser}
variable {arguments : Arguments}
variable {nowIso : Timestamp}
variable {evidence : Evidence}
variable {documents rest : List InstanceDocument}
variable {entries : List Entry}

/-- An instance has one entry. -/
theorem Account.entry_unique
    {first second : Entry}
    (account : Account cron arguments nowIso evidence documents entries rest)
    (firstMember : first ∈ entries)
    (secondMember : second ∈ entries)
    (same : first.document.instanceId = second.document.instanceId) :
    first = second := by
  have distinct := account.distinct
  rw [account.handled, List.map_append, List.map_map] at distinct
  exact List.inj_on_of_nodup_map (List.nodup_append'.mp distinct).1
    firstMember secondMember same

/-- Every claimed instance was fired, or it was given up for its own failure. -/
theorem Account.fired_or_failed
    {document : InstanceDocument}
    (account : Account cron arguments nowIso evidence documents entries [])
    (member : document ∈ documents) :
    (∃ firing snapshot created,
      Entry.fired firing snapshot created ∈ entries ∧
        firing.document = document ∧
        firing? cron document = some firing ∧
        ¬ ∃ point, evidence.raised point document.instanceId) ∨
      ∃ failure,
        Entry.failed document failure ∈ entries ∧
          (firing? cron document = none ∨
            ∃ point, evidence.raised point document.instanceId) := by
  have handled := account.handled
  rw [List.append_nil] at handled
  rw [handled] at member
  obtain ⟨entry, listed, rfl⟩ := List.mem_map.mp member
  have sound := account.sound entry listed
  cases entry with
  | fired firing snapshot created =>
      refine .inl ⟨firing, snapshot, created, listed, rfl, sound.1, ?_⟩
      rintro ⟨point, raised⟩
      obtain ⟨other, otherListed, failedAt⟩ :=
        (account.raised point _).mp raised
      cases other with
      | fired otherFiring otherSnapshot otherCreated =>
          exact failedAt
      | failed other failure =>
          have same :=
            account.entry_unique otherListed listed failedAt.2
          cases same
  | failed document failure =>
      refine .inr ⟨failure, listed, ?_⟩
      cases threw : failure.point? with
      | none =>
          exact .inl (sound.mp threw)
      | some point =>
          exact .inr ⟨point, (account.raised point _).mpr
            ⟨_, listed, threw, rfl⟩⟩

/-- A row that a tick has claimed and fired is that of the instance it read. -/
theorem Fired.same
    {catalog : Catalog}
    {runs : WorkingSet String JobRun}
    {row : JobInstance}
    {firing written : Firing}
    (fired :
      Fired cron nowIso catalog runs firing.document.instanceId row written)
    (computed : firing? cron firing.document = some firing)
    (stored :
      catalog.jobInstance firing.document.instanceId =
        some firing.document.toJobInstance) :
    written = firing := by
  have sameRow :=
    Option.some.inj (fired.stored.symm.trans stored)
  have sameDocument : written.document = firing.document := by
    have sameInstance := fired.sameInstance
    generalize written.document = left at sameRow sameInstance
    generalize firing.document = right at sameRow sameInstance
    cases left
    cases right
    cases sameRow
    cases sameInstance
    rfl
  have writtenComputed := fired.computed
  rw [sameDocument] at writtenComputed
  exact Option.some.inj (writtenComputed.symm.trans computed)

/-- The run of an instance that was given up is not among those created. -/
theorem Account.created_of_other
    {document : InstanceDocument}
    {failure : Failure}
    {firing : Firing}
    {snapshot : Option DefinitionSnapshot}
    {created : Bool}
    (account : Account cron arguments nowIso evidence documents entries rest)
    (failed : Entry.failed document failure ∈ entries)
    (fired : Entry.fired firing snapshot created ∈ entries) :
    firing.document.instanceId ≠ document.instanceId := by
  intro same
  have equal := account.entry_unique fired failed same
  cases equal

variable {process : Nat}
variable {catalog next : Catalog}
variable {reply : CatalogReply}
variable {instances : Transaction String JobInstance}
variable {runs : Transaction String JobRun}

/-- The commit writes no row of an instance that was not advanced. -/
theorem untouched_of_commit
    {instanceId : String}
    (onInstances :
      instances.toWorkingSet = ledgerInstances nowIso documents entries)
    (opened : catalog.Open process instances runs)
    (executed : catalog.exec process .commit = some (next, reply))
    (unlisted : instanceId ∉ entries.filterMap Entry.advanced?) :
    next.jobInstance instanceId = catalog.jobInstance instanceId := by
  have unwritten : instanceId ∉ instances.writes := by
    rw [onInstances]
    exact mt mem_ledgerInstances.mp unlisted
  rw [(Catalog.exec_commit executed opened).1,
    AList.lookup_eq_none.mpr unwritten, Option.none_or]

/-- The commit writes the advanced row of an instance that was fired. -/
theorem advanced_of_commit
    {firing : Firing}
    {snapshot : Option DefinitionSnapshot}
    {created : Bool}
    (account : Account cron arguments nowIso evidence documents entries rest)
    (onInstances :
      instances.toWorkingSet = ledgerInstances nowIso documents entries)
    (opened : catalog.Open process instances runs)
    (executed : catalog.exec process .commit = some (next, reply))
    (member : Entry.fired firing snapshot created ∈ entries) :
    next.jobInstance firing.document.instanceId =
      some (firing.advancedRow nowIso) := by
  have listed :
      firing.document.instanceId ∈ instances.writes := by
    rw [onInstances]
    exact mem_ledgerInstances.mpr
      (List.mem_filterMap.mpr ⟨_, member, rfl⟩)
  obtain ⟨row, written⟩ :=
    Option.isSome_iff_exists.mp (AList.lookup_isSome.mpr listed)
  rw [(Catalog.exec_commit executed opened).1, written, Option.some_or]
  rw [onInstances] at written
  obtain ⟨other, otherSnapshot, otherCreated, otherMember, same, rfl⟩ :=
    lookup_ledgerInstances written
  have equal := account.entry_unique otherMember member same
  cases equal
  rfl

/-- An instance that was given up is not advanced. -/
theorem Account.unlisted_of_failed
    {document : InstanceDocument}
    {failure : Failure}
    (account : Account cron arguments nowIso evidence documents entries rest)
    (failed : Entry.failed document failure ∈ entries) :
    document.instanceId ∉ entries.filterMap Entry.advanced? := by
  intro listed
  obtain ⟨entry, member, same⟩ := List.mem_filterMap.mp listed
  cases entry with
  | fired firing snapshot created =>
      exact account.created_of_other failed member (Option.some.inj same)
  | failed other failure =>
      cases same

/-- An entry is about an instance that was claimed. -/
theorem Account.claimed
    {entry : Entry}
    (account : Account cron arguments nowIso evidence documents entries rest)
    (member : entry ∈ entries) :
    entry.document ∈ documents := by
  rw [account.handled]
  exact List.mem_append_left _ (List.mem_map_of_mem member)

/-- A run under a name of a claimed instance was inserted for that instance. -/
theorem Account.inserted_for
    {document : InstanceDocument}
    {fire : Timestamp}
    {runId : String}
    {run : JobRun}
    (account : Account cron arguments nowIso evidence documents entries rest)
    (onRuns : runs.toWorkingSet = ledgerRuns nowIso entries)
    (colonFree :
      ∀ document ∈ documents, ColonFree document.instanceId)
    (claimed : document ∈ documents)
    (named :
      buildRunId document.tenantId document.instanceId fire = some runId)
    (inserted : runs.writes.lookup runId = some run) :
    ∃ firing snapshot,
      Entry.fired firing snapshot true ∈ entries ∧
        firing.document.instanceId = document.instanceId ∧
        run = documentToRow (firing.runDocument nowIso snapshot) := by
  rw [onRuns] at inserted
  obtain ⟨firing, snapshot, member, rfl, rfl⟩ := lookup_ledgerRuns inserted
  have computed := (account.sound _ member).1
  have same :=
    (buildRunId_inj (colonFree _ (account.claimed member))
      (colonFree _ claimed) (firing?_eq_some computed).2.2.2 named).1
  exact ⟨firing, snapshot, member, same, rfl⟩

/-- The commit leaves an instance that was given up alone. -/
theorem leftAlone_of_commit
    {document : InstanceDocument}
    {failure : Failure}
    (account : Account cron arguments nowIso evidence documents entries [])
    (guarded : Guarded catalog documents runs.toWorkingSet)
    (onInstances :
      instances.toWorkingSet = ledgerInstances nowIso documents entries)
    (onRuns : runs.toWorkingSet = ledgerRuns nowIso entries)
    (opened : catalog.Open process instances runs)
    (executed : catalog.exec process .commit = some (next, reply))
    (colonFree :
      ∀ document ∈ documents, ColonFree document.instanceId)
    (claimed : document ∈ documents)
    (failed : Entry.failed document failure ∈ entries) :
    (⟨arguments, evidence, catalog, next⟩ : Committed).LeftAlone
      document := by
  obtain ⟨-, runRows⟩ := Catalog.exec_commit executed opened
  refine ⟨untouched_of_commit onInstances opened executed
    (account.unlisted_of_failed failed), ?_, ?_⟩
  · intro runId run ofInstance
    change next.run runId = some run ↔ catalog.run runId = some run
    rw [runRows]
    cases written : runs.writes.lookup runId with
    | none =>
        rfl
    | some inserted =>
        have absent := guarded.fresh runId
          (AList.lookup_isSome.mp (by rw [written]; rfl))
        rw [onRuns] at written
        obtain ⟨firing, snapshot, member, -, rfl⟩ :=
          lookup_ledgerRuns written
        rw [absent, Option.some_or]
        refine iff_of_false ?_ nofun
        intro same
        cases same
        exact account.created_of_other failed member ofInstance
  · intro fire runId named
    change next.run runId = catalog.run runId
    rw [runRows]
    cases written : runs.writes.lookup runId with
    | none =>
        rfl
    | some inserted =>
        obtain ⟨firing, snapshot, member, same, -⟩ :=
          account.inserted_for onRuns colonFree claimed named written
        exact (account.created_of_other failed member same).elim

/-- The commit advances an instance that was fired, and its run is there. -/
theorem fired_of_commit
    {firing : Firing}
    {snapshot : Option DefinitionSnapshot}
    {created : Bool}
    (account : Account cron arguments nowIso evidence documents entries [])
    (guarded : Guarded catalog documents runs.toWorkingSet)
    (settled :
      Settled cron nowIso catalog instances.toWorkingSet runs.toWorkingSet)
    (onInstances :
      instances.toWorkingSet = ledgerInstances nowIso documents entries)
    (onRuns : runs.toWorkingSet = ledgerRuns nowIso entries)
    (opened : catalog.Open process instances runs)
    (executed : catalog.exec process .commit = some (next, reply))
    (colonFree :
      ∀ document ∈ documents, ColonFree document.instanceId)
    (member : Entry.fired firing snapshot created ∈ entries) :
    (⟨arguments, evidence, catalog, next⟩ : Committed).Fired nowIso
      firing := by
  obtain ⟨-, runRows⟩ := Catalog.exec_commit executed opened
  obtain ⟨computed, -⟩ := account.sound _ member
  have stored := guarded.stored _ (account.claimed member)
  -- the row written under the id of the instance is its own
  obtain ⟨row, written⟩ :
      ∃ row,
        instances.writes.lookup firing.document.instanceId = some row := by
    refine Option.isSome_iff_exists.mp (AList.lookup_isSome.mpr ?_)
    rw [onInstances, mem_ledgerInstances]
    exact List.mem_filterMap.mpr ⟨_, member, rfl⟩
  obtain ⟨other, fired⟩ := settled.fired written
  obtain rfl := fired.same computed stored
  -- so is the run inserted under its run id, if there is one
  have own
      {run : JobRun}
      (inserted : runs.writes.lookup other.runId = some run) :
      ∃ snapshot,
        evidence.Drafted arguments other snapshot ∧
          run = documentToRow (other.runDocument nowIso snapshot) := by
    obtain ⟨creating, drawn, listed, same, rfl⟩ :=
      account.inserted_for onRuns colonFree (account.claimed member)
        (firing?_eq_some computed).2.2.2 inserted
    have drafted := (account.sound _ listed).2
    have equal := account.entry_unique listed member same
    cases equal
    exact ⟨snapshot, drafted, rfl⟩
  refine ⟨advanced_of_commit account onInstances opened executed member,
    ?_, ?_, ?_⟩
  · change (next.run _).isSome = true
    rw [runRows, Option.isSome_or, Bool.or_eq_true]
    exact fired.present.imp_left AList.lookup_isSome.mpr
  · intro before
    change next.run _ = catalog.run _
    rw [runRows]
    cases inserted : runs.writes.lookup other.runId with
    | none =>
        rfl
    | some run =>
        change (catalog.run _).isSome = true at before
        rw [guarded.fresh other.runId
          (AList.lookup_isSome.mp (by rw [inserted]; rfl))] at before
        cases before
  · intro before
    change catalog.run _ = none at before
    change ∃ snapshot, _ ∧ next.run _ = _
    rcases fired.present with inTransaction | committed
    · obtain ⟨run, inserted⟩ :=
        Option.isSome_iff_exists.mp (AList.lookup_isSome.mpr inTransaction)
      obtain ⟨snapshot, drafted, rfl⟩ := own inserted
      refine ⟨snapshot, drafted, ?_⟩
      rw [runRows, inserted]
      rfl
    · rw [before] at committed
      cases committed

end Commit

end Tick

namespace CatalogPool

variable {cron : CronParser}
variable {stored : Stored}
variable {process : Nat}
variable {schedule : List (Label CatalogInput)}
variable {pool next : CatalogPool}

/-- A step of this process changes committed rows. -/
def Changes
    (process : Nat)
    (label : Label CatalogInput)
    (before after : CatalogPool) :
    Prop :=
  label.1 = process ∧ ¬ Catalog.Uncommitted before.shared after.shared

/-- A tick that has changed committed rows has committed. -/
theorem committed_of_changes
    {call : Tick.Local}
    (ran : run? cron stored schedule = some pool)
    (calling : pool.locals process = .tick call) :
    Happened cron stored schedule (Changes process) →
    ∃ summary, call = .done (.ok summary) := by
  refine tick_induction
    (fun visited => ¬ Happened cron stored visited (Changes process))
    (fun visited _ call =>
      Happened cron stored visited (Changes process) →
      ∃ summary, call = .done (.ok summary))
    System.not_happened_nil ?_ ?_ ?_ ran calling
  · intro earlier visited next label arguments ranEarlier stepped own before
      unchanged changed
    subst own
    rcases (System.happened_append_singleton ranEarlier stepped).mp changed
      with earlierChanged | ⟨-, changes⟩
    · exact (unchanged earlierChanged).elim
    · obtain ⟨request, -, quiet, -⟩ := idle_step before stepped
      exact (changes quiet).elim
  · intro earlier visited next label call after ranEarlier stepped own before
      entered finished changed
    subst own
    obtain ⟨reply, ⟨environment, statement, -, issued, executed, resumed⟩ |
      ⟨-, executed, resumed⟩⟩ := tick_step before stepped
    · obtain rfl := CatalogCall.tick.inj (entered.symm.trans resumed)
      rcases (System.happened_append_singleton ranEarlier stepped).mp
        changed with earlierChanged | ⟨-, changes⟩
      · obtain ⟨summary, rfl⟩ := finished earlierChanged
        cases issued
      · by_cases commits : statement = .commit
        · subst commits
          obtain ⟨arguments, nowIso, summary, shape⟩ :=
            calling_of_commit
              (show (CatalogCall.tick call).issue (.proceed environment) =
                some .commit from issued)
          cases shape
          exact ⟨summary, rfl⟩
        · exact (changes (Catalog.exec_uncommitted executed
            (Tick.isStatement_of_issue issued) commits)).elim
    · obtain rfl := CatalogCall.tick.inj (entered.symm.trans resumed)
      rcases (System.happened_append_singleton ranEarlier stepped).mp
        changed with earlierChanged | ⟨-, changes⟩
      · obtain ⟨summary, rfl⟩ := finished earlierChanged
        exact ⟨summary, rfl⟩
      · refine (changes ?_).elim
        generalize next.shared = shared at executed ⊢
        cases call with
        | rollingBack =>
            exact Catalog.exec_uncommitted executed rfl nofun
        | _ =>
            cases executed
            exact ⟨rfl, rfl⟩
  · intro earlier visited next label ranEarlier stepped different
    have same :
        Happened cron stored (earlier ++ [label]) (Changes process) ↔
          Happened cron stored earlier (Changes process) :=
      (System.happened_append_singleton ranEarlier stepped).trans
        (or_iff_left fun now => different now.1)
    rw [same]
    exact ⟨id, id⟩

/-- The tick of this process, which has claimed these instances, commits now. -/
structure Commits
    (cron : CronParser)
    (stored : Stored)
    (process : Nat)
    (schedule : List (Label CatalogInput))
    (nowIso : Timestamp)
    (documents : List InstanceDocument)
    (tick : Tick.Committed) :
    Prop where
  identifiers :
    ∀ instanceId row, stored.instances.lookup instanceId = some row →
      ColonFree instanceId
  claimed :
    Happened cron stored schedule
      (Claims process ⟨tick.arguments, nowIso, documents⟩)
  evidence : tick.evidence = evidence cron stored process schedule
  step :
    ∃ pool next environment summary,
      run? cron stored schedule = some pool ∧
        pool.locals process =
          .tick (.between tick.arguments nowIso [] summary) ∧
        (catalogSystem cron).step? pool (process, .proceed environment) =
          some next ∧
        tick.before = pool.shared ∧
        tick.after = next.shared

/-- A tick that commits leaves one of the two outcomes of each instance. -/
theorem Commits.outcome
    {nowIso : Timestamp}
    {documents : List InstanceDocument}
    {tick : Tick.Committed}
    (commits : Commits cron stored process schedule nowIso documents tick) :
    ∀ document ∈ documents, tick.Outcome cron nowIso document := by
  obtain ⟨identifiers, claims, seen, pool, next, environment, summary, ran,
    calling, stepped, before, after⟩ := commits
  obtain ⟨arguments, tickEvidence, tickBefore, tickAfter⟩ := tick
  dsimp only at seen before after calling
  subst seen before after
  have reachable : Reachable cron stored pool := ⟨schedule, ran⟩
  obtain ⟨claimed, entries, instances, runs, opened, account, guarded, -,
    onInstances, onRuns⟩ := accounted_of_run ran calling
  cases (account.claims _).mp claims
  obtain ⟨openedInstances, openedRuns, openedToo, batch⟩ :=
    reachable.ticksHold calling
  cases opened.instances.symm.trans openedToo.instances
  cases opened.runs.symm.trans openedToo.runs
  obtain ⟨statement, reply, issued, executed, -⟩ := step_moves stepped
  dsimp only at issued executed
  rw [calling] at issued
  cases issued
  have colonFree :
      ∀ document ∈ documents, ColonFree document.instanceId :=
    fun document member =>
      reachable.colonFree identifiers (guarded.stored document member)
  intro document member
  refine ⟨guarded.stored document member, ?_, ?_⟩
  · intro succeeds
    obtain ⟨firing, snapshot, created, listed, rfl, computed, -⟩ |
      ⟨failure, -, fails⟩ := account.fired_or_failed member
    · exact ⟨firing, computed, Tick.fired_of_commit account guarded
        batch.settled onInstances onRuns opened executed colonFree listed⟩
    · exact (succeeds fails).elim
  · intro fails
    obtain ⟨firing, snapshot, created, -, rfl, computed, silent⟩ |
      ⟨failure, listed, -⟩ := account.fired_or_failed member
    · rcases fails with missing | raised
      · rw [computed] at missing
        cases missing
      · exact (silent raised).elim
    · exact Tick.leftAlone_of_commit account guarded onInstances onRuns
        opened executed colonFree member listed

/--
A tick that throws has changed no row.  A tick that commits has changed none
before, and to each instance that it claimed it does, as a whole or not at all,
what that instance and its own failures decide.
-/
theorem tick_isolation
    (identifiers :
      ∀ instanceId row, stored.instances.lookup instanceId = some row →
        ColonFree instanceId)
    (ran : run? cron stored schedule = some pool) :
    (∀ {error : ServiceError},
      pool.locals process = .tick (.done (.error error)) →
      ¬ Happened cron stored schedule (Changes process)) ∧
    ∀ {arguments : Tick.Arguments} {nowIso : Timestamp}
      {summary : Tick.Summary} {environment : CatalogEnvironment}
      {next : CatalogPool},
      pool.locals process = .tick (.between arguments nowIso [] summary) →
      (catalogSystem cron).step? pool (process, .proceed environment) =
        some next →
      ¬ Happened cron stored schedule (Changes process) ∧
      ∃ documents,
        Happened cron stored schedule
            (Claims process ⟨arguments, nowIso, documents⟩) ∧
        ∀ document ∈ documents,
          let tick : Tick.Committed :=
            ⟨arguments, evidence cron stored process schedule, pool.shared,
              next.shared⟩
          tick.Outcome cron nowIso document ∧
          ∀ {otherStored : Stored} {other : Nat}
            {otherSchedule : List (Label CatalogInput)}
            {otherDocuments : List InstanceDocument}
            {otherTick : Tick.Committed},
            Commits cron otherStored other otherSchedule nowIso
              otherDocuments otherTick →
            document ∈ otherDocuments →
            (tick.Fails cron document ↔ otherTick.Fails cron document) →
            tick.Agrees cron otherTick document := by
  constructor
  · intro error calling changed
    obtain ⟨summary, shape⟩ := committed_of_changes ran calling changed
    cases shape
  · intro arguments nowIso summary environment next calling stepped
    refine ⟨fun changed => ?_, ?_⟩
    · obtain ⟨_, shape⟩ := committed_of_changes ran calling changed
      cases shape
    · obtain ⟨documents, entries, instances, runs, -, account, -⟩ :=
        accounted_of_run ran calling
      have claimed := (account.claims _).mpr rfl
      refine ⟨documents, claimed, ?_⟩
      intro document member tick
      have commits :
          Commits cron stored process schedule nowIso documents tick :=
        ⟨identifiers, claimed, rfl, pool, next, environment, summary, ran,
          calling, stepped, rfl, rfl⟩
      have outcome := commits.outcome document member
      exact ⟨outcome, fun otherCommits otherMember same =>
        outcome.agrees (otherCommits.outcome document otherMember) same⟩

/-- The tick commits one instance of the two. -/
theorem tick_isolation_firePairPartly :
    ∃ pool next documents,
      run? hourly storedPair firePairPartly = some pool ∧
        (catalogSystem hourly).step? pool (proceedAt 1 5) = some next ∧
        pool.locals 1 =
          .tick (.between ⟨false, 10, false⟩ 5 [] ⟨2, 1, 0, 1, 1⟩) ∧
        Happened hourly storedPair firePairPartly
            (Claims 1 ⟨⟨false, 10, false⟩, 5, documents⟩) ∧
        ∀ document ∈ documents,
          (⟨⟨false, 10, false⟩, evidence hourly storedPair 1 firePairPartly,
              pool.shared, next.shared⟩ : Tick.Committed).Outcome hourly 5
            document := by
  have outcome :
      (run? hourly storedPair firePairPartly).bind
          (fun pool =>
            ((catalogSystem hourly).step? pool (proceedAt 1 5)).map
              fun _ => committing? (pool.locals 1)) =
        some (some (⟨false, 10, false⟩, 5, ⟨2, 1, 0, 1, 1⟩)) := by
    decide
  have identifiers :
      ∀ instanceId row, storedPair.instances.lookup instanceId = some row →
        ColonFree instanceId := by
    intro instanceId row found
    by_cases report : instanceId = "report"
    · subst report
      decide
    · rw [storedPair, AList.lookup_insert_ne report] at found
      by_cases hourly : instanceId = "hourly"
      · subst hourly
        decide
      · rw [AList.lookup_insert_ne hourly] at found
        cases found
  obtain ⟨pool, ran, moves⟩ := Option.bind_eq_some_iff.mp outcome
  obtain ⟨next, stepped, shape⟩ := Option.map_eq_some_iff.mp moves
  have calling := committing_of_committing? shape
  obtain ⟨-, documents, claimed, outcomes⟩ :=
    (tick_isolation identifiers ran).2 calling stepped
  exact ⟨pool, next, documents, ran, stepped, calling, claimed,
    fun document member => (outcomes document member).1⟩

end CatalogPool

end IgaScheduler

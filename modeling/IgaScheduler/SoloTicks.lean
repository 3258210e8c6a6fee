import IgaScheduler.RelationalProgress
import IgaScheduler.RelationalSelection
import IgaScheduler.TickIsolation

namespace IgaScheduler

open Relational Interleaving

/-!
# Ticks one after the other

A tick that nobody interferes with claims the due instances that come first,
fires those of them that do not fail, and touches no other row.  Nothing but
its own failures keeps it from committing: whichever instances are to fail,
there is such a tick.
-/

namespace Catalog

/-- Nobody but this process has a transaction. -/
structure Alone
    (catalog : Catalog)
    (process : Nat) :
    Prop where
  instances :
    ∀ other, other ≠ process →
      catalog.instances.transactions.lookup other = none
  runs :
    ∀ other, other ≠ process →
      catalog.runs.transactions.lookup other = none

/-- The statements of a process open no transaction for another one. -/
theorem Alone.exec
    {process : Nat}
    {statement : CatalogStatement}
    {catalog next : Catalog}
    {reply : CatalogReply}
    (alone : Alone catalog process)
    (executed : catalog.exec process statement = some (next, reply)) :
    Alone next process := by
  constructor
  · intro other different
    rw [(exec_transactions_other executed different).1]
    exact alone.instances other different
  · intro other different
    rw [(exec_transactions_other executed different).2]
    exact alone.runs other different

theorem exec_isSome
    {process : Nat}
    {statement : CatalogStatement}
    {catalog : Catalog}
    (enabled : (catalog.perform process statement).isSome = true) :
    ∃ next reply, catalog.exec process statement = some (next, reply) := by
  obtain ⟨⟨next, reply⟩, performed⟩ := Option.isSome_iff_exists.mp enabled
  exact ⟨_, reply, by rw [Catalog.exec, performed]; rfl⟩

theorem inTransaction?_isSome
    {catalog : Catalog}
    {onInstances :
      Database String JobInstance → Option (Database String JobInstance)}
    {onRuns : Database String JobRun → Option (Database String JobRun)}
    (instances : (onInstances catalog.instances).isSome = true)
    (runs : (onRuns catalog.runs).isSome = true) :
    (catalog.inTransaction? onInstances onRuns).isSome = true := by
  obtain ⟨nextInstances, first⟩ := Option.isSome_iff_exists.mp instances
  obtain ⟨nextRuns, second⟩ := Option.isSome_iff_exists.mp runs
  rw [inTransaction?, first, second]
  rfl

end Catalog

namespace Tick

/-- A tick that is alone never waits. -/
theorem Local.Accounted.enabled
    {cron : CronParser}
    {process : Nat}
    {evidence : Evidence}
    {catalog : Catalog}
    {call : Local}
    {environment : CatalogEnvironment}
    {statement : CatalogStatement}
    (accounted : call.Accounted cron process evidence catalog)
    (alone : catalog.Alone process)
    (issued : issue call environment = some statement) :
    ∃ next reply, catalog.exec process statement = some (next, reply) := by
  apply Catalog.exec_isSome
  cases call with
  | start arguments =>
      simp only [issue] at issued
      split at issued <;> cases issued <;> rfl
  | claiming arguments nowIso =>
      cases issued
      obtain ⟨-, instances, runs, opened, -⟩ := accounted
      simp only [Catalog.perform, Option.isSome_map]
      exact Database.selectForUpdate?_isSome opened.instances
  | between arguments nowIso rest summary =>
      obtain ⟨documents, entries, instances, runs, opened, -⟩ := accounted
      cases rest with
      | nil =>
          cases issued
          simp only [Catalog.perform]
          exact Catalog.inTransaction?_isSome
            (Database.commit?_isSome opened.instances)
            (Database.commit?_isSome opened.runs)
      | cons document rest =>
          cases issued
          simp only [Catalog.perform]
          exact Catalog.inTransaction?_isSome
            (Database.savepoint?_isSome opened.instances)
            (Database.savepoint?_isSome opened.runs)
  | handling arguments nowIso stage rest summary =>
      obtain ⟨documents, entries, instances, runs, opened, behind⟩ :=
        accounted
      cases issued
      cases stage with
      | fetching firing =>
          rfl
      | inserting firing runDocument =>
          simp only [Stage.issue, Catalog.perform, Option.isSome_map]
          exact Database.insertIn?_isSome opened.runs
            (Database.lockedByOther_of_alone alone.runs _)
      | advancing firing =>
          simp only [Stage.issue, Catalog.perform, Option.isSome_map]
          exact Database.updateIn?_isSome opened.instances
            (Database.lockedByOther_of_alone alone.instances _)
      | releasing firing =>
          simp only [Stage.issue, Catalog.perform]
          exact Catalog.inTransaction?_isSome
            (Database.release?_isSome opened.instances)
            (Database.release?_isSome opened.runs)
      | undoing =>
          simp only [Stage.issue, Catalog.perform]
          exact Catalog.inTransaction?_isSome
            (Database.rollbackTo?_isSome opened.instances
              behind.instancesSaved)
            (Database.rollbackTo?_isSome opened.runs behind.runsSaved)
  | rollingBack =>
      cases issued
      rfl
  | done outcome =>
      cases issued

end Tick

namespace CatalogPool

variable {cron : CronParser}
variable {stored : Stored}
variable {process : Nat}
variable {schedule : List (Label CatalogInput)}
variable {pool next : CatalogPool}

/-- While only one process moves, only that one has a transaction. -/
theorem alone_of_run
    (own : ∀ label ∈ schedule, label.1 = process)
    (ran : run? cron stored schedule = some pool) :
    pool.shared.Alone process := by
  refine System.run?_induction
    (fun visited reached =>
      (∀ label ∈ visited, label.1 = process) →
      reached.shared.Alone process)
    (fun _ => ⟨fun _ _ => rfl, fun _ _ => rfl⟩) ?_ ran own
  intro earlier visited next label ranEarlier known stepped own
  obtain ⟨statement, reply, -, executed, -⟩ := step_moves stepped
  rw [own label (by simp)] at executed
  exact (known fun other member =>
    own other (List.mem_append_left _ member)).exec executed

/-- While one process moves and changes no row, the rows are those stored. -/
theorem uncommitted_of_run
    (own : ∀ label ∈ schedule, label.1 = process)
    (unchanged : ¬ Happened cron stored schedule (Changes process))
    (ran : run? cron stored schedule = some pool) :
    pool.shared.instances.committed = stored.instances ∧
      pool.shared.runs.committed = stored.runs := by
  refine System.run?_induction
    (fun visited reached =>
      (∀ label ∈ visited, label.1 = process) →
      ¬ Happened cron stored visited (Changes process) →
      reached.shared.instances.committed = stored.instances ∧
        reached.shared.runs.committed = stored.runs)
    (fun _ _ => ⟨rfl, rfl⟩) ?_ ran own unchanged
  intro earlier visited next label ranEarlier known stepped own unchanged
  obtain ⟨earlierUnchanged, nowUnchanged⟩ := not_or.mp
    (mt (System.happened_append_singleton ranEarlier stepped).mpr unchanged)
  obtain ⟨instances, runs⟩ := known
    (fun other member => own other (List.mem_append_left _ member))
    earlierUnchanged
  have quiet : Catalog.Uncommitted visited.shared next.shared := by
    by_contra changes
    exact nowUnchanged ⟨own label (by simp), changes⟩
  exact ⟨quiet.instances.trans instances, quiet.runs.trans runs⟩

/-- What is stored when the statements so far have been executed. -/
def storage (pool : CatalogPool) : Stored where
  definitions := pool.shared.definitions
  instances := pool.shared.instances.committed
  runs := pool.shared.runs.committed

/-- The due instances that come first, in this physical order of the rows. -/
def dueBatch
    (arguments : Tick.Arguments)
    (nowIso : Timestamp)
    (stored : Stored) :
    List (String × JobInstance) :=
  stored.instances.select (fun _ row => InstanceStore.due nowIso row)
    (fun row => row.nextFireAt.getD 0) arguments.batchSize

/--
A process runs a tick at `nowIso` all by itself, up to its `COMMIT`; of the
instances that it claims, exactly the failing ones fail.
-/
structure SoloTick
    (cron : CronParser)
    (arguments : Tick.Arguments)
    (nowIso : Timestamp)
    (failing : Set String)
    (stored : Stored)
    (process : Nat)
    (schedule : List (Label CatalogInput))
    (pool next : CatalogPool) :
    Prop where
  own : ∀ label ∈ schedule, label.1 = process
  ran : run? cron stored schedule = some pool
  calling :
    ∃ summary,
      pool.locals process = .tick (.between arguments nowIso [] summary)
  commits :
    ∃ environment,
      (catalogSystem cron).step? pool (process, .proceed environment) =
        some next
  fails :
    ∀ {documents : List InstanceDocument},
      Happened cron stored schedule
          (Claims process ⟨arguments, nowIso, documents⟩) →
      ∀ document ∈ documents,
        (Tick.firing? cron document = none ∨
          ∃ point,
            Happened cron stored schedule
              (RaisesAt process point document.instanceId)) ↔
        document.instanceId ∈ failing

section Solo

variable {arguments : Tick.Arguments}
variable {nowIso : Timestamp}
variable {failing : Set String}

/-- What a tick that is alone claims is the first of what is due. -/
theorem documents_of_claims
    {documents : List InstanceDocument}
    (own : ∀ label ∈ schedule, label.1 = process)
    (claimed :
      Happened cron stored schedule
        (Claims process ⟨arguments, nowIso, documents⟩)) :
    documents =
      (dueBatch arguments nowIso stored).map fun entry =>
        instanceDocument entry.1 entry.2 := by
  obtain ⟨earlier, label, later, before, after, rfl, ranEarlier, stepped,
    ⟨environment, rfl⟩, entering, summary, entered⟩ := claimed
  have ownEarlier : ∀ label ∈ earlier, label.1 = process :=
    fun label member => own label (List.mem_append_left _ member)
  have unchanged :
      ¬ Happened cron stored earlier (Changes process) := by
    intro changed
    obtain ⟨_, shape⟩ :=
      committed_of_changes ranEarlier entering changed
    cases shape
  obtain ⟨committed, -⟩ := uncommitted_of_run ownEarlier unchanged ranEarlier
  have alone := alone_of_run ownEarlier ranEarlier
  obtain ⟨reply, ⟨_, statement, -, issued, executed, resumed⟩ |
    ⟨raises, -⟩⟩ := tick_step entering stepped
  · cases issued
    dsimp only at resumed executed
    rw [entered] at resumed
    obtain rfl : documents = reply.listed := by
      cases resumed
      rfl
    obtain ⟨performed, ran, -⟩ := Catalog.exec_eq_some executed
    obtain ⟨⟨database, rows⟩, selected, shape⟩ :=
      Option.map_eq_some_iff.mp ran
    cases shape
    obtain ⟨rfl, -⟩ := Database.selectForUpdate?_eq_some selected
    have free : ∀ key,
        before.shared.instances.lockedByOther process key = false :=
      Database.lockedByOther_of_alone alone.instances
    simp only [CatalogReply.listed, Database.selectUnlocked, free,
      Bool.not_false, Bool.and_true, committed]
    rfl
  · cases raises

/-- What a tick that is alone makes of the instances. -/
theorem SoloTick.rows
    (tick :
      SoloTick cron arguments nowIso failing stored process schedule pool
        next) :
    (∀ {instanceId : String} {row : JobInstance},
      (instanceId, row) ∈ dueBatch arguments nowIso stored →
      instanceId ∉ failing →
      ∃ firing,
        Tick.firing? cron (instanceDocument instanceId row) = some firing ∧
          next.storage.instances.lookup instanceId =
            some (firing.advancedRow nowIso)) ∧
    ∀ {instanceId : String},
      (∀ row,
        (instanceId, row) ∈ dueBatch arguments nowIso stored →
        instanceId ∈ failing) →
      next.storage.instances.lookup instanceId =
        stored.instances.lookup instanceId := by
  obtain ⟨own, ran, ⟨summary, calling⟩, ⟨environment, stepped⟩, fails⟩ :=
    tick
  obtain ⟨documents, entries, instances, runs, opened, account, guarded, -,
    onInstances, -⟩ := accounted_of_run ran calling
  have claimed := (account.claims _).mpr rfl
  have batch := documents_of_claims own claimed
  have unchanged :
      ¬ Happened cron stored schedule (Changes process) := by
    intro changed
    obtain ⟨_, shape⟩ := committed_of_changes ran calling changed
    cases shape
  obtain ⟨committed, -⟩ := uncommitted_of_run own unchanged ran
  obtain ⟨statement, reply, issued, executed, -⟩ := step_moves stepped
  dsimp only at issued executed
  rw [calling] at issued
  cases issued
  constructor
  · intro instanceId row selected healthy
    have member : instanceDocument instanceId row ∈ documents := by
      rw [batch]
      exact List.mem_map.mpr ⟨(instanceId, row), selected, rfl⟩
    obtain ⟨firing, snapshot, created, listed, same, computed, -⟩ |
      ⟨failure, -, failed⟩ := account.fired_or_failed member
    · have advanced := Tick.advanced_of_commit account onInstances opened
        executed listed
      rw [same] at advanced
      exact ⟨firing, computed, advanced⟩
    · exact (healthy ((fails claimed _ member).mp failed)).elim
  · intro instanceId selectedFails
    have unlisted :
        instanceId ∉ entries.filterMap Tick.Entry.advanced? := by
      intro listed
      obtain ⟨entry, member, same⟩ := List.mem_filterMap.mp listed
      cases entry with
      | failed document failure =>
          cases same
      | fired firing snapshot created =>
          have handled : firing.document ∈ documents :=
            account.claimed member
          have selected := handled
          rw [batch] at selected
          obtain ⟨⟨key, row⟩, inBatch, shape⟩ := List.mem_map.mp selected
          have sameKey : key = instanceId := by
            rw [← Option.some.inj same, ← shape]
            rfl
          subst sameKey
          have failing : firing.document.instanceId ∈ failing := by
            rw [Option.some.inj same]
            exact selectedFails row inBatch
          have failed := (fails claimed _ handled).mpr failing
          obtain ⟨_, _, _, _, _, computed, silent⟩ |
            ⟨failure, otherMember, -⟩ := account.fired_or_failed handled
          · rcases failed with missing | raised
            · rw [computed] at missing
              cases missing
            · exact silent raised
          · exact account.created_of_other otherMember member rfl
    change next.shared.jobInstance instanceId = _
    rw [Tick.untouched_of_commit onInstances opened executed unlisted,
      Catalog.jobInstance, committed]

/-! ## There is such a tick -/

/-- A tick has come this far alone, and only failing instances have failed. -/
structure UnderWay
    (cron : CronParser)
    (failing : Set String)
    (stored : Stored)
    (process : Nat)
    (schedule : List (Label CatalogInput))
    (pool : CatalogPool)
    (call : Tick.Local) :
    Prop where
  own : ∀ label ∈ schedule, label.1 = process
  ran : run? cron stored schedule = some pool
  calling : pool.locals process = .tick call
  raised :
    ∀ {point : Tick.Point} {instanceId : String},
      Happened cron stored schedule (RaisesAt process point instanceId) →
      instanceId ∈ failing

/-- The instance has failed by now, or nothing was computed for it. -/
def HasFailed
    (cron : CronParser)
    (stored : Stored)
    (process : Nat)
    (schedule : List (Label CatalogInput))
    (document : InstanceDocument) :
    Prop :=
  Tick.firing? cron document = none ∨
    ∃ point,
      Happened cron stored schedule
        (RaisesAt process point document.instanceId)

theorem HasFailed.append
    {document : InstanceDocument}
    (failed : HasFailed cron stored process schedule document)
    (more : List (Label CatalogInput)) :
    HasFailed cron stored process (schedule ++ more) document :=
  failed.imp_right fun ⟨point, raised⟩ => ⟨point, raised.append more⟩

variable {call : Tick.Local}
variable {rest : List InstanceDocument}
variable {summary : Tick.Summary}

theorem own_append
    (own : ∀ label ∈ schedule, label.1 = process)
    (input : CatalogInput) :
    ∀ label ∈ schedule ++ [(process, input)], label.1 = process := by
  intro label member
  rcases List.mem_append.mp member with earlier | newest
  · exact own label earlier
  · rw [List.mem_singleton.mp newest]

/-- A statement that is issued and enabled is executed in one step. -/
theorem exists_step
    (cron : CronParser)
    {input : CatalogInput}
    {statement : CatalogStatement}
    {shared : Catalog}
    {reply : CatalogReply}
    (issued : (pool.locals process).issue input = some statement)
    (executed : pool.shared.exec process statement = some (shared, reply)) :
    ∃ next,
      (catalogSystem cron).step? pool (process, input) = some next ∧
        next.locals process =
          (pool.locals process).resume cron input reply :=
  ⟨_, System.step?_eq_some.mpr
      ⟨statement, shared, reply, issued, executed, rfl⟩,
    Function.update_self ..⟩

/-- The awaited statement of a tick that is alone can be executed. -/
theorem UnderWay.proceed
    {statement : CatalogStatement}
    (underWay : UnderWay cron failing stored process schedule pool call)
    (environment : CatalogEnvironment)
    (issued : Tick.issue call environment = some statement) :
    ∃ next reply,
      (catalogSystem cron).step? pool (process, .proceed environment) =
          some next ∧
        UnderWay cron failing stored process
          (schedule ++ [(process, .proceed environment)]) next
          (Tick.resume cron call environment reply) := by
  obtain ⟨shared, reply, executed⟩ :=
    (accounted_of_run underWay.ran underWay.calling).enabled
      (alone_of_run underWay.own underWay.ran) issued
  have awaited :
      (pool.locals process).issue (.proceed environment) =
        some statement := by
    rw [underWay.calling]
    exact issued
  obtain ⟨next, stepped, resumed⟩ :=
    exists_step cron awaited executed
  rw [underWay.calling] at resumed
  refine ⟨next, reply, stepped, own_append underWay.own _,
    System.run?_append_eq_some.mpr
      ⟨pool, underWay.ran, System.run?_singleton.trans stepped⟩,
    resumed, ?_⟩
  intro point instanceId raised
  rcases (System.happened_append_singleton underWay.ran stepped).mp raised
    with earlier | ⟨shape, -⟩
  · exact underWay.raised earlier
  · cases shape

/-- What is awaited for a failing instance can throw. -/
theorem UnderWay.raise
    {stage : Tick.Stage}
    (underWay :
      UnderWay cron failing stored process schedule pool
        (.handling arguments nowIso stage rest summary))
    (point : Tick.Point)
    {instanceId : String}
    (awaits :
      ∀ other otherId,
        stage.AwaitsAt other otherId ↔
          other = point ∧ otherId = instanceId)
    (fails : instanceId ∈ failing) :
    ∃ next,
      UnderWay cron failing stored process
          (schedule ++ [(process, .raise)]) next
          (.handling arguments nowIso .undoing rest summary) ∧
        Happened cron stored (schedule ++ [(process, .raise)])
          (RaisesAt process point instanceId) := by
  have awaited : stage.AwaitsAt point instanceId :=
    (awaits point instanceId).mpr ⟨rfl, rfl⟩
  have throws :
      Tick.raise (.handling arguments nowIso stage rest summary) =
        .handling arguments nowIso .undoing rest summary := by
    cases stage with
    | undoing =>
        exact awaited.elim
    | _ =>
        rfl
  have issued : (pool.locals process).issue .raise = some .skip := by
    rw [underWay.calling]
    rfl
  obtain ⟨next, stepped, resumed⟩ := exists_step cron issued rfl
  rw [underWay.calling] at resumed
  change next.locals process = .tick (Tick.raise _) at resumed
  rw [throws] at resumed
  refine ⟨next, ⟨own_append underWay.own _,
    System.run?_append_eq_some.mpr
      ⟨pool, underWay.ran, System.run?_singleton.trans stepped⟩,
    resumed, ?_⟩, ?_⟩
  · intro other otherId raised
    rcases (System.happened_append_singleton underWay.ran stepped).mp raised
      with earlier | ⟨-, call, calling, awaitedToo⟩
    · exact underWay.raised earlier
    · rw [underWay.calling] at calling
      cases calling
      rw [((awaits other otherId).mp awaitedToo).2]
      exact fails
  · exact (System.happened_append_singleton underWay.ran stepped).mpr
      (.inr ⟨rfl, _, underWay.calling, awaited⟩)

/-- From its insert on, an instance can be fired without failure. -/
theorem UnderWay.insert
    {firing : Tick.Firing}
    {runDocument : RunDocument}
    (underWay :
      UnderWay cron failing stored process schedule pool
        (.handling arguments nowIso (.inserting firing runDocument) rest
          summary)) :
    ∃ more final reached,
      UnderWay cron failing stored process (schedule ++ more) final
        (.between arguments nowIso rest reached) := by
  let environment := catalogEnvironmentAt nowIso
  obtain ⟨_, _, -, advancing⟩ := underWay.proceed environment rfl
  obtain ⟨_, _, -, releasing⟩ := advancing.proceed environment rfl
  obtain ⟨final, _, -, released⟩ := releasing.proceed environment rfl
  rw [List.append_assoc, List.append_assoc] at released
  exact ⟨_, final, _, released⟩

/-- What is awaited for a failing instance throws, and it is given up. -/
theorem UnderWay.giveUp
    {stage : Tick.Stage}
    {instanceId : String}
    (underWay :
      UnderWay cron failing stored process schedule pool
        (.handling arguments nowIso stage rest summary))
    (point : Tick.Point)
    (awaits :
      ∀ other otherId,
        stage.AwaitsAt other otherId ↔
          other = point ∧ otherId = instanceId)
    (fails : instanceId ∈ failing) :
    ∃ more final reached,
      UnderWay cron failing stored process (schedule ++ more) final
          (.between arguments nowIso rest reached) ∧
        Happened cron stored (schedule ++ more)
          (RaisesAt process point instanceId) := by
  obtain ⟨_, undoing, raised⟩ := underWay.raise point awaits fails
  obtain ⟨final, _, -, undone⟩ :=
    undoing.proceed (catalogEnvironmentAt nowIso) rfl
  have happened :=
    raised.append [(process, .proceed (catalogEnvironmentAt nowIso))]
  rw [List.append_assoc] at undone happened
  exact ⟨_, final, _, undone, happened⟩

/-- Behind its savepoint, an instance can fail or be fired, as it is to. -/
theorem UnderWay.firstStage
    {document : InstanceDocument}
    (underWay :
      UnderWay cron failing stored process schedule pool
        (.handling arguments nowIso
          (Tick.firstStage cron arguments nowIso document) rest summary))
    (computable :
      document.instanceId ∉ failing →
      Tick.firing? cron document ≠ none) :
    ∃ more final reached,
      UnderWay cron failing stored process (schedule ++ more) final
          (.between arguments nowIso rest reached) ∧
        (document.instanceId ∈ failing →
          HasFailed cron stored process (schedule ++ more) document) := by
  let environment := catalogEnvironmentAt nowIso
  unfold Tick.firstStage at underWay
  cases computed : Tick.firing? cron document with
  | none =>
      rw [computed] at underWay
      obtain ⟨final, _, -, undone⟩ := underWay.proceed environment rfl
      exact ⟨_, final, _, undone, fun _ => .inl computed⟩
  | some firing =>
      rw [computed] at underWay
      obtain rfl := (Tick.firing?_eq_some computed).1
      by_cases fails : firing.document.instanceId ∈ failing
      · by_cases served : arguments.definitionService = true
        · simp only [served, if_true] at underWay
          obtain ⟨more, final, reached, undone, raised⟩ :=
            underWay.giveUp .fetching
              (fun other otherId => by
                simp [Tick.Stage.AwaitsAt, eq_comm]) fails
          exact ⟨more, final, reached, undone, fun _ => .inr ⟨_, raised⟩⟩
        · simp only [served] at underWay
          obtain ⟨more, final, reached, undone, raised⟩ :=
            underWay.giveUp .inserting
              (fun other otherId => by
                simp [Tick.Stage.AwaitsAt, eq_comm]) fails
          exact ⟨more, final, reached, undone, fun _ => .inr ⟨_, raised⟩⟩
      · by_cases served : arguments.definitionService = true
        · simp only [served, if_true] at underWay
          obtain ⟨_, _, -, inserting⟩ := underWay.proceed environment rfl
          obtain ⟨more, final, reached, fired⟩ := inserting.insert
          rw [List.append_assoc] at fired
          exact ⟨_, final, reached, fired, fun member =>
            (fails member).elim⟩
        · simp only [served] at underWay
          obtain ⟨more, final, reached, fired⟩ := underWay.insert
          exact ⟨_, final, reached, fired, fun member =>
            (fails member).elim⟩

/-- All instances that are still to come can fail or be fired. -/
theorem UnderWay.handleAll
    (underWay :
      UnderWay cron failing stored process schedule pool
        (.between arguments nowIso rest summary))
    (computable :
      ∀ document ∈ rest,
        document.instanceId ∉ failing →
        Tick.firing? cron document ≠ none) :
    ∃ more final reached,
      UnderWay cron failing stored process (schedule ++ more) final
          (.between arguments nowIso [] reached) ∧
        ∀ document ∈ rest,
          document.instanceId ∈ failing →
          HasFailed cron stored process (schedule ++ more) document := by
  induction rest generalizing schedule pool summary with
  | nil =>
      refine ⟨[], pool, summary, ?_, fun document member => nomatch member⟩
      rw [List.append_nil]
      exact underWay
  | cons document later inductionHypothesis =>
      obtain ⟨saved, _, -, handling⟩ :=
        underWay.proceed (catalogEnvironmentAt nowIso) rfl
      obtain ⟨first, middle, counted, handled, failed⟩ :=
        handling.firstStage (computable document List.mem_cons_self)
      obtain ⟨second, final, reached, finished, others⟩ :=
        inductionHypothesis handled fun other member =>
          computable other (List.mem_cons_of_mem _ member)
      rw [List.append_assoc, List.append_assoc] at finished
      refine ⟨_, final, reached, finished, ?_⟩
      intro other member fails
      rw [← List.append_assoc, ← List.append_assoc]
      rcases List.mem_cons.mp member with rfl | inLater
      · exact (failed fails).append second
      · exact others other inLater fails

/-- Whichever instances are to fail, a tick can run and commit. -/
theorem exists_soloTick
    (process : Nat)
    (notDry : arguments.dryRun = false)
    (computable :
      ∀ {instanceId : String} {row : JobInstance},
        (instanceId, row) ∈ dueBatch arguments nowIso stored →
        instanceId ∉ failing →
        Tick.firing? cron (instanceDocument instanceId row) ≠ none) :
    ∃ schedule pool next,
      SoloTick cron arguments nowIso failing stored process schedule pool
        next := by
  let environment := catalogEnvironmentAt nowIso
  have issued :
      ((initial stored).locals process).issue (.start (.tick arguments)) =
        some .skip :=
    rfl
  obtain ⟨started, stepped, calling⟩ := exists_step cron issued rfl
  have start :
      UnderWay cron failing stored process
        [(process, .start (.tick arguments))] started
        (.start arguments) := by
    refine ⟨fun label member => by rw [List.mem_singleton.mp member],
      System.run?_singleton.trans stepped, calling, ?_⟩
    rintro point instanceId ⟨earlier, label, later, before, after, shape, -,
      -, rfl, -⟩
    cases earlier with
    | nil =>
        cases shape
    | cons first others =>
        simp at shape
  have begins : Tick.issue (.start arguments) environment = some .begin := by
    simp [Tick.issue, notDry]
  obtain ⟨begun, _, -, claiming⟩ := start.proceed environment begins
  have began (reply : CatalogReply) :
      Tick.resume cron (.start arguments) environment reply =
        .claiming arguments nowIso := by
    simp [Tick.resume, notDry]
    rfl
  rw [began] at claiming
  obtain ⟨_, reply, steppedClaim, claimed⟩ :=
    claiming.proceed environment rfl
  have claims :
      Happened cron stored _
        (Claims process ⟨arguments, nowIso, reply.listed⟩) :=
    (System.happened_append_singleton claiming.ran steppedClaim).mpr
      (.inr ⟨⟨environment, rfl⟩, claiming.calling, _, claimed.calling⟩)
  have batch := documents_of_claims claimed.own claims
  have computes :
      ∀ document ∈ reply.listed,
        document.instanceId ∉ failing →
        Tick.firing? cron document ≠ none := by
    intro document member healthy
    rw [batch] at member
    obtain ⟨entry, selected, rfl⟩ := List.mem_map.mp member
    exact computable selected healthy
  obtain ⟨more, final, reached, finished, failed⟩ :=
    claimed.handleAll computes
  obtain ⟨next, _, commits, -⟩ := finished.proceed environment rfl
  refine ⟨_, final, next, finished.own, finished.ran,
    ⟨reached, finished.calling⟩, ⟨environment, commits⟩, ?_⟩
  intro documents claimsToo document member
  have same := documents_of_claims finished.own claimsToo
  rw [same, ← batch] at member
  constructor
  · rintro (missing | ⟨point, raised⟩)
    · by_contra healthy
      exact computes document member healthy missing
    · exact finished.raised raised
  · exact failed document member

end Solo

end CatalogPool

end IgaScheduler

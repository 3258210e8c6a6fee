import IgaScheduler.CatalogSystem

namespace IgaScheduler

open Relational Interleaving

/-!
# The transaction of a tick

Between two instances, the uncommitted writes of a tick are complete: an
instance is advanced there exactly when the run of its fire time is there or
committed before.  The row locks make what the tick has read stay true until
it commits, and a savepoint is only taken of complete writes.
-/

namespace Catalog

/-- What others may do while a transaction holds these locks. -/
structure Keeps
    (locked : List String)
    (catalog next : Catalog) :
    Prop where
  rows :
    ∀ instanceId ∈ locked,
      next.jobInstance instanceId = catalog.jobInstance instanceId
  runs :
    ∀ runId, (catalog.run runId).isSome = true →
      (next.run runId).isSome = true

/-- A step that commits nothing keeps everything. -/
theorem Keeps.of_committed_eq
    {catalog next : Catalog}
    (instances : next.instances.committed = catalog.instances.committed)
    (runs : next.runs.committed = catalog.runs.committed)
    (locked : List String) :
    Keeps locked catalog next :=
  ⟨fun instanceId _ => by rw [jobInstance, instances, jobInstance],
    fun runId present => by rwa [run, runs]⟩

/-- Committed runs are never removed. -/
theorem exec_run_isSome
    {process : Nat}
    {statement : CatalogStatement}
    {catalog next : Catalog}
    {reply : CatalogReply}
    (executed : catalog.exec process statement = some (next, reply))
    {runId : String}
    (present : (catalog.run runId).isSome = true) :
    (next.run runId).isSome = true := by
  obtain ⟨performed, ran, rfl⟩ := exec_eq_some executed
  have effect := perform_runEffect ran runId
  change (performed.run runId).isSome = true
  generalize performed.run runId = after at effect ⊢
  cases effect with
  | kept =>
      exact present
  | published transaction row opened written =>
      rfl

/-- Another process keeps the rows a transaction has locked. -/
theorem exec_keeps
    {process other : Nat}
    {statement : CatalogStatement}
    {catalog next : Catalog}
    {reply : CatalogReply}
    {transaction : Transaction String JobInstance}
    (executed : catalog.exec other statement = some (next, reply))
    (different : process ≠ other)
    (opened :
      catalog.instances.transactions.lookup process = some transaction) :
    Keeps transaction.locked catalog next := by
  refine ⟨?_, fun runId present => exec_run_isSome executed present⟩
  obtain ⟨performed, ran, rfl⟩ := exec_eq_some executed
  intro instanceId held
  exact Database.locked_committed_eq (perform_respects ran).1 different
    opened held

/-- Another process keeps a transaction as it is, on both tables. -/
theorem exec_transactions_other
    {process other : Nat}
    {statement : CatalogStatement}
    {catalog next : Catalog}
    {reply : CatalogReply}
    (executed : catalog.exec other statement = some (next, reply))
    (different : process ≠ other) :
    next.instances.transactions.lookup process =
        catalog.instances.transactions.lookup process ∧
      next.runs.transactions.lookup process =
        catalog.runs.transactions.lookup process := by
  obtain ⟨performed, ran, rfl⟩ := exec_eq_some executed
  obtain ⟨instances, runs⟩ := perform_respects ran
  exact ⟨instances.others process different, runs.others process different⟩

/-- The transaction of a process on both tables. -/
structure Open
    (catalog : Catalog)
    (process : Nat)
    (instances : Transaction String JobInstance)
    (runs : Transaction String JobRun) :
    Prop where
  instances :
    catalog.instances.transactions.lookup process = some instances
  runs : catalog.runs.transactions.lookup process = some runs

/-! ## The statements of a tick -/

theorem exec_begin
    {process : Nat}
    {catalog next : Catalog}
    {reply : CatalogReply}
    (executed : catalog.exec process .begin = some (next, reply)) :
    ∃ instances runs,
      Open next process instances runs ∧
        instances.toWorkingSet = .empty ∧
        runs.toWorkingSet = .empty := by
  obtain ⟨performed, ran, rfl⟩ := exec_eq_some executed
  simp only [perform] at ran
  obtain ⟨_, _, onInstances, onRuns, rfl⟩ := inTransaction?_eq_some ran
  cases onInstances
  cases onRuns
  obtain ⟨instances, openedInstances⟩ :=
    Database.begin_opens catalog.instances process
  obtain ⟨runs, openedRuns⟩ := Database.begin_opens catalog.runs process
  exact ⟨instances, runs, ⟨openedInstances, openedRuns⟩,
    Database.lookup_begin openedInstances, Database.lookup_begin openedRuns⟩

/-- The claimed instances are due, stored as listed, and locked from now on. -/
theorem exec_claimDueInstances
    {process : Nat}
    {nowIso : Timestamp}
    {batchSize : Nat}
    {catalog next : Catalog}
    {reply : CatalogReply}
    {instances : Transaction String JobInstance}
    {runs : Transaction String JobRun}
    (executed :
      catalog.exec process (.claimDueInstances nowIso batchSize) =
        some (next, reply))
    (opened : Open catalog process instances runs) :
    (∀ locked, Keeps locked catalog next) ∧
      (reply.listed.map InstanceDocument.instanceId).Nodup ∧
      (∀ document ∈ reply.listed,
        catalog.jobInstance document.instanceId =
            some document.toJobInstance ∧
          InstanceStore.due nowIso document.toJobInstance = true) ∧
      ∃ after,
        Open next process after runs ∧
          after.toWorkingSet =
            instances.toWorkingSet.lock
              (reply.listed.map InstanceDocument.instanceId) := by
  obtain ⟨performed, ran, rfl⟩ := exec_eq_some executed
  obtain ⟨⟨database, rows⟩, selected, shape⟩ :=
    Option.map_eq_some_iff.mp ran
  cases shape
  obtain ⟨unlocked, committed, -, stored, after, openedBefore, openedAfter,
      -, work⟩ :=
    Database.selectForUpdate?_eq_some selected
  cases openedBefore.symm.trans opened.instances
  have ids :
      (rows.map fun entry => instanceDocument entry.1 entry.2).map
          InstanceDocument.instanceId =
        rows.map Prod.fst := by
    simp
  refine ⟨Keeps.of_committed_eq committed rfl, ?_, ?_, after,
    ⟨openedAfter, opened.runs⟩, ?_⟩
  · simp only [CatalogReply.listed, ids]
    rw [unlocked]
    exact Table.select_keys_nodup _ _ _ _
  · intro document member
    obtain ⟨entry, listed, rfl⟩ := List.mem_map.mp member
    rw [unlocked] at listed
    obtain ⟨found, due, -⟩ := Database.mem_selectUnlocked listed
    exact ⟨found, due⟩
  · simp only [CatalogReply.listed, ids]
    exact work

theorem exec_savepoint
    {process : Nat}
    {catalog next : Catalog}
    {reply : CatalogReply}
    {instances : Transaction String JobInstance}
    {runs : Transaction String JobRun}
    (executed : catalog.exec process .savepoint = some (next, reply))
    (opened : Open catalog process instances runs) :
    (∀ locked, Keeps locked catalog next) ∧
      ∃ instancesAfter runsAfter,
        Open next process instancesAfter runsAfter ∧
          instancesAfter.toWorkingSet = instances.toWorkingSet ∧
          instancesAfter.savepoint = some instances.toWorkingSet ∧
          runsAfter.toWorkingSet = runs.toWorkingSet ∧
          runsAfter.savepoint = some runs.toWorkingSet := by
  obtain ⟨performed, ran, rfl⟩ := exec_eq_some executed
  simp only [perform] at ran
  obtain ⟨_, _, onInstances, onRuns, rfl⟩ := inTransaction?_eq_some ran
  obtain ⟨committedInstances, -, _, instancesAfter, beforeInstances,
      afterInstances, workInstances, savedInstances⟩ :=
    Database.savepoint?_eq_some onInstances
  obtain ⟨committedRuns, -, _, runsAfter, beforeRuns, afterRuns, workRuns,
      savedRuns⟩ :=
    Database.savepoint?_eq_some onRuns
  cases beforeInstances.symm.trans opened.instances
  cases beforeRuns.symm.trans opened.runs
  exact ⟨Keeps.of_committed_eq committedInstances committedRuns,
    instancesAfter, runsAfter, ⟨afterInstances, afterRuns⟩, workInstances,
    savedInstances, workRuns, savedRuns⟩

/-- The insert answers whether the run was new, to the tick and committed. -/
theorem exec_createRunTx
    {process : Nat}
    {document : RunDocument}
    {catalog next : Catalog}
    {reply : CatalogReply}
    {instances : Transaction String JobInstance}
    {runs : Transaction String JobRun}
    (executed :
      catalog.exec process (.createRunTx document) = some (next, reply))
    (opened : Open catalog process instances runs) :
    (∀ locked, Keeps locked catalog next) ∧
      ∃ runsAfter,
        Open next process instances runsAfter ∧
          runsAfter.savepoint = runs.savepoint ∧
          (runsAfter.toWorkingSet =
            if reply.written then
              runs.toWorkingSet.write document.runId (documentToRow document)
            else
              runs.toWorkingSet) ∧
          (reply.written = true ↔
            document.runId ∉ runs.writes ∧
              catalog.run document.runId = none) := by
  obtain ⟨performed, ran, rfl⟩ := exec_eq_some executed
  obtain ⟨⟨database, created⟩, inserted, shape⟩ :=
    Option.map_eq_some_iff.mp ran
  cases shape
  obtain ⟨committed, -, _, runsAfter, before, after, answer, saved, work⟩ :=
    Database.insertIn?_eq_some inserted
  cases before.symm.trans opened.runs
  have unseen :
      created = true ↔
        document.runId ∉ runs.writes ∧ catalog.run document.runId = none := by
    rw [answer, Option.isNone_iff_eq_none, Database.view,
      Option.or_eq_none_iff, AList.lookup_eq_none]
    rfl
  exact ⟨Keeps.of_committed_eq rfl committed, runsAfter,
    ⟨opened.instances, after⟩, saved, work, unseen⟩

theorem exec_advanceInstance
    {process : Nat}
    {instanceId : String}
    {lastFireAt nextFireAt nowIso : Timestamp}
    {catalog next : Catalog}
    {reply : CatalogReply}
    {instances : Transaction String JobInstance}
    {runs : Transaction String JobRun}
    {row : JobInstance}
    (executed :
      catalog.exec process
          (.advanceInstance instanceId lastFireAt nextFireAt nowIso) =
        some (next, reply))
    (opened : Open catalog process instances runs)
    (unwritten : instanceId ∉ instances.writes)
    (stored : catalog.jobInstance instanceId = some row) :
    (∀ locked, Keeps locked catalog next) ∧
      ∃ instancesAfter,
        Open next process instancesAfter runs ∧
          instancesAfter.savepoint = instances.savepoint ∧
          instancesAfter.toWorkingSet =
            instances.toWorkingSet.write instanceId
              ((InstanceStore.advanceInstance lastFireAt nextFireAt
                nowIso).set row) := by
  obtain ⟨performed, ran, rfl⟩ := exec_eq_some executed
  obtain ⟨⟨database, returned⟩, updated, shape⟩ :=
    Option.map_eq_some_iff.mp ran
  cases shape
  obtain ⟨committed, -, _, instancesAfter, before, after, answer, saved,
      work⟩ :=
    Database.updateIn?_eq_some updated
  cases before.symm.trans opened.instances
  have viewed : catalog.instances.view instances instanceId = some row := by
    rw [Database.view, AList.lookup_eq_none.mpr unwritten, Option.none_or]
    exact stored
  rw [viewed] at answer
  subst answer
  exact ⟨Keeps.of_committed_eq committed rfl, instancesAfter,
    ⟨after, opened.runs⟩, saved, work⟩

theorem exec_releaseSavepoint
    {process : Nat}
    {catalog next : Catalog}
    {reply : CatalogReply}
    {instances : Transaction String JobInstance}
    {runs : Transaction String JobRun}
    (executed :
      catalog.exec process .releaseSavepoint = some (next, reply))
    (opened : Open catalog process instances runs) :
    (∀ locked, Keeps locked catalog next) ∧
      ∃ instancesAfter runsAfter,
        Open next process instancesAfter runsAfter ∧
          instancesAfter.toWorkingSet = instances.toWorkingSet ∧
          runsAfter.toWorkingSet = runs.toWorkingSet := by
  obtain ⟨performed, ran, rfl⟩ := exec_eq_some executed
  simp only [perform] at ran
  obtain ⟨_, _, onInstances, onRuns, rfl⟩ := inTransaction?_eq_some ran
  obtain ⟨committedInstances, -, _, instancesAfter, beforeInstances,
      afterInstances, workInstances⟩ :=
    Database.release?_eq_some onInstances
  obtain ⟨committedRuns, -, _, runsAfter, beforeRuns, afterRuns,
      workRuns⟩ :=
    Database.release?_eq_some onRuns
  cases beforeInstances.symm.trans opened.instances
  cases beforeRuns.symm.trans opened.runs
  exact ⟨Keeps.of_committed_eq committedInstances committedRuns,
    instancesAfter, runsAfter, ⟨afterInstances, afterRuns⟩, workInstances,
    workRuns⟩

theorem exec_rollbackToSavepoint
    {process : Nat}
    {catalog next : Catalog}
    {reply : CatalogReply}
    {instances : Transaction String JobInstance}
    {runs : Transaction String JobRun}
    (executed :
      catalog.exec process .rollbackToSavepoint = some (next, reply))
    (opened : Open catalog process instances runs) :
    (∀ locked, Keeps locked catalog next) ∧
      ∃ instancesAfter runsAfter,
        Open next process instancesAfter runsAfter ∧
          instances.savepoint = some instancesAfter.toWorkingSet ∧
          runs.savepoint = some runsAfter.toWorkingSet := by
  obtain ⟨performed, ran, rfl⟩ := exec_eq_some executed
  simp only [perform] at ran
  obtain ⟨_, _, onInstances, onRuns, rfl⟩ := inTransaction?_eq_some ran
  obtain ⟨committedInstances, -, _, instancesAfter, beforeInstances,
      afterInstances, savedInstances⟩ :=
    Database.rollbackTo?_eq_some onInstances
  obtain ⟨committedRuns, -, _, runsAfter, beforeRuns, afterRuns,
      savedRuns⟩ :=
    Database.rollbackTo?_eq_some onRuns
  cases beforeInstances.symm.trans opened.instances
  cases beforeRuns.symm.trans opened.runs
  exact ⟨Keeps.of_committed_eq committedInstances committedRuns,
    instancesAfter, runsAfter, ⟨afterInstances, afterRuns⟩, savedInstances,
    savedRuns⟩

/-- A commit publishes the writes on both tables at once. -/
theorem exec_commit
    {process : Nat}
    {catalog next : Catalog}
    {reply : CatalogReply}
    {instances : Transaction String JobInstance}
    {runs : Transaction String JobRun}
    (executed : catalog.exec process .commit = some (next, reply))
    (opened : Open catalog process instances runs) :
    (∀ instanceId,
      next.jobInstance instanceId =
        (instances.writes.lookup instanceId).or
          (catalog.jobInstance instanceId)) ∧
      ∀ runId,
        next.run runId =
          (runs.writes.lookup runId).or (catalog.run runId) := by
  obtain ⟨performed, ran, rfl⟩ := exec_eq_some executed
  simp only [perform] at ran
  obtain ⟨_, _, onInstances, onRuns, rfl⟩ := inTransaction?_eq_some ran
  obtain ⟨_, openedInstances, -, rowsInstances⟩ :=
    Database.commit?_eq_some onInstances
  obtain ⟨_, openedRuns, -, rowsRuns⟩ := Database.commit?_eq_some onRuns
  cases openedInstances.symm.trans opened.instances
  cases openedRuns.symm.trans opened.runs
  exact ⟨rowsInstances, rowsRuns⟩

end Catalog

namespace Tick

/-- The row a firing leaves of its instance. -/
def Firing.advancedRow
    (firing : Firing)
    (nowIso : Timestamp) :
    JobInstance :=
  (InstanceStore.advanceInstance firing.scheduledFireTime firing.nextFireAt
    nowIso).set firing.document.toJobInstance

/-- A claimed instance that the transaction has not written yet. -/
structure Claimed
    (nowIso : Timestamp)
    (catalog : Catalog)
    (instances : WorkingSet String JobInstance)
    (document : InstanceDocument) :
    Prop where
  locked : document.instanceId ∈ instances.locked
  unwritten : document.instanceId ∉ instances.writes
  stored :
    catalog.jobInstance document.instanceId = some document.toJobInstance
  due : InstanceStore.due nowIso document.toJobInstance = true

/-- What an advanced instance owes: its row was due, and its run is there. -/
structure Fired
    (cron : CronParser)
    (nowIso : Timestamp)
    (catalog : Catalog)
    (runs : WorkingSet String JobRun)
    (instanceId : String)
    (row : JobInstance)
    (firing : Firing) :
    Prop where
  computed : firing? cron firing.document = some firing
  sameInstance : firing.document.instanceId = instanceId
  stored : catalog.jobInstance instanceId = some firing.document.toJobInstance
  due : InstanceStore.due nowIso firing.document.toJobInstance = true
  advanced : row = firing.advancedRow nowIso
  present :
    firing.runId ∈ runs.writes ∨ (catalog.run firing.runId).isSome = true

/-- What an inserted run owes: its instance is advanced from its fire time. -/
structure Inserted
    (instances : WorkingSet String JobInstance)
    (runId : String)
    (run : JobRun)
    (row : JobInstance) :
    Prop where
  written : instances.writes.lookup run.instanceId = some row
  lastFireAt : row.lastFireAt = some run.scheduledFireTime
  named :
    buildRunId row.tenantId run.instanceId run.scheduledFireTime =
      some runId
  params : run.params = row.parameters

/-- Uncommitted writes in which runs and advances belong together. -/
structure Settled
    (cron : CronParser)
    (nowIso : Timestamp)
    (catalog : Catalog)
    (instances : WorkingSet String JobInstance)
    (runs : WorkingSet String JobRun) :
    Prop where
  fired :
    ∀ {instanceId : String} {row : JobInstance},
      instances.writes.lookup instanceId = some row →
      ∃ firing, Fired cron nowIso catalog runs instanceId row firing
  inserted :
    ∀ {runId : String} {run : JobRun},
      runs.writes.lookup runId = some run →
      ∃ row, Inserted instances runId run row

/-- Settled writes, with further claimed instances still to come. -/
structure Batch
    (cron : CronParser)
    (nowIso : Timestamp)
    (catalog : Catalog)
    (documents : List InstanceDocument)
    (instances : WorkingSet String JobInstance)
    (runs : WorkingSet String JobRun) :
    Prop where
  settled : Settled cron nowIso catalog instances runs
  claimed :
    ∀ document ∈ documents, Claimed nowIso catalog instances document
  distinct : (documents.map InstanceDocument.instanceId).Nodup

/-- A firing computed from a document is about that document. -/
theorem firing?_eq_some
    {cron : CronParser}
    {document : InstanceDocument}
    {firing : Firing}
    (computed : firing? cron document = some firing) :
    firing.document = document ∧
      document.nextFireAt = some firing.scheduledFireTime ∧
      SchedulerTickService.computeNextFireAt cron document.schedule
          firing.scheduledFireTime =
        some firing.nextFireAt ∧
      buildRunId document.tenantId document.instanceId
          firing.scheduledFireTime =
        some firing.runId := by
  obtain ⟨fire, first, rest⟩ := Option.bind_eq_some_iff.mp computed
  obtain ⟨next, second, last⟩ := Option.bind_eq_some_iff.mp rest
  obtain ⟨runId, named, rfl⟩ := Option.map_eq_some_iff.mp last
  exact ⟨rfl, first, second, named⟩

namespace Batch

variable {cron : CronParser}
variable {nowIso : Timestamp}
variable {catalog next : Catalog}
variable {documents rest : List InstanceDocument}
variable {document : InstanceDocument}
variable {instances : WorkingSet String JobInstance}
variable {runs : WorkingSet String JobRun}

/-- Right after the due instances have been locked. -/
theorem selected
    (distinct : (documents.map InstanceDocument.instanceId).Nodup)
    (stored :
      ∀ document ∈ documents,
        catalog.jobInstance document.instanceId =
            some document.toJobInstance ∧
          InstanceStore.due nowIso document.toJobInstance = true) :
    Batch cron nowIso catalog documents
      (WorkingSet.empty.lock (documents.map InstanceDocument.instanceId))
      .empty where
  settled := {
    fired := by simp [WorkingSet.lock, WorkingSet.empty]
    inserted := by simp [WorkingSet.empty]
  }
  claimed := fun document member => {
    locked :=
      List.mem_append_left _ (List.mem_map_of_mem member)
    unwritten := by simp [WorkingSet.lock, WorkingSet.empty]
    stored := (stored document member).1
    due := (stored document member).2
  }
  distinct := distinct

/-- An instance that is given up leaves a batch of the others. -/
theorem tail
    (batch : Batch cron nowIso catalog (document :: rest) instances runs) :
    Batch cron nowIso catalog rest instances runs where
  settled := batch.settled
  claimed := fun other member =>
    batch.claimed other (List.mem_cons_of_mem _ member)
  distinct := (List.nodup_cons.mp batch.distinct).2

/-- Whoever keeps the locked rows keeps the batch. -/
theorem keeps
    (batch : Batch cron nowIso catalog documents instances runs)
    (kept : Catalog.Keeps instances.locked catalog next) :
    Batch cron nowIso next documents instances runs where
  settled := {
    fired := by
      intro instanceId row written
      obtain ⟨firing, fired⟩ := batch.settled.fired written
      have held : instanceId ∈ instances.locked :=
        instances.writesLocked _
          (AList.lookup_isSome.mp (by simp [written]))
      exact ⟨firing, { fired with
        stored := (kept.rows _ held).trans fired.stored
        present := fired.present.imp_right (kept.runs _) }⟩
    inserted := batch.settled.inserted
  }
  claimed := by
    intro document member
    have claimed := batch.claimed document member
    exact { claimed with
      stored := (kept.rows _ claimed.locked).trans claimed.stored }
  distinct := batch.distinct

/--
The next instance is advanced.  Its run is in the transaction or was committed
before, and the transaction holds no further run.
-/
theorem advance
    {firing : Firing}
    {runsAfter : WorkingSet String JobRun}
    (snapshot : Option DefinitionSnapshot)
    (batch :
      Batch cron nowIso catalog (firing.document :: rest) instances runs)
    (computed : firing? cron firing.document = some firing)
    (kept : ∀ runId ∈ runs.writes, runId ∈ runsAfter.writes)
    (added :
      ∀ {runId : String} {run : JobRun},
        runsAfter.writes.lookup runId = some run →
        runs.writes.lookup runId = some run ∨
          runId = firing.runId ∧
            run = documentToRow (firing.runDocument nowIso snapshot))
    (present :
      firing.runId ∈ runsAfter.writes ∨
        (catalog.run firing.runId).isSome = true) :
    Batch cron nowIso catalog rest
      (instances.write firing.document.instanceId
        (firing.advancedRow nowIso))
      runsAfter := by
  have claimed := batch.claimed firing.document List.mem_cons_self
  have unlisted := (List.nodup_cons.mp batch.distinct).1
  refine ⟨⟨?_, ?_⟩, ?_, batch.tail.distinct⟩
  · intro instanceId row written
    by_cases same : instanceId = firing.document.instanceId
    · subst same
      rw [WorkingSet.write, AList.lookup_insert] at written
      cases written
      exact ⟨firing, computed, rfl, claimed.stored, claimed.due, rfl,
        present⟩
    · rw [WorkingSet.write, AList.lookup_insert_ne same] at written
      obtain ⟨earlier, fired⟩ := batch.settled.fired written
      exact ⟨earlier,
        { fired with present := fired.present.imp_left (kept _) }⟩
  · intro runId run written
    rcases added written with before | ⟨rfl, rfl⟩
    · obtain ⟨row, inserted⟩ := batch.settled.inserted before
      have different : run.instanceId ≠ firing.document.instanceId := by
        intro same
        refine claimed.unwritten (AList.lookup_isSome.mp ?_)
        rw [← same, inserted.written]
        rfl
      refine ⟨row, { inserted with written := ?_ }⟩
      rw [WorkingSet.write, AList.lookup_insert_ne different]
      exact inserted.written
    · exact ⟨firing.advancedRow nowIso, AList.lookup_insert _, rfl,
        (firing?_eq_some computed).2.2.2, rfl⟩
  · intro other member
    have earlier := batch.claimed other (List.mem_cons_of_mem _ member)
    have different : other.instanceId ≠ firing.document.instanceId := by
      intro same
      exact unlisted (by rw [← same]; exact List.mem_map_of_mem member)
    refine { earlier with
      locked := List.mem_cons_of_mem _ earlier.locked
      unwritten := ?_ }
    rw [WorkingSet.write, AList.mem_insert]
    exact not_or.mpr ⟨different, earlier.unwritten⟩

end Batch

/-- The run of a firing is in the transaction, or was committed before. -/
def RunPlaced
    (nowIso : Timestamp)
    (catalog : Catalog)
    (firing : Firing)
    (before after : WorkingSet String JobRun) :
    Prop :=
  (after = before ∧
      (firing.runId ∈ before.writes ∨
        (catalog.run firing.runId).isSome = true)) ∨
    ∃ snapshot,
      after =
        before.write firing.runId
          (documentToRow (firing.runDocument nowIso snapshot))

/-- The batch whose savepoint was taken before a firing is still to come. -/
structure Firable
    (cron : CronParser)
    (nowIso : Timestamp)
    (catalog : Catalog)
    (firing : Firing)
    (rest : List InstanceDocument)
    (instances : WorkingSet String JobInstance)
    (runs : WorkingSet String JobRun) :
    Prop where
  computed : firing? cron firing.document = some firing
  batch :
    Batch cron nowIso catalog (firing.document :: rest) instances runs

/-- What is known behind a savepoint, of the writes since it was taken. -/
def Stage.Holds
    (cron : CronParser)
    (nowIso : Timestamp)
    (catalog : Catalog)
    (rest : List InstanceDocument)
    (savedInstances instances : WorkingSet String JobInstance)
    (savedRuns runs : WorkingSet String JobRun) :
    Stage → Prop
  | .fetching firing =>
      Firable cron nowIso catalog firing rest savedInstances savedRuns ∧
        instances = savedInstances ∧
        runs = savedRuns
  | .inserting firing runDocument =>
      Firable cron nowIso catalog firing rest savedInstances savedRuns ∧
        instances = savedInstances ∧
        runs = savedRuns ∧
        ∃ snapshot, runDocument = firing.runDocument nowIso snapshot
  | .advancing firing =>
      Firable cron nowIso catalog firing rest savedInstances savedRuns ∧
        instances = savedInstances ∧
        RunPlaced nowIso catalog firing savedRuns runs
  | .releasing _ => Batch cron nowIso catalog rest instances runs
  | .undoing => True

/-- The transaction behind a savepoint, which a rollback returns to. -/
structure Handling
    (cron : CronParser)
    (nowIso : Timestamp)
    (catalog : Catalog)
    (stage : Stage)
    (rest : List InstanceDocument)
    (instances : Transaction String JobInstance)
    (runs : Transaction String JobRun)
    (savedInstances : WorkingSet String JobInstance)
    (savedRuns : WorkingSet String JobRun) :
    Prop where
  instancesSaved : instances.savepoint = some savedInstances
  runsSaved : runs.savepoint = some savedRuns
  saved : Batch cron nowIso catalog rest savedInstances savedRuns
  stage :
    stage.Holds cron nowIso catalog rest savedInstances
      instances.toWorkingSet savedRuns runs.toWorkingSet

/-- What is known of the transaction of a tick in each of its local states. -/
def Holds
    (cron : CronParser)
    (process : Nat)
    (catalog : Catalog) :
    Local → Prop
  | .claiming _ _ =>
      ∃ instances runs,
        catalog.Open process instances runs ∧
          instances.toWorkingSet = .empty ∧
          runs.toWorkingSet = .empty
  | .between _ nowIso documents _ =>
      ∃ instances runs,
        catalog.Open process instances runs ∧
          Batch cron nowIso catalog documents instances.toWorkingSet
            runs.toWorkingSet
  | .handling _ nowIso stage rest _ =>
      ∃ instances runs savedInstances savedRuns,
        catalog.Open process instances runs ∧
          Handling cron nowIso catalog stage rest instances runs
            savedInstances savedRuns
  | _ => True

section Keeping

variable {cron : CronParser}
variable {nowIso : Timestamp}
variable {catalog next : Catalog}
variable {rest : List InstanceDocument}

/-- An insert that was refused has met the run of the firing. -/
theorem RunPlaced.of_inserted
    {firing : Firing}
    {snapshot : Option DefinitionSnapshot}
    {before after : WorkingSet String JobRun}
    {created : Bool}
    (work :
      after =
        if created then
          before.write firing.runId
            (documentToRow (firing.runDocument nowIso snapshot))
        else
          before)
    (unseen :
      created = true ↔
        firing.runId ∉ before.writes ∧ catalog.run firing.runId = none) :
    RunPlaced nowIso catalog firing before after := by
  cases created with
  | true =>
      exact .inr ⟨snapshot, work⟩
  | false =>
      refine .inl ⟨work, ?_⟩
      by_contra absent
      obtain ⟨unwritten, missing⟩ := not_or.mp absent
      have unseenRun := Option.not_isSome_iff_eq_none.mp missing
      cases unseen.mpr ⟨unwritten, unseenRun⟩

/-- Once its run is placed, the firing can be advanced. -/
theorem Firable.advance
    {firing : Firing}
    {instances : WorkingSet String JobInstance}
    {before after : WorkingSet String JobRun}
    (firable : Firable cron nowIso catalog firing rest instances before)
    (placed : RunPlaced nowIso catalog firing before after) :
    Batch cron nowIso catalog rest
      (instances.write firing.document.instanceId
        (firing.advancedRow nowIso))
      after := by
  rcases placed with ⟨same, present⟩ | ⟨snapshot, same⟩
  · rw [same]
    exact firable.batch.advance none firable.computed
      (fun _ member => member) .inl present
  · rw [same]
    refine firable.batch.advance snapshot firable.computed
      (fun _ member => (AList.mem_insert _).mpr (.inr member)) ?_
      (.inl ((AList.mem_insert _).mpr (.inl rfl)))
    intro runId run written
    by_cases own : runId = firing.runId
    · subst own
      rw [WorkingSet.write, AList.lookup_insert] at written
      cases written
      exact .inr ⟨rfl, rfl⟩
    · rw [WorkingSet.write, AList.lookup_insert_ne own] at written
      exact .inl written

theorem Firable.keeps
    {firing : Firing}
    {instances : WorkingSet String JobInstance}
    {runs : WorkingSet String JobRun}
    (firable : Firable cron nowIso catalog firing rest instances runs)
    (kept : Catalog.Keeps instances.locked catalog next) :
    Firable cron nowIso next firing rest instances runs :=
  ⟨firable.computed, firable.batch.keeps kept⟩

theorem RunPlaced.keeps
    {firing : Firing}
    {before after : WorkingSet String JobRun}
    {locked : List String}
    (placed : RunPlaced nowIso catalog firing before after)
    (kept : Catalog.Keeps locked catalog next) :
    RunPlaced nowIso next firing before after :=
  placed.imp_left fun ⟨same, present⟩ =>
    ⟨same, present.imp_right (kept.runs _)⟩

/-- Whoever keeps the locked rows keeps what is known behind a savepoint. -/
theorem Handling.keeps
    {stage : Stage}
    {instances : Transaction String JobInstance}
    {runs : Transaction String JobRun}
    {savedInstances : WorkingSet String JobInstance}
    {savedRuns : WorkingSet String JobRun}
    (handling :
      Handling cron nowIso catalog stage rest instances runs
        savedInstances savedRuns)
    (kept : Catalog.Keeps instances.locked catalog next) :
    Handling cron nowIso next stage rest instances runs
      savedInstances savedRuns := by
  -- a lock taken before the savepoint is still held
  have keptSaved : Catalog.Keeps savedInstances.locked catalog next :=
    ⟨fun key held =>
        kept.rows key
          (instances.savepointLocked _ handling.instancesSaved key held),
      kept.runs⟩
  refine { handling with
    saved := handling.saved.keeps keptSaved
    stage := ?_ }
  have stageHolds := handling.stage
  cases stage with
  | fetching firing =>
      obtain ⟨firable, rest⟩ := stageHolds
      exact ⟨firable.keeps keptSaved, rest⟩
  | inserting firing runDocument =>
      obtain ⟨firable, rest⟩ := stageHolds
      exact ⟨firable.keeps keptSaved, rest⟩
  | advancing firing =>
      obtain ⟨firable, same, placed⟩ := stageHolds
      exact ⟨firable.keeps keptSaved, same, placed.keeps kept⟩
  | releasing firing =>
      exact Batch.keeps stageHolds kept
  | undoing =>
      trivial

/-- Whoever keeps the transaction and the locked rows keeps what a tick knows. -/
theorem Holds.keeps
    {process : Nat}
    {call : Local}
    (holds : Holds cron process catalog call)
    (sameInstances :
      next.instances.transactions.lookup process =
        catalog.instances.transactions.lookup process)
    (sameRuns :
      next.runs.transactions.lookup process =
        catalog.runs.transactions.lookup process)
    (kept :
      ∀ {transaction : Transaction String JobInstance},
        catalog.instances.transactions.lookup process = some transaction →
        Catalog.Keeps transaction.locked catalog next) :
    Holds cron process next call := by
  have reopened
      {instances : Transaction String JobInstance}
      {runs : Transaction String JobRun}
      (opened : catalog.Open process instances runs) :
      next.Open process instances runs :=
    ⟨sameInstances.trans opened.instances, sameRuns.trans opened.runs⟩
  cases call with
  | claiming arguments nowIso =>
      obtain ⟨instances, runs, opened, fresh⟩ := holds
      exact ⟨instances, runs, reopened opened, fresh⟩
  | between arguments nowIso documents summary =>
      obtain ⟨instances, runs, opened, batch⟩ := holds
      exact ⟨instances, runs, reopened opened,
        batch.keeps (kept opened.instances)⟩
  | handling arguments nowIso stage rest summary =>
      obtain ⟨instances, runs, savedInstances, savedRuns, opened,
          handling⟩ := holds
      exact ⟨instances, runs, savedInstances, savedRuns, reopened opened,
        handling.keeps (kept opened.instances)⟩
  | start | rollingBack | done =>
      trivial

/-- Steps of other processes keep what a tick knows. -/
theorem Holds.exec_other
    {process other : Nat}
    {statement : CatalogStatement}
    {reply : CatalogReply}
    {call : Local}
    (holds : Holds cron process catalog call)
    (executed : catalog.exec other statement = some (next, reply))
    (different : process ≠ other) :
    Holds cron process next call := by
  obtain ⟨sameInstances, sameRuns⟩ :=
    Catalog.exec_transactions_other executed different
  exact holds.keeps sameInstances sameRuns
    fun opened => Catalog.exec_keeps executed different opened

end Keeping

/-! ## The steps of a tick itself -/

/-- The stage behind a savepoint that was taken of a batch. -/
theorem firstStage_holds
    {cron : CronParser}
    {arguments : Arguments}
    {nowIso : Timestamp}
    {catalog : Catalog}
    {document : InstanceDocument}
    {rest : List InstanceDocument}
    {instances : WorkingSet String JobInstance}
    {runs : WorkingSet String JobRun}
    (batch :
      Batch cron nowIso catalog (document :: rest) instances runs) :
    (firstStage cron arguments nowIso document).Holds cron nowIso catalog
      rest instances instances runs runs := by
  unfold firstStage
  split
  · trivial
  · rename_i firing computed
    obtain rfl := (firing?_eq_some computed).1
    split
    · exact ⟨⟨computed, batch⟩, rfl, rfl⟩
    · exact ⟨⟨computed, batch⟩, rfl, rfl, none, rfl⟩

/-- A step behind a savepoint leads to the next stage or past the instance. -/
theorem Holds.proceed_handling
    {cron : CronParser}
    {process : Nat}
    {arguments : Arguments}
    {nowIso : Timestamp}
    {stage : Stage}
    {rest : List InstanceDocument}
    {summary : Summary}
    {catalog next : Catalog}
    {reply : CatalogReply}
    (environment : CatalogEnvironment)
    (holds :
      Holds cron process catalog
        (.handling arguments nowIso stage rest summary))
    (executed :
      catalog.exec process (stage.issue nowIso) = some (next, reply)) :
    Holds cron process next
      (resume cron (.handling arguments nowIso stage rest summary)
        environment reply) := by
  obtain ⟨instances, runs, savedInstances, savedRuns, opened, handling⟩ :=
    holds
  have stageHolds := handling.stage
  cases stage with
  | fetching firing =>
      cases executed
      obtain ⟨firable, sameInstances, sameRuns⟩ := stageHolds
      exact ⟨instances, runs, savedInstances, savedRuns, opened,
        { handling with
          stage := ⟨firable, sameInstances, sameRuns, _, rfl⟩ }⟩
  | inserting firing runDocument =>
      obtain ⟨firable, sameInstances, sameRuns, snapshot, rfl⟩ :=
        stageHolds
      obtain ⟨kept, runsAfter, openedAfter, savepoint, work, unseen⟩ :=
        Catalog.exec_createRunTx executed opened
      have keptHandling := handling.keeps (kept instances.locked)
      rw [sameRuns] at work unseen
      have runPlaced := RunPlaced.of_inserted work unseen
      exact ⟨instances, runsAfter, savedInstances, savedRuns, openedAfter,
        { instancesSaved := handling.instancesSaved
          runsSaved := savepoint.trans handling.runsSaved
          saved := keptHandling.saved
          stage :=
            ⟨keptHandling.stage.1, sameInstances,
              runPlaced.keeps (kept [])⟩ }⟩
  | advancing firing =>
      obtain ⟨firable, sameInstances, placed⟩ := stageHolds
      have claimed :=
        firable.batch.claimed firing.document List.mem_cons_self
      obtain ⟨kept, instancesAfter, openedAfter, savepoint, work⟩ :=
        Catalog.exec_advanceInstance executed opened
          (by rw [sameInstances]; exact claimed.unwritten) claimed.stored
      have keptHandling := handling.keeps (kept instances.locked)
      refine ⟨instancesAfter, runs, savedInstances, savedRuns, openedAfter,
        { instancesSaved := savepoint.trans handling.instancesSaved
          runsSaved := handling.runsSaved
          saved := keptHandling.saved
          stage := ?_ }⟩
      change Batch cron nowIso next rest instancesAfter.toWorkingSet _
      rw [work, sameInstances]
      exact (firable.advance placed).keeps (kept _)
  | releasing firing =>
      obtain ⟨kept, instancesAfter, runsAfter, openedAfter, sameInstances,
          sameRuns⟩ :=
        Catalog.exec_releaseSavepoint executed opened
      refine ⟨instancesAfter, runsAfter, openedAfter, ?_⟩
      rw [sameInstances, sameRuns]
      exact Batch.keeps stageHolds (kept _)
  | undoing =>
      obtain ⟨kept, instancesAfter, runsAfter, openedAfter, backInstances,
          backRuns⟩ :=
        Catalog.exec_rollbackToSavepoint executed opened
      cases handling.instancesSaved.symm.trans backInstances
      cases handling.runsSaved.symm.trans backRuns
      exact ⟨instancesAfter, runsAfter, openedAfter,
        handling.saved.keeps (kept _)⟩

/-- A tick's own step keeps what is known of its transaction. -/
theorem Holds.proceed
    {cron : CronParser}
    {process : Nat}
    {call : Local}
    {environment : CatalogEnvironment}
    {statement : CatalogStatement}
    {catalog next : Catalog}
    {reply : CatalogReply}
    (holds : Holds cron process catalog call)
    (issued : issue call environment = some statement)
    (executed : catalog.exec process statement = some (next, reply)) :
    Holds cron process next (resume cron call environment reply) := by
  cases call with
  | start arguments =>
      by_cases dryRun : arguments.dryRun = true
      · simp only [resume, dryRun, if_true]
        trivial
      · simp only [issue, resume, dryRun] at issued ⊢
        cases issued
        exact Catalog.exec_begin executed
  | claiming arguments nowIso =>
      cases issued
      obtain ⟨instances, runs, opened, freshInstances, freshRuns⟩ := holds
      obtain ⟨kept, distinct, stored, instancesAfter, openedAfter, work⟩ :=
        Catalog.exec_claimDueInstances executed opened
      refine ⟨instancesAfter, runs, openedAfter, ?_⟩
      rw [work, freshInstances, freshRuns]
      exact (Batch.selected distinct stored).keeps (kept _)
  | between arguments nowIso documents summary =>
      cases documents with
      | nil =>
          trivial
      | cons document rest =>
          cases issued
          obtain ⟨instances, runs, opened, batch⟩ := holds
          obtain ⟨kept, instancesAfter, runsAfter, openedAfter,
              sameInstances, savedInstances, sameRuns, savedRuns⟩ :=
            Catalog.exec_savepoint executed opened
          have keptBatch := batch.keeps (kept _)
          refine ⟨instancesAfter, runsAfter, instances.toWorkingSet,
            runs.toWorkingSet, openedAfter, savedInstances, savedRuns,
            keptBatch.tail, ?_⟩
          rw [sameInstances, sameRuns]
          exact firstStage_holds keptBatch
  | handling arguments nowIso stage rest summary =>
      cases issued
      exact holds.proceed_handling environment executed
  | rollingBack | done =>
      trivial

/-- A step whose statement threw keeps what is known of the transaction. -/
theorem Holds.raise
    {cron : CronParser}
    {process : Nat}
    {call : Local}
    {catalog next : Catalog}
    {reply : CatalogReply}
    (holds : Holds cron process catalog call)
    (executed :
      catalog.exec process (raiseStatement call) = some (next, reply)) :
    Holds cron process next (raise call) := by
  cases call with
  | start arguments =>
      simp only [Tick.raise]
      split <;> trivial
  | handling arguments nowIso stage rest summary =>
      cases executed
      obtain ⟨instances, runs, savedInstances, savedRuns, opened,
          handling⟩ := holds
      have undoing :
          Holds cron process catalog
            (.handling arguments nowIso .undoing rest summary) :=
        ⟨instances, runs, savedInstances, savedRuns, opened,
          { handling with stage := trivial }⟩
      cases stage with
      | undoing =>
          trivial
      | _ =>
          exact undoing
  | _ =>
      trivial

/-- How a call has come in its last step to be this tick. -/
inductive Moved
    (cron : CronParser)
    (process : Nat)
    (catalog next : Catalog) :
    CatalogCall →
      Local →
      Prop where
  | started
      (arguments : Arguments) :
      Moved cron process catalog next .idle (.start arguments)
  | proceeded
      {earlier : Local}
      {environment : CatalogEnvironment}
      {statement : CatalogStatement}
      {reply : CatalogReply}
      (issued : issue earlier environment = some statement)
      (executed : catalog.exec process statement = some (next, reply)) :
      Moved cron process catalog next (.tick earlier)
        (resume cron earlier environment reply)
  | raised
      {earlier : Local}
      {reply : CatalogReply}
      (executed :
        catalog.exec process (raiseStatement earlier) =
          some (next, reply)) :
      Moved cron process catalog next (.tick earlier) (raise earlier)

end Tick

namespace CatalogPool

/-- A process that is at a tick after its step has been at it before. -/
theorem moved_of_step
    {cron : CronParser}
    {pool next : CatalogPool}
    {label : Label CatalogInput}
    {call : Tick.Local}
    (stepped : (catalogSystem cron).step? pool label = some next)
    (calling : next.locals label.1 = .tick call) :
    Tick.Moved cron label.1 pool.shared next.shared (pool.locals label.1)
      call := by
  obtain ⟨statement, reply, issued, executed, resumed⟩ := step_moves stepped
  rw [resumed] at calling
  rcases label with ⟨process, input⟩
  change (pool.locals process).issue input = _ at issued
  change (pool.locals process).resume cron input reply = _ at calling
  change pool.shared.exec process statement = _ at executed
  change Tick.Moved cron process _ _ (pool.locals process) call
  generalize pool.locals process = before at issued calling ⊢
  cases before with
  | tick earlier =>
      cases input with
      | start request =>
          cases issued
      | proceed environment =>
          cases calling
          exact .proceeded issued executed
      | raise =>
          cases calling
          simp only [CatalogCall.issue] at issued
          split at issued <;> cases issued
          exact .raised executed
  | idle =>
      cases input with
      | start request =>
          cases request <;> cases calling
          exact .started _
      | proceed environment =>
          cases issued
      | raise =>
          cases issued
  | _ =>
      cases input with
      | start request =>
          cases issued
      | proceed environment =>
          cases calling
      | raise =>
          cases calling

/-- Every tick in progress knows what it has to of its transaction. -/
def TicksHold
    (cron : CronParser)
    (pool : CatalogPool) :
    Prop :=
  ∀ {process : Nat} {call : Tick.Local},
    pool.locals process = .tick call →
    Tick.Holds cron process pool.shared call

/-- Every step keeps what the ticks in progress know. -/
theorem TicksHold.step
    {cron : CronParser}
    {visited next : CatalogPool}
    {label : Label CatalogInput}
    (known : TicksHold cron visited)
    (stepped : (catalogSystem cron).step? visited label = some next) :
    TicksHold cron next := by
  intro process call calling
  by_cases own : process = label.1
  · subst own
    have moved := moved_of_step stepped calling
    generalize before : visited.locals label.1 = earlier at moved
    cases moved with
    | started arguments =>
        trivial
    | proceeded issued executed =>
        exact (known before).proceed issued executed
    | raised executed =>
        exact (known before).raise executed
  · obtain ⟨statement, reply, -, executed, -⟩ := step_moves stepped
    rw [System.step?_locals_other stepped own] at calling
    exact (known calling).exec_other executed own

theorem Reachable.ticksHold
    {cron : CronParser}
    {stored : Stored}
    {pool : CatalogPool}
    (reachable : Reachable cron stored pool) :
    TicksHold cron pool :=
  reachable.invariant (TicksHold cron) (fun calling => nomatch calling)
    TicksHold.step

end CatalogPool

end IgaScheduler

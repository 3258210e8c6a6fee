import IgaScheduler.TickTransactions

namespace IgaScheduler

open Relational Interleaving

/-!
# What happens to one instance

A step of the system leaves the row of an instance alone, or completes one
operation on it: an insertion, the second half of an edit, or the commit of a
tick that has advanced it.
-/

/-- How a step of a call can leave an instance, and the operations it completes. -/
inductive Operated
    (cron : CronParser)
    (next : Catalog)
    (instanceId : String)
    (before : Option JobInstance) :
    CatalogCall →
      List InstanceOperation →
      Option JobInstance →
      Prop where
  | kept
      (call : CatalogCall) :
      Operated cron next instanceId before call [] before
  | created
      (document : InstanceDocument)
      (sameInstance : document.instanceId = instanceId)
      (replaceable : before.all InstanceStore.replaceable = true) :
      Operated cron next instanceId before
        (.createInstance (.inserting document))
        [.created document.toJobInstance] (some document.toJobInstance)
  | edited
      (operation : InstanceOperation)
      (read existing row : JobInstance)
      (found : before = some existing)
      (rewritten : EditInstance.rewrite cron read operation = .ok row) :
      Operated cron next instanceId before
        (.editInstance (.updating instanceId operation read row))
        [operation] (some row)
  | advanced
      (arguments : Tick.Arguments)
      (nowIso : Timestamp)
      (summary : Tick.Summary)
      (firing : Tick.Firing)
      (computed : Tick.firing? cron firing.document = some firing)
      (sameInstance : firing.document.instanceId = instanceId)
      (found : before = some firing.document.toJobInstance)
      (due :
        InstanceStore.due nowIso firing.document.toJobInstance = true)
      (present : (next.run firing.runId).isSome = true) :
      Operated cron next instanceId before
        (.tick (.between arguments nowIso [] summary))
        [.advanced nowIso] (some (firing.advancedRow nowIso))

namespace CatalogPool

variable {cron : CronParser}
variable {stored : Stored}
variable {pool next : CatalogPool}
variable {label : Label CatalogInput}

/-- Every edit about to write has computed its row from the row it has read. -/
def EditsRewritten
    (cron : CronParser)
    (pool : CatalogPool) :
    Prop :=
  ∀ {process : Nat} {instanceId : String} {operation : InstanceOperation}
      {read row : JobInstance},
    pool.locals process =
        .editInstance (.updating instanceId operation read row) →
      EditInstance.rewrite cron read operation = .ok row

/-- An edit that is about to write has just read the stored row. -/
theorem updating_of_step
    (stepped : (catalogSystem cron).step? pool label = some next)
    {instanceId : String}
    {operation : InstanceOperation}
    {read row : JobInstance}
    (calling :
      next.locals label.1 =
        .editInstance (.updating instanceId operation read row)) :
    pool.shared.jobInstance instanceId = some read ∧
      EditInstance.rewrite cron read operation = .ok row := by
  obtain ⟨environment, statement, reply, issued, executed, resumed⟩ :=
    proceeded_of_step stepped (by rw [calling]; rfl)
  rw [calling] at resumed
  cases before : pool.locals label.1 with
  | editInstance earlier =>
      rw [before] at issued resumed
      cases earlier with
      | start owner edit =>
          cases issued
          have found := (Catalog.exec_getInstance executed).2
          simp only [CatalogCall.resumed, EditInstance.resume, found]
            at resumed
          cases stands : pool.shared.jobInstance owner with
          | none =>
              rw [stands] at resumed
              cases resumed
          | some existing =>
              rw [stands] at resumed
              simp only [Option.map_some] at resumed
              split at resumed
              · cases resumed
              · split at resumed
                · cases resumed
                · rename_i computed
                  cases resumed
                  exact ⟨stands, computed⟩
      | updating owner earlier existing written =>
          simp only [CatalogCall.resumed, EditInstance.resume] at resumed
          split at resumed <;> cases resumed
      | done outcome =>
          cases issued
  | _ =>
      rw [before] at resumed
      cases resumed

/-- A call that is about to insert an instance has just prepared it. -/
theorem inserting_of_step
    (stepped : (catalogSystem cron).step? pool label = some next)
    {document : InstanceDocument}
    (calling :
      next.locals label.1 = .createInstance (.inserting document)) :
    ∃ definitionId body environment,
      CreateInstance.prepare cron definitionId body environment
          (pool.shared.definition definitionId) =
        .ok document := by
  obtain ⟨environment, statement, reply, issued, executed, resumed⟩ :=
    proceeded_of_step stepped (by rw [calling]; rfl)
  rw [calling] at resumed
  cases before : pool.locals label.1 with
  | createInstance earlier =>
      rw [before] at issued resumed
      cases earlier with
      | start definitionId body =>
          cases issued
          have answer := (Catalog.exec_getDefinition executed).2
          simp only [CatalogCall.resumed, CreateInstance.resume, answer]
            at resumed
          split at resumed
          · cases resumed
          · rename_i prepared
            cases resumed
            exact ⟨definitionId, body, environment, prepared⟩
      | inserting earlier =>
          simp only [CatalogCall.resumed, CreateInstance.resume] at resumed
          split at resumed <;> cases resumed
      | done outcome =>
          cases issued
  | _ =>
      rw [before] at resumed
      cases resumed

/-- Every step leaves only edits that have computed the row they write. -/
theorem EditsRewritten.step
    {visited : CatalogPool}
    (known : EditsRewritten cron visited)
    (stepped : (catalogSystem cron).step? visited label = some next) :
    EditsRewritten cron next := by
  intro process instanceId operation read row calling
  by_cases own : process = label.1
  · subst own
    exact (updating_of_step stepped calling).2
  · rw [System.step?_locals_other stepped own] at calling
    exact known calling

theorem Reachable.editsRewritten
    (reachable : Reachable cron stored pool) :
    EditsRewritten cron pool :=
  reachable.invariant (EditsRewritten cron) (fun calling => nomatch calling)
    EditsRewritten.step

/-- A call that inserts an instance has prepared its document. -/
theorem Reachable.prepared
    (reachable : Reachable cron stored pool)
    {process : Nat}
    {document : InstanceDocument}
    (calling :
      pool.locals process = .createInstance (.inserting document)) :
    CreateInstance.Prepared document := by
  refine reachable.invariant
    (fun visited =>
      ∀ {process : Nat} {document : InstanceDocument},
        visited.locals process = .createInstance (.inserting document) →
        CreateInstance.Prepared document)
    (fun calling => nomatch calling) ?_ calling
  intro visited next label known stepped process document calling
  by_cases own : process = label.1
  · subst own
    obtain ⟨_, _, _, prepared⟩ := inserting_of_step stepped calling
    exact CreateInstance.prepared_of_prepare prepared
  · rw [System.step?_locals_other stepped own] at calling
    exact known calling

/-- Only a tick that has handled its whole batch commits. -/
theorem calling_of_commit
    {call : CatalogCall}
    {input : CatalogInput}
    (issued : call.issue input = some .commit) :
    ∃ arguments nowIso summary,
      call = .tick (.between arguments nowIso [] summary) := by
  cases CatalogCall.issues_of_issue issued with
  | tick call environment statement issued =>
      cases call with
      | between arguments nowIso documents summary =>
          cases documents with
          | nil =>
              exact ⟨arguments, nowIso, summary, rfl⟩
          | cons document rest =>
              cases issued
      | start arguments =>
          simp only [Tick.issue] at issued
          split at issued <;> cases issued
      | handling arguments nowIso stage rest summary =>
          cases stage <;> cases issued
      | _ =>
          cases issued

/-- A committing tick has settled writes in its transaction. -/
theorem TicksHold.settled_of_commit
    (ticks : TicksHold cron pool)
    {arguments : Tick.Arguments}
    {nowIso : Timestamp}
    {summary : Tick.Summary}
    (calling :
      pool.locals label.1 = .tick (.between arguments nowIso [] summary)) :
    ∃ instances runs,
      pool.shared.Open label.1 instances runs ∧
        Tick.Settled cron nowIso pool.shared instances.toWorkingSet
          runs.toWorkingSet := by
  obtain ⟨instances, runs, opened, batch⟩ := ticks calling
  exact ⟨instances, runs, opened, batch.settled⟩

/-- Every step leaves every instance in one of the four ways. -/
theorem operated_of_step
    (edits : EditsRewritten cron pool)
    (ticks : TicksHold cron pool)
    (stepped : (catalogSystem cron).step? pool label = some next)
    (instanceId : String) :
    ∃ operations,
      next.shared.operations instanceId =
          operations ++ pool.shared.operations instanceId ∧
        Operated cron next.shared instanceId
          (pool.shared.jobInstance instanceId)
          (pool.locals label.1) operations
          (next.shared.jobInstance instanceId) := by
  obtain ⟨statement, reply, issued, executed, resumed⟩ := step_moves stepped
  refine ⟨_, Catalog.exec_operations executed instanceId, ?_⟩
  obtain ⟨performed, ran, shape⟩ := Catalog.exec_eq_some executed
  have effect := Catalog.perform_instanceEffect ran instanceId
  have sameRow :
      next.shared.jobInstance instanceId =
        performed.jobInstance instanceId := by
    rw [shape]
    rfl
  rw [sameRow]
  generalize CatalogStatement.operations label.1 pool.shared instanceId
    statement = operations at effect ⊢
  generalize performed.jobInstance instanceId = after at effect ⊢
  cases effect with
  | kept =>
      exact .kept _
  | created document sameInstance replaceable =>
      generalize calling : pool.locals label.1 = call at issued ⊢
      generalize label.2 = input at issued
      cases CatalogCall.issues_of_issue issued with
      | instanceInsert =>
          exact .created document sameInstance replaceable
      | tick call environment statement issued =>
          cases Tick.isStatement_of_issue issued
  | updated row existing operation found =>
      generalize calling : pool.locals label.1 = call at issued ⊢
      generalize label.2 = input at issued
      cases CatalogCall.issues_of_issue issued with
      | instanceUpdate _ _ read _ environment =>
          exact .edited operation read existing row found
            (edits calling)
      | tick call environment statement issued =>
          cases Tick.isStatement_of_issue issued
  | published transaction row opened written =>
      obtain ⟨arguments, nowIso, summary, calling⟩ :=
        calling_of_commit issued
      obtain ⟨instances, runs, openedBoth, settled⟩ :=
        ticks.settled_of_commit calling
      cases opened.symm.trans openedBoth.instances
      obtain ⟨firing, fired⟩ := settled.fired written
      obtain ⟨computed, sameInstance, found, due, rfl, present⟩ := fired
      rw [calling]
      refine .advanced arguments nowIso summary firing computed sameInstance
        found due ?_
      rw [(Catalog.exec_commit executed openedBoth).2, Option.isSome_or,
        Bool.or_eq_true]
      exact present.imp_left AList.lookup_isSome.mpr

theorem Reachable.operated
    (reachable : Reachable cron stored pool)
    (stepped : (catalogSystem cron).step? pool label = some next)
    (instanceId : String) :
    ∃ operations,
      next.shared.operations instanceId =
          operations ++ pool.shared.operations instanceId ∧
        Operated cron next.shared instanceId
          (pool.shared.jobInstance instanceId)
          (pool.locals label.1) operations
          (next.shared.jobInstance instanceId) :=
  operated_of_step reachable.editsRewritten reachable.ticksHold stepped
    instanceId

/-- A run that a step adds comes out of the transaction of a committing tick. -/
theorem published_of_added
    (stepped : (catalogSystem cron).step? pool label = some next)
    {runId : String}
    {run : JobRun}
    (found : next.shared.run runId = some run)
    (added : pool.shared.run runId ≠ some run) :
    ∃ arguments nowIso summary transaction reply,
      pool.locals label.1 = .tick (.between arguments nowIso [] summary) ∧
        pool.shared.runs.transactions.lookup label.1 = some transaction ∧
        transaction.writes.lookup runId = some run ∧
        pool.shared.exec label.1 .commit = some (next.shared, reply) := by
  obtain ⟨statement, reply, issued, executed, -⟩ := step_moves stepped
  have effect :
      pool.shared.ScheduledRunEffect label.1 runId statement
        (next.shared.run runId) := by
    obtain ⟨performed, ran, shape⟩ := Catalog.exec_eq_some executed
    rw [shape]
    exact Catalog.perform_runEffect ran runId
  rw [found] at effect
  generalize same : some run = after at effect
  cases effect with
  | kept =>
      exact (added same.symm).elim
  | published transaction row opened written =>
      cases same
      obtain ⟨arguments, nowIso, summary, calling⟩ :=
        calling_of_commit issued
      exact ⟨arguments, nowIso, summary, transaction, reply, calling,
        opened, written, executed⟩

/-- A run that a step adds has the parameters of a row that was due before it. -/
theorem TicksHold.params_of_added
    (ticks : TicksHold cron pool)
    (stepped : (catalogSystem cron).step? pool label = some next)
    {runId : String}
    {run : JobRun}
    (found : next.shared.run runId = some run)
    (added : pool.shared.run runId ≠ some run) :
    ∃ nowIso row,
      pool.shared.jobInstance run.instanceId = some row ∧
        InstanceStore.due nowIso row = true ∧
        run.params = row.parameters := by
  obtain ⟨arguments, nowIso, summary, transaction, reply, calling,
      openedRuns, written, executed⟩ :=
    published_of_added stepped found added
  obtain ⟨instances, runs, opened, settled⟩ :=
    ticks.settled_of_commit calling
  cases openedRuns.symm.trans opened.runs
  obtain ⟨row, inserted⟩ := settled.inserted written
  obtain ⟨firing, fired⟩ := settled.fired inserted.written
  have sameParams := inserted.params
  rw [fired.advanced] at sameParams
  exact ⟨nowIso, _, fired.stored, fired.due, sameParams⟩

/-- A run that a step adds belongs to an instance that was due before it. -/
theorem TicksHold.due_of_added
    (ticks : TicksHold cron pool)
    (stepped : (catalogSystem cron).step? pool label = some next)
    {runId : String}
    {run : JobRun}
    (found : next.shared.run runId = some run)
    (added : pool.shared.run runId ≠ some run) :
    ∃ nowIso row,
      pool.shared.jobInstance run.instanceId = some row ∧
        InstanceStore.due nowIso row = true := by
  obtain ⟨nowIso, row, stands, due, -⟩ :=
    ticks.params_of_added stepped found added
  exact ⟨nowIso, row, stands, due⟩

/-- A run that a step adds belongs to an instance that the step advances. -/
theorem Reachable.inserted
    (reachable : Reachable cron stored pool)
    (stepped : (catalogSystem cron).step? pool label = some next)
    {runId : String}
    {run : JobRun}
    (found : next.shared.run runId = some run)
    (added : pool.shared.run runId ≠ some run) :
    next.shared.operations run.instanceId ≠
        pool.shared.operations run.instanceId ∧
      ∃ row,
        next.shared.jobInstance run.instanceId = some row ∧
          row.lastFireAt = some run.scheduledFireTime ∧
          buildRunId row.tenantId run.instanceId run.scheduledFireTime =
            some runId := by
  obtain ⟨arguments, nowIso, summary, transaction, reply, calling,
      openedRuns, written, executed⟩ :=
    published_of_added stepped found added
  obtain ⟨instances, runs, opened, settled⟩ :=
    TicksHold.settled_of_commit reachable.ticksHold calling
  cases openedRuns.symm.trans opened.runs
  obtain ⟨row, inserted⟩ := settled.inserted written
  refine ⟨?_, row, ?_, inserted.lastFireAt, inserted.named⟩
  · rw [Catalog.exec_operations executed,
      Catalog.operations_commit opened.instances, inserted.written]
    simp
  · rw [(Catalog.exec_commit executed opened).1, inserted.written]
    rfl

end CatalogPool

end IgaScheduler

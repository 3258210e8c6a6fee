import IgaScheduler.RelationalFrozenColumns
import IgaScheduler.SchedulerSystem

namespace IgaScheduler

open Relational Interleaving

/-!
# The identity of a run

A run is never deleted, and no statement on a stored run touches the columns
that say what it is a run of: no write of `runStore.js` sets them, and an
insert takes effect only where no such run is stored.
-/

/-- The columns of a run that no write sets. -/
structure RunIdentity where
  tenantId : Option String
  instanceId : String
  definitionId : String
  definitionVersion : Option Int
  scheduledFireTime : Timestamp
  params : Parameters
  executionMetadata : Option Json
  parentRunId : Option String
  redriveOfRunId : Option String
  createdAt : Timestamp

def JobRun.identity (row : JobRun) : RunIdentity where
  tenantId := row.tenantId
  instanceId := row.instanceId
  definitionId := row.definitionId
  definitionVersion := row.definitionVersion
  scheduledFireTime := row.scheduledFireTime
  params := row.params
  executionMetadata := row.executionMetadata
  parentRunId := row.parentRunId
  redriveOfRunId := row.redriveOfRunId
  createdAt := row.createdAt

@[simp] theorem RunWrite.identity_set
    (write : RunWrite)
    (row : JobRun) :
    (write.update.set row).identity = row.identity := by
  cases write <;> rfl

/-! ## What one statement does to the identities -/

/-- What every statement keeps, and how the committed runs can grow by it. -/
def RunsFrozen (before after : Database String JobRun) : Prop :=
  after.Frozen JobRun.identity ∧
    Table.Grows JobRun.identity before.committed after.committed

theorem RunsFrozen.refl
    {runs : Database String JobRun}
    (frozen : runs.Frozen JobRun.identity) :
    RunsFrozen runs runs :=
  ⟨frozen, .refl _⟩

theorem RunDatabase.exec_frozen
    {process : Nat}
    {statement : RunStatement}
    {shared next : RunDatabase}
    {reply : RunReply}
    (executed : shared.exec process statement = some (next, reply))
    (frozen : shared.database.Frozen JobRun.identity) :
    RunsFrozen shared.database next.database := by
  obtain ⟨-, performed, ran, rfl⟩ := exec_eq_some executed
  change RunsFrozen shared.database performed.database
  cases statement with
  | present owner dispatchId =>
      simp only [perform] at ran
      split at ran
      · cases ran
        exact .refl frozen
      · cases ran
  | createRun document =>
      obtain ⟨_, inserted, shape⟩ := Option.map_eq_some_iff.mp ran
      cases shape
      exact frozen.insert? inserted
  | update owner write =>
      obtain ⟨_, updated, shape⟩ := Option.map_eq_some_iff.mp ran
      cases shape
      exact frozen.update? write.identity_set updated
  | begin =>
      cases ran
      exact frozen.begin process
  | selectQueuedForUpdate limit =>
      obtain ⟨_, selected, shape⟩ := Option.map_eq_some_iff.mp ran
      cases shape
      exact frozen.selectForUpdate? selected
  | claimCandidate owner startedAt dispatchId =>
      obtain ⟨_, updated, shape⟩ := Option.map_eq_some_iff.mp ran
      cases shape
      exact frozen.updateIn?
        (RunWrite.claimRun startedAt none dispatchId).identity_set updated
  | commitClaims claimed =>
      obtain ⟨_, committed, shape⟩ := Option.map_eq_some_iff.mp ran
      cases shape
      exact frozen.commit? committed
  | rollback =>
      cases ran
      exact frozen.rollback process
  | _ =>
      cases ran
      exact .refl frozen

theorem RunNow.exec_frozen
    {statement : RunNow.Statement}
    {catalog next : Catalog}
    {reply : RunNow.Reply}
    (executed : RunNow.exec statement catalog = some (next, reply))
    (frozen : catalog.runs.Frozen JobRun.identity) :
    RunsFrozen catalog.runs next.runs := by
  cases statement with
  | skip | getInstance =>
      cases executed
      exact .refl frozen
  | createRun document =>
      obtain ⟨_, inserted, shape⟩ := Option.map_eq_some_iff.mp executed
      cases shape
      exact frozen.insert? inserted

theorem Catalog.exec_frozen
    {process : Nat}
    {statement : CatalogStatement}
    {catalog next : Catalog}
    {reply : CatalogReply}
    (executed : catalog.exec process statement = some (next, reply))
    (frozen : catalog.runs.Frozen JobRun.identity) :
    RunsFrozen catalog.runs next.runs := by
  obtain ⟨performed, ran, rfl⟩ := exec_eq_some executed
  change RunsFrozen catalog.runs performed.runs
  cases statement with
  | createDefinition document =>
      simp only [perform] at ran
      split at ran <;> cases ran
      · exact .refl frozen
      · exact .refl frozen
  | patchDefinition owner patch now | deleteDefinition owner now =>
      simp only [perform, updateDefinition] at ran
      split at ran <;> cases ran
      · exact .refl frozen
      · exact .refl frozen
  | createInstance | updateInstance | claimDueInstances
  | advanceInstance =>
      obtain ⟨_, -, shape⟩ := Option.map_eq_some_iff.mp ran
      cases shape
      exact .refl frozen
  | createRunTx document =>
      obtain ⟨_, inserted, shape⟩ := Option.map_eq_some_iff.mp ran
      cases shape
      exact frozen.insertIn? inserted
  | begin =>
      simp only [perform] at ran
      obtain ⟨_, _, -, begun, rfl⟩ := inTransaction?_eq_some ran
      cases begun
      exact frozen.begin process
  | rollback =>
      simp only [perform] at ran
      obtain ⟨_, _, -, ended, rfl⟩ := inTransaction?_eq_some ran
      cases ended
      exact frozen.rollback process
  | savepoint =>
      simp only [perform] at ran
      obtain ⟨_, _, -, saved, rfl⟩ := inTransaction?_eq_some ran
      exact frozen.savepoint? saved
  | releaseSavepoint =>
      simp only [perform] at ran
      obtain ⟨_, _, -, released, rfl⟩ := inTransaction?_eq_some ran
      exact frozen.release? released
  | rollbackToSavepoint =>
      simp only [perform] at ran
      obtain ⟨_, _, -, restored, rfl⟩ := inTransaction?_eq_some ran
      exact frozen.rollbackTo? restored
  | commit =>
      simp only [perform] at ran
      obtain ⟨_, _, -, committed, rfl⟩ := inTransaction?_eq_some ran
      exact frozen.commit? committed
  | _ =>
      cases ran
      exact .refl frozen

/-! ## Along every run of the scheduler -/

namespace SchedulerPool

variable {cron : CronParser}
variable {stored : Stored}
variable {pool next final : SchedulerPool}
variable {schedule later : List (Label SchedulerInput)}

/-- The database of runs, as every call sees it. -/
abbrev runs (pool : SchedulerPool) : Database String JobRun :=
  pool.shared.catalog.runs

/-- The committed row of a run. -/
def run
    (pool : SchedulerPool)
    (runId : String) :
    Option JobRun :=
  pool.shared.catalog.run runId

/-- Every step, of whatever call, keeps the identities of the runs. -/
theorem frozen_of_step
    {label : Label SchedulerInput}
    (frozen : pool.runs.Frozen JobRun.identity)
    (stepped : (schedulerSystem cron).step? pool label = some next) :
    RunsFrozen pool.runs next.runs := by
  cases moved_of_step stepped with
  | service taken =>
      obtain ⟨_, _, -, executed, -⟩ := CatalogPool.step_moves taken
      exact Catalog.exec_frozen executed frozen
  | route formatted taken =>
      obtain ⟨_, _, -, executed, -⟩ := System.step?_moves taken
      exact RunNow.exec_frozen executed frozen
  | runCall formatted taken =>
      obtain ⟨_, _, -, executed, -⟩ := RunPool.step_moves taken
      exact RunDatabase.exec_frozen executed frozen

theorem frozen_of_run
    (ran : run? cron stored schedule = some pool) :
    pool.runs.Frozen JobRun.identity :=
  System.run?_invariant
    (fun visited : SchedulerPool =>
      visited.runs.Frozen JobRun.identity)
    (Database.Frozen.ofTable stored.runs)
    (fun frozen stepped => (frozen_of_step frozen stepped).1) ran

/-- From any pool of a run on, the committed runs only grow. -/
theorem grows_of_run
    (frozen : pool.runs.Frozen JobRun.identity)
    (ran : (schedulerSystem cron).run? pool later = some final) :
    Table.Grows JobRun.identity pool.runs.committed final.runs.committed := by
  refine (System.run?_invariant
    (fun visited : SchedulerPool =>
      visited.runs.Frozen JobRun.identity ∧
        Table.Grows JobRun.identity pool.runs.committed
          visited.runs.committed)
    ⟨frozen, .refl _⟩ ?_ ran).2
  rintro visited next label ⟨known, grown⟩ stepped
  obtain ⟨frozen, grows⟩ := frozen_of_step known stepped
  exact ⟨frozen, grown.trans grows⟩

/--
Whatever services, ticks, run-now, workers, sweeps, cancels and re-drives do in
whatever order: a run, once stored, stays stored and stays the same run.
-/
theorem run_identities_kept
    (ran : run? cron stored schedule = some pool)
    (continued : (schedulerSystem cron).run? pool later = some final)
    {runId : String}
    {row : JobRun}
    (found : pool.run runId = some row) :
    ∃ row',
      final.run runId = some row' ∧ row'.identity = row.identity :=
  grows_of_run (frozen_of_run ran) continued runId row found

def redriveUuid : Uuid :=
  ⟨"00000000-0000-4000-8000-000000000000", by decide⟩

/-- The run of the first firing of the instance. -/
def hourlyRunId : String := "hourly:1970-01-01T00:00:00.000Z"

/-- A tick fires the instance. -/
def fireHourly : List (Label SchedulerInput) :=
  (startCall 1 (.tick ⟨false, 10, false⟩) ::
      List.replicate 7 (proceedAt 1 5)).map
    fun (process, input) => (process, .inl (.inl input))

/-- The run is cancelled and driven once more. -/
def redriveHourly : List (Label SchedulerInput) :=
  let proceed : RunInput := .proceed (environmentAt 6 redriveUuid)
  [(2, .start (.cancelRun ⟨hourlyRunId, "late", "operator", false⟩)),
    (2, proceed), (2, proceed), (3, .start (.redriveRun hourlyRunId)),
    (3, proceed), (3, proceed)].map
      fun (process, input) => (process, .inr input)

theorem run_identities_kept_redriveHourly :
    ∃ (pool final : SchedulerPool) (row row' : JobRun),
      run? hourly storedHourly fireHourly = some pool ∧
        (schedulerSystem hourly).run? pool redriveHourly = some final ∧
        pool.run hourlyRunId = some row ∧
        row.state = .queued ∧
        final.run hourlyRunId = some row' ∧
        row'.identity = row.identity := by
  have outcome :
      (run? hourly storedHourly fireHourly).bind (fun pool =>
          ((schedulerSystem hourly).run? pool redriveHourly).bind fun _ =>
            (pool.run hourlyRunId).map JobRun.state) =
        some .queued := by
    decide
  obtain ⟨pool, ran, rest⟩ := Option.bind_eq_some_iff.mp outcome
  obtain ⟨final, continued, rest⟩ := Option.bind_eq_some_iff.mp rest
  obtain ⟨row, found, queued⟩ := Option.map_eq_some_iff.mp rest
  obtain ⟨row', found', same⟩ := run_identities_kept ran continued found
  exact ⟨pool, final, row, row', ran, continued, found, queued, found', same⟩

end SchedulerPool

end IgaScheduler

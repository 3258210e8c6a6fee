import IgaScheduler.DefinitionCalls

namespace IgaScheduler

/-!
# `SchedulerTickService.tick`

One transaction claims the due instances and handles them one after the other,
each behind a savepoint.
-/

namespace Tick

structure Arguments where
  dryRun : Bool
  batchSize : Nat
  /-- The service was built with a `definitionService`. -/
  definitionService : Bool
  deriving DecidableEq

/-- The counters of a tick. -/
structure Summary where
  checked : Nat := 0
  createdRuns : Nat := 0
  duplicates : Nat := 0
  advanced : Nat := 0
  failed : Nat := 0
  deriving DecidableEq, Repr

/-- What is computed for an instance before its first write. -/
structure Firing where
  document : InstanceDocument
  scheduledFireTime : Timestamp
  nextFireAt : Timestamp
  runId : String

/-- The next fire time and the run id of a claimed instance. -/
def firing?
    (cron : CronParser)
    (document : InstanceDocument) :
    Option Firing :=
  document.nextFireAt.bind fun scheduledFireTime =>
    (SchedulerTickService.computeNextFireAt cron document.schedule
        scheduledFireTime).bind fun nextFireAt =>
      (buildRunId document.tenantId document.instanceId
          scheduledFireTime).map fun runId =>
        ⟨document, scheduledFireTime, nextFireAt, runId⟩

/-- The run of a firing, with the snapshot of its definition when there is one. -/
def Firing.runDocument
    (firing : Firing)
    (nowIso : Timestamp)
    (snapshot : Option DefinitionSnapshot) :
    RunDocument :=
  buildRunDocument firing.runId firing.document firing.scheduledFireTime
    nowIso (snapshot.map DefinitionSnapshot.json)

/-- The stages of handling one claimed instance behind its savepoint. -/
inductive Stage where
  | fetching (firing : Firing)
  | inserting (firing : Firing) (runDocument : RunDocument)
  | advancing (firing : Firing)
  | releasing (firing : Firing)
  /-- Something threw after the savepoint. -/
  | undoing

inductive Local where
  | start (arguments : Arguments)
  /-- The transaction has begun at `nowIso`. -/
  | claiming (arguments : Arguments) (nowIso : Timestamp)
  /-- Between two instances. -/
  | between
      (arguments : Arguments)
      (nowIso : Timestamp)
      (instances : List InstanceDocument)
      (summary : Summary)
  /-- Behind the savepoint of an instance; `instances` are still to come. -/
  | handling
      (arguments : Arguments)
      (nowIso : Timestamp)
      (stage : Stage)
      (instances : List InstanceDocument)
      (summary : Summary)
  /-- Something threw outside the savepoints. -/
  | rollingBack
  | done (outcome : Except ServiceError Summary)

/-- The stage behind a new savepoint. -/
def firstStage
    (cron : CronParser)
    (arguments : Arguments)
    (nowIso : Timestamp)
    (document : InstanceDocument) :
    Stage :=
  match firing? cron document with
  | none => .undoing
  | some firing =>
      if arguments.definitionService then
        .fetching firing
      else
        .inserting firing (firing.runDocument nowIso none)

namespace Stage

def issue
    (nowIso : Timestamp) :
    Stage →
      CatalogStatement
  | .fetching firing => .getDefinition firing.document.definitionId
  | .inserting _ runDocument => .createRunTx runDocument
  | .advancing firing =>
      .advanceInstance firing.document.instanceId
        firing.scheduledFireTime firing.nextFireAt nowIso
  | .releasing _ => .releaseSavepoint
  | .undoing => .rollbackToSavepoint

end Stage

def issue :
    Local →
      CatalogEnvironment →
      Option CatalogStatement
  | .start arguments, environment =>
      if arguments.dryRun then
        some (.listDueInstances environment.now arguments.batchSize)
      else
        some .begin
  | .claiming arguments nowIso, _ =>
      some (.claimDueInstances nowIso arguments.batchSize)
  | .between _ _ (_ :: _) _, _ => some .savepoint
  | .between _ _ [] _, _ => some .commit
  | .handling _ nowIso stage _ _, _ => some (stage.issue nowIso)
  | .rollingBack, _ => some .rollback
  | .done _, _ => none

def resume
    (cron : CronParser) :
    Local →
      CatalogEnvironment →
      CatalogReply →
      Local
  | .start arguments, environment, reply =>
      if arguments.dryRun then
        .done (.ok { checked := reply.listed.length })
      else
        .claiming arguments environment.now
  | .claiming arguments nowIso, _, reply =>
      .between arguments nowIso reply.listed
        { checked := reply.listed.length }
  | .between arguments nowIso (document :: rest) summary, _, _ =>
      .handling arguments nowIso
        (firstStage cron arguments nowIso document) rest summary
  | .between _ _ [] summary, _, _ => .done (.ok summary)
  | .handling arguments nowIso (.fetching firing) rest summary, _, reply =>
      .handling arguments nowIso
        (.inserting firing
          (firing.runDocument nowIso
            (some (buildExecutionMetadataSnapshot reply.definition?))))
        rest summary
  | .handling arguments nowIso (.inserting firing _) rest summary, _,
      reply =>
      .handling arguments nowIso (.advancing firing) rest
        (if reply.written then
          { summary with createdRuns := summary.createdRuns + 1 }
        else
          { summary with duplicates := summary.duplicates + 1 })
  | .handling arguments nowIso (.advancing firing) rest summary, _, _ =>
      .handling arguments nowIso (.releasing firing) rest
        { summary with advanced := summary.advanced + 1 }
  | .handling arguments nowIso (.releasing _) rest summary, _, _ =>
      .between arguments nowIso rest summary
  | .handling arguments nowIso .undoing rest summary, _, _ =>
      .between arguments nowIso rest
        { summary with failed := summary.failed + 1 }
  | .rollingBack, _, _ => .done (.error .raised)
  | .done outcome, _, _ => .done outcome

/-- The awaited statement threw. -/
def raise : Local → Local
  | .start arguments =>
      if arguments.dryRun then .done (.error .raised) else .rollingBack
  | .handling _ _ .undoing _ _ => .rollingBack
  | .handling arguments nowIso _ rest summary =>
      .handling arguments nowIso .undoing rest summary
  | .rollingBack => .done (.error .raised)
  | .done outcome => .done outcome
  | _ => .rollingBack

/-- The statements a tick is made of. -/
def isStatement : CatalogStatement → Bool
  | .listDueInstances .. => true
  | .begin => true
  | .claimDueInstances .. => true
  | .savepoint => true
  | .getDefinition _ => true
  | .createRunTx _ => true
  | .advanceInstance .. => true
  | .releaseSavepoint => true
  | .rollbackToSavepoint => true
  | .commit => true
  | .rollback => true
  | _ => false

theorem isStatement_of_issue
    {call : Local}
    {environment : CatalogEnvironment}
    {statement : CatalogStatement}
    (issued : issue call environment = some statement) :
    isStatement statement = true := by
  cases call with
  | start arguments =>
      simp only [issue] at issued
      split at issued <;> cases issued <;> rfl
  | between arguments nowIso documents summary =>
      cases documents <;> cases issued <;> rfl
  | handling arguments nowIso stage rest summary =>
      cases stage <;> cases issued <;> rfl
  | claiming | rollingBack =>
      cases issued
      rfl
  | done outcome =>
      cases issued

/-- A `ROLLBACK` that throws has lost its connection: the server rolls back. -/
def raiseStatement : Local → CatalogStatement
  | .rollingBack => .rollback
  | _ => .skip

end Tick

end IgaScheduler

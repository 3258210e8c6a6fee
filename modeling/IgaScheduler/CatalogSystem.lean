import IgaScheduler.CatalogEffects
import IgaScheduler.InstanceCalls
import IgaScheduler.InterleavedPool
import IgaScheduler.SchedulerTick

namespace IgaScheduler

open Relational Interleaving

/-!
# Everything that happens to definitions, instances and scheduled runs

Any number of calls of the definition service, the instance service and the
scheduler, interleaved statement by statement.
-/

/-- The local state of one service call. -/
inductive CatalogCall where
  | idle
  | createDefinition (call : CreateDefinition.Local)
  | patchDefinition (call : PatchDefinition.Local)
  | deleteDefinition (call : DeleteDefinition.Local)
  | createInstance (call : CreateInstance.Local)
  | editInstance (call : EditInstance.Local)
  | tick (call : Tick.Local)

/-- The calls that can be started, with their arguments. -/
inductive CatalogRequest where
  | createDefinition (arguments : CreateDefinition.Arguments)
  | patchDefinition
      (definitionId : String)
      (patch : DefinitionPatch)
  | deleteDefinition (arguments : DeleteDefinition.Arguments)
  | createInstance
      (definitionId : String)
      (body : InstanceInput)
  | patchInstance
      (instanceId : String)
      (body : PatchInput)
  | pauseInstance (instanceId : String)
  | resumeInstance (instanceId : String)
  | deleteInstance (instanceId : String)
  | tick (arguments : Tick.Arguments)

/-- The first local state of a started call. -/
def CatalogRequest.call : CatalogRequest → CatalogCall
  | .createDefinition arguments => .createDefinition (.start arguments)
  | .patchDefinition definitionId patch =>
      .patchDefinition (.start definitionId patch)
  | .deleteDefinition arguments => .deleteDefinition (.start arguments)
  | .createInstance definitionId body =>
      .createInstance (.start definitionId body)
  | .patchInstance instanceId body =>
      .editInstance (EditInstance.patchInstance instanceId body)
  | .pauseInstance instanceId =>
      .editInstance (EditInstance.pauseInstance instanceId)
  | .resumeInstance instanceId =>
      .editInstance (EditInstance.resumeInstance instanceId)
  | .deleteInstance instanceId =>
      .editInstance (EditInstance.deleteInstance instanceId)
  | .tick arguments => .tick (.start arguments)

/-- What the schedule chooses for a step. -/
inductive CatalogInput where
  /-- Start a call on an idle process. -/
  | start (request : CatalogRequest)
  /-- The awaited statement is executed. -/
  | proceed (environment : CatalogEnvironment)
  /-- The awaited statement throws without effect. -/
  | raise

namespace CatalogCall

/-- The next statement of a call that is in progress. -/
def next :
    CatalogCall →
      CatalogEnvironment →
      Option CatalogStatement
  | .idle, _ => none
  | .createDefinition call, environment =>
      CreateDefinition.issue call environment
  | .patchDefinition call, environment =>
      PatchDefinition.issue call environment
  | .deleteDefinition call, environment =>
      DeleteDefinition.issue call environment
  | .createInstance call, environment =>
      CreateInstance.issue call environment
  | .editInstance call, environment => EditInstance.issue call environment
  | .tick call, environment => Tick.issue call environment

/-- What reaches the stores when the awaited statement throws. -/
def raiseStatement : CatalogCall → CatalogStatement
  | .tick call => Tick.raiseStatement call
  | _ => .skip

/-- A call in progress awaits a statement. -/
def awaits : CatalogCall → Bool
  | .idle => false
  | .createDefinition (.done _) => false
  | .patchDefinition (.done _) => false
  | .deleteDefinition (.done _) => false
  | .createInstance (.done _) => false
  | .editInstance (.done _) => false
  | .tick (.done _) => false
  | _ => true

def issue
    (call : CatalogCall) :
    CatalogInput →
      Option CatalogStatement
  | .start _ =>
      match call with
      | .idle => some .skip
      | _ => none
  | .proceed environment => call.next environment
  | .raise => if call.awaits then some call.raiseStatement else none

/-- Resume a call in progress with the reply of its statement. -/
def resumed
    (cron : CronParser) :
    CatalogCall →
      CatalogEnvironment →
      CatalogReply →
      CatalogCall
  | .idle, _, _ => .idle
  | .createDefinition call, environment, reply =>
      .createDefinition (CreateDefinition.resume call environment reply)
  | .patchDefinition call, environment, reply =>
      .patchDefinition (PatchDefinition.resume call environment reply)
  | .deleteDefinition call, environment, reply =>
      .deleteDefinition (DeleteDefinition.resume call environment reply)
  | .createInstance call, environment, reply =>
      .createInstance (CreateInstance.resume cron call environment reply)
  | .editInstance call, environment, reply =>
      .editInstance (EditInstance.resume cron call environment reply)
  | .tick call, environment, reply =>
      .tick (Tick.resume cron call environment reply)

/-- Resume a call in progress whose awaited statement threw. -/
def raised : CatalogCall → CatalogCall
  | .idle => .idle
  | .createDefinition call => .createDefinition (CreateDefinition.raise call)
  | .patchDefinition call => .patchDefinition (PatchDefinition.raise call)
  | .deleteDefinition call => .deleteDefinition (DeleteDefinition.raise call)
  | .createInstance call => .createInstance (CreateInstance.raise call)
  | .editInstance call => .editInstance (EditInstance.raise call)
  | .tick call => .tick (Tick.raise call)

def resume
    (cron : CronParser)
    (call : CatalogCall) :
    CatalogInput →
      CatalogReply →
      CatalogCall
  | .start request, _ => request.call
  | .proceed environment, reply => call.resumed cron environment reply
  | .raise, _ => call.raised

/-- The call is about to write what it has prepared or checked. -/
def atWrite : CatalogCall → Bool
  | .createDefinition (.storing _ _ _) => true
  | .deleteDefinition (.updating _) => true
  | .createInstance (.inserting _) => true
  | .editInstance (.updating _ _ _ _) => true
  | _ => false

theorem atWrite_call (request : CatalogRequest) :
    request.call.atWrite = false := by
  cases request <;> rfl

theorem atWrite_raised (call : CatalogCall) :
    call.raised.atWrite = false := by
  cases call with
  | createDefinition call =>
      cases call <;> rfl
  | deleteDefinition call =>
      cases call <;> rfl
  | createInstance call =>
      cases call <;> rfl
  | editInstance call =>
      cases call <;> rfl
  | idle | patchDefinition | tick =>
      rfl

/-- Which call issues which statement, and on which input. -/
inductive Issues : CatalogCall → CatalogInput → CatalogStatement → Prop where
  | admitted
      (request : CatalogRequest) :
      Issues .idle (.start request) .skip
  | thrown
      (call : CatalogCall) :
      Issues call .raise .skip
  | disconnected :
      Issues (.tick .rollingBack) .raise .rollback
  | refused
      (call : CatalogCall)
      (environment : CatalogEnvironment) :
      Issues call (.proceed environment) .skip
  | uploadLoad
      (arguments : CreateDefinition.Arguments)
      (upload : CreateDefinition.Upload)
      (environment : CatalogEnvironment)
      (valid : arguments.validate = some upload) :
      Issues (.createDefinition (.start arguments)) (.proceed environment)
        (.getDefinition upload.parsed.definitionId)
  | uploadSave
      (upload : CreateDefinition.Upload)
      (existing : Option DefinitionDocument)
      (now : Timestamp)
      (environment : CatalogEnvironment)
      (artifact : Artifact) :
      Issues (.createDefinition (.saving upload existing now))
        (.proceed environment)
        (.saveArtifact upload.approvedPath artifact)
  | uploadDescribe
      (upload : CreateDefinition.Upload)
      (existing : Option DefinitionDocument)
      (now : Timestamp)
      (environment : CatalogEnvironment) :
      Issues (.createDefinition (.describing upload existing now))
        (.proceed environment) (.getArtifactMetadata upload.approvedPath)
  | uploadIndex
      (upload : CreateDefinition.Upload)
      (existing document : DefinitionDocument)
      (environment : CatalogEnvironment) :
      Issues (.createDefinition (.storing upload (some existing) document))
        (.proceed environment) (.indexDefinition document)
  | uploadCreate
      (upload : CreateDefinition.Upload)
      (document : DefinitionDocument)
      (environment : CatalogEnvironment) :
      Issues (.createDefinition (.storing upload none document))
        (.proceed environment) (.createDefinition document)
  | uploadClean
      (upload : CreateDefinition.Upload)
      (environment : CatalogEnvironment) :
      Issues (.createDefinition (.cleaning upload)) (.proceed environment)
        (.deleteArtifact upload.approvedPath)
  | definitionPatch
      (definitionId : String)
      (patch parsed : DefinitionPatch)
      (environment : CatalogEnvironment) :
      Issues (.patchDefinition (.start definitionId patch))
        (.proceed environment)
        (.patchDefinition definitionId parsed environment.now)
  | definitionPatchRead
      (definitionId : String)
      (environment : CatalogEnvironment) :
      Issues (.patchDefinition (.reading definitionId))
        (.proceed environment) (.getDefinition definitionId)
  | definitionList
      (arguments : DeleteDefinition.Arguments)
      (environment : CatalogEnvironment)
      (guarded : arguments.instanceStore = true) :
      Issues (.deleteDefinition (.start arguments)) (.proceed environment)
        (.listInstancesForDefinition arguments.definitionId)
  | definitionDelete
      (arguments : DeleteDefinition.Arguments)
      (environment : CatalogEnvironment) :
      Issues (.deleteDefinition (.updating arguments))
        (.proceed environment)
        (.deleteDefinition arguments.definitionId environment.now)
  | definitionDeleteRead
      (arguments : DeleteDefinition.Arguments)
      (environment : CatalogEnvironment) :
      Issues (.deleteDefinition (.reading arguments)) (.proceed environment)
        (.getDefinition arguments.definitionId)
  | instanceDefinition
      (definitionId : String)
      (body : InstanceInput)
      (environment : CatalogEnvironment) :
      Issues (.createInstance (.start definitionId body))
        (.proceed environment) (.getDefinition definitionId)
  | instanceInsert
      (document : InstanceDocument)
      (environment : CatalogEnvironment) :
      Issues (.createInstance (.inserting document)) (.proceed environment)
        (.createInstance document)
  | instanceLoad
      (instanceId : String)
      (edit : EditInstance.Edit)
      (environment : CatalogEnvironment) :
      Issues (.editInstance (.start instanceId edit)) (.proceed environment)
        (.getInstance instanceId)
  | instanceUpdate
      (instanceId : String)
      (operation : InstanceOperation)
      (existing row : JobInstance)
      (environment : CatalogEnvironment) :
      Issues
        (.editInstance (.updating instanceId operation existing row))
        (.proceed environment)
        (.updateInstance instanceId row operation)
  | tick
      (call : Tick.Local)
      (environment : CatalogEnvironment)
      (statement : CatalogStatement)
      (issued : Tick.issue call environment = some statement) :
      Issues (.tick call) (.proceed environment) statement

/-- Every issued statement is one of those listed. -/
theorem issues_of_issue
    {call : CatalogCall}
    {input : CatalogInput}
    {statement : CatalogStatement}
    (issued : call.issue input = some statement) :
    Issues call input statement := by
  cases input with
  | start request =>
      cases call <;> cases issued
      exact .admitted request
  | raise =>
      simp only [issue] at issued
      split at issued
      · cases issued
        cases call with
        | tick call =>
            cases call with
            | rollingBack =>
                exact .disconnected
            | _ =>
                exact .thrown _
        | _ =>
            exact .thrown _
      · cases issued
  | proceed environment =>
      change call.next environment = _ at issued
      cases call with
      | idle =>
          cases issued
      | createDefinition call =>
          cases call with
          | start arguments =>
              simp only [next, CreateDefinition.issue] at issued
              split at issued
              · cases issued
                exact .refused _ environment
              · rename_i upload valid
                cases issued
                exact .uploadLoad arguments upload environment valid
          | saving upload existing now =>
              cases issued
              exact .uploadSave upload existing now environment _
          | describing upload existing now =>
              cases issued
              exact .uploadDescribe upload existing now environment
          | storing upload existing document =>
              cases existing with
              | none =>
                  cases issued
                  exact .uploadCreate upload document environment
              | some existing =>
                  cases issued
                  exact .uploadIndex upload existing document environment
          | cleaning upload =>
              cases issued
              exact .uploadClean upload environment
          | done outcome =>
              cases issued
      | patchDefinition call =>
          cases call with
          | start definitionId patch =>
              simp only [next, PatchDefinition.issue] at issued
              split at issued <;> cases issued
              · exact .refused _ environment
              · exact .definitionPatch definitionId patch _ environment
          | reading definitionId =>
              cases issued
              exact .definitionPatchRead definitionId environment
          | done outcome =>
              cases issued
      | deleteDefinition call =>
          cases call with
          | start arguments =>
              simp only [next, DeleteDefinition.issue] at issued
              split at issued <;> cases issued
              · rename_i guarded
                exact .definitionList arguments environment guarded
              · exact .refused _ environment
          | updating arguments =>
              cases issued
              exact .definitionDelete arguments environment
          | reading arguments =>
              cases issued
              exact .definitionDeleteRead arguments environment
          | done outcome =>
              cases issued
      | createInstance call =>
          cases call <;> cases issued
          · exact .instanceDefinition _ _ environment
          · exact .instanceInsert _ environment
      | editInstance call =>
          cases call <;> cases issued
          · exact .instanceLoad _ _ environment
          · exact .instanceUpdate _ _ _ _ environment
      | tick call =>
          exact .tick call environment statement issued

end CatalogCall

/-- The services on the catalog as one system of interleaved calls. -/
def catalogSystem
    (cron : CronParser) :
    System Catalog CatalogCall CatalogInput CatalogStatement
      CatalogReply where
  issue := CatalogCall.issue
  resume := CatalogCall.resume cron
  exec process _ statement catalog := catalog.exec process statement

/-- The stores and all calls in progress. -/
abbrev CatalogPool := Pool Catalog CatalogCall

/-- What the stores hold before the first call. -/
structure Stored where
  definitions : Table String DefinitionDocument
  instances : JobInstances
  runs : JobRuns

/-- No call has been started yet. -/
def CatalogPool.initial (stored : Stored) : CatalogPool where
  shared := {
    definitions := stored.definitions
    artifacts := ∅
    instances := .ofTable stored.instances
    runs := .ofTable stored.runs
    log := []
  }
  locals _ := .idle

namespace CatalogPool

/-- The run of a schedule from the stored documents and rows. -/
abbrev run?
    (cron : CronParser)
    (stored : Stored)
    (schedule : List (Label CatalogInput)) :
    Option CatalogPool :=
  (catalogSystem cron).run? (initial stored) schedule

/-- A pool that some schedule leads to. -/
def Reachable
    (cron : CronParser)
    (stored : Stored)
    (pool : CatalogPool) :
    Prop :=
  ∃ schedule, run? cron stored schedule = some pool

/-- What one scheduled step of a call consists of. -/
theorem step_moves
    {cron : CronParser}
    {pool next : CatalogPool}
    {label : Label CatalogInput}
    (stepped : (catalogSystem cron).step? pool label = some next) :
    ∃ statement reply,
      (pool.locals label.1).issue label.2 = some statement ∧
        pool.shared.exec label.1 statement = some (next.shared, reply) ∧
        next.locals label.1 =
          (pool.locals label.1).resume cron label.2 reply :=
  System.step?_moves stepped

/-- A call comes to its write by the reply to the statement before it. -/
theorem proceeded_of_step
    {cron : CronParser}
    {pool next : CatalogPool}
    {label : Label CatalogInput}
    (stepped : (catalogSystem cron).step? pool label = some next)
    (writing : (next.locals label.1).atWrite = true) :
    ∃ environment statement reply,
      (pool.locals label.1).next environment = some statement ∧
        pool.shared.exec label.1 statement = some (next.shared, reply) ∧
        next.locals label.1 =
          (pool.locals label.1).resumed cron environment reply := by
  obtain ⟨statement, reply, issued, executed, resumed⟩ := step_moves stepped
  rw [resumed] at writing
  rcases label with ⟨process, input⟩
  cases input with
  | start request =>
      cases writing.symm.trans (CatalogCall.atWrite_call request)
  | raise =>
      cases writing.symm.trans (CatalogCall.atWrite_raised _)
  | proceed environment =>
      exact ⟨environment, statement, reply, issued, executed, resumed⟩

theorem Reachable.step
    {cron : CronParser}
    {stored : Stored}
    {pool next : CatalogPool}
    {label : Label CatalogInput}
    (reachable : Reachable cron stored pool)
    (stepped : (catalogSystem cron).step? pool label = some next) :
    Reachable cron stored next := by
  obtain ⟨schedule, ran⟩ := reachable
  exact ⟨schedule ++ [label],
    System.run?_append_eq_some.mpr
      ⟨pool, ran, System.run?_singleton.trans stepped⟩⟩

/-- A property that every step keeps holds of every reachable pool. -/
theorem Reachable.invariant
    {cron : CronParser}
    {stored : Stored}
    {pool : CatalogPool}
    (invariant : CatalogPool → Prop)
    (reachable : Reachable cron stored pool)
    (atStart : invariant (initial stored))
    (preserved :
      ∀ {pool next : CatalogPool} {label : Label CatalogInput},
        invariant pool →
        (catalogSystem cron).step? pool label = some next →
        invariant next) :
    invariant pool := by
  obtain ⟨schedule, ran⟩ := reachable
  exact System.run?_invariant invariant atStart preserved ran

end CatalogPool

/-! ## Pieces of example schedules -/

/-- A parser that takes every expression for "at the full hour". -/
def hourly : CronParser where
  next _ _ fromDate := some (fromDate + 3600000 - fromDate % 3600000)

theorem hourly_later : hourly.Later := by
  intro expression timezone fromDate next parsed
  cases parsed
  have bounded :=
    Int.emod_lt_of_pos fromDate (by decide : (0 : Int) < 3600000)
  exact Int.lt_sub_right_of_add_lt (Int.add_lt_add_left bounded fromDate)

def hourlySchedule : Schedule :=
  ⟨"cron", some "0 * * * *", none, some "UTC"⟩

/-- An active instance that fires at the full hour, the epoch first. -/
def hourlyInstance : JobInstance where
  tenantId := none
  definitionId := "report"
  definitionVersion := 1
  definitionParameterSchema := []
  enabled := true
  state := .active
  schedule := hourlySchedule
  nextFireAt := some 0
  lastFireAt := none
  parameters := []
  createdAt := 0
  updatedAt := 0

/-- The instance is stored, and nothing else. -/
def storedHourly : Stored where
  definitions := ∅
  instances := (∅ : JobInstances).insert "hourly" hourlyInstance
  runs := ∅

def catalogEnvironmentAt (now : Timestamp) : CatalogEnvironment where
  now := now
  later := now
  generation := "1"

/-- A process starts a call. -/
def startCall
    (process : Nat)
    (request : CatalogRequest) :
    Label CatalogInput :=
  (process, .start request)

/-- The call of a process takes its next step. -/
def proceedAt
    (process : Nat)
    (now : Timestamp) :
    Label CatalogInput :=
  (process, .proceed (catalogEnvironmentAt now))

end IgaScheduler

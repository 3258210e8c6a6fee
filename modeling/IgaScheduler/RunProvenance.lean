import IgaScheduler.AcceptedInstances
import IgaScheduler.RunIdCollisions
import IgaScheduler.RunIdentities

namespace IgaScheduler

open Relational Interleaving

/-!
# Where runs come from

A stored run is the run of a tick or of run-now, made from the row of its
instance as it once stood, or it is the re-drive of a run that is still stored
and descends from one in the same way.
-/

/-- The identity of a run that is made from this row of its instance. -/
def JobInstance.runIdentity
    (row : JobInstance)
    (instanceId : String)
    (scheduledFireTime createdAt : Timestamp)
    (executionMetadata : Option Json) :
    RunIdentity where
  tenantId := row.tenantId
  instanceId := instanceId
  definitionId := row.definitionId
  definitionVersion := some row.definitionVersion
  scheduledFireTime := scheduledFireTime
  params := row.parameters
  executionMetadata := executionMetadata
  parentRunId := none
  redriveOfRunId := none
  createdAt := createdAt

/-- The identity of a re-drive: that of its source, and where it comes from. -/
def RunIdentity.redriven
    (source : RunIdentity)
    (sourceRunId : String)
    (createdAt : Timestamp) :
    RunIdentity :=
  { source with
    executionMetadata := jsonColumn source.executionMetadata
    parentRunId := some sourceRunId
    redriveOfRunId := some sourceRunId
    createdAt := createdAt }

/-- What a run may refer to: documents and rows as they once stood. -/
structure Origins where
  /-- The run was stored before the first step. -/
  atFirst : String → RunIdentity → Prop
  /-- The instance once had this row. -/
  held : String → JobInstance → Prop
  /-- A lookup of the definition once found this, or nothing. -/
  defined : String → Option DefinitionDocument → Prop
  /-- The run is stored. -/
  stored : String → RunIdentity → Prop

/-- The `execution_metadata` of a tick's run. -/
inductive Origins.Snapshot
    (origins : Origins)
    (definitionId : String) :
    Option Json →
      Prop where
  /-- The service was built without a `definitionService`. -/
  | absent : origins.Snapshot definitionId none
  | taken
      (found : Option DefinitionDocument)
      (stood : origins.defined definitionId found) :
      origins.Snapshot definitionId
        (some (buildExecutionMetadataSnapshot found).json)

/-- The run comes from a tick, from run-now, or from one that does. -/
inductive Origins.Descends (origins : Origins) : String → RunIdentity → Prop
  where
  | atFirst
      {runId : String}
      {identity : RunIdentity}
      (stood : origins.atFirst runId identity) :
      origins.Descends runId identity
  | tick
      {runId instanceId : String}
      {row : JobInstance}
      {fire : Timestamp}
      {executionMetadata : Option Json}
      (held : origins.held instanceId row)
      (planned : row.nextFireAt = some fire)
      (built : buildRunId row.tenantId instanceId fire = some runId)
      (snapshot : origins.Snapshot row.definitionId executionMetadata)
      (createdAt : Timestamp) :
      origins.Descends runId
        (row.runIdentity instanceId fire createdAt executionMetadata)
  | runNow
      {instanceId : String}
      {row : JobInstance}
      (held : origins.held instanceId row)
      (live : row.state ≠ .deleted)
      (uuid : Uuid)
      (createdAt : Timestamp) :
      origins.Descends (instanceId ++ ":manual:" ++ uuid.text)
        (row.runIdentity instanceId createdAt createdAt none)
  | redrive
      {sourceRunId : String}
      {source : RunIdentity}
      (stored : origins.stored sourceRunId source)
      (descends : origins.Descends sourceRunId source)
      (uuid : Uuid)
      (createdAt : Timestamp) :
      origins.Descends (sourceRunId ++ ":redrive:" ++ uuid.text)
        (source.redriven sourceRunId createdAt)

namespace Origins

/-- What the first may refer to, the second may refer to as well. -/
structure Within (first second : Origins) : Prop where
  atFirst :
    ∀ {runId identity}, first.atFirst runId identity →
      second.atFirst runId identity
  held :
    ∀ {instanceId row}, first.held instanceId row →
      second.held instanceId row
  defined :
    ∀ {definitionId found}, first.defined definitionId found →
      second.defined definitionId found
  stored :
    ∀ {runId identity}, first.stored runId identity →
      second.stored runId identity

variable {first second : Origins}

theorem Snapshot.mono
    {definitionId : String}
    {executionMetadata : Option Json}
    (within : first.Within second)
    (snapshot : first.Snapshot definitionId executionMetadata) :
    second.Snapshot definitionId executionMetadata := by
  cases snapshot with
  | absent =>
      exact .absent
  | taken found stood =>
      exact .taken found (within.defined stood)

theorem Descends.mono
    {runId : String}
    {identity : RunIdentity}
    (within : first.Within second)
    (descends : first.Descends runId identity) :
    second.Descends runId identity := by
  induction descends with
  | atFirst stood =>
      exact .atFirst (within.atFirst stood)
  | tick held planned built snapshot createdAt =>
      exact .tick (within.held held) planned built (snapshot.mono within)
        createdAt
  | runNow held live uuid createdAt =>
      exact .runNow (within.held held) live uuid createdAt
  | redrive stored descends uuid createdAt inductionHypothesis =>
      exact .redrive (within.stored stored) inductionHypothesis uuid
        createdAt

end Origins

/-! ## What the calls hand on -/

namespace Tick

variable {origins : Origins}

/-- The firing of an instance whose row stood as it was claimed. -/
structure Firing.Sourced
    (origins : Origins)
    (cron : CronParser)
    (firing : Firing) :
    Prop where
  held :
    origins.held firing.document.instanceId firing.document.toJobInstance
  computed : firing? cron firing.document = some firing

theorem Firing.Sourced.descends
    {cron : CronParser}
    {firing : Firing}
    {snapshot : Option DefinitionSnapshot}
    (sourced : firing.Sourced origins cron)
    (taken :
      origins.Snapshot firing.document.definitionId
        (snapshot.map DefinitionSnapshot.json))
    (nowIso : Timestamp) :
    origins.Descends firing.runId
      (documentToRow (firing.runDocument nowIso snapshot)).identity := by
  obtain ⟨-, planned, -, built⟩ := firing?_eq_some sourced.computed
  have identity :
      (documentToRow (firing.runDocument nowIso snapshot)).identity =
        firing.document.toJobInstance.runIdentity
          firing.document.instanceId firing.scheduledFireTime nowIso
          (snapshot.map DefinitionSnapshot.json) := by
    cases snapshot <;> rfl
  rw [identity]
  exact .tick sourced.held planned built taken nowIso

/-- What is known at each stage of the run that is to be inserted. -/
def Stage.Sourced
    (origins : Origins)
    (cron : CronParser) :
    Stage →
      Prop
  | .fetching firing => firing.Sourced origins cron
  | .inserting _ runDocument =>
      origins.Descends runDocument.runId (documentToRow runDocument).identity
  | _ => True

/-- Every instance a tick still has in hand stood as it was claimed. -/
def Local.Sourced
    (origins : Origins)
    (cron : CronParser) :
    Local →
      Prop
  | .between _ _ documents _ =>
      ∀ document ∈ documents,
        origins.held document.instanceId document.toJobInstance
  | .handling _ _ stage documents _ =>
      stage.Sourced origins cron ∧
        ∀ document ∈ documents,
          origins.held document.instanceId document.toJobInstance
  | _ => True

variable {cron : CronParser}
variable {call : Local}

theorem Stage.Sourced.mono
    {first second : Origins}
    {stage : Stage}
    (within : first.Within second)
    (sourced : stage.Sourced first cron) :
    stage.Sourced second cron := by
  cases stage with
  | fetching firing =>
      exact ⟨within.held sourced.held, sourced.computed⟩
  | inserting firing runDocument =>
      exact Origins.Descends.mono within sourced
  | advancing | releasing | undoing =>
      trivial

theorem Local.Sourced.mono
    {first second : Origins}
    (within : first.Within second)
    (sourced : call.Sourced first cron) :
    call.Sourced second cron := by
  cases call with
  | between arguments nowIso documents summary =>
      exact fun document member => within.held (sourced document member)
  | handling arguments nowIso stage documents summary =>
      exact ⟨sourced.1.mono within, fun document member =>
        within.held (sourced.2 document member)⟩
  | start | claiming | rollingBack | done =>
      trivial

theorem firstStage_sourced
    {arguments : Arguments}
    {nowIso : Timestamp}
    {document : InstanceDocument}
    (held : origins.held document.instanceId document.toJobInstance) :
    (firstStage cron arguments nowIso document).Sourced origins cron := by
  unfold firstStage
  split
  · trivial
  · rename_i firing computed
    have sourced : firing.Sourced origins cron := by
      obtain ⟨rfl, -⟩ := firing?_eq_some computed
      exact ⟨held, computed⟩
    split
    · exact sourced
    · have without :
          origins.Snapshot firing.document.definitionId
            (Option.map DefinitionSnapshot.json none) :=
        .absent
      exact sourced.descends without nowIso

theorem Local.Sourced.proceed
    {process : Nat}
    {catalog next : Catalog}
    {environment : CatalogEnvironment}
    {statement : CatalogStatement}
    {reply : CatalogReply}
    (sourced : call.Sourced origins cron)
    (held :
      ∀ {instanceId row}, catalog.jobInstance instanceId = some row →
        origins.held instanceId row)
    (defined :
      ∀ definitionId,
        origins.defined definitionId (catalog.definition definitionId))
    (issued : issue call environment = some statement)
    (executed : catalog.exec process statement = some (next, reply)) :
    (resume cron call environment reply).Sourced origins cron := by
  cases call with
  | start arguments =>
      simp only [resume]
      split <;> trivial
  | claiming arguments nowIso =>
      cases issued
      obtain ⟨performed, ran, -⟩ := Catalog.exec_eq_some executed
      obtain ⟨⟨database, listed⟩, selected, shape⟩ :=
        Option.map_eq_some_iff.mp ran
      cases shape
      intro document member
      obtain ⟨entry, chosen, rfl⟩ := List.mem_map.mp member
      rw [(Database.selectForUpdate?_eq_some selected).1] at chosen
      exact held (Database.mem_selectUnlocked chosen).1
  | between arguments nowIso documents summary =>
      cases documents with
      | nil =>
          trivial
      | cons document rest =>
          exact ⟨firstStage_sourced (sourced document List.mem_cons_self),
            fun other member =>
              sourced other (List.mem_cons_of_mem document member)⟩
  | handling arguments nowIso stage rest summary =>
      obtain ⟨atStage, rest⟩ := sourced
      cases stage with
      | fetching firing =>
          cases issued
          have answer := (Catalog.exec_getDefinition executed).2
          refine ⟨?_, rest⟩
          rw [answer]
          exact atStage.descends (.taken _ (defined _)) nowIso
      | inserting firing runDocument | advancing firing =>
          exact ⟨trivial, rest⟩
      | releasing firing | undoing =>
          exact rest
  | rollingBack | done outcome =>
      trivial

theorem Local.Sourced.raise (sourced : call.Sourced origins cron) :
    (Tick.raise call).Sourced origins cron := by
  cases call with
  | start arguments =>
      simp only [Tick.raise]
      split <;> trivial
  | handling arguments nowIso stage rest summary =>
      cases stage with
      | undoing =>
          trivial
      | _ =>
          exact ⟨trivial, sourced.2⟩
  | claiming | between | rollingBack | done =>
      trivial

end Tick

section Calls

variable {origins : Origins}

/-- Among the services, ticks alone have runs to insert. -/
def CatalogCall.Sourced
    (origins : Origins)
    (cron : CronParser) :
    CatalogCall →
      Prop
  | .tick call => call.Sourced origins cron
  | _ => True

/-- Among the statements of the services, `createRunTx` alone brings a run. -/
theorem CatalogCall.Sourced.brings
    {cron : CronParser}
    {call : CatalogCall}
    {input : CatalogInput}
    {statement : CatalogStatement}
    {reply : CatalogReply}
    (sourced : call.Sourced origins cron)
    (issued : call.issue input = some statement) :
    statement.Brings (fun _ _ => True)
      (fun runId row => origins.Descends runId row.identity) reply := by
  cases issues_of_issue issued with
  | tick call environment statement issued =>
      cases call with
      | start arguments =>
          simp only [Tick.issue] at issued
          split at issued <;> cases issued <;> trivial
      | between arguments nowIso documents summary =>
          cases documents <;> cases issued <;> trivial
      | handling arguments nowIso stage rest summary =>
          cases stage with
          | inserting firing runDocument =>
              cases issued
              exact fun _ => sourced.1
          | advancing firing =>
              cases issued
              exact fun _ _ => trivial
          | fetching | releasing | undoing =>
              cases issued
              trivial
      | claiming | rollingBack =>
          cases issued
          trivial
      | done outcome =>
          cases issued
  | instanceUpdate =>
      exact fun _ _ => trivial
  | _ =>
      trivial

/-- The run that run-now is about to insert comes from its instance. -/
def RunNow.Local.Sourced (origins : Origins) : RunNow.Local → Prop
  | .inserting document =>
      origins.Descends document.runId (documentToRow document).identity
  | _ => True

theorem RunNow.Local.Sourced.mono
    {first second : Origins}
    {call : RunNow.Local}
    (within : first.Within second)
    (sourced : call.Sourced first) :
    call.Sourced second := by
  cases call with
  | inserting document =>
      exact Origins.Descends.mono within sourced
  | idle | start | done =>
      trivial

theorem RunNow.Local.Sourced.resume
    {call : RunNow.Local}
    {input : RunNow.Input}
    {statement : RunNow.Statement}
    {catalog next : Catalog}
    {reply : RunNow.Reply}
    (held :
      ∀ {instanceId row}, catalog.jobInstance instanceId = some row →
        origins.held instanceId row)
    (issued : RunNow.issue call input = some statement)
    (executed : RunNow.exec statement catalog = some (next, reply)) :
    (RunNow.resume call input reply).Sourced origins := by
  generalize resumed : RunNow.resume call input reply = after
  cases after with
  | inserting document =>
      obtain ⟨arguments, environment, row, rfl, rfl, found, live, rfl⟩ :=
        RunNow.resume_inserting issued executed resumed
      exact .runNow (held found) live environment.uuid environment.now
  | idle | start | done =>
      trivial

theorem RunNow.Local.Sourced.inserted
    {call : RunNow.Local}
    {input : RunNow.Input}
    {document : RunDocument}
    (sourced : call.Sourced origins)
    (issued : RunNow.issue call input = some (.createRun document)) :
    origins.Descends document.runId (documentToRow document).identity := by
  cases call with
  | inserting prepared =>
      cases input <;> cases issued
      exact sourced
  | start arguments =>
      cases input with
      | start request =>
          cases issued
      | proceed | raise =>
          simp only [RunNow.issue] at issued
          split at issued <;> cases issued
  | idle | done =>
      cases input <;> cases issued

/-- The run that a re-drive has loaded is stored and descends. -/
def RunCall.Sourced (origins : Origins) : RunCall → Prop
  | .createRun _ => False
  | .redriveRun (.loaded _ run _) =>
      origins.stored run.runId run.identity ∧
        origins.Descends run.runId run.identity
  | _ => True

variable {call : RunCall}
variable {input : RunInput}
variable {statement : RunStatement}

theorem RunCall.Sourced.mono
    {first second : Origins}
    (within : first.Within second)
    (sourced : call.Sourced first) :
    call.Sourced second := by
  cases call with
  | createRun call =>
      exact sourced
  | redriveRun call =>
      cases call with
      | loaded runId run nowIso =>
          exact ⟨within.stored sourced.1, sourced.2.mono within⟩
      | start | done =>
          trivial
  | _ =>
      trivial

/-- The only runs these calls insert are re-drives of stored runs. -/
theorem RunCall.Sourced.inserted
    {document : RunDocument}
    (sourced : call.Sourced origins)
    (issued : call.issue input = some (.createRun document)) :
    origins.Descends document.runId (documentToRow document).identity := by
  cases issues_of_issue issued with
  | createRun origin environment =>
      exact sourced.elim
  | redrive runId run nowIso environment =>
      exact .redrive sourced.1 sourced.2 environment.uuid nowIso

theorem RunCall.Sourced.resume
    {process : Nat}
    {shared next : RunDatabase}
    {reply : RunReply}
    (sourced : call.Sourced origins)
    (admitted : SchedulerInput.admitted (.inr input) = true)
    (stored :
      ∀ {runId row}, shared.row runId = some row →
        origins.stored runId row.identity ∧
          origins.Descends runId row.identity)
    (issued : call.issue input = some statement)
    (executed : shared.exec process statement = some (next, reply)) :
    (call.resume input reply).Sourced origins := by
  generalize resumed : call.resume input reply = after
  cases after with
  | createRun creation =>
      rcases RunCall.createRun_resumed resumed with
        ⟨before, rfl⟩ | ⟨origin, rfl⟩
      · exact sourced.elim
      · cases admitted
  | redriveRun redrive =>
      cases redrive with
      | loaded runId run nowIso =>
          obtain ⟨row, found, rfl⟩ :=
            RunCall.redriveRun_resumed issued executed resumed
          exact stored found
      | start | done =>
          trivial
  | _ =>
      trivial

end Calls

/-! ## Along every run of the scheduler -/

namespace SchedulerPool

variable {cron : CronParser}
variable {stored : Stored}
variable {schedule : List (Label SchedulerInput)}
variable {pool next : SchedulerPool}

/-- Some pool that the run has visited has this property. -/
abbrev Visited
    (cron : CronParser)
    (stored : Stored)
    (schedule : List (Label SchedulerInput))
    (property : SchedulerPool → Prop) :
    Prop :=
  (schedulerSystem cron).Visits (initial stored) schedule property

/-- What the runs stored in the pool at the end of a run may refer to. -/
def origins
    (cron : CronParser)
    (stored : Stored)
    (schedule : List (Label SchedulerInput))
    (pool : SchedulerPool) :
    Origins where
  atFirst runId identity :=
    ∃ row, stored.runs.lookup runId = some row ∧ row.identity = identity
  held instanceId row :=
    Visited cron stored schedule fun visited =>
      visited.shared.catalog.jobInstance instanceId = some row
  defined definitionId found :=
    Visited cron stored schedule fun visited =>
      visited.shared.catalog.definition definitionId = found
  stored runId identity :=
    ∃ row, pool.run runId = some row ∧ row.identity = identity

/-- Every run comes from somewhere, and every call knows it of its own. -/
structure Sourced
    (origins : Origins)
    (cron : CronParser)
    (pool : SchedulerPool) :
    Prop where
  rows :
    pool.runs.EveryRow fun runId row => origins.Descends runId row.identity
  services : ∀ process, (pool.services.locals process).Sourced origins cron
  routes : ∀ process, (pool.routes.locals process).Sourced origins
  runCalls : ∀ process, (pool.runCalls.locals process).Sourced origins

theorem Sourced.mono
    {first second : Origins}
    (within : first.Within second)
    (sourced : pool.Sourced first cron) :
    pool.Sourced second cron where
  rows := sourced.rows.mono fun _ _ => Origins.Descends.mono within
  services process := by
    have known := sourced.services process
    cases calling : pool.services.locals process with
    | tick call =>
        rw [calling] at known
        exact Tick.Local.Sourced.mono within known
    | _ =>
        trivial
  routes process := (sourced.routes process).mono within
  runCalls process := (sourced.runCalls process).mono within

/-- Everything that stands in the pool may be referred to. -/
structure Covered
    (origins : Origins)
    (pool : SchedulerPool) :
    Prop where
  held :
    ∀ {instanceId row},
      pool.shared.catalog.jobInstance instanceId = some row →
      origins.held instanceId row
  defined :
    ∀ definitionId,
      origins.defined definitionId
        (pool.shared.catalog.definition definitionId)
  stored :
    ∀ {runId row},
      pool.run runId = some row → origins.stored runId row.identity

/-- Every step keeps the sources, when they cover the pool before it. -/
theorem Sourced.step
    {origins : Origins}
    {label : Label SchedulerInput}
    (sourced : pool.Sourced origins cron)
    (covered : Covered origins pool)
    (stepped : (schedulerSystem cron).step? pool label = some next) :
    next.Sourced origins cron := by
  obtain ⟨rows, services, routes, runCalls⟩ := sourced
  cases moved_of_step stepped with
  | @service process input taken onRoutes onRunCalls =>
      obtain ⟨statement, reply, issued, executed, -⟩ :=
        CatalogPool.step_moves taken
      have every :
          pool.services.shared.EveryRow (fun _ _ => True)
            fun runId row => origins.Descends runId row.identity :=
        ⟨⟨fun _ _ _ => trivial, fun _ _ _ _ => trivial,
          fun _ _ _ _ _ => trivial⟩, rows⟩
      refine ⟨(Catalog.exec_every executed every
          ((services process).brings issued)).runs, ?_,
        fun other => onRoutes ▸ routes other,
        fun other => onRunCalls ▸ runCalls other⟩
      intro other
      by_cases own : other = process
      · subst own
        cases calling : next.services.locals other with
        | tick call =>
            have known := services other
            have moved := CatalogPool.moved_of_step taken calling
            generalize pool.services.locals (other, input).1 = before
              at moved known
            cases moved with
            | started arguments =>
                trivial
            | proceeded issued executed =>
                exact Tick.Local.Sourced.proceed known covered.held
                  covered.defined issued executed
            | raised executed =>
                exact Tick.Local.Sourced.raise known
        | _ =>
            trivial
      · rw [System.step?_locals_other taken own]
        exact services other
  | @route process input formatted taken onServices onRunCalls =>
      obtain ⟨statement, reply, issued, executed, resumed⟩ :=
        System.step?_moves taken
      refine ⟨RunNow.exec_every executed rows ?_,
        fun other => onServices ▸ services other, ?_,
        fun other => onRunCalls ▸ runCalls other⟩
      · rintro document rfl
        exact (routes process).inserted issued
      · intro other
        by_cases own : other = process
        · subst own
          rw [resumed]
          exact RunNow.Local.Sourced.resume covered.held issued executed
        · rw [System.step?_locals_other taken own]
          exact routes other
  | @runCall process input formatted taken sameInstances onServices
      onRoutes =>
      obtain ⟨statement, reply, issued, executed, resumed⟩ :=
        RunPool.step_moves taken
      refine ⟨?_, fun other => onServices ▸ services other,
        fun other => onRoutes ▸ routes other, ?_⟩
      · refine RunDatabase.exec_every executed rows ?_ ?_
        · intro write runId row descends
          rw [RunWrite.identity_set]
          exact descends
        · rintro document rfl
          exact (runCalls process).inserted issued
      · intro other
        by_cases own : other = process
        · subst own
          rw [resumed]
          refine (runCalls other).resume formatted ?_ issued executed
          intro runId row found
          exact ⟨covered.stored found, rows.committed runId row found⟩
        · rw [System.step?_locals_other taken own]
          exact runCalls other

/-- One step later there is more to refer to, the pool before it included. -/
theorem origins_step
    {label : Label SchedulerInput}
    (ran : run? cron stored schedule = some pool)
    (stepped : (schedulerSystem cron).step? pool label = some next) :
    (origins cron stored schedule pool).Within
        (origins cron stored (schedule ++ [label]) next) ∧
      Covered (origins cron stored (schedule ++ [label]) next)
        pool := by
  have grows := (frozen_of_step (frozen_of_run ran) stepped).2
  have stays
      {runId : String}
      {row : JobRun}
      (found : pool.run runId = some row) :
      (origins cron stored (schedule ++ [label]) next).stored runId
        row.identity :=
    grows runId row found
  refine ⟨⟨id, fun visits => visits.append [label],
    fun visits => visits.append [label], ?_⟩, ?_, ?_, stays⟩
  · rintro runId identity ⟨row, found, rfl⟩
    exact stays found
  · intro instanceId row found
    exact (System.Visits.final ran found).append [label]
  · intro definitionId
    have visits :
        Visited cron stored schedule fun visited =>
          visited.shared.catalog.definition definitionId =
            pool.shared.catalog.definition definitionId :=
      .final ran rfl
    exact visits.append [label]

/-- Along every run, every run of a job comes from somewhere. -/
theorem sourced_of_run
    (ran : run? cron stored schedule = some pool) :
    pool.Sourced (origins cron stored schedule pool) cron := by
  refine System.run?_induction
    (fun earlier (visited : SchedulerPool) =>
      visited.Sourced (origins cron stored earlier visited) cron)
    ?_ ?_ ran
  · have rows :
        (initial stored).runs.EveryRow fun runId row =>
          (origins cron stored [] (initial stored)).Descends runId
            row.identity :=
      .ofTable fun runId row found => .atFirst ⟨row, found, rfl⟩
    exact ⟨rows, fun _ => trivial, fun _ => trivial, fun _ => trivial⟩
  · intro earlier visited next label ranEarlier known stepped
    obtain ⟨within, covered⟩ := origins_step ranEarlier stepped
    exact (known.mono within).step covered stepped

/--
Every stored run descends, through re-drives of runs that are all still stored,
from a run that was there at first or from one that a tick or run-now has made
of the row its instance had at the time.
-/
theorem every_run_descends
    (ran : run? cron stored schedule = some pool)
    {runId : String}
    {row : JobRun}
    (found : pool.run runId = some row) :
    (origins cron stored schedule pool).Descends runId row.identity :=
  (sourced_of_run ran).rows.committed runId row found

theorem every_run_descends_redriveHourly :
    ∃ pool row,
      run? hourly storedHourly (fireHourly ++ redriveHourly) = some pool ∧
        pool.run (hourlyRunId ++ ":redrive:" ++ redriveUuid.text) =
          some row ∧
        row.redriveOfRunId = some hourlyRunId ∧
        (origins hourly storedHourly (fireHourly ++ redriveHourly)
          pool).Descends (hourlyRunId ++ ":redrive:" ++ redriveUuid.text)
            row.identity := by
  have outcome :
      (run? hourly storedHourly (fireHourly ++ redriveHourly)).bind
          (fun pool =>
            (pool.run (hourlyRunId ++ ":redrive:" ++ redriveUuid.text)).map
              JobRun.redriveOfRunId) =
        some (some hourlyRunId) := by
    decide
  obtain ⟨pool, ran, rest⟩ := Option.bind_eq_some_iff.mp outcome
  obtain ⟨row, found, source⟩ := Option.map_eq_some_iff.mp rest
  exact ⟨pool, row, ran, found, source, every_run_descends ran found⟩

end SchedulerPool

end IgaScheduler

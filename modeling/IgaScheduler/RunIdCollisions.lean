import IgaScheduler.AcceptedInstances
import IgaScheduler.RunHistory
import IgaScheduler.SchedulerSystem

namespace IgaScheduler

open Relational Interleaving

/-!
# Run ids do not collide

Every row of `job_runs` is stored under the id of one name, and an id has only
one.  So the row that a tick's `ON CONFLICT DO NOTHING` meets is the run that
an earlier tick has created for the same instance and the same fire time.
-/

/-! ## Rows under the ids of their names -/

/-- `created` are the instances and fire times of the runs that ticks made. -/
structure NamedRun
    (created : InstanceId → Timestamp → Prop)
    (runId : String)
    (row : JobRun) :
    Prop where
  identified : ∃ name : RunName, name.Identifies runId
  ofTick :
    ∀ {instanceId : InstanceId} {fire : Timestamp},
      (RunName.tick instanceId fire).Identifies runId →
      row.instanceId = instanceId.text ∧
        row.scheduledFireTime = fire ∧
        created instanceId fire

namespace NamedRun

variable {created created' : InstanceId → Timestamp → Prop}
variable {runId : String}
variable {row : JobRun}

theorem mono
    (named : NamedRun created runId row)
    (more :
      ∀ instanceId fire,
        created instanceId fire → created' instanceId fire) :
    NamedRun created' runId row where
  identified := named.identified
  ofTick identifies :=
    have found := named.ofTick identifies
    ⟨found.1, found.2.1, more _ _ found.2.2⟩

/-- No write changes the instance or the fire time of a run. -/
theorem written
    (named : NamedRun created runId row)
    (write : RunWrite) :
    NamedRun created runId (write.update.set row) where
  identified := named.identified
  ofTick identifies := by
    have found := named.ofTick identifies
    cases write <;> exact found

/-- The run of run-now or of a re-drive is nobody else's. -/
theorem of_other
    {name : RunName}
    (identifies : name.Identifies runId)
    (other : ∀ instanceId fire, name ≠ .tick instanceId fire) :
    NamedRun created runId row where
  identified := ⟨name, identifies⟩
  ofTick {instanceId fire} ofTick :=
    (other instanceId fire (identifies.unique ofTick rfl)).elim

/-- The run of a firing, once it counts as created. -/
theorem of_firing
    {firing : Tick.Firing}
    {instanceId : InstanceId}
    {nowIso : Timestamp}
    {snapshot : Option DefinitionSnapshot}
    (named : firing.Named instanceId)
    (counted : created instanceId firing.scheduledFireTime) :
    NamedRun created firing.runId
      (documentToRow (firing.runDocument nowIso snapshot)) where
  identified := ⟨_, named.identifies⟩
  ofTick identifies := by
    cases named.identifies.unique identifies rfl
    exact ⟨named.ofInstance, rfl, counted⟩

end NamedRun

/-! ## What the statements on runs bring into the table -/

section Statements

variable {onRuns : String → JobRun → Prop}

theorem RunDatabase.exec_every
    {process : Nat}
    {statement : RunStatement}
    {shared next : RunDatabase}
    {reply : RunReply}
    (executed : shared.exec process statement = some (next, reply))
    (every : shared.database.EveryRow onRuns)
    (written :
      ∀ (write : RunWrite) (runId : String) (row : JobRun),
        onRuns runId row → onRuns runId (write.update.set row))
    (inserted :
      ∀ document, statement = .createRun document →
        onRuns document.runId (documentToRow document)) :
    next.database.EveryRow onRuns := by
  obtain ⟨-, performed, ran, rfl⟩ := exec_eq_some executed
  change performed.database.EveryRow onRuns
  cases statement with
  | present owner dispatchId =>
      simp only [perform] at ran
      split at ran
      · cases ran
        exact every
      · cases ran
  | createRun document =>
      obtain ⟨_, insertedRow, shape⟩ := Option.map_eq_some_iff.mp ran
      cases shape
      exact every.insert? (inserted document rfl) insertedRow
  | update owner write =>
      obtain ⟨_, updated, shape⟩ := Option.map_eq_some_iff.mp ran
      cases shape
      exact every.update? (written write owner) updated
  | begin =>
      cases ran
      exact every.begin process
  | selectQueuedForUpdate limit =>
      obtain ⟨_, selected, shape⟩ := Option.map_eq_some_iff.mp ran
      cases shape
      exact every.selectForUpdate? selected
  | claimCandidate owner startedAt dispatchId =>
      obtain ⟨_, updated, shape⟩ := Option.map_eq_some_iff.mp ran
      cases shape
      exact every.updateIn?
        (written (.claimRun startedAt none dispatchId) owner) updated
  | commitClaims claimed =>
      obtain ⟨_, committed, shape⟩ := Option.map_eq_some_iff.mp ran
      cases shape
      exact every.commit? committed
  | rollback =>
      cases ran
      exact every.rollback process
  | _ =>
      cases ran
      exact every

theorem RunNow.exec_every
    {statement : RunNow.Statement}
    {catalog next : Catalog}
    {reply : RunNow.Reply}
    (executed : RunNow.exec statement catalog = some (next, reply))
    (every : catalog.runs.EveryRow onRuns)
    (inserted :
      ∀ document, statement = .createRun document →
        onRuns document.runId (documentToRow document)) :
    next.runs.EveryRow onRuns := by
  cases statement with
  | skip | getInstance =>
      cases executed
      exact every
  | createRun document =>
      obtain ⟨_, insertedRow, shape⟩ := Option.map_eq_some_iff.mp executed
      cases shape
      exact every.insert? (inserted document rfl) insertedRow

end Statements

/-! ## What the calls on runs hand on -/

/-- The run that run-now is about to insert bears an id of its own. -/
def RunNow.Local.Named : RunNow.Local → Prop
  | .inserting document =>
      ∃ instanceId uuid,
        (RunName.runNow instanceId uuid).Identifies document.runId
  | _ => True

theorem RunNow.Local.Named.resume
    {call : RunNow.Local}
    {input : RunNow.Input}
    {statement : RunNow.Statement}
    {catalog next : Catalog}
    {reply : RunNow.Reply}
    (formatted : SchedulerInput.admitted (.inl (.inr input)) = true)
    (rows : catalog.instances.EveryRow AcceptedInstance)
    (issued : RunNow.issue call input = some statement)
    (executed : RunNow.exec statement catalog = some (next, reply)) :
    (RunNow.resume call input reply).Named := by
  generalize resumed : RunNow.resume call input reply = after
  cases after with
  | inserting document =>
      obtain ⟨arguments, environment, row, rfl, rfl, found, -, rfl⟩ :=
        RunNow.resume_inserting issued executed resumed
      have accepted := rows.committed _ row found
      exact ⟨⟨arguments.instanceId, accepted.accepted⟩,
        ⟨environment.uuid, formatted⟩,
        .runNow rfl environment.now ⟨environment.uuid, formatted⟩⟩
  | idle | start | done =>
      trivial

/-- The only runs that the route inserts are those of run-now. -/
theorem RunNow.Local.Named.inserted
    {created : InstanceId → Timestamp → Prop}
    {call : RunNow.Local}
    {input : RunNow.Input}
    {document : RunDocument}
    (named : call.Named)
    (issued : RunNow.issue call input = some (.createRun document)) :
    NamedRun created document.runId (documentToRow document) := by
  cases call with
  | inserting prepared =>
      cases input <;> cases issued
      obtain ⟨instanceId, uuid, identifies⟩ := named
      exact .of_other identifies nofun
  | start arguments =>
      cases input with
      | start request =>
          cases issued
      | proceed | raise =>
          simp only [RunNow.issue] at issued
          split at issued <;> cases issued
  | idle | done =>
      cases input <;> cases issued

/-- A re-drive copies a run that is stored under the id of its name. -/
def RunCall.Named : RunCall → Prop
  | .createRun _ => False
  | .redriveRun (.loaded _ run _) =>
      ∃ name : RunName, name.Identifies run.runId
  | _ => True

section RunCalls

variable {created : InstanceId → Timestamp → Prop}
variable {call : RunCall}
variable {input : RunInput}
variable {statement : RunStatement}

/-- The only runs these calls insert are those of re-drives. -/
theorem RunCall.Named.inserted
    {document : RunDocument}
    (named : call.Named)
    (formatted : SchedulerInput.admitted (.inr input) = true)
    (issued : call.issue input = some (.createRun document)) :
    NamedRun created document.runId (documentToRow document) := by
  cases issues_of_issue issued with
  | createRun origin environment =>
      exact named.elim
  | redrive runId run nowIso environment =>
      obtain ⟨name, identifies⟩ := named
      have uuid := (Bool.and_eq_true_iff.mp formatted).1
      exact .of_other
        (.redrive identifies nowIso ⟨environment.uuid, uuid⟩
          environment.secondUuid)
        nofun

/-- A re-drive that goes on has just read its run. -/
theorem RunCall.redriveRun_resumed
    {process : Nat}
    {shared next : RunDatabase}
    {reply : RunReply}
    {runId : String}
    {run : RunDocument}
    {nowIso : Timestamp}
    (issued : call.issue input = some statement)
    (executed : shared.exec process statement = some (next, reply))
    (resumed :
      call.resume input reply = .redriveRun (.loaded runId run nowIso)) :
    ∃ row, shared.row runId = some row ∧ run = rowToDocument runId row := by
  cases input with
  | start request =>
      cases request <;> cases resumed
  | proceed environment =>
      cases call with
      | redriveRun call =>
          cases call with
          | start own =>
              simp only [RunCall.resume, RunCall.resumed,
                RedriveRun.resume] at resumed
              split at resumed
              · cases resumed
              · rename_i present
                simp only [RunCall.issue, RunCall.next, RedriveRun.issue,
                  if_neg present] at issued
                cases issued
                obtain ⟨-, answer⟩ := RunDatabase.exec_getRun executed
                rw [answer] at resumed
                cases found : shared.row own with
                | none =>
                    rw [found] at resumed
                    cases resumed
                | some row =>
                    simp only [found, Option.map_some] at resumed
                    split at resumed
                    · cases resumed
                      exact ⟨row, found, rfl⟩
                    · cases resumed
          | loaded | done =>
              cases resumed
      | _ =>
          cases resumed
  | raise environment =>
      cases call with
      | redriveRun call =>
          cases call <;> cases resumed
      | _ =>
          cases resumed

/-- A creation has been one before, or has just been asked for. -/
theorem RunCall.createRun_resumed
    {reply : RunReply}
    {creation : CreateRun.Local}
    (resumed : call.resume input reply = .createRun creation) :
    (∃ before, call = .createRun before) ∨
      ∃ origin, input = .start (.createRun origin) := by
  cases input with
  | start request =>
      cases request <;> cases resumed
      exact .inr ⟨_, rfl⟩
  | proceed | raise =>
      cases call <;> cases resumed
      exact .inl ⟨_, rfl⟩

theorem RunCall.Named.resume
    {process : Nat}
    {shared next : RunDatabase}
    {reply : RunReply}
    (named : call.Named)
    (formatted : SchedulerInput.admitted (.inr input) = true)
    (rows : shared.database.EveryRow (NamedRun created))
    (issued : call.issue input = some statement)
    (executed : shared.exec process statement = some (next, reply)) :
    (call.resume input reply).Named := by
  generalize resumed : call.resume input reply = after
  cases after with
  | createRun creation =>
      rcases createRun_resumed resumed with ⟨before, rfl⟩ | ⟨origin, rfl⟩
      · exact named.elim
      · cases formatted
  | redriveRun redrive =>
      cases redrive with
      | loaded runId run nowIso =>
          obtain ⟨row, found, rfl⟩ :=
            redriveRun_resumed issued executed resumed
          exact (rows.committed runId row found).identified
      | start | done =>
          trivial
  | _ =>
      trivial

end RunCalls

namespace SchedulerPool

/--
In this step a tick sends `createRunTx` for the run of the firing, which
answers whether the run was created.
-/
def Inserts
    (created : Bool)
    (firing : Tick.Firing)
    (label : Label SchedulerInput)
    (pool _next : SchedulerPool) :
    Prop :=
  ∃ arguments nowIso runDocument rest summary environment after,
    pool.services.locals label.1 =
        .tick (.handling arguments nowIso (.inserting firing runDocument)
          rest summary) ∧
      label.2 = .inl (.inl (.proceed environment)) ∧
      pool.shared.catalog.exec label.1 (.createRunTx runDocument) =
        some (after, .flag created)

/-- Every row is stored under the id of its name, and every call knows it. -/
structure Named
    (created : InstanceId → Timestamp → Prop)
    (pool : SchedulerPool) :
    Prop where
  rows :
    pool.shared.catalog.EveryRow AcceptedInstance (NamedRun created)
  services : ∀ process, (pool.services.locals process).Accepted
  routes : ∀ process, (pool.routes.locals process).Named
  runCalls : ∀ process, (pool.runCalls.locals process).Named

variable {cron : CronParser}
variable {stored : Stored}
variable {pool next : SchedulerPool}
variable {label : Label SchedulerInput}
variable {created created' : InstanceId → Timestamp → Prop}

/-- Every step keeps the names, when what it creates counts as created. -/
theorem Named.step
    (named : pool.Named created)
    (more :
      ∀ instanceId fire,
        created instanceId fire → created' instanceId fire)
    (counted :
      ∀ {firing : Tick.Firing} {instanceId : InstanceId},
        firing.Named instanceId →
        Inserts true firing label pool next →
        created' instanceId firing.scheduledFireTime)
    (stepped : (schedulerSystem cron).step? pool label = some next) :
    next.Named created' := by
  obtain ⟨⟨instances, runs⟩, services, routes, runCalls⟩ := named
  have grown :
      pool.shared.catalog.runs.EveryRow (NamedRun created') :=
    runs.mono fun runId row found => found.mono more
  cases moved_of_step stepped with
  | @service process input taken onRoutes onRunCalls =>
      obtain ⟨statement, reply, issued, executed, -⟩ :=
        CatalogPool.step_moves taken
      have rows :
          next.shared.catalog.EveryRow AcceptedInstance
            (NamedRun created') := by
        refine Catalog.exec_every executed ⟨instances, grown⟩
          ((services process).brings issued ?_)
        intro arguments nowIso firing runDocument rest summary calling
          sent written
        subst sent
        have answered : reply = .flag true := by
          cases reply <;> cases written
          rfl
        subst answered
        have accepted := services process
        rw [calling] at accepted issued
        obtain ⟨⟨⟨instanceId, ofInstance⟩, now, snapshot, rfl⟩, -⟩ :=
          accepted
        refine .of_firing ofInstance (counted ofInstance ?_)
        cases input with
        | proceed environment =>
            exact ⟨arguments, nowIso, _, rest, summary, environment, _,
              calling, rfl, executed⟩
        | start request | raise =>
            cases issued
      refine ⟨rows, ?_, fun other => onRoutes ▸ routes other,
        fun other => onRunCalls ▸ runCalls other⟩
      intro other
      by_cases own : other = process
      · subst own
        exact CatalogPool.accepted_of_step (services _) instances taken
      · rw [System.step?_locals_other taken own]
        exact services other
  | @route process input formatted taken onServices onRunCalls =>
      obtain ⟨statement, reply, issued, executed, resumed⟩ :=
        System.step?_moves taken
      have rows :
          next.shared.catalog.EveryRow AcceptedInstance
            (NamedRun created') := by
        refine ⟨?_, RunNow.exec_every executed grown ?_⟩
        · have kept : next.shared.catalog.instances = _ :=
            (RunNow.exec_frame executed).1
          rw [kept]
          exact instances
        · rintro document rfl
          exact (routes process).inserted issued
      refine ⟨rows, fun other => onServices ▸ services other, ?_,
        fun other => onRunCalls ▸ runCalls other⟩
      intro other
      by_cases own : other = process
      · subst own
        rw [resumed]
        exact RunNow.Local.Named.resume formatted instances issued
          executed
      · rw [System.step?_locals_other taken own]
        exact routes other
  | @runCall process input formatted taken sameInstances onServices
      onRoutes =>
      obtain ⟨statement, reply, issued, executed, resumed⟩ :=
        RunPool.step_moves taken
      have rows :
          next.shared.catalog.EveryRow AcceptedInstance
            (NamedRun created') := by
        refine ⟨sameInstances ▸ instances, ?_⟩
        refine RunDatabase.exec_every executed grown
          (fun write runId row found => found.written write) ?_
        rintro document rfl
        exact (runCalls process).inserted formatted issued
      refine ⟨rows, fun other => onServices ▸ services other,
        fun other => onRoutes ▸ routes other, ?_⟩
      intro other
      by_cases own : other = process
      · subst own
        rw [resumed]
        exact (runCalls other).resume formatted runs issued executed
      · rw [System.step?_locals_other taken own]
        exact runCalls other

/--
The run of this instance and fire time was stored at first, or a tick has
created it along the run.
-/
def Created
    (cron : CronParser)
    (stored : Stored)
    (schedule : List (Label SchedulerInput))
    (instanceId : InstanceId)
    (fire : Timestamp) :
    Prop :=
  (∃ runId row,
    stored.runs.lookup runId = some row ∧
      (RunName.tick instanceId fire).Identifies runId) ∨
    (schedulerSystem cron).Happened (initial stored) schedule
      fun label before after =>
        ∃ firing : Tick.Firing,
          firing.document.instanceId = instanceId.text ∧
            firing.scheduledFireTime = fire ∧
            Inserts true firing label before after

/-- What the tables hold at first has come from the same call sites. -/
structure StoredNamed (stored : Stored) : Prop where
  instances : stored.instances.Every AcceptedInstance
  runs : stored.runs.Every (NamedRun fun _ _ => True)

theorem StoredNamed.initial
    (named : StoredNamed stored) :
    (initial stored).Named (Created cron stored []) where
  rows := by
    refine ⟨.ofTable named.instances, .ofTable ?_⟩
    intro runId row found
    have known := named.runs runId row found
    refine ⟨known.identified, ?_⟩
    intro instanceId fire identifies
    obtain ⟨ofInstance, atFire, -⟩ := known.ofTick identifies
    exact ⟨ofInstance, atFire, .inl ⟨runId, row, found, identifies⟩⟩
  services _ := trivial
  routes _ := trivial
  runCalls _ := trivial

/-- Along every run, every row is stored under the id of its name. -/
theorem named_of_run
    {schedule : List (Label SchedulerInput)}
    (named : StoredNamed stored)
    (ran : run? cron stored schedule = some pool) :
    pool.Named (Created cron stored schedule) := by
  refine System.run?_induction
    (fun earlier visited => Named (Created cron stored earlier) visited)
    named.initial ?_ ran
  intro earlier visited next label ranEarlier known stepped
  refine known.step ?_ ?_ stepped
  · rintro instanceId fire (atFirst | happened)
    · exact .inl atFirst
    · exact .inr (happened.append [label])
  · intro firing instanceId ofInstance inserts
    refine .inr ?_
    rw [System.happened_append_singleton ranEarlier stepped]
    exact .inr ⟨firing, ofInstance.ofInstance, rfl, inserts⟩

/--
The tick of this process sees the run of the firing, and a tick has created it
for the same instance and the same fire time.
-/
structure AlreadyCreated
    (cron : CronParser)
    (stored : Stored)
    (schedule : List (Label SchedulerInput))
    (pool : SchedulerPool)
    (process : Nat)
    (firing : Tick.Firing) :
    Prop where
  seen :
    ∃ transaction run,
      pool.shared.catalog.runs.transactions.lookup process =
          some transaction ∧
        pool.shared.catalog.runs.view transaction firing.runId = some run ∧
        run.instanceId = firing.document.instanceId ∧
        run.scheduledFireTime = firing.scheduledFireTime
  created :
    ∃ instanceId : InstanceId,
      instanceId.text = firing.document.instanceId ∧
        Created cron stored schedule instanceId firing.scheduledFireTime

/-- A tick that drops its run sees that very run. -/
theorem alreadyCreated_of_inserts
    {schedule : List (Label SchedulerInput)}
    {firing : Tick.Firing}
    (named : pool.Named (Created cron stored schedule))
    (dropped : Inserts false firing label pool next) :
    AlreadyCreated cron stored schedule pool label.1 firing := by
  obtain ⟨arguments, nowIso, runDocument, rest, summary, environment, after,
    calling, -, executed⟩ := dropped
  have accepted := named.services label.1
  rw [calling] at accepted
  obtain ⟨⟨⟨instanceId, ofInstance⟩, now, snapshot, rfl⟩, -⟩ := accepted
  obtain ⟨performed, ran, -⟩ := Catalog.exec_eq_some executed
  obtain ⟨⟨database, created⟩, inserted, shape⟩ :=
    Option.map_eq_some_iff.mp ran
  cases shape
  obtain ⟨-, -, transaction, _, opened, -, answer, -⟩ :=
    Database.insertIn?_eq_some inserted
  -- the row in the way is the one that the transaction sees
  obtain ⟨run, seen⟩ :=
    Option.isSome_iff_exists.mp (Option.isNone_eq_false_iff.mp answer.symm)
  obtain ⟨sameInstance, sameFire, counted⟩ :=
    (named.rows.runs.view opened seen).ofTick ofInstance.identifies
  exact ⟨⟨transaction, run, opened, seen,
      sameInstance.trans ofInstance.ofInstance.symm, sameFire⟩,
    ⟨instanceId, ofInstance.ofInstance.symm, counted⟩⟩

/--
Run ids do not collide: instance and fire time can be read back from the id of
a tick's run, every id has one name among ticks, run-now and re-drives, and a
tick drops its run only when a tick has created that very run.
-/
theorem run_ids_do_not_collide
    (cron : CronParser)
    (named : StoredNamed stored) :
    (∀ (instanceId : InstanceId) (fire : Timestamp),
        ∃ runId,
          buildRunId none instanceId.text fire = some runId ∧
            ∀ (other : InstanceId) (fire' : Timestamp),
              buildRunId none other.text fire' = some runId →
              other = instanceId ∧ fire' = fire) ∧
      (∀ {first second : RunName} {runId : String},
        first.Identifies runId →
        second.Identifies runId →
        first = second) ∧
      ∀ {schedule : List (Label SchedulerInput)}
          {pool next : SchedulerPool} {label : Label SchedulerInput}
          {firing : Tick.Firing},
        run? cron stored schedule = some pool →
        (schedulerSystem cron).step? pool label = some next →
        Inserts false firing label pool next →
        AlreadyCreated cron stored schedule pool label.1 firing := by
  refine ⟨buildRunId_unique, ?_, ?_⟩
  · intro first second runId identifies identifies'
    exact identifies.unique identifies' rfl
  · intro schedule pool next label firing ran _ dropped
    exact alreadyCreated_of_inserts (named_of_run named ran) dropped

/-- The firing whose run is in the way of the insert that a tick awaits. -/
def dropped?
    (pool : SchedulerPool)
    (process : Nat) :
    Option Tick.Firing :=
  match pool.services.locals process with
  | .tick (.handling _ _ (.inserting firing runDocument) _ _) =>
      match pool.shared.catalog.exec process (.createRunTx runDocument) with
      | some (_, .flag false) => some firing
      | _ => none
  | _ => none

theorem inserts_of_dropped?
    {process : Nat}
    {firing : Tick.Firing}
    (dropped : pool.dropped? process = some firing)
    (environment : CatalogEnvironment) :
    Inserts false firing (process, .inl (.inl (.proceed environment))) pool
      next := by
  unfold dropped? at dropped
  split at dropped
  · rename_i calling
    split at dropped
    · rename_i executed
      cases dropped
      exact ⟨_, _, _, _, _, environment, _, calling, rfl, executed⟩
    · cases dropped
  · cases dropped

/--
Tick 1 fires the instance.  A patch whose clock is behind plans the same fire
time again, and tick 3 claims the instance for it.
-/
def refireHourly : List (Label SchedulerInput) :=
  let tick := CatalogRequest.tick ⟨false, 10, false⟩
  let patch := CatalogRequest.patchInstance "hourly"
    { schedule := some ⟨"cron", "0 * * * *", none⟩ }
  [startCall 1 tick, proceedAt 1 5, proceedAt 1 5, proceedAt 1 5,
    proceedAt 1 5, proceedAt 1 5, proceedAt 1 5, proceedAt 1 5,
    startCall 2 patch, proceedAt 2 (-5), proceedAt 2 (-5),
    startCall 3 tick, proceedAt 3 6, proceedAt 3 6, proceedAt 3 6].map
    fun (process, input) => (process, .inl (.inl input))

/-- The insert of tick 3. -/
def refireStep : Label SchedulerInput :=
  (3, .inl (.inl (.proceed (catalogEnvironmentAt 6))))

/-- Tick 3 drops its run, which tick 1 has created. -/
theorem run_ids_do_not_collide_refireHourly :
    ∃ pool next firing,
      run? hourly storedHourly refireHourly = some pool ∧
        (schedulerSystem hourly).step? pool refireStep = some next ∧
        Inserts false firing refireStep pool next ∧
        firing.runId = "hourly:1970-01-01T00:00:00.000Z" ∧
        AlreadyCreated hourly storedHourly refireHourly pool 3 firing := by
  have outcome :
      (run? hourly storedHourly refireHourly).bind (fun pool =>
          ((schedulerSystem hourly).step? pool refireStep).bind fun _ =>
            (pool.dropped? 3).map Tick.Firing.runId) =
        some "hourly:1970-01-01T00:00:00.000Z" := by
    decide
  have named : StoredNamed storedHourly := by
    refine ⟨?_, .empty⟩
    refine Table.Every.insert .empty ⟨by decide, rfl⟩
  obtain ⟨pool, ran, rest⟩ := Option.bind_eq_some_iff.mp outcome
  obtain ⟨next, stepped, rest⟩ := Option.bind_eq_some_iff.mp rest
  obtain ⟨firing, dropped, runId⟩ := Option.map_eq_some_iff.mp rest
  have inserts : Inserts false firing refireStep pool next :=
    inserts_of_dropped? dropped _
  exact ⟨pool, next, firing, ran, stepped, inserts, runId,
    (run_ids_do_not_collide hourly named).2.2 ran stepped inserts⟩

end SchedulerPool

end IgaScheduler

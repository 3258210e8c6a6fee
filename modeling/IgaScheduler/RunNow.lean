import IgaScheduler.InstanceHistory
import IgaScheduler.SharedPools

namespace IgaScheduler

open Relational Interleaving

/-!
# `POST /job-instances/:instanceId/run-now`

The route reads the instance and inserts a run for it in a second statement.
Its calls work beside those of the services, on the same tables.
-/

/-- The answer to a run-now of an instance that was found deleted. -/
def instanceIsDeleted : ServiceError :=
  .status 409 "instance is deleted"

/-- The answer of a router that was built without a `runStore`. -/
def runStoreNotAvailable : ServiceError :=
  .status 503 "runStore not available"

namespace RunNow

structure Arguments where
  instanceId : String
  /-- The router was built with a `runStore`. -/
  runStore : Bool
  deriving DecidableEq

/-- What the environment supplies to a step of a call. -/
structure Environment where
  /-- `new Date()`. -/
  now : Timestamp
  /-- `randomUUID()`. -/
  uuid : Uuid

/-- The body of the answer. -/
structure Response where
  runId : String
  state : RunState
  instanceId : String
  deriving DecidableEq

inductive Local where
  | idle
  | start (arguments : Arguments)
  | inserting (document : RunDocument)
  | done (outcome : Except ServiceError Response)

/-- What the schedule chooses for a step. -/
inductive Input where
  /-- A request arrives at an idle process. -/
  | start (arguments : Arguments)
  /-- The awaited statement is executed. -/
  | proceed (environment : Environment)
  /-- The awaited statement throws without effect. -/
  | raise

inductive Statement where
  /-- A step that touches no store. -/
  | skip
  | getInstance (instanceId : String)
  | createRun (document : RunDocument)

/-- What a statement answers. -/
inductive Reply where
  | done
  | jobInstance (found : Option InstanceDocument)
  | created (value : Bool)

/-- The instance a `SELECT` found. -/
def Reply.jobInstance? : Reply → Option InstanceDocument
  | .jobInstance found => found
  | _ => none

def issue : Local → Input → Option Statement
  | .idle, .start _ => some .skip
  | .start arguments, .proceed _ =>
      if arguments.runStore then
        some (.getInstance arguments.instanceId)
      else
        some .skip
  | .start arguments, .raise =>
      if arguments.runStore then some .skip else none
  | .inserting document, .proceed _ => some (.createRun document)
  | .inserting _, .raise => some .skip
  | _, _ => none

/-- What the route makes of the instance it has read. -/
def onInstance (environment : Environment) : Option InstanceDocument → Local
  | none => .done (.error instanceNotFound)
  | some existing =>
      if existing.state = .deleted then
        .done (.error instanceIsDeleted)
      else
        .inserting
          (runNowDocument existing environment.now environment.uuid)

def resume : Local → Input → Reply → Local
  | .idle, .start arguments, _ => .start arguments
  | .start arguments, .proceed environment, reply =>
      if arguments.runStore then
        onInstance environment reply.jobInstance?
      else
        .done (.error runStoreNotAvailable)
  | .inserting document, .proceed _, _ =>
      .done (.ok ⟨document.runId, .queued, document.instanceId⟩)
  | .start _, .raise, _ => .done (.error .raised)
  | .inserting _, .raise, _ => .done (.error .raised)
  | call, _, _ => call

/-- Execute a statement; `none` while it has to wait for a lock. -/
def exec
    (statement : Statement)
    (catalog : Catalog) :
    Option (Catalog × Reply) :=
  match statement with
  | .skip => some (catalog, .done)
  | .getInstance instanceId =>
      some (catalog,
        .jobInstance ((catalog.jobInstance instanceId).map
          (instanceDocument instanceId)))
  | .createRun document =>
      (catalog.runs.insert? document.runId
          (documentToRow document)).map
        fun (runs, created) =>
          ({ catalog with runs := runs }, .created created)

/-- The calls of the route. -/
def system : System Catalog Local Input Statement Reply where
  issue := issue
  resume := resume
  exec _ _ statement catalog := exec statement catalog

/-! ## What a statement of the route can do -/

variable {statement : Statement}
variable {catalog next : Catalog}
variable {reply : Reply}

/-- How a statement can leave the committed row of a run. -/
inductive RunEffect
    (catalog : Catalog)
    (runId : String) :
    Statement →
      Option JobRun →
      Prop where
  | kept
      (statement : Statement) :
      RunEffect catalog runId statement (catalog.run runId)
  | created
      (document : RunDocument)
      (sameRun : document.runId = runId)
      (absent : catalog.run runId = none) :
      RunEffect catalog runId (.createRun document)
        (some (documentToRow document))

/-- The route writes runs only, and only new ones. -/
theorem exec_runEffect
    (executed : exec statement catalog = some (next, reply))
    (runId : String) :
    RunEffect catalog runId statement (next.run runId) := by
  cases statement with
  | skip | getInstance =>
      cases executed
      exact .kept _
  | createRun document =>
      obtain ⟨⟨runs, created⟩, inserted, shape⟩ :=
        Option.map_eq_some_iff.mp executed
      cases shape
      obtain ⟨-, -, rows⟩ := Database.insert?_eq_some inserted
      change RunEffect catalog runId _ (runs.committed.lookup runId)
      rw [rows]
      split
      · rename_i sameRun
        subst sameRun
        cases absent : catalog.runs.committed.lookup document.runId with
        | none =>
            exact .created document rfl absent
        | some row =>
            rw [Option.getD_some, ← absent]
            exact .kept _
      · exact .kept _

/-- The route leaves the instances and every transaction alone. -/
theorem exec_frame
    (executed : exec statement catalog = some (next, reply)) :
    next.instances = catalog.instances ∧
      next.runs.transactions = catalog.runs.transactions := by
  cases statement with
  | skip | getInstance =>
      cases executed
      exact ⟨rfl, rfl⟩
  | createRun document =>
      obtain ⟨⟨runs, created⟩, inserted, shape⟩ :=
        Option.map_eq_some_iff.mp executed
      cases shape
      exact ⟨rfl, (Database.insert?_eq_some inserted).2.1⟩

/-- A run that is about to be inserted is one of the live instance just read. -/
theorem resume_inserting
    {call : Local}
    {input : Input}
    {document : RunDocument}
    (issued : issue call input = some statement)
    (executed : exec statement catalog = some (next, reply))
    (resumed : resume call input reply = .inserting document) :
    ∃ arguments environment row,
      call = .start arguments ∧
        input = .proceed environment ∧
        catalog.jobInstance arguments.instanceId = some row ∧
        row.state ≠ .deleted ∧
        document =
          runNowDocument (instanceDocument arguments.instanceId row)
            environment.now environment.uuid := by
  cases call with
  | start arguments =>
      cases input with
      | start | raise =>
          cases resumed
      | proceed environment =>
          simp only [issue] at issued
          simp only [resume] at resumed
          split at issued
          · cases issued
            cases executed
            rw [if_pos ‹_›] at resumed
            cases found : catalog.jobInstance arguments.instanceId with
            | none =>
                rw [found] at resumed
                cases resumed
            | some row =>
                simp only [found, Reply.jobInstance?, Option.map_some,
                  onInstance] at resumed
                split at resumed
                · cases resumed
                · rename_i live
                  cases resumed
                  exact ⟨arguments, environment, row, rfl, rfl, found, live,
                    rfl⟩
          · rw [if_neg ‹_›] at resumed
            cases resumed
  | inserting document =>
      cases input with
      | start =>
          cases issued
      | proceed | raise =>
          cases resumed
  | idle | done =>
      cases input <;> cases resumed

/-- What a tick relies on is kept by the route. -/
theorem exec_keeps
    (executed : exec statement catalog = some (next, reply))
    (locked : List String) :
    Catalog.Keeps locked catalog next := by
  refine ⟨fun instanceId _ => ?_, fun runId present => ?_⟩
  · rw [Catalog.jobInstance, (exec_frame executed).1, Catalog.jobInstance]
  · have effect := exec_runEffect executed runId
    generalize next.run runId = after at effect ⊢
    cases effect with
    | kept =>
        exact present
    | created =>
        rfl

end RunNow

/-! ## The services and the route side by side -/

/-- The calls of the services and of run-now on one catalog. -/
def backendSystem (cron : CronParser) :=
  (catalogSystem cron).beside RunNow.system

/-- The stores, and for every process its two calls. -/
abbrev BackendPool := Pool Catalog (CatalogCall × RunNow.Local)

/-- What the schedule chooses for a step of the backend. -/
abbrev BackendInput := CatalogInput ⊕ RunNow.Input

namespace BackendPool

/-- No call has been started yet. -/
def initial (stored : Stored) : BackendPool where
  shared := (CatalogPool.initial stored).shared
  locals _ := (.idle, .idle)

/-- The run of a schedule from the stored documents and rows. -/
abbrev run?
    (cron : CronParser)
    (stored : Stored)
    (schedule : List (Label BackendInput)) :
    Option BackendPool :=
  (backendSystem cron).run? (initial stored) schedule

variable {cron : CronParser}
variable {stored : Stored}
variable {pool next : BackendPool}
variable {label : Label BackendInput}
variable {schedule : List (Label BackendInput)}

/-- A step of the backend is one of a service call or one of run-now. -/
theorem step_cases
    (stepped : (backendSystem cron).step? pool label = some next) :
    (∃ input,
      label.2 = .inl input ∧
        (catalogSystem cron).step? pool.first (label.1, input) =
          some next.first) ∨
      ∃ input statement reply,
        label.2 = .inr input ∧
          RunNow.issue (pool.second.locals label.1) input =
            some statement ∧
          RunNow.exec statement pool.shared = some (next.shared, reply) ∧
          next.first.locals = pool.first.locals := by
  rcases System.step?_beside stepped with
    ⟨input, shape, own, -⟩ | ⟨input, shape, own, rests⟩
  · exact .inl ⟨input, shape, own⟩
  · obtain ⟨statement, reply, issued, executed, -⟩ :=
      System.step?_moves own
    exact .inr ⟨input, statement, reply, shape, issued, executed, rests⟩

/-- Beside run-now, edits and ticks know what they know without it. -/
theorem edits_and_ticks
    (ran : run? cron stored schedule = some pool) :
    CatalogPool.EditsRewritten cron pool.first ∧
      CatalogPool.TicksHold cron pool.first := by
  refine System.run?_first_invariant
    (fun services =>
      CatalogPool.EditsRewritten cron services ∧
        CatalogPool.TicksHold cron services)
    ⟨?_, ?_⟩ ?_ ?_ ran
  · intro process instanceId operation read row calling
    cases calling
  · intro process call calling
    cases calling
  · rintro visited after label ⟨edits, ticks⟩ stepped
    exact ⟨CatalogPool.EditsRewritten.step edits stepped,
      CatalogPool.TicksHold.step ticks stepped⟩
  · rintro process input statement visited after reply ⟨edits, ticks⟩
      executed rests
    refine ⟨?_, ?_⟩
    · intro process instanceId operation read row calling
      rw [rests] at calling
      exact edits calling
    · intro process call calling
      rw [rests] at calling
      obtain ⟨instances, runs⟩ := RunNow.exec_frame executed
      exact (ticks calling).keeps (by rw [instances]) (by rw [runs])
        fun _ => RunNow.exec_keeps executed _

end BackendPool

end IgaScheduler

import IgaScheduler.RunNames
import IgaScheduler.RunNow
import IgaScheduler.RunSystem

namespace IgaScheduler

open Relational Interleaving

/-!
# The scheduler as a whole

The services of the catalog with their ticks, run-now, and everything else that
happens to `job_runs`, re-drives among it, on one set of stores.  New runs come
from ticks, run-now and re-drives only, and `randomUUID()` returns texts in the
format of a UUID.
-/

/-- The stores, with the ghost log and the dispatch identifiers in use. -/
structure SchedulerState where
  catalog : Catalog
  log : List (Nat × RunEvent)
  minted : List String

namespace SchedulerState

/-- What the services of the catalog and run-now work on. -/
def catalogPart : Part SchedulerState Catalog where
  get := SchedulerState.catalog
  set catalog state := { state with catalog := catalog }
  get_set _ _ := rfl

/-- What everything else works on. -/
def runPart : Part SchedulerState RunDatabase where
  get state := ⟨state.catalog.runs, state.log, state.minted⟩
  set shared state := {
    catalog := { state.catalog with runs := shared.database }
    log := shared.log
    minted := shared.minted
  }
  get_set _ _ := rfl

end SchedulerState

/-- Both values of `randomUUID()` that a step may use. -/
def Environment.formatted (environment : Environment) : Bool :=
  isUuid environment.uuid.text && isUuid environment.secondUuid.text

/-- What the schedule chooses for a step of the scheduler. -/
abbrev SchedulerInput := BackendInput ⊕ RunInput

/--
Ticks and run-now insert their runs by statements of their own, so no other
call stands for them.
-/
def SchedulerInput.admitted : SchedulerInput → Bool
  | .inl (.inr (.proceed environment)) => isUuid environment.uuid.text
  | .inr (.start (.createRun _)) => false
  | .inr (.proceed environment) => environment.formatted
  | .inr (.raise environment) => environment.formatted
  | _ => true

/-- All calls on all stores. -/
def schedulerSystem (cron : CronParser) :=
  (((backendSystem cron).onPart SchedulerState.catalogPart).beside
    (runSystem.onPart SchedulerState.runPart)).restrict
      SchedulerInput.admitted

/-- The stores, and for every process its three calls. -/
abbrev SchedulerPool :=
  Pool SchedulerState ((CatalogCall × RunNow.Local) × RunCall)

namespace SchedulerPool

/-- No call has been started yet. -/
def initial (stored : Stored) : SchedulerPool where
  shared := {
    catalog := (CatalogPool.initial stored).shared
    log := []
    minted := stored.runs.entries.filterMap fun entry => entry.2.dispatchId
  }
  locals _ := ((.idle, .idle), .idle)

/-- The run of a schedule from the stored documents and rows. -/
abbrev run?
    (cron : CronParser)
    (stored : Stored)
    (schedule : List (Label SchedulerInput)) :
    Option SchedulerPool :=
  (schedulerSystem cron).run? (initial stored) schedule

/-- The services of the catalog. -/
def services (pool : SchedulerPool) : CatalogPool where
  shared := pool.shared.catalog
  locals process := (pool.locals process).1.1

/-- The calls of run-now. -/
def routes (pool : SchedulerPool) : Pool Catalog RunNow.Local where
  shared := pool.shared.catalog
  locals process := (pool.locals process).1.2

/-- The calls on runs. -/
def runCalls (pool : SchedulerPool) : RunPool where
  shared := SchedulerState.runPart.get pool.shared
  locals process := (pool.locals process).2

/-- Whose step it was, and what it has left alone. -/
inductive Moved
    (cron : CronParser)
    (pool next : SchedulerPool) :
    Label SchedulerInput →
      Prop where
  | service
      {process : Nat}
      {input : CatalogInput}
      (stepped :
        (catalogSystem cron).step? pool.services (process, input) =
          some next.services)
      (routes : next.routes.locals = pool.routes.locals)
      (runCalls : next.runCalls.locals = pool.runCalls.locals) :
      Moved cron pool next (process, .inl (.inl input))
  | route
      {process : Nat}
      {input : RunNow.Input}
      (formatted :
        SchedulerInput.admitted (.inl (.inr input)) = true)
      (stepped :
        RunNow.system.step? pool.routes (process, input) =
          some next.routes)
      (services : next.services.locals = pool.services.locals)
      (runCalls : next.runCalls.locals = pool.runCalls.locals) :
      Moved cron pool next (process, .inl (.inr input))
  | runCall
      {process : Nat}
      {input : RunInput}
      (formatted : SchedulerInput.admitted (.inr input) = true)
      (stepped :
        runSystem.step? pool.runCalls (process, input) =
          some next.runCalls)
      (instances :
        next.shared.catalog.instances = pool.shared.catalog.instances)
      (services : next.services.locals = pool.services.locals)
      (routes : next.routes.locals = pool.routes.locals) :
      Moved cron pool next (process, .inr input)

/-- A step of the scheduler is one of a service, of run-now or on a run. -/
theorem moved_of_step
    {cron : CronParser}
    {pool next : SchedulerPool}
    {label : Label SchedulerInput}
    (stepped : (schedulerSystem cron).step? pool label = some next) :
    Moved cron pool next label := by
  obtain ⟨admitted, taken⟩ := System.step?_restrict stepped
  rcases label with ⟨process, input⟩
  rcases System.step?_beside taken with
    ⟨backendInput, shape, own, rests⟩ | ⟨runInput, shape, own, rests⟩
  · cases shape
    have onRuns : next.runCalls.locals = pool.runCalls.locals := rests
    obtain ⟨onCatalog, -⟩ := System.step?_onPart own
    rcases System.step?_beside onCatalog with
      ⟨serviceInput, shape, moved, rests⟩ |
        ⟨routeInput, shape, moved, rests⟩
    · cases shape
      exact .service moved rests onRuns
    · cases shape
      exact .route admitted moved rests onRuns
  · cases shape
    obtain ⟨moved, frame⟩ := System.step?_onPart own
    have calls : ∀ process, (next.locals process).1 = (pool.locals process).1 :=
      fun process => congrFun rests process
    refine .runCall admitted moved ?_ ?_ ?_
    · have state : next.shared = _ := frame
      rw [state]
      rfl
    · funext process
      exact congrArg Prod.fst (calls process)
    · funext process
      exact congrArg Prod.snd (calls process)

end SchedulerPool

end IgaScheduler

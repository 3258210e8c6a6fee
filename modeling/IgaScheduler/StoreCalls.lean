import IgaScheduler.RunSystem
import IgaScheduler.SharedPools

namespace IgaScheduler

open Relational Interleaving

/-!
# Calls of `RunStore` that no claim stands behind

The services write outcomes and heartbeats for a claim they hold, and only the
sweeper calls `markCancelled`.  The store asks for neither: its writes take any
run, their `dispatchId` is optional, and `markCancelled` has no fence.  Here
such calls come from anywhere, beside the services and at any time.
-/

namespace StoreCalls

/-- A call of one of the writes, with its arguments. -/
inductive Request where
  | recordRuntimeExecution
      (runId : String)
      (runtimeExecution : Option Json)
      (startedAt : Timestamp)
      (status : Option Json)
      (dispatchId : Option String)
  | markSucceeded
      (runId : String)
      (endedAt : Timestamp)
      (result status : Option Json)
      (dispatchId : Option String)
  | markFailed
      (runId : String)
      (endedAt : Timestamp)
      (error status : Option Json)
      (dispatchId : Option String)
  | touchHeartbeat
      (runId : String)
      (dispatchId : Option String)
      (heartbeatAt : Timestamp)
  | markCancelled
      (runId : String)
      (endedAt : Timestamp)
      (error status : Option Json)

/-- The statement of a call. -/
def Request.statement : Request → RunStatement
  | .recordRuntimeExecution runId runtimeExecution startedAt status
      dispatchId =>
      .update runId
        (.recordRuntimeExecution runtimeExecution startedAt status
          dispatchId)
  | .markSucceeded runId endedAt result status dispatchId =>
      .update runId (.markSucceeded endedAt result status dispatchId)
  | .markFailed runId endedAt error status dispatchId =>
      .update runId (.markFailed endedAt error status dispatchId)
  | .touchHeartbeat runId (some dispatchId) heartbeatAt =>
      .update runId (.touchHeartbeat dispatchId heartbeatAt)
  -- `dispatch_id = NULL` is true of no row
  | .touchHeartbeat _ none _ => .skip
  | .markCancelled runId endedAt error status =>
      .update runId (.markCancelled endedAt error status)

inductive Local where
  | idle
  | called (request : Request)
  /-- `touchHeartbeat` returns the state, the other writes whether one exists. -/
  | done (outcome : Except CallError (Option RunState))

/-- What the schedule chooses for a step. -/
inductive Input where
  /-- Start a call on an idle process. -/
  | start (request : Request)
  /-- The awaited statement is executed. -/
  | proceed
  /-- The awaited statement throws without effect. -/
  | raise

def issue : Local → Input → Option RunStatement
  | .idle, .start _ => some .skip
  | .called request, .proceed => some request.statement
  | .called _, .raise => some .skip
  | _, _ => none

def resume : Local → Input → RunReply → Local
  | .idle, .start request, _ => .called request
  | .called _, .proceed, reply =>
      .done (.ok (reply.found?.map fun written => written.state))
  | .called _, .raise, _ => .done (.error .raised)
  | call, _, _ => call

/-- The calls of the store on `job_runs`. -/
def system :
    System RunDatabase Local Input RunStatement RunReply where
  issue := issue
  resume := resume
  exec process _ statement shared := shared.exec process statement

/-- A call of the store inserts no run. -/
theorem issue_ne_createRun
    {call : Local}
    {input : Input}
    {document : RunDocument}
    (issued : issue call input = some (.createRun document)) :
    False := by
  cases call with
  | idle | done =>
      cases input <;> cases issued
  | called request =>
      cases input with
      | start | raise =>
          cases issued
      | proceed =>
          cases request with
          | touchHeartbeat runId dispatchId heartbeatAt =>
              cases dispatchId <;> cases issued
          | _ =>
              cases issued

/-- Only a call of `markCancelled` itself issues its statement. -/
theorem markCancelled_of_issue
    {call : Local}
    {input : Input}
    {runId : String}
    {endedAt : Timestamp}
    {error status : Option Json}
    (issued :
      issue call input =
        some (.update runId (.markCancelled endedAt error status))) :
    call = .called (.markCancelled runId endedAt error status) ∧
      input = .proceed := by
  cases call with
  | idle | done =>
      cases input <;> cases issued
  | called request =>
      cases input with
      | start | raise =>
          cases issued
      | proceed =>
          cases request with
          | touchHeartbeat runId dispatchId heartbeatAt =>
              cases dispatchId <;> cases issued
          | markCancelled =>
              cases issued
              exact ⟨rfl, rfl⟩
          | _ =>
              cases issued

end StoreCalls

/-- The services on `job_runs` and the calls of the store. -/
def storeSystem :=
  runSystem.beside StoreCalls.system

/-- `job_runs` and, for every process, its two calls. -/
abbrev StorePool := Pool RunDatabase (RunCall × StoreCalls.Local)

/-- What the schedule chooses for a step. -/
abbrev StoreStep := Label (RunInput ⊕ StoreCalls.Input)

namespace StorePool

/-- No call has been started on the stored rows yet. -/
def initial (rows : JobRuns) : StorePool where
  shared := (RunPool.initial rows).shared
  locals _ := (.idle, .idle)

/-- A pool that some schedule leads to from the stored rows. -/
def Reachable
    (rows : JobRuns)
    (pool : StorePool) :
    Prop :=
  ∃ schedule,
    storeSystem.run? (StorePool.initial rows) schedule = some pool

/-- The part of a step that belongs to the services, or to the store's calls. -/
inductive Moves
    (pool next : StorePool)
    (label : StoreStep)
    (statement : RunStatement)
    (reply : RunReply) :
    Prop where
  | service
      (input : RunInput)
      (chosen : label.2 = .inl input)
      (issued : (pool.locals label.1).1.issue input = some statement)
      (resumed :
        (next.locals label.1).1 =
          (pool.locals label.1).1.resume input reply)
      (others :
        ∀ process, process ≠ label.1 →
          (next.locals process).1 = (pool.locals process).1)
  | store
      (input : StoreCalls.Input)
      (chosen : label.2 = .inr input)
      (issued :
        StoreCalls.issue (pool.locals label.1).2 input = some statement)
      (rests :
        ∀ process, (next.locals process).1 = (pool.locals process).1)

/-- Every step of either part executes one statement on the shared rows. -/
theorem step_moves
    {pool next : StorePool}
    {label : StoreStep}
    (stepped : storeSystem.step? pool label = some next) :
    ∃ statement reply,
      pool.shared.exec label.1 statement = some (next.shared, reply) ∧
        Moves pool next label statement reply := by
  rcases System.step?_beside stepped with
    ⟨input, chosen, own, -⟩ | ⟨input, chosen, own, rests⟩
  · obtain ⟨statement, reply, issued, executed, resumed⟩ :=
      System.step?_moves own
    refine ⟨statement, reply, executed,
      .service input chosen issued resumed ?_⟩
    intro process other
    exact System.step?_locals_other own other
  · obtain ⟨statement, reply, issued, executed, -⟩ :=
      System.step?_moves own
    exact ⟨statement, reply, executed,
      .store input chosen issued (congrFun rests)⟩

/-- A property of the shared state kept by every statement holds throughout. -/
theorem Reachable.shared_invariant
    {rows : JobRuns}
    {pool : StorePool}
    (invariant : RunDatabase → Prop)
    (reachable : Reachable rows pool)
    (atStart : invariant (StorePool.initial rows).shared)
    (preserved :
      ∀ {process : Nat} {statement : RunStatement}
        {shared next : RunDatabase} {reply : RunReply},
        invariant shared →
        shared.exec process statement = some (next, reply) →
        invariant next) :
    invariant pool.shared := by
  obtain ⟨schedule, ran⟩ := reachable
  refine System.run?_invariant (fun visited => invariant visited.shared)
    atStart ?_ ran
  intro visited next label holds stepped
  obtain ⟨statement, reply, executed, -⟩ := step_moves stepped
  exact preserved holds executed

theorem Reachable.step
    {rows : JobRuns}
    {pool next : StorePool}
    {label : StoreStep}
    (reachable : Reachable rows pool)
    (stepped : storeSystem.step? pool label = some next) :
    Reachable rows next := by
  obtain ⟨schedule, ran⟩ := reachable
  exact ⟨schedule ++ [label],
    System.run?_append_eq_some.mpr
      ⟨pool, ran, System.run?_singleton.trans stepped⟩⟩

end StorePool

/-- A schedule of the services alone. -/
def servicesOnly (schedule : List (Label RunInput)) : List StoreStep :=
  schedule.map fun (process, input) => (process, .inl input)

/-- A process calls the store, and the statement is executed. -/
def callStore
    (process : Nat)
    (request : StoreCalls.Request) :
    List StoreStep :=
  [(process, .inr (.start request)), (process, .inr .proceed)]

end IgaScheduler

import IgaScheduler.IgaProxy
import IgaScheduler.RunHistory
import IgaScheduler.RunSystem

namespace IgaScheduler

open Interleaving

/-!
# Job subprocesses and the proxy

The calls on `job_runs` together with the subprocesses they spawn and the
proxy requests these send.  A subprocess holds the pair it was spawned with;
it may name any run and show any identifier, but it can neither guess one that
`randomUUID()` has returned to somebody else nor one still to be returned.
-/

/-- `IGA_SCHEDULER_RUN_ID` and `IGA_SCHEDULER_DISPATCH_ID` of a subprocess. -/
structure JobSubprocess where
  runId : String
  dispatchId : String
  deriving DecidableEq, Repr

/-- The identifier a request shows, if it shows a string at all. -/
def shownDispatchId : Option Json → Option String
  | some (.str dispatchId) => some dispatchId
  | _ => none

/-- What the server process works on: one of the two kinds of call. -/
inductive ProxyParty where
  | runCall (call : RunCall)
  | proxyCall (sender : JobSubprocess) (call : IgaProxyCall.Local)

/-- What the schedule chooses for a step. -/
inductive ProxyInput where
  | run (input : RunInput)
  /-- `runtimeExecutor.execute` starts the job. -/
  | spawn
  /-- A subprocess sends a request, which an idle process receives. -/
  | receive (sender : JobSubprocess) (request : IgaRequest)
  | proceed (environment : IgaProxyCall.Environment)
  /-- The awaited `getRun` throws. -/
  | raise

/-- `job_runs`, the subprocesses spawned so far and what the proxy has done. -/
structure ProxyShared where
  runs : RunDatabase
  subprocesses : List JobSubprocess
  shown : List String
  effects : List (Nat × IgaEffect)

inductive ProxyStatement where
  | run (statement : RunStatement)
  | spawn (subprocess : JobSubprocess)
  | receive (sender : JobSubprocess) (request : IgaRequest)
  | perform (effect : Option IgaEffect)

namespace ProxyShared

/-- A new identifier is none that a subprocess has made up before. -/
def exec
    (process : Nat)
    (shared : ProxyShared) :
    ProxyStatement →
      Option (ProxyShared × RunReply)
  | .run statement =>
      if ∀ id ∈ statement.minted, id ∉ shared.shown then
        (shared.runs.exec process statement).map fun (runs, reply) =>
          ({ shared with runs := runs }, reply)
      else
        none
  | .spawn subprocess =>
      some ({ shared with
        subprocesses := subprocess :: shared.subprocesses }, .done)
  | .receive sender request =>
      if sender ∈ shared.subprocesses ∧
          ∀ id ∈ shownDispatchId request.dispatchId,
            id = sender.dispatchId ∨ id ∉ shared.runs.minted then
        some ({ shared with
          shown :=
            (shownDispatchId request.dispatchId).toList ++ shared.shown },
          .done)
      else
        none
  | .perform effect =>
      some ({ shared with
        effects :=
          effect.toList.map (fun done => (process, done)) ++
            shared.effects }, .done)

/-- A statement on `job_runs` changes nothing else. -/
theorem exec_run
    {process : Nat}
    {statement : RunStatement}
    {shared next : ProxyShared}
    {reply : RunReply}
    (executed :
      shared.exec process (.run statement) = some (next, reply)) :
    (∀ id ∈ statement.minted, id ∉ shared.shown) ∧
      shared.runs.exec process statement = some (next.runs, reply) ∧
      next = { shared with runs := next.runs } := by
  simp only [exec] at executed
  split at executed
  · rename_i unshown
    obtain ⟨⟨runs, answer⟩, ran, shape⟩ :=
      Option.map_eq_some_iff.mp executed
    cases shape
    exact ⟨unshown, ran, rfl⟩
  · cases executed

theorem exec_receive
    {process : Nat}
    {sender : JobSubprocess}
    {request : IgaRequest}
    {shared next : ProxyShared}
    {reply : RunReply}
    (executed :
      shared.exec process (.receive sender request) = some (next, reply)) :
    sender ∈ shared.subprocesses ∧
      (∀ id ∈ shownDispatchId request.dispatchId,
        id = sender.dispatchId ∨ id ∉ shared.runs.minted) ∧
      next = { shared with
        shown :=
          (shownDispatchId request.dispatchId).toList ++ shared.shown } := by
  simp only [exec] at executed
  split at executed
  · rename_i admitted
    cases executed
    exact ⟨admitted.1, admitted.2, rfl⟩
  · cases executed

end ProxyShared

namespace ProxyParty

def issue
    (service : RuntimeIgaProxyService) :
    ProxyParty →
      ProxyInput →
      Option ProxyStatement
  | .runCall call, .run input => (call.issue input).map .run
  | .runCall (.executeClaimedRun (.preparing run .execute)), .spawn =>
      run.dispatchId.map fun dispatchId => .spawn ⟨run.runId, dispatchId⟩
  | .runCall .idle, .receive sender request =>
      some (.receive sender request)
  | .proxyCall _ (.reading request), .proceed _ =>
      some (.run (.getRun request.runId))
  | .proxyCall _ (.reading _), .raise => some (.run .skip)
  | .proxyCall _ (.done _), _ => none
  | .proxyCall _ call, .proceed environment =>
      some (.perform (IgaProxyCall.effect service call environment))
  | _, _ => none

def resume
    (service : RuntimeIgaProxyService) :
    ProxyParty →
      ProxyInput →
      RunReply →
      ProxyParty
  | .runCall call, .run input, reply => .runCall (call.resume input reply)
  | .runCall _, .receive sender request, _ =>
      .proxyCall sender (IgaProxyCall.receive service request)
  | .proxyCall sender call, .proceed environment, reply =>
      .proxyCall sender
        (IgaProxyCall.advance service reply.found? call environment)
  | .proxyCall sender _, .raise, _ =>
      .proxyCall sender (.done (.error .raised))
  | party, _, _ => party

/-- The call on `job_runs` a process works on. -/
def run : ProxyParty → RunCall
  | .runCall call => call
  | .proxyCall _ _ => .idle

/-- Only an execution that has reached the job spawns its subprocess. -/
theorem spawn_issued
    {service : RuntimeIgaProxyService}
    {call : RunCall}
    {statement : ProxyStatement}
    (issued :
      issue service (.runCall call) .spawn = some statement) :
    ∃ run dispatchId,
      call = .executeClaimedRun (.preparing run .execute) ∧
        run.dispatchId = some dispatchId ∧
        statement = .spawn ⟨run.runId, dispatchId⟩ := by
  cases call with
  | executeClaimedRun call =>
      cases call with
      | preparing run stage =>
          cases stage with
          | execute =>
              obtain ⟨dispatchId, bears, rfl⟩ :=
                Option.map_eq_some_iff.mp issued
              exact ⟨run, dispatchId, rfl, bears, rfl⟩
          | _ =>
              cases issued
      | _ =>
          cases issued
  | _ =>
      cases issued

/-- Only an idle process receives a request. -/
theorem receive_issued
    {service : RuntimeIgaProxyService}
    {call : RunCall}
    {sender : JobSubprocess}
    {request : IgaRequest}
    {statement : ProxyStatement}
    (issued :
      issue service (.runCall call) (.receive sender request) =
        some statement) :
    call = .idle ∧ statement = .receive sender request := by
  cases call with
  | idle =>
      cases issued
      exact ⟨rfl, rfl⟩
  | _ =>
      cases issued

end ProxyParty

/-- The run services, the subprocesses and the proxy as one system. -/
def proxySystem
    (service : RuntimeIgaProxyService) :
    System ProxyShared ProxyParty ProxyInput ProxyStatement RunReply where
  issue := ProxyParty.issue service
  resume := ProxyParty.resume service
  exec process _ statement shared := shared.exec process statement

abbrev ProxyPool := Pool ProxyShared ProxyParty

/-- Nothing has been started on the stored rows yet. -/
def ProxyPool.initial (rows : JobRuns) : ProxyPool where
  shared := {
    runs := (RunPool.initial rows).shared
    subprocesses := []
    shown := []
    effects := []
  }
  locals _ := .runCall .idle

namespace ProxyPool

variable {service : RuntimeIgaProxyService}

/-- The pool without subprocesses and proxy. -/
def runPool (pool : ProxyPool) : RunPool where
  shared := pool.shared.runs
  locals process := (pool.locals process).run

/-- What one step of the pool consists of. -/
inductive Moved
    (service : RuntimeIgaProxyService)
    (pool next : ProxyPool)
    (label : Label ProxyInput) :
    Prop where
  | run
      (call : RunCall)
      (input : RunInput)
      (statement : RunStatement)
      (reply : RunReply)
      (calling : pool.locals label.1 = .runCall call)
      (issued : call.issue input = some statement)
      (unshown : ∀ id ∈ statement.minted, id ∉ pool.shared.shown)
      (executed :
        pool.shared.runs.exec label.1 statement =
          some (next.shared.runs, reply))
      (same :
        next.shared = { pool.shared with runs := next.shared.runs })
      (resumed :
        next.locals label.1 = .runCall (call.resume input reply))
  | spawn
      (run : RunDocument)
      (dispatchId : String)
      (calling :
        pool.locals label.1 =
          .runCall (.executeClaimedRun (.preparing run .execute)))
      (bears : run.dispatchId = some dispatchId)
      (spawned :
        next.shared = { pool.shared with
          subprocesses :=
            ⟨run.runId, dispatchId⟩ :: pool.shared.subprocesses })
      (resumed : next.locals label.1 = pool.locals label.1)
  | receive
      (sender : JobSubprocess)
      (request : IgaRequest)
      (calling : pool.locals label.1 = .runCall .idle)
      (known : sender ∈ pool.shared.subprocesses)
      (unguessed :
        ∀ id ∈ shownDispatchId request.dispatchId,
          id = sender.dispatchId ∨ id ∉ pool.shared.runs.minted)
      (received :
        next.shared = { pool.shared with
          shown :=
            (shownDispatchId request.dispatchId).toList ++
              pool.shared.shown })
      (resumed :
        next.locals label.1 =
          .proxyCall sender (IgaProxyCall.receive service request))
  | read
      (sender : JobSubprocess)
      (request : CheckedRequest)
      (environment : IgaProxyCall.Environment)
      (chosen : label.2 = .proceed environment)
      (calling : pool.locals label.1 = .proxyCall sender (.reading request))
      (same : next.shared = pool.shared)
      (resumed :
        next.locals label.1 =
          .proxyCall sender (IgaProxyCall.loaded request
            ((pool.shared.runs.row request.runId).map
              (rowToDocument request.runId))))
  | raised
      (sender : JobSubprocess)
      (request : CheckedRequest)
      (chosen : label.2 = .raise)
      (calling : pool.locals label.1 = .proxyCall sender (.reading request))
      (same : next.shared = pool.shared)
      (resumed :
        next.locals label.1 = .proxyCall sender (.done (.error .raised)))
  | perform
      (sender : JobSubprocess)
      (call : IgaProxyCall.Local)
      (environment : IgaProxyCall.Environment)
      (calling : pool.locals label.1 = .proxyCall sender call)
      (notReading : ∀ request, call ≠ .reading request)
      (notDone : ∀ outcome, call ≠ .done outcome)
      (performed :
        next.shared = { pool.shared with
          effects :=
            (IgaProxyCall.effect service call environment).toList.map
              (fun done => (label.1, done)) ++ pool.shared.effects })
      (resumed :
        next.locals label.1 =
          .proxyCall sender
            (IgaProxyCall.advance service none call environment))

/-- Every enabled step is one of those. -/
theorem moved_of_step
    {pool next : ProxyPool}
    {label : Label ProxyInput}
    (stepped : (proxySystem service).step? pool label = some next) :
    Moved service pool next label := by
  obtain ⟨statement, reply, issued, executed, resumed⟩ :=
    System.step?_moves stepped
  rcases label with ⟨process, input⟩
  change ProxyParty.issue service (pool.locals process) input = _ at issued
  change pool.shared.exec process statement = _ at executed
  change next.locals process =
    ProxyParty.resume service (pool.locals process) input reply at resumed
  cases calling : pool.locals process with
  | runCall call =>
      rw [calling] at issued resumed
      cases input with
      | run input =>
          obtain ⟨inner, issuedInner, rfl⟩ :=
            Option.map_eq_some_iff.mp issued
          obtain ⟨unshown, ran, same⟩ := ProxyShared.exec_run executed
          exact .run call input inner reply calling issuedInner unshown
            ran same resumed
      | spawn =>
          obtain ⟨run, dispatchId, rfl, bears, rfl⟩ :=
            ProxyParty.spawn_issued issued
          obtain ⟨spawned, rfl⟩ := Prod.mk.inj (Option.some.inj executed)
          exact .spawn run dispatchId calling bears spawned.symm
            (resumed.trans calling.symm)
      | receive sender request =>
          obtain ⟨rfl, rfl⟩ := ProxyParty.receive_issued issued
          obtain ⟨known, unguessed, received⟩ :=
            ProxyShared.exec_receive executed
          exact .receive sender request calling known unguessed received
            resumed
      | proceed environment =>
          cases call <;> cases issued
      | raise =>
          cases call <;> cases issued
  | proxyCall sender call =>
      rw [calling] at issued resumed
      cases call with
      | reading request =>
          cases input with
          | proceed environment =>
              cases issued
              obtain ⟨-, ran, same⟩ := ProxyShared.exec_run executed
              obtain ⟨unchanged, answer⟩ := RunDatabase.exec_getRun ran
              refine .read sender request environment rfl calling ?_ ?_
              · rw [same, unchanged]
              · rw [resumed, ← answer]
                rfl
          | raise =>
              cases issued
              obtain ⟨same, rfl⟩ := Prod.mk.inj (Option.some.inj executed)
              exact .raised sender request rfl calling same.symm resumed
          | run | spawn | receive =>
              cases issued
      | done outcome =>
          cases input <;> cases issued
      | starting | forwarding | succeeding | failing =>
          cases input with
          | proceed environment =>
              cases issued
              obtain ⟨performed, rfl⟩ :=
                Prod.mk.inj (Option.some.inj executed)
              exact .perform sender _ environment calling
                (fun _ impossible => by cases impossible)
                (fun _ impossible => by cases impossible)
                performed.symm resumed
          | _ =>
              cases issued

/-- The calls on `job_runs` take the steps of their own system. -/
theorem runPool_step
    {pool next : ProxyPool}
    {label : Label ProxyInput}
    (stepped : (proxySystem service).step? pool label = some next) :
    next.runPool = pool.runPool ∨
      ∃ moved, runSystem.step? pool.runPool moved = some next.runPool := by
  have others
      (other : Nat)
      (different : other ≠ label.1) :
      next.locals other = pool.locals other :=
    System.step?_locals_other stepped different
  have unmoved
      (sameRuns : next.shared.runs = pool.shared.runs)
      (sameCall :
        (next.locals label.1).run = (pool.locals label.1).run) :
      next.runPool = pool.runPool := by
    have locals :
        (fun process => (next.locals process).run) =
          fun process => (pool.locals process).run := by
      funext process
      by_cases own : process = label.1
      · rw [own, sameCall]
      · rw [others process own]
    simp only [runPool, sameRuns, locals]
  cases moved_of_step stepped with
  | run call input statement reply calling issued _ executed _ resumed =>
      refine .inr ⟨(label.1, input), System.step?_eq_some.mpr
        ⟨statement, next.shared.runs, reply, ?_, executed, ?_⟩⟩
      · simp only [runPool, calling, ProxyParty.run]
        exact issued
      · have locals :
            (fun process => (next.locals process).run) =
              Function.update (fun process => (pool.locals process).run)
                label.1 (call.resume input reply) := by
          funext process
          by_cases own : process = label.1
          · rw [own, resumed, Function.update_self]
            rfl
          · rw [others process own, Function.update_of_ne own]
        change
          (⟨next.shared.runs, fun process => (next.locals process).run⟩ :
            RunPool) = _
        rw [locals]
        simp only [runPool, calling]
        rfl
  | spawn run dispatchId calling bears spawned resumed =>
      exact .inl (unmoved (by rw [spawned]) (by rw [resumed]))
  | receive sender request calling known unguessed received resumed =>
      exact .inl (unmoved (by rw [received])
        (by rw [resumed, calling]; rfl))
  | read sender request _ _ calling same resumed =>
      exact .inl (unmoved (by rw [same]) (by rw [resumed, calling]; rfl))
  | raised sender request _ calling same resumed =>
      exact .inl (unmoved (by rw [same]) (by rw [resumed, calling]; rfl))
  | perform sender call environment calling _ _ performed resumed =>
      exact .inl (unmoved (by rw [performed])
        (by rw [resumed, calling]; rfl))

/-- What the run services reach beside a proxy they reach without one. -/
theorem runPool_reachable
    {rows : JobRuns}
    {pool : ProxyPool}
    {schedule : List (Label ProxyInput)}
    (ran :
      (proxySystem service).run? (ProxyPool.initial rows) schedule =
        some pool) :
    RunPool.Reachable rows pool.runPool :=
  System.run?_simulates runPool runPool_step ran

end ProxyPool

end IgaScheduler

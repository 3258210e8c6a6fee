import IgaScheduler.RunSystem
import IgaScheduler.StepRuns

namespace IgaScheduler

open Relational Interleaving

/-!
# One pull worker

`createPollLoop` with the `JobRuntimeExecutor` and the `activeExecutions` set
it is given, on top of the calls on `job_runs`.  The calls of this worker are
processes of the run system like everybody else's; what is added here is what
the worker keeps in memory.  The callbacks below run without interruption, as
everything between two `await`s does.
-/

/-- The subprocess of an execution, as the executor's event handlers see it. -/
inductive JobProcess where
  | notSpawned
  | alive
  /-- `close` or `error` has been emitted. -/
  | closed
  deriving DecidableEq, Repr

/-- An execution whose promise `track` has put into `activeExecutions`. -/
structure TrackedExecution where
  /-- The process that runs `executeClaimedRun`. -/
  process : Nat
  runId : String
  dispatchId : String
  job : JobProcess
  /-- `cleanup` has taken the promise out of `activeExecutions` again. -/
  cleaned : Bool
  deriving DecidableEq, Repr

/-- The claim that an execution works for. -/
def TrackedExecution.claim
    (execution : TrackedExecution) :
    String × String :=
  (execution.runId, execution.dispatchId)

/-- A `heartbeatOnce` in progress. -/
structure Heartbeat where
  /-- The entries of its copy of `owned` that are still to be touched. -/
  remaining : List (String × String)
  /-- The run whose `touchHeartbeat` is awaited, and the process of the call. -/
  touching : Option (String × Nat)
  deriving DecidableEq, Repr

/-- How far the `SIGTERM` handler has come. -/
inductive Shutdown where
  | running
  /-- `pollLoop.stop()` has returned; `server.close` has not called back. -/
  | stopped
  /-- `drain` awaits these executions. -/
  | draining (awaited : List Nat)
  /-- `drain` has resolved because they have all settled. -/
  | drained
  /-- `drain` has resolved because `maxDrainMs` have passed. -/
  | expired
  deriving DecidableEq, Repr

structure PullWorker where
  runs : RunPool
  /-- The process of the `claimNextQueued` call that `pollOnce` awaits. -/
  poll : Option Nat
  /-- The processes of all such calls so far, newest first. -/
  polls : List Nat
  owned : Table String String
  /-- Everything that has been tracked, newest first. -/
  executions : List TrackedExecution
  activeByRunId : Table String Nat
  heartbeats : List Heartbeat
  /-- The executions whose process group has been sent `SIGTERM`. -/
  signalled : List Nat
  shutdown : Shutdown

/-- What can happen next. -/
inductive WorkerInput where
  /-- A step of some call on `job_runs`, this worker's calls included. -/
  | statement (label : Label RunInput)
  /-- The poll timer fires. -/
  | poll
      (process : Nat)
      (startedAt : Timestamp)
  /-- `pollOnce` resumes with what its claim has returned. -/
  | track (processes : List Nat)
  /-- `_spawnEntrypoint` spawns the subprocess of an execution. -/
  | spawn (process : Nat)
  /-- The subprocess emits `close` or `error`. -/
  | close (process : Nat)
  /-- The `cleanup` of a settled execution runs. -/
  | cleanup (process : Nat)
  /-- The heartbeat interval elapses. -/
  | heartbeat
  /-- A heartbeat goes on to the next entry of its copy. -/
  | touch
      (index process : Nat)
      (heartbeatAt : Timestamp)
  /-- A heartbeat resumes with the answer of `touchHeartbeat`. -/
  | answer (index : Nat)
  | stop
  | drain
  /-- All executions that `drain` awaits have settled. -/
  | resolve
  /-- The timer of `drain` fires. -/
  | expire

/-- The value of `cancel`. -/
inductive CancelStatus where
  | killed
  | notFound
  deriving DecidableEq, Repr

namespace RunCall

/-- An execution whose promise has settled. -/
def settled : RunCall → Bool
  | .executeClaimedRun (.settled ..) => true
  | _ => false

/-- An execution that awaits `runtimeExecutor.execute`. -/
def executing : RunCall → Bool
  | .executeClaimedRun (.preparing _ .execute) => true
  | _ => false

/-- The pairs that a batch claim has returned; `pollOnce` takes none if it threw. -/
def pollReturn? : RunCall → Option (List (String × String))
  | .claimNextQueued (.done _ (.ok claimed)) => some claimed
  | .claimNextQueued (.done _ (.error _)) => some []
  | _ => none

/-- What `touchHeartbeat` has returned; nothing is done about one that threw. -/
def heartbeatReturn? : RunCall → Option (Option RunState)
  | .fencedWrite (.done (.ok state)) => some state
  | .fencedWrite (.done (.error _)) => some none
  | _ => none

end RunCall

namespace PullWorker

/-- A worker that has just started. -/
def initial (rows : JobRuns) : PullWorker where
  runs := RunPool.initial rows
  poll := none
  polls := []
  owned := ∅
  executions := []
  activeByRunId := ∅
  heartbeats := []
  signalled := []
  shutdown := .running

/-- The tracked execution of a process. -/
def execution?
    (worker : PullWorker)
    (process : Nat) :
    Option TrackedExecution :=
  worker.executions.find? fun execution => execution.process = process

/-- The executions whose promises are in `activeExecutions`. -/
def activeExecutions
    (worker : PullWorker) :
    List TrackedExecution :=
  worker.executions.filter fun execution => !execution.cleaned

def freeSlots
    (maxConcurrency : Nat)
    (worker : PullWorker) :
    Nat :=
  maxConcurrency - worker.activeExecutions.length

/-- Change what is recorded of the execution of a process. -/
def setExecution
    (worker : PullWorker)
    (process : Nat)
    (change : TrackedExecution → TrackedExecution) :
    List TrackedExecution :=
  worker.executions.map fun execution =>
    if execution.process = process then change execution else execution

/-- `execute` returns after `close`, and throws before the spawn or after it. -/
def jobAllows
    (worker : PullWorker)
    (label : Label RunInput) :
    Bool :=
  match worker.execution? label.1 with
  | none => true
  | some execution =>
      if (worker.runs.locals label.1).executing then
        match label.2 with
        | .start _ => true
        | .proceed _ => execution.job = .closed
        | .raise _ => execution.job ≠ .alive
      else
        true

/-- `executor.cancel(runId)`. -/
def cancel
    (worker : PullWorker)
    (runId : String) :
    PullWorker × CancelStatus :=
  match worker.activeByRunId.lookup runId with
  | none => (worker, .notFound)
  | some process =>
      ({ worker with signalled := process :: worker.signalled }, .killed)

/-- One round of the loop in `pollOnce`: start the execution and `track` it. -/
def track
    (worker : PullWorker)
    (claim : (String × String) × Nat) :
    Option PullWorker :=
  (runSystem.step? worker.runs
      (claim.2, .start (.executeClaimedRun claim.1.1 claim.1.2))).map
    fun runs =>
      { worker with
        runs := runs
        owned := worker.owned.insert claim.1.1 claim.1.2
        executions :=
          ⟨claim.2, claim.1.1, claim.1.2, .notSpawned, false⟩ ::
            worker.executions }

/-- One step of the worker or of somebody else; `none` if it cannot happen. -/
def step
    (maxConcurrency : Nat)
    (worker : PullWorker) :
    WorkerInput →
      Option PullWorker
  | .statement label =>
      if worker.jobAllows label then
        (runSystem.step? worker.runs label).map fun runs =>
          { worker with runs := runs }
      else
        none
  | .poll process startedAt =>
      if worker.shutdown = .running ∧ worker.poll = none ∧
          0 < worker.freeSlots maxConcurrency then
        (runSystem.step? worker.runs
            (process, .start (.claimNextQueued
              ⟨worker.freeSlots maxConcurrency, startedAt⟩))).map
          fun runs =>
            { worker with
              runs := runs
              poll := some process
              polls := process :: worker.polls }
      else
        none
  | .track processes =>
      worker.poll.bind fun process =>
        (worker.runs.locals process).pollReturn?.bind fun claimed =>
          if claimed.length = processes.length then
            Stepping.run? track { worker with poll := none }
              (claimed.zip processes)
          else
            none
  | .spawn process =>
      (worker.execution? process).bind fun execution =>
        if (worker.runs.locals process).executing ∧
            execution.job = .notSpawned then
          some { worker with
            activeByRunId :=
              worker.activeByRunId.insert execution.runId process
            executions := worker.setExecution process fun spawned =>
              { spawned with job := .alive } }
        else
          none
  | .close process =>
      (worker.execution? process).bind fun execution =>
        if execution.job = .alive then
          some { worker with
            activeByRunId := worker.activeByRunId.erase execution.runId
            executions := worker.setExecution process fun ended =>
              { ended with job := .closed } }
        else
          none
  | .cleanup process =>
      (worker.execution? process).bind fun execution =>
        if (worker.runs.locals process).settled ∧
            execution.cleaned = false then
          some { worker with
            owned := worker.owned.erase execution.runId
            executions := worker.setExecution process fun settled =>
              { settled with cleaned := true } }
        else
          none
  | .heartbeat =>
      if worker.shutdown = .running then
        some { worker with
          heartbeats :=
            ⟨worker.owned.entries.map fun entry => (entry.1, entry.2),
                none⟩ ::
              worker.heartbeats }
      else
        none
  | .touch index process heartbeatAt =>
      match worker.heartbeats[index]? with
      | some ⟨(runId, dispatchId) :: rest, none⟩ =>
          (runSystem.step? worker.runs
              (process, .start (.fencedWrite
                ⟨runId, dispatchId, .touchHeartbeat heartbeatAt⟩))).map
            fun runs =>
              { worker with
                runs := runs
                heartbeats :=
                  worker.heartbeats.set index
                    ⟨rest, some (runId, process)⟩ }
      | _ => none
  | .answer index =>
      match worker.heartbeats[index]? with
      | some ⟨rest, some (runId, process)⟩ =>
          (worker.runs.locals process).heartbeatReturn?.map fun state =>
            if state = some .cancelling then
              ({ worker with
                heartbeats :=
                  worker.heartbeats.set index ⟨rest, none⟩ }.cancel
                runId).1
            else
              { worker with
                heartbeats := worker.heartbeats.set index ⟨rest, none⟩ }
      | _ => none
  | .stop =>
      if worker.shutdown = .running then
        some { worker with shutdown := .stopped }
      else
        none
  | .drain =>
      if worker.shutdown = .stopped then
        some { worker with
          shutdown :=
            .draining (worker.activeExecutions.map fun execution =>
              execution.process) }
      else
        none
  | .resolve =>
      match worker.shutdown with
      | .draining awaited =>
          if awaited.all fun process =>
              (worker.runs.locals process).settled then
            some { worker with shutdown := .drained }
          else
            none
      | _ => none
  | .expire =>
      match worker.shutdown with
      | .draining awaited =>
          if awaited ≠ [] then
            some { worker with shutdown := .expired }
          else
            none
      | _ => none

/-- Everything one step can do. -/
inductive Move
    (maxConcurrency : Nat)
    (worker : PullWorker) :
    WorkerInput →
      PullWorker →
      Prop where
  | statement
      (label : Label RunInput)
      (runs : RunPool)
      (allowed : worker.jobAllows label = true)
      (stepped : runSystem.step? worker.runs label = some runs) :
      Move maxConcurrency worker (.statement label)
        { worker with runs := runs }
  | poll
      (process : Nat)
      (startedAt : Timestamp)
      (runs : RunPool)
      (running : worker.shutdown = .running)
      (idle : worker.poll = none)
      (stepped :
        runSystem.step? worker.runs
            (process, .start (.claimNextQueued
              ⟨worker.freeSlots maxConcurrency, startedAt⟩)) =
          some runs) :
      Move maxConcurrency worker (.poll process startedAt)
        { worker with
          runs := runs
          poll := some process
          polls := process :: worker.polls }
  | track
      (processes : List Nat)
      (process : Nat)
      (claimed : List (String × String))
      (next : PullWorker)
      (polling : worker.poll = some process)
      (returned :
        (worker.runs.locals process).pollReturn? = some claimed)
      (aligned : claimed.length = processes.length)
      (tracked :
        Stepping.run? PullWorker.track { worker with poll := none }
            (claimed.zip processes) =
          some next) :
      Move maxConcurrency worker (.track processes) next
  | spawn
      (process : Nat)
      (execution : TrackedExecution)
      (found : worker.execution? process = some execution)
      (executing : (worker.runs.locals process).executing = true)
      (unspawned : execution.job = .notSpawned) :
      Move maxConcurrency worker (.spawn process)
        { worker with
          activeByRunId :=
            worker.activeByRunId.insert execution.runId process
          executions := worker.setExecution process fun spawned =>
            { spawned with job := .alive } }
  | close
      (process : Nat)
      (execution : TrackedExecution)
      (found : worker.execution? process = some execution)
      (alive : execution.job = .alive) :
      Move maxConcurrency worker (.close process)
        { worker with
          activeByRunId := worker.activeByRunId.erase execution.runId
          executions := worker.setExecution process fun ended =>
            { ended with job := .closed } }
  | cleanup
      (process : Nat)
      (execution : TrackedExecution)
      (found : worker.execution? process = some execution)
      (settled : (worker.runs.locals process).settled = true)
      (tracked : execution.cleaned = false) :
      Move maxConcurrency worker (.cleanup process)
        { worker with
          owned := worker.owned.erase execution.runId
          executions := worker.setExecution process fun settled =>
            { settled with cleaned := true } }
  | heartbeat
      (heartbeats : List Heartbeat) :
      Move maxConcurrency worker .heartbeat
        { worker with heartbeats := heartbeats }
  | touch
      (index process : Nat)
      (heartbeatAt : Timestamp)
      (arguments : FencedWrite.Arguments)
      (runs : RunPool)
      (heartbeats : List Heartbeat)
      (stepped :
        runSystem.step? worker.runs
            (process, .start (.fencedWrite arguments)) =
          some runs) :
      Move maxConcurrency worker (.touch index process heartbeatAt)
        { worker with
          runs := runs
          heartbeats := heartbeats }
  | answer
      (index : Nat)
      (heartbeats : List Heartbeat)
      (signalled : List Nat) :
      Move maxConcurrency worker (.answer index)
        { worker with
          heartbeats := heartbeats
          signalled := signalled }
  | stop
      (running : worker.shutdown = .running) :
      Move maxConcurrency worker .stop
        { worker with shutdown := .stopped }
  | drain
      (stopped : worker.shutdown = .stopped) :
      Move maxConcurrency worker .drain
        { worker with
          shutdown :=
            .draining (worker.activeExecutions.map fun execution =>
              execution.process) }
  | resolve
      (awaited : List Nat)
      (draining : worker.shutdown = .draining awaited)
      (settled :
        ∀ process ∈ awaited, (worker.runs.locals process).settled = true) :
      Move maxConcurrency worker .resolve
        { worker with shutdown := .drained }
  | expire
      (awaited : List Nat)
      (draining : worker.shutdown = .draining awaited) :
      Move maxConcurrency worker .expire
        { worker with shutdown := .expired }

/-- Every step is one of these moves. -/
theorem move_of_step
    {maxConcurrency : Nat}
    {worker next : PullWorker}
    {input : WorkerInput}
    (stepped : worker.step maxConcurrency input = some next) :
    Move maxConcurrency worker input next := by
  cases input with
  | statement label =>
      simp only [step] at stepped
      split at stepped
      · rename_i allowed
        obtain ⟨runs, ran, rfl⟩ := Option.map_eq_some_iff.mp stepped
        exact .statement label runs allowed ran
      · cases stepped
  | poll process startedAt =>
      simp only [step] at stepped
      split at stepped
      · rename_i admitted
        obtain ⟨running, idle, -⟩ := admitted
        obtain ⟨runs, ran, rfl⟩ := Option.map_eq_some_iff.mp stepped
        exact .poll process startedAt runs running idle ran
      · cases stepped
  | track processes =>
      obtain ⟨process, polling, stepped⟩ :=
        Option.bind_eq_some_iff.mp stepped
      obtain ⟨claimed, returned, stepped⟩ :=
        Option.bind_eq_some_iff.mp stepped
      split at stepped
      · rename_i aligned
        exact .track processes process claimed next polling returned
          aligned stepped
      · cases stepped
  | spawn process =>
      obtain ⟨execution, found, stepped⟩ :=
        Option.bind_eq_some_iff.mp stepped
      split at stepped
      · rename_i admitted
        cases stepped
        exact .spawn process execution found admitted.1 admitted.2
      · cases stepped
  | close process =>
      obtain ⟨execution, found, stepped⟩ :=
        Option.bind_eq_some_iff.mp stepped
      split at stepped
      · rename_i alive
        cases stepped
        exact .close process execution found alive
      · cases stepped
  | cleanup process =>
      obtain ⟨execution, found, stepped⟩ :=
        Option.bind_eq_some_iff.mp stepped
      split at stepped
      · rename_i admitted
        cases stepped
        exact .cleanup process execution found admitted.1 admitted.2
      · cases stepped
  | heartbeat =>
      simp only [step] at stepped
      split at stepped
      · cases stepped
        exact .heartbeat _
      · cases stepped
  | touch index process heartbeatAt =>
      simp only [step] at stepped
      split at stepped
      · obtain ⟨runs, ran, rfl⟩ := Option.map_eq_some_iff.mp stepped
        exact .touch index process heartbeatAt _ runs _ ran
      · cases stepped
  | answer index =>
      simp only [step] at stepped
      split at stepped
      · obtain ⟨state, -, rfl⟩ := Option.map_eq_some_iff.mp stepped
        split
        · rw [cancel]
          split
          · exact .answer index _ _
          · exact .answer index _ _
        · exact .answer index _ _
      · cases stepped
  | stop =>
      simp only [step] at stepped
      split at stepped
      · rename_i running
        cases stepped
        exact .stop running
      · cases stepped
  | drain =>
      simp only [step] at stepped
      split at stepped
      · rename_i stopped
        cases stepped
        exact .drain stopped
      · cases stepped
  | resolve =>
      simp only [step] at stepped
      split at stepped
      · rename_i awaited draining
        split at stepped
        · rename_i settled
          cases stepped
          exact .resolve awaited draining (List.all_eq_true.mp settled)
        · cases stepped
      · cases stepped
  | expire =>
      simp only [step] at stepped
      split at stepped
      · rename_i awaited draining
        split at stepped
        · cases stepped
          exact .expire awaited draining
        · cases stepped
      · cases stepped

/-- What `track` does for one claim. -/
theorem track_eq_some
    {worker next : PullWorker}
    {claim : (String × String) × Nat}
    (tracked : worker.track claim = some next) :
    ∃ runs,
      runSystem.step? worker.runs
          (claim.2, .start (.executeClaimedRun claim.1.1 claim.1.2)) =
        some runs ∧
      next = { worker with
        runs := runs
        owned := worker.owned.insert claim.1.1 claim.1.2
        executions :=
          ⟨claim.2, claim.1.1, claim.1.2, .notSpawned, false⟩ ::
            worker.executions } := by
  obtain ⟨runs, stepped, shape⟩ := Option.map_eq_some_iff.mp tracked
  exact ⟨runs, stepped, shape.symm⟩

theorem mem_of_execution?
    {worker : PullWorker}
    {process : Nat}
    {execution : TrackedExecution}
    (found : worker.execution? process = some execution) :
    execution ∈ worker.executions ∧ execution.process = process :=
  ⟨List.mem_of_find?_eq_some found, by simpa using List.find?_some found⟩

/-! ## Pieces of example runs -/

/-- Process `poll` claims what is queued and `process` executes it to its job. -/
def claimAndExecute
    (poll process : Nat)
    (dispatchId : Uuid) :
    List WorkerInput :=
  .poll poll 6 ::
    List.replicate 4
      (.statement (poll, .proceed (environmentAt 6 dispatchId))) ++
    .track [process] ::
      List.replicate 7
        (.statement (process, .proceed (environmentAt 7 unusedUuid))) ++
    [.spawn process]

/-- The job of an execution ends, and the execution settles. -/
def endExecution (process : Nat) : List WorkerInput :=
  [.close process,
    .statement (process, .proceed (environmentAt 11 unusedUuid)),
    .statement (process, .proceed (environmentAt 11 unusedUuid)),
    .statement (process, .proceed (environmentAt 11 unusedUuid)),
    .cleanup process]

end PullWorker

end IgaScheduler

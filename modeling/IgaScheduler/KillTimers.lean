import IgaScheduler.ExitClassification
import IgaScheduler.StepRuns

namespace IgaScheduler

/-!
# The events of the executor's subprocesses

`JobRuntimeExecutor` with everything it keeps about the processes it has
started: what they have written, the timers that are armed for them, and which
of them `cancel` finds.  `clearTimeout` disarms the timers of a timeout when a
process has ended; the timers of `cancel` are not kept anywhere.  A signal that
is refused makes the child emit its `error` event at once, inside the callback
that sends the signal and before it arms its next timer.
-/

namespace KillTimers

open ExitClassification (Execution ExecutionError Job onClose)
open JobOutput (Captured appendWithLimit)

/-- The limits on what is kept of the output. -/
structure Limits extends JobOutput.Limits where
  maxStderrBytes : Nat

inductive Signal where
  | SIGTERM
  | SIGKILL
  deriving DecidableEq, Repr

/-- A process of `_spawnEntrypoint`, with the variables of its handlers. -/
structure Subprocess where
  job : Job
  stdout : Captured
  stderr : Captured
  timedOut : Bool
  /-- How the promise is settled, once it is. -/
  outcome : Option (Except ExecutionError Execution)
  timeoutArmed : Bool
  forceKillArmed : Bool
  /-- How many timers of `cancel` have yet to expire. -/
  graceTimers : Nat

def Subprocess.settled (subprocess : Subprocess) : Bool :=
  subprocess.outcome.isSome

/-- The timers that have yet to expire, beside the one of the timeout. -/
def Subprocess.pendingTimers (subprocess : Subprocess) : Nat :=
  subprocess.graceTimers + subprocess.forceKillArmed.toNat

/-- A process that has just been started. -/
def Subprocess.spawned (job : Job) : Subprocess where
  job
  stdout := { value := [], truncated := false }
  stderr := { value := [], truncated := false }
  timedOut := false
  outcome := none
  timeoutArmed := true
  forceKillArmed := false
  graceTimers := 0

/-- Settled, with the timers of the timeout cleared. -/
def Subprocess.settledBy
    (subprocess : Subprocess)
    (outcome : Except ExecutionError Execution) :
    Subprocess :=
  { subprocess with
    outcome := some outcome
    timeoutArmed := false
    forceKillArmed := false }

structure Executor where
  /-- The processes that have been started, by the child they are. -/
  subprocesses : Nat → Option Subprocess
  activeByRunId : String → Option Nat
  /-- The calls of `killProcessGroup`, newest first. -/
  signals : List (Nat × Signal)

/-- The message of the `error` event that a refused signal makes `kill` emit. -/
abbrev Refusal := Option String

/-- What can happen to a process that has been started. -/
inductive ProcessEvent where
  | stdoutData (chunk : List UInt8)
  | stderrData (chunk : List UInt8)
  /-- The timer `timeout` expires. -/
  | timeout (refused : Refusal)
  /-- The timer `forceKillTimeout` expires. -/
  | forceKill (refused : Refusal)
  /-- A timer that `cancel` has set for the process expires. -/
  | grace (refused : Refusal)
  | error (message : String)
  | close
      (exitCode : Option Int)
      (signal : Option String)
      (endedAt : String)

/-- The events in which a handler of `error` or `close` is called. -/
def ProcessEvent.settles : ProcessEvent → Bool
  | .timeout refused | .forceKill refused | .grace refused => refused.isSome
  | .error _ => true
  | .close .. => true
  | .stdoutData _ | .stderrData _ => false

/-- What can happen next. -/
inductive Event where
  | spawn (child : Nat) (job : Job)
  | cancel (runId : String) (refused : Refusal)
  | process (child : Nat) (event : ProcessEvent)

/-- The events of timers whose signals are not refused. -/
def Event.expires : Event → Bool
  | .process _ (.timeout none) => true
  | .process _ (.forceKill none) => true
  | .process _ (.grace none) => true
  | _ => false

namespace Executor

def initial : Executor where
  subprocesses _ := none
  activeByRunId _ := none
  signals := []

def put
    (executor : Executor)
    (child : Nat)
    (subprocess : Subprocess) :
    Executor :=
  { executor with
    subprocesses := fun other =>
      if other = child then some subprocess else executor.subprocesses other }

/-- Assign variables of the process. -/
def modify
    (executor : Executor)
    (child : Nat)
    (change : Subprocess → Subprocess) :
    Executor :=
  match executor.subprocesses child with
  | none => executor
  | some subprocess => executor.put child (change subprocess)

/-- Note that `killProcessGroup` has been called. -/
def logged
    (executor : Executor)
    (child : Nat)
    (sent : List Signal) :
    Executor :=
  { executor with
    signals := sent.map (fun signal => (child, signal)) ++ executor.signals }

/-- `_activeByRunId.set(runId, …)` or `_activeByRunId.delete(runId)`. -/
def setActive
    (executor : Executor)
    (runId : String)
    (active : Option Nat) :
    Executor :=
  { executor with
    activeByRunId := fun other =>
      if other = runId then active else executor.activeByRunId other }

/-- One call of a handler of `data`. -/
def appended
    (captured : Captured)
    (chunk : List UInt8)
    (maxBytes : Nat) :
    Captured :=
  let appended := appendWithLimit captured.value chunk maxBytes
  { value := appended.value
    truncated := captured.truncated || appended.truncated }

/-- `executionError("RUNTIME_PROCESS_FAILED", message, { cause })`. -/
def processFailed (message : String) : ExecutionError where
  code := "RUNTIME_PROCESS_FAILED"
  message
  retryable := true
  execution := none

/-- The common part of the handlers of `error` and `close`. -/
def settle
    (executor : Executor)
    (child : Nat)
    (subprocess : Subprocess)
    (outcome : Except ExecutionError Execution) :
    Executor :=
  if subprocess.settled then
    executor
  else
    (executor.put child (subprocess.settledBy outcome)).setActive
      subprocess.job.runId none

/-- The handler of `error`. -/
def onError
    (executor : Executor)
    (child : Nat)
    (message : String) :
    Executor :=
  match executor.subprocesses child with
  | none => executor
  | some subprocess =>
      executor.settle child subprocess (.error (processFailed message))

/-- Signal the group, or else the child, which may emit `error` at once. -/
def killProcessGroup
    (executor : Executor)
    (child : Nat)
    (signal : Signal)
    (refused : Refusal) :
    Executor :=
  let executor := executor.logged child [signal]
  match refused with
  | none => executor
  | some message => executor.onError child message

/-- Signal the tracked process of a run, and set a timer to do so again. -/
def cancel
    (executor : Executor)
    (runId : String)
    (refused : Refusal) :
    Executor :=
  match executor.activeByRunId runId with
  | none => executor
  | some child =>
      (executor.killProcessGroup child .SIGTERM refused).modify child
        fun subprocess =>
          { subprocess with graceTimers := subprocess.graceTimers + 1 }

/-- The value of `cancel`. -/
def cancelStatus (executor : Executor) (runId : String) : String :=
  if (executor.activeByRunId runId).isSome then "killed" else "not_found"

section Events

-- `JSON.parse(text)`.
variable (parse : List Nat → Except String Json)
variable (settings : JobRuntimeExecutor.Settings)
variable (limits : Limits)

/-- The handler of an event; an unarmed timer does not expire. -/
def handle
    (executor : Executor)
    (child : Nat)
    (subprocess : Subprocess) :
    ProcessEvent → Option Executor
  | .stdoutData chunk =>
      some (executor.put child
        { subprocess with
          stdout := appended subprocess.stdout chunk limits.maxStdoutBytes })
  | .stderrData chunk =>
      some (executor.put child
        { subprocess with
          stderr := appended subprocess.stderr chunk limits.maxStderrBytes })
  | .timeout refused =>
      if subprocess.timeoutArmed then
        let executor := executor.put child
          { subprocess with timedOut := true, timeoutArmed := false }
        some ((executor.killProcessGroup child .SIGTERM refused).modify child
          fun subprocess => { subprocess with forceKillArmed := true })
      else
        none
  | .forceKill refused =>
      if subprocess.forceKillArmed then
        let executor :=
          executor.put child { subprocess with forceKillArmed := false }
        some (executor.killProcessGroup child .SIGKILL refused)
      else
        none
  | .grace refused =>
      if subprocess.graceTimers = 0 then
        none
      else
        let executor := executor.put child
          { subprocess with graceTimers := subprocess.graceTimers - 1 }
        some (executor.killProcessGroup child .SIGKILL refused)
  | .error message => some (executor.onError child message)
  | .close exitCode signal endedAt =>
      some (executor.settle child subprocess
        (onClose parse settings limits.toLimits subprocess.job
          { stdout := subprocess.stdout
            stderr := subprocess.stderr
            exitCode
            signal
            timedOut := subprocess.timedOut
            endedAt }))

def step?
    (executor : Executor) :
    Event → Option Executor
  | .spawn child job =>
      match executor.subprocesses child with
      | some _ => none
      | none =>
          some ((executor.put child (.spawned job)).setActive job.runId
            (some child))
  | .cancel runId refused => some (executor.cancel runId refused)
  | .process child event =>
      match executor.subprocesses child with
      | none => none
      | some subprocess =>
          handle parse settings limits executor child subprocess event

end Events

/-! ## What a step does -/

@[simp] theorem put_same
    (executor : Executor)
    (child : Nat)
    (subprocess : Subprocess) :
    (executor.put child subprocess).subprocesses child = some subprocess :=
  if_pos rfl

theorem put_other
    {executor : Executor}
    {child other : Nat}
    {subprocess : Subprocess}
    (different : other ≠ child) :
    (executor.put child subprocess).subprocesses other =
      executor.subprocesses other :=
  if_neg different

theorem put_self
    {executor : Executor}
    {child : Nat}
    {subprocess : Subprocess}
    (found : executor.subprocesses child = some subprocess) :
    executor.put child subprocess = executor := by
  have same :
      (executor.put child subprocess).subprocesses =
        executor.subprocesses := by
    funext other
    by_cases own : other = child
    · rw [own, put_same, found]
    · exact put_other own
  exact congrArg (fun subprocesses => { executor with subprocesses }) same

@[simp] theorem put_put
    (executor : Executor)
    (child : Nat)
    (first second : Subprocess) :
    (executor.put child first).put child second =
      executor.put child second := by
  have same :
      ((executor.put child first).put child second).subprocesses =
        (executor.put child second).subprocesses := by
    funext other
    by_cases own : other = child
    · rw [own, put_same, put_same]
    · rw [put_other own, put_other own, put_other own]
  exact congrArg (fun subprocesses => { executor with subprocesses }) same

@[simp] theorem put_activeByRunId
    (executor : Executor)
    (child : Nat)
    (subprocess : Subprocess) :
    (executor.put child subprocess).activeByRunId = executor.activeByRunId :=
  rfl

@[simp] theorem setActive_subprocesses
    (executor : Executor)
    (runId : String)
    (active : Option Nat) :
    (executor.setActive runId active).subprocesses = executor.subprocesses :=
  rfl

@[simp] theorem logged_subprocesses
    (executor : Executor)
    (child : Nat)
    (sent : List Signal) :
    (executor.logged child sent).subprocesses = executor.subprocesses :=
  rfl

theorem modify_put
    (executor : Executor)
    (child : Nat)
    (subprocess : Subprocess)
    (change : Subprocess → Subprocess) :
    (executor.put child subprocess).modify child change =
      executor.put child (change subprocess) := by
  rw [modify, put_same]
  exact put_put ..

/-- How often `killProcessGroup` has been called for a process. -/
def signalled (executor : Executor) (child : Nat) : Nat :=
  executor.signals.countP fun sent => sent.1 = child

/-- The timers of `cancel` that are pending for a process. -/
def pendingGrace (executor : Executor) (child : Nat) : Nat :=
  ((executor.subprocesses child).map Subprocess.graceTimers).getD 0

/-- The timers that may yet send a signal to a process that has ended. -/
def pendingTimers (executor : Executor) (child : Nat) : Nat :=
  ((executor.subprocesses child).map Subprocess.pendingTimers).getD 0

/-- The `close` or `error` event of the process has been handled. -/
def Ended (executor : Executor) (child : Nat) : Prop :=
  ∃ subprocess,
    executor.subprocesses child = some subprocess ∧
      subprocess.settled = true

/-- Only live processes are found, and no timeout outlives its process. -/
structure Tidy (executor : Executor) : Prop where
  activeAlive : ∀ runId child, executor.activeByRunId runId = some child →
    ∃ subprocess,
      executor.subprocesses child = some subprocess ∧
        subprocess.job.runId = runId ∧
        subprocess.settled = false
  disarmed : ∀ child subprocess,
    executor.subprocesses child = some subprocess →
    subprocess.settled = true →
      subprocess.timeoutArmed = false

theorem settled_of_ended
    {executor : Executor}
    {child : Nat}
    {subprocess : Subprocess}
    (ended : executor.Ended child)
    (found : executor.subprocesses child = some subprocess) :
    subprocess.settled = true := by
  obtain ⟨same, there, settled⟩ := ended
  cases there.symm.trans found
  exact settled

/-- The timers that are pending when the event has settled the promise. -/
def outliving (executor : Executor) (child : Nat) : ProcessEvent → Nat
  | .timeout _ => executor.pendingGrace child + 1
  | .grace _ => executor.pendingGrace child - 1
  | _ => executor.pendingGrace child

/-- An event that ends a process leaves this many of its timers pending. -/
inductive Leaves (executor : Executor) : Event → Nat → Nat → Prop where
  /-- `cancel` sets its timer after the refused signal. -/
  | cancel
      {runId message : String}
      {child timers : Nat}
      (active : executor.activeByRunId runId = some child)
      (left : timers = executor.pendingGrace child + 1) :
      Leaves executor (.cancel runId (some message)) child timers
  | process
      {child timers : Nat}
      {event : ProcessEvent}
      (settles : event.settles = true)
      (left : timers = executor.outliving child event) :
      Leaves executor (.process child event) child timers

theorem Leaves.unique
    {executor : Executor}
    {event : Event}
    {child first second : Nat}
    (one : Leaves executor event child first)
    (other : Leaves executor event child second) :
    first = second := by
  cases one with
  | cancel active left =>
      cases other with
      | cancel _ same => exact left.trans same.symm
  | process settles left =>
      cases other with
      | process _ same => exact left.trans same.symm

/-- Everything that one event can do. -/
inductive Move (executor : Executor) : Event → Executor → Prop where
  | spawn
      {child : Nat}
      {job : Job}
      (free : executor.subprocesses child = none) :
      Move executor (.spawn child job)
        ((executor.put child (.spawned job)).setActive job.runId (some child))
  | unchanged {event : Event} :
      Move executor event executor
  | output
      {child : Nat}
      {event : Event}
      {subprocess : Subprocess}
      (stdout stderr : Captured)
      (found : executor.subprocesses child = some subprocess) :
      Move executor event
        (executor.put child { subprocess with stdout, stderr })
  /-- A signal that ends nothing; only pending timers send one after an end. -/
  | signalled
      {child : Nat}
      {event : Event}
      {before after : Subprocess}
      (signal : Signal)
      (found : executor.subprocesses child = some before)
      (job : after.job = before.job)
      (outcome : after.outcome = before.outcome)
      (disarmed : after.settled = true → after.timeoutArmed = false)
      (spent :
        before.settled = true →
          after.pendingTimers + 1 = before.pendingTimers) :
      Move executor event ((executor.logged child [signal]).put child after)
  | ended
      {child : Nat}
      {event : Event}
      {before after : Subprocess}
      (sent : List Signal)
      (found : executor.subprocesses child = some before)
      (alive : before.settled = false)
      (settled : after.settled = true)
      (disarmed : after.timeoutArmed = false)
      (leaves : Leaves executor event child after.pendingTimers) :
      Move executor event
        (((executor.logged child sent).put child after).setActive
          before.job.runId none)

section Signals

variable {executor : Executor}
variable {child : Nat}
variable {signal : Signal}

/-- A signal that is refused after the end, or is not, changes no variable. -/
theorem killProcessGroup_put
    {subprocess : Subprocess}
    {refused : Refusal}
    (silent : refused = none ∨ subprocess.settled = true) :
    (executor.put child subprocess).killProcessGroup child signal refused =
      (executor.logged child [signal]).put child subprocess := by
  cases refused with
  | none =>
      rfl
  | some message =>
      have settled : subprocess.settled = true :=
        silent.resolve_left (Option.some_ne_none _)
      have found :
          ((executor.put child subprocess).logged child
              [signal]).subprocesses child =
            some subprocess :=
        put_same ..
      dsimp only [killProcessGroup]
      rw [onError, found]
      exact if_pos settled

/-- A signal that is refused ends a process that is alive. -/
theorem killProcessGroup_refused
    {subprocess : Subprocess}
    (alive : subprocess.settled = false)
    (message : String) :
    (executor.put child subprocess).killProcessGroup child signal
        (some message) =
      ((executor.logged child [signal]).put child
        (subprocess.settledBy (.error (processFailed message)))).setActive
          subprocess.job.runId none := by
  have found :
      ((executor.put child subprocess).logged child
          [signal]).subprocesses child =
        some subprocess :=
    put_same ..
  have shape :
      ((executor.put child subprocess).logged child [signal]).put child
          (subprocess.settledBy (.error (processFailed message))) =
        (executor.logged child [signal]).put child
          (subprocess.settledBy (.error (processFailed message))) :=
    put_put (executor.logged child [signal]) ..
  dsimp only [killProcessGroup]
  rw [onError, found]
  dsimp only
  rw [settle, alive, if_neg Bool.false_ne_true, shape]

theorem modify_setActive
    (executor : Executor)
    (child : Nat)
    (subprocess : Subprocess)
    (runId : String)
    (active : Option Nat)
    (change : Subprocess → Subprocess) :
    ((executor.put child subprocess).setActive runId active).modify child
        change =
      (executor.put child (change subprocess)).setActive runId active := by
  rw [modify, setActive_subprocesses, put_same]
  exact congrArg (fun changed => changed.setActive runId active)
    (put_put executor child subprocess (change subprocess))

theorem pendingGrace_found
    {subprocess : Subprocess}
    (found : executor.subprocesses child = some subprocess) :
    executor.pendingGrace child = subprocess.graceTimers := by
  rw [pendingGrace, found]
  rfl

theorem pendingTimers_found
    {subprocess : Subprocess}
    (found : executor.subprocesses child = some subprocess) :
    executor.pendingTimers child = subprocess.pendingTimers := by
  rw [pendingTimers, found]
  rfl

/-- A timer that expires sends a signal, and has been one of the pending. -/
theorem move_of_expiry
    {event : ProcessEvent}
    {refused : Refusal}
    {before expired : Subprocess}
    (tidy : Tidy executor)
    (found : executor.subprocesses child = some before)
    (job : expired.job = before.job)
    (outcome : expired.outcome = before.outcome)
    (timeout : expired.timeoutArmed = before.timeoutArmed)
    (spent : expired.pendingTimers + 1 = before.pendingTimers)
    (settles : event.settles = refused.isSome)
    (left : executor.outliving child event = expired.graceTimers) :
    Move executor (.process child event)
      ((executor.put child expired).killProcessGroup child signal
        refused) := by
  have same : expired.settled = before.settled := by
    rw [Subprocess.settled, Subprocess.settled, outcome]
  have off (settled : expired.settled = true) :
      expired.timeoutArmed = false := by
    rw [timeout]
    exact tidy.disarmed child before found (same ▸ settled)
  by_cases silent : refused = none ∨ expired.settled = true
  · rw [killProcessGroup_put silent]
    exact .signalled signal found job outcome off fun _ => spent
  · obtain ⟨given, notSettled⟩ := not_or.mp silent
    obtain ⟨message, rfl⟩ := Option.ne_none_iff_exists'.mp given
    have alive : expired.settled = false := Bool.not_eq_true _ ▸ notSettled
    rw [killProcessGroup_refused alive, job]
    exact .ended [signal] found (same ▸ alive) rfl rfl
      (.process settles left.symm)

end Signals

section Steps

variable {parse : List Nat → Except String Json}
variable {settings : JobRuntimeExecutor.Settings}
variable {limits : Limits}
variable {executor next : Executor}

theorem move_of_settle
    {child : Nat}
    {event : ProcessEvent}
    {subprocess : Subprocess}
    {outcome : Except ExecutionError Execution}
    (found : executor.subprocesses child = some subprocess)
    (settles : event.settles = true)
    (left : executor.outliving child event = executor.pendingGrace child) :
    Move executor (.process child event)
      (executor.settle child subprocess outcome) := by
  unfold settle
  split
  · exact .unchanged
  · rename_i alive
    refine .ended [] found (Bool.not_eq_true _ ▸ alive) rfl rfl
      (.process settles ?_)
    rw [left, pendingGrace_found found]
    rfl

/-- A signal to a process that is alive, before its next timer is armed. -/
theorem move_of_arming
    {child : Nat}
    {event : Event}
    {before signalled : Subprocess}
    (arm : Subprocess → Subprocess)
    (refused : Refusal)
    (found : executor.subprocesses child = some before)
    (alive : before.settled = false)
    (job : signalled.job = before.job)
    (outcome : signalled.outcome = before.outcome)
    (keeps : ∀ subprocess,
      (arm subprocess).job = subprocess.job ∧
        (arm subprocess).outcome = subprocess.outcome ∧
        (arm subprocess).timeoutArmed = subprocess.timeoutArmed)
    (leaves : ∀ message, refused = some message →
      Leaves executor event child
        (arm (signalled.settledBy
          (.error (processFailed message)))).pendingTimers) :
    Move executor event
      (((executor.put child signalled).killProcessGroup child .SIGTERM
        refused).modify child arm) := by
  have stillAlive : signalled.settled = false := by
    rw [Subprocess.settled, outcome]
    exact alive
  cases refused with
  | none =>
      rw [killProcessGroup_put (.inl rfl), modify_put]
      obtain ⟨sameJob, sameOutcome, -⟩ := keeps signalled
      refine .signalled .SIGTERM found (sameJob.trans job)
        (sameOutcome.trans outcome) ?_ ?_
      · intro settled
        rw [Subprocess.settled, sameOutcome] at settled
        exact absurd (stillAlive.symm.trans settled) Bool.false_ne_true
      · intro settled
        exact absurd (alive.symm.trans settled) Bool.false_ne_true
  | some message =>
      rw [killProcessGroup_refused stillAlive, modify_setActive, job]
      obtain ⟨-, sameOutcome, sameTimeout⟩ :=
        keeps (signalled.settledBy (.error (processFailed message)))
      refine .ended [.SIGTERM] found alive ?_ sameTimeout
        (leaves message rfl)
      rw [Subprocess.settled, sameOutcome]
      rfl

theorem move_of_handle
    {child : Nat}
    {event : ProcessEvent}
    {subprocess : Subprocess}
    (tidy : Tidy executor)
    (found : executor.subprocesses child = some subprocess)
    (handled :
      handle parse settings limits executor child subprocess event =
        some next) :
    Move executor (.process child event) next := by
  have grace := pendingGrace_found found
  cases event with
  | stdoutData chunk =>
      cases handled
      exact .output _ subprocess.stderr found
  | stderrData chunk =>
      cases handled
      exact .output subprocess.stdout _ found
  | timeout refused =>
      rw [handle] at handled
      split at handled
      · rename_i armed
        cases handled
        have alive : subprocess.settled = false := by
          rw [← Bool.not_eq_true]
          intro settled
          rw [tidy.disarmed child subprocess found settled] at armed
          cases armed
        refine move_of_arming
          (fun subprocess => { subprocess with forceKillArmed := true })
          refused found alive rfl rfl (fun _ => ⟨rfl, rfl, rfl⟩) ?_
        rintro message rfl
        refine .process rfl ?_
        rw [outliving, grace]
        rfl
      · cases handled
  | forceKill refused =>
      rw [handle] at handled
      split at handled
      · rename_i armed
        cases handled
        refine move_of_expiry tidy found rfl rfl rfl ?_ rfl grace
        rw [Subprocess.pendingTimers, Subprocess.pendingTimers, armed]
        rfl
      · cases handled
  | grace refused =>
      rw [handle] at handled
      split at handled
      · cases handled
      · rename_i pending
        cases handled
        refine move_of_expiry tidy found rfl rfl rfl ?_ rfl ?_
        · dsimp only [Subprocess.pendingTimers]
          omega
        · rw [outliving, grace]
  | error message =>
      cases handled
      rw [onError, found]
      exact move_of_settle found rfl rfl
  | close exitCode signal endedAt =>
      cases handled
      exact move_of_settle found rfl rfl

/-- A step is one of the moves. -/
theorem move_of_step
    {event : Event}
    (tidy : Tidy executor)
    (stepped : step? parse settings limits executor event = some next) :
    Move executor event next := by
  cases event with
  | spawn child job =>
      rw [step?] at stepped
      split at stepped
      · cases stepped
      · rename_i free
        cases stepped
        exact .spawn free
  | cancel runId refused =>
      cases stepped
      unfold Executor.cancel
      split
      · exact .unchanged
      · rename_i child active
        obtain ⟨subprocess, found, -, alive⟩ :=
          tidy.activeAlive runId child active
        have moved :
            Move executor (.cancel runId refused)
              (((executor.put child subprocess).killProcessGroup child
                .SIGTERM refused).modify child fun subprocess =>
                  { subprocess with
                    graceTimers := subprocess.graceTimers + 1 }) := by
          refine move_of_arming
            (fun subprocess =>
              { subprocess with graceTimers := subprocess.graceTimers + 1 })
            refused found alive rfl rfl (fun _ => ⟨rfl, rfl, rfl⟩) ?_
          rintro message rfl
          refine .cancel active ?_
          rw [pendingGrace_found found]
          rfl
        rw [put_self found] at moved
        exact moved
  | process child event =>
      rw [step?] at stepped
      split at stepped
      · cases stepped
      · rename_i subprocess found
        exact move_of_handle tidy found stepped

end Steps

/-! ## One step -/

section Moves

variable {executor next : Executor}
variable {event : Event}

/-- Replacing a live process by a live one keeps the executor tidy. -/
theorem Tidy.put
    (tidy : Tidy executor)
    {child : Nat}
    {before after : Subprocess}
    (found : executor.subprocesses child = some before)
    (job : after.job = before.job)
    (outcome : after.outcome = before.outcome)
    (disarmed : after.settled = true → after.timeoutArmed = false) :
    Tidy (executor.put child after) where
  activeAlive runId other active := by
    obtain ⟨subprocess, there, ofRun, alive⟩ :=
      tidy.activeAlive runId other active
    by_cases same : other = child
    · subst same
      cases there.symm.trans found
      refine ⟨after, put_same .., job ▸ ofRun, ?_⟩
      rw [Subprocess.settled, outcome]
      exact alive
    · exact ⟨subprocess, (put_other same).trans there, ofRun, alive⟩
  disarmed other subprocess there settled := by
    by_cases same : other = child
    · subst same
      cases there.symm.trans (put_same ..)
      exact disarmed settled
    · rw [put_other same] at there
      exact tidy.disarmed other subprocess there settled

theorem Tidy.logged
    (tidy : Tidy executor)
    (child : Nat)
    (sent : List Signal) :
    Tidy (executor.logged child sent) :=
  ⟨tidy.activeAlive, tidy.disarmed⟩

theorem Tidy.spawn
    (tidy : Tidy executor)
    {child : Nat}
    {job : Job}
    (free : executor.subprocesses child = none) :
    Tidy ((executor.put child (.spawned job)).setActive job.runId
      (some child)) where
  activeAlive runId other active := by
    change (if runId = job.runId then some child
      else executor.activeByRunId runId) = some other at active
    split at active
    · rename_i ofRun
      cases active
      exact ⟨_, put_same .., ofRun.symm, rfl⟩
    · obtain ⟨subprocess, there, found⟩ := tidy.activeAlive runId other active
      refine ⟨subprocess, ?_, found⟩
      rw [setActive_subprocesses, put_other, there]
      rintro rfl
      cases free.symm.trans there
  disarmed other subprocess there settled := by
    rw [setActive_subprocesses] at there
    by_cases same : other = child
    · subst same
      cases there.symm.trans (put_same ..)
      cases settled
    · rw [put_other same] at there
      exact tidy.disarmed other subprocess there settled

/-- A process that has ended is not found any more. -/
theorem Tidy.ended
    (tidy : Tidy executor)
    {child : Nat}
    {before after : Subprocess}
    (found : executor.subprocesses child = some before)
    (disarmed : after.timeoutArmed = false) :
    Tidy ((executor.put child after).setActive before.job.runId none) where
  activeAlive runId other active := by
    change (if runId = before.job.runId then none
      else executor.activeByRunId runId) = some other at active
    split at active
    · cases active
    · rename_i otherRun
      obtain ⟨there, stored, ofRun, alive⟩ :=
        tidy.activeAlive runId other active
      refine ⟨there, ?_, ofRun, alive⟩
      rw [setActive_subprocesses, put_other, stored]
      rintro rfl
      cases stored.symm.trans found
      exact otherRun ofRun.symm
  disarmed other there stored settled := by
    rw [setActive_subprocesses] at stored
    by_cases same : other = child
    · subst same
      cases stored.symm.trans (put_same ..)
      exact disarmed
    · rw [put_other same] at stored
      exact tidy.disarmed other there stored settled

theorem Tidy.move
    (tidy : Tidy executor)
    (moved : Move executor event next) :
    Tidy next := by
  cases moved with
  | spawn free =>
      exact tidy.spawn free
  | unchanged =>
      exact tidy
  | output stdout stderr found =>
      have off := tidy.disarmed _ _ found
      exact tidy.put found rfl rfl off
  | signalled signal found job outcome disarmed spent =>
      exact (tidy.logged _ _).put found job outcome disarmed
  | ended sent found alive settled disarmed leaves =>
      exact (tidy.logged _ _).ended found disarmed

theorem signalled_logged
    (executor : Executor)
    (child other : Nat)
    (sent : List Signal) :
    (executor.logged child sent).signalled other =
      executor.signalled other + if child = other then sent.length else 0 := by
  rw [signalled, signalled, Executor.logged, List.countP_append,
    List.countP_map, Nat.add_comm]
  by_cases same : child = other <;> simp [Function.comp_def, same]

/--
A process that has ended stays so, and each signal to it uses up one of the
timers that were pending.
-/
structure KeptEnded (executor next : Executor) (child : Nat) : Prop where
  ended : next.Ended child
  fewer : next.pendingTimers child ≤ executor.pendingTimers child
  total :
    next.pendingTimers child + next.signalled child =
      executor.pendingTimers child + executor.signalled child

theorem KeptEnded.of_same
    {child : Nat}
    (ended : executor.Ended child)
    (subprocess : next.subprocesses child = executor.subprocesses child)
    (signalled : next.signalled child = executor.signalled child) :
    KeptEnded executor next child := by
  have pending : next.pendingTimers child = executor.pendingTimers child := by
    rw [pendingTimers, pendingTimers, subprocess]
  refine ⟨?_, pending.le, by rw [pending, signalled]⟩
  obtain ⟨stored, there, settled⟩ := ended
  exact ⟨stored, subprocess.trans there, settled⟩

theorem keptEnded_of_move
    {other : Nat}
    (ended : executor.Ended other)
    (moved : Move executor event next) :
    KeptEnded executor next other := by
  cases moved with
  | @spawn child job free =>
      have different : other ≠ child := by
        rintro rfl
        obtain ⟨subprocess, there, -⟩ := ended
        cases free.symm.trans there
      exact .of_same ended (put_other different) rfl
  | unchanged =>
      exact .of_same ended rfl rfl
  | @output child event subprocess stdout stderr found =>
      by_cases same : other = child
      · subst same
        have settled := settled_of_ended ended found
        have pending :
            (executor.put other
                { subprocess with stdout, stderr }).pendingTimers other =
              executor.pendingTimers other := by
          rw [pendingTimers_found (put_same ..), pendingTimers_found found]
          rfl
        exact ⟨⟨_, put_same .., settled⟩, pending.le, by rw [pending]; rfl⟩
      · exact .of_same ended (put_other same) rfl
  | @signalled child event before after signal found job outcome disarmed
      spent =>
      have sent := signalled_logged executor child other [signal]
      by_cases same : other = child
      · subst same
        have settled := settled_of_ended ended found
        have fewer := spent settled
        rw [if_pos rfl, List.length_singleton] at sent
        refine ⟨⟨after, put_same .., ?_⟩, ?_, ?_⟩
        · rw [Subprocess.settled, outcome]
          exact settled
        · rw [pendingTimers_found (put_same ..), pendingTimers_found found]
          omega
        · change _ + (executor.logged other [signal]).signalled other = _
          rw [pendingTimers_found (put_same ..), pendingTimers_found found,
            sent]
          omega
      · rw [if_neg (Ne.symm same), Nat.add_zero] at sent
        exact .of_same ended (put_other same) sent
  | @ended child event before after sent found alive settled disarmed
      leaves =>
      have different : other ≠ child := by
        rintro rfl
        rw [settled_of_ended ended found] at alive
        cases alive
      have same := signalled_logged executor child other sent
      rw [if_neg different.symm, Nat.add_zero] at same
      exact .of_same ended (put_other different) same

/-- An event that has ended a process leaves what it is said to leave. -/
theorem leaves_of_ended
    {other : Nat}
    (moved : Move executor event next)
    (alive : ¬ executor.Ended other)
    (ended : next.Ended other) :
    Leaves executor event other (next.pendingTimers other) := by
  obtain ⟨subprocess, there, settled⟩ := ended
  have keeps {child : Nat} {before after : Subprocess} {changed : Executor}
      (found : executor.subprocesses child = some before)
      (updated : (changed.put child after).subprocesses other = some subprocess)
      (same : after.outcome = before.outcome)
      (elsewhere : changed.subprocesses = executor.subprocesses) :
      False := by
    by_cases own : other = child
    · subst own
      cases (put_same ..).symm.trans updated
      refine alive ⟨before, found, ?_⟩
      rw [Subprocess.settled, ← same]
      exact settled
    · rw [put_other own, elsewhere] at updated
      exact alive ⟨subprocess, updated, settled⟩
  cases moved with
  | @spawn child job free =>
      rw [setActive_subprocesses] at there
      by_cases own : other = child
      · subst own
        cases (put_same ..).symm.trans there
        cases settled
      · rw [put_other own] at there
        exact absurd ⟨subprocess, there, settled⟩ alive
  | unchanged =>
      exact absurd ⟨subprocess, there, settled⟩ alive
  | output stdout stderr found =>
      exact (keeps found there rfl rfl).elim
  | signalled signal found job outcome disarmed spent =>
      exact (keeps found there outcome rfl).elim
  | @ended child event before after sent found notSettled settledAfter
      disarmed leaves =>
      rw [setActive_subprocesses] at there
      by_cases own : other = child
      · subst own
        have timers :
            (((executor.logged other sent).put other after).setActive
                before.job.runId none).pendingTimers other =
              after.pendingTimers := by
          rw [pendingTimers, setActive_subprocesses, put_same]
          rfl
        rw [timers]
        exact leaves
      · rw [put_other own] at there
        exact absurd ⟨subprocess, there, settled⟩ alive

end Moves

/-! ## Runs -/

/-- An event that ends a process leaves none of its timers pending. -/
def SettlesCleanly (executor : Executor) (event : Event) : Prop :=
  ∀ child timers,
    ¬ executor.Ended child →
    Leaves executor event child timers →
      timers = 0

/-- Ended processes have no timers left. -/
structure Clean (executor : Executor) : Prop where
  tidy : Tidy executor
  spent : ∀ child, executor.Ended child → executor.pendingTimers child = 0

theorem Clean.move
    {executor next : Executor}
    {event : Event}
    (clean : Clean executor)
    (cleanly : SettlesCleanly executor event)
    (moved : Move executor event next) :
    Clean next := by
  refine ⟨clean.tidy.move moved, fun child ended => ?_⟩
  by_cases before : executor.Ended child
  · have fewer := (keptEnded_of_move before moved).fewer
    have spent := clean.spent child before
    omega
  · exact cleanly child _ before (leaves_of_ended moved before ended)

theorem Clean.initial : Clean initial where
  tidy :=
    { activeAlive := by
        rintro runId child ⟨⟩
      disarmed := by
        rintro child subprocess ⟨⟩ }
  spent := by
    rintro child ⟨subprocess, ⟨⟩, -⟩

section Runs

-- `JSON.parse(text)`.
variable (parse : List Nat → Except String Json)
variable (settings : JobRuntimeExecutor.Settings)
variable (limits : Limits)

/-- No call of `killProcessGroup` for a process follows its end. -/
def SilentAfterEnd (events : List Event) : Prop :=
  ∀ (earlier later : List Event) (before after : Executor) (child : Nat),
    events = earlier ++ later →
    Stepping.run? (step? parse settings limits) initial earlier =
      some before →
    Stepping.run? (step? parse settings limits) before later = some after →
    before.Ended child →
      after.signalled child = before.signalled child

/-- Nothing but timers that expire, and whose signals are not refused. -/
def OnlyExpiries (events : List Event) : Prop :=
  ∀ event ∈ events, event.expires = true

/-- Whichever timers may yet expire, no signal follows the end of a process. -/
def StaysSilent (events : List Event) (executor : Executor) : Prop :=
  ∀ later final,
    OnlyExpiries later →
    Stepping.run? (step? parse settings limits) executor later = some final →
      SilentAfterEnd parse settings limits (events ++ later)

end Runs

section Silence

variable {parse : List Nat → Except String Json}
variable {settings : JobRuntimeExecutor.Settings}
variable {limits : Limits}

theorem clean_of_run
    {start final : Executor}
    {events : List Event}
    (clean : Clean start)
    (cleanly :
      Stepping.Along (step? parse settings limits) SettlesCleanly start events)
    (ran :
      Stepping.run? (step? parse settings limits) start events = some final) :
    Clean final :=
  Stepping.run?_invariant SettlesCleanly Clean clean
    (fun clean settles stepped =>
      clean.move settles (move_of_step clean.tidy stepped))
    cleanly ran

/-- Timers and signals of an ended process, over what follows its end. -/
theorem keptEnded_of_run
    {start final : Executor}
    {events : List Event}
    {child : Nat}
    (tidy : Tidy start)
    (ended : start.Ended child)
    (ran :
      Stepping.run? (step? parse settings limits) start events = some final) :
    Tidy final ∧ KeptEnded start final child := by
  refine Stepping.run?_invariant (fun _ _ => True)
    (fun visited => Tidy visited ∧ KeptEnded start visited child)
    ⟨tidy, .of_same ended rfl rfl⟩ ?_ (fun _ _ => trivial) ran
  rintro state next event ⟨stateTidy, kept⟩ - stepped
  have moved := move_of_step stateTidy stepped
  have step := keptEnded_of_move kept.ended moved
  exact ⟨stateTidy.move moved, step.ended, step.fewer.trans kept.fewer,
    step.total.trans kept.total⟩

theorem tidy_of_run
    {final : Executor}
    {events : List Event}
    (ran :
      Stepping.run? (step? parse settings limits) initial events =
        some final) :
    Tidy final :=
  Stepping.run?_invariant (fun _ _ => True) Tidy Clean.initial.tidy
    (fun tidy _ stepped => tidy.move (move_of_step tidy stepped))
    (fun _ _ => trivial) ran

/-- A run that settles cleanly is silent after every end. -/
theorem silentAfterEnd_of_cleanly
    {events : List Event}
    (cleanly :
      Stepping.Along (step? parse settings limits) SettlesCleanly initial
        events) :
    SilentAfterEnd parse settings limits events := by
  rintro earlier later before after child rfl ranEarlier ranLater ended
  have clean := clean_of_run Clean.initial cleanly.earlier ranEarlier
  have kept := (keptEnded_of_run clean.tidy ended ranLater).2
  have spent := clean.spent child ended
  have fewer := kept.fewer
  have total := kept.total
  omega

/-- A timer whose signal is not refused settles nothing. -/
theorem settlesCleanly_of_expires
    {executor : Executor}
    {event : Event}
    (expires : event.expires = true) :
    SettlesCleanly executor event := by
  intro child timers _ leaves
  cases leaves with
  | cancel => cases expires
  | @process child timers event settles left =>
      cases event with
      | timeout refused | forceKill refused | grace refused =>
          cases refused with
          | none => cases settles
          | some message => cases expires
      | _ => cases expires

/-! ## Every end leaves what it is said to leave -/

theorem killProcessGroup_ended
    {executor : Executor}
    {child : Nat}
    {subprocess : Subprocess}
    (found : executor.subprocesses child = some subprocess)
    (signal : Signal)
    (message : String) :
    (executor.killProcessGroup child signal (some message)).Ended child := by
  by_cases settled : subprocess.settled = true
  · rw [← put_self found, killProcessGroup_put (.inr settled)]
    exact ⟨subprocess, put_same .., settled⟩
  · have alive : subprocess.settled = false := Bool.not_eq_true _ ▸ settled
    rw [← put_self found, killProcessGroup_refused alive]
    exact ⟨_, put_same .., rfl⟩

theorem settle_ended
    {executor : Executor}
    {child : Nat}
    {subprocess : Subprocess}
    (found : executor.subprocesses child = some subprocess)
    (outcome : Except ExecutionError Execution) :
    (executor.settle child subprocess outcome).Ended child := by
  unfold settle
  split
  · rename_i settled
    exact ⟨subprocess, found, settled⟩
  · exact ⟨_, put_same .., rfl⟩

theorem modify_ended
    {executor : Executor}
    {child : Nat}
    {change : Subprocess → Subprocess}
    (ended : executor.Ended child)
    (outcome :
      ∀ subprocess, (change subprocess).outcome = subprocess.outcome) :
    (executor.modify child change).Ended child := by
  obtain ⟨subprocess, found, settled⟩ := ended
  rw [modify, found]
  refine ⟨change subprocess, put_same .., ?_⟩
  rw [Subprocess.settled, outcome]
  exact settled

/-- The process that an event is said to end has ended. -/
theorem ended_of_leaves
    {executor next : Executor}
    {event : Event}
    {child timers : Nat}
    (tidy : Tidy executor)
    (leaves : Leaves executor event child timers)
    (stepped : step? parse settings limits executor event = some next) :
    next.Ended child := by
  cases leaves with
  | @cancel runId message child timers active left =>
      obtain ⟨subprocess, found, -, -⟩ := tidy.activeAlive runId child active
      cases stepped
      rw [cancel, active]
      exact modify_ended (killProcessGroup_ended found .SIGTERM message)
        fun _ => rfl
  | @process child timers event settles left =>
      rw [step?] at stepped
      split at stepped
      · cases stepped
      · rename_i subprocess found
        have refusal {refused : Refusal} (settles : refused.isSome = true) :
            ∃ message, refused = some message :=
          Option.isSome_iff_exists.mp settles
        cases event with
        | stdoutData | stderrData =>
            cases settles
        | timeout refused =>
            obtain ⟨message, rfl⟩ := refusal settles
            rw [handle] at stepped
            split at stepped
            · cases stepped
              exact modify_ended
                (killProcessGroup_ended (put_same ..) .SIGTERM message)
                fun _ => rfl
            · cases stepped
        | forceKill refused =>
            obtain ⟨message, rfl⟩ := refusal settles
            rw [handle] at stepped
            split at stepped
            · cases stepped
              exact killProcessGroup_ended (put_same ..) .SIGKILL message
            · cases stepped
        | grace refused =>
            obtain ⟨message, rfl⟩ := refusal settles
            rw [handle] at stepped
            split at stepped
            · cases stepped
            · cases stepped
              exact killProcessGroup_ended (put_same ..) .SIGKILL message
        | error message =>
            cases stepped
            rw [onError, found]
            exact settle_ended found _
        | close exitCode signal endedAt =>
            cases stepped
            exact settle_ended found _

variable (parse settings limits) in
/-- A timer that is pending can expire, and then sends a signal. -/
theorem pending_expires
    {executor : Executor}
    {child : Nat}
    (pending : executor.pendingTimers child ≠ 0) :
    ∃ event next,
      Event.expires event = true ∧
        step? parse settings limits executor event = some next ∧
        next.signalled child = executor.signalled child + 1 := by
  have sent (signal : Signal) :
      (executor.logged child [signal]).signalled child =
        executor.signalled child + 1 := by
    rw [signalled_logged, if_pos rfl, List.length_singleton]
  cases found : executor.subprocesses child with
  | none =>
      rw [pendingTimers, found] at pending
      exact absurd rfl pending
  | some subprocess =>
      rw [pendingTimers_found found] at pending
      by_cases grace : subprocess.graceTimers = 0
      · have armed : subprocess.forceKillArmed = true := by
          by_contra unarmed
          rw [Bool.not_eq_true] at unarmed
          rw [Subprocess.pendingTimers, grace, unarmed] at pending
          exact pending rfl
        refine ⟨.process child (.forceKill none),
          (executor.put child
            { subprocess with forceKillArmed := false }).killProcessGroup
              child .SIGKILL none,
          rfl, ?_, sent .SIGKILL⟩
        rw [step?, found]
        exact if_pos armed
      · refine ⟨.process child (.grace none),
          (executor.put child
            { subprocess with
              graceTimers := subprocess.graceTimers - 1 }).killProcessGroup
                child .SIGKILL none,
          rfl, ?_, sent .SIGKILL⟩
        rw [step?, found]
        exact if_neg grace

/-- Where a promise is settled too early, a signal may come too late. -/
theorem settlesCleanly_of_silent
    {executor : Executor}
    {events : List Event}
    (ran :
      Stepping.run? (step? parse settings limits) initial events =
        some executor)
    (silent : StaysSilent parse settings limits events executor) :
    Stepping.Along (step? parse settings limits) SettlesCleanly initial
      events := by
  rintro earlier later event before rfl ranEarlier child timers alive leaves
  by_contra pending
  obtain ⟨same, ranBefore, rest⟩ := Stepping.run?_append_eq_some.mp ran
  cases ranEarlier.symm.trans ranBefore
  obtain ⟨ending, stepped, ranLater⟩ := Stepping.run?_cons.mp rest
  have tidy := tidy_of_run ranEarlier
  have moved := move_of_step tidy stepped
  have ended := ended_of_leaves tidy leaves stepped
  have kept := leaves.unique (leaves_of_ended moved alive ended)
  have atEnd := (keptEnded_of_run (tidy.move moved) ended ranLater).2
  have ranEnding :
      Stepping.run? (step? parse settings limits) initial
          (earlier ++ [event]) =
        some ending :=
    Stepping.run?_concat.mpr ⟨before, ranEarlier, stepped⟩
  -- The run has sent no signal since, so the timer is still pending.
  have quiet :
      executor.signalled child = ending.signalled child := by
    refine silent [] executor (by simp [OnlyExpiries]) rfl
      (earlier ++ [event]) later ending executor child ?_ ranEnding ranLater
      ended
    simp
  have total := atEnd.total
  have left : executor.pendingTimers child ≠ 0 := by omega
  obtain ⟨expiry, final, expires, expired, signal⟩ :=
    pending_expires parse settings limits left
  have late :
      final.signalled child = ending.signalled child := by
    refine silent [expiry] final ?_
      (Stepping.run?_cons.mpr ⟨final, expired, rfl⟩)
      (earlier ++ [event]) (later ++ [expiry]) ending final child ?_ ranEnding
      (Stepping.run?_concat.mpr ⟨executor, ranLater, expired⟩) ended
    · intro other member
      rw [List.mem_singleton.mp member]
      exact expires
    · simp
  omega

/--
After a run, and whichever timers may yet expire, no signal is sent to a
process that has ended, exactly when no event of the run has ended a process
and left one of its timers pending.
-/
theorem staysSilent_iff
    {executor : Executor}
    {events : List Event}
    (ran :
      Stepping.run? (step? parse settings limits) initial events =
        some executor) :
    StaysSilent parse settings limits events executor ↔
      Stepping.Along (step? parse settings limits) SettlesCleanly initial
        events := by
  refine ⟨settlesCleanly_of_silent ran, ?_⟩
  intro cleanly later final expiries ranLater
  apply silentAfterEnd_of_cleanly
  apply cleanly.append ran
  intro earlier rest event before split _
  exact settlesCleanly_of_expires
    (expiries event (split ▸ List.mem_append_right _ List.mem_cons_self))

end Silence

/-! ## A job that is cancelled -/

/-- Whether an event leaves no timer of the process behind. -/
def checkSettles (executor : Executor) : Event → Bool
  | .spawn .. => true
  | .cancel runId refused =>
      refused.isNone || (executor.activeByRunId runId).isNone
  | .process child event =>
      !event.settles || executor.outliving child event = 0

theorem settlesCleanly_of_checkSettles
    {executor : Executor}
    {event : Event}
    (checked : checkSettles executor event = true) :
    SettlesCleanly executor event := by
  intro child timers _ leaves
  cases leaves with
  | cancel active left =>
      rw [checkSettles, active] at checked
      cases checked
  | process settles left =>
      rw [checkSettles, settles] at checked
      exact left.trans (of_decide_eq_true checked)

def defaultLimits : Limits where
  maxStdoutBytes := 65536
  maxResultOutputBytes := 65536
  maxStderrBytes := 65536

/-- The process ends by the `SIGTERM` of `cancel`. -/
def terminated : ProcessEvent :=
  .close none (some "SIGTERM") "2026-01-01T00:01:00.000Z"

/-- The timer has expired, refused, by the time the process has ended. -/
theorem staysSilent_slowExit :
    ∃ executor,
      StaysSilent ExitClassification.refuseText
        { requireRuntimeIsolation := false } defaultLimits
        [.spawn 0 ExitClassification.exportJob, .cancel "run-1" none,
          .process 0 (.grace (some "kill EPERM")), .process 0 terminated]
        executor := by
  refine ⟨_, (staysSilent_iff rfl).mpr ?_⟩
  exact Stepping.along_of_checkAlong checkSettles
    settlesCleanly_of_checkSettles rfl

/-- No signal ever follows the end of a process. -/
def AlwaysSilent : Prop :=
  ∀ (parse : List Nat → Except String Json)
    (settings : JobRuntimeExecutor.Settings) (limits : Limits)
    (events : List Event) (executor : Executor),
    Stepping.run? (step? parse settings limits) initial events =
      some executor →
    SilentAfterEnd parse settings limits events

/--
The process ends within the grace period of `cancel`, or by the `error` event
of the refused `SIGTERM` of its timeout, and `SIGKILL` is sent after it.
-/
theorem signal_after_end :
    ¬ AlwaysSilent ∧
      ∃ before after,
        Stepping.run?
            (step? ExitClassification.refuseText
              { requireRuntimeIsolation := false } defaultLimits) initial
            [.spawn 0 ExitClassification.exportJob,
              .process 0 (.timeout (some "kill EPERM"))] =
          some before ∧
        step? ExitClassification.refuseText
            { requireRuntimeIsolation := false } defaultLimits before
            (.process 0 (.forceKill none)) =
          some after ∧
        before.Ended 0 ∧
        after.signalled 0 = before.signalled 0 + 1 := by
  constructor
  · intro always
    let ended : List Event :=
      [.spawn 0 ExitClassification.exportJob, .cancel "run-1" none,
        .process 0 terminated]
    have silent :=
      always ExitClassification.refuseText { requireRuntimeIsolation := false }
        defaultLimits (ended ++ [.process 0 (.grace none)]) _ rfl
    have late := silent ended [.process 0 (.grace none)] _ _ 0 rfl rfl rfl
      ⟨_, rfl, rfl⟩
    exact absurd late (by decide)
  · exact ⟨_, _, rfl, rfl, ⟨_, rfl, rfl⟩, rfl⟩

end Executor

end KillTimers

end IgaScheduler

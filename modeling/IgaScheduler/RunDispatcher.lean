import IgaScheduler.StepRuns
import Mathlib.Algebra.Group.Nat.Defs

namespace IgaScheduler

/-!
# The passes of `RunDispatcher`

A timer starts a pass, a pass lists the queued runs and executes them one after
the other, and sets the next timer when it is over, unless `_timer` is `null`
by then.  Passes that have not been able to execute anything make the delay
longer.
-/

/-- The options that the timers depend on. -/
structure DispatcherOptions where
  intervalMs : Nat := 5000
  batchSize : Nat := 10
  backoffThreshold : Nat := 3
  maxBackoffMs : Nat := 60000

/-- How far a pass has come. -/
inductive DispatchPass where
  /-- `listQueuedRunIds` is awaited. -/
  | listing
  /-- `executeRun({ runId })` is awaited; `rest` are still to come. -/
  | executing (runId : String) (rest : List String) (anySuccess : Bool)
  deriving DecidableEq, Repr

/-- What a pass that is over has done. -/
inductive PassOutcome where
  | success
  | failure
  /-- Nothing was queued. -/
  | empty
  deriving DecidableEq, Repr

/-- The passes since the last one that has executed a run, but the empty ones. -/
def failuresInARow : List PassOutcome → Nat
  | [] => 0
  | .success :: _ => 0
  | .failure :: older => failuresInARow older + 1
  | .empty :: older => failuresInARow older

structure RunDispatcher where
  timer : Option Nat
  running : Bool
  consecutiveFailures : Nat
  /-- The timers that have neither fired nor been cleared, with their delays. -/
  armed : List (Nat × Nat)
  /-- The passes under way, by the timer that has started them. -/
  passes : List (Nat × DispatchPass)
  /-- What the next `setTimeout` returns. -/
  nextTimer : Nat
  /-- The passes that are over, newest first. -/
  outcomes : List PassOutcome

namespace RunDispatcher

/-- What can happen next. -/
inductive Event where
  | start
  | stop
  /-- A timer fires. -/
  | fire (timer : Nat)
  /-- `listQueuedRunIds` returns to the pass. -/
  | listed (timer : Nat) (runIds : List String)
  /-- `listQueuedRunIds` throws. -/
  | listFailed (timer : Nat)
  /-- `executeRun` returns, or throws. -/
  | executed (timer : Nat) (succeeded : Bool)
  deriving DecidableEq

/-- A dispatcher that has been constructed. -/
def initial : RunDispatcher where
  timer := none
  running := false
  consecutiveFailures := 0
  armed := []
  passes := []
  nextTimer := 0
  outcomes := []

section Steps

variable (options : DispatcherOptions)

/-- `_backoffMs`, after that many failures in a row. -/
def backoffMs (consecutiveFailures : Nat) : Nat :=
  if consecutiveFailures < options.backoffThreshold then
    options.intervalMs
  else
    min
      (options.intervalMs *
        2 ^ (consecutiveFailures - options.backoffThreshold))
      options.maxBackoffMs

/-- `_schedule`. -/
def schedule (dispatcher : RunDispatcher) (delayMs : Nat) : RunDispatcher :=
  { dispatcher with
    timer := some dispatcher.nextTimer
    armed := (dispatcher.nextTimer, delayMs) :: dispatcher.armed
    nextTimer := dispatcher.nextTimer + 1 }

def start (dispatcher : RunDispatcher) : RunDispatcher :=
  dispatcher.schedule options.intervalMs

def stop (dispatcher : RunDispatcher) : RunDispatcher :=
  { dispatcher with
    timer := none
    armed :=
      dispatcher.armed.filter fun armed => dispatcher.timer ≠ some armed.1 }

/-- The callback of a timer, up to the first `await` of `_pass`. -/
def fire (dispatcher : RunDispatcher) (timer : Nat) : RunDispatcher :=
  let fired :=
    { dispatcher with
      armed := dispatcher.armed.eraseP fun armed => armed.1 = timer }
  if fired.running then
    fired.schedule options.intervalMs
  else
    { fired with
      running := true
      passes := (timer, .listing) :: fired.passes }

/-- What a finished pass makes of `_consecutiveFailures`. -/
def PassOutcome.count : PassOutcome → Nat → Nat
  | .success, _ => 0
  | .failure, consecutiveFailures => consecutiveFailures + 1
  | .empty, consecutiveFailures => consecutiveFailures

/-- The end of `_pass`, its `finally` included. -/
def finish
    (dispatcher : RunDispatcher)
    (timer : Nat)
    (outcome : PassOutcome) :
    RunDispatcher :=
  let consecutiveFailures :=
    PassOutcome.count outcome dispatcher.consecutiveFailures
  let finished :=
    { dispatcher with
      running := false
      consecutiveFailures := consecutiveFailures
      passes := dispatcher.passes.filter fun pass => pass.1 ≠ timer
      outcomes := outcome :: dispatcher.outcomes }
  if finished.timer.isSome then
    finished.schedule (backoffMs options consecutiveFailures)
  else
    finished

/-- The pass awaits something else from now on. -/
def await
    (dispatcher : RunDispatcher)
    (timer : Nat)
    (awaiting : DispatchPass) :
    RunDispatcher :=
  { dispatcher with
    passes := dispatcher.passes.map fun pass =>
      if pass.1 = timer then (timer, awaiting) else pass }

/-- The loop of a pass goes on to the next run, or the pass is over. -/
def goOn
    (dispatcher : RunDispatcher)
    (timer : Nat)
    (runIds : List String)
    (anySuccess : Bool) :
    RunDispatcher :=
  match runIds with
  | runId :: rest =>
      dispatcher.await timer (.executing runId rest anySuccess)
  | [] => finish options dispatcher timer
      (if anySuccess then .success else .failure)

def step? (dispatcher : RunDispatcher) : Event → Option RunDispatcher
  | .start => some (start options dispatcher)
  | .stop => some dispatcher.stop
  | .fire timer =>
      if timer ∈ dispatcher.armed.map Prod.fst then
        some (fire options dispatcher timer)
      else
        none
  | .listed timer runIds =>
      match dispatcher.passes.lookup timer with
      | some .listing =>
          if runIds.length ≤ options.batchSize then
            match runIds with
            | [] => some (finish options dispatcher timer .empty)
            | runId :: rest =>
                some (goOn options dispatcher timer (runId :: rest) false)
          else
            none
      | _ => none
  | .listFailed timer =>
      match dispatcher.passes.lookup timer with
      | some .listing => some (finish options dispatcher timer .failure)
      | _ => none
  | .executed timer succeeded =>
      match dispatcher.passes.lookup timer with
      | some (.executing _ rest anySuccess) =>
          some (goOn options dispatcher timer rest
            (anySuccess || succeeded))
      | _ => none

end Steps

/-! ## What every step keeps -/

/-- `_running` tells whether a pass is under way, and one at most is. -/
inductive Guarded : Bool → List (Nat × DispatchPass) → Prop where
  | idle : Guarded false []
  | busy (timer : Nat) (pass : DispatchPass) : Guarded true [(timer, pass)]

/-- What is known after that many starts, and before or after a `stop`. -/
structure Orderly
    (options : DispatcherOptions)
    (starts : Nat)
    (stopped : Bool)
    (dispatcher : RunDispatcher) :
    Prop where
  guarded : Guarded dispatcher.running dispatcher.passes
  chains :
    dispatcher.armed.length + dispatcher.passes.length ≤ starts
  /-- Without a `stop`, no chain of timers and passes is lost. -/
  alive :
    stopped = false →
      starts ≤ dispatcher.armed.length + dispatcher.passes.length ∧
        (0 < starts → dispatcher.timer.isSome = true)
  /-- A single chain is the one that `_timer` knows. -/
  known :
    starts ≤ 1 →
      ∀ armed ∈ dispatcher.armed, dispatcher.timer = some armed.1
  counted :
    dispatcher.consecutiveFailures = failuresInARow dispatcher.outcomes
  bounded :
    ∀ armed ∈ dispatcher.armed,
      min options.intervalMs options.maxBackoffMs ≤ armed.2 ∧
        armed.2 ≤ max options.intervalMs options.maxBackoffMs

section Steps

variable {options : DispatcherOptions}
variable {starts : Nat}
variable {stopped : Bool}
variable {dispatcher next : RunDispatcher}

/-- The delay lies between the interval and the longest backoff. -/
theorem backoffMs_bounded
    (options : DispatcherOptions)
    (consecutiveFailures : Nat) :
    min options.intervalMs options.maxBackoffMs ≤
        backoffMs options consecutiveFailures ∧
      backoffMs options consecutiveFailures ≤
        max options.intervalMs options.maxBackoffMs := by
  have doubled :
      options.intervalMs ≤
        options.intervalMs *
          2 ^ (consecutiveFailures - options.backoffThreshold) :=
    Nat.le_mul_of_pos_right _ (Nat.two_pow_pos _)
  unfold backoffMs
  split <;> omega

theorem intervalMs_bounded (options : DispatcherOptions) :
    min options.intervalMs options.maxBackoffMs ≤ options.intervalMs ∧
      options.intervalMs ≤ max options.intervalMs options.maxBackoffMs :=
  ⟨Nat.min_le_left _ _, Nat.le_max_left _ _⟩

theorem count_failuresInARow
    (outcome : PassOutcome)
    (outcomes : List PassOutcome) :
    PassOutcome.count outcome (failuresInARow outcomes) =
      failuresInARow (outcome :: outcomes) := by
  cases outcome <;> rfl

/-- What a step does: a pass that awaits something is over or goes on. -/
inductive Stepped
    (options : DispatcherOptions)
    (dispatcher : RunDispatcher) :
    Event →
      RunDispatcher →
      Prop where
  | started : Stepped options dispatcher .start (start options dispatcher)
  | stopped : Stepped options dispatcher .stop dispatcher.stop
  | fired
      (timer : Nat)
      (set : timer ∈ dispatcher.armed.map Prod.fst) :
      Stepped options dispatcher (.fire timer)
        (fire options dispatcher timer)
  | finished
      (event : Event)
      (timer : Nat)
      (pass : DispatchPass)
      (outcome : PassOutcome)
      (found : dispatcher.passes.lookup timer = some pass)
      (noCall : event ≠ .start ∧ event ≠ .stop) :
      Stepped options dispatcher event
        (finish options dispatcher timer outcome)
  | wentOn
      (event : Event)
      (timer : Nat)
      (pass awaiting : DispatchPass)
      (found : dispatcher.passes.lookup timer = some pass)
      (noCall : event ≠ .start ∧ event ≠ .stop) :
      Stepped options dispatcher event
        (dispatcher.await timer awaiting)

theorem stepped_of_goOn
    {event : Event}
    {timer : Nat}
    {pass : DispatchPass}
    (found : dispatcher.passes.lookup timer = some pass)
    (noCall : event ≠ .start ∧ event ≠ .stop)
    (runIds : List String)
    (anySuccess : Bool) :
    Stepped options dispatcher event
      (goOn options dispatcher timer runIds anySuccess) := by
  cases runIds with
  | nil =>
      exact .finished event timer pass _ found noCall
  | cons runId rest =>
      exact .wentOn event timer pass _ found noCall

theorem stepped_of_step
    {event : Event}
    (stepped : step? options dispatcher event = some next) :
    Stepped options dispatcher event next := by
  cases event with
  | start =>
      cases stepped
      exact .started
  | stop =>
      cases stepped
      exact .stopped
  | fire timer =>
      simp only [step?] at stepped
      split at stepped
      · rename_i set
        cases stepped
        exact .fired timer set
      · cases stepped
  | listed timer runIds =>
      simp only [step?] at stepped
      split at stepped
      · rename_i found
        split at stepped
        · split at stepped
          · cases stepped
            exact .finished _ timer _ .empty found ⟨nofun, nofun⟩
          · cases stepped
            refine stepped_of_goOn found ?_ _ false
            exact ⟨nofun, nofun⟩
        · cases stepped
      · cases stepped
  | listFailed timer =>
      simp only [step?] at stepped
      split at stepped
      · rename_i found
        cases stepped
        exact .finished _ timer _ .failure found ⟨nofun, nofun⟩
      · cases stepped
  | executed timer succeeded =>
      simp only [step?] at stepped
      split at stepped
      · rename_i found
        cases stepped
        refine stepped_of_goOn found ?_ _ _
        exact ⟨nofun, nofun⟩
      · cases stepped

/-- The pass that awaits something is the only one. -/
theorem Guarded.eq_of_lookup
    {running : Bool}
    {passes : List (Nat × DispatchPass)}
    {timer : Nat}
    {pass : DispatchPass}
    (guarded : Guarded running passes)
    (found : passes.lookup timer = some pass) :
    running = true ∧ passes = [(timer, pass)] := by
  cases guarded with
  | idle =>
      cases found
  | busy other stage =>
      rw [List.lookup_cons] at found
      split at found
      · rename_i same
        cases found
        rw [beq_iff_eq.mp same]
        exact ⟨rfl, rfl⟩
      · cases found

theorem Guarded.passes_eq_nil
    {running : Bool}
    {passes : List (Nat × DispatchPass)}
    (guarded : Guarded running passes)
    (idle : ¬ running = true) :
    passes = [] := by
  cases guarded with
  | idle =>
      rfl
  | busy timer pass =>
      exact (idle rfl).elim

theorem Guarded.length_le_one
    {running : Bool}
    {passes : List (Nat × DispatchPass)}
    (guarded : Guarded running passes) :
    passes.length ≤ 1 ∧ (running = true ↔ passes.length = 1) := by
  cases guarded <;> simp

theorem Orderly.initial : Orderly options 0 false initial where
  guarded := .idle
  chains := Nat.le_refl 0
  alive _ := ⟨Nat.le_refl 0, nofun⟩
  known _ := nofun
  counted := rfl
  bounded := nofun

/-- Setting a timer makes one chain more of what is under way. -/
theorem Orderly.schedule
    {delayMs : Nat}
    (guarded : Guarded dispatcher.running dispatcher.passes)
    (chains :
      dispatcher.armed.length + 1 + dispatcher.passes.length ≤ starts)
    (alive :
      stopped = false →
        starts ≤ dispatcher.armed.length + 1 + dispatcher.passes.length)
    (counted :
      dispatcher.consecutiveFailures = failuresInARow dispatcher.outcomes)
    (earlier :
      ∀ armed ∈ dispatcher.armed,
        min options.intervalMs options.maxBackoffMs ≤ armed.2 ∧
          armed.2 ≤ max options.intervalMs options.maxBackoffMs)
    (bounded :
      min options.intervalMs options.maxBackoffMs ≤ delayMs ∧
        delayMs ≤ max options.intervalMs options.maxBackoffMs) :
    Orderly options starts stopped (dispatcher.schedule delayMs) where
  guarded := guarded
  chains := by
    simp only [RunDispatcher.schedule, List.length_cons]
    omega
  alive running := by
    simp only [RunDispatcher.schedule, List.length_cons]
    exact ⟨alive running, fun _ => rfl⟩
  known single armed member := by
    have none : dispatcher.armed = [] :=
      List.eq_nil_of_length_eq_zero (by omega)
    simp only [RunDispatcher.schedule, none, List.mem_singleton] at member
    rw [member]
    rfl
  counted := counted
  bounded armed member := by
    rcases List.mem_cons.mp member with rfl | old
    · exact bounded
    · exact earlier armed old

theorem Orderly.start
    (orderly : Orderly options starts stopped dispatcher) :
    Orderly options (starts + 1) stopped
      (RunDispatcher.start options dispatcher) := by
  have chains := orderly.chains
  refine .schedule orderly.guarded (by omega) ?_ orderly.counted
    orderly.bounded (intervalMs_bounded options)
  intro running
  have alive := (orderly.alive running).1
  omega

theorem Orderly.stop
    (orderly : Orderly options starts stopped dispatcher) :
    Orderly options starts true dispatcher.stop where
  guarded := orderly.guarded
  chains := by
    have fewer :=
      List.length_filter_le
        (fun armed => decide (dispatcher.timer ≠ some armed.1))
        dispatcher.armed
    have chains := orderly.chains
    simp only [RunDispatcher.stop]
    omega
  alive := nofun
  known single armed member := by
    obtain ⟨earlier, unknown⟩ := List.mem_filter.mp member
    rw [orderly.known single armed earlier] at unknown
    simp at unknown
  counted := orderly.counted
  bounded armed member :=
    orderly.bounded armed (List.mem_filter.mp member).1

/-- A timer that fires starts a pass, or is set anew while one is under way. -/
theorem Orderly.fire
    {timer : Nat}
    (orderly : Orderly options starts stopped dispatcher)
    (set : timer ∈ dispatcher.armed.map Prod.fst) :
    Orderly options starts stopped
      (RunDispatcher.fire options dispatcher timer) := by
  obtain ⟨armed, member, rfl⟩ := List.mem_map.mp set
  have fewer :
      (dispatcher.armed.eraseP fun other => other.1 = armed.1).length + 1 =
        dispatcher.armed.length := by
    rw [List.length_eraseP_of_mem member (by simp)]
    exact Nat.succ_pred_eq_of_pos (List.length_pos_of_mem member)
  have chains := orderly.chains
  have earlier :
      ∀ other ∈ dispatcher.armed.eraseP fun other => other.1 = armed.1,
        other ∈ dispatcher.armed :=
    fun _ left => List.mem_of_mem_eraseP left
  unfold RunDispatcher.fire
  dsimp only
  split
  · refine .schedule orderly.guarded ?_ ?_ orderly.counted
      (fun other left => orderly.bounded other (earlier other left))
      (intervalMs_bounded options)
    · dsimp only
      omega
    · intro running
      have alive := (orderly.alive running).1
      dsimp only
      omega
  · rename_i idle
    have none := orderly.guarded.passes_eq_nil idle
    rw [none, List.length_nil] at chains
    refine ⟨?_, ?_, ?_, ?_, orderly.counted,
      fun other left => orderly.bounded other (earlier other left)⟩
    · dsimp only
      rw [none]
      exact .busy armed.1 .listing
    · dsimp only
      rw [none, List.length_singleton]
      omega
    · intro running
      obtain ⟨alive, known⟩ := orderly.alive running
      rw [none, List.length_nil] at alive
      dsimp only
      rw [none, List.length_singleton]
      exact ⟨by omega, known⟩
    · exact fun single other left =>
        orderly.known single other (earlier other left)

/-- A pass that is over hands its chain on to a timer, unless it is stopped. -/
theorem Orderly.finish
    {timer : Nat}
    {pass : DispatchPass}
    (orderly : Orderly options starts stopped dispatcher)
    (found : dispatcher.passes.lookup timer = some pass)
    (outcome : PassOutcome) :
    Orderly options starts stopped
      (RunDispatcher.finish options dispatcher timer outcome) := by
  obtain ⟨-, only⟩ := orderly.guarded.eq_of_lookup found
  have handedOn :
      (dispatcher.passes.filter fun pass => pass.1 ≠ timer) = [] := by
    simp [only]
  have chains := orderly.chains
  rw [only, List.length_singleton] at chains
  have counted :
      PassOutcome.count outcome dispatcher.consecutiveFailures =
        failuresInARow (outcome :: dispatcher.outcomes) := by
    rw [orderly.counted, count_failuresInARow]
  unfold RunDispatcher.finish
  dsimp only
  rw [handedOn]
  split
  · refine .schedule .idle ?_ ?_ counted orderly.bounded
      (backoffMs_bounded options _)
    · dsimp only
      rw [List.length_nil]
      omega
    · intro running
      have alive := (orderly.alive running).1
      rw [only, List.length_singleton] at alive
      dsimp only
      rw [List.length_nil]
      omega
  · rename_i unset
    refine ⟨.idle, ?_, ?_, orderly.known, counted, orderly.bounded⟩
    · dsimp only
      rw [List.length_nil]
      omega
    · intro running
      obtain ⟨alive, known⟩ := orderly.alive running
      rw [only, List.length_singleton] at alive
      exact (unset (known (by omega))).elim

theorem Orderly.await
    {timer : Nat}
    {pass : DispatchPass}
    (orderly : Orderly options starts stopped dispatcher)
    (found : dispatcher.passes.lookup timer = some pass)
    (awaiting : DispatchPass) :
    Orderly options starts stopped (dispatcher.await timer awaiting) := by
  obtain ⟨busy, only⟩ := orderly.guarded.eq_of_lookup found
  obtain ⟨-, chains, alive, known, counted, bounded⟩ := orderly
  have same :
      (dispatcher.passes.map fun pass =>
          if pass.1 = timer then (timer, awaiting) else pass) =
        [(timer, awaiting)] := by
    simp [only]
  refine ⟨?_, ?_, ?_, known, counted, bounded⟩
  · simp only [RunDispatcher.await, same, busy]
    exact .busy _ _
  · simp only [RunDispatcher.await, List.length_map]
    exact chains
  · simp only [RunDispatcher.await, List.length_map]
    exact alive

theorem Orderly.step
    {event : Event}
    (orderly : Orderly options starts stopped dispatcher)
    (stepped : step? options dispatcher event = some next) :
    Orderly options (starts + if event = .start then 1 else 0)
      (stopped || event = .stop) next := by
  cases stepped_of_step stepped with
  | started =>
      simpa using orderly.start
  | stopped =>
      simpa using orderly.stop
  | fired timer set =>
      simpa using orderly.fire set
  | finished event timer pass outcome found noCall =>
      simpa [noCall] using orderly.finish found outcome
  | wentOn event timer pass awaiting found noCall =>
      simpa [noCall] using orderly.await found awaiting

/-- What is known along every run. -/
theorem orderly_of_run
    {events : List Event}
    (ran :
      Stepping.run? (step? options) RunDispatcher.initial events =
        some dispatcher) :
    Orderly options (events.count .start) (decide (.stop ∈ events))
      dispatcher := by
  refine Stepping.run?_induction
    (fun earlier state =>
      Orderly options (earlier.count .start) (decide (.stop ∈ earlier))
        state)
    .initial ?_ ran
  intro earlier state next event known stepped
  have kept := known.step stepped
  have starts :
      (earlier ++ [event]).count .start =
        earlier.count .start + if event = .start then 1 else 0 := by
    rw [List.count_append, List.count_singleton]
    simp
  have stops :
      decide (.stop ∈ earlier ++ [event]) =
        (decide (.stop ∈ earlier) || decide (event = .stop)) := by
    simp [eq_comm]
  rw [starts, stops]
  exact kept

/--
Whatever is started and stopped and whatever throws: passes never overlap, there
are never more chains of timers and passes than starts, and as long as nobody
stops the dispatcher every start keeps its chain.
-/
theorem passes_never_overlap
    {events : List Event}
    (ran :
      Stepping.run? (step? options) RunDispatcher.initial events =
        some dispatcher) :
    dispatcher.passes.length ≤ 1 ∧
      (dispatcher.running = true ↔ dispatcher.passes.length = 1) ∧
      dispatcher.armed.length + dispatcher.passes.length ≤
        events.count .start ∧
      (.stop ∉ events →
        dispatcher.armed.length + dispatcher.passes.length =
          events.count .start) := by
  have orderly := orderly_of_run ran
  have single := orderly.guarded.length_le_one
  refine ⟨single.1, single.2, orderly.chains, fun unstopped => ?_⟩
  exact Nat.le_antisymm orderly.chains
    (orderly.alive (decide_eq_false unstopped)).1

/-- It is stopped and started anew while its pass waits for the queued runs. -/
def restartedAtPass : List Event :=
  [.start, .fire 0, .stop, .start, .fire 1, .listed 0 ["first", "second"],
    .executed 0 false]

/-- Two chains are under way, but the timer of the second one had to wait. -/
theorem passes_never_overlap_restartedAtPass :
    ∃ dispatcher,
      Stepping.run? (step? {}) RunDispatcher.initial restartedAtPass =
          some dispatcher ∧
        dispatcher.armed.map Prod.fst = [2] ∧
        dispatcher.passes = [(0, .executing "second" [] false)] ∧
        dispatcher.passes.length ≤ 1 :=
  ⟨_, rfl, rfl, rfl, (@passes_never_overlap {} _ restartedAtPass rfl).1⟩

/-! ## What `stop` stops -/

/-- No timer fires any more, unless somebody starts the dispatcher again. -/
def Silenced
    (options : DispatcherOptions)
    (dispatcher : RunDispatcher) :
    Prop :=
  ∀ {events : List Event} {final : RunDispatcher} (timer : Nat),
    .start ∉ events →
    Stepping.run? (step? options) dispatcher events = some final →
    step? options final (.fire timer) = none

/-- No timer is set, and a pass that is under way will not set one. -/
structure Off (dispatcher : RunDispatcher) : Prop where
  timer : dispatcher.timer = none
  armed : dispatcher.armed = []

theorem Off.step
    {event : Event}
    (off : dispatcher.Off)
    (noStart : event ≠ .start)
    (stepped : step? options dispatcher event = some next) :
    next.Off := by
  obtain ⟨unset, unarmed⟩ := off
  cases stepped_of_step stepped with
  | started =>
      exact (noStart rfl).elim
  | stopped =>
      exact ⟨rfl, by simp [RunDispatcher.stop, unarmed]⟩
  | fired timer set =>
      simp [unarmed] at set
  | finished event timer pass outcome found noCall =>
      unfold RunDispatcher.finish
      simp only [unset, Option.isSome_none, Bool.false_eq_true, if_false]
      exact ⟨rfl, unarmed⟩
  | wentOn event timer pass awaiting found noCall =>
      exact ⟨unset, unarmed⟩

theorem Off.silenced (off : dispatcher.Off) : Silenced options dispatcher := by
  intro events final timer noStart ran
  have stillOff : final.Off := by
    refine Stepping.run?_invariant (fun _ event => event ≠ .start) Off off
      (fun known noStart stepped => known.step noStart stepped) ?_ ran
    rintro earlier later event before shape - rfl
    rw [shape] at noStart
    exact noStart (by simp)
  simp [step?, stillOff.armed]

/--
`stop` clears the timer it knows: it silences the dispatcher exactly when no
other timer is set, as it is with a dispatcher that has been started once.
-/
theorem stop_silences_iff
    {events : List Event}
    (ran :
      Stepping.run? (step? options) RunDispatcher.initial events =
        some dispatcher) :
    (Silenced options dispatcher.stop ↔
        ∀ armed ∈ dispatcher.armed, dispatcher.timer = some armed.1) ∧
      (events.count .start ≤ 1 → Silenced options dispatcher.stop) := by
  have silences
      (known :
        ∀ armed ∈ dispatcher.armed, dispatcher.timer = some armed.1) :
      Silenced options dispatcher.stop := by
    refine Off.silenced ⟨rfl, ?_⟩
    refine List.filter_eq_nil_iff.mpr fun armed member => ?_
    simp [known armed member]
  refine ⟨⟨?_, silences⟩, fun single =>
    silences ((orderly_of_run ran).known single)⟩
  intro silenced armed member
  by_contra unknown
  -- the timer that is not the known one is still set after the `stop`
  have left : armed ∈ dispatcher.stop.armed :=
    List.mem_filter.mpr ⟨member, by simpa using unknown⟩
  have refused := @silenced [] dispatcher.stop armed.1 nofun rfl
  simp only [step?] at refused
  rw [if_pos (List.mem_map_of_mem left)] at refused
  cases refused

/-- Once both chains wait for a timer, `stop` clears one of the two. -/
theorem stop_silences_iff_restartedAtPass :
    ∃ dispatcher,
      Stepping.run? (step? {}) RunDispatcher.initial
          (restartedAtPass ++ [.executed 0 false]) =
        some dispatcher ∧
        ¬ Silenced {} dispatcher.stop := by
  refine ⟨_, rfl, fun silenced => ?_⟩
  have known :=
    (@stop_silences_iff {} _ (restartedAtPass ++ [.executed 0 false])
      rfl).1.mp silenced
  exact absurd known (by decide)

/-! ## How long the next pass waits -/

/-- A pass that ends while the timer is set sets the next one by its failures. -/
theorem armed_of_finish
    {timer : Nat}
    {outcome : PassOutcome}
    (counted :
      dispatcher.consecutiveFailures = failuresInARow dispatcher.outcomes)
    (unstopped : dispatcher.timer ≠ none) :
    (RunDispatcher.finish options dispatcher timer outcome).armed =
      (dispatcher.nextTimer,
          backoffMs options
            (failuresInARow (outcome :: dispatcher.outcomes))) ::
        dispatcher.armed := by
  unfold RunDispatcher.finish
  simp only [Option.isSome_iff_ne_none.mpr unstopped, if_true, counted,
    count_failuresInARow]
  rfl

/--
The more passes have failed in a row, the longer the next one waits: the delay
is the interval below the threshold and doubles from there on, up to its bound.
An empty pass counts for nothing, and one executed run resets the count.
-/
theorem failures_slow_down
    {events : List Event}
    (ran :
      Stepping.run? (step? options) RunDispatcher.initial events =
        some dispatcher) :
    (∀ armed ∈ dispatcher.armed,
        min options.intervalMs options.maxBackoffMs ≤ armed.2 ∧
          armed.2 ≤ max options.intervalMs options.maxBackoffMs) ∧
      ∀ {event : Event} {next : RunDispatcher} {outcome : PassOutcome},
        step? options dispatcher event = some next →
        next.outcomes = outcome :: dispatcher.outcomes →
        dispatcher.timer ≠ none →
        next.armed =
          (dispatcher.nextTimer,
              backoffMs options (failuresInARow next.outcomes)) ::
            dispatcher.armed := by
  have orderly := orderly_of_run ran
  refine ⟨orderly.bounded, ?_⟩
  intro event next outcome stepped ended unstopped
  have going
      (same : next.outcomes = dispatcher.outcomes) :
      False := by
    rw [same] at ended
    exact List.cons_ne_self _ _ ended.symm
  cases stepped_of_step stepped with
  | started | stopped | wentOn =>
      exact (going rfl).elim
  | fired timer set =>
      refine (going ?_).elim
      unfold RunDispatcher.fire
      dsimp only
      split <;> rfl
  | finished event timer pass finished found noCall =>
      have outcomes :
          (RunDispatcher.finish options dispatcher timer
              finished).outcomes =
            finished :: dispatcher.outcomes := by
        unfold RunDispatcher.finish
        dsimp only
        split <;> rfl
      rw [outcomes]
      exact armed_of_finish orderly.counted unstopped

/-- The listing has thrown four times in a row. -/
def listingFails : List Event :=
  [.start, .fire 0, .listFailed 0, .fire 1, .listFailed 1, .fire 2,
    .listFailed 2, .fire 3]

/-- The fourth failure waits twice as long as the third. -/
theorem failures_slow_down_listingFails :
    ∃ dispatcher next : RunDispatcher,
      Stepping.run? (step? {}) RunDispatcher.initial listingFails =
          some dispatcher ∧
        step? {} dispatcher (.listFailed 3) = some next ∧
        next.armed = [(4, 10000)] := by
  refine ⟨_, _, rfl, rfl, ?_⟩
  exact (@failures_slow_down {} _ listingFails rfl).2
    (show step? {} _ (.listFailed 3) = some _ from rfl) rfl nofun

end Steps

end RunDispatcher

end IgaScheduler

import IgaScheduler.StepRuns

namespace IgaScheduler

/-!
# The timers of the poll loop

`createPollLoop` with the timers that `start` and the polls themselves set.  A
poll computes its free slots when its timer fires and tracks what it has
claimed later; when it is over it sets the next timer, unless the loop is
stopped.  The heartbeats of the loop set no timers and start nothing.
-/

namespace PollTimers

/-- How far a poll has come, after its timer has fired. -/
inductive Phase where
  /-- `claimNextQueued({ limit })` is awaited. -/
  | claiming (limit : Nat)
  /-- `pollOnce` has returned; the callback of the timer has yet to go on. -/
  | returned
  deriving DecidableEq, Repr

/-- A promise in `activeExecutions`. -/
structure Execution where
  promise : Nat
  runId : String
  deriving DecidableEq, Repr

structure PollLoop where
  stopped : Bool
  pollTimer : Option Nat
  /-- The timers of polls that have neither fired nor been cleared. -/
  armed : List Nat
  /-- The polls that are outstanding, by the timer that has started them. -/
  polls : List (Nat × Phase)
  activeExecutions : List Execution
  owned : String → Option String
  /-- What the next `setTimeout` returns. -/
  nextTimer : Nat
  nextPromise : Nat

/-- What can happen next. -/
inductive Event where
  | start
  | stop
  /-- A timer of a poll fires. -/
  | fire (timer : Nat)
  /-- The claim of a poll returns runs and their dispatches. -/
  | claimed (timer : Nat) (runs : List (String × String))
  /-- The claim of a poll throws. -/
  | refused (timer : Nat)
  /-- The callback of a timer goes on after its poll. -/
  | resume (timer : Nat)
  /-- The cleanup of a settled execution runs. -/
  | settle (execution : Execution)

namespace PollLoop

/-- A loop that has been created. -/
def initial : PollLoop where
  stopped := true
  pollTimer := none
  armed := []
  polls := []
  activeExecutions := []
  owned _ := none
  nextTimer := 0
  nextPromise := 0

def scheduleNext (loop : PollLoop) : PollLoop :=
  { loop with
    pollTimer := some loop.nextTimer
    armed := loop.nextTimer :: loop.armed
    nextTimer := loop.nextTimer + 1 }

def start (loop : PollLoop) : PollLoop :=
  if loop.stopped then
    { loop with stopped := false }.scheduleNext
  else
    loop

def stop (loop : PollLoop) : PollLoop :=
  { loop with
    stopped := true
    pollTimer := none
    armed := loop.armed.filter fun timer => loop.pollTimer ≠ some timer }

/-- The phase of an outstanding poll. -/
def setPhase (loop : PollLoop) (timer : Nat) (phase : Phase) : PollLoop :=
  { loop with
    polls := loop.polls.map fun poll =>
      if poll.1 = timer then (timer, phase) else poll }

/-- `track`, for the promise of an execution that has just been started. -/
def track (loop : PollLoop) (run : String × String) : PollLoop :=
  { loop with
    activeExecutions := ⟨loop.nextPromise, run.1⟩ :: loop.activeExecutions
    owned := fun runId => if runId = run.1 then some run.2 else loop.owned runId
    nextPromise := loop.nextPromise + 1 }

/-- The `cleanup` of an execution. -/
def cleanup (loop : PollLoop) (execution : Execution) : PollLoop :=
  { loop with
    activeExecutions := loop.activeExecutions.erase execution
    owned := fun runId =>
      if runId = execution.runId then none else loop.owned runId }

section Steps

variable (maxConcurrency : Nat)

/-- The callback of a timer, up to the first `await` of `pollOnce`. -/
def fire (loop : PollLoop) (timer : Nat) : PollLoop :=
  let freeSlots := maxConcurrency - loop.activeExecutions.length
  { loop with
    armed := loop.armed.erase timer
    polls :=
      (timer, if freeSlots = 0 then .returned else .claiming freeSlots) ::
        loop.polls }

def step? (loop : PollLoop) : Event → Option PollLoop
  | .start => some loop.start
  | .stop => some loop.stop
  | .fire timer =>
      if timer ∈ loop.armed then some (fire maxConcurrency loop timer) else none
  | .claimed timer runs =>
      match loop.polls.lookup timer with
      | some (.claiming limit) =>
          if runs.length ≤ limit then
            some (runs.foldl track (loop.setPhase timer .returned))
          else
            none
      | _ => none
  | .refused timer =>
      match loop.polls.lookup timer with
      | some (.claiming _) => some (loop.setPhase timer .returned)
      | _ => none
  | .resume timer =>
      match loop.polls.lookup timer with
      | some .returned =>
          let ended :=
            { loop with
              polls := loop.polls.filter fun poll => poll.1 ≠ timer }
          some (if loop.stopped then ended else ended.scheduleNext)
      | _ => none
  | .settle execution =>
      if execution ∈ loop.activeExecutions then
        some (loop.cleanup execution)
      else
        none

end Steps

/-! ## The property -/

/-- The cap is kept, and at most one poll is outstanding. -/
structure Capped (maxConcurrency : Nat) (loop : PollLoop) : Prop where
  executions : loop.activeExecutions.length ≤ maxConcurrency
  polls : loop.polls.length ≤ 1

/-- At every point of a run, and also if a timer that is set fires then. -/
def StaysCapped (maxConcurrency : Nat) (events : List Event) : Prop :=
  ∀ earlier later loop,
    events = earlier ++ later →
    Stepping.run? (step? maxConcurrency) initial earlier = some loop →
      Capped maxConcurrency loop ∧
        ∀ timer next,
          step? maxConcurrency loop (.fire timer) = some next →
            Capped maxConcurrency next

/-- `start` takes effect only when no poll is outstanding. -/
def StartsIdle (loop : PollLoop) : Event → Prop
  | .start => loop.stopped = true → loop.polls = []
  | _ => True

/--
There is one timer or one poll at most, the variable `pollTimer` knows the
timer, and what a poll may claim fits beside what is being executed.
-/
structure Single (maxConcurrency : Nat) (loop : PollLoop) : Prop where
  known : ∀ timer ∈ loop.armed, loop.pollTimer = some timer
  idle : loop.stopped = true → loop.armed = []
  single : loop.armed.length + loop.polls.length ≤ 1
  executions : loop.activeExecutions.length ≤ maxConcurrency
  free : ∀ timer limit, (timer, .claiming limit) ∈ loop.polls →
    loop.activeExecutions.length + limit ≤ maxConcurrency

/-! ## What a step keeps -/

variable {maxConcurrency : Nat}
variable {loop next : PollLoop}

theorem Single.capped
    (single : Single maxConcurrency loop) :
    Capped maxConcurrency loop := by
  have one := single.single
  exact ⟨single.executions, by omega⟩

theorem Single.initial : Single maxConcurrency initial where
  known := by rintro timer ⟨⟩
  idle _ := rfl
  single := Nat.zero_le _
  executions := Nat.zero_le _
  free := by rintro timer limit ⟨⟩

/-- A timer is set when there is neither another one nor a poll. -/
theorem Single.scheduleNext
    (single : Single maxConcurrency loop)
    (running : loop.stopped = false)
    (noTimer : loop.armed = [])
    (noPoll : loop.polls = []) :
    Single maxConcurrency loop.scheduleNext where
  known timer member := by
    rw [PollLoop.scheduleNext, noTimer] at member
    rw [List.mem_singleton.mp member]
    rfl
  idle stopped := by
    cases running.symm.trans stopped
  single := by
    rw [PollLoop.scheduleNext, noTimer, noPoll]
    exact Nat.le_refl _
  executions := single.executions
  free := single.free

theorem Single.start
    (single : Single maxConcurrency loop)
    (idle : loop.stopped = true → loop.polls = []) :
    Single maxConcurrency loop.start := by
  unfold PollLoop.start
  split
  · rename_i stopped
    have off : Single maxConcurrency { loop with stopped := false } := by
      refine ⟨single.known, ?_, single.single, single.executions, single.free⟩
      rintro ⟨⟩
    exact off.scheduleNext rfl (single.idle stopped) (idle stopped)
  · exact single

/-- The one timer that is set is the one that `stop` knows. -/
theorem Single.stop
    (single : Single maxConcurrency loop) :
    Single maxConcurrency loop.stop := by
  have cleared :
      (loop.armed.filter fun timer => loop.pollTimer ≠ some timer) = [] := by
    rw [List.filter_eq_nil_iff]
    intro timer member
    simp [single.known timer member]
  unfold PollLoop.stop
  rw [cleared]
  refine ⟨?_, fun _ => rfl, ?_, single.executions, single.free⟩
  · rintro timer ⟨⟩
  · have one := single.single
    dsimp only
    rw [List.length_nil]
    omega

theorem Single.fire
    (single : Single maxConcurrency loop)
    {timer : Nat}
    (armed : timer ∈ loop.armed) :
    Single maxConcurrency (fire maxConcurrency loop timer) := by
  have one := single.single
  obtain ⟨others, set⟩ : ∃ others, loop.armed = timer :: others := by
    cases timers : loop.armed with
    | nil =>
        rw [timers] at armed
        cases armed
    | cons first others =>
        have length : loop.armed.length = others.length + 1 := by
          rw [timers, List.length_cons]
        have none : others = [] := List.eq_nil_of_length_eq_zero (by omega)
        rw [timers, none, List.mem_singleton] at armed
        exact ⟨others, by rw [armed]⟩
  have length : loop.armed.length = others.length + 1 := by
    rw [set, List.length_cons]
  have noOther : others = [] := List.eq_nil_of_length_eq_zero (by omega)
  have noPoll : loop.polls = [] := List.eq_nil_of_length_eq_zero (by omega)
  have cleared : loop.armed.erase timer = [] := by
    rw [set, noOther, List.erase_cons_head]
  unfold PollLoop.fire
  rw [cleared, noPoll]
  refine ⟨by rintro other ⟨⟩, fun _ => rfl, Nat.le_refl _, single.executions,
    ?_⟩
  intro other limit member
  have executions := single.executions
  rw [List.mem_singleton, Prod.mk.injEq] at member
  obtain ⟨-, phase⟩ := member
  split at phase
  · cases phase
  · cases phase
    dsimp only
    omega

/-- A poll that has an entry is the only one. -/
theorem Single.polls_eq
    (single : Single maxConcurrency loop)
    {timer : Nat}
    {phase : Phase}
    (outstanding : loop.polls.lookup timer = some phase) :
    loop.polls = [(timer, phase)] ∧ loop.armed = [] := by
  have one := single.single
  cases polls : loop.polls with
  | nil =>
      rw [polls] at outstanding
      cases outstanding
  | cons poll others =>
      have length : loop.polls.length = others.length + 1 := by
        rw [polls, List.length_cons]
      have noOther : others = [] := List.eq_nil_of_length_eq_zero (by omega)
      have noTimer : loop.armed = [] :=
        List.eq_nil_of_length_eq_zero (by omega)
      subst noOther
      obtain ⟨own, stored⟩ := poll
      rw [polls, List.lookup_cons] at outstanding
      split at outstanding
      · rename_i same
        cases outstanding
        rw [eq_of_beq same]
        exact ⟨rfl, noTimer⟩
      · cases outstanding

theorem setPhase_polls
    {timer : Nat}
    {before after : Phase}
    (polls : loop.polls = [(timer, before)]) :
    (loop.setPhase timer after).polls = [(timer, after)] := by
  rw [setPhase, polls]
  simp

theorem foldl_track
    (runs : List (String × String))
    (loop : PollLoop) :
    (runs.foldl track loop).activeExecutions.length =
        loop.activeExecutions.length + runs.length ∧
      (runs.foldl track loop).polls = loop.polls ∧
      (runs.foldl track loop).armed = loop.armed ∧
      (runs.foldl track loop).pollTimer = loop.pollTimer ∧
      (runs.foldl track loop).stopped = loop.stopped := by
  induction runs generalizing loop with
  | nil =>
      exact ⟨rfl, rfl, rfl, rfl, rfl⟩
  | cons run rest inductionHypothesis =>
      obtain ⟨executions, others⟩ := inductionHypothesis (loop.track run)
      refine ⟨?_, others⟩
      rw [List.foldl_cons, executions, track, List.length_cons,
        List.length_cons]
      omega

/-- A claim that is answered fills the slots that were free for it. -/
theorem Single.claimed
    (single : Single maxConcurrency loop)
    {timer limit : Nat}
    {runs : List (String × String)}
    (outstanding : loop.polls.lookup timer = some (.claiming limit))
    (few : runs.length ≤ limit) :
    Single maxConcurrency
      (runs.foldl track (loop.setPhase timer .returned)) := by
  obtain ⟨polls, noTimer⟩ := single.polls_eq outstanding
  have room := single.free timer limit (by rw [polls]; exact List.mem_cons_self)
  obtain ⟨executions, samePolls, sameArmed, sameTimer, sameStopped⟩ :=
    foldl_track runs (loop.setPhase timer .returned)
  rw [setPhase_polls polls] at samePolls
  change _ = loop.activeExecutions.length + runs.length at executions
  change _ = loop.armed at sameArmed
  refine ⟨?_, ?_, ?_, by omega, ?_⟩
  · intro other member
    rw [sameArmed, noTimer] at member
    cases member
  · intro _
    rw [sameArmed, noTimer]
  · rw [samePolls, sameArmed, noTimer]
    exact Nat.le_refl _
  · intro other otherLimit member
    rw [samePolls] at member
    cases List.mem_singleton.mp member

theorem Single.refused
    (single : Single maxConcurrency loop)
    {timer limit : Nat}
    (outstanding : loop.polls.lookup timer = some (.claiming limit)) :
    Single maxConcurrency (loop.setPhase timer .returned) := by
  have few : ([] : List (String × String)).length ≤ limit := Nat.zero_le _
  exact single.claimed outstanding few

/-- A poll that is over is followed by the next timer, or by none. -/
theorem Single.resume
    (single : Single maxConcurrency loop)
    {timer : Nat}
    (outstanding : loop.polls.lookup timer = some .returned) :
    Single maxConcurrency
      (if loop.stopped then
        { loop with polls := loop.polls.filter fun poll => poll.1 ≠ timer }
      else
        { loop with
          polls := loop.polls.filter fun poll =>
            poll.1 ≠ timer }.scheduleNext) := by
  obtain ⟨polls, noTimer⟩ := single.polls_eq outstanding
  have ended : (loop.polls.filter fun poll => poll.1 ≠ timer) = [] := by
    rw [polls]
    simp
  rw [ended]
  have quiet : Single maxConcurrency { loop with polls := [] } := by
    refine ⟨single.known, single.idle, ?_, single.executions, ?_⟩
    · dsimp only
      rw [noTimer]
      exact Nat.zero_le _
    · rintro other limit ⟨⟩
  split
  · exact quiet
  · rename_i running
    exact quiet.scheduleNext (Bool.not_eq_true _ ▸ running) noTimer rfl

theorem Single.settle
    (single : Single maxConcurrency loop)
    (execution : Execution) :
    Single maxConcurrency (loop.cleanup execution) := by
  have fewer :
      (loop.activeExecutions.erase execution).length ≤
        loop.activeExecutions.length :=
    List.length_erase_le
  have executions := single.executions
  refine ⟨single.known, single.idle, single.single, ?_, ?_⟩
  · exact Nat.le_trans fewer executions
  · intro timer limit member
    have room := single.free timer limit member
    change (loop.activeExecutions.erase execution).length + limit ≤ _
    omega

theorem Single.step
    {event : Event}
    (single : Single maxConcurrency loop)
    (idle : StartsIdle loop event)
    (stepped : step? maxConcurrency loop event = some next) :
    Single maxConcurrency next := by
  cases event with
  | start =>
      cases stepped
      exact single.start idle
  | stop =>
      cases stepped
      exact single.stop
  | fire timer =>
      rw [step?] at stepped
      split at stepped
      · rename_i armed
        cases stepped
        exact single.fire armed
      · cases stepped
  | claimed timer runs =>
      rw [step?] at stepped
      split at stepped
      · rename_i limit outstanding
        split at stepped
        · rename_i few
          cases stepped
          exact single.claimed outstanding few
        · cases stepped
      · cases stepped
  | refused timer =>
      rw [step?] at stepped
      split at stepped
      · rename_i limit outstanding
        cases stepped
        exact single.refused outstanding
      · cases stepped
  | resume timer =>
      rw [step?] at stepped
      split at stepped
      · rename_i outstanding
        cases stepped
        exact single.resume outstanding
      · cases stepped
  | settle execution =>
      rw [step?] at stepped
      split at stepped
      · cases stepped
        exact single.settle execution
      · cases stepped

/-! ## Runs -/

theorem single_of_run
    {events : List Event}
    (idle : Stepping.Along (step? maxConcurrency) StartsIdle initial events)
    (ran : Stepping.run? (step? maxConcurrency) initial events = some loop) :
    Single maxConcurrency loop :=
  Stepping.run?_invariant StartsIdle (Single maxConcurrency) .initial
    (fun single idle stepped => single.step idle stepped) idle ran

/-- A loop that is started beside an outstanding poll can have two of them. -/
theorem startsIdle_of_capped
    {events : List Event}
    (capped : StaysCapped maxConcurrency events) :
    Stepping.Along (step? maxConcurrency) StartsIdle initial events := by
  rintro earlier later event before rfl ran
  cases event with
  | start =>
      intro stopped
      by_contra outstanding
      have started :
          step? maxConcurrency before .start =
            some { before with stopped := false }.scheduleNext := by
        rw [step?, PollLoop.start, if_pos stopped]
      have fired :
          step? maxConcurrency { before with stopped := false }.scheduleNext
              (.fire before.nextTimer) =
            some (fire maxConcurrency
              { before with stopped := false }.scheduleNext
              before.nextTimer) := by
        rw [step?]
        exact if_pos List.mem_cons_self
      have beside :=
        ((capped (earlier ++ [.start]) later _ (by simp)
          (Stepping.run?_concat.mpr ⟨before, ran, started⟩)).2 _ _ fired).polls
      have some : 0 < before.polls.length :=
        List.length_pos_iff.mpr outstanding
      change before.polls.length + 1 ≤ 1 at beside
      omega
  | _ => trivial

/--
At every point of a run of the loop, whichever timer may fire then, the cap is
kept and at most one poll is outstanding, exactly when `start` has never taken
effect while a poll was outstanding.
-/
theorem staysCapped_iff
    (maxConcurrency : Nat)
    (events : List Event) :
    StaysCapped maxConcurrency events ↔
      Stepping.Along (step? maxConcurrency) StartsIdle initial events := by
  refine ⟨startsIdle_of_capped, ?_⟩
  rintro idle earlier later loop rfl ran
  have single := single_of_run idle.earlier ran
  refine ⟨single.capped, fun timer next fired => ?_⟩
  have anyTime : StartsIdle loop (.fire timer) := trivial
  exact (single.step anyTime fired).capped

/--
The loop is stopped and started again while its claim is on its way: the old
poll and the next one both claim a run.
-/
theorem restart_exceeds_cap :
    ¬ ∀ (maxConcurrency : Nat) (events : List Event) (loop : PollLoop),
        Stepping.run? (step? maxConcurrency) initial events = some loop →
        Capped maxConcurrency loop := by
  intro always
  have capped :=
    always 1 [.start, .fire 0, .stop, .start, .fire 1,
      .claimed 0 [("run-1", "dispatch-1")], .resume 0,
      .claimed 1 [("run-2", "dispatch-2")]] _ rfl
  exact absurd capped.executions (by decide)

end PollLoop

end PollTimers

end IgaScheduler

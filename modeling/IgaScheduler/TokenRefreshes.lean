import Mathlib.Data.Int.Order.Basic
import Mathlib.Order.Lattice
import IgaScheduler.StepRuns
import IgaScheduler.Values

namespace IgaScheduler

/-!
# The token of the IGA client

`getAccessToken` and `invalidate` of `TokenManager`, called any number of times
while token requests come and go.  A `fetchToken` may end at any time, with any
token or error; the `finally` behind it runs later, and the calls that wait for
it go on one by one after that, each writing the cache.
-/

namespace TokenRefreshes

/-- What `fetchToken` returns. -/
structure Token (Time : Type) where
  accessToken : Json
  tokenType : Json
  expiresAtMs : Time

/-- A `fetchToken`, with the `finally` behind it. -/
inductive Refresh (Time Error : Type) where
  /-- The token request is in flight. -/
  | requesting
  /-- `fetchToken` is over; its `finally` has yet to run. -/
  | fetched (outcome : Except Error (Token Time))
  /-- `finally` has run, and those who wait can go on. -/
  | settled (outcome : Except Error (Token Time))

/-- The `finally` of a refresh has yet to run. -/
def Refresh.Pending
    {Time Error : Type} :
    Refresh Time Error →
      Prop
  | .settled _ => False
  | _ => True

/-- A call of `getAccessToken`. -/
inductive Call (Error : Type) where
  /-- It awaits a refresh. -/
  | waiting (refresh : Nat)
  | done (result : Except Error Json)

/-- A token manager, with all its refreshes and calls, oldest first. -/
structure TokenManager (Time Error : Type) where
  cachedToken : Option (Token Time)
  inFlightRefresh : Option Nat
  refreshes : List (Refresh Time Error)
  calls : List (Call Error)

/-- What can happen next. -/
inductive Event (Time Error : Type) where
  /-- `getAccessToken` is called while `this.now()` returns `now`. -/
  | getAccessToken (now : Time)
  | invalidate
  /-- A `fetchToken` returns or throws. -/
  | fetched (refresh : Nat) (outcome : Except Error (Token Time))
  /-- The callback of a `finally` runs. -/
  | cleared (refresh : Nat)
  /-- A call goes on behind its `await`. -/
  | resumed (call : Nat)

namespace TokenManager

variable {Time Error : Type}

/-- A manager that has been created. -/
def initial : TokenManager Time Error where
  cachedToken := none
  inFlightRefresh := none
  refreshes := []
  calls := []

section Steps

variable [LinearOrder Time] [Sub Time]
variable (refreshSkewMs : Time)

def isExpiringSoon (token : Token Time) (now : Time) : Bool :=
  token.expiresAtMs - now ≤ refreshSkewMs

/-- `getAccessToken`, up to its `await`. -/
def getAccessToken
    (manager : TokenManager Time Error)
    (now : Time) :
    TokenManager Time Error :=
  match manager.cachedToken.filter fun token =>
      !isExpiringSoon refreshSkewMs token now with
  | some token =>
      { manager with
        calls := manager.calls ++ [.done (.ok token.accessToken)] }
  | none =>
      match manager.inFlightRefresh with
      | some refresh =>
          { manager with calls := manager.calls ++ [.waiting refresh] }
      | none =>
          { manager with
            inFlightRefresh := some manager.refreshes.length
            refreshes := manager.refreshes ++ [.requesting]
            calls := manager.calls ++ [.waiting manager.refreshes.length] }

def invalidate (manager : TokenManager Time Error) : TokenManager Time Error :=
  { manager with cachedToken := none }

def step?
    (manager : TokenManager Time Error) :
    Event Time Error →
      Option (TokenManager Time Error)
  | .getAccessToken now => some (getAccessToken refreshSkewMs manager now)
  | .invalidate => some manager.invalidate
  | .fetched refresh outcome =>
      match manager.refreshes[refresh]? with
      | some .requesting =>
          some { manager with
            refreshes := manager.refreshes.set refresh (.fetched outcome) }
      | _ => none
  | .cleared refresh =>
      match manager.refreshes[refresh]? with
      | some (.fetched outcome) =>
          some { manager with
            inFlightRefresh := none
            refreshes := manager.refreshes.set refresh (.settled outcome) }
      | _ => none
  | .resumed call =>
      match manager.calls[call]? with
      | some (.waiting refresh) =>
          match manager.refreshes[refresh]? with
          | some (.settled (.ok token)) =>
              some { manager with
                cachedToken := some token
                calls := manager.calls.set call
                  (.done (.ok token.accessToken)) }
          | some (.settled (.error error)) =>
              some { manager with
                calls := manager.calls.set call (.done (.error error)) }
          | _ => none
      | _ => none

/-- The run of a new manager. -/
abbrev run?
    (events : List (Event Time Error)) :
    Option (TokenManager Time Error) :=
  Stepping.run? (step? refreshSkewMs) initial events

/-! ## The property -/

/-- There is a token in the cache with more than the skew left. -/
def Fresh
    (manager : TokenManager Time Error)
    (now : Time)
    (token : Token Time) :
    Prop :=
  manager.cachedToken = some token ∧
    refreshSkewMs < token.expiresAtMs - now

/-- A refresh is in flight, or is the one that a call would start. -/
def Joins
    (manager : TokenManager Time Error)
    (refresh : Nat) :
    Prop :=
  manager.inFlightRefresh = some refresh ∨
    manager.inFlightRefresh = none ∧ refresh = manager.refreshes.length

/-- A call waits for a refresh, or has taken its outcome. -/
def Follows
    (manager : TokenManager Time Error)
    (call refresh : Nat) :
    Prop :=
  manager.calls[call]? = some (.waiting refresh) ∨
    ∃ outcome,
      manager.refreshes[refresh]? = some (.settled outcome) ∧
        manager.calls[call]? = some (.done (outcome.map Token.accessToken))

/-- In a run, a call without a fresh token joins a refresh. -/
def Waits
    (events : List (Event Time Error))
    (call refresh : Nat) :
    Prop :=
  ∃ earlier later now before,
    events = earlier ++ .getAccessToken now :: later ∧
      run? refreshSkewMs earlier = some before ∧
      before.calls.length = call ∧
      (∀ token, ¬ Fresh refreshSkewMs before now token) ∧
      Joins before refresh

/-- A call starts a refresh of its own. -/
def StartsFetch (before after : TokenManager Time Error) : Prop :=
  after.refreshes = before.refreshes ++ [.requesting] ∧
    after.inFlightRefresh = some before.refreshes.length

/-- Refreshes fly alone, and every call takes its token from the right one. -/
structure SingleFlight
    (events : List (Event Time Error))
    (final : TokenManager Time Error) :
    Prop where
  oneRequest :
    ∀ refresh other : Nat,
      final.refreshes[refresh]? = some .requesting →
      final.refreshes[other]? = some .requesting →
      refresh = other
  answered :
    ∀ earlier later now before,
      events = earlier ++ .getAccessToken now :: later →
      run? refreshSkewMs earlier = some before →
      (∃ token,
        Fresh refreshSkewMs before now token ∧
          final.calls[before.calls.length]? =
            some (.done (.ok token.accessToken))) ∨
        ∃ refresh,
          Waits refreshSkewMs events before.calls.length refresh ∧
            Follows final before.calls.length refresh
  shared :
    ∀ refresh call other result otherResult,
      Waits refreshSkewMs events call refresh →
      Waits refreshSkewMs events other refresh →
      final.calls[call]? = some (.done result) →
      final.calls[other]? = some (.done otherResult) →
      result = otherResult
  cached :
    ∀ token,
      final.cachedToken = some token →
      ∃ refresh : Nat,
        final.refreshes[refresh]? = some (.settled (.ok token))
  clears :
    ∀ (refresh : Nat) (outcome : Except Error (Token Time)),
      final.refreshes[refresh]? = some (.fetched outcome) →
      ∃ next,
        step? refreshSkewMs final (.cleared refresh) = some next ∧
          next.inFlightRefresh = none
  cleared :
    ∀ (refresh : Nat) (outcome : Except Error (Token Time)),
      final.refreshes[refresh]? = some (.settled outcome) →
      final.inFlightRefresh ≠ some refresh
  invalidated :
    ∀ next,
      step? refreshSkewMs final .invalidate = some next →
      next.refreshes = final.refreshes ∧
        next.inFlightRefresh = final.inFlightRefresh ∧
        next.calls = final.calls
  joined :
    ∀ refresh now next,
      final.inFlightRefresh = some refresh →
      step? refreshSkewMs final (.getAccessToken now) = some next →
      next.refreshes = final.refreshes ∧
        next.inFlightRefresh = final.inFlightRefresh

/-- The first call after a failed refresh, and the state it is made in. -/
def FirstAfterFailure
    (events : List (Event Time Error))
    (now : Time)
    (before : TokenManager Time Error) :
    Prop :=
  ∃ earlier between later refresh failed error,
    events =
        earlier ++ .cleared refresh ::
          (between ++ .getAccessToken now :: later) ∧
      (∀ other, .getAccessToken other ∉ between) ∧
      run? refreshSkewMs earlier = some failed ∧
      failed.refreshes[refresh]? = some (.fetched (.error error)) ∧
      run? refreshSkewMs (earlier ++ .cleared refresh :: between) = some before

/-- The next call after a failed refresh starts a new one. -/
def Restarts (events : List (Event Time Error)) : Prop :=
  ∀ now before after,
    FirstAfterFailure refreshSkewMs events now before →
    step? refreshSkewMs before (.getAccessToken now) = some after →
    StartsFetch before after

/-- So it does if it finds no token with more than the skew left. -/
def RestartsWithoutToken (events : List (Event Time Error)) : Prop :=
  ∀ now before after,
    FirstAfterFailure refreshSkewMs events now before →
    (∀ token, ¬ Fresh refreshSkewMs before now token) →
    step? refreshSkewMs before (.getAccessToken now) = some after →
    StartsFetch before after

end Steps

/-! ## What a step does -/

variable [LinearOrder Time] [Sub Time]
variable {refreshSkewMs : Time}
variable {manager next final : TokenManager Time Error}
variable {event : Event Time Error}
variable {events : List (Event Time Error)}

/-- The three ways a call begins. -/
inductive Asked
    (refreshSkewMs : Time)
    (manager : TokenManager Time Error)
    (now : Time) :
    TokenManager Time Error →
      Prop where
  | fresh
      (token : Token Time)
      (isFresh : Fresh refreshSkewMs manager now token) :
      Asked refreshSkewMs manager now
        { manager with
          calls := manager.calls ++ [.done (.ok token.accessToken)] }
  | joined
      (refresh : Nat)
      (stale : ∀ token, ¬ Fresh refreshSkewMs manager now token)
      (inFlight : manager.inFlightRefresh = some refresh) :
      Asked refreshSkewMs manager now
        { manager with calls := manager.calls ++ [.waiting refresh] }
  | started
      (stale : ∀ token, ¬ Fresh refreshSkewMs manager now token)
      (idle : manager.inFlightRefresh = none) :
      Asked refreshSkewMs manager now
        { manager with
          inFlightRefresh := some manager.refreshes.length
          refreshes := manager.refreshes ++ [.requesting]
          calls := manager.calls ++ [.waiting manager.refreshes.length] }

theorem asked_getAccessToken
    (manager : TokenManager Time Error)
    (now : Time) :
    Asked refreshSkewMs manager now
      (getAccessToken refreshSkewMs manager now) := by
  have fresh_iff (token : Token Time) :
      manager.cachedToken.filter
          (fun token => !isExpiringSoon refreshSkewMs token now) =
        some token ↔ Fresh refreshSkewMs manager now token := by
    rw [Option.filter_eq_some_iff, Bool.not_eq_true', isExpiringSoon,
      decide_eq_false_iff_not, not_le]
    rfl
  unfold getAccessToken
  split
  · rename_i token found
    exact .fresh token ((fresh_iff token).mp found)
  · rename_i missing
    have stale (token : Token Time) :
        ¬ Fresh refreshSkewMs manager now token := by
      intro isFresh
      rw [(fresh_iff token).mpr isFresh] at missing
      cases missing
    split
    · rename_i refresh inFlight
      exact .joined refresh stale inFlight
    · rename_i idle
      exact .started stale idle

/-- How a manager can move on. -/
inductive Moves
    (refreshSkewMs : Time)
    (manager : TokenManager Time Error) :
    Event Time Error →
      TokenManager Time Error →
      Prop where
  | asked
      (now : Time)
      (next : TokenManager Time Error)
      (asked : Asked refreshSkewMs manager now next) :
      Moves refreshSkewMs manager (.getAccessToken now) next
  | invalidated :
      Moves refreshSkewMs manager .invalidate manager.invalidate
  | fetched
      (refresh : Nat)
      (outcome : Except Error (Token Time))
      (inFlight : manager.refreshes[refresh]? = some .requesting) :
      Moves refreshSkewMs manager (.fetched refresh outcome)
        { manager with
          refreshes := manager.refreshes.set refresh (.fetched outcome) }
  | cleared
      (refresh : Nat)
      (outcome : Except Error (Token Time))
      (isFetched : manager.refreshes[refresh]? = some (.fetched outcome)) :
      Moves refreshSkewMs manager (.cleared refresh)
        { manager with
          inFlightRefresh := none
          refreshes := manager.refreshes.set refresh (.settled outcome) }
  | resumed
      (call refresh : Nat)
      (token : Token Time)
      (waiting : manager.calls[call]? = some (.waiting refresh))
      (settled : manager.refreshes[refresh]? = some (.settled (.ok token))) :
      Moves refreshSkewMs manager (.resumed call)
        { manager with
          cachedToken := some token
          calls := manager.calls.set call (.done (.ok token.accessToken)) }
  | failed
      (call refresh : Nat)
      (error : Error)
      (waiting : manager.calls[call]? = some (.waiting refresh))
      (settled :
        manager.refreshes[refresh]? = some (.settled (.error error))) :
      Moves refreshSkewMs manager (.resumed call)
        { manager with
          calls := manager.calls.set call (.done (.error error)) }

theorem moves_of_step
    (stepped : step? refreshSkewMs manager event = some next) :
    Moves refreshSkewMs manager event next := by
  cases event with
  | getAccessToken now =>
      cases stepped
      exact .asked now _ (asked_getAccessToken manager now)
  | invalidate =>
      cases stepped
      exact .invalidated
  | fetched refresh outcome =>
      simp only [step?] at stepped
      split at stepped
      · rename_i inFlight
        cases stepped
        exact .fetched refresh outcome inFlight
      · cases stepped
  | cleared refresh =>
      simp only [step?] at stepped
      split at stepped
      · rename_i outcome isFetched
        cases stepped
        exact .cleared refresh outcome isFetched
      · cases stepped
  | resumed call =>
      simp only [step?] at stepped
      split at stepped
      · rename_i refresh waiting
        split at stepped
        · rename_i token settled
          cases stepped
          exact .resumed call refresh token waiting settled
        · rename_i error settled
          cases stepped
          exact .failed call refresh error waiting settled
        · cases stepped
      · cases stepped

theorem asked_of_step
    {now : Time}
    (stepped :
      step? refreshSkewMs manager (.getAccessToken now) = some next) :
    Asked refreshSkewMs manager now next := by
  cases moves_of_step stepped with
  | asked now next asked =>
      exact asked

/-! ## What a step keeps -/

theorem getElem?_append_of_some
    {α : Type}
    {items rest : List α}
    {position : Nat}
    {item : α}
    (found : items[position]? = some item) :
    (items ++ rest)[position]? = some item := by
  obtain ⟨bound, -⟩ := List.getElem?_eq_some_iff.mp found
  exact (List.getElem?_append_left bound).trans found

/-- The outcome of a refresh stays what it is. -/
theorem Moves.settled
    (moves : Moves refreshSkewMs manager event next)
    {refresh : Nat}
    {outcome : Except Error (Token Time)}
    (isSettled : manager.refreshes[refresh]? = some (.settled outcome)) :
    next.refreshes[refresh]? = some (.settled outcome) := by
  cases moves with
  | asked now next asked =>
      cases asked with
      | fresh | joined =>
          exact isSettled
      | started =>
          exact getElem?_append_of_some isSettled
  | invalidated | resumed | failed =>
      exact isSettled
  | fetched other outcome inFlight =>
      have different : other ≠ refresh := by
        rintro rfl
        cases inFlight.symm.trans isSettled
      exact (List.getElem?_set_ne different).trans isSettled
  | cleared other outcome isFetched =>
      have different : other ≠ refresh := by
        rintro rfl
        cases isFetched.symm.trans isSettled
      exact (List.getElem?_set_ne different).trans isSettled

/-- The result of a call stays what it is. -/
theorem Moves.done
    (moves : Moves refreshSkewMs manager event next)
    {call : Nat}
    {result : Except Error Json}
    (isDone : manager.calls[call]? = some (.done result)) :
    next.calls[call]? = some (.done result) := by
  cases moves with
  | asked now next asked =>
      cases asked <;> exact getElem?_append_of_some isDone
  | invalidated | fetched | cleared =>
      exact isDone
  | resumed other refresh token waiting settled =>
      have different : other ≠ call := by
        rintro rfl
        cases waiting.symm.trans isDone
      exact (List.getElem?_set_ne different).trans isDone
  | failed other refresh error waiting settled =>
      have different : other ≠ call := by
        rintro rfl
        cases waiting.symm.trans isDone
      exact (List.getElem?_set_ne different).trans isDone

/-- A call follows the refresh it has joined, whatever happens. -/
theorem Moves.follows
    (moves : Moves refreshSkewMs manager event next)
    {call refresh : Nat}
    (follows : Follows manager call refresh) :
    Follows next call refresh := by
  rcases follows with waits | ⟨outcome, settled, isDone⟩
  · cases moves with
    | asked now next asked =>
        cases asked <;> exact .inl (getElem?_append_of_some waits)
    | invalidated | fetched | cleared =>
        exact .inl waits
    | resumed other own token waiting settled =>
        by_cases same : other = call
        · subst same
          cases waits.symm.trans waiting
          obtain ⟨bound, -⟩ := List.getElem?_eq_some_iff.mp waits
          exact .inr ⟨.ok token, settled, List.getElem?_set_self bound⟩
        · exact .inl ((List.getElem?_set_ne same).trans waits)
    | failed other own error waiting settled =>
        by_cases same : other = call
        · subst same
          cases waits.symm.trans waiting
          obtain ⟨bound, -⟩ := List.getElem?_eq_some_iff.mp waits
          exact .inr ⟨.error error, settled, List.getElem?_set_self bound⟩
        · exact .inl ((List.getElem?_set_ne same).trans waits)
  · exact .inr ⟨outcome, moves.settled settled, moves.done isDone⟩

/--
`inFlightRefresh` is the one refresh whose `finally` has yet to run, and the
cache holds what some refresh has returned.
-/
structure Sound (manager : TokenManager Time Error) : Prop where
  pending :
    ∀ position : Nat,
      manager.inFlightRefresh = some position ↔
        ∃ refresh,
          manager.refreshes[position]? = some refresh ∧ refresh.Pending
  cached :
    ∀ token,
      manager.cachedToken = some token →
      ∃ refresh : Nat,
        manager.refreshes[refresh]? = some (.settled (.ok token))

omit [LinearOrder Time] [Sub Time] in
theorem Sound.initial : Sound (initial : TokenManager Time Error) where
  pending := by
    intro position
    constructor
    · intro impossible
      cases impossible
    · rintro ⟨refresh, impossible, -⟩
      cases impossible
  cached := by
    intro token impossible
    cases impossible

/-- The refreshes and `inFlightRefresh` as a call leaves them. -/
theorem Asked.pending
    {now : Time}
    (asked : Asked refreshSkewMs manager now next)
    (sound : Sound manager)
    (position : Nat) :
    next.inFlightRefresh = some position ↔
      ∃ refresh,
        next.refreshes[position]? = some refresh ∧ refresh.Pending := by
  cases asked with
  | fresh | joined =>
      exact sound.pending position
  | started stale idle =>
      constructor
      · intro same
        cases same
        exact ⟨.requesting, List.getElem?_concat_length, trivial⟩
      · rintro ⟨refresh, found, isPending⟩
        by_cases earlier : position < manager.refreshes.length
        · rw [List.getElem?_append_left earlier] at found
          have inFlight :=
            (sound.pending position).mpr ⟨refresh, found, isPending⟩
          cases idle.symm.trans inFlight
        · have bounded := (List.getElem?_eq_some_iff.mp found).1
          rw [List.length_append, List.length_singleton] at bounded
          have last : manager.refreshes.length = position := by omega
          exact congrArg some last

theorem Moves.pending
    (moves : Moves refreshSkewMs manager event next)
    (sound : Sound manager)
    (position : Nat) :
    next.inFlightRefresh = some position ↔
      ∃ refresh,
        next.refreshes[position]? = some refresh ∧ refresh.Pending := by
  cases moves with
  | asked now next asked =>
      exact asked.pending sound position
  | invalidated | resumed | failed =>
      exact sound.pending position
  | fetched other outcome inFlight =>
      by_cases same : other = position
      · subst same
        obtain ⟨bound, -⟩ := List.getElem?_eq_some_iff.mp inFlight
        have current :=
          (sound.pending other).mpr ⟨.requesting, inFlight, trivial⟩
        exact ⟨fun _ => ⟨_, List.getElem?_set_self bound, trivial⟩,
          fun _ => current⟩
      · dsimp only
        rw [List.getElem?_set_ne same]
        exact sound.pending position
  | cleared other outcome isFetched =>
      constructor
      · intro impossible
        cases impossible
      · rintro ⟨refresh, found, isPending⟩
        obtain ⟨bound, -⟩ := List.getElem?_eq_some_iff.mp isFetched
        by_cases same : other = position
        · subst same
          cases (List.getElem?_set_self bound).symm.trans found
          exact isPending.elim
        · have current :=
            (sound.pending other).mpr ⟨_, isFetched, trivial⟩
          have alsoCurrent := (sound.pending position).mpr
            ⟨refresh, (List.getElem?_set_ne same).symm.trans found,
              isPending⟩
          cases current.symm.trans alsoCurrent
          exact (same rfl).elim

theorem Moves.sound
    (moves : Moves refreshSkewMs manager event next)
    (sound : Sound manager) :
    Sound next where
  pending := moves.pending sound
  cached := by
    intro token held
    have kept {token : Token Time}
        (before : manager.cachedToken = some token) :
        ∃ refresh : Nat,
          next.refreshes[refresh]? = some (.settled (.ok token)) := by
      obtain ⟨refresh, settled⟩ := sound.cached token before
      exact ⟨refresh, moves.settled settled⟩
    cases moves with
    | asked now next asked =>
        cases asked <;> exact kept held
    | fetched | cleared | failed =>
        exact kept held
    | invalidated =>
        cases held
    | resumed call refresh token waiting settled =>
        cases held
        exact ⟨refresh, settled⟩

/-! ## What a run keeps -/

theorem sound_of_run
    (ran : run? refreshSkewMs events = some final) :
    Sound final := by
  apply Stepping.run?_invariant (fun _ _ => True) Sound .initial ?_ ?_ ran
  · intro state next input sound _ stepped
    exact (moves_of_step stepped).sound sound
  · intro earlier later input before _ _
    trivial

theorem follows_of_run
    {call refresh : Nat}
    (follows : Follows manager call refresh)
    (ran : Stepping.run? (step? refreshSkewMs) manager events = some final) :
    Follows final call refresh := by
  apply Stepping.run?_invariant (fun _ _ => True)
    (fun visited => Follows visited call refresh) follows ?_ ?_ ran
  · intro state next input known _ stepped
    exact (moves_of_step stepped).follows known
  · intro earlier later input before _ _
    trivial

theorem done_of_run
    {call : Nat}
    {result : Except Error Json}
    (isDone : manager.calls[call]? = some (.done result))
    (ran : Stepping.run? (step? refreshSkewMs) manager events = some final) :
    final.calls[call]? = some (.done result) := by
  apply Stepping.run?_invariant (fun _ _ => True)
    (fun visited : TokenManager Time Error =>
      visited.calls[call]? = some (.done result)) isDone ?_ ?_ ran
  · intro state next input known _ stepped
    exact (moves_of_step stepped).done known
  · intro earlier later input before _ _
    trivial

/-- The two halves of a run, before and after a call. -/
theorem run_split
    {earlier later : List (Event Time Error)}
    {before : TokenManager Time Error}
    (ran : run? refreshSkewMs (earlier ++ event :: later) = some final)
    (ranEarlier : run? refreshSkewMs earlier = some before) :
    ∃ after,
      step? refreshSkewMs before event = some after ∧
        Stepping.run? (step? refreshSkewMs) after later = some final := by
  obtain ⟨middle, ranMiddle, ranLater⟩ :=
    Stepping.run?_append_eq_some.mp ran
  cases ranEarlier.symm.trans ranMiddle
  exact Stepping.run?_cons.mp ranLater

/-! ## Single flight -/

/-- A new call has its token, or there is a refresh for it to join. -/
theorem Asked.answered
    {now : Time}
    (asked : Asked refreshSkewMs manager now next) :
    (∃ token,
      Fresh refreshSkewMs manager now token ∧
        next.calls[manager.calls.length]? =
          some (.done (.ok token.accessToken))) ∨
      (∀ token, ¬ Fresh refreshSkewMs manager now token) ∧
        ∃ refresh, Joins manager refresh := by
  cases asked with
  | fresh token isFresh =>
      exact .inl ⟨token, isFresh, List.getElem?_concat_length⟩
  | joined refresh stale inFlight =>
      exact .inr ⟨stale, refresh, .inl inFlight⟩
  | started stale idle =>
      exact .inr ⟨stale, _, .inr ⟨idle, rfl⟩⟩

theorem Asked.follows
    {now : Time}
    {refresh : Nat}
    (asked : Asked refreshSkewMs manager now next)
    (stale : ∀ token, ¬ Fresh refreshSkewMs manager now token)
    (joins : Joins manager refresh) :
    Follows next manager.calls.length refresh := by
  cases asked with
  | fresh token isFresh =>
      exact (stale token isFresh).elim
  | joined current _ inFlight =>
      rcases joins with same | ⟨idle, -⟩
      · cases inFlight.symm.trans same
        exact .inl List.getElem?_concat_length
      · cases inFlight.symm.trans idle
  | started _ idle =>
      rcases joins with inFlight | ⟨-, rfl⟩
      · cases idle.symm.trans inFlight
      · exact .inl List.getElem?_concat_length

/-- A call that waits keeps to its refresh. -/
theorem Waits.follows
    {call refresh : Nat}
    (ran : run? refreshSkewMs events = some final)
    (waits : Waits refreshSkewMs events call refresh) :
    Follows final call refresh := by
  obtain ⟨earlier, later, now, before, rfl, ranEarlier, rfl, stale, joins⟩ :=
    waits
  obtain ⟨after, stepped, ranLater⟩ := run_split ran ranEarlier
  have asked := asked_of_step stepped
  exact follows_of_run (asked.follows stale joins) ranLater

omit [LinearOrder Time] [Sub Time] in
/-- Two calls that follow one refresh have one result. -/
theorem Follows.result_eq
    {call other refresh : Nat}
    {result otherResult : Except Error Json}
    (follows : Follows final call refresh)
    (alsoFollows : Follows final other refresh)
    (isDone : final.calls[call]? = some (.done result))
    (isAlsoDone : final.calls[other]? = some (.done otherResult)) :
    result = otherResult := by
  rcases follows with waiting | ⟨outcome, settled, done⟩
  · cases waiting.symm.trans isDone
  · rcases alsoFollows with waiting | ⟨otherOutcome, alsoSettled, otherDone⟩
    · cases waiting.symm.trans isAlsoDone
    · cases settled.symm.trans alsoSettled
      cases done.symm.trans isDone
      cases otherDone.symm.trans isAlsoDone
      rfl

theorem singleFlight_of_run
    (ran : run? refreshSkewMs events = some final) :
    SingleFlight refreshSkewMs events final := by
  have sound := sound_of_run ran
  have current {position : Nat}
      (inFlight : final.refreshes[position]? = some .requesting) :
      final.inFlightRefresh = some position :=
    (sound.pending position).mpr ⟨.requesting, inFlight, trivial⟩
  constructor
  · intro refresh other inFlight alsoInFlight
    exact Option.some.inj
      ((current inFlight).symm.trans (current alsoInFlight))
  · rintro earlier later now before rfl ranEarlier
    obtain ⟨after, stepped, ranLater⟩ := run_split ran ranEarlier
    rcases (asked_of_step stepped).answered with
      ⟨token, isFresh, done⟩ | ⟨stale, refresh, joins⟩
    · exact .inl ⟨token, isFresh, done_of_run done ranLater⟩
    · have waits :
          Waits refreshSkewMs (earlier ++ .getAccessToken now :: later)
            before.calls.length refresh :=
        ⟨earlier, later, now, before, rfl, ranEarlier, rfl, stale, joins⟩
      exact .inr ⟨refresh, waits, waits.follows ran⟩
  · intro refresh call other result otherResult waits alsoWaits
    exact (waits.follows ran).result_eq (alsoWaits.follows ran)
  · exact sound.cached
  · intro refresh outcome isFetched
    refine ⟨{ final with
      inFlightRefresh := none
      refreshes := final.refreshes.set refresh (.settled outcome) }, ?_, rfl⟩
    simp only [step?, isFetched]
  · intro refresh outcome settled inFlight
    obtain ⟨current, found, isPending⟩ := (sound.pending refresh).mp inFlight
    cases settled.symm.trans found
    exact isPending
  · intro next stepped
    cases stepped
    exact ⟨rfl, rfl, rfl⟩
  · intro refresh now next inFlight stepped
    cases asked_of_step stepped with
    | fresh | joined =>
        exact ⟨rfl, rfl⟩
    | started stale idle =>
        cases idle.symm.trans inFlight

/-! ## After a failure -/

/-- Only a call starts a refresh. -/
theorem Moves.idle
    (moves : Moves refreshSkewMs manager event next)
    (silent : ∀ now, event ≠ .getAccessToken now)
    (idle : manager.inFlightRefresh = none) :
    next.inFlightRefresh = none := by
  cases moves with
  | asked now next asked =>
      exact (silent now rfl).elim
  | invalidated | fetched | resumed | failed =>
      exact idle
  | cleared =>
      rfl

/-- Nothing is in flight when the next call after a failure is made. -/
theorem idle_of_firstAfterFailure
    {now : Time}
    (first : FirstAfterFailure refreshSkewMs events now manager) :
    manager.inFlightRefresh = none := by
  obtain ⟨earlier, between, later, refresh, failed, error, -, silent,
      ranFailed, isFetched, ran⟩ := first
  obtain ⟨after, stepped, ranBetween⟩ := run_split ran ranFailed
  have idle : after.inFlightRefresh = none := by
    cases moves_of_step stepped with
    | cleared =>
        rfl
  refine Stepping.run?_invariant
    (fun _ event => ∀ now, event ≠ .getAccessToken now)
    (fun visited : TokenManager Time Error => visited.inFlightRefresh = none)
    idle ?_ ?_ ranBetween
  · intro state next event known quiet stepped
    exact (moves_of_step stepped).idle quiet known
  · rintro first rest event before rfl - other rfl
    exact silent other (List.mem_append_right first List.mem_cons_self)

theorem restartsWithoutToken :
    RestartsWithoutToken refreshSkewMs events := by
  intro now before after first stale stepped
  have idle := idle_of_firstAfterFailure first
  cases asked_of_step stepped with
  | fresh token isFresh =>
      exact (stale token isFresh).elim
  | joined refresh _ inFlight =>
      cases idle.symm.trans inFlight
  | started =>
      exact ⟨rfl, rfl⟩

/--
In every run at most one token request is in flight, every call has its token
from the cache as it was fresh or from the refresh it joined, and the next call
after a failed refresh that finds no fresh token starts a new one.
-/
theorem tokens_refreshed_alone
    (ran : run? refreshSkewMs events = some final) :
    SingleFlight refreshSkewMs events final ∧
      RestartsWithoutToken refreshSkewMs events :=
  ⟨singleFlight_of_run ran, restartsWithoutToken⟩

/-! ## A clock that goes back -/

/-- A token of the test server that expires after 100 seconds. -/
def firstToken : Token Int where
  accessToken := .str "token-1"
  tokenType := .str "Bearer"
  expiresAtMs := 100000

/--
The token is fetched, found to be expiring after 50 seconds, and not replaced
because the refresh fails; then the clock is set back by 20 seconds.
-/
def clockSetBack : List (Event Int String) :=
  [.getAccessToken 0, .fetched 0 (.ok firstToken), .cleared 0, .resumed 0,
    .getAccessToken 50000, .fetched 1 (.error "HTTP 503"), .cleared 1,
    .resumed 1, .getAccessToken 30000]

/-- The manager when the clock has been set back. -/
def afterFailure : TokenManager Int String where
  cachedToken := some firstToken
  inFlightRefresh := none
  refreshes := [.settled (.ok firstToken), .settled (.error "HTTP 503")]
  calls := [.done (.ok (.str "token-1")), .done (.error "HTTP 503")]

/-- The next call after the failed refresh takes the token of the cache. -/
theorem clockSetBack_not_restarts :
    ¬ Restarts 60000 clockSetBack := by
  intro restarts
  have first : FirstAfterFailure 60000 clockSetBack 30000 afterFailure := by
    refine ⟨clockSetBack.take 6, [.resumed 1], [], 1, _, "HTTP 503", rfl, ?_,
      rfl, rfl, rfl⟩
    intro other member
    cases List.mem_singleton.mp member
  have starts := restarts 30000 afterFailure _ first rfl
  have silent := congrArg List.length starts.1
  cases silent

/-- Up to that call, and in it, everything else is as it should be. -/
theorem clockSetBack_refreshed_alone :
    ∃ final,
      run? 60000 clockSetBack = some final ∧
        SingleFlight 60000 clockSetBack final ∧
          RestartsWithoutToken 60000 clockSetBack :=
  ⟨_, rfl, tokens_refreshed_alone rfl⟩

end TokenManager

end TokenRefreshes

end IgaScheduler

import Mathlib.Data.List.Basic

namespace Tracing

/-!
# Computations that leave a trace and may throw

A computation leaves effects behind, one after the other, and ends in a value
or throws.  A system follows a computation when it can take steps that leave
the same effects, to a state that fits the end.  Two computations are alike
when they leave the same effects and end in related values or in the same
error.  Both hold of a sequence of steps when they hold of each step, from
whatever the steps before have led to.
-/

variable {τ ε α β γ δ : Type}

/-- The effects of a computation, oldest first, and how it has ended. -/
structure Traced (τ ε α : Type) where
  effects : List τ
  outcome : Except ε α

namespace Traced

def emit (effect : τ) : Traced τ ε Unit where
  effects := [effect]
  outcome := .ok ()

def ofExcept (outcome : Except ε α) : Traced τ ε α where
  effects := []
  outcome

/-- What comes next runs on the value, behind the effects that are there. -/
def bind
    (first : Traced τ ε α)
    (next : α → Traced τ ε β) :
    Traced τ ε β :=
  match first.outcome with
  | .error error => ⟨first.effects, .error error⟩
  | .ok value =>
      ⟨first.effects ++ (next value).effects, (next value).outcome⟩

instance : Monad (Traced τ ε) where
  pure value := ofExcept (.ok value)
  bind := bind

/-- The handler of a `catch` goes on from the effects of the `try` block. -/
def orCatch
    (body : Traced τ ε α)
    (handler : ε → Traced τ ε α) :
    Traced τ ε α :=
  match body.outcome with
  | .error error =>
      ⟨body.effects ++ (handler error).effects, (handler error).outcome⟩
  | .ok value => ⟨body.effects, .ok value⟩

/-! ## How computations go on -/

section Sequences

variable {first : Traced τ ε α} {next : α → Traced τ ε β}

/-- After a value, the next step is taken. -/
theorem bind_of_ok
    {value : α}
    (ended : first.outcome = .ok value) :
    first >>= next =
      ⟨first.effects ++ (next value).effects, (next value).outcome⟩ := by
  change bind first next = _
  rw [bind, ended]

/-- After an error, nothing more is done. -/
theorem bind_of_error
    {error : ε}
    (thrown : first.outcome = .error error) :
    first >>= next = ⟨first.effects, .error error⟩ := by
  change bind first next = _
  rw [bind, thrown]

theorem orCatch_of_ok
    {handler : ε → Traced τ ε α}
    {value : α}
    (ended : first.outcome = .ok value) :
    orCatch first handler = first := by
  rw [orCatch, ended]
  dsimp only
  rw [← ended]

theorem orCatch_of_error
    {handler : ε → Traced τ ε α}
    {error : ε}
    (thrown : first.outcome = .error error) :
    orCatch first handler =
      ⟨first.effects ++ (handler error).effects,
        (handler error).outcome⟩ := by
  rw [orCatch, thrown]

end Sequences

/-! ## What all effects have in common -/

/-- Every effect of a computation has a property. -/
def Leaves (holds : τ → Prop) (computation : Traced τ ε α) : Prop :=
  ∀ effect ∈ computation.effects, holds effect

section Leaves

variable {holds : τ → Prop}

theorem Leaves.emit
    {effect : τ}
    (held : holds effect) :
    Leaves holds (Traced.emit effect : Traced τ ε Unit) := by
  intro other member
  rwa [List.mem_singleton.mp member]

theorem Leaves.ofExcept (outcome : Except ε α) :
    Leaves holds (Traced.ofExcept outcome) :=
  nofun

theorem Leaves.bind
    {first : Traced τ ε α}
    {next : α → Traced τ ε β}
    (starts : Leaves holds first)
    (goesOn : ∀ value, Leaves holds (next value)) :
    Leaves holds (first >>= next) := by
  rcases first with ⟨effects, outcome⟩
  cases outcome with
  | error error =>
      rw [bind_of_error rfl]
      exact starts
  | ok value =>
      rw [bind_of_ok rfl]
      intro effect member
      obtain before | behind := List.mem_append.mp member
      · exact starts effect before
      · exact goesOn value effect behind

end Leaves

/-! ## Systems that follow a computation -/

/-- A system goes from state to state, and leaves effects at every step. -/
inductive Course {σ : Type} (step : σ → List τ → σ → Prop) :
    σ → List τ → σ → Prop where
  | done
      (state : σ) :
      Course step state [] state
  | next
      {state middle final : σ}
      {effects more : List τ}
      (stepped : step state effects middle)
      (rest : Course step middle more final) :
      Course step state (effects ++ more) final

section Following

variable {σ : Type} {step : σ → List τ → σ → Prop}
variable {start middle final : σ}

theorem Course.one
    {effects : List τ}
    (stepped : step start effects final) :
    Course step start effects final := by
  have whole := Course.next stepped (.done final)
  rwa [List.append_nil] at whole

theorem Course.append
    {effects more : List τ}
    (first : Course step start effects middle)
    (second : Course step middle more final) :
    Course step start (effects ++ more) final := by
  induction first with
  | done state =>
      exact second
  | next stepped rest inductionHypothesis =>
      rw [List.append_assoc]
      exact .next stepped (inductionHypothesis second)

/-- The states that fit an outcome. -/
def Fits
    (returns : α → σ → Prop)
    (throws : ε → σ → Prop) :
    Except ε α → σ → Prop
  | .ok value => returns value
  | .error error => throws error

/-- The system can come with the computation to a state that fits its end. -/
def Follows
    (step : σ → List τ → σ → Prop)
    (start : σ)
    (computation : Traced τ ε α)
    (returns : α → σ → Prop)
    (throws : ε → σ → Prop) :
    Prop :=
  ∃ final,
    Course step start computation.effects final ∧
      Fits returns throws computation.outcome final

variable {returns : α → σ → Prop} {throws : ε → σ → Prop}

/-- The system waits. -/
theorem Follows.wait
    {outcome : Except ε α}
    (fits : Fits returns throws outcome start) :
    Follows step start (Traced.ofExcept outcome) returns throws :=
  ⟨start, .done start, fits⟩

/-- The system takes one step. -/
theorem Follows.one
    {computation : Traced τ ε α}
    (stepped : step start computation.effects final)
    (fits : Fits returns throws computation.outcome final) :
    Follows step start computation returns throws :=
  ⟨final, .one stepped, fits⟩

theorem Follows.bind
    {between : α → σ → Prop}
    {returns : β → σ → Prop}
    {first : Traced τ ε α}
    {next : α → Traced τ ε β}
    (starts : Follows step start first between throws)
    (goesOn :
      ∀ {value : α} {middle : σ},
        between value middle →
          Follows step middle (next value) returns throws) :
    Follows step start (first >>= next) returns throws := by
  obtain ⟨middle, course, fits⟩ := starts
  rcases first with ⟨effects, outcome⟩
  cases outcome with
  | error error =>
      rw [bind_of_error rfl]
      exact ⟨middle, course, fits⟩
  | ok value =>
      obtain ⟨final, rest, fitsToo⟩ := goesOn fits
      rw [bind_of_ok rfl]
      exact ⟨final, course.append rest, fitsToo⟩

theorem Follows.orCatch
    {between : ε → σ → Prop}
    {body : Traced τ ε α}
    {handler : ε → Traced τ ε α}
    (tried : Follows step start body returns between)
    (handled :
      ∀ {error : ε} {middle : σ},
        between error middle →
          Follows step middle (handler error) returns throws) :
    Follows step start (body.orCatch handler) returns throws := by
  obtain ⟨middle, course, fits⟩ := tried
  rcases body with ⟨effects, outcome⟩
  cases outcome with
  | ok value =>
      rw [orCatch_of_ok rfl]
      exact ⟨middle, course, fits⟩
  | error error =>
      obtain ⟨final, rest, fitsToo⟩ := handled fits
      rw [orCatch_of_error rfl]
      exact ⟨final, course.append rest, fitsToo⟩

end Following

/-! ## Alike computations -/

/-- Related values, or one and the same error. -/
inductive AlikeOutcomes
    (related : α → β → Prop) :
    Except ε α → Except ε β → Prop where
  | values
      {value : α}
      {other : β}
      (matching : related value other) :
      AlikeOutcomes related (.ok value) (.ok other)
  | errors
      (error : ε) :
      AlikeOutcomes related (.error error) (.error error)

namespace AlikeOutcomes

variable {related : α → β → Prop} {following : γ → δ → Prop}
variable {first : Except ε α} {second : Except ε β}

theorem refl (outcome : Except ε α) : AlikeOutcomes Eq outcome outcome := by
  cases outcome with
  | ok value => exact .values rfl
  | error error => exact .errors error

theorem eq
    {second : Except ε α}
    (alike : AlikeOutcomes Eq first second) :
    first = second := by
  cases alike with
  | values matching => rw [matching]
  | errors error => rfl

theorem bind
    {next : α → Except ε γ}
    {otherNext : β → Except ε δ}
    (starts : AlikeOutcomes related first second)
    (goesOn :
      ∀ {value : α} {other : β},
        related value other →
          AlikeOutcomes following (next value) (otherNext other)) :
    AlikeOutcomes following (first >>= next) (second >>= otherNext) := by
  cases starts with
  | values matching => exact goesOn matching
  | errors error => exact .errors error

/-- Both have ended in values, or both in one error. -/
theorem values_or_errors
    (alike : AlikeOutcomes related first second) :
    (∃ value other,
        first = .ok value ∧ second = .ok other ∧ related value other) ∨
      ∃ error, first = .error error ∧ second = .error error := by
  cases alike with
  | values matching => exact .inl ⟨_, _, rfl, rfl, matching⟩
  | errors error => exact .inr ⟨error, rfl, rfl⟩

/-- The errors of alike outcomes are converted alike. -/
theorem mapError
    {ζ : Type}
    {convert : ε → ζ}
    (alike : AlikeOutcomes related first second) :
    AlikeOutcomes related (first.mapError convert)
      (second.mapError convert) := by
  cases alike with
  | values matching => exact .values matching
  | errors error => exact .errors (convert error)

end AlikeOutcomes

structure Alike
    (related : α → β → Prop)
    (first : Traced τ ε α)
    (second : Traced τ ε β) :
    Prop where
  effects : first.effects = second.effects
  outcomes : AlikeOutcomes related first.outcome second.outcome

section Alike

variable {related : α → β → Prop} {following : γ → δ → Prop}
variable {first : Traced τ ε α} {second : Traced τ ε β}

theorem Alike.ofExcept
    {outcome : Except ε α}
    {other : Except ε β}
    (outcomes : AlikeOutcomes related outcome other) :
    Alike (τ := τ) related (Traced.ofExcept outcome)
      (Traced.ofExcept other) :=
  ⟨rfl, outcomes⟩

/-- What does not depend on the difference is alike. -/
theorem Alike.same (computation : Traced τ ε α) :
    Alike Eq computation computation :=
  ⟨rfl, .refl computation.outcome⟩

theorem Alike.bind
    {next : α → Traced τ ε γ}
    {otherNext : β → Traced τ ε δ}
    (starts : Alike related first second)
    (goesOn :
      ∀ {value : α} {other : β},
        related value other →
          Alike following (next value) (otherNext other)) :
    Alike following (first >>= next) (second >>= otherNext) := by
  obtain ⟨effects, outcomes⟩ := starts
  rcases first with ⟨firstEffects, firstOutcome⟩
  rcases second with ⟨secondEffects, secondOutcome⟩
  dsimp only at effects outcomes
  subst effects
  cases outcomes with
  | values matching =>
      obtain ⟨sameEffects, sameOutcomes⟩ := goesOn matching
      rw [bind_of_ok rfl, bind_of_ok rfl]
      exact ⟨congrArg (firstEffects ++ ·) sameEffects, sameOutcomes⟩
  | errors error =>
      rw [bind_of_error rfl, bind_of_error rfl]
      exact ⟨rfl, .errors error⟩

/-- One and the same error is handled alike. -/
theorem Alike.orCatch
    {handler : ε → Traced τ ε α}
    {otherHandler : ε → Traced τ ε β}
    (tried : Alike related first second)
    (handled : ∀ error, Alike related (handler error) (otherHandler error)) :
    Alike related (first.orCatch handler)
      (second.orCatch otherHandler) := by
  obtain ⟨effects, outcomes⟩ := tried
  rcases first with ⟨firstEffects, firstOutcome⟩
  rcases second with ⟨secondEffects, secondOutcome⟩
  dsimp only at effects outcomes
  subst effects
  cases outcomes with
  | values matching =>
      rw [orCatch_of_ok rfl, orCatch_of_ok rfl]
      exact ⟨rfl, .values matching⟩
  | errors error =>
      obtain ⟨sameEffects, sameOutcomes⟩ := handled error
      rw [orCatch_of_error rfl, orCatch_of_error rfl]
      exact ⟨congrArg (firstEffects ++ ·) sameEffects, sameOutcomes⟩

/-- Computations that are alike up to equal values are the same. -/
theorem Alike.eq
    {second : Traced τ ε α}
    (alike : Alike Eq first second) :
    first = second := by
  obtain ⟨effects, outcomes⟩ := alike
  rcases first with ⟨firstEffects, firstOutcome⟩
  rcases second with ⟨secondEffects, secondOutcome⟩
  dsimp only at effects outcomes
  rw [effects, outcomes.eq]

end Alike

end Traced

end Tracing

import Mathlib.Data.List.Induction

namespace Stepping

/-!
# Runs of a machine that may refuse an input

A machine is a partial step function.  A run feeds it a list of inputs, oldest
first, and is over as soon as one of them is refused.
-/

variable {σ α : Type}

/-- Feed the inputs to the machine. -/
def run?
    (step : σ → α → Option σ)
    (start : σ)
    (inputs : List α) :
    Option σ :=
  inputs.foldlM step start

/-- The condition holds of every input in the state in which it is taken. -/
def Along
    (step : σ → α → Option σ)
    (condition : σ → α → Prop)
    (start : σ)
    (inputs : List α) :
    Prop :=
  ∀ {earlier later : List α} {input : α} {before : σ},
    inputs = earlier ++ input :: later →
    run? step start earlier = some before →
    condition before input

variable {step : σ → α → Option σ} {condition : σ → α → Prop}

@[simp] theorem run?_nil
    (start : σ) :
    run? step start [] = some start :=
  rfl

theorem run?_cons
    {start final : σ}
    {input : α}
    {rest : List α} :
    run? step start (input :: rest) = some final ↔
      ∃ next,
        step start input = some next ∧
          run? step next rest = some final :=
  Option.bind_eq_some_iff

theorem run?_append_eq_some
    {start final : σ}
    {first second : List α} :
    run? step start (first ++ second) = some final ↔
      ∃ middle,
        run? step start first = some middle ∧
          run? step middle second = some final := by
  rw [run?, List.foldlM_append]
  exact Option.bind_eq_some_iff

theorem run?_concat
    {start final : σ}
    {earlier : List α}
    {input : α} :
    run? step start (earlier ++ [input]) = some final ↔
      ∃ middle,
        run? step start earlier = some middle ∧
          step middle input = some final := by
  rw [run?_append_eq_some]
  constructor
  · rintro ⟨middle, ran, last⟩
    obtain ⟨next, stepped, rest⟩ := run?_cons.mp last
    cases rest
    exact ⟨middle, ran, stepped⟩
  · rintro ⟨middle, ran, stepped⟩
    exact ⟨middle, ran, run?_cons.mpr ⟨final, stepped, rfl⟩⟩

/-- What holds along a run holds along each of its beginnings. -/
theorem Along.earlier
    {start : σ}
    {earlier later : List α}
    (along : Along step condition start (earlier ++ later)) :
    Along step condition start earlier := by
  rintro first rest input before rfl ran
  refine @along first (rest ++ later) input before ?_ ran
  rw [List.append_assoc, List.cons_append]

/-- What holds along a run holds along what follows one of its beginnings. -/
theorem Along.later
    {start middle : σ}
    {earlier later : List α}
    (along : Along step condition start (earlier ++ later))
    (ran : run? step start earlier = some middle) :
    Along step condition middle later := by
  rintro first rest input before rfl ranFirst
  refine @along (earlier ++ first) rest input before ?_ ?_
  · rw [List.append_assoc]
  · exact run?_append_eq_some.mpr ⟨middle, ran, ranFirst⟩

/-- What holds along two runs, one after the other, holds along both. -/
theorem Along.append
    {start middle : σ}
    {earlier later : List α}
    (first : Along step condition start earlier)
    (ran : run? step start earlier = some middle)
    (second : Along step condition middle later) :
    Along step condition start (earlier ++ later) := by
  intro before after input state split ranBefore
  rcases List.append_eq_append_iff.mp split with
    ⟨between, rfl, tail⟩ | ⟨between, rfl, tail⟩
  · obtain ⟨same, ranMiddle, ranBetween⟩ := run?_append_eq_some.mp ranBefore
    cases ran.symm.trans ranMiddle
    exact second tail ranBetween
  · cases between with
    | nil =>
        rw [List.append_nil] at ran
        cases ran.symm.trans ranBefore
        exact @second [] after input middle tail.symm rfl
    | cons next rest =>
        cases tail
        exact first rfl ranBefore

/--
A property that every step keeps whose input meets the condition holds at the
end of a run whose inputs all meet it.
-/
theorem run?_invariant
    {start final : σ}
    {inputs : List α}
    (condition : σ → α → Prop)
    (invariant : σ → Prop)
    (atStart : invariant start)
    (preserved :
      ∀ {state next : σ} {input : α},
        invariant state →
        condition state input →
        step state input = some next →
        invariant next)
    (along : Along step condition start inputs)
    (ran : run? step start inputs = some final) :
    invariant final := by
  induction inputs using List.reverseRecOn generalizing final with
  | nil =>
      cases ran
      exact atStart
  | append_singleton earlier input inductionHypothesis =>
      obtain ⟨middle, ranEarlier, stepped⟩ := run?_concat.mp ran
      exact preserved (inductionHypothesis along.earlier ranEarlier)
        (along rfl ranEarlier) stepped

/--
Induction along a run, newest input last: a property of the inputs so far and
of the state they have led to holds at the end when every step keeps it.
-/
theorem run?_induction
    {start final : σ}
    {inputs : List α}
    (motive : List α → σ → Prop)
    (atStart : motive [] start)
    (preserved :
      ∀ {earlier : List α} {state next : σ} {input : α},
        motive earlier state →
        step state input = some next →
        motive (earlier ++ [input]) next)
    (ran : run? step start inputs = some final) :
    motive inputs final := by
  induction inputs using List.reverseRecOn generalizing final with
  | nil =>
      cases ran
      exact atStart
  | append_singleton earlier input inductionHypothesis =>
      obtain ⟨middle, ranEarlier, stepped⟩ := run?_concat.mp ran
      exact preserved (inductionHypothesis ranEarlier) stepped

/-- Check every input in the state in which it is taken. -/
def checkAlong
    (step : σ → α → Option σ)
    (check : σ → α → Bool) :
    σ →
      List α →
      Bool
  | _, [] => true
  | state, input :: rest =>
      check state input &&
        match step state input with
        | none => true
        | some next => checkAlong step check next rest

/-- A check that succeeds along a run vouches for what it checks. -/
theorem along_of_checkAlong
    {start : σ}
    {inputs : List α}
    (check : σ → α → Bool)
    (sound :
      ∀ {state : σ} {input : α},
        check state input = true →
        condition state input)
    (checked : checkAlong step check start inputs = true) :
    Along step condition start inputs := by
  rintro earlier later input before rfl ran
  induction earlier generalizing start with
  | nil =>
      cases ran
      exact sound (Bool.and_eq_true_iff.mp checked).1
  | cons first rest inductionHypothesis =>
      obtain ⟨next, stepped, ranRest⟩ := run?_cons.mp ran
      have checkedRest := (Bool.and_eq_true_iff.mp checked).2
      simp only [stepped] at checkedRest
      exact inductionHypothesis checkedRest ranRest

end Stepping

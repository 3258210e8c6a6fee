import Mathlib.Data.List.Basic

namespace Answering

/-!
# Two components that answer the same calls

A component takes calls one after the other; a call changes its state and is
answered.  Two components whose states stay related answer a whole history of
calls alike when each call meets a condition where it is made; and only then,
when a call that does not meet it is the first one to show the difference.
-/

variable {σ τ α ρ υ : Type}

/-- The state of a component after calls, oldest first. -/
def after
    (answer : σ → α → σ × ρ) :
    σ → List α → σ
  | start, [] => start
  | start, call :: rest => after answer (answer start call).1 rest

/-- What a component answers to calls, oldest first. -/
def answers
    (answer : σ → α → σ × ρ) :
    σ → List α → List ρ
  | _, [] => []
  | start, call :: rest =>
      (answer start call).2 :: answers answer (answer start call).1 rest

/-- Every call meets the condition in the state in which it is made. -/
def Along
    (answer : σ → α → σ × ρ)
    (condition : σ → α → Prop) :
    σ → List α → Prop
  | _, [] => True
  | start, call :: rest =>
      condition start call ∧
        Along answer condition (answer start call).1 rest

variable {answer : σ → α → σ × ρ} {condition : σ → α → Prop}

instance
    [∀ state call, Decidable (condition state call)]
    (start : σ)
    (calls : List α) :
    Decidable (Along answer condition start calls) :=
  match calls with
  | [] => inferInstanceAs (Decidable True)
  | call :: rest =>
      have : Decidable (Along answer condition (answer start call).1 rest) :=
        instDecidableAlong _ rest
      inferInstanceAs (Decidable (_ ∧ _))

theorem after_append
    (start : σ)
    (earlier later : List α) :
    after answer start (earlier ++ later) =
      after answer (after answer start earlier) later := by
  induction earlier generalizing start with
  | nil =>
      rfl
  | cons call rest inductionHypothesis =>
      exact inductionHypothesis (answer start call).1

theorem along_append
    {start : σ}
    {earlier later : List α} :
    Along answer condition start (earlier ++ later) ↔
      Along answer condition start earlier ∧
        Along answer condition (after answer start earlier) later := by
  induction earlier generalizing start with
  | nil =>
      exact (and_iff_right trivial).symm
  | cons call rest inductionHypothesis =>
      exact (and_congr_right fun _ => inductionHypothesis).trans
        and_assoc.symm

/-- The states stay related along a history whose calls meet the condition. -/
theorem related_after
    {other : τ → α → τ × ρ}
    {related : σ → τ → Prop}
    {admits : α → Prop}
    (keeps :
      ∀ {state : σ} {otherState : τ} {call : α},
        related state otherState →
        admits call →
        condition state call →
        related (answer state call).1 (other otherState call).1)
    {start : σ}
    {otherStart : τ}
    {calls : List α}
    (atStart : related start otherStart)
    (admitted : ∀ call ∈ calls, admits call)
    (along : Along answer condition start calls) :
    related (after answer start calls) (after other otherStart calls) := by
  induction calls generalizing start otherStart with
  | nil =>
      exact atStart
  | cons call rest inductionHypothesis =>
      obtain ⟨first, others⟩ := List.forall_mem_cons.mp admitted
      exact inductionHypothesis (keeps atStart first along.1) others along.2

/-- The answers agree along a history exactly when its calls meet the condition. -/
theorem answers_alike_iff
    {other : τ → α → τ × ρ}
    {related : σ → τ → Prop}
    {admits : α → Prop}
    {view : ρ → υ}
    (alike :
      ∀ {state : σ} {otherState : τ} {call : α},
        related state otherState →
        admits call →
        condition state call →
        related (answer state call).1 (other otherState call).1 ∧
          view (answer state call).2 = view (other otherState call).2)
    (unlike :
      ∀ {state : σ} {otherState : τ} {call : α},
        related state otherState →
        admits call →
        ¬ condition state call →
        view (answer state call).2 ≠ view (other otherState call).2)
    {start : σ}
    {otherStart : τ}
    {calls : List α}
    (atStart : related start otherStart)
    (admitted : ∀ call ∈ calls, admits call) :
    (answers answer start calls).map view =
        (answers other otherStart calls).map view ↔
      Along answer condition start calls := by
  induction calls generalizing start otherStart with
  | nil =>
      exact iff_of_true rfl trivial
  | cons call rest inductionHypothesis =>
      have first := admitted call List.mem_cons_self
      have others : ∀ call ∈ rest, admits call := fun call member =>
        admitted call (List.mem_cons_of_mem _ member)
      simp only [answers, Along, List.map_cons, List.cons.injEq]
      by_cases met : condition start call
      · obtain ⟨kept, same⟩ := alike atStart first met
        exact and_congr (iff_of_true same met)
          (inductionHypothesis kept others)
      · have differs := unlike atStart first met
        exact iff_of_false (fun both => differs both.1)
          (fun both => met both.1)

end Answering

import IgaScheduler.InterleavedPool

namespace Interleaving

/-!
# Systems side by side, and steps whose effect stays in force

Two systems can work on one shared state: every process number has a part in
either of them, and the schedule says which part moves.  A system can work on
a part of a larger state, and be kept from some of its steps.  What a step of a
run brings into force stays so until another step ends it.
-/

section Beside

variable {σ ℓ ℓ' ι ι' Statement Statement' Reply Reply' : Type}

/-- The processes of the first system. -/
def Pool.first (pool : Pool σ (ℓ × ℓ')) : Pool σ ℓ where
  shared := pool.shared
  locals process := (pool.locals process).1

/-- The processes of the second system. -/
def Pool.second (pool : Pool σ (ℓ × ℓ')) : Pool σ ℓ' where
  shared := pool.shared
  locals process := (pool.locals process).2

@[simp] theorem Pool.first_shared
    (pool : Pool σ (ℓ × ℓ')) :
    pool.first.shared = pool.shared :=
  rfl

@[simp] theorem Pool.second_shared
    (pool : Pool σ (ℓ × ℓ')) :
    pool.second.shared = pool.shared :=
  rfl

/-- A step of a pair of calls is a step of the first call. -/
theorem Pool.first_update
    (shared : σ)
    (locals : Nat → ℓ × ℓ')
    (process : Nat)
    (calls : ℓ × ℓ') :
    Pool.first ⟨shared, Function.update locals process calls⟩ =
      ⟨shared,
        Function.update (fun other => (locals other).1) process calls.1⟩ :=
  congrArg (Pool.mk shared) (Function.comp_update Prod.fst _ _ _)

/-- A step of a pair of calls is a step of the second call. -/
theorem Pool.second_update
    (shared : σ)
    (locals : Nat → ℓ × ℓ')
    (process : Nat)
    (calls : ℓ × ℓ') :
    Pool.second ⟨shared, Function.update locals process calls⟩ =
      ⟨shared,
        Function.update (fun other => (locals other).2) process calls.2⟩ :=
  congrArg (Pool.mk shared) (Function.comp_update Prod.snd _ _ _)

namespace System

/-- Both systems on one shared state; each step belongs to one of them. -/
def beside
    (first : System σ ℓ ι Statement Reply)
    (second : System σ ℓ' ι' Statement' Reply') :
    System σ (ℓ × ℓ') (ι ⊕ ι') (Statement ⊕ Statement')
      (Reply ⊕ Reply') where
  issue
    | (call, _), .inl input => (first.issue call input).map .inl
    | (_, call), .inr input => (second.issue call input).map .inr
  resume
    | (call, other), .inl input, .inl reply =>
        (first.resume call input reply, other)
    | (other, call), .inr input, .inr reply =>
        (other, second.resume call input reply)
    | calls, _, _ => calls
  exec process input statement shared :=
    match input, statement with
    | .inl input, .inl statement =>
        (first.exec process input statement shared).map
          fun (next, reply) => (next, .inl reply)
    | .inr input, .inr statement =>
        (second.exec process input statement shared).map
          fun (next, reply) => (next, .inr reply)
    | _, _ => none

variable {first : System σ ℓ ι Statement Reply}
variable {second : System σ ℓ' ι' Statement' Reply'}
variable {start pool next final : Pool σ (ℓ × ℓ')}
variable {label : Label (ι ⊕ ι')}

/-- A step of the two systems is a step of one, and the other one rests. -/
theorem step?_beside
    (stepped : (first.beside second).step? pool label = some next) :
    (∃ input,
      label.2 = .inl input ∧
        first.step? pool.first (label.1, input) = some next.first ∧
        next.second.locals = pool.second.locals) ∨
      ∃ input,
        label.2 = .inr input ∧
          second.step? pool.second (label.1, input) = some next.second ∧
          next.first.locals = pool.first.locals := by
  obtain ⟨statement, shared, reply, issued, executed, rfl⟩ :=
    step?_eq_some.mp stepped
  rcases label with ⟨process, input⟩
  cases input with
  | inl input =>
      obtain ⟨own, issuedOwn, rfl⟩ := Option.map_eq_some_iff.mp issued
      obtain ⟨⟨_, answer⟩, executedOwn, shape⟩ :=
        Option.map_eq_some_iff.mp executed
      cases shape
      refine .inl ⟨input, rfl, step?_eq_some.mpr
        ⟨own, shared, answer, issuedOwn, executedOwn, ?_⟩, ?_⟩
      · exact Pool.first_update _ _ _ _
      · rw [Pool.second_update]
        exact Function.update_eq_self _ _
  | inr input =>
      obtain ⟨own, issuedOwn, rfl⟩ := Option.map_eq_some_iff.mp issued
      obtain ⟨⟨_, answer⟩, executedOwn, shape⟩ :=
        Option.map_eq_some_iff.mp executed
      cases shape
      refine .inr ⟨input, rfl, step?_eq_some.mpr
        ⟨own, shared, answer, issuedOwn, executedOwn, ?_⟩, ?_⟩
      · exact Pool.second_update _ _ _ _
      · rw [Pool.first_update]
        exact Function.update_eq_self _ _

/--
A property of the first system's pools holds along every run of both, when its
own steps and the statements of the second system keep it.
-/
theorem run?_first_invariant
    {schedule : List (Label (ι ⊕ ι'))}
    (invariant : Pool σ ℓ → Prop)
    (atStart : invariant start.first)
    (preserved :
      ∀ {pool next : Pool σ ℓ} {label : Label ι},
        invariant pool →
        first.step? pool label = some next →
        invariant next)
    (undisturbed :
      ∀ {process : Nat} {input : ι'} {statement : Statement'}
          {pool next : Pool σ ℓ} {reply : Reply'},
        invariant pool →
        second.exec process input statement pool.shared =
          some (next.shared, reply) →
        next.locals = pool.locals →
        invariant next)
    (ran : (first.beside second).run? start schedule = some final) :
    invariant final.first := by
  refine run?_invariant (fun visited => invariant visited.first) atStart ?_
    ran
  intro pool next label holds stepped
  rcases step?_beside stepped with
    ⟨input, -, own, -⟩ | ⟨input, -, other, rests⟩
  · exact preserved holds own
  · obtain ⟨statement, reply, -, executed, -⟩ := step?_moves other
    exact undisturbed holds executed rests

end System

end Beside

section OnPart

variable {σ τ ℓ ι Statement Reply : Type}

/-- A part of a state that can be read and replaced. -/
structure Part (σ τ : Type) where
  get : σ → τ
  set : τ → σ → σ
  get_set : ∀ part whole, get (set part whole) = part

/-- The processes, as far as they work on this part of the state. -/
def Pool.onPart
    (part : Part σ τ)
    (pool : Pool σ ℓ) :
    Pool τ ℓ where
  shared := part.get pool.shared
  locals := pool.locals

namespace System

/-- A system that works on a part of the state and leaves the rest alone. -/
def onPart
    (part : Part σ τ)
    (system : System τ ℓ ι Statement Reply) :
    System σ ℓ ι Statement Reply where
  issue := system.issue
  resume := system.resume
  exec process input statement shared :=
    (system.exec process input statement (part.get shared)).map
      fun (next, reply) => (part.set next shared, reply)

/-- A step on a part of the state replaces that part only. -/
theorem step?_onPart
    {part : Part σ τ}
    {system : System τ ℓ ι Statement Reply}
    {pool next : Pool σ ℓ}
    {label : Label ι}
    (stepped : (system.onPart part).step? pool label = some next) :
    system.step? (pool.onPart part) label = some (next.onPart part) ∧
      next.shared = part.set (part.get next.shared) pool.shared := by
  obtain ⟨statement, shared, reply, issued, executed, rfl⟩ :=
    step?_eq_some.mp stepped
  obtain ⟨⟨after, answer⟩, executedThere, shape⟩ :=
    Option.map_eq_some_iff.mp executed
  cases shape
  have kept : part.get (part.set after pool.shared) = after :=
    part.get_set after pool.shared
  refine ⟨step?_eq_some.mpr
    ⟨statement, after, reply, issued, executedThere, ?_⟩, ?_⟩
  · simp only [Pool.onPart, kept]
    rfl
  · rw [kept]

/-- The system without the steps that are not admitted. -/
def restrict
    (system : System σ ℓ ι Statement Reply)
    (admits : ι → Bool) :
    System σ ℓ ι Statement Reply where
  issue call input :=
    if admits input then system.issue call input else none
  resume := system.resume
  exec := system.exec

theorem step?_restrict
    {system : System σ ℓ ι Statement Reply}
    {admits : ι → Bool}
    {pool next : Pool σ ℓ}
    {label : Label ι}
    (stepped : (system.restrict admits).step? pool label = some next) :
    admits label.2 = true ∧ system.step? pool label = some next := by
  obtain ⟨statement, shared, reply, issued, executed, rfl⟩ :=
    step?_eq_some.mp stepped
  simp only [restrict] at issued
  split at issued
  · rename_i admitted
    exact ⟨admitted, step?_eq_some.mpr
      ⟨statement, shared, reply, issued, executed, rfl⟩⟩
  · cases issued

end System

end OnPart

namespace System

variable {σ ℓ ι Statement Reply : Type}

/--
Some step of the run has opened what is in force in its last pool, and no step
since has closed it.
-/
inductive InForce
    (system : System σ ℓ ι Statement Reply)
    (start : Pool σ ℓ)
    (opens closes : Label ι → Pool σ ℓ → Pool σ ℓ → Prop) :
    List (Label ι) →
      Pool σ ℓ →
      Prop where
  | opened
      {earlier : List (Label ι)}
      {label : Label ι}
      {before after : Pool σ ℓ}
      (ran : system.run? start earlier = some before)
      (stepped : system.step? before label = some after)
      (opening : opens label before after) :
      InForce system start opens closes (earlier ++ [label]) after
  | kept
      {earlier : List (Label ι)}
      {label : Label ι}
      {before after : Pool σ ℓ}
      (standing : InForce system start opens closes earlier before)
      (stepped : system.step? before label = some after)
      (unclosed : ¬ closes label before after) :
      InForce system start opens closes (earlier ++ [label]) after

variable {system : System σ ℓ ι Statement Reply}
variable {start pool final : Pool σ ℓ}
variable {opens closes : Label ι → Pool σ ℓ → Pool σ ℓ → Prop}
variable {schedule earlier later rest : List (Label ι)}

/-- What is in force is so at the end of a run. -/
theorem InForce.ran
    (standing : system.InForce start opens closes schedule pool) :
    system.run? start schedule = some pool := by
  induction standing with
  | opened ran stepped opening =>
      exact run?_append_eq_some.mpr
        ⟨_, ran, run?_singleton.trans stepped⟩
  | kept standing stepped unclosed ran =>
      exact run?_append_eq_some.mpr
        ⟨_, ran, run?_singleton.trans stepped⟩

/--
A property that every opening step establishes, and that every other step of
the schedule keeps, holds while it is in force.
-/
theorem InForce.holds_within
    (property : Pool σ ℓ → Prop)
    (established :
      ∀ {earlier : List (Label ι)} {label : Label ι}
          {before after : Pool σ ℓ},
        system.run? start earlier = some before →
        system.step? before label = some after →
        opens label before after →
        property after)
    (preserved :
      ∀ {earlier later : List (Label ι)} {label : Label ι}
          {before after : Pool σ ℓ},
        schedule = earlier ++ label :: later →
        system.InForce start opens closes earlier before →
        property before →
        system.step? before label = some after →
        ¬ closes label before after →
        property after)
    (shape : schedule = earlier ++ later)
    (standing : system.InForce start opens closes earlier pool) :
    property pool := by
  induction standing generalizing later with
  | opened ran stepped opening =>
      exact established ran stepped opening
  | kept standing stepped unclosed inductionHypothesis =>
      have shapeEarlier := shape
      rw [List.append_assoc, List.singleton_append] at shapeEarlier
      exact preserved shapeEarlier standing
        (inductionHypothesis shapeEarlier) stepped unclosed

/-- What is in force stays so along steps that are checked not to close it. -/
theorem InForce.append_checked
    (check : Pool σ ℓ → Label ι → Bool)
    (unclosed :
      ∀ {label : Label ι} {before after : Pool σ ℓ},
        check before label = true → ¬ closes label before after)
    (standing : system.InForce start opens closes earlier pool)
    (checked : system.checkSteps check pool rest = true)
    (ran : system.run? pool rest = some final) :
    system.InForce start opens closes (earlier ++ rest) final := by
  induction rest generalizing earlier pool with
  | nil =>
      cases ran
      rwa [List.append_nil]
  | cons label rest inductionHypothesis =>
      obtain ⟨next, stepped, ranRest⟩ :=
        run?_append_eq_some.mp
          (show system.run? pool ([label] ++ rest) = some final from ran)
      rw [run?_singleton] at stepped
      obtain ⟨own, checkedRest⟩ := Bool.and_eq_true_iff.mp checked
      simp only [stepped] at checkedRest
      rw [← List.singleton_append, ← List.append_assoc]
      exact inductionHypothesis (.kept standing stepped (unclosed own))
        checkedRest ranRest

end System

end Interleaving

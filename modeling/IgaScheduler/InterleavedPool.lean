import Mathlib.Data.List.Induction
import Mathlib.Logic.Function.Basic

namespace Interleaving

/-!
# Interleavings of statement-issuing processes

Every process is an asynchronous function that runs up to its next `await`,
issues one atomic statement on the shared state, and resumes with the reply.
A schedule names, step by step, which process moves and what the environment
chooses for it.  A statement that has to wait is not enabled, so the schedule
must let somebody else move first.
-/

/-- The programs of the processes and the server that executes statements. -/
structure System (σ ℓ ι Statement Reply : Type) where
  issue : ℓ → ι → Option Statement
  resume : ℓ → ι → Reply → ℓ
  exec : Nat → ι → Statement → σ → Option (σ × Reply)

/-- The shared state and the local control state of every process. -/
structure Pool (σ ℓ : Type) where
  shared : σ
  locals : Nat → ℓ

/-- One scheduled step: the process that moves and its environment's choice. -/
abbrev Label (ι : Type) := Nat × ι

namespace System

variable {σ ℓ ι Statement Reply : Type}

/-- Let one process issue its next statement and resume with the reply. -/
def step?
    (system : System σ ℓ ι Statement Reply)
    (pool : Pool σ ℓ)
    (label : Label ι) :
    Option (Pool σ ℓ) :=
  match system.issue (pool.locals label.1) label.2 with
  | none => none
  | some statement =>
      match system.exec label.1 label.2 statement pool.shared with
      | none => none
      | some (shared, reply) =>
          some {
            shared := shared
            locals :=
              Function.update pool.locals label.1
                (system.resume (pool.locals label.1) label.2 reply)
          }

/-- Run a finite schedule. -/
def run?
    (system : System σ ℓ ι Statement Reply) :
    Pool σ ℓ →
      List (Label ι) →
      Option (Pool σ ℓ)
  | pool, [] => some pool
  | pool, label :: rest =>
      match system.step? pool label with
      | none => none
      | some next => system.run? next rest

/-- Some pool of the run, its two ends included, satisfies the property. -/
def Visits
    (system : System σ ℓ ι Statement Reply)
    (start : Pool σ ℓ)
    (schedule : List (Label ι))
    (property : Pool σ ℓ → Prop) :
    Prop :=
  ∃ earlier later pool,
    schedule = earlier ++ later ∧
      system.run? start earlier = some pool ∧
      property pool

/-- Some step of the run is of this kind. -/
def Happened
    (system : System σ ℓ ι Statement Reply)
    (start : Pool σ ℓ)
    (schedule : List (Label ι))
    (event : Label ι → Pool σ ℓ → Pool σ ℓ → Prop) :
    Prop :=
  ∃ earlier label later before after,
    schedule = earlier ++ label :: later ∧
      system.run? start earlier = some before ∧
      system.step? before label = some after ∧
      event label before after

/--
The newest step of `process` in the run took it from the pool `before` to the
pool `after`; the rest of the run belongs to other processes.
-/
def LastMove
    (system : System σ ℓ ι Statement Reply)
    (start : Pool σ ℓ)
    (schedule : List (Label ι))
    (process : Nat)
    (before after : Pool σ ℓ) :
    Prop :=
  ∃ earlier label later,
    schedule = earlier ++ label :: later ∧
      label.1 = process ∧
      (∀ other ∈ later, other.1 ≠ process) ∧
      system.run? start earlier = some before ∧
      system.step? before label = some after

variable {system : System σ ℓ ι Statement Reply}

/-- Everything one enabled step consists of. -/
theorem step?_eq_some
    {pool next : Pool σ ℓ}
    {label : Label ι} :
    system.step? pool label = some next ↔
      ∃ statement shared reply,
        system.issue (pool.locals label.1) label.2 = some statement ∧
          system.exec label.1 label.2 statement pool.shared =
            some (shared, reply) ∧
          next = {
            shared := shared
            locals :=
              Function.update pool.locals label.1
                (system.resume (pool.locals label.1) label.2 reply)
          } := by
  unfold step?
  constructor
  · intro enabled
    split at enabled
    · cases enabled
    · rename_i statement issued
      split at enabled
      · cases enabled
      · rename_i shared reply executed
        cases enabled
        exact ⟨statement, shared, reply, issued, executed, rfl⟩
  · rintro ⟨statement, shared, reply, issued, executed, rfl⟩
    simp [issued, executed]

/-- Only the scheduled process changes its local state. -/
theorem step?_locals_other
    {pool next : Pool σ ℓ}
    {label : Label ι}
    {process : Nat}
    (stepped : system.step? pool label = some next)
    (different : process ≠ label.1) :
    next.locals process = pool.locals process := by
  obtain ⟨_, _, _, _, _, rfl⟩ := step?_eq_some.mp stepped
  exact Function.update_of_ne different _ _

/-- A process that cannot move keeps its local state. -/
theorem step?_locals_of_stuck
    {pool next : Pool σ ℓ}
    {label : Label ι}
    {process : Nat}
    (stepped : system.step? pool label = some next)
    (stuck : ∀ input, system.issue (pool.locals process) input = none) :
    next.locals process = pool.locals process := by
  refine step?_locals_other stepped ?_
  rintro rfl
  obtain ⟨statement, _, _, issued, _, _⟩ := step?_eq_some.mp stepped
  rw [stuck label.2] at issued
  cases issued

/-- One enabled step, read off its two pools. -/
theorem step?_moves
    {pool next : Pool σ ℓ}
    {label : Label ι}
    (stepped : system.step? pool label = some next) :
    ∃ statement reply,
      system.issue (pool.locals label.1) label.2 = some statement ∧
        system.exec label.1 label.2 statement pool.shared =
          some (next.shared, reply) ∧
        next.locals label.1 =
          system.resume (pool.locals label.1) label.2 reply := by
  obtain ⟨statement, shared, reply, issued, executed, rfl⟩ :=
    step?_eq_some.mp stepped
  exact ⟨statement, reply, issued, executed, Function.update_self _ _ _⟩

theorem run?_append
    {start : Pool σ ℓ}
    {first second : List (Label ι)} :
    system.run? start (first ++ second) =
      (system.run? start first).bind fun pool =>
        system.run? pool second := by
  induction first generalizing start with
  | nil =>
      rfl
  | cons label rest inductionHypothesis =>
      simp only [List.cons_append, run?]
      cases system.step? start label with
      | none =>
          rfl
      | some next =>
          exact inductionHypothesis

theorem run?_append_eq_some
    {start final : Pool σ ℓ}
    {first second : List (Label ι)} :
    system.run? start (first ++ second) = some final ↔
      ∃ middle,
        system.run? start first = some middle ∧
          system.run? middle second = some final := by
  rw [run?_append, Option.bind_eq_some_iff]

theorem run?_singleton
    {start : Pool σ ℓ}
    {label : Label ι} :
    system.run? start [label] = system.step? start label := by
  simp only [run?]
  cases system.step? start label <;> rfl

/--
Induction along a run, newest step last: a property of the schedule so far and
of the pool it has reached holds at the end when every enabled step keeps it.
-/
theorem run?_induction
    {start final : Pool σ ℓ}
    {schedule : List (Label ι)}
    (motive : List (Label ι) → Pool σ ℓ → Prop)
    (atStart : motive [] start)
    (preserved :
      ∀ {earlier : List (Label ι)} {pool next : Pool σ ℓ}
        {label : Label ι},
        system.run? start earlier = some pool →
        motive earlier pool →
        system.step? pool label = some next →
        motive (earlier ++ [label]) next)
    (ran : system.run? start schedule = some final) :
    motive schedule final := by
  induction schedule using List.reverseRecOn generalizing final with
  | nil =>
      cases ran
      exact atStart
  | append_singleton earlier label inductionHypothesis =>
      obtain ⟨middle, ranEarlier, stepped⟩ :=
        run?_append_eq_some.mp ran
      rw [run?_singleton] at stepped
      exact preserved ranEarlier (inductionHypothesis ranEarlier) stepped

/--
Induction along the part of a schedule that has run so far, where every step is
known to be one of that schedule.
-/
theorem run?_induction_within
    {start : Pool σ ℓ}
    {schedule : List (Label ι)}
    (motive : Pool σ ℓ → Prop)
    (atStart : motive start)
    (preserved :
      ∀ {earlier later : List (Label ι)} {pool next : Pool σ ℓ}
        {label : Label ι},
        schedule = earlier ++ label :: later →
        system.run? start earlier = some pool →
        motive pool →
        system.step? pool label = some next →
        motive next)
    {earlier later : List (Label ι)}
    {pool : Pool σ ℓ}
    (shape : schedule = earlier ++ later)
    (ran : system.run? start earlier = some pool) :
    motive pool := by
  induction earlier using List.reverseRecOn generalizing later pool with
  | nil =>
      cases ran
      exact atStart
  | append_singleton first label inductionHypothesis =>
      obtain ⟨middle, ranFirst, stepped⟩ := run?_append_eq_some.mp ran
      rw [run?_singleton] at stepped
      have shapeFirst : schedule = first ++ label :: later := by
        rw [shape, List.append_assoc, List.singleton_append]
      exact preserved shapeFirst ranFirst
        (inductionHypothesis shapeFirst ranFirst) stepped

/-- A property of pools that every step keeps holds along every run. -/
theorem run?_invariant
    {start final : Pool σ ℓ}
    {schedule : List (Label ι)}
    (invariant : Pool σ ℓ → Prop)
    (atStart : invariant start)
    (preserved :
      ∀ {pool next : Pool σ ℓ} {label : Label ι},
        invariant pool →
        system.step? pool label = some next →
        invariant next)
    (ran : system.run? start schedule = some final) :
    invariant final :=
  run?_induction
    (fun _ pool => invariant pool) atStart
    (fun _ holds stepped => preserved holds stepped) ran

/--
A property of the shared state that every statement keeps holds along every
run, whatever the processes do.
-/
theorem run?_shared_invariant
    {start final : Pool σ ℓ}
    {schedule : List (Label ι)}
    (invariant : σ → Prop)
    (atStart : invariant start.shared)
    (preserved :
      ∀ {process : Nat} {input : ι} {statement : Statement}
        {shared next : σ} {reply : Reply},
        invariant shared →
        system.exec process input statement shared = some (next, reply) →
        invariant next)
    (ran : system.run? start schedule = some final) :
    invariant final.shared :=
  run?_invariant
    (fun pool => invariant pool.shared) atStart
    (by
      intro pool next label holds stepped
      obtain ⟨_, _, _, _, executed, rfl⟩ := step?_eq_some.mp stepped
      exact preserved holds executed) ran

/--
A system whose steps are steps of another one, or change nothing there, runs
only where the other one does.
-/
theorem run?_simulates
    {σ' ℓ' ι' Statement' Reply' : Type}
    {other : System σ' ℓ' ι' Statement' Reply'}
    {start final : Pool σ ℓ}
    {schedule : List (Label ι)}
    (project : Pool σ ℓ → Pool σ' ℓ')
    (simulated :
      ∀ {pool next : Pool σ ℓ} {label : Label ι},
        system.step? pool label = some next →
        project next = project pool ∨
          ∃ label', other.step? (project pool) label' = some (project next))
    (ran : system.run? start schedule = some final) :
    ∃ schedule',
      other.run? (project start) schedule' = some (project final) := by
  refine run?_invariant
    (fun pool =>
      ∃ schedule',
        other.run? (project start) schedule' = some (project pool))
    ⟨[], rfl⟩ ?_ ran
  rintro pool next label ⟨schedule', reached⟩ stepped
  rcases simulated stepped with same | ⟨label', moved⟩
  · exact ⟨schedule', by rw [same, reached]⟩
  · exact ⟨schedule' ++ [label'],
      run?_append_eq_some.mpr
        ⟨project pool, reached, run?_singleton.trans moved⟩⟩

/-- A process that does not move keeps its local state. -/
theorem run?_locals_of_not_mem
    {start final : Pool σ ℓ}
    {schedule : List (Label ι)}
    {process : Nat}
    (ran : system.run? start schedule = some final)
    (idle : ∀ label ∈ schedule, label.1 ≠ process) :
    final.locals process = start.locals process := by
  induction schedule generalizing start with
  | nil =>
      cases ran
      rfl
  | cons label rest inductionHypothesis =>
      obtain ⟨next, stepped, ranRest⟩ :=
        run?_append_eq_some.mp
          (show system.run? start ([label] ++ rest) = some final from ran)
      rw [run?_singleton] at stepped
      rw [inductionHypothesis ranRest
        (fun other member => idle other (List.mem_cons_of_mem _ member))]
      exact step?_locals_other stepped
        (idle label List.mem_cons_self).symm

/-- A process whose local state differs from its first one has moved. -/
theorem exists_lastMove
    {start final : Pool σ ℓ}
    {schedule : List (Label ι)}
    {process : Nat}
    (ran : system.run? start schedule = some final)
    (moved : final.locals process ≠ start.locals process) :
    ∃ before after,
      system.LastMove start schedule process before after := by
  induction schedule using List.reverseRecOn generalizing final with
  | nil =>
      cases ran
      exact (moved rfl).elim
  | append_singleton earlier label inductionHypothesis =>
      obtain ⟨middle, ranEarlier, stepped⟩ := run?_append_eq_some.mp ran
      rw [run?_singleton] at stepped
      by_cases own : label.1 = process
      · exact ⟨middle, final, earlier, label, [], rfl, own, by simp,
          ranEarlier, stepped⟩
      · rw [step?_locals_other stepped (Ne.symm own)] at moved
        obtain ⟨before, after, first, entry, later, shape, entered,
            others, ranFirst, steppedEntry⟩ :=
          inductionHypothesis ranEarlier moved
        refine ⟨before, after, first, entry, later ++ [label], ?_, entered,
          ?_, ranFirst, steppedEntry⟩
        · rw [shape, List.append_assoc, List.cons_append]
        · intro other member
          rcases List.mem_append.mp member with inLater | last
          · exact others other inLater
          · rw [List.mem_singleton.mp last]
            exact own

/-- Since its newest step a process has kept its local state. -/
theorem LastMove.locals
    {start before after final : Pool σ ℓ}
    {schedule : List (Label ι)}
    {process : Nat}
    (lastMove : system.LastMove start schedule process before after)
    (ran : system.run? start schedule = some final) :
    final.locals process = after.locals process := by
  obtain ⟨earlier, label, later, rfl, -, others, ranEarlier, stepped⟩ :=
    lastMove
  obtain ⟨middle, ranMiddle, ranLater⟩ := run?_append_eq_some.mp ran
  cases ranEarlier.symm.trans ranMiddle
  simp only [run?, stepped] at ranLater
  exact run?_locals_of_not_mem ranLater others

/-- The pool right after the newest step of a process is one of the run. -/
theorem LastMove.reached
    {start before after : Pool σ ℓ}
    {schedule : List (Label ι)}
    {process : Nat}
    (lastMove : system.LastMove start schedule process before after) :
    ∃ earlier later,
      schedule = earlier ++ later ∧
        system.run? start earlier = some after := by
  obtain ⟨earlier, label, later, rfl, -, -, ranEarlier, stepped⟩ := lastMove
  exact ⟨earlier ++ [label], later,
    by rw [List.append_assoc, List.singleton_append],
    run?_append_eq_some.mpr
      ⟨before, ranEarlier, run?_singleton.trans stepped⟩⟩

/-- Check every step of a run in the pool in which it is taken. -/
def checkSteps
    (system : System σ ℓ ι Statement Reply)
    (check : Pool σ ℓ → Label ι → Bool) :
    Pool σ ℓ →
      List (Label ι) →
      Bool
  | _, [] => true
  | pool, label :: rest =>
      check pool label &&
        match system.step? pool label with
        | none => true
        | some next => system.checkSteps check next rest

/-- A check that succeeds along a schedule succeeds at each of its steps. -/
theorem check_of_checkSteps
    {check : Pool σ ℓ → Label ι → Bool}
    {start pool : Pool σ ℓ}
    {earlier later : List (Label ι)}
    {label : Label ι}
    (checked :
      system.checkSteps check start (earlier ++ label :: later) = true)
    (ran : system.run? start earlier = some pool) :
    check pool label = true := by
  induction earlier generalizing start with
  | nil =>
      cases ran
      exact (Bool.and_eq_true_iff.mp checked).1
  | cons first rest inductionHypothesis =>
      obtain ⟨next, stepped, ranRest⟩ :=
        run?_append_eq_some.mp
          (show system.run? start ([first] ++ rest) = some pool from ran)
      rw [run?_singleton] at stepped
      have checkedRest := (Bool.and_eq_true_iff.mp checked).2
      simp only [stepped] at checkedRest
      exact inductionHypothesis checkedRest ranRest

/-- The start of a run is visited. -/
theorem Visits.start
    {start : Pool σ ℓ}
    {schedule : List (Label ι)}
    {property : Pool σ ℓ → Prop}
    (holds : property start) :
    system.Visits start schedule property :=
  ⟨[], schedule, start, rfl, rfl, holds⟩

/-- The end of a run is visited. -/
theorem Visits.final
    {start final : Pool σ ℓ}
    {schedule : List (Label ι)}
    {property : Pool σ ℓ → Prop}
    (ran : system.run? start schedule = some final)
    (holds : property final) :
    system.Visits start schedule property :=
  ⟨schedule, [], final, (List.append_nil _).symm, ran, holds⟩

/-- What a run has visited stays visited when it is continued. -/
theorem Visits.append
    {start : Pool σ ℓ}
    {schedule : List (Label ι)}
    {property : Pool σ ℓ → Prop}
    (visits : system.Visits start schedule property)
    (rest : List (Label ι)) :
    system.Visits start (schedule ++ rest) property := by
  obtain ⟨earlier, later, pool, shape, ran, holds⟩ := visits
  exact ⟨earlier, later ++ rest, pool,
    by rw [shape, List.append_assoc], ran, holds⟩

/-- Nothing has happened before the first step. -/
theorem not_happened_nil
    {start : Pool σ ℓ}
    {event : Label ι → Pool σ ℓ → Pool σ ℓ → Prop} :
    ¬ system.Happened start [] event := by
  rintro ⟨earlier, label, later, before, after, shape, -⟩
  simp at shape

/-- What has happened stays so when the run is continued. -/
theorem Happened.append
    {start : Pool σ ℓ}
    {schedule : List (Label ι)}
    {event : Label ι → Pool σ ℓ → Pool σ ℓ → Prop}
    (happened : system.Happened start schedule event)
    (rest : List (Label ι)) :
    system.Happened start (schedule ++ rest) event := by
  obtain ⟨earlier, label, later, before, after, rfl, ran, stepped, holds⟩ :=
    happened
  exact ⟨earlier, label, later ++ rest, before, after, by simp, ran,
    stepped, holds⟩

/-- What has happened after one more step: that step, or something before. -/
theorem happened_append_singleton
    {start pool next : Pool σ ℓ}
    {earlier : List (Label ι)}
    {label : Label ι}
    {event : Label ι → Pool σ ℓ → Pool σ ℓ → Prop}
    (ran : system.run? start earlier = some pool)
    (stepped : system.step? pool label = some next) :
    system.Happened start (earlier ++ [label]) event ↔
      system.Happened start earlier event ∨ event label pool next := by
  constructor
  · rintro ⟨first, entry, later, before, after, shape, ranFirst,
      steppedEntry, happened⟩
    rcases List.eq_nil_or_concat later with rfl | ⟨middle, last, rfl⟩
    · obtain ⟨rfl, entries⟩ := List.append_inj' shape rfl
      obtain rfl := List.singleton_inj.mp entries
      obtain rfl := Option.some.inj (ran.symm.trans ranFirst)
      obtain rfl := Option.some.inj (stepped.symm.trans steppedEntry)
      exact .inr happened
    · have shapeEarlier : earlier = first ++ entry :: middle := by
        rw [List.concat_eq_append, ← List.cons_append,
          ← List.append_assoc] at shape
        exact (List.append_inj' shape rfl).1
      exact .inl ⟨first, entry, middle, before, after, shapeEarlier,
        ranFirst, steppedEntry, happened⟩
  · rintro (⟨first, entry, middle, before, after, rfl, ranFirst,
      steppedEntry, happened⟩ | happened)
    · exact ⟨first, entry, middle ++ [label], before, after, by simp,
        ranFirst, steppedEntry, happened⟩
    · exact ⟨earlier, label, [], pool, next, rfl, ran, stepped, happened⟩

end System

end Interleaving

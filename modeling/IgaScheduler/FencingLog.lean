import Mathlib.Data.List.Nodup

namespace Fencing

/-!
# Histories of a fenced resource

A resource is granted to one holder at a time.  Every grant hands out a token,
a revocation takes the resource back, and a holder may end its work early.
A history lists these events newest first.  A token fences a holder off as
soon as the resource has been revoked or granted again.
-/

/-- What can happen to the resource. -/
inductive Event (τ : Type) where
  | granted (token : τ)
  | revoked
  | ended
  deriving DecidableEq, Repr

/-- The events of one resource, newest first. -/
abbrev History (τ : Type) := List (Event τ)

variable {τ : Type}

/-- The token of the grant in force: the newest one, unless revoked since. -/
def holder : History τ → Option τ
  | [] => none
  | .granted token :: _ => some token
  | .revoked :: _ => none
  | .ended :: older => holder older

/-- The token of the newest grant, revoked or not. -/
def latest : History τ → Option τ
  | [] => none
  | .granted token :: _ => some token
  | .revoked :: older => latest older
  | .ended :: older => latest older

/-- How often the work has ended since the newest grant. -/
def endsSinceGrant : History τ → Nat
  | [] => 0
  | .granted _ :: _ => 0
  | .revoked :: older => endsSinceGrant older
  | .ended :: older => endsSinceGrant older + 1

/-- Number of revocations. -/
def revocations : History τ → Nat
  | [] => 0
  | .granted _ :: older => revocations older
  | .revoked :: older => revocations older + 1
  | .ended :: older => revocations older

/-- All tokens handed out, newest first. -/
def tokens (history : History τ) : List τ :=
  history.filterMap fun
    | .granted token => some token
    | _ => none

/-- Some grant of the token has been followed by a revocation or a grant. -/
def Superseded
    (history : History τ)
    (token : τ) :
    Prop :=
  ∃ newer older,
    history = newer ++ .granted token :: older ∧
      ∃ event ∈ newer, event ≠ .ended

/-- The resource is granted only while nobody holds it. -/
def Exclusive : History τ → Prop
  | [] => True
  | .granted _ :: older => holder older = none ∧ Exclusive older
  | .revoked :: older => Exclusive older
  | .ended :: older => Exclusive older

theorem Superseded.granted
    {history : History τ}
    {token : τ}
    (superseded : Superseded history token) :
    .granted token ∈ history := by
  obtain ⟨newer, older, rfl, -⟩ := superseded
  exact List.mem_append_right _ List.mem_cons_self

/-- What has been superseded stays so. -/
theorem Superseded.append
    {history : History τ}
    {token : τ}
    (superseded : Superseded history token)
    (events : History τ) :
    Superseded (events ++ history) token := by
  obtain ⟨newer, older, rfl, event, member, different⟩ := superseded
  exact ⟨events ++ newer, older, (List.append_assoc _ _ _).symm, event,
    List.mem_append_right _ member, different⟩

/-- A further grant supersedes every earlier one. -/
theorem superseded_of_granted
    {history : History τ}
    {token : τ}
    (granted : .granted token ∈ history)
    (further : τ) :
    Superseded (.granted further :: history) token := by
  obtain ⟨newer, older, rfl⟩ := List.append_of_mem granted
  exact ⟨.granted further :: newer, older, rfl, .granted further,
    List.mem_cons_self, by simp⟩

@[simp] theorem mem_tokens
    {history : History τ}
    {token : τ} :
    token ∈ tokens history ↔ .granted token ∈ history := by
  simp only [tokens, List.mem_filterMap]
  constructor
  · rintro ⟨event, member, shape⟩
    cases event with
    | granted other =>
        cases shape
        exact member
    | revoked =>
        cases shape
    | ended =>
        cases shape
  · intro member
    exact ⟨.granted token, member, rfl⟩

@[simp] theorem tokens_append
    (newer older : History τ) :
    tokens (newer ++ older) = tokens newer ++ tokens older :=
  List.filterMap_append

/-- The grant in force is the newest grant. -/
theorem latest_of_holder
    {history : History τ}
    {token : τ}
    (held : holder history = some token) :
    latest history = some token := by
  induction history with
  | nil =>
      cases held
  | cons event older inductionHypothesis =>
      cases event with
      | granted other =>
          exact held
      | revoked =>
          cases held
      | ended =>
          exact inductionHypothesis held

theorem mem_of_latest
    {history : History τ}
    {token : τ}
    (last : latest history = some token) :
    .granted token ∈ history := by
  induction history with
  | nil =>
      cases last
  | cons event older inductionHypothesis =>
      cases event with
      | granted other =>
          cases last
          exact List.mem_cons_self
      | revoked | ended =>
          exact List.mem_cons_of_mem _ (inductionHypothesis last)

theorem mem_of_holder
    {history : History τ}
    {token : τ}
    (held : holder history = some token) :
    .granted token ∈ history := by
  induction history with
  | nil =>
      cases held
  | cons event older inductionHypothesis =>
      cases event with
      | granted other =>
          cases held
          exact List.mem_cons_self
      | revoked =>
          cases held
      | ended =>
          exact List.mem_cons_of_mem _ (inductionHypothesis held)

/-- A grant in force under which nothing has ended is the newest event. -/
theorem newest_of_holder
    {history : History τ}
    {token : τ}
    (held : holder history = some token)
    (atWork : endsSinceGrant history = 0) :
    ∃ older, history = .granted token :: older := by
  cases history with
  | nil =>
      cases held
  | cons event older =>
      cases event with
      | granted other =>
          cases held
          exact ⟨older, rfl⟩
      | revoked =>
          cases held
      | ended =>
          cases atWork

/-- Whoever holds the resource behind some events was granted it in front. -/
theorem holder_append_of_event
    {newer older : History τ}
    {token : τ}
    (moved : ∃ event ∈ newer, event ≠ .ended)
    (held : holder (newer ++ older) = some token) :
    .granted token ∈ newer := by
  induction newer with
  | nil =>
      obtain ⟨event, member, -⟩ := moved
      cases member
  | cons event rest inductionHypothesis =>
      cases event with
      | granted other =>
          cases held
          exact List.mem_cons_self
      | revoked =>
          cases held
      | ended =>
          refine List.mem_cons_of_mem _ (inductionHypothesis ?_ held)
          obtain ⟨other, member, different⟩ := moved
          rcases List.mem_cons.mp member with rfl | later
          · exact (different rfl).elim
          · exact ⟨other, later, different⟩

/-- Endings in front of a history do not change who holds the resource. -/
theorem holder_append_of_ended
    {newer older : History τ}
    (ended : ∀ event ∈ newer, event = .ended) :
    holder (newer ++ older) = holder older := by
  induction newer with
  | nil =>
      rfl
  | cons event rest inductionHypothesis =>
      cases ended event List.mem_cons_self
      exact inductionHypothesis fun other member =>
        ended other (List.mem_cons_of_mem _ member)

/-- A grant that is in force has been in force since it was made. -/
theorem holder_of_append
    {newer older : History τ}
    {token : τ}
    (distinct : (tokens (newer ++ older)).Nodup)
    (granted : .granted token ∈ older)
    (held : holder (newer ++ older) = some token) :
    holder older = some token := by
  by_cases moved : ∃ event ∈ newer, event ≠ .ended
  · have again := mem_tokens.mpr (holder_append_of_event moved held)
    rw [tokens_append] at distinct
    exact ((List.nodup_append.mp distinct).2.2 token again token
      (mem_tokens.mpr granted) rfl).elim
  · rw [holder_append_of_ended] at held
    · exact held
    · intro event member
      by_contra different
      exact moved ⟨event, member, different⟩

/-- When no token is handed out twice, a superseded token is not in force. -/
theorem holder_ne_of_superseded
    {history : History τ}
    {token : τ}
    (distinct : (tokens history).Nodup)
    (superseded : Superseded history token) :
    holder history ≠ some token := by
  intro held
  obtain ⟨newer, older, rfl, moved⟩ := superseded
  have inNewer : token ∈ tokens newer :=
    mem_tokens.mpr (holder_append_of_event moved held)
  have inOlder : token ∈ tokens (.granted token :: older) := by
    simp
  rw [tokens_append] at distinct
  exact (List.nodup_append.mp distinct).2.2
    token inNewer token inOlder rfl

theorem Exclusive.of_append
    {newer older : History τ}
    (exclusive : Exclusive (newer ++ older)) :
    Exclusive older := by
  induction newer with
  | nil =>
      exact exclusive
  | cons event rest inductionHypothesis =>
      cases event with
      | granted token =>
          exact inductionHypothesis exclusive.2
      | revoked =>
          exact inductionHypothesis exclusive
      | ended =>
          exact inductionHypothesis exclusive

/-- A holder that is gone has been revoked or superseded by another grant. -/
theorem revoked_of_holder_eq_none
    {newer older : History τ}
    {token : τ}
    (free : holder (newer ++ .granted token :: older) = none) :
    .revoked ∈ newer := by
  induction newer with
  | nil =>
      cases free
  | cons event rest inductionHypothesis =>
      cases event with
      | granted other =>
          cases free
      | revoked =>
          exact List.mem_cons_self
      | ended =>
          exact List.mem_cons_of_mem _ (inductionHypothesis free)

/-- Between two grants of an exclusive history there is a revocation. -/
theorem Exclusive.revoked_between
    {newer middle older : History τ}
    {first second : τ}
    (exclusive :
      Exclusive
        (newer ++ .granted second :: (middle ++ .granted first :: older))) :
    .revoked ∈ middle :=
  revoked_of_holder_eq_none exclusive.of_append.1

end Fencing

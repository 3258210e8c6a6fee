import IgaScheduler.RelationalDatabase

namespace Relational

/-!
# When a session can go on

A session whose transaction is open waits for nobody who holds no lock: each of
its statements is enabled, a rollback to a savepoint once there is one.
-/

namespace Database

variable {κ ρ : Type} [DecidableEq κ]
variable {database : Database κ ρ}
variable {session : Nat}
variable {transaction : Transaction κ ρ}

/-- Where only one session has a transaction, no row is locked by another. -/
theorem lockedByOther_of_alone
    (alone :
      ∀ other, other ≠ session →
        database.transactions.lookup other = none)
    (key : κ) :
    database.lockedByOther session key = false := by
  refine lockedByOther_eq_false.mpr fun {other transaction} found _ => ?_
  by_contra different
  rw [alone other different] at found
  cases found

theorem selectForUpdate?_isSome
    {admits : ρ → Bool}
    {order : ρ → Int}
    {limit : Nat}
    (opened : database.transactions.lookup session = some transaction) :
    (database.selectForUpdate? session admits order limit).isSome = true := by
  unfold selectForUpdate?
  split
  · rename_i closed
    rw [opened] at closed
    cases closed
  · rfl

theorem savepoint?_isSome
    (opened : database.transactions.lookup session = some transaction) :
    (database.savepoint? session).isSome = true := by
  unfold savepoint?
  split
  · rename_i closed
    rw [opened] at closed
    cases closed
  · rfl

theorem release?_isSome
    (opened : database.transactions.lookup session = some transaction) :
    (database.release? session).isSome = true := by
  unfold release?
  split
  · rename_i closed
    rw [opened] at closed
    cases closed
  · rfl

theorem rollbackTo?_isSome
    {saved : WorkingSet κ ρ}
    (opened : database.transactions.lookup session = some transaction)
    (kept : transaction.savepoint = some saved) :
    (database.rollbackTo? session).isSome = true := by
  unfold rollbackTo?
  split
  · rename_i closed
    rw [opened] at closed
    cases closed
  · rename_i found
    cases opened.symm.trans found
    split
    · rename_i missing
      rw [kept] at missing
      cases missing
    · rfl

theorem commit?_isSome
    (opened : database.transactions.lookup session = some transaction) :
    (database.commit? session).isSome = true := by
  rw [commit?, opened]
  rfl

theorem updateIn?_isSome
    {key : κ}
    {update : RowUpdate ρ}
    (opened : database.transactions.lookup session = some transaction)
    (free : database.lockedByOther session key = false) :
    (database.updateIn? session key update).isSome = true := by
  unfold updateIn?
  split
  · rename_i closed
    rw [opened] at closed
    cases closed
  · split
    · rename_i locked
      rw [free] at locked
      cases locked
    · split <;> rfl

theorem insertIn?_isSome
    {key : κ}
    {row : ρ}
    (opened : database.transactions.lookup session = some transaction)
    (free : database.lockedByOther session key = false) :
    (database.insertIn? session key row).isSome = true := by
  unfold insertIn?
  split
  · rename_i closed
    rw [opened] at closed
    cases closed
  · split
    · rename_i locked
      rw [free] at locked
      cases locked
    · split <;> rfl

end Database

end Relational

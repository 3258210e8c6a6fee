import IgaScheduler.RelationalDatabase

namespace Relational

/-!
# Properties of every row

A property of keys and rows that holds of every row of a database: of those
that are committed, those that a transaction has written, and those that it
comes back to when it rolls back to its savepoint.  No operation makes rows
beside the one it is given and the one it computes by an update.
-/

variable {κ ρ : Type} [DecidableEq κ]
variable {property stronger : κ → ρ → Prop}

/-- Every row of the table has the property. -/
def Table.Every
    (property : κ → ρ → Prop)
    (table : Table κ ρ) :
    Prop :=
  ∀ key row, table.lookup key = some row → property key row

namespace Table.Every

variable {table : Table κ ρ}
variable {key : κ}
variable {row : ρ}

theorem empty : Every property (∅ : Table κ ρ) := by
  intro key row found
  cases found

theorem mono
    (every : table.Every stronger)
    (weaker : ∀ key row, stronger key row → property key row) :
    table.Every property :=
  fun key row found => weaker key row (every key row found)

theorem insert
    (every : table.Every property)
    (holds : property key row) :
    Every property (AList.insert key row table) := by
  intro other stored found
  by_cases same : other = key
  · subst same
    rw [AList.lookup_insert] at found
    cases found
    exact holds
  · rw [AList.lookup_insert_ne same] at found
    exact every other stored found

theorem union
    {first second : Table κ ρ}
    (every : first.Every property)
    (every' : second.Every property) :
    Every property (first ∪ second) := by
  intro key row found
  rcases AList.mem_lookup_union.mp found with first | ⟨-, second⟩
  · exact every key row first
  · exact every' key row second

theorem insertIfAbsent
    (every : table.Every property)
    (holds : property key row) :
    Every property (table.insertIfAbsent key row).1 := by
  unfold Table.insertIfAbsent
  split
  · exact every
  · exact every.insert holds

theorem upsertWhere
    {replaceable : ρ → Bool}
    (every : table.Every property)
    (holds : property key row) :
    Every property (table.upsertWhere key row replaceable).1 := by
  unfold Table.upsertWhere
  split
  · exact every.insert holds
  · split
    · exact every.insert holds
    · exact every

theorem updateWhere
    {update : RowUpdate ρ}
    (every : table.Every property)
    (kept :
      ∀ row, property key row → property key (update.set row)) :
    Every property (table.updateWhere key update).1 := by
  unfold Table.updateWhere
  split
  · exact every
  · rename_i row found
    split
    · exact every.insert (kept row (every key row found))
    · exact every

end Table.Every

namespace Database

/-- Every row, committed or not, has the property. -/
structure EveryRow
    (property : κ → ρ → Prop)
    (database : Database κ ρ) :
    Prop where
  committed : database.committed.Every property
  written :
    ∀ {session : Nat} {transaction : Transaction κ ρ},
      database.transactions.lookup session = some transaction →
      transaction.writes.Every property
  saved :
    ∀ {session : Nat} {transaction : Transaction κ ρ}
        {saved : WorkingSet κ ρ},
      database.transactions.lookup session = some transaction →
      transaction.savepoint = some saved →
      saved.writes.Every property

namespace EveryRow

variable {database next : Database κ ρ}
variable {session : Nat}
variable {transaction : Transaction κ ρ}
variable {key : κ}
variable {row : ρ}

theorem ofTable
    {table : Table κ ρ}
    (every : table.Every property) :
    EveryRow property (.ofTable table) where
  committed := every
  written := nofun
  saved := nofun

theorem mono
    (every : database.EveryRow stronger)
    (weaker : ∀ key row, stronger key row → property key row) :
    database.EveryRow property where
  committed := every.committed.mono weaker
  written found := (every.written found).mono weaker
  saved found kept := (every.saved found kept).mono weaker

/-- What a transaction sees has the property. -/
theorem view
    (every : database.EveryRow property)
    (opened : database.transactions.lookup session = some transaction)
    (seen : database.view transaction key = some row) :
    property key row := by
  rcases Option.or_eq_some_iff.mp seen with own | ⟨-, committed⟩
  · exact every.written opened key row own
  · exact every.committed key row committed

/-- What a locking read returns has the property. -/
theorem select
    {admits : ρ → Bool}
    {order : ρ → Int}
    {limit : Nat}
    (every : database.EveryRow property)
    (member :
      (key, row) ∈ database.selectUnlocked session admits order limit) :
    property key row :=
  every.committed key row (mem_selectUnlocked member).1

theorem putTransaction
    (every : database.EveryRow property)
    (written : transaction.writes.Every property)
    (saved :
      ∀ work, transaction.savepoint = some work →
        work.writes.Every property)
    (free :
      ∀ key ∈ transaction.locked,
        database.lockedByOther session key = false) :
    EveryRow property
      (database.putTransaction session transaction free) where
  committed := every.committed
  written {other stored} found := by
    by_cases same : other = session
    · subst same
      cases found.symm.trans lookup_putTransaction
      exact written
    · rw [lookup_putTransaction_other same] at found
      exact every.written found
  saved {other stored work} found kept := by
    by_cases same : other = session
    · subst same
      cases found.symm.trans lookup_putTransaction
      exact saved work kept
    · rw [lookup_putTransaction_other same] at found
      exact every.saved found kept

theorem dropTransaction
    {table : Table κ ρ}
    (every : database.EveryRow property)
    (committed : table.Every property) :
    EveryRow property (database.dropTransaction session table) where
  committed := committed
  written {other stored} found := by
    by_cases same : other = session
    · subst same
      cases found.symm.trans (AList.lookup_erase _ _)
    · exact every.written ((AList.lookup_erase_ne same).symm.trans found)
  saved {other stored work} found kept := by
    by_cases same : other = session
    · subst same
      cases found.symm.trans (AList.lookup_erase _ _)
    · exact every.saved ((AList.lookup_erase_ne same).symm.trans found)
        kept

/-! ## Statements outside a transaction -/

theorem update?
    {update : RowUpdate ρ}
    {returned : Option ρ}
    (every : database.EveryRow property)
    (kept : ∀ row, property key row → property key (update.set row))
    (done : database.update? key update = some (next, returned)) :
    next.EveryRow property := by
  unfold Database.update? at done
  split at done
  · cases done
  · cases done
    exact ⟨every.committed.updateWhere kept, every.written, every.saved⟩

theorem insert?
    {created : Bool}
    (every : database.EveryRow property)
    (holds : property key row)
    (done : database.insert? key row = some (next, created)) :
    next.EveryRow property := by
  unfold Database.insert? at done
  split at done
  · cases done
  · cases done
    exact ⟨every.committed.insertIfAbsent holds, every.written,
      every.saved⟩

theorem upsert?
    {replaceable : ρ → Bool}
    {stored : Bool}
    (every : database.EveryRow property)
    (holds : property key row)
    (done :
      database.upsert? key row replaceable = some (next, stored)) :
    next.EveryRow property := by
  unfold Database.upsert? at done
  split at done
  · cases done
  · cases done
    exact ⟨every.committed.upsertWhere holds, every.written, every.saved⟩

/-! ## Statements of a transaction -/

theorem begin
    (every : database.EveryRow property)
    (session : Nat) :
    EveryRow property (database.begin session) := by
  refine every.putTransaction ?_ ?_ _
  · exact .empty
  · intro work impossible
    cases impossible

theorem rollback
    (every : database.EveryRow property)
    (session : Nat) :
    EveryRow property (database.rollback session) :=
  every.dropTransaction every.committed

theorem commit?
    (every : database.EveryRow property)
    (done : database.commit? session = some next) :
    next.EveryRow property := by
  obtain ⟨transaction, found, rfl⟩ := Option.map_eq_some_iff.mp done
  exact every.dropTransaction ((every.written found).union every.committed)

theorem savepoint?
    (every : database.EveryRow property)
    (done : database.savepoint? session = some next) :
    next.EveryRow property := by
  unfold Database.savepoint? at done
  split at done
  · cases done
  · rename_i transaction found
    cases done
    have written := every.written found
    refine every.putTransaction ?_ ?_ _
    · exact written
    · intro work kept
      cases kept
      exact written

theorem release?
    (every : database.EveryRow property)
    (done : database.release? session = some next) :
    next.EveryRow property := by
  unfold Database.release? at done
  split at done
  · cases done
  · rename_i transaction found
    cases done
    have written := every.written found
    refine every.putTransaction ?_ ?_ _
    · exact written
    · intro work impossible
      cases impossible

theorem rollbackTo?
    (every : database.EveryRow property)
    (done : database.rollbackTo? session = some next) :
    next.EveryRow property := by
  unfold Database.rollbackTo? at done
  split at done
  · cases done
  · rename_i transaction found
    split at done
    · cases done
    · rename_i saved kept
      cases done
      refine every.putTransaction ?_ ?_ _
      · exact every.saved found kept
      · intro work same
        cases same
        exact every.saved found kept

theorem selectForUpdate?
    {admits : ρ → Bool}
    {order : ρ → Int}
    {limit : Nat}
    {rows : List (κ × ρ)}
    (every : database.EveryRow property)
    (done :
      database.selectForUpdate? session admits order limit =
        some (next, rows)) :
    next.EveryRow property := by
  unfold Database.selectForUpdate? at done
  split at done
  · cases done
  · rename_i transaction found
    cases done
    have written := every.written found
    refine every.putTransaction ?_ ?_ _
    · exact written
    · intro work kept
      exact every.saved found kept

/-- An uncommitted write of a row with the property. -/
theorem write
    (every : database.EveryRow property)
    (found : database.transactions.lookup session = some transaction)
    (holds : property key row)
    (free : database.lockedByOther session key = false) :
    EveryRow property (database.write found key row free) := by
  refine every.putTransaction ?_ ?_ _
  · exact (every.written found).insert holds
  · intro work kept
    exact every.saved found kept

theorem updateIn?
    {update : RowUpdate ρ}
    {returned : Option ρ}
    (every : database.EveryRow property)
    (kept : ∀ row, property key row → property key (update.set row))
    (done : database.updateIn? session key update = some (next, returned)) :
    next.EveryRow property := by
  unfold Database.updateIn? at done
  split at done
  · cases done
  · rename_i transaction found
    split at done
    · cases done
    · split at done
      · cases done
        exact every
      · rename_i written computed
        cases done
        obtain ⟨row, seen, returned⟩ := Option.bind_eq_some_iff.mp computed
        obtain ⟨-, rfl⟩ := RowUpdate.returning_eq_some.mp returned
        exact every.write found (kept row (every.view found seen)) _

/-- An insert adds its row only when it answers that it has created it. -/
theorem insertIn?
    {created : Bool}
    (every : database.EveryRow property)
    (holds : created = true → property key row)
    (done : database.insertIn? session key row = some (next, created)) :
    next.EveryRow property := by
  unfold Database.insertIn? at done
  split at done
  · cases done
  · rename_i transaction found
    split at done
    · cases done
    · split at done
      · cases done
        exact every
      · cases done
        exact every.write found (holds rfl) _

end EveryRow

end Database

end Relational

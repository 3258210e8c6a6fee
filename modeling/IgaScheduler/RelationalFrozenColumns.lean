import IgaScheduler.RelationalRows

namespace Relational

/-!
# Columns that no operation changes

A projection of the rows is frozen when every row that a transaction would
write agrees in it with the committed row that it would replace.  Then a key,
once committed, stays and keeps the projection: transactions write what they
have locked, so nobody else can commit the row in the meantime.
-/

variable {κ ρ ι : Type} [DecidableEq κ]
variable {columns : ρ → ι}

/-- The row agrees with the row of this key in the table, if there is one. -/
def Table.Agrees
    (columns : ρ → ι)
    (table : Table κ ρ)
    (key : κ)
    (row : ρ) :
    Prop :=
  ∀ old, table.lookup key = some old → columns row = columns old

/-- Every key of the first table is in the second one, with these columns. -/
def Table.Grows
    (columns : ρ → ι)
    (before after : Table κ ρ) :
    Prop :=
  ∀ key row,
    before.lookup key = some row →
    ∃ row', after.lookup key = some row' ∧ columns row' = columns row

namespace Table

variable {table : Table κ ρ}
variable {key : κ}
variable {row : ρ}

theorem Grows.refl (table : Table κ ρ) : Grows columns table table :=
  fun _ row found => ⟨row, found, rfl⟩

theorem Grows.trans
    {first second third : Table κ ρ}
    (grows : Grows columns first second)
    (grows' : Grows columns second third) :
    Grows columns first third := by
  intro key row found
  obtain ⟨middle, foundMiddle, same⟩ := grows key row found
  obtain ⟨last, foundLast, same'⟩ := grows' key middle foundMiddle
  exact ⟨last, foundLast, same'.trans same⟩

/-- What a table holds agrees with itself. -/
theorem agrees_self (found : table.lookup key = some row) :
    Agrees columns table key row := by
  intro old found'
  cases found.symm.trans found'
  rfl

/-- A key that the table does not hold may get any row. -/
theorem agrees_of_absent (absent : table.lookup key = none) :
    Agrees columns table key row := by
  intro old found
  cases absent.symm.trans found

end Table

namespace Database

/-- Every row, committed or not, agrees with the committed row of its key. -/
def Frozen
    (columns : ρ → ι)
    (database : Database κ ρ) :
    Prop :=
  database.EveryRow (Table.Agrees columns database.committed)

namespace Frozen

variable {database next : Database κ ρ}
variable {session : Nat}
variable {key : κ}
variable {row : ρ}

theorem ofTable (table : Table κ ρ) : Frozen columns (.ofTable table) :=
  EveryRow.ofTable fun _ _ => Table.agrees_self

/-- An operation on transactions alone keeps what it knows of every row. -/
theorem of_committed_eq
    (every :
      next.EveryRow (Table.Agrees columns database.committed))
    (same : next.committed = database.committed) :
    Frozen columns next ∧
      Table.Grows columns database.committed next.committed := by
  refine ⟨?_, ?_⟩
  · rw [Frozen, same]
    exact every
  · rw [same]
    exact .refl _

/--
An operation on the committed rows that opens no transaction: it changes only
rows that no other session has locked.
-/
theorem of_respects
    (frozen : database.Frozen columns)
    (respects : Respects session database next)
    (own :
      ∀ {transaction : Transaction κ ρ},
        next.transactions.lookup session = some transaction →
        database.transactions.lookup session = some transaction ∧
          ∀ key ∈ transaction.locked,
            next.committed.lookup key = database.committed.lookup key) :
    next.Frozen columns := by
  have known
      {other : Nat}
      {transaction : Transaction κ ρ}
      (found : next.transactions.lookup other = some transaction) :
      database.transactions.lookup other = some transaction ∧
        ∀ key ∈ transaction.locked,
          next.committed.lookup key = database.committed.lookup key := by
    by_cases same : other = session
    · subst same
      exact own found
    · rw [respects.others other same] at found
      exact ⟨found, fun key held =>
        locked_committed_eq respects same found held⟩
  refine ⟨fun _ _ => Table.agrees_self, ?_, ?_⟩
  · intro other transaction found key row written old stored
    obtain ⟨opened, locked⟩ := known found
    have held :=
      transaction.writesLocked key
        (AList.lookup_isSome.mp (by simp [written]))
    rw [locked key held] at stored
    exact frozen.written opened key row written old stored
  · intro other transaction saved found kept key row written old stored
    obtain ⟨opened, locked⟩ := known found
    have held :=
      transaction.savepointLocked saved kept key
        (saved.writesLocked key
          (AList.lookup_isSome.mp (by simp [written])))
    rw [locked key held] at stored
    exact frozen.saved opened kept key row written old stored

/-! ## Statements outside a transaction -/

theorem update?
    {update : RowUpdate ρ}
    {returned : Option ρ}
    (frozen : database.Frozen columns)
    (keeps : ∀ row, columns (update.set row) = columns row)
    (done : database.update? key update = some (next, returned)) :
    next.Frozen columns ∧
      Table.Grows columns database.committed next.committed := by
  obtain ⟨unlocked, transactions, -, rows⟩ := update?_eq_some done
  have grows : Table.Grows columns database.committed next.committed := by
    intro other old found
    rw [rows]
    split
    · rename_i same
      subst same
      rw [found]
      refine ⟨update.apply old, rfl, ?_⟩
      unfold RowUpdate.apply
      split
      · exact keeps old
      · rfl
    · exact ⟨old, found, rfl⟩
  refine ⟨of_respects frozen (.update? 0 done) ?_, grows⟩
  intro transaction found
  rw [transactions] at found
  refine ⟨found, fun other held => ?_⟩
  rw [rows, if_neg]
  rintro rfl
  exact isLocked_eq_false.mp unlocked found held

theorem insert?
    {created : Bool}
    (frozen : database.Frozen columns)
    (done : database.insert? key row = some (next, created)) :
    next.Frozen columns ∧
      Table.Grows columns database.committed next.committed := by
  obtain ⟨unlocked, transactions, rows⟩ := insert?_eq_some done
  have grows : Table.Grows columns database.committed next.committed := by
    intro other old found
    rw [rows]
    split
    · rename_i same
      subst same
      exact ⟨old, by simp [found], rfl⟩
    · exact ⟨old, found, rfl⟩
  refine ⟨of_respects frozen (.insert? 0 done) ?_, grows⟩
  intro transaction found
  rw [transactions] at found
  refine ⟨found, fun other held => ?_⟩
  rw [rows, if_neg]
  rintro rfl
  exact isLocked_eq_false.mp unlocked found held

/-! ## Statements of a transaction -/

theorem begin
    (frozen : database.Frozen columns)
    (session : Nat) :
    Frozen columns (database.begin session) ∧
      Table.Grows columns database.committed
        (database.begin session).committed :=
  of_committed_eq (EveryRow.begin frozen session) rfl

theorem rollback
    (frozen : database.Frozen columns)
    (session : Nat) :
    Frozen columns (database.rollback session) ∧
      Table.Grows columns database.committed
        (database.rollback session).committed :=
  of_committed_eq (EveryRow.rollback frozen session) rfl

theorem savepoint?
    (frozen : database.Frozen columns)
    (done : database.savepoint? session = some next) :
    next.Frozen columns ∧
      Table.Grows columns database.committed next.committed :=
  of_committed_eq (EveryRow.savepoint? frozen done)
    (savepoint?_eq_some done).1

theorem release?
    (frozen : database.Frozen columns)
    (done : database.release? session = some next) :
    next.Frozen columns ∧
      Table.Grows columns database.committed next.committed :=
  of_committed_eq (EveryRow.release? frozen done) (release?_eq_some done).1

theorem rollbackTo?
    (frozen : database.Frozen columns)
    (done : database.rollbackTo? session = some next) :
    next.Frozen columns ∧
      Table.Grows columns database.committed next.committed :=
  of_committed_eq (EveryRow.rollbackTo? frozen done)
    (rollbackTo?_eq_some done).1

theorem selectForUpdate?
    {admits : ρ → Bool}
    {order : ρ → Int}
    {limit : Nat}
    {rows : List (κ × ρ)}
    (frozen : database.Frozen columns)
    (done :
      database.selectForUpdate? session admits order limit =
        some (next, rows)) :
    next.Frozen columns ∧
      Table.Grows columns database.committed next.committed :=
  of_committed_eq (EveryRow.selectForUpdate? frozen done)
    (selectForUpdate?_eq_some done).2.1

theorem updateIn?
    {update : RowUpdate ρ}
    {returned : Option ρ}
    (frozen : database.Frozen columns)
    (keeps : ∀ row, columns (update.set row) = columns row)
    (done : database.updateIn? session key update = some (next, returned)) :
    next.Frozen columns ∧
      Table.Grows columns database.committed next.committed := by
  refine of_committed_eq (EveryRow.updateIn? frozen ?_ done)
    (updateIn?_eq_some done).1
  intro row agrees old found
  exact (keeps row).trans (agrees old found)

/-- A transaction inserts a row only where it sees none. -/
theorem insertIn?
    {created : Bool}
    (frozen : database.Frozen columns)
    (done : database.insertIn? session key row = some (next, created)) :
    next.Frozen columns ∧
      Table.Grows columns database.committed next.committed := by
  obtain ⟨same, -, transaction, _, -, -, answer, -⟩ :=
    insertIn?_eq_some done
  refine of_committed_eq (EveryRow.insertIn? frozen ?_ done) same
  rintro rfl
  have unseen := Option.isNone_iff_eq_none.mp answer.symm
  exact Table.agrees_of_absent (Option.or_eq_none_iff.mp unseen).2

/-- A commit replaces rows by rows that agree with them. -/
theorem commit?
    (frozen : database.Frozen columns)
    (done : database.commit? session = some next) :
    next.Frozen columns ∧
      Table.Grows columns database.committed next.committed := by
  obtain ⟨transaction, opened, transactions, rows⟩ := commit?_eq_some done
  have grows : Table.Grows columns database.committed next.committed := by
    intro key old found
    rw [rows]
    cases written : transaction.writes.lookup key with
    | none =>
        exact ⟨old, found, rfl⟩
    | some row =>
        exact ⟨row, rfl, frozen.written opened key row written old found⟩
  refine ⟨of_respects frozen (.commit? done) ?_, grows⟩
  intro later found
  rw [transactions, AList.lookup_erase] at found
  cases found

end Frozen

end Database

end Relational

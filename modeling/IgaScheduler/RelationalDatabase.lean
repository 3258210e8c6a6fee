import IgaScheduler.RelationalTable

namespace Relational

/-!
# Read-committed sessions with row locks

A database is one committed table together with the transactions in progress.
A transaction owns the row locks it has taken and keeps its writes to itself
until it commits.  Readers see committed rows only.  A writer of a row that
somebody else has locked waits: the operation is not enabled, and it checks
its condition against the committed row once the lock is gone.
`FOR UPDATE SKIP LOCKED` passes over such rows instead.

Two facts about every database value are part of the structure: a transaction
has locked whatever it wrote, and no row is locked twice.
-/

/-- Row locks and uncommitted writes; whatever is written is locked. -/
structure WorkingSet (κ ρ : Type) [DecidableEq κ] where
  locked : List κ
  writes : Table κ ρ
  writesLocked : ∀ key ∈ writes, key ∈ locked

namespace WorkingSet

variable {κ ρ : Type} [DecidableEq κ]

/-- What a transaction holds right after `BEGIN`. -/
def empty : WorkingSet κ ρ where
  locked := []
  writes := ∅
  writesLocked := by simp

/-- Take further row locks. -/
def lock
    (work : WorkingSet κ ρ)
    (keys : List κ) :
    WorkingSet κ ρ where
  locked := keys ++ work.locked
  writes := work.writes
  writesLocked := fun key written =>
    List.mem_append_right keys (work.writesLocked key written)

/-- Write a row; the write takes the row's lock. -/
def write
    (work : WorkingSet κ ρ)
    (key : κ)
    (row : ρ) :
    WorkingSet κ ρ where
  locked := key :: work.locked
  writes := work.writes.insert key row
  writesLocked := by
    intro other written
    rcases (AList.mem_insert _).mp written with same | earlier
    · simp [same]
    · exact List.mem_cons_of_mem key (work.writesLocked other earlier)

end WorkingSet

/--
A transaction in progress.  Only its newest savepoint is kept; rolling back to
it gives up the locks taken since, never one taken before.
-/
structure Transaction (κ ρ : Type) [DecidableEq κ] extends
    WorkingSet κ ρ where
  savepoint : Option (WorkingSet κ ρ)
  savepointLocked :
    ∀ saved ∈ savepoint, ∀ key ∈ saved.locked, key ∈ locked

/-- Committed rows and the transactions in progress, one for each session. -/
structure Database (κ ρ : Type) [DecidableEq κ] where
  committed : Table κ ρ
  transactions : Table Nat (Transaction κ ρ)
  exclusive :
    ∀ {first second : Nat} {owner rival : Transaction κ ρ} {key : κ},
      transactions.lookup first = some owner →
      transactions.lookup second = some rival →
      key ∈ owner.locked →
      key ∈ rival.locked →
      first = second

namespace Database

variable {κ ρ : Type} [DecidableEq κ]

/-- A database at rest: every row is committed and no session is open. -/
def ofTable (table : Table κ ρ) : Database κ ρ where
  committed := table
  transactions := ∅
  exclusive := by
    intro first second owner rival key found
    simp at found

/-- Some session other than `session` holds the lock on `key`. -/
def lockedByOther
    (database : Database κ ρ)
    (session : Nat)
    (key : κ) :
    Bool :=
  database.transactions.entries.any fun entry =>
    entry.1 ≠ session ∧ key ∈ entry.2.locked

/-- Some session holds the lock on `key`. -/
def isLocked
    (database : Database κ ρ)
    (key : κ) :
    Bool :=
  database.transactions.entries.any fun entry => key ∈ entry.2.locked

theorem lockedByOther_eq_false
    {database : Database κ ρ}
    {session : Nat}
    {key : κ} :
    database.lockedByOther session key = false ↔
      ∀ {other : Nat} {transaction : Transaction κ ρ},
        database.transactions.lookup other = some transaction →
        key ∈ transaction.locked →
        other = session := by
  simp only [lockedByOther, List.any_eq_false, decide_eq_true_eq, not_and]
  constructor
  · intro free other transaction found held
    by_contra different
    exact free ⟨other, transaction⟩
      (AList.mem_lookup_iff.mp found) different held
  · intro free entry member different held
    exact different (free (AList.mem_lookup_iff.mpr member) held)

theorem isLocked_eq_false
    {database : Database κ ρ}
    {key : κ} :
    database.isLocked key = false ↔
      ∀ {session : Nat} {transaction : Transaction κ ρ},
        database.transactions.lookup session = some transaction →
        key ∉ transaction.locked := by
  simp only [isLocked, List.any_eq_false, decide_eq_true_eq]
  constructor
  · intro free session transaction found
    exact free ⟨session, transaction⟩ (AList.mem_lookup_iff.mp found)
  · intro free entry member
    exact free (AList.mem_lookup_iff.mpr member)

/-- Replace a session's transaction; its locks must be free elsewhere. -/
def putTransaction
    (database : Database κ ρ)
    (session : Nat)
    (transaction : Transaction κ ρ)
    (free :
      ∀ key ∈ transaction.locked,
        database.lockedByOther session key = false) :
    Database κ ρ where
  committed := database.committed
  transactions := database.transactions.insert session transaction
  exclusive := by
    intro first second owner rival key foundOwner foundRival held contested
    by_cases firstIsSession : first = session
    · subst first
      rw [AList.lookup_insert] at foundOwner
      cases foundOwner
      by_cases secondIsSession : second = session
      · exact secondIsSession.symm
      · rw [AList.lookup_insert_ne secondIsSession] at foundRival
        exact (lockedByOther_eq_false.mp (free key held)
          foundRival contested).symm
    · rw [AList.lookup_insert_ne firstIsSession] at foundOwner
      by_cases secondIsSession : second = session
      · subst second
        rw [AList.lookup_insert] at foundRival
        cases foundRival
        exact lockedByOther_eq_false.mp (free key contested)
          foundOwner held
      · rw [AList.lookup_insert_ne secondIsSession] at foundRival
        exact database.exclusive foundOwner foundRival held contested

/-- End a session: its transaction and its locks disappear. -/
def dropTransaction
    (database : Database κ ρ)
    (session : Nat)
    (committed : Table κ ρ) :
    Database κ ρ where
  committed := committed
  transactions := database.transactions.erase session
  exclusive := by
    intro first second owner rival key foundOwner foundRival
    have firstOpen : first ≠ session := by
      rintro rfl
      rw [AList.lookup_erase] at foundOwner
      cases foundOwner
    have secondOpen : second ≠ session := by
      rintro rfl
      rw [AList.lookup_erase] at foundRival
      cases foundRival
    rw [AList.lookup_erase_ne firstOpen] at foundOwner
    rw [AList.lookup_erase_ne secondOpen] at foundRival
    exact database.exclusive foundOwner foundRival

/-- The locks of a stored transaction are free for its own session. -/
theorem own_locks_free
    {database : Database κ ρ}
    {session : Nat}
    {transaction : Transaction κ ρ}
    (found : database.transactions.lookup session = some transaction)
    {key : κ}
    (held : key ∈ transaction.locked) :
    database.lockedByOther session key = false :=
  lockedByOther_eq_false.mpr fun foundOther contested =>
    database.exclusive foundOther found contested held

/-- Add locks that nobody else holds to a session's transaction. -/
def lock
    (database : Database κ ρ)
    {session : Nat}
    {transaction : Transaction κ ρ}
    (found : database.transactions.lookup session = some transaction)
    (keys : List κ)
    (free : ∀ key ∈ keys, database.lockedByOther session key = false) :
    Database κ ρ :=
  database.putTransaction session
    { toWorkingSet := transaction.toWorkingSet.lock keys
      savepoint := transaction.savepoint
      savepointLocked := fun saved member key held =>
        List.mem_append_right keys
          (transaction.savepointLocked saved member key held) }
    (by
      intro key held
      rcases List.mem_append.mp held with added | kept
      · exact free key added
      · exact own_locks_free found kept)

/-- An uncommitted write of a row that is free elsewhere; it takes the lock. -/
def write
    (database : Database κ ρ)
    {session : Nat}
    {transaction : Transaction κ ρ}
    (found : database.transactions.lookup session = some transaction)
    (key : κ)
    (row : ρ)
    (free : database.lockedByOther session key = false) :
    Database κ ρ :=
  database.putTransaction session
    { toWorkingSet := transaction.toWorkingSet.write key row
      savepoint := transaction.savepoint
      savepointLocked := fun saved member other held =>
        List.mem_cons_of_mem key
          (transaction.savepointLocked saved member other held) }
    (by
      intro other held
      rcases List.mem_cons.mp held with same | kept
      · rw [same]
        exact free
      · exact own_locks_free found kept)

/-! ## Statements outside a transaction -/

/-- A single `UPDATE`; it is not enabled while the row is locked. -/
def update?
    (database : Database κ ρ)
    (key : κ)
    (update : RowUpdate ρ) :
    Option (Database κ ρ × Option ρ) :=
  if database.isLocked key then
    none
  else
    some ({ database with
        committed := (database.committed.updateWhere key update).1 },
      (database.committed.updateWhere key update).2)

/-- A single `INSERT … ON CONFLICT DO NOTHING`. -/
def insert?
    (database : Database κ ρ)
    (key : κ)
    (row : ρ) :
    Option (Database κ ρ × Bool) :=
  if database.isLocked key then
    none
  else
    some ({ database with
        committed := (database.committed.insertIfAbsent key row).1 },
      (database.committed.insertIfAbsent key row).2)

/-- A single `INSERT … ON CONFLICT DO UPDATE … WHERE replaceable`. -/
def upsert?
    (database : Database κ ρ)
    (key : κ)
    (row : ρ)
    (replaceable : ρ → Bool) :
    Option (Database κ ρ × Bool) :=
  if database.isLocked key then
    none
  else
    some ({ database with
        committed :=
          (database.committed.upsertWhere key row replaceable).1 },
      (database.committed.upsertWhere key row replaceable).2)

/-! ## Statements of a transaction -/

/-- `BEGIN`. -/
def begin
    (database : Database κ ρ)
    (session : Nat) :
    Database κ ρ :=
  database.putTransaction session
    { toWorkingSet := .empty
      savepoint := none
      savepointLocked := by simp }
    (by simp [WorkingSet.empty])

/-- `COMMIT`: the uncommitted writes replace the committed rows. -/
def commit?
    (database : Database κ ρ)
    (session : Nat) :
    Option (Database κ ρ) :=
  (database.transactions.lookup session).map fun transaction =>
    database.dropTransaction session
      (transaction.writes ∪ database.committed)

/-- `ROLLBACK`, also what the server does when a connection is lost. -/
def rollback
    (database : Database κ ρ)
    (session : Nat) :
    Database κ ρ :=
  database.dropTransaction session database.committed

/-- `SAVEPOINT`: remember the locks and writes so far. -/
def savepoint?
    (database : Database κ ρ)
    (session : Nat) :
    Option (Database κ ρ) :=
  match found : database.transactions.lookup session with
  | none => none
  | some transaction =>
      some (database.putTransaction session
        { toWorkingSet := transaction.toWorkingSet
          savepoint := some transaction.toWorkingSet
          savepointLocked := by
            intro saved member key held
            cases member
            exact held }
        (fun _ held => own_locks_free found held))

/-- `RELEASE SAVEPOINT`: keep the writes, forget the savepoint. -/
def release?
    (database : Database κ ρ)
    (session : Nat) :
    Option (Database κ ρ) :=
  match found : database.transactions.lookup session with
  | none => none
  | some transaction =>
      some (database.putTransaction session
        { toWorkingSet := transaction.toWorkingSet
          savepoint := none
          savepointLocked := by simp }
        (fun _ held => own_locks_free found held))

/-- `ROLLBACK TO SAVEPOINT`: back to the remembered locks and writes. -/
def rollbackTo?
    (database : Database κ ρ)
    (session : Nat) :
    Option (Database κ ρ) :=
  match found : database.transactions.lookup session with
  | none => none
  | some transaction =>
      match kept : transaction.savepoint with
      | none => none
      | some saved =>
          some (database.putTransaction session
            { toWorkingSet := saved
              savepoint := some saved
              savepointLocked := by
                intro other member key held
                cases member
                exact held }
            (fun key held =>
              own_locks_free found
                (transaction.savepointLocked saved kept key held)))

/-- The row a transaction sees: its own uncommitted write, else the committed row. -/
def view
    (database : Database κ ρ)
    (transaction : Transaction κ ρ)
    (key : κ) :
    Option ρ :=
  (transaction.writes.lookup key).or (database.committed.lookup key)

/-- The rows `SELECT … FOR UPDATE SKIP LOCKED` returns to a session. -/
def selectUnlocked
    (database : Database κ ρ)
    (session : Nat)
    (admits : ρ → Bool)
    (order : ρ → Int)
    (limit : Nat) :
    List (κ × ρ) :=
  database.committed.select
    (fun key row => admits row && !database.lockedByOther session key)
    order limit

theorem mem_selectUnlocked
    {database : Database κ ρ}
    {session : Nat}
    {admits : ρ → Bool}
    {order : ρ → Int}
    {limit : Nat}
    {key : κ}
    {row : ρ}
    (member :
      (key, row) ∈ database.selectUnlocked session admits order limit) :
    database.committed.lookup key = some row ∧
      admits row = true ∧
      database.lockedByOther session key = false := by
  have selected := Table.mem_select member
  simpa using selected

theorem selectUnlocked_free
    {database : Database κ ρ}
    {session : Nat}
    {admits : ρ → Bool}
    {order : ρ → Int}
    {limit : Nat}
    (key : κ)
    (member :
      key ∈ (database.selectUnlocked session admits order limit).map
        Prod.fst) :
    database.lockedByOther session key = false := by
  obtain ⟨entry, selected, rfl⟩ := List.mem_map.mp member
  exact (mem_selectUnlocked selected).2.2

/-- `SELECT … FOR UPDATE SKIP LOCKED`. -/
def selectForUpdate?
    (database : Database κ ρ)
    (session : Nat)
    (admits : ρ → Bool)
    (order : ρ → Int)
    (limit : Nat) :
    Option (Database κ ρ × List (κ × ρ)) :=
  match found : database.transactions.lookup session with
  | none => none
  | some _ =>
      some (database.lock found
          ((database.selectUnlocked session admits order limit).map Prod.fst)
          selectUnlocked_free,
        database.selectUnlocked session admits order limit)

/-- `UPDATE … RETURNING *`; it is not enabled while it has to wait. -/
def updateIn?
    (database : Database κ ρ)
    (session : Nat)
    (key : κ)
    (update : RowUpdate ρ) :
    Option (Database κ ρ × Option ρ) :=
  match found : database.transactions.lookup session with
  | none => none
  | some transaction =>
      if locked : database.lockedByOther session key = true then
        none
      else
        match (database.view transaction key).bind update.returning with
        | none => some (database, none)
        | some row =>
            some (database.write found key row (by simpa using locked),
              some row)

/-- `INSERT … ON CONFLICT DO NOTHING`; not enabled while it has to wait. -/
def insertIn?
    (database : Database κ ρ)
    (session : Nat)
    (key : κ)
    (row : ρ) :
    Option (Database κ ρ × Bool) :=
  match found : database.transactions.lookup session with
  | none => none
  | some transaction =>
      if locked : database.lockedByOther session key = true then
        none
      else
        match database.view transaction key with
        | some _ => some (database, false)
        | none =>
            some (database.write found key row (by simpa using locked), true)

/-! ## What each operation leaves behind -/

theorem lookup_putTransaction
    {database : Database κ ρ}
    {session : Nat}
    {transaction : Transaction κ ρ}
    {free :
      ∀ key ∈ transaction.locked,
        database.lockedByOther session key = false} :
    (database.putTransaction session transaction free).transactions.lookup
        session =
      some transaction :=
  AList.lookup_insert _

theorem lookup_putTransaction_other
    {database : Database κ ρ}
    {session other : Nat}
    {transaction : Transaction κ ρ}
    {free :
      ∀ key ∈ transaction.locked,
        database.lockedByOther session key = false}
    (different : other ≠ session) :
    (database.putTransaction session transaction free).transactions.lookup
        other =
      database.transactions.lookup other :=
  AList.lookup_insert_ne different

/-- A statement outside a transaction meets an unlocked row. -/
theorem update?_eq_some
    {database next : Database κ ρ}
    {key : κ}
    {update : RowUpdate ρ}
    {returned : Option ρ}
    (done : database.update? key update = some (next, returned)) :
    database.isLocked key = false ∧
      next.transactions = database.transactions ∧
      returned = (database.committed.lookup key).bind update.returning ∧
      ∀ other,
        next.committed.lookup other =
          if other = key then
            (database.committed.lookup key).map update.apply
          else
            database.committed.lookup other := by
  unfold update? at done
  split at done
  · cases done
  · rename_i unlocked
    simp only [Option.some.injEq, Prod.mk.injEq] at done
    obtain ⟨rfl, rfl⟩ := done
    exact ⟨by simpa using unlocked, rfl,
      Table.returned_updateWhere _ _ _,
      fun other => Table.lookup_updateWhere _ _ _ _⟩

theorem insert?_eq_some
    {database next : Database κ ρ}
    {key : κ}
    {row : ρ}
    {created : Bool}
    (done : database.insert? key row = some (next, created)) :
    database.isLocked key = false ∧
      next.transactions = database.transactions ∧
      ∀ other,
        next.committed.lookup other =
          if other = key then
            some ((database.committed.lookup key).getD row)
          else
            database.committed.lookup other := by
  unfold insert? at done
  split at done
  · cases done
  · rename_i unlocked
    simp only [Option.some.injEq, Prod.mk.injEq] at done
    obtain ⟨rfl, rfl⟩ := done
    exact ⟨by simpa using unlocked, rfl,
      fun other => Table.lookup_insertIfAbsent _ _ _ _⟩

theorem upsert?_eq_some
    {database next : Database κ ρ}
    {key : κ}
    {row : ρ}
    {replaceable : ρ → Bool}
    {stored : Bool}
    (done :
      database.upsert? key row replaceable = some (next, stored)) :
    database.isLocked key = false ∧
      next.transactions = database.transactions ∧
      (stored = true ↔
        ∀ old, database.committed.lookup key = some old →
          replaceable old = true) ∧
      ∀ other,
        next.committed.lookup other =
          if other = key ∧ stored = true then
            some row
          else
            database.committed.lookup other := by
  unfold upsert? at done
  split at done
  · cases done
  · rename_i unlocked
    simp only [Option.some.injEq, Prod.mk.injEq] at done
    obtain ⟨rfl, rfl⟩ := done
    exact ⟨by simpa using unlocked, rfl, Table.upserted,
      fun other => Table.lookup_upsertWhere _ _ _ _ _⟩

/-- Locking rows for an update changes no row and adds exactly their locks. -/
theorem selectForUpdate?_eq_some
    {database next : Database κ ρ}
    {session : Nat}
    {admits : ρ → Bool}
    {order : ρ → Int}
    {limit : Nat}
    {rows : List (κ × ρ)}
    (done :
      database.selectForUpdate? session admits order limit =
        some (next, rows)) :
    rows = database.selectUnlocked session admits order limit ∧
      next.committed = database.committed ∧
      (∀ other, other ≠ session →
        next.transactions.lookup other =
          database.transactions.lookup other) ∧
      ∃ before after,
        database.transactions.lookup session = some before ∧
          next.transactions.lookup session = some after ∧
          after.savepoint = before.savepoint ∧
          after.toWorkingSet =
            before.toWorkingSet.lock (rows.map Prod.fst) := by
  unfold selectForUpdate? at done
  split at done
  · cases done
  · rename_i transaction found
    simp only [Option.some.injEq, Prod.mk.injEq] at done
    obtain ⟨rfl, rfl⟩ := done
    exact ⟨rfl, rfl,
      fun other different => lookup_putTransaction_other different,
      transaction, _, found, lookup_putTransaction, rfl, rfl⟩

/-- An `UPDATE` in a transaction changes no committed row. -/
theorem updateIn?_eq_some
    {database next : Database κ ρ}
    {session : Nat}
    {key : κ}
    {update : RowUpdate ρ}
    {returned : Option ρ}
    (done : database.updateIn? session key update = some (next, returned)) :
    next.committed = database.committed ∧
      (∀ other, other ≠ session →
        next.transactions.lookup other =
          database.transactions.lookup other) ∧
      ∃ before after,
        database.transactions.lookup session = some before ∧
          next.transactions.lookup session = some after ∧
          returned = (database.view before key).bind update.returning ∧
          after.savepoint = before.savepoint ∧
          after.toWorkingSet =
            match returned with
            | none => before.toWorkingSet
            | some row => before.toWorkingSet.write key row := by
  unfold updateIn? at done
  split at done
  · cases done
  · rename_i transaction found
    split at done
    · cases done
    · split at done
      · rename_i missed
        simp only [Option.some.injEq, Prod.mk.injEq] at done
        obtain ⟨rfl, rfl⟩ := done
        exact ⟨rfl, fun other different => rfl,
          transaction, transaction, found, found, missed.symm, rfl, rfl⟩
      · rename_i row matched
        simp only [Option.some.injEq, Prod.mk.injEq] at done
        obtain ⟨rfl, rfl⟩ := done
        exact ⟨rfl,
          fun other different => lookup_putTransaction_other different,
          transaction, _, found, lookup_putTransaction,
          matched.symm, rfl, rfl⟩

theorem insertIn?_eq_some
    {database next : Database κ ρ}
    {session : Nat}
    {key : κ}
    {row : ρ}
    {created : Bool}
    (done : database.insertIn? session key row = some (next, created)) :
    next.committed = database.committed ∧
      (∀ other, other ≠ session →
        next.transactions.lookup other =
          database.transactions.lookup other) ∧
      ∃ before after,
        database.transactions.lookup session = some before ∧
          next.transactions.lookup session = some after ∧
          created = (database.view before key).isNone ∧
          after.savepoint = before.savepoint ∧
          after.toWorkingSet =
            if created then
              before.toWorkingSet.write key row
            else
              before.toWorkingSet := by
  unfold insertIn? at done
  split at done
  · cases done
  · rename_i transaction found
    split at done
    · cases done
    · split at done
      · rename_i stored present
        simp only [Option.some.injEq, Prod.mk.injEq] at done
        obtain ⟨rfl, rfl⟩ := done
        exact ⟨rfl, fun other different => rfl,
          transaction, transaction, found, found, by simp [present], rfl,
          by simp⟩
      · rename_i absent
        simp only [Option.some.injEq, Prod.mk.injEq] at done
        obtain ⟨rfl, rfl⟩ := done
        exact ⟨rfl,
          fun other different => lookup_putTransaction_other different,
          transaction, _, found, lookup_putTransaction,
          by simp [absent], rfl, by simp⟩

/-- A savepoint remembers the working set and changes nothing else. -/
theorem savepoint?_eq_some
    {database next : Database κ ρ}
    {session : Nat}
    (done : database.savepoint? session = some next) :
    next.committed = database.committed ∧
      (∀ other, other ≠ session →
        next.transactions.lookup other =
          database.transactions.lookup other) ∧
      ∃ before after,
        database.transactions.lookup session = some before ∧
          next.transactions.lookup session = some after ∧
          after.toWorkingSet = before.toWorkingSet ∧
          after.savepoint = some before.toWorkingSet := by
  unfold savepoint? at done
  split at done
  · cases done
  · rename_i transaction found
    cases done
    exact ⟨rfl,
      fun other different => lookup_putTransaction_other different,
      transaction, _, found, lookup_putTransaction, rfl, rfl⟩

theorem release?_eq_some
    {database next : Database κ ρ}
    {session : Nat}
    (done : database.release? session = some next) :
    next.committed = database.committed ∧
      (∀ other, other ≠ session →
        next.transactions.lookup other =
          database.transactions.lookup other) ∧
      ∃ before after,
        database.transactions.lookup session = some before ∧
          next.transactions.lookup session = some after ∧
          after.toWorkingSet = before.toWorkingSet := by
  unfold release? at done
  split at done
  · cases done
  · rename_i transaction found
    cases done
    exact ⟨rfl,
      fun other different => lookup_putTransaction_other different,
      transaction, _, found, lookup_putTransaction, rfl⟩

/-- Rolling back to a savepoint restores the working set it remembers. -/
theorem rollbackTo?_eq_some
    {database next : Database κ ρ}
    {session : Nat}
    (done : database.rollbackTo? session = some next) :
    next.committed = database.committed ∧
      (∀ other, other ≠ session →
        next.transactions.lookup other =
          database.transactions.lookup other) ∧
      ∃ before after,
        database.transactions.lookup session = some before ∧
          next.transactions.lookup session = some after ∧
          before.savepoint = some after.toWorkingSet := by
  unfold rollbackTo? at done
  split at done
  · cases done
  · rename_i transaction found
    split at done
    · cases done
    · rename_i saved kept
      cases done
      exact ⟨rfl,
        fun other different => lookup_putTransaction_other different,
        transaction, _, found, lookup_putTransaction, kept⟩

/-- A commit publishes exactly the writes of the session's transaction. -/
theorem commit?_eq_some
    {database next : Database κ ρ}
    {session : Nat}
    (done : database.commit? session = some next) :
    ∃ transaction,
      database.transactions.lookup session = some transaction ∧
        next.transactions = database.transactions.erase session ∧
        ∀ key,
          next.committed.lookup key =
            (transaction.writes.lookup key).or
              (database.committed.lookup key) := by
  obtain ⟨transaction, found, rfl⟩ := Option.map_eq_some_iff.mp done
  refine ⟨transaction, found, rfl, ?_⟩
  intro key
  by_cases written : key ∈ transaction.writes
  · obtain ⟨row, stored⟩ :=
      Option.isSome_iff_exists.mp (AList.lookup_isSome.mpr written)
    simp [dropTransaction, AList.lookup_union_left written, stored]
  · simp [dropTransaction, AList.lookup_union_right written,
      AList.lookup_eq_none.mpr written]

/-- `BEGIN` opens a transaction. -/
theorem begin_opens
    (database : Database κ ρ)
    (session : Nat) :
    ∃ transaction,
      (database.begin session).transactions.lookup session =
        some transaction :=
  Option.isSome_iff_exists.mp (by simp [begin, putTransaction])

/-- A transaction that has just begun holds nothing. -/
theorem lookup_begin
    {database : Database κ ρ}
    {session : Nat}
    {transaction : Transaction κ ρ}
    (found :
      (database.begin session).transactions.lookup session =
        some transaction) :
    transaction.toWorkingSet = WorkingSet.empty := by
  have shape :=
    Option.some.inj (found.symm.trans lookup_putTransaction)
  rw [shape]

theorem committed_begin
    (database : Database κ ρ)
    (session : Nat) :
    (database.begin session).committed = database.committed :=
  rfl

theorem committed_rollback
    (database : Database κ ρ)
    (session : Nat) :
    (database.rollback session).committed = database.committed :=
  rfl

/-! ## Locks are respected -/

/--
What one session's operation may do to the others: their transactions stay as
they are, and so does every committed row one of them has locked.
-/
structure Respects
    (session : Nat)
    (before after : Database κ ρ) :
    Prop where
  others :
    ∀ other, other ≠ session →
      after.transactions.lookup other = before.transactions.lookup other
  locked :
    ∀ key, before.lockedByOther session key = true →
      after.committed.lookup key = before.committed.lookup key

namespace Respects

theorem refl
    (session : Nat)
    (database : Database κ ρ) :
    Respects session database database :=
  ⟨fun _ _ => rfl, fun _ _ => rfl⟩

/-- Operations that leave the committed rows alone respect every lock. -/
theorem of_committed_eq
    {session : Nat}
    {before after : Database κ ρ}
    (committed : after.committed = before.committed)
    (others :
      ∀ other, other ≠ session →
        after.transactions.lookup other =
          before.transactions.lookup other) :
    Respects session before after :=
  ⟨others, fun _ _ => by rw [committed]⟩

theorem isLocked_of_lockedByOther
    {database : Database κ ρ}
    {session : Nat}
    {key : κ}
    (locked : database.lockedByOther session key = true) :
    database.isLocked key = true := by
  by_contra unlocked
  have free :
      database.lockedByOther session key = false :=
    lockedByOther_eq_false.mpr fun found held =>
      (isLocked_eq_false.mp (by simpa using unlocked) found held).elim
  simp [free] at locked

theorem update?
    {database next : Database κ ρ}
    {key : κ}
    {update : RowUpdate ρ}
    {returned : Option ρ}
    (session : Nat)
    (done : database.update? key update = some (next, returned)) :
    Respects session database next := by
  obtain ⟨unlocked, transactions, -, rows⟩ := update?_eq_some done
  refine ⟨fun other _ => by rw [transactions], ?_⟩
  intro other locked
  have different : other ≠ key := by
    rintro rfl
    simp [isLocked_of_lockedByOther locked] at unlocked
  simp [rows, different]

theorem insert?
    {database next : Database κ ρ}
    {key : κ}
    {row : ρ}
    {created : Bool}
    (session : Nat)
    (done : database.insert? key row = some (next, created)) :
    Respects session database next := by
  obtain ⟨unlocked, transactions, rows⟩ := insert?_eq_some done
  refine ⟨fun other _ => by rw [transactions], ?_⟩
  intro other locked
  have different : other ≠ key := by
    rintro rfl
    simp [isLocked_of_lockedByOther locked] at unlocked
  simp [rows, different]

theorem upsert?
    {database next : Database κ ρ}
    {key : κ}
    {row : ρ}
    {replaceable : ρ → Bool}
    {stored : Bool}
    (session : Nat)
    (done :
      database.upsert? key row replaceable = some (next, stored)) :
    Respects session database next := by
  obtain ⟨unlocked, transactions, -, rows⟩ := upsert?_eq_some done
  refine ⟨fun other _ => by rw [transactions], ?_⟩
  intro other locked
  have different : other ≠ key := by
    rintro rfl
    simp [isLocked_of_lockedByOther locked] at unlocked
  simp [rows, different]

theorem begin
    (session : Nat)
    (database : Database κ ρ) :
    Respects session database (database.begin session) :=
  of_committed_eq rfl fun _ different =>
    lookup_putTransaction_other different

theorem rollback
    (session : Nat)
    (database : Database κ ρ) :
    Respects session database (database.rollback session) :=
  of_committed_eq rfl fun _ different =>
    AList.lookup_erase_ne different

theorem savepoint?
    {database next : Database κ ρ}
    {session : Nat}
    (done : database.savepoint? session = some next) :
    Respects session database next :=
  of_committed_eq (savepoint?_eq_some done).1 (savepoint?_eq_some done).2.1

theorem release?
    {database next : Database κ ρ}
    {session : Nat}
    (done : database.release? session = some next) :
    Respects session database next :=
  of_committed_eq (release?_eq_some done).1 (release?_eq_some done).2.1

theorem rollbackTo?
    {database next : Database κ ρ}
    {session : Nat}
    (done : database.rollbackTo? session = some next) :
    Respects session database next :=
  of_committed_eq (rollbackTo?_eq_some done).1 (rollbackTo?_eq_some done).2.1

/-- A commit only writes rows its own session had locked. -/
theorem commit?
    {database next : Database κ ρ}
    {session : Nat}
    (done : database.commit? session = some next) :
    Respects session database next := by
  obtain ⟨transaction, found, transactions, rows⟩ := commit?_eq_some done
  refine ⟨?_, ?_⟩
  · intro other different
    rw [transactions]
    exact AList.lookup_erase_ne different
  · intro key locked
    have unwritten : key ∉ transaction.writes := by
      intro written
      have free := own_locks_free found
        (transaction.writesLocked key written)
      simp [free] at locked
    rw [rows, AList.lookup_eq_none.mpr unwritten]
    rfl

end Respects

/-- A row locked by one session survives every operation of another. -/
theorem locked_committed_eq
    {session owner : Nat}
    {before after : Database κ ρ}
    {transaction : Transaction κ ρ}
    {key : κ}
    (respects : Respects session before after)
    (different : owner ≠ session)
    (found : before.transactions.lookup owner = some transaction)
    (held : key ∈ transaction.locked) :
    after.committed.lookup key = before.committed.lookup key := by
  apply respects.locked
  by_contra free
  exact different
    (lockedByOther_eq_false.mp (by simpa using free) found held)

end Database

end Relational

import Mathlib.Data.List.AList
import Mathlib.Data.List.Sort

namespace Relational

/-!
# Tables with a primary key

A table is an association list without duplicate keys, so a primary key never
names two rows.  The operations are the single-statement forms of SQL that a
queue or a schedule kept in a database is written with.  Every operation comes
with the lookup it leaves behind; later proofs use only these lookups.
-/

/-- One row for each primary key that is present. -/
abbrev Table (κ ρ : Type) := AList (fun _ : κ => ρ)

/-- The `WHERE` condition and the `SET` clause of a single-row `UPDATE`. -/
structure RowUpdate (ρ : Type) where
  guard : ρ → Bool
  set : ρ → ρ

namespace RowUpdate

/-- What the update makes of a row: rows outside the guard keep every column. -/
def apply
    (update : RowUpdate ρ)
    (row : ρ) :
    ρ :=
  if update.guard row then update.set row else row

/-- The `RETURNING *` of the update on one row. -/
def returning
    (update : RowUpdate ρ)
    (row : ρ) :
    Option ρ :=
  if update.guard row then some (update.set row) else none

theorem apply_of_guard
    {update : RowUpdate ρ}
    {row : ρ}
    (admitted : update.guard row = true) :
    update.apply row = update.set row := by
  simp [apply, admitted]

theorem apply_of_not_guard
    {update : RowUpdate ρ}
    {row : ρ}
    (refused : update.guard row = false) :
    update.apply row = row := by
  simp [apply, refused]

/-- A row is returned exactly when the guard admitted the stored one. -/
theorem returning_eq_some
    {update : RowUpdate ρ}
    {row written : ρ} :
    update.returning row = some written ↔
      update.guard row = true ∧ written = update.set row := by
  by_cases admitted : update.guard row = true
  · simp [returning, admitted, eq_comm]
  · simp [returning, admitted]

end RowUpdate

namespace Table

variable {κ ρ : Type} [DecidableEq κ]

/-- `INSERT … ON CONFLICT (key) DO NOTHING`, with `rowCount = 1` as its flag. -/
def insertIfAbsent
    (table : Table κ ρ)
    (key : κ)
    (row : ρ) :
    Table κ ρ × Bool :=
  if key ∈ table then (table, false) else (table.insert key row, true)

/--
`INSERT … ON CONFLICT (key) DO UPDATE SET every column WHERE replaceable`, with
`rowCount = 1` as its flag.
-/
def upsertWhere
    (table : Table κ ρ)
    (key : κ)
    (row : ρ)
    (replaceable : ρ → Bool) :
    Table κ ρ × Bool :=
  match table.lookup key with
  | none => (table.insert key row, true)
  | some stored =>
      if replaceable stored then
        (table.insert key row, true)
      else
        (table, false)

/-- `UPDATE … WHERE key = $1 AND guard RETURNING *`. -/
def updateWhere
    (table : Table κ ρ)
    (key : κ)
    (update : RowUpdate ρ) :
    Table κ ρ × Option ρ :=
  match table.lookup key with
  | none => (table, none)
  | some row =>
      if update.guard row then
        (table.insert key (update.set row), some (update.set row))
      else
        (table, none)

variable {ω : Type} [LE ω] [DecidableLE ω]

/-- `SELECT … WHERE admits ORDER BY order LIMIT limit`. -/
def select
    (table : Table κ ρ)
    (admits : κ → ρ → Bool)
    (order : ρ → ω)
    (limit : Nat) :
    List (κ × ρ) :=
  (((table.entries.map fun entry => (entry.1, entry.2)).filter
      fun entry => admits entry.1 entry.2).insertionSort
    fun first second => order first.2 ≤ order second.2).take limit

/-- An insert that meets a stored row leaves it; otherwise the row is new. -/
theorem lookup_insertIfAbsent
    (table : Table κ ρ)
    (key other : κ)
    (row : ρ) :
    (table.insertIfAbsent key row).1.lookup other =
      if other = key then
        some ((table.lookup key).getD row)
      else
        table.lookup other := by
  by_cases present : key ∈ table
  · obtain ⟨stored, found⟩ :=
      Option.isSome_iff_exists.mp (AList.lookup_isSome.mpr present)
    by_cases same : other = key
    · subst other
      simp [insertIfAbsent, present, found]
    · simp [insertIfAbsent, present, same]
  · have absent : table.lookup key = none :=
      AList.lookup_eq_none.mpr present
    by_cases same : other = key
    · subst other
      simp [insertIfAbsent, present, absent]
    · simp [insertIfAbsent, present, same, AList.lookup_insert_ne same]

/-- An upsert that reports a row has stored it; otherwise nothing changes. -/
theorem lookup_upsertWhere
    (table : Table κ ρ)
    (key other : κ)
    (row : ρ)
    (replaceable : ρ → Bool) :
    (table.upsertWhere key row replaceable).1.lookup other =
      if other = key ∧ (table.upsertWhere key row replaceable).2 = true then
        some row
      else
        table.lookup other := by
  unfold upsertWhere
  split
  · by_cases same : other = key
    · subst other
      simp
    · simp [same, AList.lookup_insert_ne same]
  · split
    · by_cases same : other = key
      · subst other
        simp
      · simp [same, AList.lookup_insert_ne same]
    · simp

/-- An upsert stores its row unless a row that has to stay is in the way. -/
theorem upserted
    {table : Table κ ρ}
    {key : κ}
    {row : ρ}
    {replaceable : ρ → Bool} :
    (table.upsertWhere key row replaceable).2 = true ↔
      ∀ stored, table.lookup key = some stored →
        replaceable stored = true := by
  unfold upsertWhere
  split
  · rename_i absent
    simp [absent]
  · rename_i stored found
    split <;> simp_all

/-- An `UPDATE` applies its row update at its key and nowhere else. -/
theorem lookup_updateWhere
    (table : Table κ ρ)
    (key other : κ)
    (update : RowUpdate ρ) :
    (table.updateWhere key update).1.lookup other =
      if other = key then
        (table.lookup key).map update.apply
      else
        table.lookup other := by
  unfold updateWhere
  cases found : table.lookup key with
  | none =>
      by_cases same : other = key
      · subst other
        simp [found]
      · simp [same]
  | some row =>
      by_cases admitted : update.guard row = true
      · by_cases same : other = key
        · subst other
          simp [admitted, RowUpdate.apply]
        · simp [admitted, same, AList.lookup_insert_ne same]
      · by_cases same : other = key
        · subst other
          simp [admitted, found, RowUpdate.apply]
        · simp [admitted, same]

/-- The returned row of an `UPDATE` is that of its row update. -/
theorem returned_updateWhere
    (table : Table κ ρ)
    (key : κ)
    (update : RowUpdate ρ) :
    (table.updateWhere key update).2 =
      (table.lookup key).bind update.returning := by
  unfold updateWhere
  cases found : table.lookup key with
  | none =>
      rfl
  | some row =>
      by_cases admitted : update.guard row = true
      · simp [admitted, RowUpdate.returning]
      · simp [admitted, RowUpdate.returning]

/-- What holds of each row and is kept by an update holds after it as well. -/
theorem kept_updateWhere
    {table : Table κ ρ}
    {holds : κ → ρ → Prop}
    (before :
      ∀ {key : κ} {row : ρ}, table.lookup key = some row → holds key row)
    {key : κ}
    {update : RowUpdate ρ}
    (keeps : ∀ {row : ρ}, holds key row → holds key (update.set row)) :
    (∀ {other : κ} {row : ρ},
        (table.updateWhere key update).1.lookup other = some row →
          holds other row) ∧
      ∀ written ∈ (table.updateWhere key update).2, holds key written := by
  refine ⟨?_, ?_⟩
  · intro other row found
    rw [lookup_updateWhere] at found
    split at found
    · rename_i same
      obtain ⟨stored, there, rfl⟩ := Option.map_eq_some_iff.mp found
      rw [same]
      unfold RowUpdate.apply
      split
      · exact keeps (before there)
      · exact before there
    · exact before found
  · intro written member
    rw [returned_updateWhere] at member
    obtain ⟨stored, there, returned⟩ := Option.bind_eq_some_iff.mp member
    obtain ⟨-, rfl⟩ := RowUpdate.returning_eq_some.mp returned
    exact keeps (before there)

/-- What holds of the rows and of a new one holds after it is inserted. -/
theorem kept_insertIfAbsent
    {table : Table κ ρ}
    {holds : κ → ρ → Prop}
    (before :
      ∀ {key : κ} {row : ρ}, table.lookup key = some row → holds key row)
    {key : κ}
    {row : ρ}
    (new : holds key row)
    {other : κ}
    {stored : ρ}
    (found : (table.insertIfAbsent key row).1.lookup other = some stored) :
    holds other stored := by
  rw [lookup_insertIfAbsent] at found
  split at found
  · rename_i same
    rw [same]
    cases there : table.lookup key with
    | none =>
        rw [there] at found
        cases found
        exact new
    | some earlier =>
        rw [there] at found
        cases found
        exact before there
  · exact before found

/-- The same if it may replace a row. -/
theorem kept_upsertWhere
    {table : Table κ ρ}
    {holds : κ → ρ → Prop}
    (before :
      ∀ {key : κ} {row : ρ}, table.lookup key = some row → holds key row)
    {key : κ}
    {row : ρ}
    (replaceable : ρ → Bool)
    (new : holds key row)
    {other : κ}
    {stored : ρ}
    (found :
      (table.upsertWhere key row replaceable).1.lookup other =
        some stored) :
    holds other stored := by
  rw [lookup_upsertWhere] at found
  split at found
  · rename_i written
    cases found
    exact written.1.symm ▸ new
  · exact before found

/-- At most one entry of a table bears a given key. -/
theorem filterMap_entries
    {γ : Type}
    (table : Table κ ρ)
    (key : κ)
    (value : ρ → γ) :
    (table.entries.filterMap fun entry =>
        if entry.1 = key then some (value entry.2) else none) =
      ((table.lookup key).map value).toList := by
  obtain ⟨entries, nodup⟩ := table
  change (entries.filterMap _) = ((entries.dlookup key).map value).toList
  induction entries with
  | nil =>
      rfl
  | cons entry rest inductionHypothesis =>
      obtain ⟨unlisted, nodupRest⟩ := List.nodupKeys_cons.mp nodup
      obtain ⟨first, row⟩ := entry
      by_cases same : first = key
      · subst first
        have none_left : rest.dlookup key = none :=
          List.dlookup_eq_none.mpr unlisted
        have others := inductionHypothesis nodupRest
        rw [none_left] at others
        simp [List.dlookup_cons_eq, others]
      · rw [List.filterMap_cons_none (by simp [same]),
          inductionHypothesis nodupRest,
          List.dlookup_cons_ne _ _ (Ne.symm same)]

/-- Every selected row is stored under its key and satisfies the condition. -/
theorem mem_select
    {table : Table κ ρ}
    {admits : κ → ρ → Bool}
    {order : ρ → ω}
    {limit : Nat}
    {key : κ}
    {row : ρ}
    (member : (key, row) ∈ table.select admits order limit) :
    table.lookup key = some row ∧ admits key row = true := by
  have sorted := List.mem_of_mem_take member
  rw [List.mem_insertionSort] at sorted
  obtain ⟨stored, admitted⟩ := List.mem_filter.mp sorted
  obtain ⟨entry, entryMember, shape⟩ := List.mem_map.mp stored
  cases shape
  exact ⟨AList.mem_lookup_iff.mpr entryMember, admitted⟩

/-- A limit that admits every row leaves out no row that is selected. -/
theorem mem_select_all
    {table : Table κ ρ}
    {admits : κ → ρ → Bool}
    {order : ρ → ω}
    {key : κ}
    {row : ρ}
    (found : table.lookup key = some row)
    (admitted : admits key row = true) :
    (key, row) ∈ table.select admits order table.entries.length := by
  unfold select
  rw [List.take_of_length_le]
  · rw [List.mem_insertionSort, List.mem_filter]
    refine ⟨List.mem_map.mpr ⟨⟨key, row⟩, ?_, rfl⟩, admitted⟩
    exact AList.mem_lookup_iff.mp found
  · rw [List.length_insertionSort]
    exact (List.length_filter_le _ _).trans_eq (List.length_map _)

omit [DecidableEq κ] in
theorem length_select_le
    (table : Table κ ρ)
    (admits : κ → ρ → Bool)
    (order : ρ → ω)
    (limit : Nat) :
    (table.select admits order limit).length ≤ limit :=
  List.length_take_le _ _

omit [DecidableEq κ] in
/-- A primary key is selected at most once. -/
theorem select_keys_nodup
    (table : Table κ ρ)
    (admits : κ → ρ → Bool)
    (order : ρ → ω)
    (limit : Nat) :
    ((table.select admits order limit).map Prod.fst).Nodup := by
  have stored :
      ((table.entries.map
        fun entry => (entry.1, entry.2)).map Prod.fst).Nodup := by
    simpa [List.map_map, Function.comp_def, AList.keys, List.keys] using
      table.keys_nodup
  have filtered :
      (((table.entries.map
        fun entry => (entry.1, entry.2)).filter
          fun entry : κ × ρ => admits entry.1 entry.2).map
            Prod.fst).Nodup :=
    (List.filter_sublist.map Prod.fst).nodup stored
  have sorted :=
    ((List.perm_insertionSort
      (fun first second : κ × ρ => order first.2 ≤ order second.2)
      _).map Prod.fst).nodup_iff.mpr filtered
  exact ((List.take_sublist _ _).map Prod.fst).nodup sorted

/-- A listing depends on how the rows compare, not on what is compared. -/
theorem select_congr
    {υ : Type}
    [LE υ]
    [DecidableLE υ]
    {table : Table κ ρ}
    {admits otherAdmits : κ → ρ → Bool}
    {order : ρ → ω}
    {otherOrder : ρ → υ}
    (sameAdmits :
      ∀ {key : κ} {row : ρ},
        table.lookup key = some row → admits key row = otherAdmits key row)
    (sameOrder :
      ∀ {key otherKey : κ} {row otherRow : ρ},
        table.lookup key = some row →
        admits key row = true →
        table.lookup otherKey = some otherRow →
        admits otherKey otherRow = true →
        (order row ≤ order otherRow ↔ otherOrder row ≤ otherOrder otherRow))
    (limit : Nat) :
    table.select admits order limit =
      table.select otherAdmits otherOrder limit := by
  have stored
      {key : κ}
      {row : ρ}
      (member :
        (key, row) ∈ table.entries.map fun entry => (entry.1, entry.2)) :
      table.lookup key = some row := by
    obtain ⟨entry, entryMember, shape⟩ := List.mem_map.mp member
    cases shape
    exact AList.mem_lookup_iff.mpr entryMember
  have listed :
      ((table.entries.map fun entry => (entry.1, entry.2)).filter
          fun entry => admits entry.1 entry.2) =
        (table.entries.map fun entry => (entry.1, entry.2)).filter
          fun entry => otherAdmits entry.1 entry.2 :=
    List.filter_congr fun _ member => sameAdmits (stored member)
  unfold select
  rw [← listed]
  have sorted :=
    List.map_insertionSort
      (fun first second : κ × ρ => order first.2 ≤ order second.2)
      (fun first second : κ × ρ => otherOrder first.2 ≤ otherOrder second.2)
      id
      ((table.entries.map fun entry => (entry.1, entry.2)).filter
        fun entry => admits entry.1 entry.2)
      (by
        intro first member second otherMember
        obtain ⟨inTable, admitted⟩ := List.mem_filter.mp member
        obtain ⟨otherInTable, otherAdmitted⟩ := List.mem_filter.mp otherMember
        exact sameOrder (stored inTable) admitted (stored otherInTable)
          otherAdmitted)
  rw [List.map_id, List.map_id] at sorted
  rw [sorted]

/-! ## Tables that agree up to a view of their rows -/

section Views

variable {υ : Type}

/-- The table with every row replaced by a view of it, in the same order. -/
def mapRows
    (view : ρ → υ)
    (table : Table κ ρ) :
    Table κ υ where
  entries := table.entries.map fun entry => ⟨entry.1, view entry.2⟩
  nodupKeys := by
    have keys :
        (table.entries.map fun entry =>
          (⟨entry.1, view entry.2⟩ : Sigma fun _ : κ => υ)).keys =
          table.entries.keys := by
      simp [List.keys, Function.comp_def]
    exact (congrArg List.Nodup keys).mpr table.nodupKeys

theorem lookup_mapRows
    (view : ρ → υ)
    (table : Table κ ρ)
    (key : κ) :
    (table.mapRows view).lookup key = (table.lookup key).map view := by
  obtain ⟨entries, nodup⟩ := table
  change
    ((entries.map fun entry =>
      (⟨entry.1, view entry.2⟩ : Sigma fun _ : κ => υ)).dlookup key :
        Option υ) =
      (entries.dlookup key).map view
  clear nodup
  induction entries with
  | nil =>
      rfl
  | cons entry rest inductionHypothesis =>
      obtain ⟨first, row⟩ := entry
      by_cases same : first = key
      · subst first
        simp [List.dlookup_cons_eq]
      · rw [List.map_cons, List.dlookup_cons_ne _ _ (Ne.symm same),
          List.dlookup_cons_ne _ _ (Ne.symm same), inductionHypothesis]

theorem mapRows_insert
    (view : ρ → υ)
    (table : Table κ ρ)
    (key : κ)
    (row : ρ) :
    mapRows view (table.insert key row) =
      (table.mapRows view).insert key (view row) := by
  apply AList.ext
  change
    ((⟨key, row⟩ :: table.entries.kerase key).map fun entry =>
      (⟨entry.1, view entry.2⟩ : Sigma fun _ : κ => υ)) =
      ⟨key, view row⟩ ::
        (table.entries.map fun entry =>
          (⟨entry.1, view entry.2⟩ : Sigma fun _ : κ => υ)).kerase key
  rw [List.map_cons, List.kerase, List.kerase, List.eraseP_map]
  rfl

/-- An update that respects the view does to the views what it does to rows. -/
theorem mapRows_updateWhere
    {view : ρ → υ}
    {update : RowUpdate ρ}
    {viewed : RowUpdate υ}
    (table : Table κ ρ)
    (key : κ)
    (guard : ∀ row, update.guard row = viewed.guard (view row))
    (set : ∀ row, view (update.set row) = viewed.set (view row)) :
    (table.updateWhere key update).1.mapRows view =
        ((table.mapRows view).updateWhere key viewed).1 ∧
      (table.updateWhere key update).2.map view =
        ((table.mapRows view).updateWhere key viewed).2 := by
  unfold updateWhere
  rw [lookup_mapRows]
  cases table.lookup key with
  | none =>
      exact ⟨rfl, rfl⟩
  | some row =>
      simp only [Option.map_some, ← guard row]
      split
      · exact ⟨by rw [mapRows_insert, set], by rw [Option.map_some, set]⟩
      · exact ⟨rfl, rfl⟩

omit [DecidableEq κ] in
/-- A listing that looks only at the view lists the same keys and views. -/
theorem mapRows_select
    {view : ρ → υ}
    {admits : κ → ρ → Bool}
    {viewedAdmits : κ → υ → Bool}
    {order : ρ → ω}
    {viewedOrder : υ → ω}
    (table : Table κ ρ)
    (limit : Nat)
    (sameAdmits :
      ∀ key row, admits key row = viewedAdmits key (view row))
    (sameOrder : ∀ row, order row = viewedOrder (view row)) :
    (table.select admits order limit).map
        (fun entry => (entry.1, view entry.2)) =
      (table.mapRows view).select viewedAdmits viewedOrder limit := by
  unfold select
  rw [List.map_take]
  congr 1
  have listed :
      ((table.mapRows view).entries.map
        fun entry => (entry.1, entry.2)).filter
          (fun entry => viewedAdmits entry.1 entry.2) =
        ((table.entries.map fun entry => (entry.1, entry.2)).filter
          fun entry => admits entry.1 entry.2).map
            fun entry => (entry.1, view entry.2) := by
    simp [mapRows, List.filter_map, Function.comp_def, sameAdmits]
  rw [listed]
  refine List.map_insertionSort _ _ _ _ ?_
  intro first _ second _
  simp only [sameOrder]

end Views

end Table

end Relational

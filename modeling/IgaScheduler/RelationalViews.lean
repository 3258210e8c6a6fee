import IgaScheduler.RelationalTable

namespace Relational

/-!
# Two tables with one view

Two tables of different rows agree when a view of the one and a view of the
other give the same table.  What a statement does to both keeps them in
agreement when it does the same to the views of two rows that agree.
-/

namespace Table

variable {κ ρ σ υ : Type} [DecidableEq κ]
variable {ω : Type} [LE ω] [DecidableLE ω]
variable {view : ρ → υ} {otherView : σ → υ}
variable {table : Table κ ρ} {other : Table κ σ}

/-- Two rows that agree meet two updates that do the same to their views. -/
structure SameUpdate
    (view : ρ → υ)
    (otherView : σ → υ)
    (update : RowUpdate ρ)
    (otherUpdate : RowUpdate σ)
    (row : ρ)
    (otherRow : σ) :
    Prop where
  guard : update.guard row = otherUpdate.guard otherRow
  set : view (update.set row) = otherView (otherUpdate.set otherRow)

theorem lookup_views
    (agree : table.mapRows view = other.mapRows otherView)
    (key : κ) :
    (table.lookup key).map view = (other.lookup key).map otherView := by
  rw [← lookup_mapRows, ← lookup_mapRows, agree]

/-- A key is there in both tables or in none. -/
theorem mem_views
    (agree : table.mapRows view = other.mapRows otherView)
    (key : κ) :
    key ∈ table ↔ key ∈ other := by
  have found := congrArg Option.isSome (lookup_views agree key)
  rw [Option.isSome_map, Option.isSome_map] at found
  rw [← AList.lookup_isSome, ← AList.lookup_isSome, found]

theorem insertIfAbsent_views
    (agree : table.mapRows view = other.mapRows otherView)
    (key : κ)
    {row : ρ}
    {otherRow : σ}
    (same : view row = otherView otherRow) :
    (table.insertIfAbsent key row).1.mapRows view =
        (other.insertIfAbsent key otherRow).1.mapRows otherView ∧
      (table.insertIfAbsent key row).2 =
        (other.insertIfAbsent key otherRow).2 := by
  unfold insertIfAbsent
  by_cases present : key ∈ table
  · rw [if_pos present, if_pos ((mem_views agree key).mp present)]
    exact ⟨agree, rfl⟩
  · rw [if_neg present, if_neg fun there =>
      present ((mem_views agree key).mpr there)]
    refine ⟨?_, rfl⟩
    dsimp only
    rw [mapRows_insert, mapRows_insert, agree, same]

theorem upsertWhere_views
    (agree : table.mapRows view = other.mapRows otherView)
    (key : κ)
    {row : ρ}
    {otherRow : σ}
    (replaceable : ρ → Bool)
    (otherReplaceable : σ → Bool)
    (same : view row = otherView otherRow)
    (sameReplaceable :
      ∀ stored otherStored,
        view stored = otherView otherStored →
          replaceable stored = otherReplaceable otherStored) :
    (table.upsertWhere key row replaceable).1.mapRows view =
        (other.upsertWhere key otherRow otherReplaceable).1.mapRows
          otherView ∧
      (table.upsertWhere key row replaceable).2 =
        (other.upsertWhere key otherRow otherReplaceable).2 := by
  have found := lookup_views agree key
  have inserted :
      mapRows view (table.insert key row) =
        mapRows otherView (other.insert key otherRow) := by
    rw [mapRows_insert, mapRows_insert, agree, same]
  unfold upsertWhere
  cases left : table.lookup key with
  | none =>
      cases right : other.lookup key with
      | none =>
          exact ⟨inserted, rfl⟩
      | some otherStored =>
          rw [left, right] at found
          cases found
  | some stored =>
      cases right : other.lookup key with
      | none =>
          rw [left, right] at found
          cases found
      | some otherStored =>
          rw [left, right, Option.map_some, Option.map_some] at found
          dsimp only
          rw [sameReplaceable stored otherStored (Option.some.inj found)]
          split
          · exact ⟨inserted, rfl⟩
          · exact ⟨agree, rfl⟩

omit [DecidableEq κ] in
/-- Both tables have as many rows. -/
theorem length_views
    (agree : table.mapRows view = other.mapRows otherView) :
    table.entries.length = other.entries.length := by
  have same := congrArg (fun mapped => mapped.entries.length) agree
  simpa only [mapRows, List.length_map] using same

/-- The rows that are returned agree as well. -/
theorem updateWhere_views
    (agree : table.mapRows view = other.mapRows otherView)
    (key : κ)
    {update : RowUpdate ρ}
    {otherUpdate : RowUpdate σ}
    (same :
      ∀ row otherRow,
        table.lookup key = some row →
          other.lookup key = some otherRow →
            view row = otherView otherRow →
              SameUpdate view otherView update otherUpdate row otherRow) :
    (table.updateWhere key update).1.mapRows view =
        (other.updateWhere key otherUpdate).1.mapRows otherView ∧
      (table.updateWhere key update).2.map view =
        (other.updateWhere key otherUpdate).2.map otherView := by
  have found := lookup_views agree key
  unfold updateWhere
  cases left : table.lookup key with
  | none =>
      cases right : other.lookup key with
      | none =>
          exact ⟨agree, rfl⟩
      | some otherRow =>
          rw [left, right] at found
          cases found
  | some row =>
      cases right : other.lookup key with
      | none =>
          rw [left, right] at found
          cases found
      | some otherRow =>
          rw [left, right, Option.map_some, Option.map_some] at found
          obtain ⟨guard, set⟩ :=
            same row otherRow left right (Option.some.inj found)
          dsimp only
          rw [guard]
          split
          · refine ⟨?_, ?_⟩
            · rw [mapRows_insert, mapRows_insert, agree, set]
            · rw [Option.map_some, Option.map_some, set]
          · exact ⟨agree, rfl⟩

omit [DecidableEq κ] in
/-- A listing that looks only at the views lists the same. -/
theorem select_views
    (agree : table.mapRows view = other.mapRows otherView)
    (admits : κ → υ → Bool)
    (order : υ → ω)
    (limit : Nat) :
    (table.select (fun key row => admits key (view row))
        (fun row => order (view row)) limit).map
        (fun entry => (entry.1, view entry.2)) =
      (other.select (fun key row => admits key (otherView row))
        (fun row => order (otherView row)) limit).map
        (fun entry => (entry.1, otherView entry.2)) := by
  have viewed
      {τ : Type}
      (viewOf : τ → υ)
      (listed : Table κ τ) :
      (listed.select (fun key row => admits key (viewOf row))
          (fun row => order (viewOf row)) limit).map
          (fun entry => (entry.1, viewOf entry.2)) =
        (listed.mapRows viewOf).select admits order limit :=
    mapRows_select listed limit (fun _ _ => rfl) fun _ => rfl
  rw [viewed, viewed, agree]

/-- What is shown of the listed rows agrees if the views of a row decide it. -/
theorem shown_of_views
    {γ : Type}
    (agree : table.mapRows view = other.mapRows otherView)
    (admits : κ → υ → Bool)
    (order : υ → ω)
    (limit : Nat)
    {shown : κ × ρ → γ}
    {otherShown : κ × σ → γ}
    (same :
      ∀ {key : κ} {row : ρ} {otherRow : σ},
        table.lookup key = some row →
        view row = otherView otherRow →
        shown (key, row) = otherShown (key, otherRow)) :
    (table.select (fun key row => admits key (view row))
        (fun row => order (view row)) limit).map shown =
      (other.select (fun key row => admits key (otherView row))
        (fun row => order (otherView row)) limit).map otherShown := by
  have listed := select_views agree admits order limit
  rw [← List.forall₂_eq_eq_eq, List.forall₂_map_left_iff,
    List.forall₂_map_right_iff] at listed ⊢
  have stored :
      ∀ entry ∈ table.select (fun key row => admits key (view row))
        (fun row => order (view row)) limit,
        table.lookup entry.1 = some entry.2 :=
    fun entry member => (mem_select member).1
  refine ((List.forall₂_and_left _ _).mpr ⟨stored, listed⟩).imp ?_
  rintro ⟨key, row⟩ ⟨otherKey, otherRow⟩ ⟨found, entries⟩
  obtain ⟨rfl, views⟩ := Prod.mk.inj entries
  exact same found views

end Table

end Relational

import Mathlib.Data.Set.Card
import IgaScheduler.RelationalTable

namespace Relational

/-!
# What a `LIMIT` leaves out

`ORDER BY order LIMIT limit` leaves a row out only for as many rows that come
no later.  Rows that are equal in that order come in the physical order of the
table, about which SQL says nothing: there is a physical order in which a given
set of rows always goes first.
-/

/-- As many members as a list without duplicates has entries. -/
theorem ncard_of_nodup
    {κ : Type}
    [DecidableEq κ]
    {keys : List κ}
    (distinct : keys.Nodup) :
    Set.ncard {key | key ∈ keys} = keys.length := by
  rw [← List.coe_toFinset, Set.ncard_coe_finset,
    List.toFinset_card_of_nodup distinct]

/-- In a list without duplicates, what ends in an early entry is short. -/
theorem length_lt_of_mem_take
    {α : Type}
    {ahead listed : List α}
    {entry : α}
    {limit : Nat}
    (distinct : listed.Nodup)
    (sublist : (ahead ++ [entry]).Sublist listed)
    (member : entry ∈ listed.take limit) :
    ahead.length < limit := by
  rw [← List.take_append_drop limit listed] at sublist distinct
  obtain ⟨early, late, shape, inEarly, inLate⟩ :=
    List.sublist_append_iff.mp sublist
  rcases List.eq_nil_or_concat late with rfl | ⟨before, last, rfl⟩
  · rw [List.append_nil] at shape
    rw [← shape] at inEarly
    have bounded :=
      inEarly.length_le.trans (List.length_take_le limit listed)
    rw [List.length_append, List.length_singleton] at bounded
    exact bounded
  · rw [List.concat_eq_append, ← List.append_assoc] at shape
    obtain ⟨-, same⟩ := List.append_inj' shape rfl
    obtain rfl := List.singleton_inj.mp same
    have dropped : entry ∈ listed.drop limit :=
      inLate.subset (by simp)
    exact ((List.nodup_append'.mp distinct).2.2 member dropped).elim

namespace Table

variable {κ ρ : Type} [DecidableEq κ]
/-- The rows of a table with their keys, in physical order. -/
def rows (table : Table κ ρ) : List (κ × ρ) :=
  table.entries.map fun entry => (entry.1, entry.2)

/-- The rows that satisfy a condition, in the order of a listing. -/
def sorted
    (table : Table κ ρ)
    (admits : κ → ρ → Bool)
    (order : ρ → Int) :
    List (κ × ρ) :=
  (table.rows.filter fun entry => admits entry.1 entry.2).insertionSort
    fun first second => order first.2 ≤ order second.2

variable {table : Table κ ρ}
variable {admits : κ → ρ → Bool}
variable {order : ρ → Int}
variable {limit : Nat}

omit [DecidableEq κ] in
theorem select_eq_take :
    table.select admits order limit =
      (table.sorted admits order).take limit :=
  rfl

theorem mem_rows
    {key : κ}
    {row : ρ} :
    (key, row) ∈ table.rows ↔ table.lookup key = some row := by
  rw [← Option.mem_def, AList.mem_lookup_iff]
  constructor
  · intro member
    obtain ⟨entry, stored, shape⟩ := List.mem_map.mp member
    cases shape
    exact stored
  · intro stored
    exact List.mem_map.mpr ⟨_, stored, rfl⟩

theorem mem_sorted
    {key : κ}
    {row : ρ} :
    (key, row) ∈ table.sorted admits order ↔
      table.lookup key = some row ∧ admits key row = true := by
  rw [sorted, List.mem_insertionSort, List.mem_filter, mem_rows]

omit [DecidableEq κ] in
theorem sorted_pairwise :
    (table.sorted admits order).Pairwise
      fun first second => order first.2 ≤ order second.2 := by
  have : Std.Total fun first second : κ × ρ =>
      order first.2 ≤ order second.2 :=
    ⟨fun first second => Int.le_total _ _⟩
  have : IsTrans (κ × ρ) fun first second =>
      order first.2 ≤ order second.2 :=
    ⟨fun first second third => Int.le_trans⟩
  exact List.pairwise_insertionSort _ _

omit [DecidableEq κ] in
theorem rows_keys_nodup :
    (table.rows.map Prod.fst).Nodup := by
  simpa [rows, List.map_map, Function.comp_def, AList.keys, List.keys]
    using table.keys_nodup

omit [DecidableEq κ] in
theorem sorted_nodup :
    (table.sorted admits order).Nodup := by
  refine (List.perm_insertionSort _ _).nodup_iff.mpr ?_
  exact (List.Nodup.of_map _ rows_keys_nodup).filter _

/-- A row is left out only when the limit is used up by rows no later. -/
theorem select_full
    {key : κ}
    {row : ρ}
    (found : table.lookup key = some row)
    (admitted : admits key row = true)
    (leftOut : (key, row) ∉ table.select admits order limit) :
    (table.select admits order limit).length = limit ∧
      ∀ entry ∈ table.select admits order limit,
        order entry.2 ≤ order row := by
  have listed : (key, row) ∈ table.sorted admits order :=
    mem_sorted.mpr ⟨found, admitted⟩
  have ordered :
      (table.sorted admits order).Pairwise
        fun first second => order first.2 ≤ order second.2 :=
    sorted_pairwise
  rw [select_eq_take] at leftOut ⊢
  rw [← List.take_append_drop limit (table.sorted admits order)]
    at listed ordered
  have dropped := (List.mem_append.mp listed).resolve_left leftOut
  refine ⟨List.length_take_of_le ?_, fun entry early => ?_⟩
  · refine Nat.le_of_not_lt fun short => ?_
    rw [List.drop_eq_nil_of_le (Nat.le_of_lt short)] at dropped
    cases dropped
  · exact (List.pairwise_append.mp ordered).2.2 entry early _ dropped

/-- The entries of some keys first, in the order of a listing. -/
def reorderedEntries
    (table : Table κ ρ)
    (ahead : κ → Bool)
    (order : ρ → Int) :
    List (Sigma fun _ : κ => ρ) :=
  (table.entries.filter fun entry => ahead entry.1).insertionSort
      (fun first second => order first.2 ≤ order second.2) ++
    table.entries.filter fun entry => !ahead entry.1

omit [DecidableEq κ] in
theorem reorderedEntries_perm
    (ahead : κ → Bool) :
    (table.reorderedEntries ahead order).Perm table.entries :=
  ((List.perm_insertionSort _ _).append_right _).trans
    (List.filter_append_perm _ _)

/-- The same rows, those of some keys first. -/
def reordered
    (table : Table κ ρ)
    (ahead : κ → Bool)
    (order : ρ → Int) :
    Table κ ρ where
  entries := table.reorderedEntries ahead order
  nodupKeys :=
    (List.perm_nodupKeys (reorderedEntries_perm ahead)).mpr table.nodupKeys

theorem lookup_reordered
    (ahead : κ → Bool)
    (key : κ) :
    (table.reordered ahead order).lookup key = table.lookup key :=
  AList.perm_lookup (reorderedEntries_perm ahead)

/-- The keys that go ahead of a row: put first, and no later in the order. -/
def goingAhead
    (table : Table κ ρ)
    (ahead : κ → Bool)
    (admits : κ → ρ → Bool)
    (order : ρ → Int)
    (row : ρ) :
    Set κ :=
  {key |
    ahead key = true ∧
      ∃ stored,
        table.lookup key = some stored ∧
          admits key stored = true ∧
          order stored ≤ order row}

/-- The rows put first, and those behind them. -/
def early
    (table : Table κ ρ)
    (ahead : κ → Bool)
    (order : ρ → Int) :
    List (κ × ρ) :=
  ((table.entries.filter fun entry => ahead entry.1).insertionSort
      fun first second => order first.2 ≤ order second.2).map
    fun entry => (entry.1, entry.2)

def late
    (table : Table κ ρ)
    (ahead : κ → Bool) :
    List (κ × ρ) :=
  (table.entries.filter fun entry => !ahead entry.1).map
    fun entry => (entry.1, entry.2)

omit [DecidableEq κ] in
theorem rows_reordered
    (ahead : κ → Bool) :
    (table.reordered ahead order).rows =
      table.early ahead order ++ table.late ahead :=
  List.map_append

theorem mem_early
    {ahead : κ → Bool}
    {key : κ}
    {row : ρ} :
    (key, row) ∈ table.early ahead order ↔
      ahead key = true ∧ table.lookup key = some row := by
  rw [← Option.mem_def, AList.mem_lookup_iff, early, List.mem_map]
  constructor
  · rintro ⟨entry, member, shape⟩
    cases shape
    rw [List.mem_insertionSort, List.mem_filter] at member
    exact ⟨member.2, member.1⟩
  · rintro ⟨first, stored⟩
    refine ⟨⟨key, row⟩, ?_, rfl⟩
    rw [List.mem_insertionSort, List.mem_filter]
    exact ⟨stored, first⟩

omit [DecidableEq κ] in
theorem early_pairwise
    {ahead : κ → Bool} :
    (table.early ahead order).Pairwise
      fun first second => order first.2 ≤ order second.2 := by
  have : Std.Total fun first second : Sigma fun _ : κ => ρ =>
      order first.2 ≤ order second.2 :=
    ⟨fun first second => Int.le_total _ _⟩
  have : IsTrans (Sigma fun _ : κ => ρ) fun first second =>
      order first.2 ≤ order second.2 :=
    ⟨fun first second third => Int.le_trans⟩
  exact List.pairwise_map.mpr (List.pairwise_insertionSort _ _)

/-- A row that is selected behind others has fewer ahead than the limit. -/
theorem ncard_goingAhead_lt
    {ahead : κ → Bool}
    {key : κ}
    {row : ρ}
    (behind : ahead key = false)
    (selected :
      (key, row) ∈ (table.reordered ahead order).select admits order limit) :
    (table.goingAhead ahead admits order row).ncard < limit := by
  obtain ⟨found, admitted⟩ := mem_select selected
  have stored := mem_rows.mpr found
  rw [rows_reordered, List.mem_append] at stored
  have inLate : (key, row) ∈ table.late ahead := by
    refine stored.resolve_left fun inEarly => ?_
    rw [(mem_early.mp inEarly).1] at behind
    cases behind
  let passing :=
    ((table.early ahead order).filter fun entry =>
        admits entry.1 entry.2).filter
      fun entry => order entry.2 ≤ order row
  have passingSublist :
      passing.Sublist
        ((table.early ahead order).filter fun entry =>
          admits entry.1 entry.2) :=
    List.filter_sublist
  have mem_passing : ∀ {other : κ} {stored : ρ},
      (other, stored) ∈ passing ↔
        ahead other = true ∧ table.lookup other = some stored ∧
          admits other stored = true ∧ order stored ≤ order row := by
    intro other stored
    simp only [passing, List.mem_filter, mem_early, decide_eq_true_eq,
      and_assoc]
  -- the rows ahead and then the row, in the order of the listing
  have ordered :
      (passing ++ [(key, row)]).Pairwise
        fun first second => order first.2 ≤ order second.2 := by
    refine List.pairwise_append.mpr
      ⟨early_pairwise.sublist
        (passingSublist.trans List.filter_sublist),
        List.pairwise_singleton _ _, ?_⟩
    intro entry member last isRow
    rw [List.mem_singleton.mp isRow]
    exact (mem_passing.mp member).2.2.2
  have physical :
      (passing ++ [(key, row)]).Sublist
        ((table.reordered ahead order).rows.filter fun entry =>
          admits entry.1 entry.2) := by
    rw [rows_reordered, List.filter_append]
    refine passingSublist.append (List.singleton_sublist.mpr ?_)
    exact List.mem_filter.mpr ⟨inLate, admitted⟩
  have : Std.Total fun first second : κ × ρ =>
      order first.2 ≤ order second.2 :=
    ⟨fun first second => Int.le_total _ _⟩
  have : IsTrans (κ × ρ) fun first second =>
      order first.2 ≤ order second.2 :=
    ⟨fun first second third => Int.le_trans⟩
  have short : passing.length < limit :=
    length_lt_of_mem_take sorted_nodup
      (List.sublist_insertionSort ordered physical) selected
  have keys :
      table.goingAhead ahead admits order row =
        {other | other ∈ passing.map Prod.fst} := by
    ext other
    constructor
    · rintro ⟨first, stored, rest⟩
      exact List.mem_map.mpr
        ⟨(other, stored), mem_passing.mpr ⟨first, rest⟩, rfl⟩
    · intro member
      obtain ⟨⟨_, stored⟩, listed, rfl⟩ := List.mem_map.mp member
      obtain ⟨first, rest⟩ := mem_passing.mp listed
      exact ⟨first, stored, rest⟩
  have distinct : (passing.map Prod.fst).Nodup := by
    have rowKeys := (table.reordered ahead order).rows_keys_nodup
    rw [rows_reordered, List.map_append] at rowKeys
    exact (List.nodup_append'.mp rowKeys).1.sublist
      ((passingSublist.trans List.filter_sublist).map Prod.fst)
  rw [keys, ncard_of_nodup distinct, List.length_map]
  exact short

end Table

end Relational

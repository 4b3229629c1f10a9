import Mathlib.Data.List.Forall2
import Savor.Library.Sequence

/-!
# Tables of rows with an id

A table keeps its rows in the order of their ids, as a relational store does
that hands out the next id to every inserted row.  The operations are the ones
of such a store: find a row by its id, select rows, change the selected rows,
and insert a row under the next id.
-/

namespace Savor.Library

/-- A change of rows keeps their ids. -/
structure KeepsKey {Row : Type} (key : Row → Nat) (change : Row → Row) : Prop where
  same : ∀ row, key (change row) = key row

/-- A row that is made for an id has it. -/
structure MakesKey {Row : Type} (key : Row → Nat) (make : Nat → Row) : Prop where
  same : ∀ id, key (make id) = id

/-- Rows in the order of their ids, which are positive. -/
structure Table (Row : Type) (key : Row → Nat) where
  /-- The rows in the order in which they were inserted. -/
  rows : List Row
  ascending : (rows.map key).Pairwise (· < ·)
  positive : ∀ row ∈ rows, 0 < key row

namespace Table

variable {Row : Type} {key : Row → Nat}

/-- The table without rows. -/
def empty : Table Row key := ⟨[], .nil, nofun⟩

/-- The row with an id. -/
def find (table : Table Row key) (id : Nat) : Option Row := Keyed.lookup key table.rows id

/-- The rows that a query selects. -/
def select (table : Table Row key) (selected : Row → Prop) [DecidablePred selected] : List Row :=
  table.rows.filter fun row => selected row

/-- How many rows a query selects. -/
def count (table : Table Row key) (selected : Row → Prop) [DecidablePred selected] : Nat :=
  table.rows.countP fun row => selected row

/-- The id of the row that is inserted next. -/
def nextId (table : Table Row key) : Nat := (table.rows.map key).getLast?.getD 0 + 1

variable {row : Row}

theorem key_lt_nextId (table : Table Row key) (member : row ∈ table.rows) :
    key row < table.nextId := by
  have named : key row ∈ table.rows.map key := List.mem_map_of_mem member
  have ascending := table.ascending
  unfold nextId
  revert named ascending
  generalize table.rows.map key = ids
  intro named ascending
  rcases List.eq_nil_or_concat ids with rfl | ⟨before, last, rfl⟩
  · simp at named
  rw [List.concat_eq_append] at named ascending ⊢
  rw [List.getLast?_concat, Option.getD_some]
  rcases List.mem_append.mp named with early | here
  · have below := (List.pairwise_append.mp ascending).2.2
      (key row) early last (by simp)
    omega
  · have same : key row = last := by simpa using here
    omega

/-- Insert a row under the next id. -/
def insert (table : Table Row key) (make : Nat → Row)
    (named : MakesKey key make) : Table Row key where
  rows := table.rows ++ [make table.nextId]
  ascending := by
    rw [List.map_append, List.pairwise_append]
    refine ⟨table.ascending, List.pairwise_singleton _ _, ?_⟩
    intro earlier member last here
    obtain ⟨row, rowMember, rfl⟩ := List.mem_map.mp member
    obtain rfl : last = table.nextId := by simpa [named.same] using here
    exact table.key_lt_nextId rowMember
  positive := by
    intro row member
    rcases List.mem_append.mp member with early | here
    · exact table.positive row early
    obtain rfl : row = make table.nextId := by simpa using here
    rw [named.same]
    exact Nat.succ_pos _

/-- Change the selected rows, which keep their ids. -/
def update (table : Table Row key) (selected : Row → Prop)
    [DecidablePred selected] (change : Row → Row)
    (keeps : KeepsKey key change) : Table Row key where
  rows := table.rows.map fun row => if selected row then change row else row
  ascending := by
    have same : (table.rows.map fun row =>
        if selected row then change row else row).map key = table.rows.map key := by
      rw [List.map_map]
      apply List.map_congr_left
      intro row _
      rw [Function.comp_apply]
      split
      · exact keeps.same row
      · rfl
    rw [same]
    exact table.ascending
  positive := by
    intro row member
    obtain ⟨old, oldMember, rfl⟩ := List.mem_map.mp member
    split
    · rw [keeps.same]
      exact table.positive old oldMember
    · exact table.positive old oldMember

/-- Different rows have different ids. -/
theorem keys_nodup (table : Table Row key) : (table.rows.map key).Nodup :=
  table.ascending.imp Nat.ne_of_lt

theorem find_eq_some_iff (table : Table Row key) {id : Nat} :
    table.find id = some row ↔ row ∈ table.rows ∧ key row = id :=
  Keyed.lookup_eq_some_iff table.keys_nodup

theorem mem_of_find {table : Table Row key} {id : Nat} (found : table.find id = some row) :
    row ∈ table.rows :=
  (table.find_eq_some_iff.mp found).1

theorem key_of_find {table : Table Row key} {id : Nat} (found : table.find id = some row) :
    key row = id :=
  (table.find_eq_some_iff.mp found).2

/-- Every row is found under its id. -/
theorem find_key (table : Table Row key) (member : row ∈ table.rows) :
    table.find (key row) = some row :=
  table.find_eq_some_iff.mpr ⟨member, rfl⟩

theorem eq_of_key_eq (table : Table Row key) {other : Row}
    (member : row ∈ table.rows) (otherMember : other ∈ table.rows) (same : key row = key other) :
    row = other := by
  have found := table.find_key member
  rw [same, table.find_key otherMember] at found
  exact (Option.some.inj found).symm

section Update

variable (table : Table Row key) (selected : Row → Prop)
  [DecidablePred selected] (change : Row → Row)
  (keeps : KeepsKey key change)

theorem find_update (id : Nat) : (table.update selected change keeps).find id =
      (table.find id).map fun row => if selected row then change row else row := by
  apply Keyed.lookup_map
  intro row
  split
  · exact keeps.same row
  · rfl

theorem find_update_of_some {id : Nat} {row : Row} (found : table.find id = some row) :
    (table.update selected change keeps).find id =
      some (if selected row then change row else row) := by
  rw [find_update, found, Option.map_some]

end Update

theorem count_eq_zero_iff (table : Table Row key) (selected : Row → Prop) [DecidablePred selected] :
    table.count selected = 0 ↔ ∀ row ∈ table.rows, ¬ selected row := by
  unfold count
  rw [List.countP_eq_zero]
  simp

theorem mem_select (table : Table Row key) (selected : Row → Prop) [DecidablePred selected] :
    row ∈ table.select selected ↔ row ∈ table.rows ∧ selected row := by
  unfold select
  rw [List.mem_filter, decide_eq_true_iff]

theorem map_update {Column : Type} (column : Row → Column)
    (table : Table Row key) {selected : Row → Prop}
    [DecidablePred selected] {change : Row → Row} (keeps : KeepsKey key change)
    (same : ∀ row, column (change row) = column row) :
    (table.update selected change keeps).rows.map column = table.rows.map column := by
  unfold update
  rw [List.map_map]
  apply List.map_congr_left
  intro row _
  rw [Function.comp_apply]
  split
  · exact same row
  · rfl

section Insert

variable (table : Table Row key) (make : Nat → Row)
  (named : MakesKey key make)

theorem rows_insert : (table.insert make named).rows = table.rows ++ [make table.nextId] := rfl

theorem mem_insert {row : Row} : row ∈ (table.insert make named).rows ↔
      row ∈ table.rows ∨ row = make table.nextId := by
  unfold insert
  rw [List.mem_append, List.mem_singleton]

end Insert

theorem rows_foldl_insert {Item : Type} (make : Item → Nat → Row)
    (named : ∀ item, MakesKey key (make item)) (items : List Item) (table : Table Row key) :
    ∃ added, (items.foldl (fun table item => table.insert (make item) (named item))
        table).rows = table.rows ++ added ∧
      List.Forall₂ (fun item row => ∃ id, row = make item id) items added := by
  induction items generalizing table with
  | nil => exact ⟨[], (List.append_nil _).symm, .nil⟩
  | cons item items ih =>
    obtain ⟨added, rows, made⟩ := ih (table.insert (make item) (named item))
    refine ⟨make item table.nextId :: added, ?_, .cons ⟨_, rfl⟩ made⟩
    rw [List.foldl_cons, rows, rows_insert, List.append_assoc]
    rfl

end Table
end Savor.Library

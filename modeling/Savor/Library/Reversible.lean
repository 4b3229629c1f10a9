import Mathlib.Algebra.GroupWithZero.Nat
import Mathlib.Data.FinEnum
import Mathlib.Data.List.GetD

/-!
# Reversible writes

A memory is a function of its addresses.  A write that keeps the cells it
replaced can be taken back.  Writes that overlap have to be taken back in
reverse order; a write that no later one overlaps can be taken back, or kept
for good, at any time.
-/

namespace Savor.Library

variable {α : Type}

/-- The cells from an address on. -/
def readCells (memory : Nat → α) (address count : Nat) : List α :=
  (List.range count).map fun offset => memory (address + offset)

/-- Put cells into the memory from an address on. -/
def writeCells (memory : Nat → α) (address : Nat) (cells : List α) : Nat → α :=
  fun place =>
    if address ≤ place then cells.getD (place - address) (memory place)
    else memory place

/-- Two ranges of cells do not meet. -/
def RangesApart (address count other otherCount : Nat) : Prop :=
  address + count ≤ other ∨ other + otherCount ≤ address

theorem RangesApart.symm {address count other otherCount : Nat}
    (apart : RangesApart address count other otherCount) :
    RangesApart other otherCount address count :=
  Or.symm apart

section Cells

variable {memory : Nat → α} {address other count : Nat} {cells : List α}

@[simp] theorem length_readCells : (readCells memory address count).length = count := by
  simp [readCells]

theorem writeCells_outside {place : Nat}
    (outside : place < address ∨ address + cells.length ≤ place) :
    writeCells memory address cells place = memory place := by
  unfold writeCells
  split
  · rename_i after
    have beyond : cells.length ≤ place - address := by omega
    rw [List.getD_eq_default _ _ beyond]
  · rfl

theorem writeCells_inside {offset : Nat} (inside : offset < cells.length) :
    writeCells memory address cells (address + offset) = cells[offset] := by
  unfold writeCells
  rw [if_pos (Nat.le_add_right _ _), Nat.add_sub_cancel_left, List.getD_eq_getElem _ _ inside]

theorem readCells_writeCells : readCells (writeCells memory address cells) address cells.length =
      cells := by
  apply List.ext_getElem
  · simp
  intro offset inRead inCells
  simp only [readCells, List.getElem_map, List.getElem_range]
  exact writeCells_inside inCells

/-- Writing what stands there changes nothing. -/
theorem writeCells_readCells :
    writeCells memory address (readCells memory address count) = memory := by
  funext place
  by_cases inside : address ≤ place ∧ place < address + count
  · obtain ⟨offset, rfl⟩ := Nat.exists_eq_add_of_le inside.1
    have bound : offset < (readCells memory address count).length := by
      rw [length_readCells]
      omega
    rw [writeCells_inside bound]
    simp [readCells]
  apply writeCells_outside
  rw [length_readCells]
  omega

/-- The last of two writes to a range stands. -/
theorem writeCells_writeCells {earlier : List α} (same : earlier.length = cells.length) :
    writeCells (writeCells memory address earlier) address cells =
      writeCells memory address cells := by
  funext place
  by_cases inside : address ≤ place ∧ place < address + cells.length
  · obtain ⟨offset, rfl⟩ := Nat.exists_eq_add_of_le inside.1
    have bound : offset < cells.length := by omega
    rw [writeCells_inside bound, writeCells_inside bound]
  have outside : place < address ∨ address + cells.length ≤ place := by omega
  rw [writeCells_outside outside, writeCells_outside outside,
    writeCells_outside (by rw [same]; exact outside)]

theorem readCells_writeCells_apart (apart : RangesApart other count address cells.length) :
    readCells (writeCells memory address cells) other count = readCells memory other count := by
  unfold readCells
  apply List.map_congr_left
  intro offset inside
  rw [List.mem_range] at inside
  unfold RangesApart at apart
  apply writeCells_outside
  omega

theorem writeCells_comm {others : List α}
    (apart : RangesApart address cells.length other others.length) :
    writeCells (writeCells memory address cells) other others =
      writeCells (writeCells memory other others) address cells := by
  funext place
  unfold RangesApart at apart
  by_cases inside : address ≤ place ∧ place < address + cells.length
  · have outside : place < other ∨ other + others.length ≤ place := by omega
    rw [writeCells_outside outside]
    obtain ⟨offset, rfl⟩ := Nat.exists_eq_add_of_le inside.1
    have bound : offset < cells.length := by omega
    rw [writeCells_inside bound, writeCells_inside bound]
  have outside : place < address ∨ address + cells.length ≤ place := by omega
  rw [writeCells_outside outside]
  by_cases within : other ≤ place ∧ place < other + others.length
  · obtain ⟨offset, rfl⟩ := Nat.exists_eq_add_of_le within.1
    have bound : offset < others.length := by omega
    rw [writeCells_inside bound, writeCells_inside bound]
  have without : place < other ∨ other + others.length ≤ place := by omega
  rw [writeCells_outside without, writeCells_outside without, writeCells_outside outside]

end Cells

/-- A write, with the cells that it replaced. -/
structure ReversibleWrite (α : Type) where
  address : Nat
  (saved stored : List α)
  sameLength : stored.length = saved.length

namespace ReversibleWrite

variable {memory : Nat → α} {write : ReversibleWrite α}
variable {later earlier writes : List (ReversibleWrite α)}

def size (write : ReversibleWrite α) : Nat := write.saved.length

/-- Take a write back. -/
def undo (write : ReversibleWrite α) (memory : Nat → α) : Nat → α :=
  writeCells memory write.address write.saved

/-- Take writes back, the first of the list first. -/
def undoAll : List (ReversibleWrite α) → (Nat → α) → (Nat → α)
  | [], memory => memory
  | write :: writes, memory => undoAll writes (write.undo memory)

/-- Every write still stands once the writes before it are taken back. -/
def Intact : List (ReversibleWrite α) → (Nat → α) → Prop
  | [], _ => True
  | write :: writes, memory =>
    readCells memory write.address write.size = write.stored ∧ Intact writes (write.undo memory)

/-- The writes go to ranges that do not meet. -/
def Apart (first second : ReversibleWrite α) : Prop :=
  RangesApart first.address first.size second.address second.size

theorem Apart.symm {first second : ReversibleWrite α}
    (apart : first.Apart second) : second.Apart first :=
  RangesApart.symm apart

theorem undo_comm {first second : ReversibleWrite α} (apart : first.Apart second) :
    first.undo (second.undo memory) = second.undo (first.undo memory) :=
  (writeCells_comm apart).symm

theorem read_undo {first second : ReversibleWrite α} (apart : first.Apart second) :
    readCells (second.undo memory) first.address first.size =
      readCells memory first.address first.size :=
  readCells_writeCells_apart apart

/-- Taking a write back right after it restores the memory. -/
theorem undo_write (replaced : write.saved = readCells memory write.address write.size) :
    write.undo (writeCells memory write.address write.stored) = memory := by
  unfold undo
  rw [writeCells_writeCells write.sameLength, replaced, writeCells_readCells]

theorem Intact.push (intact : Intact writes memory)
    (replaced : write.saved = readCells memory write.address write.size) : Intact (write :: writes)
      (writeCells memory write.address write.stored) := by
  refine ⟨?_, ?_⟩
  · have stands : readCells
        (writeCells memory write.address write.stored) write.address
          write.stored.length = write.stored :=
      readCells_writeCells
    rwa [write.sameLength] at stands
  · rw [undo_write replaced]
    exact intact

theorem Intact.stands (intact : Intact (later ++ write :: earlier) memory)
    (apart : ∀ other ∈ later, write.Apart other) :
    readCells memory write.address write.size = write.stored := by
  induction later generalizing memory with
  | nil => exact intact.1
  | cons first later ih =>
    have stands := ih intact.2 fun other member => apart other (List.mem_cons_of_mem _ member)
    rwa [read_undo (apart first List.mem_cons_self)] at stands

/-- Such a write can be taken back before the later ones. -/
theorem undoAll_undo (apart : ∀ other ∈ later, write.Apart other) :
    undoAll (later ++ earlier) (write.undo memory) =
      undoAll (later ++ write :: earlier) memory := by
  induction later generalizing memory with
  | nil => rfl
  | cons first later ih =>
    simp only [List.cons_append, undoAll]
    rw [← undo_comm (apart first List.mem_cons_self)]
    exact ih fun other member => apart other (List.mem_cons_of_mem _ member)

theorem Intact.takeBack (intact : Intact (later ++ write :: earlier) memory)
    (apart : ∀ other ∈ later, write.Apart other) :
    Intact (later ++ earlier) (write.undo memory) := by
  induction later generalizing memory with
  | nil => exact intact.2
  | cons first later ih =>
    have here := apart first List.mem_cons_self
    refine ⟨?_, ?_⟩
    · rw [read_undo here.symm]
      exact intact.1
    rw [← undo_comm here]
    exact ih intact.2 fun other member => apart other (List.mem_cons_of_mem _ member)

variable {address : Nat}

/-- A write to a range that none of the writes meets does not concern them. -/
theorem intact_write_iff {cells : List α} (apart : ∀ other ∈ writes,
      RangesApart other.address other.size address cells.length) :
    Intact writes (writeCells memory address cells) ↔ Intact writes memory := by
  induction writes generalizing memory with
  | nil => exact Iff.rfl
  | cons first writes ih =>
    have here := apart first List.mem_cons_self
    have rest := fun other member => apart other (List.mem_cons_of_mem _ member)
    unfold Intact
    rw [readCells_writeCells_apart here]
    have swapped : first.undo (writeCells memory address cells) =
        writeCells (first.undo memory) address cells :=
      writeCells_comm (RangesApart.symm here)
    rw [swapped, ih rest]

theorem undoAll_write {cells : List α} (apart : ∀ other ∈ writes,
      RangesApart other.address other.size address cells.length) :
    undoAll writes (writeCells memory address cells) =
      writeCells (undoAll writes memory) address cells := by
  induction writes generalizing memory with
  | nil => rfl
  | cons first writes ih =>
    have here := apart first List.mem_cons_self
    have swapped : first.undo (writeCells memory address cells) =
        writeCells (first.undo memory) address cells :=
      writeCells_comm (RangesApart.symm here)
    unfold undoAll
    rw [swapped]
    exact ih fun other member => apart other (List.mem_cons_of_mem _ member)

theorem readCells_undoAll {count : Nat} (apart : ∀ other ∈ writes,
      RangesApart address count other.address other.size) :
    readCells (undoAll writes memory) address count = readCells memory address count := by
  induction writes generalizing memory with
  | nil => rfl
  | cons first writes ih =>
    unfold undoAll
    rw [ih fun other member => apart other (List.mem_cons_of_mem _ member)]
    exact readCells_writeCells_apart (apart first List.mem_cons_self)

section

variable (intact : Intact (later ++ write :: earlier) memory)
variable (apart : ∀ other ∈ later ++ earlier, write.Apart other)
include intact apart

/-- A write that meets no other one can be kept: the others stay intact. -/
theorem Intact.keep : Intact (later ++ earlier) memory := by
  have takenBack := intact.takeBack fun other member => apart other (List.mem_append_left _ member)
  unfold undo at takenBack
  rwa [intact_write_iff fun other member => (apart other member).symm] at takenBack

/-- Taking back the others leaves the kept write over what was there before. -/
theorem Intact.undoAll_keep : undoAll (later ++ earlier) memory =
        writeCells (undoAll (later ++ write :: earlier) memory) write.address write.stored ∧
      readCells (undoAll (later ++ write :: earlier) memory)
        write.address write.size = write.saved := by
  have inLater : ∀ other ∈ later, write.Apart other :=
    fun other member => apart other (List.mem_append_left _ member)
  have stands := intact.stands inLater
  have whole : undoAll (later ++ write :: earlier) memory =
      write.undo (undoAll (later ++ earlier) memory) := by
    rw [← undoAll_undo inLater]
    exact undoAll_write fun other member => (apart other member).symm
  rw [whole]
  constructor
  · have unchanged : readCells (undoAll (later ++ earlier) memory)
        write.address write.size = readCells memory write.address write.size :=
      readCells_undoAll apart
    unfold undo
    rw [writeCells_writeCells write.sameLength.symm, ← stands, ← unchanged, writeCells_readCells]
  · exact readCells_writeCells

end

end ReversibleWrite
end Savor.Library

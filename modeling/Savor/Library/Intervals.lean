import Mathlib.Algebra.GroupWithZero.Nat
import Mathlib.Data.FinEnum

/-!
# Coalescing ranges

Ranges in the order of their starts are merged from left to right: a range that
starts inside the range merged so far is absorbed by it.  Nothing that was
covered by some range is lost.  Runs of equal neighbours are a special case that
keeps one of each.
-/

namespace Savor.Library
namespace Intervals

universe u v

variable {σ : Type u} {α : Type v} [LinearOrder α]

/-- Absorb the ranges that start inside the open one, then go on from the first
that does not. -/
def coalesceFrom (start stop : σ → α) (absorb : σ → σ → σ) : σ → List σ → List σ
  | existing, [] => [existing]
  | existing, next :: rest =>
    if stop existing < start next then
      existing :: coalesceFrom start stop absorb next rest
    else coalesceFrom start stop absorb (absorb existing next) rest

/-- Merge overlapping neighbours. -/
def coalesce (start stop : σ → α) (absorb : σ → σ → σ) : List σ → List σ
  | [] => []
  | first :: rest => coalesceFrom start stop absorb first rest

/-- What absorbing has to do: the absorbing range keeps its start, and it covers
both ranges when the other one starts inside it. -/
structure Absorbs (start stop : σ → α) (absorb : σ → σ → σ) (Covers : σ → σ → Prop) : Prop where
  refl : ∀ range, Covers range range
  trans : ∀ large middle small, Covers large middle → Covers middle small → Covers large small
  start_absorb : ∀ existing next, start (absorb existing next) = start existing
  existing : ∀ existing next, Covers (absorb existing next) existing
  next : ∀ existing next, start existing ≤ start next →
    start next ≤ stop existing → Covers (absorb existing next) next

namespace Absorbs

variable {start stop : σ → α} {absorb : σ → σ → σ} {Covers : σ → σ → Prop}

theorem ordered_absorb (absorbs : Absorbs start stop absorb Covers)
    {existing next : σ} {rest : List σ}
    (ordered : (existing :: next :: rest).Pairwise fun first second => start first ≤ start second) :
    (absorb existing next :: rest).Pairwise fun first second => start first ≤ start second := by
  rw [List.pairwise_cons] at ordered ⊢
  refine ⟨fun range member => ?_, ordered.2.of_cons⟩
  rw [absorbs.start_absorb]
  exact ordered.1 range (List.mem_cons_of_mem _ member)

theorem coalesceFrom_covers (absorbs : Absorbs start stop absorb Covers)
    {existing : σ} {ranges : List σ} (ordered : (existing :: ranges).Pairwise fun first second =>
      start first ≤ start second) :
    ∀ range ∈ existing :: ranges,
      ∃ merged ∈ coalesceFrom start stop absorb existing ranges, Covers merged range := by
  induction ranges generalizing existing with
  | nil =>
    intro range member
    rw [List.mem_singleton] at member
    subst member
    exact ⟨range, List.mem_singleton.mpr rfl, absorbs.refl range⟩
  | cons next rest ih =>
    obtain ⟨first, restOrdered⟩ := List.pairwise_cons.mp ordered
    unfold coalesceFrom
    split
    · intro range member
      rcases List.mem_cons.mp member with rfl | later
      · exact ⟨range, List.mem_cons_self, absorbs.refl range⟩
      · obtain ⟨merged, mergedMember, covers⟩ := ih restOrdered range later
        exact ⟨merged, List.mem_cons_of_mem _ mergedMember, covers⟩
    rename_i inside
    have covered := ih (absorbs.ordered_absorb ordered)
    have through {range : σ}
        (absorbed : Covers (absorb existing next) range) :
        ∃ merged ∈ coalesceFrom start stop absorb (absorb existing next) rest,
          Covers merged range := by
      obtain ⟨merged, mergedMember, covers⟩ := covered _ List.mem_cons_self
      exact ⟨merged, mergedMember, absorbs.trans _ _ _ covers absorbed⟩
    intro range member
    rcases List.mem_cons.mp member with rfl | later
    · exact through (absorbs.existing range next)
    rcases List.mem_cons.mp later with rfl | later
    · exact through (absorbs.next existing range
        (first range List.mem_cons_self) (not_lt.mp inside))
    · exact covered range (List.mem_cons_of_mem _ later)

theorem coalesce_covers (absorbs : Absorbs start stop absorb Covers) {ranges : List σ}
    (ordered : ranges.Pairwise fun first second => start first ≤ start second) :
    ∀ range ∈ ranges, ∃ merged ∈ coalesce start stop absorb ranges, Covers merged range := by
  cases ranges with
  | nil =>
    intro range member
    cases member
  | cons first rest => exact absorbs.coalesceFrom_covers ordered

theorem coalesceFrom_apart (absorbs : Absorbs start stop absorb Covers)
    {existing : σ} {ranges : List σ} (ordered : (existing :: ranges).Pairwise fun first second =>
      start first ≤ start second) :
    (coalesceFrom start stop absorb existing ranges).Pairwise
        (fun first second => stop first < start second) ∧
      ∀ merged ∈ coalesceFrom start stop absorb existing ranges, start existing ≤ start merged := by
  induction ranges generalizing existing with
  | nil => simp [coalesceFrom]
  | cons next rest ih =>
    obtain ⟨first, restOrdered⟩ := List.pairwise_cons.mp ordered
    unfold coalesceFrom
    split
    · rename_i apart
      obtain ⟨later, after⟩ := ih restOrdered
      refine ⟨List.pairwise_cons.mpr ⟨fun merged member =>
        apart.trans_le (after merged member), later⟩, ?_⟩
      intro merged member
      rcases List.mem_cons.mp member with rfl | member
      · exact le_rfl
      · exact (first next List.mem_cons_self).trans (after merged member)
    · have later := ih (absorbs.ordered_absorb ordered)
      rwa [absorbs.start_absorb] at later

theorem coalesce_apart (absorbs : Absorbs start stop absorb Covers) {ranges : List σ}
    (ordered : ranges.Pairwise fun first second => start first ≤ start second) :
    (coalesce start stop absorb ranges).Pairwise fun first second => stop first < start second := by
  cases ranges with
  | nil => exact .nil
  | cons first rest => exact (absorbs.coalesceFrom_apart ordered).1

theorem coalesceFrom_parts (absorbs : Absorbs start stop absorb Covers) {Part : σ → Prop}
    (parts : ∀ existing next, start existing ≤ start next →
      start next ≤ stop existing → Part (absorb existing next) → Part existing ∨ Part next)
    {existing : σ} {ranges : List σ} (ordered : (existing :: ranges).Pairwise fun first second =>
      start first ≤ start second) :
    ∀ merged ∈ coalesceFrom start stop absorb existing ranges, Part merged →
      ∃ range ∈ existing :: ranges, Part range := by
  induction ranges generalizing existing with
  | nil =>
    intro merged member part
    exact ⟨merged, member, part⟩
  | cons next rest ih =>
    obtain ⟨first, restOrdered⟩ := List.pairwise_cons.mp ordered
    unfold coalesceFrom
    intro merged member part
    split at member
    · rcases List.mem_cons.mp member with rfl | member
      · exact ⟨merged, List.mem_cons_self, part⟩
      · obtain ⟨range, there, own⟩ := ih restOrdered merged member part
        exact ⟨range, List.mem_cons_of_mem _ there, own⟩
    rename_i inside
    obtain ⟨range, there, own⟩ := ih (absorbs.ordered_absorb ordered) merged member part
    rcases List.mem_cons.mp there with rfl | there
    · rcases parts existing next (first next List.mem_cons_self)
        (not_lt.mp inside) own with own | own
      · exact ⟨existing, List.mem_cons_self, own⟩
      · exact ⟨next, by simp, own⟩
    · exact ⟨range, by simp [there], own⟩

theorem coalesce_parts (absorbs : Absorbs start stop absorb Covers) {Part : σ → Prop}
    (parts : ∀ existing next, start existing ≤ start next →
      start next ≤ stop existing → Part (absorb existing next) → Part existing ∨ Part next)
    {ranges : List σ} (ordered : ranges.Pairwise fun first second => start first ≤ start second) :
    ∀ merged ∈ coalesce start stop absorb ranges, Part merged → ∃ range ∈ ranges, Part range := by
  cases ranges with
  | nil => exact nofun
  | cons first rest => exact absorbs.coalesceFrom_parts parts ordered

end Absorbs

/-- `std::unique`: keep one of each run of equal neighbours. -/
def unique {κ : Type u} [DecidableEq κ] : List κ → List κ
  | first :: second :: rest =>
    if first = second then unique (second :: rest)
    else first :: unique (second :: rest)
  | list => list

/-- Removing repetitions loses no element. -/
theorem mem_unique {κ : Type u} [DecidableEq κ] {list : List κ} {element : κ} :
    element ∈ unique list ↔ element ∈ list := by
  induction list with
  | nil => exact Iff.rfl
  | cons first rest ih =>
    cases rest with
    | nil => exact Iff.rfl
    | cons second rest =>
      unfold unique
      split
      · rename_i same
        subst same
        rw [ih]
        simp
      · rw [List.mem_cons, ih, List.mem_cons (b := first)]

/-- In an ordered list without repetitions everything differs from what
follows. -/
theorem pairwise_unique {κ : Type u} [DecidableEq κ] {before : κ → κ → Prop}
    (antisymm : ∀ first second, before first second → before second first → first = second)
    {list : List κ} (ordered : list.Pairwise before) : (unique list).Pairwise fun first second =>
      before first second ∧ first ≠ second := by
  induction list with
  | nil => exact .nil
  | cons first rest ih =>
    obtain ⟨least, restOrdered⟩ := List.pairwise_cons.mp ordered
    cases rest with
    | nil => simp [unique]
    | cons second rest =>
      unfold unique
      split
      · exact ih restOrdered
      rename_i differs
      refine List.pairwise_cons.mpr ⟨fun other member => ?_, ih restOrdered⟩
      have after := mem_unique.mp member
      refine ⟨least other after, ?_⟩
      rintro rfl
      rcases List.mem_cons.mp after with same | later
      · exact differs same
      · exact differs (antisymm _ _ (least second List.mem_cons_self)
          ((List.pairwise_cons.mp restOrdered).1 _ later))

end Intervals
end Savor.Library

import Mathlib.Algebra.GroupWithZero.Nat
import Mathlib.Data.FinEnum
import Mathlib.Data.List.Nodup

/-!
# Sequence numbers

A source of 64-bit sequence numbers hands out 1, 2, 3 and so on, and keeps the
next one.  When all numbers are used up the next one is zero.
-/

namespace Savor.Library

/-- The numbers handed out so far are 1, 2, 3, ..., and `next` comes after
them. -/
structure Numbered (numbers : List UInt64) (next : UInt64) : Prop where
  counted : numbers.map UInt64.toNat = List.range' 1 numbers.length
  next : next = UInt64.ofNat (numbers.length + 1)

namespace Numbered

variable {numbers : List UInt64} {next : UInt64}

theorem nil : Numbered [] 1 := ⟨rfl, rfl⟩

section

variable (numbered : Numbered numbers next)
include numbered

theorem next_toNat (short : numbers.length + 1 < 2 ^ 64) : next.toNat = numbers.length + 1 := by
  rw [numbered.next, UInt64.toNat_ofNat_of_lt' short]

theorem snoc (short : numbers.length + 1 < 2 ^ 64) : Numbered (numbers ++ [next]) (next + 1) where
  counted := by
    rw [List.map_append, numbered.counted, List.map_singleton,
      numbered.next_toNat short, List.length_append, List.length_singleton,
      List.range'_concat, Nat.one_mul, Nat.add_comm 1]
  next := by
    rw [numbered.next, List.length_append, List.length_singleton,
      UInt64.ofNat_add (numbers.length + 1) 1]
    rfl

/-- Position by position, the numbers are 1, 2, 3 and so on. -/
theorem getElem_toNat {index : Nat} (inside : index < numbers.length) :
    numbers[index].toNat = index + 1 := by
  have same := congrArg (·[index]?) numbered.counted
  simp only [List.getElem?_map, List.getElem?_eq_getElem inside, Option.map_some,
    List.getElem?_range' inside, Option.some.injEq] at same
  omega

theorem short (left : next ≠ 0) : numbers.length + 1 < 2 ^ 64 := by
  have bounded : numbers.length < 2 ^ 64 := by
    rcases Nat.eq_zero_or_pos numbers.length with empty | some
    · omega
    have inside : numbers.length - 1 < numbers.length := by omega
    have last := numbered.getElem_toNat inside
    have small := numbers[numbers.length - 1].toNat_lt
    omega
  by_contra full
  apply left
  have exact : numbers.length + 1 = 2 ^ 64 := by omega
  rw [numbered.next, exact]
  rfl

/-- The numbers are no larger than their count. -/
theorem toNat_le {number : UInt64} (member : number ∈ numbers) : number.toNat ≤ numbers.length := by
  obtain ⟨index, inside, rfl⟩ := List.mem_iff_getElem.mp member
  have position := numbered.getElem_toNat inside
  omega

/-- Zero is never handed out. -/
theorem ne_zero {number : UInt64} (member : number ∈ numbers) : number ≠ 0 := by
  obtain ⟨index, inside, rfl⟩ := List.mem_iff_getElem.mp member
  intro zero
  have position := numbered.getElem_toNat inside
  rw [zero, UInt64.toNat_zero] at position
  omega

/-- The source is not exhausted before the last number. -/
theorem next_ne_zero (short : numbers.length + 1 < 2 ^ 64) : next ≠ 0 := by
  intro zero
  have number := numbered.next_toNat short
  rw [zero, UInt64.toNat_zero] at number
  omega

/-- No number is handed out twice. -/
theorem nodup : numbers.Nodup := by
  apply List.Nodup.of_map UInt64.toNat
  rw [numbered.counted]
  exact List.nodup_range'

theorem fresh (left : next ≠ 0) : next ∉ numbers := by
  have distinct := (numbered.snoc (numbered.short left)).nodup
  rw [List.nodup_append] at distinct
  intro member
  exact distinct.2.2 next member next (List.mem_singleton.mpr rfl) rfl

end

end Numbered

/-!
## Lists with a key

Lookups by key in a list of elements with pairwise different keys.  Such a list
is a map: what a lookup finds does not depend on the order of the list.
-/

namespace Keyed

variable {α κ : Type} [DecidableEq κ] {key : α → κ} {list other : List α}

/-- The first element with a key. -/
def lookup (key : α → κ) (list : List α) (name : κ) : Option α :=
  list.find? fun element => key element = name

variable {element : α} {name : κ}

theorem mem_of_lookup (found : lookup key list name = some element) : element ∈ list :=
  List.mem_of_find?_eq_some found

theorem key_of_lookup (found : lookup key list name = some element) : key element = name := by
  have holds := List.find?_some found
  exact of_decide_eq_true holds

theorem lookup_key (distinct : (list.map key).Nodup) (member : element ∈ list) :
    lookup key list (key element) = some element := by
  cases found : lookup key list (key element) with
  | none =>
    have absent := List.find?_eq_none.mp found element member
    simp at absent
  | some first =>
    rw [List.inj_on_of_nodup_map distinct (mem_of_lookup found) member (key_of_lookup found)]

theorem lookup_eq_some_iff (distinct : (list.map key).Nodup) : lookup key list name = some element ↔
      element ∈ list ∧ key element = name := by
  constructor
  · intro found
    exact ⟨mem_of_lookup found, key_of_lookup found⟩
  · rintro ⟨member, rfl⟩
    exact lookup_key distinct member

/-- A lookup does not depend on the order. -/
theorem lookup_perm (distinct : (list.map key).Nodup) (permutes : other.Perm list) (name : κ) :
    lookup key other name = lookup key list name := by
  have distinct' : (other.map key).Nodup := (permutes.map key).nodup_iff.mpr distinct
  apply Option.ext
  intro element
  rw [lookup_eq_some_iff distinct', lookup_eq_some_iff distinct, permutes.mem_iff]

theorem lookup_map (change : α → α) (keeps : ∀ element, key (change element) =
    key element) (name : κ) :
    lookup key (list.map change) name = (lookup key list name).map change := by
  unfold lookup
  rw [List.find?_map]
  congr 2
  funext element
  simp [keeps]

/-- Change the first element with a key. -/
def update (key : α → κ) (name : κ) (change : α → α) : List α → List α
  | [] => []
  | element :: rest =>
    if key element = name then change element :: rest
    else element :: update key name change rest

theorem update_eq_map (distinct : (list.map key).Nodup) (name : κ) (change : α → α) :
    update key name change list =
      list.map fun element => if key element = name then change element else element := by
  induction list with
  | nil => rfl
  | cons head rest ih =>
    rw [List.map_cons, List.nodup_cons] at distinct
    rw [update, List.map_cons]
    split
    · rename_i here
      congr 1
      have unchanged : rest.map (fun element =>
          if key element = name then change element else element) = rest.map id := by
        apply List.map_congr_left
        intro element member
        rw [if_neg, id]
        intro same
        exact distinct.1 (List.mem_map.mpr ⟨element, member, same.trans here.symm⟩)
      rw [unchanged, List.map_id]
    · rw [ih distinct.2]

/-- Remove the first element with a key. -/
def remove (key : α → κ) (name : κ) (list : List α) : List α :=
  list.eraseP fun element => key element = name

/-- A lookup splits the list at the element it finds, which is the one that an
update changes and a removal takes out. -/
theorem lookup_split (found : lookup key list name = some element) :
    ∃ before after, list = before ++ element :: after ∧
      key element = name ∧ (∀ earlier ∈ before, key earlier ≠ name) ∧
      (∀ change, update key name change list = before ++ change element :: after) ∧
      remove key name list = before ++ after := by
  induction list with
  | nil => cases found
  | cons head rest ih =>
    by_cases here : key head = name
    · have same : head = element := by
        simpa [lookup, here] using found
      subst same
      refine ⟨[], rest, rfl, here, by simp, ?_, ?_⟩
      · intro change
        simp [update, here]
      · simp [remove, here]
    have found' : lookup key rest name = some element := by simpa [lookup, here] using found
    obtain ⟨before, after, split, named, earlier, updated, removed⟩ := ih found'
    refine ⟨head :: before, after, by rw [split]; rfl, named, ?_, ?_, ?_⟩
    · intro other member
      rcases List.mem_cons.mp member with rfl | member
      · exact here
      · exact earlier other member
    · intro change
      simp [update, here, updated]
    have removed' : rest.eraseP (fun element => key element = name) = before ++ after := removed
    simp [remove, here, removed']

end Keyed
end Savor.Library

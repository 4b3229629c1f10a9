import Mathlib.Algebra.GroupWithZero.Nat
import Mathlib.Data.FinEnum
import Mathlib.Data.List.Pairwise
import Mathlib.Data.List.Sort

/-!
# Unstable sorting

A sort is known by its contract only: it permutes its input and leaves it in
order.  Elements that compare equal may come out in any order, so what a sort
returns is determined by the elements exactly where no two different ones
compare equal.
-/

namespace Savor.Library

/-- A sorting function of which only the contract is known. -/
structure UnstableSort where
  sort : {α : Type} → (α → α → Ordering) → List α → List α
  perm : ∀ {α : Type} (compare : α → α → Ordering) (list : List α), (sort compare list).Perm list
  ordered : ∀ {α : Type} (compare : α → α → Ordering) [Std.TransCmp compare]
    (list : List α),
    (sort compare list).Pairwise fun first second => compare first second ≠ .gt

/-- No two different elements compare equal. -/
def Unambiguous {α : Type} (compare : α → α → Ordering) (list : List α) : Prop :=
  ∀ first ∈ list, ∀ second ∈ list, compare first second = .eq → first = second

theorem compareOn_eq_iff {α κ : Type} [Ord κ] [Std.LawfulEqOrd κ] {key : α → κ} {first second : α} :
    compareOn key first second = .eq ↔ key first = key second :=
  Std.LawfulEqOrd.compare_eq_iff_eq

/-- Comparing by a key, the largest first. -/
def descendingOn {α κ : Type} [Ord κ] (key : α → κ) (first second : α) : Ordering :=
  compareOn key second first

instance {α κ : Type} [Ord κ] [Std.TransOrd κ] {key : α → κ} : Std.TransCmp (descendingOn key) :=
  @Std.TransCmp.opposite α (compareOn key) inferInstance

/-- Two neighbours of the list have the same key. -/
def hasAdjacent {α κ : Type} [DecidableEq κ] (key : α → κ) : List α → Bool
  | first :: second :: rest => decide (key first = key second) || hasAdjacent key (second :: rest)
  | _ => false

namespace Unambiguous

variable {α : Type} {compare : α → α → Ordering} {left right : List α}

theorem perm (unambiguous : Unambiguous compare left) (permutes : right.Perm left) :
    Unambiguous compare right := by
  intro first firstMember second secondMember equal
  exact unambiguous first (permutes.mem_iff.mp firstMember) second
    (permutes.mem_iff.mp secondMember) equal

theorem of_nodup {κ : Type} (key : α → κ)
    (keys : ∀ first second, compare first second = .eq → key first = key second)
    (distinct : (left.map key).Nodup) : Unambiguous compare left := by
  intro first firstMember second secondMember equal
  exact List.inj_on_of_nodup_map distinct firstMember secondMember (keys _ _ equal)

theorem of_hasAdjacent {κ : Type} [Ord κ] [Std.TransOrd κ] [Std.LawfulEqOrd κ]
    [DecidableEq κ] {key : α → κ} {list : List α} (ordered : list.Pairwise fun first second =>
      compareOn key first second ≠ .gt) (separate : hasAdjacent key list = false) :
    Unambiguous (compareOn key) list := by
  have increasing : list.Pairwise fun first second =>
      compareOn key first second = .lt := by
    have transitive : IsTrans α fun first second =>
        compareOn key first second = .lt :=
      ⟨fun _ _ _ forward onward => Std.TransCmp.lt_trans forward onward⟩
    rw [← List.isChain_iff_pairwise]
    induction list with
    | nil => exact .nil
    | cons first rest ih =>
      cases rest with
      | nil => exact .singleton _
      | cons second rest =>
        rw [hasAdjacent, Bool.or_eq_false_iff, decide_eq_false_iff_not] at separate
        have chain := ih ordered.of_cons separate.2
        refine .cons_cons ?_ chain
        have notGreater := (List.pairwise_cons.mp ordered).1 second List.mem_cons_self
        have notEqual := mt compareOn_eq_iff.mp separate.1
        cases compared : compareOn key first second with
        | lt => rfl
        | eq => exact absurd compared notEqual
        | gt => exact absurd compared notGreater
  have symmetric : Std.Symm fun first second =>
      compareOn key first second = .eq → first = second :=
    ⟨fun _ _ alike equal => (alike (Std.OrientedCmp.eq_symm equal)).symm⟩
  have alike : list.Pairwise fun first second =>
      compareOn key first second = .eq → first = second := by
    refine increasing.imp fun {first second} less equal => ?_
    rw [less] at equal
    cases equal
  intro first firstMember second secondMember
  exact alike.forall_of_forall (fun _ _ _ => rfl) firstMember secondMember

end Unambiguous

/-- The elements of a list, each changed as the relation allows, in any order. -/
def Reordered {α : Type} (change : α → α → Prop) (left right : List α) : Prop :=
  ∃ middle, List.Forall₂ change left middle ∧ right.Perm middle

namespace UnstableSort

variable {α : Type} {compare : α → α → Ordering} {left right : List α}
variable {change : α → α}

/-- Two ordered lists of the same unambiguous elements are equal. -/
theorem eq_of_ordered [Std.TransCmp compare] (unambiguous : Unambiguous compare left)
    (leftOrdered : left.Pairwise fun first second => compare first second ≠ .gt)
    (rightOrdered : right.Pairwise fun first second => compare first second ≠ .gt)
    (permutes : left.Perm right) :
    left = right := by
  refine List.Perm.eq_of_pairwise ?_ leftOrdered rightOrdered permutes
  intro first second firstMember secondMember forward backward
  apply unambiguous first firstMember second (permutes.mem_iff.mpr secondMember)
  have oriented : compare first second = (compare second first).swap := Std.OrientedCmp.eq_swap
  cases compared : compare first second with
  | eq => rfl
  | gt => exact absurd compared forward
  | lt =>
    rw [compared] at oriented
    cases swapped : compare second first with
    | gt => exact absurd swapped backward
    | lt | eq => simp [swapped] at oriented

variable (sorting : UnstableSort)

/-- The order of the input does not matter to an unambiguous list. -/
theorem sort_eq_of_perm [Std.TransCmp compare]
    (unambiguous : Unambiguous compare left) (permutes : right.Perm left) :
    sorting.sort compare right = sorting.sort compare left := by
  have rightSorted := sorting.perm compare right
  have leftSorted := sorting.perm compare left
  exact eq_of_ordered (unambiguous.perm (rightSorted.trans permutes))
    (sorting.ordered compare right) (sorting.ordered compare left)
    (rightSorted.trans (permutes.trans leftSorted.symm))

theorem sort_eq_self [Std.TransCmp compare] (unambiguous : Unambiguous compare left)
    (leftOrdered : left.Pairwise fun first second => compare first second ≠ .gt) :
    sorting.sort compare left = left :=
  eq_of_ordered (unambiguous.perm (sorting.perm compare left))
    (sorting.ordered compare left) leftOrdered (sorting.perm compare left)

section

variable
    (unambiguous : Unambiguous compare (left.map change))
    (keeps : ∀ first second, compare (change first) (change second) = compare first second)
include unambiguous keeps

/-- Sorting an unambiguous list again changes nothing, also after a change of
its elements that keeps their order. -/
theorem sort_map_sort [Std.TransCmp compare] :
    sorting.sort compare ((sorting.sort compare left).map change) =
      (sorting.sort compare left).map change := by
  refine sorting.sort_eq_self (unambiguous.perm ((sorting.perm compare left).map change)) ?_
  rw [List.pairwise_map]
  refine (sorting.ordered compare left).imp fun {first second} ordered => ?_
  rw [keeps]
  exact ordered

/-- The elements determine a sorted list up to a change that keeps their order
and removes what their order does not. -/
theorem sort_map_eq [Std.TransCmp compare] (permutes : (right.map change).Perm (left.map change)) :
    (sorting.sort compare right).map change = (sorting.sort compare left).map change := by
  have leftSorted := (sorting.perm compare left).map change
  have rightSorted := (sorting.perm compare right).map change
  have ordered : ∀ list, ((sorting.sort compare list).map change).Pairwise
      fun first second => compare first second ≠ .gt := by
    intro list
    rw [List.pairwise_map]
    refine (sorting.ordered compare list).imp fun {first second} ordered => ?_
    rw [keeps]
    exact ordered
  exact eq_of_ordered (unambiguous.perm (rightSorted.trans permutes)) (ordered right) (ordered left)
    (rightSorted.trans (permutes.trans leftSorted.symm))

end

theorem sort_eq_sort (other : UnstableSort) [Std.TransCmp compare]
    (unambiguous : Unambiguous compare left) :
    sorting.sort compare left = other.sort compare left :=
  eq_of_ordered (unambiguous.perm (sorting.perm compare left))
    (sorting.ordered compare left) (other.ordered compare left)
    ((sorting.perm compare left).trans (other.perm compare left).symm)

theorem mem_sort {element : α} : element ∈ sorting.sort compare left ↔ element ∈ left :=
  (sorting.perm compare left).mem_iff

theorem reordered_sort {related : α → α → Prop}
    (relates : ∀ element, related element (change element)) :
    Reordered related left ((sorting.sort compare left).map change) := by
  refine ⟨left.map change, ?_, (sorting.perm compare left).map change⟩
  rw [List.forall₂_map_right_iff]
  exact List.forall₂_same.mpr fun element _ => relates element

/-- Insertion sort meets the contract, and is stable. -/
def insertion : UnstableSort where
  sort compare := List.insertionSort fun first second => compare first second ≠ .gt
  perm compare list := List.perm_insertionSort _ list
  ordered compare _ list := by
    have total : Std.Total fun first second => compare first second ≠ .gt := by
      constructor
      intro first second
      have oriented : compare first second = (compare second first).swap := Std.OrientedCmp.eq_swap
      cases compared : compare first second <;> cases swapped : compare second first <;> simp_all
    have transitive : IsTrans _ fun first second =>
        compare first second ≠ .gt := by
      constructor
      intro first second third forward onward
      exact Ordering.ne_gt_iff_isLE.mpr
        (Std.TransCmp.isLE_trans (Ordering.ne_gt_iff_isLE.mp forward)
          (Ordering.ne_gt_iff_isLE.mp onward))
    exact List.pairwise_insertionSort _ list

/-- A list with two elements exchanged. -/
def exchange (first second : Nat) (list : List α) : List α :=
  match list[first]?, list[second]? with
  | some left, some right => (list.set first right).set second left
  | _, _ => list

theorem exchange_perm (first second : Nat) (list : List α) :
    (exchange first second list).Perm list := by
  unfold exchange
  split
  · rename_i left right leftAt rightAt
    obtain ⟨leftInside, rfl⟩ := List.getElem?_eq_some_iff.mp leftAt
    obtain ⟨rightInside, rfl⟩ := List.getElem?_eq_some_iff.mp rightAt
    exact List.set_set_perm leftInside rightInside
  · exact List.Perm.refl _

/-- Whether the elements at two positions compare equal. -/
def comparesEqual (compare : α → α → Ordering) (first second : Nat) (list : List α) : Bool :=
  match list[first]?, list[second]? with
  | some left, some right => compare left right == .eq
  | _, _ => false

theorem exchange_ordered [Std.TransCmp compare] {first second : Nat}
    {list : List α} (equal : comparesEqual compare first second list = true)
    (ordered : list.Pairwise fun left right => compare left right ≠ .gt) :
    (exchange first second list).Pairwise fun left right => compare left right ≠ .gt := by
  unfold comparesEqual at equal
  unfold exchange
  split at equal
  · rename_i left right leftAt rightAt
    rw [beq_iff_eq] at equal
    obtain ⟨leftInside, rfl⟩ := List.getElem?_eq_some_iff.mp leftAt
    obtain ⟨rightInside, rfl⟩ := List.getElem?_eq_some_iff.mp rightAt
    have backward : compare list[second] list[first] = .eq := Std.OrientedCmp.eq_symm equal
    have alike : ∀ position
        (inside : position < ((list.set first list[second]).set second list[first]).length)
        (inside' : position < list.length),
        compare (((list.set first list[second]).set second
          list[first])[position]) list[position] = .eq := by
      intro position inside inside'
      rw [List.getElem_set, List.getElem_set]
      split
      · subst second
        exact equal
      split
      · subst first
        exact backward
      · exact Std.ReflCmp.compare_self
    rw [List.pairwise_iff_getElem] at ordered ⊢
    intro earlier later earlierInside laterInside before
    have earlierInside' : earlier < list.length := by simpa using earlierInside
    have laterInside' : later < list.length := by simpa using laterInside
    rw [Std.TransCmp.congr_left (alike earlier earlierInside earlierInside'),
      Std.TransCmp.congr_right (alike later laterInside laterInside')]
    exact ordered earlier later earlierInside' laterInside' before
  · cases equal

/-- The stable sort followed by an exchange of the elements at two positions
where they compare equal.  It meets the contract as well. -/
def exchanging (first second : Nat) : UnstableSort where
  sort compare list :=
    let sorted := insertion.sort compare list
    if comparesEqual compare first second sorted then
      exchange first second sorted
    else sorted
  perm compare list := by
    dsimp only
    split
    · exact (exchange_perm _ _ _).trans (insertion.perm compare list)
    · exact insertion.perm compare list
  ordered compare _ list := by
    dsimp only
    split
    · rename_i equal
      exact exchange_ordered equal (insertion.ordered compare list)
    · exact insertion.ordered compare list

theorem getElem?_exchange {first second : Nat} {list : List α} {left right : α}
    (leftAt : list[first]? = some left) (rightAt : list[second]? = some right) :
    (exchange first second list)[first]? = some right ∧
      (exchange first second list)[second]? = some left := by
  obtain ⟨leftInside, leftSame⟩ := List.getElem?_eq_some_iff.mp leftAt
  obtain ⟨rightInside, rightSame⟩ := List.getElem?_eq_some_iff.mp rightAt
  unfold exchange
  rw [leftAt, rightAt]
  simp only [List.getElem?_set, List.length_set, if_true]
  constructor
  · by_cases same : second = first
    · subst same
      rw [if_pos rfl, if_pos leftInside, ← leftSame, rightSame]
    · rw [if_neg same, if_pos leftInside]
  · rw [if_pos rightInside]

/-- What one pass of a quicksort makes of elements that compare equal: the
middle one is taken as the pivot and changes places with the first, and the
partition exchanges the others end for end. -/
def partitionEqual (list : List α) : List α :=
  match exchange 0 (list.length / 2) list with
  | [] => []
  | pivot :: rest => pivot :: rest.reverse

theorem partitionEqual_perm (list : List α) : (partitionEqual list).Perm list := by
  have permutes := exchange_perm 0 (list.length / 2) list
  unfold partitionEqual
  cases exchanged : exchange 0 (list.length / 2) list <;> rw [exchanged] at permutes
  · exact permutes
  · exact ((List.reverse_perm _).cons _).trans permutes

/-- A quicksort that leaves up to sixteen elements to an insertion sort, and so
splits up to thirty-two that compare equal once.  Elsewhere it is stable. -/
def quick : UnstableSort where
  sort compare list :=
    let sorted := insertion.sort compare list
    if 16 < list.length ∧ list.length ≤ 32 ∧
        sorted.all fun first => sorted.all fun second => compare first second == .eq then
      partitionEqual sorted
    else sorted
  perm compare list := by
    dsimp only
    split
    · exact (partitionEqual_perm _).trans (insertion.perm compare list)
    · exact insertion.perm compare list
  ordered compare _ list := by
    dsimp only
    split
    · rename_i equal
      simp only [List.all_eq_true, beq_iff_eq] at equal
      refine List.pairwise_iff_forall_sublist.mpr fun {first second} sub => ?_
      have member := fun element (inside : element ∈ [first, second]) =>
        (partitionEqual_perm _).mem_iff.mp (sub.subset inside)
      rw [equal.2.2 first (member first (by simp)) second (member second (by simp))]
      decide
    · exact insertion.ordered compare list

/-- Some sort that meets the contract leaves an ambiguous list in another order
when it sorts it again. -/
theorem exists_unstable [Std.TransCmp compare] (ambiguous : ¬Unambiguous compare left) :
    ∃ sorting : UnstableSort,
      sorting.sort compare (sorting.sort compare left) ≠ sorting.sort compare left := by
  unfold Unambiguous at ambiguous
  push Not at ambiguous
  obtain ⟨one, oneMember, other, otherMember, equal, different⟩ := ambiguous
  obtain ⟨first, firstAt⟩ := List.getElem?_of_mem
    (insertion.mem_sort.mpr oneMember : one ∈ insertion.sort compare left)
  obtain ⟨second, secondAt⟩ := List.getElem?_of_mem
    (insertion.mem_sort.mpr otherMember : other ∈ insertion.sort compare left)
  have sortOf : ∀ list : List α, ∀ here there : α,
      (insertion.sort compare list)[first]? = some here →
      (insertion.sort compare list)[second]? = some there →
      compare here there = .eq →
      (exchanging first second).sort compare list =
        exchange first second (insertion.sort compare list) := by
    intro list here there hereAt thereAt alike
    have compares : comparesEqual compare first second
        (insertion.sort compare list) = true := by
      unfold comparesEqual
      rw [hereAt, thereAt]
      exact beq_iff_eq.mpr alike
    unfold exchanging
    simp only
    rw [if_pos compares]
  have once := sortOf left one other firstAt secondAt equal
  have exchanged := getElem?_exchange firstAt secondAt
  rw [← once] at exchanged
  have stable : insertion.sort compare
      ((exchanging first second).sort compare left) =
        (exchanging first second).sort compare left :=
    List.Pairwise.insertionSort_eq ((exchanging first second).ordered compare left)
  have twice := sortOf ((exchanging first second).sort compare left) other one
    (by rw [stable]; exact exchanged.1) (by rw [stable]; exact exchanged.2)
    (Std.OrientedCmp.eq_symm equal)
  refine ⟨exchanging first second, fun same => ?_⟩
  rw [stable] at twice
  have back := (getElem?_exchange exchanged.1 exchanged.2).1
  rw [← twice, same, exchanged.1] at back
  exact different (Option.some.inj back).symm

end UnstableSort

end Savor.Library

import Mathlib.Algebra.GroupWithZero.Nat
import Mathlib.Data.FinEnum
import Mathlib.Data.List.Forall2

/-!
# Loops that stop and passes that report

Two ways in which a loop checks its items: it stops at the first error, or it
reports issues and goes on.  A fact about the rounds of such a loop is a fact
about the whole loop when the loop does not stop, or reports nothing.
-/

namespace Savor.Library

variable {Item State Issue Value : Type}

/-- A computation that goes on after another one has not stopped before. -/
theorem exists_of_bind_ok {first : Except Issue State}
    {next : State → Except Issue Value} {value : Value} (ended : (first >>= next) = .ok value) :
    ∃ state, first = .ok state ∧ next state = .ok value := by
  cases first with
  | error issue => cases ended
  | ok state => exact ⟨state, rfl, ended⟩

variable {items : List Item} {values : List Value}

theorem forall₂_of_mapM_ok {compute : Item → Except Issue Value}
    (ended : items.mapM compute = .ok values) :
    List.Forall₂ (fun item value => compute item = .ok value) items values := by
  induction items generalizing values with
  | nil =>
    cases ended
    exact .nil
  | cons item items ih =>
    rw [List.mapM_cons] at ended
    obtain ⟨value, computed, rest⟩ := exists_of_bind_ok ended
    obtain ⟨others, mapped, same⟩ := exists_of_bind_ok rest
    cases same
    exact .cons computed (ih mapped)

variable {related : Item → Value → Prop}

theorem exists_right_of_forall₂ (allRelated : List.Forall₂ related items values) :
    ∀ item ∈ items, ∃ value ∈ values, related item value := by
  induction allRelated with
  | nil => exact fun _ member => absurd member List.not_mem_nil
  | cons here _ ih =>
    intro item member
    rcases List.mem_cons.mp member with rfl | later
    · exact ⟨_, List.mem_cons_self, here⟩
    · obtain ⟨value, inside, holds⟩ := ih item later
      exact ⟨value, List.mem_cons_of_mem _ inside, holds⟩

theorem exists_left_of_forall₂ (allRelated : List.Forall₂ related items values) :
    ∀ value ∈ values, ∃ item ∈ items, related item value :=
  exists_right_of_forall₂ allRelated.flip

theorem map_eq_of_forall₂ {Column : Type} (left : Item → Column) (right : Value → Column)
    (same : ∀ item value, related item value → left item = right value)
    (allRelated : List.Forall₂ related items values) : items.map left = values.map right := by
  induction allRelated with
  | nil => rfl
  | cons here _ ih => rw [List.map_cons, List.map_cons, same _ _ here, ih]

section Stopping

variable {step : State → Item → Except Issue State}
variable {state final : State}

/-- A loop that stops at the first error starts with its first round. -/
theorem foldlM_cons_ok {item : Item} (ended : (item :: items).foldlM step state = .ok final) :
    ∃ next, step state item = .ok next ∧ items.foldlM step next = .ok final := by
  rw [List.foldlM_cons] at ended
  cases stepped : step state item with
  | error issue =>
    rw [stepped] at ended
    cases ended
  | ok next =>
    rw [stepped] at ended
    exact ⟨next, rfl, ended⟩

/-- What every round of a loop carries on holds after the loop. -/
theorem foldlM_induction_from (holds : List Item → State → Prop) {done : List Item}
    (round : ∀ done, ∀ item ∈ items, ∀ state next, holds done state →
      step state item = .ok next → holds (done ++ [item]) next)
    (start : holds done state) (ended : items.foldlM step state = .ok final) :
    holds (done ++ items) final := by
  induction items generalizing done state with
  | nil =>
    cases ended
    simpa using start
  | cons item items ih =>
    obtain ⟨next, stepped, rest⟩ := foldlM_cons_ok ended
    have continued := ih
      (fun done other member => round done other (List.mem_cons_of_mem _ member))
      (round done item List.mem_cons_self state next start stepped) rest
    simpa using continued

theorem foldlM_induction (holds : List Item → State → Prop)
    (round : ∀ done, ∀ item ∈ items, ∀ state next, holds done state →
      step state item = .ok next → holds (done ++ [item]) next)
    (start : holds [] state) (ended : items.foldlM step state = .ok final) : holds items final :=
  foldlM_induction_from holds round start ended

theorem foldlM_invariant {holds : State → Prop}
    (ended : items.foldlM step state = .ok final) (start : holds state)
    (round : ∀ item state next, holds state → step state item = .ok next → holds next) :
    holds final :=
  foldlM_induction (fun _ => holds) (fun _ item _ => round item) start ended

/-- Loops whose rounds agree on the items agree. -/
theorem foldlM_congr {other : State → Item → Except Issue State}
    (same : ∀ item ∈ items, ∀ state, step state item = other state item) :
    items.foldlM step state = items.foldlM other state := by
  induction items generalizing state with
  | nil => rfl
  | cons item items ih =>
    rw [List.foldlM_cons, List.foldlM_cons, same item List.mem_cons_self]
    cases other state item with
    | error issue => rfl
    | ok next => exact ih fun later member => same later (List.mem_cons_of_mem _ member)

theorem mapM_congr {Value : Type} {compute other : Item → Except Issue Value}
    (same : ∀ item ∈ items, compute item = other item) : items.mapM compute = items.mapM other := by
  induction items with
  | nil => rfl
  | cons item items ih =>
    rw [List.mapM_cons, List.mapM_cons, same item List.mem_cons_self,
      ih fun later member => same later (List.mem_cons_of_mem _ member)]

end Stopping

/-- A pass over items that keeps a state and reports issues. -/
def pass (round : State → Item → List Issue × State) : List Item → State → List Issue × State
  | [], state => ([], state)
  | item :: items, state =>
    ((round state item).1 ++ (pass round items (round state item).2).1,
      (pass round items (round state item).2).2)

section Reporting

variable {round : State → Item → List Issue × State}
variable {state : State}

/-- What every silent round of a pass carries on holds after a pass that
reports nothing. -/
theorem pass_induction_from (holds : List Item → State → Prop) {done : List Item}
    (carries : ∀ done, ∀ item ∈ items, ∀ state, holds done state →
      (round state item).1 = [] → holds (done ++ [item]) (round state item).2)
    (start : holds done state) (silent : (pass round items state).1 = []) :
    holds (done ++ items) (pass round items state).2 := by
  induction items generalizing done state with
  | nil =>
    rw [pass, List.append_nil]
    exact start
  | cons item items ih =>
    obtain ⟨here, later⟩ := List.append_eq_nil_iff.mp silent
    have continued := ih
      (fun done other member => carries done other (List.mem_cons_of_mem _ member))
      (carries done item List.mem_cons_self state start here) later
    rw [List.append_cons]
    exact continued

/-- What every silent round carries on from the start holds after a pass that
reports nothing. -/
theorem pass_induction (holds : List Item → State → Prop)
    (carries : ∀ done, ∀ item ∈ items, ∀ state, holds done state →
      (round state item).1 = [] → holds (done ++ [item]) (round state item).2)
    (start : holds [] state) (silent : (pass round items state).1 = []) :
    holds items (pass round items state).2 :=
  pass_induction_from holds carries start silent

/-- Passes whose rounds agree on the items agree. -/
theorem pass_congr {other : State → Item → List Issue × State}
    (same : ∀ item ∈ items, ∀ state, round state item = other state item) :
    pass round items state = pass other items state := by
  induction items generalizing state with
  | nil => rfl
  | cons item items ih =>
    rw [pass, pass, same item List.mem_cons_self, ih
      fun later member => same later (List.mem_cons_of_mem _ member)]

end Reporting

end Savor.Library

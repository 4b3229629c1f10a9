import Mathlib.Algebra.GroupWithZero.Nat
import Mathlib.Data.FinEnum
import Mathlib.Logic.Relation
import Mathlib.Data.Set.Finite.List

/-!
# Subtrees

A forest given by the links from children to their parents.  New leaves do not
change the subtrees of the nodes that are there.
-/

namespace Savor.Library
namespace Ancestry

variable {κ : Type} {links : List (κ × κ)} {inner middle outer : κ}

/-- `inner` lies in the subtree of `outer`. -/
def Within (links : List (κ × κ)) : κ → κ → Prop :=
  Relation.ReflTransGen fun child parent => (child, parent) ∈ links

theorem Within.refl : Within links inner inner := Relation.ReflTransGen.refl

theorem Within.trans (lower : Within links inner middle) (upper : Within links middle outer) :
    Within links inner outer :=
  Relation.ReflTransGen.trans lower upper

theorem Within.head {parent : κ} (link : (inner, parent) ∈ links)
    (upper : Within links parent outer) : Within links inner outer :=
  Relation.ReflTransGen.head link upper

/-- A node of a subtree is its root, or its parent is in the subtree. -/
theorem Within.cases (within : Within links inner outer) : inner = outer ∨
      ∃ parent, (inner, parent) ∈ links ∧ Within links parent outer :=
  Relation.ReflTransGen.cases_head within

theorem Within.inherit (within : Within links inner outer) (property : κ → Prop)
    (inherits : ∀ child parent, (child, parent) ∈ links → property child → property parent)
    (holds : property inner) : property outer := by
  induction within with
  | refl => exact holds
  | tail _ link ih => exact inherits _ _ link ih

/-- A new leaf is in no subtree of the nodes that are there. -/
theorem within_append_leaf {leaf parent : κ}
    (unlinked : ∀ child, (child, leaf) ∉ links) (different : inner ≠ leaf) :
    Within (links ++ [(leaf, parent)]) inner outer ↔ Within links inner outer := by
  constructor
  · intro within
    induction within using Relation.ReflTransGen.head_induction_on with
    | refl => exact .refl
    | head link _ ih =>
      rcases List.mem_append.mp link with old | new
      · apply Within.head old
        apply ih
        rintro rfl
        exact unlinked _ old
      · simp only [List.mem_singleton, Prod.mk.injEq] at new
        exact absurd new.1 different
  · intro within
    induction within with
    | refl => exact .refl
    | tail _ link ih => exact ih.tail (List.mem_append_left _ link)

end Ancestry

/-!
## Orders without cycles

A relation on finitely many elements in which nothing comes before itself can
be followed back only finitely often, so everything can be served in its
order.
-/

variable {Element : Type} {before : Element → Element → Prop}

/-- Nothing comes before itself. -/
def Acyclic (before : Element → Element → Prop) : Prop :=
  ∀ element, ¬ Relation.TransGen before element element

theorem not_before_self_of_acc {element : Element}
    (accessible : Acc before element) : ¬ before element element := by
  induction accessible with
  | intro element _ ih => exact fun loop => ih element loop loop

/-- A relation without infinite descent has no cycle. -/
theorem acyclic_of_wellFounded (accessible : ∀ element, Acc before element) : Acyclic before :=
  fun element => not_before_self_of_acc (accessible element).transGen

/-- Without a cycle among finitely many elements there is no infinite
descent. -/
theorem Acyclic.acc (acyclic : Acyclic before) (elements : List Element)
    (within : ∀ element later, before element later → element ∈ elements)
    (element : Element) : Acc before element := by
  let Within := { element : Element // element ∈ elements }
  let order : Within → Within → Prop :=
    fun first second => Relation.TransGen before first.1 second.1
  have : Finite Within := (List.finite_toSet elements).to_subtype
  have : IsTrans Within order := ⟨fun _ _ _ first second => first.trans second⟩
  have : Std.Irrefl order := ⟨fun element => acyclic element.1⟩
  have descends : WellFounded order := Finite.wellFounded_of_trans_of_irrefl order
  have inside : ∀ member : Within, Acc before member.1 := by
    intro member
    induction descends.apply member with
    | intro member _ ih =>
      refine Acc.intro member.1 fun earlier comes => ?_
      exact ih ⟨earlier, within earlier member.1 comes⟩ (.single comes)
  exact Acc.intro element fun earlier comes => inside ⟨earlier, within earlier element comes⟩

end Savor.Library

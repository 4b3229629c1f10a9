import Mathlib.Algebra.Order.BigOperators.Group.Finset
import Mathlib.Data.Finset.Sort
import Mathlib.Data.Set.Card
import Savor.Library.Loop

/-!
# Dominators of a graph

A search collects the nodes that are reachable from an entry and their
predecessors.  Every reachable node then starts with all of them for its
dominators, and passes over the nodes intersect the dominators of predecessors
until nothing changes.  What is left are the nodes on every path.
-/

namespace Savor.Library
namespace Dominators

variable {Node : Type} [LinearOrder Node] {node : Node}

section Paths

variable (successors : Node → List Node) (entry : Node)

/-- A path from the entry to a node, with its nodes from the last to the
first. -/
inductive Path : Node → List Node → Prop
  | start : Path entry [entry]
  | step {node next : Node} {nodes : List Node}
      (path : Path node nodes) (edge : next ∈ successors node) :
      Path next (next :: nodes)

/-- A path from the entry leads to the node. -/
def Reachable (node : Node) : Prop := ∃ nodes, Path successors entry node nodes

/-- Every path from the entry to the node passes the dominator. -/
def OnEveryPath (dominator node : Node) : Prop :=
  ∀ nodes, Path successors entry node nodes → dominator ∈ nodes

end Paths

variable {successors : Node → List Node} {entry : Node}

/-! ## The search -/

/-- The nodes to visit, last pushed first, and what has been found. -/
structure Search (Node : Type) where
  pending : List Node
  reachable : Finset Node := ∅
  predecessors : Node → Finset Node := fun _ => ∅

namespace Search

/-- Take a node from the pending ones: a new one is recorded at its successors,
which are pushed in their order. -/
def visit (successors : Node → List Node) (search : Search Node)
    (current : Node) (rest : List Node) : Search Node :=
  if current ∈ search.reachable then { search with pending := rest }
  else
    { pending := (successors current).reverse ++ rest
      reachable := insert current search.reachable
      predecessors := fun target =>
        if target ∈ successors current then
          insert current (search.predecessors target)
        else search.predecessors target }

/-- Visit until nothing is pending.  A visit of a new node leaves fewer nodes
to find, any other fewer pending ones. -/
def run [Finite Node] (successors : Node → List Node) (search : Search Node) : Search Node :=
  match _next : search.pending with
  | [] => search
  | current :: rest => run successors (search.visit successors current rest)
termination_by
  (Set.ncard {node | node ∉ search.reachable}, search.pending.length)
decreasing_by
  unfold visit
  split
  · rw [_next]
    exact .right _ (Nat.lt_succ_self _)
  rename_i fresh
  refine .left _ _ (Set.ncard_lt_ncard ⟨?_, ?_⟩ (Set.toFinite _))
  · intro node missing found
    exact missing (Finset.mem_insert_of_mem found)
  · intro larger
    exact larger fresh (Finset.mem_insert_self _ _)

/-- What is found or pending is reachable, and nothing reachable is missed. -/
structure Explores (successors : Node → List Node) (entry : Node)
    (search : Search Node) : Prop where
  entered : entry ∈ search.reachable ∨ entry ∈ search.pending
  found : ∀ node ∈ search.reachable, Reachable successors entry node
  pending : ∀ node ∈ search.pending, Reachable successors entry node
  closed : ∀ node ∈ search.reachable, ∀ next ∈ successors node,
    next ∈ search.reachable ∨ next ∈ search.pending
  predecessors : ∀ node before, before ∈ search.predecessors node ↔
    before ∈ search.reachable ∧ node ∈ successors before

variable {search : Search Node}

theorem Explores.visit {current : Node} {rest : List Node}
    (explores : search.Explores successors entry) (next : search.pending = current :: rest) :
    (search.visit successors current rest).Explores successors entry := by
  have known := explores.pending
  have met := explores.entered
  have closed := explores.closed
  simp only [next, List.mem_cons, forall_eq_or_imp] at known met closed
  obtain ⟨⟨nodes, path⟩, known⟩ := known
  unfold Search.visit
  split
  · rename_i old
    refine ⟨?_, explores.found, known, ?_, explores.predecessors⟩
    · rcases met with found | rfl | later
      · exact .inl found
      · exact .inl old
      · exact .inr later
    intro node found next edge
    rcases closed node found next edge with found | rfl | later
    · exact .inl found
    · exact .inl old
    · exact .inr later
  · refine ⟨?_, ?_, ?_, ?_, ?_⟩
    · rcases met with found | rfl | later
      · exact .inl (Finset.mem_insert_of_mem found)
      · exact .inl (Finset.mem_insert_self _ _)
      · exact .inr (List.mem_append_right _ later)
    · intro node member
      rcases Finset.mem_insert.mp member with rfl | found
      · exact ⟨nodes, path⟩
      · exact explores.found node found
    · intro node member
      rcases List.mem_append.mp member with edge | later
      · exact ⟨_, path.step (List.mem_reverse.mp edge)⟩
      · exact known node later
    · intro node member next edge
      rcases Finset.mem_insert.mp member with rfl | found
      · exact .inr (List.mem_append_left _ (List.mem_reverse.mpr edge))
      rcases closed node found next edge with found | rfl | later
      · exact .inl (Finset.mem_insert_of_mem found)
      · exact .inl (Finset.mem_insert_self _ _)
      · exact .inr (List.mem_append_right _ later)
    intro node before
    dsimp only
    split
    · rename_i edge
      rw [Finset.mem_insert, Finset.mem_insert, explores.predecessors]
      constructor
      · rintro (rfl | ⟨found, edge⟩)
        · exact ⟨.inl rfl, edge⟩
        · exact ⟨.inr found, edge⟩
      rintro ⟨rfl | found, edge⟩
      · exact .inl rfl
      · exact .inr ⟨found, edge⟩
    · rename_i apart
      rw [Finset.mem_insert, explores.predecessors]
      constructor
      · rintro ⟨found, edge⟩
        exact ⟨.inr found, edge⟩
      rintro ⟨rfl | found, edge⟩
      · exact absurd edge apart
      · exact ⟨found, edge⟩

variable [Finite Node]

theorem Explores.run (explores : search.Explores successors entry) :
    (search.run successors).Explores successors entry ∧ (search.run successors).pending = [] := by
  fun_induction Search.run successors search with
  | case1 search next => exact ⟨explores, next⟩
  | case2 search current rest next ih => exact ih (explores.visit next)

end Search

/-! ## The passes -/

/-- What all sets have in common. -/
def meet : List (Finset Node) → Finset Node
  | [] => ∅
  | first :: rest => rest.foldl (· ∩ ·) first

theorem mem_meet {sets : List (Finset Node)} :
    node ∈ meet sets ↔ (∃ set, set ∈ sets) ∧ ∀ set ∈ sets, node ∈ set := by
  cases sets with
  | nil => simp [meet]
  | cons first rest =>
    have folded : ∀ start : Finset Node, node ∈ rest.foldl (· ∩ ·) start ↔
        node ∈ start ∧ ∀ set ∈ rest, node ∈ set := by
      induction rest with
      | nil => simp
      | cons set rest ih =>
        intro start
        rw [List.foldl_cons, ih, Finset.mem_inter, List.forall_mem_cons, and_assoc]
    rw [meet, folded, List.forall_mem_cons]
    exact ⟨fun all => ⟨⟨first, List.mem_cons_self⟩, all⟩, And.right⟩

section Passes

variable (entry : Node) (search : Search Node)

/-- The node and what dominates all its predecessors. -/
def next (dominators : Node → Finset Node) (node : Node) : Finset Node :=
  insert node (meet (((search.predecessors node).sort).map dominators))

/-- Replace the dominators of a node other than the entry.  The flag says
whether any have changed. -/
def refine (state : Bool × (Node → Finset Node)) (node : Node) : Bool × (Node → Finset Node) :=
  if node = entry ∨ next search state.2 node = state.2 node then state
  else (true, Function.update state.2 node (next search state.2 node))

/-- A pass over the reachable nodes.  The loop ends with a pass that changes
nothing. -/
def pass (_ : Nat) (dominators : Node → Finset Node) : Option Unit × (Node → Finset Node) :=
  let (changed, dominators) := search.reachable.sort.foldl (refine entry search) (false, dominators)
  (if changed then none else some (), dominators)

/-- The entry is dominated by itself, any other node by all that are
reachable. -/
def initial (node : Node) : Finset Node :=
  if node = entry then {node}
  else if node ∈ search.reachable then search.reachable else ∅

/-- How many dominators the reachable nodes have. -/
def size (dominators : Node → Finset Node) : Nat :=
  ∑ node ∈ search.reachable, (dominators node).card

/-- The passes over the graph that was searched, as many as can be needed. -/
def dominatorsOf : Option (Node → Finset Node) :=
  (Loop.run (pass entry search) (size search (initial entry search) + 1) 0
    (initial entry search)).map (·.2)

end Passes

variable {search : Search Node} {dominators : Node → Finset Node}

theorem mem_next {dominator : Node} : dominator ∈ next search dominators node ↔ dominator = node ∨
      (search.predecessors node).Nonempty ∧
        ∀ before ∈ search.predecessors node, dominator ∈ dominators before := by
  rw [next, Finset.mem_insert, mem_meet]
  simp [Finset.Nonempty]

/-- What holds of the dominators between the passes. -/
structure Bounds (successors : Node → List Node) (entry : Node)
    (search : Search Node) (dominators : Node → Finset Node) : Prop where
  entered : dominators entry = {entry}
  shrinks : ∀ node ∈ search.reachable, node ≠ entry → next search dominators node ⊆ dominators node
  covers : ∀ node ∈ search.reachable, ∀ dominator,
    OnEveryPath successors entry dominator node → dominator ∈ dominators node

/-- A search that has ended knows the graph. -/
structure Explored (successors : Node → List Node) (entry : Node)
    (search : Search Node) : Prop where
  reachable : ∀ node, node ∈ search.reachable ↔ Reachable successors entry node
  predecessors : ∀ node before, before ∈ search.predecessors node ↔
    Reachable successors entry before ∧ node ∈ successors before

theorem explored_run [Finite Node] (successors : Node → List Node)
    (entry : Node) : Explored successors entry
      (({ pending := [entry] } : Search Node).run successors) := by
  have start : ({ pending := [entry] } : Search Node).Explores successors entry :=
    { entered := .inr List.mem_cons_self
      found := fun _ member => absurd member (Finset.notMem_empty _)
      pending := fun node member => List.mem_singleton.mp member ▸ ⟨_, .start⟩
      closed := fun _ member => absurd member (Finset.notMem_empty _)
      predecessors := by simp }
  obtain ⟨explores, ended⟩ := start.run
  have reachable : ∀ node, Reachable successors entry node →
      node ∈ (({ pending := [entry] } : Search Node).run successors).reachable := by
    rintro node ⟨nodes, path⟩
    induction path with
    | start => simpa [ended] using explores.entered
    | step path edge found => simpa [ended] using explores.closed _ found _ edge
  have same : ∀ node, _ ↔ _ := fun node => ⟨explores.found node, reachable node⟩
  exact ⟨same, fun node before => by rw [explores.predecessors, same]⟩

namespace Explored

variable (explored : Explored successors entry search)
include explored

theorem bounds_initial : Bounds successors entry search (initial entry search) where
  entered := if_pos rfl
  shrinks := by
    intro node found apart dominator member
    rw [initial, if_neg apart, if_pos found]
    rcases mem_next.mp member with rfl | ⟨⟨before, edge⟩, all⟩
    · exact found
    have member := all before edge
    have reached := (explored.reachable before).mpr ((explored.predecessors _ _).mp edge).1
    unfold initial at member
    split at member
    · exact Finset.mem_singleton.mp member ▸ reached
    · exact member
  covers := by
    intro node found dominator always
    obtain ⟨nodes, path⟩ := (explored.reachable node).mp found
    have onPath : ∀ {node nodes}, Path successors entry node nodes →
        ∀ other ∈ nodes, other ∈ search.reachable := by
      intro node nodes path
      induction path with
      | start =>
        intro other member
        exact List.mem_singleton.mp member ▸ (explored.reachable _).mpr ⟨_, .start⟩
      | step path edge ih =>
        intro other member
        rcases List.mem_cons.mp member with rfl | earlier
        · exact (explored.reachable _).mpr ⟨_, path.step edge⟩
        · exact ih other earlier
    unfold initial
    split
    · rename_i same
      subst same
      exact Finset.mem_singleton.mpr (List.mem_singleton.mp (always _ .start))
    · exact onPath path dominator (always nodes path)

/-- Fewer dominators elsewhere leave fewer here. -/
theorem bounds_update (bounds : Bounds successors entry search dominators)
    (found : node ∈ search.reachable) (apart : node ≠ entry) : Bounds successors entry search
      (Function.update dominators node (next search dominators node)) := by
  have fewer : ∀ other, Function.update dominators node
      (next search dominators node) other ⊆ dominators other := by
    intro other
    by_cases same : other = node
    · subst same
      rw [Function.update_self]
      exact bounds.shrinks other found apart
    · rw [Function.update_of_ne same]
  have monotone : ∀ other, next search (Function.update dominators node
      (next search dominators node)) other ⊆ next search dominators other := by
    intro other dominator member
    rcases mem_next.mp member with here | ⟨some, all⟩
    · exact mem_next.mpr (.inl here)
    · exact mem_next.mpr (.inr ⟨some, fun before edge => fewer before (all before edge)⟩)
  refine ⟨?_, ?_, ?_⟩
  · rw [Function.update_of_ne apart.symm]
    exact bounds.entered
  · intro other reached elsewhere
    refine (monotone other).trans ?_
    by_cases same : other = node
    · rw [same, Function.update_self]
    · rw [Function.update_of_ne same]
      exact bounds.shrinks other reached elsewhere
  intro other reached dominator always
  by_cases same : other = node
  · subst same
    rw [Function.update_self, mem_next]
    by_cases here : dominator = other
    · exact .inl here
    obtain ⟨nodes, path⟩ := (explored.reachable other).mp reached
    refine .inr ⟨?_, fun before edge => ?_⟩
    · cases path with
      | start => exact absurd rfl apart
      | step path edge => exact ⟨_, (explored.predecessors _ _).mpr ⟨⟨_, path⟩, edge⟩⟩
    obtain ⟨reached, edge⟩ := (explored.predecessors _ _).mp edge
    refine bounds.covers before ((explored.reachable _).mpr reached) _ ?_
    intro nodes path
    exact (List.mem_cons.mp (always _ (path.step edge))).resolve_left here
  · rw [Function.update_of_ne same]
    exact bounds.covers other reached dominator always

/-- Nodes either keep their dominators, or the flag is set and some are
lost. -/
theorem bounds_fold {nodes : List Node} (state : Bool × (Node → Finset Node))
    (bounds : Bounds successors entry search state.2)
    (found : ∀ node ∈ nodes, node ∈ search.reachable) : Bounds successors entry search
        (nodes.foldl (refine entry search) state).2 ∧
      (nodes.foldl (refine entry search) state = state ∧
          (∀ node ∈ nodes, node ≠ entry → next search state.2 node = state.2 node) ∨
        (nodes.foldl (refine entry search) state).1 = true ∧
          size search (nodes.foldl (refine entry search) state).2 < size search state.2) := by
  induction nodes generalizing state with
  | nil => exact ⟨bounds, .inl ⟨rfl, nofun⟩⟩
  | cons node nodes ih =>
    obtain ⟨here, rest⟩ := List.forall_mem_cons.mp found
    rw [List.foldl_cons]
    by_cases settled : node = entry ∨ next search state.2 node = state.2 node
    · rw [refine, if_pos settled]
      obtain ⟨kept, same | less⟩ := ih state bounds rest
      · exact ⟨kept, .inl ⟨same.1, List.forall_mem_cons.mpr ⟨settled.resolve_left, same.2⟩⟩⟩
      · exact ⟨kept, .inr less⟩
    rw [refine, if_neg settled]
    obtain ⟨apart, differs⟩ := not_or.mp settled
    have less : size search (Function.update state.2 node
        (next search state.2 node)) < size search state.2 := by
      have proper := Finset.card_lt_card ((bounds.shrinks node here apart).ssubset_of_ne differs)
      refine Finset.sum_lt_sum (fun other _ => ?_) ⟨node, here, ?_⟩
      · by_cases same : other = node
        · rw [same, Function.update_self]
          exact proper.le
        · rw [Function.update_of_ne same]
      · rwa [Function.update_self]
    obtain ⟨kept, ⟨same, -⟩ | ⟨flag, fewer⟩⟩ := ih
      (true, Function.update state.2 node (next search state.2 node))
      (explored.bounds_update bounds here apart) rest
    · exact ⟨kept, .inr (by rw [same]; exact ⟨rfl, less⟩)⟩
    · exact ⟨kept, .inr ⟨flag, fewer.trans less⟩⟩

theorem mem_dominatorsOf : ∃ dominators, dominatorsOf entry search = some dominators ∧
      ∀ node, Reachable successors entry node → ∀ dominator,
        dominator ∈ dominators node ↔ OnEveryPath successors entry dominator node := by
  have sorted : ∀ node ∈ search.reachable.sort, node ∈ search.reachable :=
    fun node => (Finset.mem_sort _).mp
  obtain ⟨_, before, _, after, bounds, ended, ran⟩ := @Loop.run_returns _ _
    (pass entry search) (Bounds successors entry search) (size search)
    (by
      intro round dominators after bounds continues
      obtain ⟨kept, ⟨same, -⟩ | ⟨flag, less⟩⟩ :=
        explored.bounds_fold (false, dominators) bounds sorted
      · simp [pass, same] at continues
      simp only [pass, flag, if_true, Prod.mk.injEq, true_and] at continues
      subst continues
      exact ⟨kept, less⟩)
    _ 0 _ explored.bounds_initial (Nat.lt_succ_self _)
  obtain ⟨-, ⟨same, stable⟩ | ⟨flag, -⟩⟩ := explored.bounds_fold (false, before) bounds sorted
  · simp only [pass, same, Prod.mk.injEq] at ended
    obtain ⟨-, rfl⟩ := ended
    refine ⟨before, by rw [dominatorsOf, ran]; rfl, fun node reached => ?_⟩
    refine fun dominator => ⟨fun member nodes path => ?_, fun always =>
      bounds.covers node ((explored.reachable node).mpr reached) _ always⟩
    clear reached
    induction path with
    | start =>
      rw [bounds.entered] at member
      exact List.mem_singleton.mpr (Finset.mem_singleton.mp member)
    | @step earlier node nodes path edge ih =>
      by_cases start : node = entry
      · rw [start, bounds.entered, Finset.mem_singleton] at member
        exact List.mem_cons.mpr (.inl (member.trans start.symm))
      have stable : next search before node = before node :=
        stable node ((Finset.mem_sort _).mpr
          ((explored.reachable node).mpr ⟨_, path.step edge⟩)) start
      rw [← stable] at member
      rcases mem_next.mp member with rfl | ⟨-, all⟩
      · exact List.mem_cons_self
      · exact List.mem_cons_of_mem _ (ih
          (all earlier ((explored.predecessors _ _).mpr ⟨⟨_, path⟩, edge⟩)))
  · simp [pass, flag] at ended

end Explored

end Dominators
end Savor.Library

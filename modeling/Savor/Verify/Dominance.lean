import Savor.Library.Dominators
import Savor.Model.Program

/-!
# Dominators of the blocks of a function

The verifier lets an instruction use a value of another block only if that
block dominates the block of the use.
-/

namespace Savor.Program

open Library

/-- A set of block ids is iterated in their order. -/
instance : LinearOrder ProgramBlockId where
  le first second := first.value ≤ second.value
  le_refl first := UInt64.le_refl first.value
  le_trans _ _ _ := UInt64.le_trans
  le_antisymm _ _ below above := StrongId.ext (UInt64.le_antisymm below above)
  le_total first second := UInt64.le_total first.value second.value
  lt_iff_le_not_ge _ _ :=
    ⟨fun below => ⟨UInt64.le_of_lt below, UInt64.not_le.mpr below⟩,
      fun both => UInt64.not_le.mp both.2⟩
  toDecidableLE first second := UInt64.decLe first.value second.value
  toDecidableEq := inferInstance
  toDecidableLT := inferInstance

instance : Finite ProgramBlockId :=
  Finite.of_injective (·.value.toFin) fun _ _ same => StrongId.ext (UInt64.toFin_inj.mp same)

/-- Where a value is defined. -/
structure ValueDefinitionSite where
  type : TypeRef
  block : Option ProgramBlockId
  instructionIndex : Nat := 0
  (blockArgument functionArgument : Bool := false)

namespace ProgramFunction

variable (function : ProgramFunction)

/-- The entry of the context's map of blocks, which leaves out the id zero and
keeps the first block of any other. -/
def contextBlock (id : ProgramBlockId) : Option BasicBlock :=
  if id.isSet then function.findBlock id else none

/-- The targets of a block's edges; no edges leave an id without a block. -/
def edgeTargets (id : ProgramBlockId) : List ProgramBlockId :=
  match function.contextBlock id with
  | none => []
  | some block => block.terminator.allEdges.map (·.target)

/-- Some path of edges leads from the entry block to the block. -/
def Reaches (block : ProgramBlockId) : Prop :=
  Dominators.Reachable function.edgeTargets function.entryBlock block

/-- Every path of edges from the entry block to the block passes the
dominator. -/
def OnEveryPath (dominator block : ProgramBlockId) : Prop :=
  Dominators.OnEveryPath function.edgeTargets function.entryBlock dominator block

end ProgramFunction

/-- What `BuildDominators` adds to the context of a function.  A block without
an entry has no dominators. -/
structure FunctionContext where
  reachable : Finset ProgramBlockId
  dominators : ProgramBlockId → Finset ProgramBlockId

/-- The reachable blocks of a function and their dominators. -/
def buildDominators (function : ProgramFunction) : Option FunctionContext :=
  let search := Dominators.Search.run function.edgeTargets { pending := [function.entryBlock] }
  (Dominators.dominatorsOf function.entryBlock search).map fun dominators =>
    { reachable := search.reachable, dominators }

/-- A value is defined before an instruction that uses it. -/
def FunctionContext.dominates (context : FunctionContext)
    (definition : ValueDefinitionSite) (useBlock : ProgramBlockId) (useIndex : Nat) : Bool :=
  if definition.functionArgument then true
  else
    match definition.block with
    | none => false
    | some block =>
      if block = useBlock then
        definition.blockArgument || definition.instructionIndex < useIndex
      else if useBlock ∉ context.reachable then false
      else block ∈ context.dominators useBlock

/-- The context holds the dominators of the function, and a use in another
block is accepted only if every path to the use passes the definition. -/
structure FunctionContext.Dominance (function : ProgramFunction)
    (context : FunctionContext) : Prop where
  reachable : ∀ block, block ∈ context.reachable ↔ function.Reaches block
  dominators : ∀ block, function.Reaches block → ∀ dominator,
    dominator ∈ context.dominators block ↔ function.OnEveryPath dominator block
  uses : ∀ definition block useBlock useIndex,
    definition.functionArgument = false → definition.block = some block →
    block ≠ useBlock → context.dominates definition useBlock useIndex = true →
    function.OnEveryPath block useBlock

/-- The dominators of every function are found, whatever its edges. -/
theorem buildDominators_dominance (function : ProgramFunction) :
    ∃ context, buildDominators function = some context ∧ context.Dominance function := by
  have explored := Dominators.explored_run function.edgeTargets function.entryBlock
  obtain ⟨dominators, found, same⟩ := explored.mem_dominatorsOf
  unfold buildDominators
  dsimp only
  rw [found]
  refine ⟨_, rfl, ⟨explored.reachable, same, ?_⟩⟩
  intro definition block useBlock useIndex inner defined apart accepted
  unfold FunctionContext.dominates at accepted
  simp only [inner, defined, if_neg apart, Bool.false_eq_true, if_false] at accepted
  split at accepted
  · cases accepted
  rename_i reached
  have reaches := (explored.reachable useBlock).mp (not_not.mp reached)
  exact (same useBlock reaches block).mp (of_decide_eq_true accepted)

end Savor.Program

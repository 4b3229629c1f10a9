import Mathlib.Algebra.GroupWithZero.Nat
import Mathlib.Data.FinEnum

/-!
# Depth-first search with cycle detection

`visit` is the recursive search that many resolvers share: a node on the
recursion stack is a cycle, a completed node is skipped, and a node is appended
to the post-order once all its children are complete.
-/

namespace Savor.Library
namespace DepthFirst

universe u v

variable {Node : Type u} {Failure : Type v}

/-- Search from `node`.  `stack` holds the nodes being visited and `order` the
completed ones.  Fuel bounds the recursion depth; running out is reported as a
cycle, which it would be on any graph with fewer nodes than fuel. -/
def visit [DecidableEq Node] (resolve : Node → Except Failure (List Node))
    (cycle : Node → Failure) : Nat → List Node → List Node → Node → Except Failure (List Node)
  | 0, _, _, node => .error (cycle node)
  | fuel + 1, stack, order, node =>
    match resolve node with
    | .error failure => .error failure
    | .ok children =>
      if node ∈ stack then .error (cycle node)
      else if node ∈ order then .ok order
      else
        match children.foldlM
            (fun order child => visit resolve cycle fuel (node :: stack) order child)
            order with
        | .error failure => .error failure
        | .ok order => .ok (order ++ [node])

end DepthFirst
end Savor.Library

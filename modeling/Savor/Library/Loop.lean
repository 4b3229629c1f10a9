import Mathlib.Algebra.GroupWithZero.Nat
import Mathlib.Data.FinEnum

/-!
# Loops that return from their body

A loop runs its body until a round returns a result.  A measure that every
continuing round decreases bounds the rounds; a state that survives a number of
rounds is a lower bound.
-/

namespace Savor.Library
namespace Loop

universe u v

variable {State : Type u} {Result : Type v}

/-- Run a loop for at most the given number of rounds.  The body is told the
number of its round. -/
def run (body : Nat → State → Option Result × State) : Nat → Nat → State → Option (Result × State)
  | 0, _, _ => none
  | fuel + 1, round, state =>
    match body round state with
    | (some result, state) => some (result, state)
    | (none, state) => run body fuel (round + 1) state

variable {body : Nat → State → Option Result × State}

/-- A loop whose continuing rounds keep an invariant and decrease a measure
returns from a state with the invariant. -/
theorem run_returns (Inv : State → Prop) (measure : State → Nat)
    (decreases : ∀ round state next, Inv state →
      body round state = (none, next) → Inv next ∧ measure next < measure state)
    {fuel round : Nat} {state : State} (holds : Inv state) (enough : measure state < fuel) :
    ∃ last before result after, Inv before ∧ body last before = (some result, after) ∧
      run body fuel round state = some (result, after) := by
  induction fuel generalizing round state with
  | zero => exact absurd enough (Nat.not_lt_zero _)
  | succ fuel ih =>
    unfold run
    split
    · rename_i result after returns
      exact ⟨round, state, result, after, holds, returns, rfl⟩
    rename_i next continues
    obtain ⟨holds', less⟩ := decreases round state next holds continues
    exact ih holds' (by omega)

theorem run_isSome (Inv : State → Prop) (measure : State → Nat)
    (decreases : ∀ round state next, Inv state →
      body round state = (none, next) → Inv next ∧ measure next < measure state)
    {fuel round : Nat} {state : State} (holds : Inv state) (enough : measure state < fuel) :
    (run body fuel round state).isSome := by
  obtain ⟨_, _, result, after, _, _, ran⟩ :=
    @run_returns _ _ body Inv measure decreases fuel round state holds enough
  rw [ran]
  rfl

/-- A loop that survives a number of rounds has not returned by then. -/
theorem run_eq_none (Survives : Nat → State → Prop)
    (continues : ∀ rounds round state, Survives (rounds + 1) state →
      ∃ next, body round state = (none, next) ∧ Survives rounds next)
    {fuel round : Nat} {state : State} (survives : Survives fuel state) :
    run body fuel round state = none := by
  induction fuel generalizing round state with
  | zero => rfl
  | succ fuel ih =>
    obtain ⟨next, step, rest⟩ := continues fuel round state survives
    rw [run, step]
    exact ih rest

end Loop
end Savor.Library

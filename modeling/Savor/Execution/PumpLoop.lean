import Savor.Execution.Unwinding
import Savor.Library.Loop

/-!
# Pumping returns

The loop of a pump counts executed instructions in its quantum, but continues
without counting when the instruction budget is exhausted.  It ends because the
exhaustion makes the program unwind; where the program unwinds already, it only
ends when the 64-bit instruction counter wraps around.
-/

namespace Savor.Program
namespace Executor

open Library
open ExecutorRun

/-- A round of the pump loop.  The reducers may change from round to round. -/
def pumpRound (floats : FloatUnit) (reducers : Nat → Option PureReducerInvoker)
    (round : Nat) (state : Executor × PumpLoop) : Option PumpResult × Executor × PumpLoop :=
  state.1.pumpIteration floats (reducers round) state.2

/-- The loop of `ProgramExecutor::Pump`, for at most `fuel` rounds. -/
def pumpLoop (floats : FloatUnit) (reducers : Nat → Option PureReducerInvoker)
    (fuel : Nat) (executor : Executor) (loop : PumpLoop) :
    Option (PumpResult × Executor × PumpLoop) :=
  Loop.run (pumpRound floats reducers) fuel 0 (executor, loop)

section Rounds

variable {floats : FloatUnit} {reducers : Option PureReducerInvoker}
variable {executor next : Executor} {loop following : PumpLoop}

theorem quantum_lt (active : executor.pumpAction loop ≠ .quantumSpent) :
    loop.quantum < loop.maximumInstructions := by
  unfold pumpAction at active
  split at active
  · exact absurd rfl active
  · rename_i unspent
    exact UInt64.not_le.mp unspent

theorem exhausted_budget (exhausted : executor.pumpAction loop = .instructionBudgetExhausted) :
    executor.limits.maximumInstructions < executor.instructionsExecuted + 1 := by
  unfold pumpAction at exhausted
  split at exhausted
  · cases exhausted
  split at exhausted
  · cases exhausted
  split at exhausted
  · split at exhausted
    · rename_i exceeded
      exact exceeded
    split at exhausted
    · cases exhausted
    · split at exhausted <;> cases exhausted
  · cases exhausted

@[simp] theorem beginFailure_instructionsExecuted
    (status : ProgramInfrastructureStatus) (code message : ByteString)
    (source : ProgramSourceLocationId) :
    (executor.beginFailure status code message source).instructionsExecuted =
      executor.instructionsExecuted := by
  unfold beginFailure
  split <;> rfl

theorem continueLoop_following {step : PumpResult × Executor}
    (continues : continueLoop loop step = (none, next, following)) :
    following = { loop with quantum := loop.quantum + 1 } := by
  unfold continueLoop at continues
  simp only at continues
  split at continues
  · cases continues
  · cases continues
    rfl

/-- A round that continues either counts an instruction in the quantum, or has
found the budget exhausted and counts against it only. -/
theorem pumpIteration_continues (continues : executor.pumpIteration floats reducers loop =
      (none, next, following)) :
    loop.quantum < loop.maximumInstructions ∧
    (following = { loop with quantum := loop.quantum + 1 } ∨
      (executor.pumpAction loop = .instructionBudgetExhausted ∧ following = loop ∧
        executor.limits.maximumInstructions < executor.instructionsExecuted + 1 ∧
        next.instructionsExecuted = executor.instructionsExecuted + 1)) := by
  have active : executor.pumpAction loop ≠ .quantumSpent := by
    intro spent
    unfold pumpIteration at continues
    rw [spent] at continues
    cases continues
  refine ⟨quantum_lt active, ?_⟩
  unfold pumpIteration at continues
  split at continues
  case h_1 => cases continues
  case h_2 => cases continues
  case h_3 => cases continues
  case h_4 exhausted =>
    cases continues
    refine .inr ⟨exhausted, rfl, exhausted_budget exhausted, ?_⟩
    rw [beginFailure_instructionsExecuted]
    rfl
  case h_5 =>
    cases continues
    exact .inl rfl
  case h_6 => exact .inl (continueLoop_following continues)
  case h_7 => exact .inl (continueLoop_following continues)

/-- The rounds left, if every instruction of the quantum took as many rounds as
the instruction counter has values. -/
def roundsLeft (state : Executor × PumpLoop) : Nat :=
  (state.2.maximumInstructions.toNat - state.2.quantum.toNat) * 2 ^ 64 +
    (2 ^ 64 - state.1.instructionsExecuted.toNat)

theorem quantum_succ_toNat (unspent : loop.quantum < loop.maximumInstructions) :
    (loop.quantum + 1).toNat = loop.quantum.toNat + 1 := by
  rw [UInt64.lt_iff_toNat_lt] at unspent
  have bounded := loop.maximumInstructions.toNat_lt
  rw [UInt64.toNat_add, UInt64.toNat_one]
  omega

/-- An exhausted round does not wrap the instruction counter. -/
theorem instructions_succ_toNat {count limit : UInt64}
    (exceeded : limit < count + 1) : (count + 1).toNat = count.toNat + 1 := by
  rw [UInt64.lt_iff_toNat_lt, UInt64.toNat_add, UInt64.toNat_one] at exceeded
  have bounded := count.toNat_lt
  rw [UInt64.toNat_add, UInt64.toNat_one]
  omega

theorem roundsLeft_decreases (continues : executor.pumpIteration floats reducers loop =
      (none, next, following)) :
    roundsLeft (next, following) < roundsLeft (executor, loop) := by
  obtain ⟨unspent, rfl | ⟨_, rfl, exceeded, counted⟩⟩ := pumpIteration_continues continues
  · have counted := quantum_succ_toNat unspent
    rw [UInt64.lt_iff_toNat_lt] at unspent
    have bounded := executor.instructionsExecuted.toNat_lt
    simp only [roundsLeft, counted]
    have split : loop.maximumInstructions.toNat - loop.quantum.toNat =
        loop.maximumInstructions.toNat - (loop.quantum.toNat + 1) + 1 := by
      omega
    rw [split, Nat.add_mul]
    omega
  · have wraps := instructions_succ_toNat exceeded
    have bounded := (executor.instructionsExecuted + 1).toNat_lt
    simp only [roundsLeft, counted, wraps] at bounded ⊢
    omega

theorem pumpLoop_isSome (reducers : Nat → Option PureReducerInvoker)
    (executor : Executor) (loop : PumpLoop) :
    ∃ fuel, (pumpLoop floats reducers fuel executor loop).isSome :=
  ⟨roundsLeft (executor, loop) + 1, Loop.run_isSome (fun _ => True) roundsLeft
      (fun _ _ _ _ continues => ⟨trivial, roundsLeft_decreases continues⟩)
      trivial (Nat.lt_succ_self _)⟩

/-- The rounds left while no unwinding program is runnable. -/
def steadyRoundsLeft (state : Executor × PumpLoop) : Nat :=
  if state.1.activity = .runnable then
    state.2.maximumInstructions.toNat - state.2.quantum.toNat + 1
  else 0

theorem continues_runnable (continues : executor.pumpIteration floats reducers loop =
      (none, next, following)) :
    executor.activity = .runnable := by
  have applies := executor.pumpAction_applies loop
  unfold pumpIteration at continues
  split at continues
  case h_1 => cases continues
  case h_2 => cases continues
  case h_3 => cases continues
  case h_4 action | h_5 action =>
    rw [action] at applies
    exact applies
  case h_6 action | h_7 action =>
    rw [action] at applies
    exact applies.1

theorem exhausted_switches (steady : executor.unwinding = false)
    (exhausted : executor.pumpAction loop = .instructionBudgetExhausted) :
    (executor.pumpIteration floats reducers loop).2.1.activity = .unwinding := by
  have applies := executor.pumpAction_applies loop
  rw [exhausted] at applies
  have runnable : executor.activity = .runnable := applies
  unfold pumpIteration
  rw [exhausted]
  simp [beginFailure, countInstruction, steady, runnable]

section

variable
    (invariant : executor.control.UnwindingInvariant)
    (continues : executor.pumpIteration floats reducers loop = (none, next, following))
include invariant continues

theorem steadyRoundsLeft_decreases :
    steadyRoundsLeft (next, following) < steadyRoundsLeft (executor, loop) := by
  have runnable := continues_runnable continues
  obtain ⟨unspent, rfl | ⟨exhausted, rfl, _, _⟩⟩ := pumpIteration_continues continues
  · have counted := quantum_succ_toNat unspent
    rw [UInt64.lt_iff_toNat_lt] at unspent
    simp only [steadyRoundsLeft, runnable, counted, if_true]
    split <;> omega
  have switched := @exhausted_switches floats reducers executor following
    (invariant.unwinding_false runnable) exhausted
  rw [continues] at switched
  have unwinds : next.activity = .unwinding := switched
  simp [steadyRoundsLeft, runnable, unwinds]

theorem round_keeps_invariant : next.control.UnwindingInvariant := by
  have step := executor.pumpIteration_step loop floats reducers False
  rw [continues] at step
  exact invariant.controlStep step not_false

end

/-- A pump loop of a program whose unwinding continues ends within two rounds
more than its quantum has instructions left. -/
theorem pumpLoop_isSome_of_invariant (reducers : Nat → Option PureReducerInvoker)
    (invariant : executor.control.UnwindingInvariant) (loop : PumpLoop) : (pumpLoop floats reducers
      (loop.maximumInstructions.toNat - loop.quantum.toNat + 2) executor loop).isSome := by
  refine Loop.run_isSome (fun state => state.1.control.UnwindingInvariant)
    steadyRoundsLeft ?_ invariant ?_
  · intro round state next holds continues
    exact ⟨round_keeps_invariant holds continues, steadyRoundsLeft_decreases holds continues⟩
  · simp only [steadyRoundsLeft]
    split <;> omega

end Rounds

/-- A runnable program that unwinds, with its instruction budget exhausted,
stays where it is for as many rounds as the counter has values left. -/
structure Spins (rounds : Nat) (state : Executor × PumpLoop) : Prop where
  unwinding : state.1.unwinding = true
  runnable : state.1.activity = .runnable
  frames : state.1.frames ≠ []
  unspent : state.2.quantum < state.2.maximumInstructions
  exhausted : state.1.limits.maximumInstructions.toNat ≤ state.1.instructionsExecuted.toNat
  counter : state.1.instructionsExecuted.toNat + rounds < 2 ^ 64

section Spinning

variable {floats : FloatUnit} {reducers : Option PureReducerInvoker}
variable {rounds : Nat} {executor : Executor} {loop : PumpLoop}

section

variable (spins : Spins (rounds + 1) (executor, loop))
include spins

theorem Spins.counted : (executor.instructionsExecuted + 1).toNat =
      executor.instructionsExecuted.toNat + 1 := by
  have counter := spins.counter
  simp only at counter
  rw [UInt64.toNat_add, UInt64.toNat_one]
  omega

theorem Spins.pumpAction : executor.pumpAction loop = .instructionBudgetExhausted := by
  have unspent := UInt64.not_le.mpr spins.unspent
  have exceeded : executor.instructionsExecuted + 1 >
      executor.limits.maximumInstructions := by
    have exhausted := spins.exhausted
    show executor.limits.maximumInstructions < executor.instructionsExecuted + 1
    rw [UInt64.lt_iff_toNat_lt, spins.counted]
    simp only at exhausted
    omega
  unfold Executor.pumpAction
  rw [if_neg unspent, spins.runnable, if_neg (by simp)]
  cases stack : executor.frames with
  | nil => exact absurd stack spins.frames
  | cons frame callers => simp [executor.frame?_eq stack, exceeded]

/-- A spinning round changes the instruction counter only. -/
theorem Spins.pumpIteration : executor.pumpIteration floats reducers loop =
      (none, executor.countInstruction, loop) := by
  have unwinding : executor.countInstruction.unwinding = true := spins.unwinding
  unfold Executor.pumpIteration
  rw [spins.pumpAction]
  simp [beginFailure, unwinding]

theorem Spins.next : Spins rounds (executor.countInstruction, loop) where
  unwinding := spins.unwinding
  runnable := spins.runnable
  frames := spins.frames
  unspent := spins.unspent
  exhausted := by
    have counted := spins.counted
    have exhausted := spins.exhausted
    simp only [countInstruction, counted] at exhausted ⊢
    omega
  counter := by
    have counted := spins.counted
    have counter := spins.counter
    simp only [countInstruction, counted] at counter ⊢
    omega

end

/-- A spinning loop has not returned after that many rounds. -/
theorem Spins.pumpLoop_eq_none (reducers : Nat → Option PureReducerInvoker)
    (spins : Spins rounds (executor, loop)) :
    pumpLoop floats reducers rounds executor loop = none :=
  Loop.run_eq_none Spins (fun _ _ _ spins => ⟨_, spins.pumpIteration, spins.next⟩) spins

end Spinning

end Executor

/-- Every loop of a reached machine ends, and an exhausted instruction budget
takes the activity away from `Runnable`. -/
structure PumpReturns (floats : FloatUnit) (machine : Machine) : Prop where
  returns : ∀ executor loop, machine = .started executor (some loop) →
    ∀ reducers, ∃ fuel, (executor.pumpLoop floats reducers fuel loop).isSome
  switches : ∀ executor loop, machine = .started executor (some loop) →
    executor.pumpAction loop = .instructionBudgetExhausted →
    ∀ reducers, (executor.pumpIteration floats reducers loop).2.1.activity ≠ .runnable

theorem ExecutorRun.satisfies_unwindingInvariant {floats : FloatUnit}
    {history : List ExecutorTransition} {machine : Machine}
    (run : ExecutorRun floats UnwindingContinues history machine) :
    machine.Satisfies Control.UnwindingInvariant := by
  have idle : Machine.idle.Satisfies Control.UnwindingInvariant := by
    intro executor absurd
    cases absurd
  exact run.invariant idle (step_satisfies
    (fun _ _ _ _ accepted => Executor.start_unwindingInvariant accepted)
    (fun executor _ _ _ _ continues invariant step =>
      invariant.controlStep step (by simp [continues executor rfl])))

/-- In a run that resumes no unwinding program, every pump returns within two
rounds more than the instructions it was allowed, and an exhausted budget makes
the program unwind. -/
theorem ExecutorRun.pumpReturns {floats : FloatUnit}
    {history : List ExecutorTransition} {machine : Machine}
    (run : ExecutorRun floats UnwindingContinues history machine) : PumpReturns floats machine ∧
      ∀ executor loop, machine = .started executor (some loop) →
        ∀ reducers, (executor.pumpLoop floats reducers
          (loop.maximumInstructions.toNat - loop.quantum.toNat + 2) loop).isSome := by
  have invariant := satisfies_unwindingInvariant run
  refine ⟨⟨?_, ?_⟩, ?_⟩
  · intro executor loop _ reducers
    exact Executor.pumpLoop_isSome reducers executor loop
  · intro executor loop reached exhausted reducers
    subst reached
    have holds := invariant executor rfl
    have applies := executor.pumpAction_applies loop
    rw [exhausted] at applies
    rw [Executor.exhausted_switches (holds.unwinding_false applies) exhausted]
    simp
  intro executor loop reached reducers
  subst reached
  exact Executor.pumpLoop_isSome_of_invariant reducers (invariant executor rfl) loop

/-- The instruction budget is exhausted while a pump is under way. -/
def Machine.exhausted : Machine → Bool
  | .started executor (some loop) => executor.pumpAction loop = .instructionBudgetExhausted
  | _ => false

/-- The third instruction of the sample exceeds a budget of two.  Its pump
returns, and the program unwinds. -/
theorem ExecutorRun.pumpReturns_sample : ∃ history executor loop,
      ExecutorRun .integers UnwindingContinues history (.started executor (some loop)) ∧
      PumpReturns .integers (.started executor (some loop)) ∧
      executor.pumpAction loop = .instructionBudgetExhausted ∧
      ∀ reducers, (executor.pumpIteration .integers reducers loop).2.1.activity ≠ .runnable := by
  obtain ⟨history, machine, run, exhausted⟩ :=
    exists_continuing_of_replay
      (.start Sample.verified (Sample.invocation 2) :: Sample.pump 4 2)
      (fun _ => Machine.exhausted) (by decide +kernel)
  cases machine with
  | idle => cases exhausted
  | started executor loop =>
    cases loop with
    | none => cases exhausted
    | some loop =>
      have returns := (pumpReturns run).1
      have exhausted := of_decide_eq_true exhausted
      exact ⟨history, executor, loop, run, returns, exhausted, returns.switches _ _ rfl exhausted⟩

/-- The first instruction of a pump was executed, the budget of six is exhausted
and the executor is runnable although it unwinds. -/
def Machine.spinning : Machine → Bool
  | .started executor (some loop) =>
    executor.unwinding && executor.activity = .runnable &&
      !executor.frames.isEmpty && loop = ⟨1, 0⟩ && executor.limits.maximumInstructions = 6 &&
      executor.instructionsExecuted = 6
  | _ => false

/-- A pump that is allowed one instruction does not return for as long as the
instruction counter has values left, because the exhausted instruction budget
leaves the resumed sample runnable. -/
theorem ExecutorRun.not_pumpReturns : ∃ history executor loop,
      ExecutorRun .integers (fun _ _ => True) history (.started executor (some loop)) ∧
      loop = ⟨1, 0⟩ ∧ ¬ PumpReturns .integers (.started executor (some loop)) ∧
      ∀ reducers, executor.pumpLoop .integers reducers (2 ^ 64 - 16) loop = none := by
  obtain ⟨history, machine, run, spinning⟩ :=
    exists_of_replay (Sample.resumed 6 ++ [.pump 1 .none])
      (fun _ => Machine.spinning) (by decide +kernel)
  cases machine with
  | idle => cases spinning
  | started executor loop =>
    cases loop with
    | none => cases spinning
    | some loop =>
      simp only [Machine.spinning, Bool.and_eq_true, decide_eq_true_eq,
        Bool.not_eq_true', List.isEmpty_eq_false_iff] at spinning
      obtain ⟨⟨⟨⟨⟨unwinding, runnable⟩, frames⟩, rfl⟩, limit⟩, counted⟩ := spinning
      have spins : Executor.Spins (2 ^ 64 - 16) (executor, ⟨1, 0⟩) :=
        { unwinding, runnable, frames
          unspent := show (0 : UInt64) < 1 by decide
          exhausted := by simp [limit, counted]
          counter := by simp [counted] }
      refine ⟨history, executor, ⟨1, 0⟩, run, rfl, ?_, fun reducers =>
        spins.pumpLoop_eq_none reducers⟩
      intro returns
      have switched := returns.switches executor ⟨1, 0⟩ rfl spins.pumpAction none
      rw [spins.pumpIteration] at switched
      exact switched runnable

end Savor.Program

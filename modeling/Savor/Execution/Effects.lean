import Savor.Execution.Accounts
import Savor.Library.Sequence

/-!
# Effect budgets

The action requests, emissions, artifacts, trace events and calls of a run stay
within the budgets of its invocation, and their sequence numbers have no gaps.
A deferred action is charged when it is registered, so the invariant counts the
requests already made together with the actions still registered.
-/

namespace Savor.Program

open Library
open Machine
open Executor

/-- The invariant of the effect accounts after `issued` action requests.  In a
strict run no counter wraps around. -/
structure EffectInvariant (strict : Prop) (issued : Nat) (accounts : Accounts) : Prop where
  /-- Every action was charged, whether it was requested or is registered. -/
  charged : strict → issued + accounts.deferred ≤ accounts.actionRequests.toNat
  requests : strict → issued + accounts.deferred ≤ accounts.limits.maximumActionRequests.toNat
  emissionsCharged : strict → accounts.emitted.length ≤ accounts.emissions.toNat
  emissions : strict → accounts.emitted.length ≤ accounts.limits.maximumEmissions.toNat
  emissionNumbers : accounts.emitted.length < 2 ^ 64 →
    Numbered (accounts.emitted.map (·.sequence.value)) accounts.nextEmission
  artifactsCharged : strict → accounts.published.length ≤ accounts.artifacts.toNat
  artifacts : strict → accounts.published.length ≤ accounts.limits.maximumArtifacts.toNat
  artifactNumbers : accounts.published.length < 2 ^ 64 →
    Numbered (accounts.published.map (·.sequence.value)) accounts.nextArtifact
  trace : accounts.traced.length ≤ accounts.limits.maximumTraceEvents.toNat
  traceNumbers : Numbered (accounts.traced.map (·.sequence.value)) accounts.nextTrace
  depth : accounts.environments.length ≤ accounts.limits.maximumCallDepth.toNat

/-- A counter that does not wrap around grows by one. -/
theorem counter_succ {counter : UInt64} (unwrapped : counter + 1 ≠ 0) :
    (counter + 1).toNat = counter.toNat + 1 := by
  have bound := counter.toNat_lt
  have sum : (counter + 1).toNat = (counter.toNat + 1) % 2 ^ 64 := by
    rw [UInt64.toNat_add, UInt64.toNat_one]
  have nonzero : (counter + 1).toNat ≠ 0 := by
    intro zero
    exact unwrapped (UInt64.toNat_inj.mp (by rw [zero, UInt64.toNat_zero]))
  omega

namespace EffectInvariant

variable {strict : Prop} {issued : Nat} {accounts after : Accounts}

theorem initial (opened : accounts.Initial) : EffectInvariant strict 0 accounts where
  charged := by simp [opened.deferred]
  requests := by simp [opened.deferred]
  emissionsCharged := by simp [opened.emitted]
  emissions := by simp [opened.emitted]
  emissionNumbers := by
    rw [opened.emitted, opened.nextEmission]
    exact fun _ => .nil
  artifactsCharged := by simp [opened.published]
  artifacts := by simp [opened.published]
  artifactNumbers := by
    rw [opened.published, opened.nextArtifact]
    exact fun _ => .nil
  trace := by simp [opened.traced]
  traceNumbers := by
    rw [opened.traced, opened.nextTrace]
    exact .nil
  depth := by
    obtain ⟨id, value, measured, environments, -⟩ := opened.input
    rw [environments]
    exact opened.depth

/-- A step whose charge does not wrap around keeps the invariant. -/
theorem step (invariant : EffectInvariant strict issued accounts)
    {copies wraps : Prop} {request : Option ExecutorHostRequest}
    (step : AccountStep copies wraps accounts request after) (fits : strict → ¬wraps) :
    EffectInvariant strict (issued + request.toList.length) after := by
  cases step with
  | traced within numbered =>
    have room := accounts.limits.maximumTraceEvents.toNat_lt
    refine { invariant with trace := ?_, traceNumbers := ?_ }
    · simp only [List.length_append, List.length_singleton]
      omega
    have extended := invariant.traceNumbers.snoc (by rw [List.length_map]; omega)
    simpa [numbered] using extended
  | bound | entered => exact { invariant with depth := by simpa using invariant.depth }
  | called shallow => exact { invariant with depth := shallow }
  | returned =>
    have depth := invariant.depth
    refine { invariant with depth := ?_ }
    simp only [List.length_tail]
    omega
  | requestRefused wrapped =>
    refine { invariant with charged := fun strict => ?_ }
    have grown := counter_succ fun zero => fits strict (wrapped zero)
    have charged := invariant.charged strict
    simp only [Option.toList_none, List.length_nil]
    omega
  | awaited within wrapped =>
    have bound := UInt64.le_iff_toNat_le.mp within
    refine { invariant with charged := fun strict => ?_, requests := fun strict => ?_ } <;>
    · have grown := counter_succ fun zero => fits strict (wrapped zero)
      have charged := invariant.charged strict
      simp only [Option.toList_some, List.length_singleton]
      omega
  | registered within wrapped =>
    have bound := UInt64.le_iff_toNat_le.mp within
    refine { invariant with charged := fun strict => ?_, requests := fun strict => ?_ } <;>
    · have grown := counter_succ fun zero => fits strict (wrapped zero)
      have charged := invariant.charged strict
      simp only [Option.toList_none, List.length_nil]
      omega
  | issued registered =>
    refine { invariant with charged := fun strict => ?_, requests := fun strict => ?_ } <;>
    · have charged := invariant.charged strict
      have requests := invariant.requests strict
      simp only [Option.toList_some, List.length_singleton]
      omega
  | dropped closes =>
    refine { invariant with charged := fun strict => ?_, requests := fun strict => ?_ } <;>
    · have charged := invariant.charged strict
      have requests := invariant.requests strict
      simp only [Option.toList_none, List.length_nil]
      omega
  | emissionRefused wrapped =>
    refine { invariant with emissionsCharged := fun strict => ?_ }
    have grown := counter_succ fun zero => fits strict (wrapped zero)
    have charged := invariant.emissionsCharged strict
    simp only
    omega
  | emitted within wrapped numbered =>
    have bound := UInt64.le_iff_toNat_le.mp within
    refine { invariant with
      emissionsCharged := fun strict => ?_, emissions := fun strict => ?_
      emissionNumbers := fun few => ?_ }
    iterate 2
      have grown := counter_succ fun zero => fits strict (wrapped zero)
      have charged := invariant.emissionsCharged strict
      simp only [List.length_append, List.length_singleton]
      omega
    rw [List.length_append, List.length_singleton] at few
    have extended := (invariant.emissionNumbers (by omega)).snoc (by rwa [List.length_map])
    simpa [numbered] using extended
  | artifactRefused wrapped =>
    refine { invariant with artifactsCharged := fun strict => ?_ }
    have grown := counter_succ fun zero => fits strict (wrapped zero)
    have charged := invariant.artifactsCharged strict
    simp only
    omega
  | published within wrapped numbered =>
    have bound := UInt64.le_iff_toNat_le.mp within
    refine { invariant with
      artifactsCharged := fun strict => ?_, artifacts := fun strict => ?_
      artifactNumbers := fun few => ?_ }
    iterate 2
      have grown := counter_succ fun zero => fits strict (wrapped zero)
      have charged := invariant.artifactsCharged strict
      simp only [List.length_append, List.length_singleton]
      omega
    rw [List.length_append, List.length_singleton] at few
    have extended := (invariant.artifactNumbers (by omega)).snoc (by rwa [List.length_map])
    simpa [numbered] using extended

theorem path (invariant : EffectInvariant strict issued accounts)
    {copies wraps : Prop} {requests : ActionRequests}
    (path : AccountPath copies wraps accounts requests after) (fits : strict → ¬wraps) :
    EffectInvariant strict (issued + requests.length) after := by
  induction path generalizing issued with
  | refl => exact invariant
  | step first _ ih =>
    rw [List.length_append, ← Nat.add_assoc]
    exact ih (invariant.step first fits)

end EffectInvariant

/-- The trace and the calls of an executor stay within their budgets, and the
sequence numbers are 1, 2, 3 and so on. -/
structure EffectsRecorded (executor : Executor) : Prop where
  trace : executor.result.trace.length ≤ executor.limits.maximumTraceEvents.toNat
  depth : executor.frames.length ≤ executor.limits.maximumCallDepth.toNat
  emissionNumbers : executor.result.emissions.length < 2 ^ 64 →
    executor.result.emissions.map (·.sequence.value.toNat) =
      List.range' 1 executor.result.emissions.length
  artifactNumbers : executor.result.artifacts.length < 2 ^ 64 →
    executor.result.artifacts.map (·.sequence.value.toNat) =
      List.range' 1 executor.result.artifacts.length
  traceNumbers : executor.result.trace.map (·.sequence.value.toNat) =
    List.range' 1 executor.result.trace.length

/-- What a run that reached this executor has done stays within its budgets. -/
structure EffectsWithinBudgets (history : List ExecutorTransition)
    (executor : Executor) : Prop extends EffectsRecorded executor where
  requests : (history.flatMap (·.event.actionRequests)).length ≤
    executor.limits.maximumActionRequests.toNat
  emissions : executor.result.emissions.length ≤ executor.limits.maximumEmissions.toNat
  artifacts : executor.result.artifacts.length ≤ executor.limits.maximumArtifacts.toNat

/-- The call charges no 64-bit counter that is at its maximum. -/
def CountersFit (machine : Machine) (input : ExecutorInput) : Prop :=
  machine.wrapsCounter input = false

section Runs

variable {floats : FloatUnit} {history : List ExecutorTransition}
variable {Allowed : Machine → ExecutorInput → Prop}

theorem ExecutorRun.effectInvariant {strict : Prop} {machine : Machine}
    (run : ExecutorRun floats Allowed history machine)
    (fits : strict → ∀ machine input, Allowed machine input → CountersFit machine input) :
    (machine = .idle ∧ history.flatMap (·.event.actionRequests) = []) ∨
      ∃ executor loop, machine = .started executor loop ∧ EffectInvariant strict
        (history.flatMap (·.event.actionRequests)).length executor.accounts := by
  induction run with
  | nil => exact .inl ⟨rfl, rfl⟩
  | @snoc earlier state input event next run allowed stepped ih =>
      rw [List.flatMap_append, List.flatMap_singleton]
      rcases ih with
        ⟨rfl, empty⟩ | ⟨executor, loop, rfl, invariant⟩
      · rw [empty, step_idle_silent stepped]
        rcases step_idle stepped with
          rfl | ⟨verified, invocation, executor, rfl, accepted, rfl⟩
        · exact .inl ⟨rfl, rfl⟩
        obtain ⟨opened, initial, path⟩ := start_accounts accepted False False
        exact .inr ⟨executor, none, rfl, (EffectInvariant.initial initial).path path fun _ => id⟩
      obtain ⟨executor', loop', rfl, path⟩ := step_accounts stepped
      rw [List.length_append]
      refine .inr ⟨executor', loop', rfl, invariant.path path fun strict => ?_⟩
      rw [fits strict _ _ allowed]
      simp

/-- Every run records its effects, and if no counter wraps around, they stay
within the budgets. -/
theorem ExecutorRun.effectsWithinBudgets {executor : Executor} {loop : Option PumpLoop}
    (run : ExecutorRun floats Allowed history (.started executor loop)) :
    EffectsRecorded executor ∧
      ((∀ machine input, Allowed machine input → CountersFit machine input) →
        EffectsWithinBudgets history executor) := by
  rcases run.effectInvariant id with ⟨absurd, _⟩ | ⟨_, _, same, invariant⟩
  · cases absurd
  cases same
  have depth := invariant.depth
  have trace := invariant.traceNumbers.counted
  rw [List.map_map, List.length_map] at trace
  have recorded : EffectsRecorded executor :=
    { trace := invariant.trace
      depth := by simpa [accounts] using depth
      emissionNumbers := fun few => by
        have numbers := (invariant.emissionNumbers few).counted
        rwa [List.map_map, List.length_map] at numbers
      artifactNumbers := fun few => by
        have numbers := (invariant.artifactNumbers few).counted
        rwa [List.map_map, List.length_map] at numbers
      traceNumbers := trace }
  refine ⟨recorded, fun fits => { recorded with
    requests := le_trans (Nat.le_add_right _ _) (invariant.requests fits)
    emissions := invariant.emissions fits
    artifacts := invariant.artifacts fits }⟩

end Runs

/-- The run that cancels the sample and lets its compensations fail. -/
theorem ExecutorRun.effectsWithinBudgets_sample : ∃ history executor loop,
      ExecutorRun .integers CountersFit history (.started executor loop) ∧
      (history.flatMap (·.event.actionRequests)).length = 2 ∧
      EffectsWithinBudgets history executor := by
  obtain ⟨history, machine, run, -, started, requests⟩ : ∃ history machine,
      ExecutorRun .integers CountersFit history machine ∧
        (∀ transition ∈ history, transition.before.wrapsCounter transition.input = false) ∧
        machine.executor?.isSome = true ∧ (history.flatMap (·.event.actionRequests)).length = 2 :=
    Run.exists_of_replay Sample.unwound _ (by decide +kernel) fun _ _ passes => passes.1
  cases machine with
  | idle => cases started
  | started executor loop =>
    exact ⟨history, executor, loop, run, requests,
      (ExecutorRun.effectsWithinBudgets run).2 fun _ _ => id⟩

/-!
## A counter that wraps around

An unwinding program that runs on tries an instruction whose budget is
exhausted again in every round, since the failure does nothing any more.  Every
try counts, until the counter wraps around and the effect is let through.
-/

/-- The executor unwinds, runs on without a limit, and stands at the
instruction. -/
@[mk_iff]
structure Executor.Retries (executor : Executor) (instruction : Instruction) : Prop where
  runnable : executor.activity = .runnable
  unwinding : executor.unwinding = true
  untraced : executor.invocation.execution.recordTrace = false
  unlimited : executor.limits.maximumInstructions = 0xffffffffffffffff
  stands : executor.frame?.bind (fun frame =>
    frame.block.bind (·.instructions[frame.instructionIndex]?)) = some instruction

instance (executor : Executor) : DecidablePred executor.Retries :=
  fun instruction => decidable_of_iff' _ (Executor.retries_iff executor instruction)

/-- A run between two pumps reaches the executor with at least so many action
requests. -/
def Reaches (requests : Nat) (executor : Executor) : Prop :=
  ∃ history, ExecutorRun .integers (fun _ _ => True) history (.started executor none) ∧
    requests ≤ (history.flatMap (·.event.actionRequests)).length

namespace Executor.Retries

variable {executor after : Executor} {instruction next : Instruction} {requests : Nat}

theorem pumpAction (retries : executor.Retries instruction) :
    executor.pumpAction ⟨1, 0⟩ = .instruction instruction := by
  have within : ¬ executor.instructionsExecuted + 1 > executor.limits.maximumInstructions := by
    have bound := (executor.instructionsExecuted + 1).toNat_lt
    rw [retries.unlimited, gt_iff_lt, UInt64.lt_iff_toNat_lt]
    change ¬ 2 ^ 64 - 1 < _
    omega
  obtain ⟨frame, current, stands⟩ := Option.bind_eq_some_iff.mp retries.stands
  obtain ⟨block, entered, here⟩ := Option.bind_eq_some_iff.mp stands
  unfold Executor.pumpAction
  rw [if_neg (by decide), retries.runnable, if_neg (by decide), current]
  simp only [if_neg within, entered, here]

theorem pumps (retries : executor.Retries instruction) :
    step .integers (.pump 1 .none) (.started executor none) =
      some (.pumpEntered, .started executor (some ⟨1, 0⟩)) := by
  have entered : executor.pump 1 .none = (none, executor) := by
    unfold pump
    rw [retries.runnable, if_neg (by decide), if_neg (by decide), if_neg (by decide),
      retries.unwinding, if_neg (by simp)]
  simp only [step, entered]

theorem execute (retries : executor.Retries instruction) :
    executeInstruction .integers none executor.countInstruction instruction =
      executeOpcode .integers none executor.countInstruction instruction := by
  unfold executeInstruction trace
  rw [if_pos (by simp [countInstruction, retries.untraced])]

/-- A failure does nothing. -/
theorem fails (retries : executor.Retries instruction) (status : ProgramInfrastructureStatus)
    (code message : ByteString) (source : ProgramSourceLocationId) :
    executor.beginFailure status code message source = executor := by
  rw [beginFailure, retries.unwinding, Bool.true_or, if_pos rfl]

/-- A round of the instruction, after which the pump returns. -/
theorem round (retries : executor.Retries instruction) (result : PumpResult)
    (executed : executeOpcode .integers none executor.countInstruction instruction =
      (result, after))
    (quiet : result.hostRequest = none ∧ result.terminal = none ∧ result.emission = none)
    (again : after.Retries next) (reached : Reaches requests executor) :
    Reaches requests after := by
  obtain ⟨history, run, requested⟩ := reached
  have iterates : step .integers (.iterate none) (.started executor (some ⟨1, 0⟩)) =
      some (.iterated (.instruction instruction) none, .started after (some ⟨1, 1⟩)) := by
    simp [step, pumpIteration, retries.pumpAction, retries.execute, executed, continueLoop, quiet]
  have spent : step .integers (.iterate none) (.started after (some ⟨1, 1⟩)) =
      some (.iterated .quantumSpent (some { runnable := true }), .started after none) := by
    have action : after.pumpAction ⟨1, 1⟩ = .quantumSpent := if_pos (by decide)
    simp [step, pumpIteration, action, again.runnable]
  refine ⟨_, ((run.snoc trivial retries.pumps).snoc trivial iterates).snoc trivial spent, ?_⟩
  simp only [List.flatMap_append, List.length_append]
  omega

/-- The instruction makes the pump return. -/
theorem returns (retries : executor.Retries instruction) (result : PumpResult)
    (executed : executeOpcode .integers none executor.countInstruction instruction =
      (result, after)) (told : result.hostRequest.isSome ∨ result.emission.isSome)
    (reached : Reaches requests executor) :
    Reaches (requests + result.actionRequests.length) after := by
  obtain ⟨history, run, requested⟩ := reached
  have iterates : step .integers (.iterate none) (.started executor (some ⟨1, 0⟩)) =
      some (.iterated (.instruction instruction) (some result), .started after none) := by
    rcases told with told | told <;>
      simp [step, pumpIteration, retries.pumpAction, retries.execute, executed, continueLoop, told]
  refine ⟨_, (run.snoc trivial retries.pumps).snoc trivial iterates, ?_⟩
  rw [List.flatMap_append, List.flatMap_append, List.flatMap_singleton, List.flatMap_singleton,
    List.length_append, List.length_append]
  exact Nat.add_le_add_right requested _

end Executor.Retries

namespace Reaches

variable {executor : Executor} {instruction next : Instruction} {requests : Nat}
variable {value : ProgramValueGraph}

/-- A spent counter is counted up until it wraps around, and the instruction is
let through.  The induction is on what is left of the counter. -/
theorem wraps {limit counter executed : UInt64} {family : UInt64 → UInt64 → Executor}
    (accepted : UInt64 → UInt64 → PumpResult × Executor)
    (again : ∀ executed counter, (family executed counter).Retries instruction)
    (executes : ∀ executed counter,
      executeOpcode .integers none (family executed counter).countInstruction instruction =
        if counter + 1 > limit then ({}, family (executed + 1) (counter + 1))
        else accepted (executed + 1) (counter + 1))
    (spent : limit ≤ counter) (reached : Reaches requests (family executed counter)) :
    ∃ executed executor, Reaches requests executor ∧ executor.Retries instruction ∧
      executeOpcode .integers none executor.countInstruction instruction = accepted executed 0 := by
  have bound := counter.toNat_lt
  induction left : 2 ^ 64 - 1 - counter.toNat generalizing counter executed with
  | zero =>
    have wrapped : counter + 1 = 0 := UInt64.toNat_inj.mp (by
      rw [UInt64.toNat_add, UInt64.toNat_one, UInt64.toNat_zero]
      omega)
    refine ⟨executed + 1, _, reached, again _ _, ?_⟩
    rw [executes, wrapped, if_neg]
    rw [gt_iff_lt, UInt64.lt_iff_toNat_lt]
    exact Nat.not_lt_zero _
  | succ left ih =>
    have grown : (counter + 1).toNat = counter.toNat + 1 := counter_succ fun zero => by
      have sum := congrArg UInt64.toNat zero
      rw [UInt64.toNat_add, UInt64.toNat_one, UInt64.toNat_zero] at sum
      omega
    have exceeds : counter + 1 > limit := by
      rw [UInt64.le_iff_toNat_le] at spent
      rw [gt_iff_lt, UInt64.lt_iff_toNat_lt]
      omega
    have further := (again executed counter).round {} ((executes _ _).trans (if_pos exceeds))
      ⟨rfl, rfl, rfl⟩ (again _ _) reached
    exact ih (UInt64.le_of_lt exceeds) further (counter + 1).toNat_lt (by omega)

/-- An emission beyond the budget. -/
theorem emits (reached : Reaches requests executor) (retries : executor.Retries instruction)
    (opcode : instruction.opcode = .emitRecord)
    (operand : executor.operand instruction 0 = some value)
    (named : (value.rootValue.bind (·.type.named)).isSome)
    (spent : executor.limits.maximumEmissions ≤ executor.emissions) :
    ∃ executed emission, Reaches requests { executor.advance with
      instructionsExecuted := executed
      emissions := 0
      nextEmission := executor.nextEmission + 1
      result := { executor.result with
        emissions := executor.result.emissions ++ [emission] } } := by
  obtain ⟨schema, named⟩ := Option.isSome_iff_exists.mp named
  let family (executed emissions : UInt64) : Executor :=
    { executor with instructionsExecuted := executed, emissions }
  have again (executed counter) : (family executed counter).Retries instruction := { retries with }
  let emission : ProgramEmission := ⟨⟨executor.nextEmission⟩, schema, value, true⟩
  let emitted (executed emissions : UInt64) : Executor := { executor.advance with
    instructionsExecuted := executed
    emissions
    nextEmission := executor.nextEmission + 1
    result := { executor.result with emissions := executor.result.emissions ++ [emission] } }
  obtain ⟨executed, _, last, stands, executes⟩ := wraps
    (fun executed counter => ({ runnable := true, emission }, emitted executed counter)) again
    (fun executed counter => by
      have present : (family executed counter).countInstruction.operand instruction 0 =
          some value := operand
      simp only [executeOpcode, opcode, executeEmitRecord, present, named]
      exact if_congr Iff.rfl (Prod.ext rfl ((again _ _).fails _ _ _ _)) rfl) spent reached
  exact ⟨executed, emission, stands.returns _ executes (.inr rfl) last⟩

/-- An artifact published beyond the budget. -/
theorem publishes (reached : Reaches requests executor) (retries : executor.Retries instruction)
    (ahead : executor.advance.Retries next) (opcode : instruction.opcode = .publishArtifact)
    {artifact : ArtifactReferenceValue} (operand : executor.operand instruction 0 = some value)
    (payload : rootPayload value = some (.artifact artifact)) (complete : artifact.complete = true)
    (spent : executor.limits.maximumArtifacts ≤ executor.artifacts) :
    ∃ executed, Reaches requests { executor.advance with
      instructionsExecuted := executed
      artifacts := 0
      nextArtifact := executor.nextArtifact + 1
      result := { executor.result with
        artifacts := executor.result.artifacts ++ [⟨⟨executor.nextArtifact⟩, artifact⟩] } } := by
  let family (executed artifacts : UInt64) : Executor :=
    { executor with instructionsExecuted := executed, artifacts }
  have again (executed counter) : (family executed counter).Retries instruction := { retries with }
  let published (executed artifacts : UInt64) : Executor := { executor.advance with
    instructionsExecuted := executed
    artifacts
    nextArtifact := executor.nextArtifact + 1
    result := { executor.result with
      artifacts := executor.result.artifacts ++ [⟨⟨executor.nextArtifact⟩, artifact⟩] } }
  obtain ⟨executed, _, last, stands, executes⟩ := wraps
    (fun executed counter => ({ runnable := true }, published executed counter)) again
    (fun executed counter => by
      have present : (family executed counter).countInstruction.operand instruction 0 =
          some value := operand
      simp only [executeOpcode, opcode, executePublishArtifact, present, payload, complete]
      exact if_congr Iff.rfl (Prod.ext rfl ((again _ _).fails _ _ _ _)) rfl) spent reached
  exact ⟨executed, stands.round _ executes ⟨rfl, rfl, rfl⟩ { ahead with } last⟩

/-- An action requested beyond the budget. -/
theorem awaits (reached : Reaches requests executor) (retries : executor.Retries instruction)
    (opcode : instruction.opcode = .awaitAction) {dependency : ExactDependencyIdentity}
    (named : instruction.target.dependency = some dependency) {descriptor : ActionDescriptor}
    (imported : executor.verified.action dependency = some descriptor)
    (built : executor.buildInput instruction descriptor.inputType = some value)
    (spent : executor.limits.maximumActionRequests ≤ executor.actionRequests) :
    ∃ after, Reaches (requests + 1) after ∧ after.limits = executor.limits ∧
      after.result = executor.result := by
  let family (executed actionRequests : UInt64) : Executor :=
    { executor with instructionsExecuted := executed, actionRequests }
  have again (executed counter) : (family executed counter).Retries instruction := { retries with }
  let request : ExecutorHostRequest :=
    { operation := .invokeAction
      action := some dependency
      input := value
      scope := executor.innermost.id
      parentScope := executor.innermost.parent
      diagnosticSelector := instruction.selector }
  obtain ⟨executed, _, last, stands, executes⟩ := wraps
    (fun executed counter => (family executed counter).advance.suspend request .bindValue
      (instruction.result.map (·.id))) again
    (fun executed counter => by
      have found : (family executed counter).countInstruction.verified.action dependency =
          some descriptor := imported
      have input : (family executed counter).countInstruction.buildInput instruction
          descriptor.inputType = some value := built
      simp only [executeOpcode, opcode, executeAwaitAction, named, found, input]
      exact if_congr Iff.rfl (Prod.ext rfl ((again _ _).fails _ _ _ _)) rfl) spent reached
  exact ⟨_, stands.returns _ executes (.inl rfl) last, rfl, rfl⟩

end Reaches

namespace Sample

def report : SchemaIdentity := ⟨text "report", 1, .filled 4⟩

def file : SchemaIdentity := ⟨text "file", 1, .filled 5⟩

/-- A record with a reference to an artifact, and the type of the reference. -/
def reportSchemas : List TypeSchemaDefinition :=
  [{ identity := report
     kind := .record
     maximumSize := 0
     elementType := none
     enumMembers := []
     recordFields := [⟨text "file", .ofNamed file⟩]
     permitsIncomplete := false },
   { identity := file
     kind := .artifactReference
     maximumSize := 0
     elementType := some (.ofNamed file)
     enumMembers := []
     recordFields := []
     permitsIncomplete := false }]

def reported : ArtifactReferenceValue := ⟨text "a", file, .filled 6, text "b", true⟩

def projecting : Instruction where
  id := ⟨2⟩
  opcode := .recordProject
  sourceLocation := location
  result := some ⟨⟨2⟩, .ofNamed file⟩
  operands := [⟨1⟩]
  selector := text "file"

def emitting : Instruction := ⟨⟨6⟩, .emitRecord, location, none, [⟨1⟩], none, {}, [], 0, .none⟩

def publishing : Instruction := { emitting with
  id := ⟨7⟩, opcode := .publishArtifact, operands := [⟨2⟩] }

def awaiting : Instruction := { defer 8 3 with
  opcode := .awaitAction, result := some ⟨⟨8⟩, number⟩ }

/-- Defer a compensation, and then emit the report, publish its artifact and
await an action. -/
def reporter : ProgramFunction := { function with
  arguments := [⟨⟨1⟩, .ofNamed report⟩]
  domainOutcomeType := some (.ofNamed report)
  blocks := [{ block with
    instructions := [projecting, constant 3 10, moveScope 4 .enterScope, defer 5 3,
      emitting, publishing, awaiting, moveScope 9 .exitScope]
    terminator := { block.terminator with returnValue := some ⟨3⟩ } }] }

/-- The instructions are limited only by their counter, and no value fits beside
those of the program. -/
def reporterBudgets : ProgramBudgets := { budgets 0xffffffffffffffff with
  maximumActionRequests := 1, maximumValues := 4, maximumValueBytes := 0xffff }

def verifiedReporter : VerifiedProgramModule :=
  let module := { module with
    entrypoints := [{ entrypoint with
      inputType := .ofNamed report
      domainOutcomeType := .ofNamed report
      emissionSchemas := [report]
      artifactSchemas := [file] }]
    functions := [reporter]
    localTypes := reportSchemas
    budgets := reporterBudgets }
  { verified with module, moduleClosure := [module], typeClosure := reportSchemas }

/-- No emission and no artifact is allowed, and one action request. -/
def reporterInvocation : ProgramInvocation := { invocation 1 with
  input := compositeGraph (.ofNamed report) [scalarGraph (.ofNamed file) (.artifact reported)] false
  limits := { reporterBudgets with maximumEmissions := 0, maximumArtifacts := 0 } }

/-- Cancel after the compensation is deferred, and answer its request with a
number that exceeds the value budget. -/
def reporterResumed : List ExecutorInput :=
  .start verifiedReporter reporterInvocation ::
    pump 3 3 ++ complete 1 .openScope .completed unitGraph ++
    pump 1 2 ++ [.requestCancellation .externalRequest] ++ pump 1 1 ++
    complete 2 .invokeAction .completed (numberGraph 0)

/-- The reporter stands before its emission, with the budgets of its three
effects spent. -/
def Overdraws (executor : Executor) : Prop :=
  let published := executor.advance
  let awaited := published.advance
  executor.Retries emitting ∧ published.Retries publishing ∧ awaited.Retries awaiting ∧
    executor.operand emitting 0 = some reporterInvocation.input ∧
    (published.operand publishing 0).bind rootPayload = some (.artifact reported) ∧
    awaited.verified.action revert = some revertDescriptor ∧
    (awaited.buildInput awaiting number).isSome ∧ executor.limits = reporterInvocation.limits ∧
    (executor.emissions, executor.artifacts, executor.actionRequests) = (0, 0, 1)

instance : DecidablePred Overdraws := fun _ => by
  unfold Overdraws
  infer_instance

def overdraws : Machine → Bool
  | .started executor none => Overdraws executor
  | _ => false

end Sample

/-- A program that unwinds and runs on emits, publishes and requests more than
its budgets once the counters wrap around. -/
theorem ExecutorRun.not_effectsWithinBudgets : ∃ history executor,
      ExecutorRun .integers (fun _ _ => True) history (.started executor none) ∧
      ¬ EffectsWithinBudgets history executor ∧ executor.limits.maximumActionRequests.toNat <
        (history.flatMap (·.event.actionRequests)).length ∧
      executor.limits.maximumEmissions.toNat < executor.result.emissions.length ∧
      executor.limits.maximumArtifacts.toNat < executor.result.artifacts.length := by
  obtain ⟨history, machine, run, reached⟩ := ExecutorRun.exists_of_replay Sample.reporterResumed
    (fun history machine => Sample.overdraws machine &&
      (history.flatMap (·.event.actionRequests)).length == 1) (by decide +kernel)
  rw [Bool.and_eq_true, beq_iff_eq] at reached
  obtain ⟨overdraws, requested⟩ := reached
  unfold Sample.overdraws at overdraws
  split at overdraws
  case h_2 => cases overdraws
  rename_i executor
  obtain ⟨emitting, publishing, awaiting, report, file, imported, input, limits, counters⟩ :=
    of_decide_eq_true overdraws
  simp only [Prod.mk.injEq] at counters
  obtain ⟨value, operand, payload⟩ := Option.bind_eq_some_iff.mp file
  obtain ⟨input, built⟩ := Option.isSome_iff_exists.mp input
  have spent : executor.limits.maximumEmissions ≤ executor.emissions ∧
      executor.limits.maximumArtifacts ≤ executor.artifacts ∧
      executor.limits.maximumActionRequests ≤ executor.actionRequests := by
    rw [limits, counters.1, counters.2.1, counters.2.2]
    decide
  have started : Reaches 1 executor := ⟨history, run, requested.ge⟩
  obtain ⟨_, emission, emitted⟩ := started.emits emitting rfl report (by decide +kernel) spent.1
  obtain ⟨_, published⟩ := emitted.publishes { publishing with } { awaiting with } rfl
    operand payload rfl spent.2.1
  obtain ⟨after, ⟨history, run, requested⟩, sameLimits, result⟩ := published.awaits
    { awaiting with } rfl rfl imported built spent.2.2
  have budgets : after.limits = Sample.reporterInvocation.limits := sameLimits.trans limits
  have emissions : after.result.emissions = executor.result.emissions ++ [emission] :=
    congrArg (·.emissions) result
  have artifacts : after.result.artifacts = executor.result.artifacts ++ [_] :=
    congrArg (·.artifacts) result
  have requests : after.limits.maximumActionRequests.toNat <
      (history.flatMap (·.event.actionRequests)).length := by
    rw [budgets]
    exact requested
  refine ⟨history, after, run, fun within => absurd within.requests (Nat.not_le.mpr requests),
    requests, ?_, ?_⟩
  · rw [budgets, emissions, List.length_append]
    exact Nat.succ_pos _
  · rw [budgets, artifacts, List.length_append]
    exact Nat.succ_pos _

end Savor.Program

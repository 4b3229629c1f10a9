import Savor.Execution.Values

/-!
# The value budget of a completion

`DeliverHostCompletion` measures the output of an awaited action before it is
bound.  It counts the value that the output replaces and an output that nothing
is bound to, where `Bind` does not.
-/

namespace Savor.Program

open Library

namespace Executor

/-- A value fits beside so many retained values and bytes. -/
def Fits (executor : Executor) (count bytes : Nat) (value : ProgramValueGraph) : Prop :=
  ∃ measured, measureProgramValueGraph value (executor.remainingLimits count bytes) = .ok measured

/-- The invocation ends here because its value budget is exhausted. -/
structure EndsWithValueBudget (before after : Executor) : Prop where
  running : before.unwinding = false
  unwinds : after.unwinding = true
  status : after.result.infrastructure = .budgetExhausted
  code : after.result.diagnostics.getLast?.map (·.code) = some (text "value_budget")

instance (before after : Executor) : Decidable (EndsWithValueBudget before after) :=
  decidable_of_iff (_ ∧ _ ∧ _ ∧ _)
    ⟨fun ⟨running, unwinds, status, code⟩ => ⟨running, unwinds, status, code⟩,
      fun ends => ⟨ends.running, ends.unwinds, ends.status, ends.code⟩⟩

/-- An awaited action, and a completed answer to it with an output that its
output type admits within some budget. -/
structure AwaitsOutput (executor : Executor) (pending : PendingHost)
    (descriptor : ActionDescriptor) (completion : ProgramActionResolution) : Prop where
  waits : executor.pending = some pending
  operation : pending.request.operation = .invokeAction
  action : pending.request.action.bind executor.verified.action = some descriptor
  answers : executor.completionMatches pending completion = true
  epoch : executor.epochMatches completion = true
  completed : completion.status = .completed
  valid : ∃ limits, validateProgramValueGraph completion.output
    descriptor.outputType executor.verified.typeClosure limits
    (some completion.worksetEpoch) = .ok ()

/-- The delivery ends the invocation with an exhausted value budget exactly when
binding the output to the pending result does. -/
def ChargedAlike (executor : Executor) (pending : PendingHost)
    (descriptor : ActionDescriptor) (completion : ProgramActionResolution) : Prop :=
  EndsWithValueBudget executor (executor.deliverHostCompletion completion).2 ↔
    ∃ result, pending.result = some result ∧
      EndsWithValueBudget executor (executor.bind result descriptor.outputType completion.output).2

variable {executor other after : Executor} {completion : ProgramActionResolution}
variable {pending : PendingHost} {descriptor : ActionDescriptor}

theorem not_endsWithValueBudget (same : after.unwinding = executor.unwinding) :
    ¬ EndsWithValueBudget executor after := by
  intro ends
  have unwinds := ends.unwinds
  rw [same, ends.running] at unwinds
  cases unwinds

/-- The failure takes effect unless the program unwinds already. -/
theorem endsWithValueBudget_beginFailure {message : ByteString}
    (same : other.unwinding = executor.unwinding) (live : other.activity ≠ .terminal) :
    EndsWithValueBudget executor
        (other.beginFailure .budgetExhausted (text "value_budget") message) ↔
      executor.unwinding = false := by
  refine ⟨EndsWithValueBudget.running, fun running => ?_⟩
  rw [running] at same
  exact
    { running := running
      unwinds := by simp [beginFailure, same, live]
      status := by simp [beginFailure, same, live, diagnostic]
      code := by simp [beginFailure, same, live, diagnostic] }

/-- No more is retained than is accounted for. -/
theorem retainedBudget_le {id : ProgramValueId} {count bytes : Nat}
    (retained : executor.retainedBudget id = some (count, bytes)) :
    count ≤ executor.valueCount ∧ bytes ≤ executor.valueBytes := by
  unfold retainedBudget at retained
  split at retained
  · cases retained
    exact ⟨le_refl _, le_refl _⟩
  split at retained
  · cases retained
  split at retained
  · cases retained
  · cases retained
    exact ⟨Nat.sub_le _ _, Nat.sub_le _ _⟩

variable {value : ProgramValueGraph}

/-- What fits beside more fits beside less. -/
theorem Fits.mono {count bytes count' bytes' : Nat} (fits : executor.Fits count' bytes' value)
    (fewer : count ≤ count') (shorter : bytes ≤ bytes') : executor.Fits count bytes value := by
  obtain ⟨measured, measures⟩ := fits
  refine ⟨measured, measureProgramValueGraph_wider ⟨?_, ?_⟩ measures⟩
  · simp only [remainingLimits, ValueInvariant.toNat_rest]
    omega
  · simp only [remainingLimits, ValueInvariant.toNat_rest]
    omega

/-- Binding a value that is valid within some budget exhausts the budget, or
the value fits beside what is retained. -/
theorem bind_budgeted (executor : Executor) {type : TypeRef} {limits : ProgramValueArenaLimits}
    (valid : validateProgramValueGraph value type executor.verified.typeClosure
      limits (some executor.invocation.state.expectedEpoch) = .ok ())
    (result : ProgramValueId) : (∃ count bytes message, result.isSet = true ∧
      executor.retainedBudget result = some (count, bytes) ∧ ¬ executor.Fits count bytes value ∧
      (executor.bind result type value).2 =
        executor.beginFailure .budgetExhausted (text "value_budget") message) ∨
    ((executor.bind result type value).2.unwinding = executor.unwinding ∧
      ∀ count bytes, result.isSet = true → executor.retainedBudget result = some (count, bytes) →
        executor.Fits count bytes value) := by
  obtain ⟨listed, rooted⟩ := rootValue_of_valid valid
  unfold bind
  cases isSet : result.isSet with
  | false => exact .inr ⟨rfl, nofun⟩
  | true =>
    simp only [listed, rooted, Bool.not_true, Bool.or_self, Bool.false_eq_true, if_false]
    cases retained : executor.retainedBudget result with
    | none => exact .inr ⟨rfl, nofun⟩
    | some budget =>
      obtain ⟨count, bytes⟩ := budget
      rcases measured_or_budget valid (executor.remainingLimits count bytes)
        with ⟨measured, measures, admitted⟩ | ⟨failure, exceeded, refused, budget⟩
      · simp only [admitted, measures]
        refine .inr ⟨rfl, ?_⟩
        rintro _ _ - ⟨⟩
        exact ⟨measured, measures⟩
      simp only [refused, budget, if_true]
      refine .inl ⟨count, bytes, _, trivial, rfl, ?_, rfl⟩
      rintro ⟨measured, measures⟩
      rw [exceeded] at measures
      cases measures

namespace AwaitsOutput

variable (awaits : AwaitsOutput executor pending descriptor completion)
include awaits

theorem validHere : ∃ limits, validateProgramValueGraph completion.output
    descriptor.outputType executor.verified.typeClosure limits
    (some executor.invocation.state.expectedEpoch) = .ok () := by
  have epoch := awaits.epoch
  simp only [epochMatches, Bool.and_eq_true, decide_eq_true_eq] at epoch
  rw [← epoch.2]
  exact awaits.valid

/-- Binding the output ends the invocation when the output does not fit beside
what is retained. -/
theorem bind_iff (result : ProgramValueId) : EndsWithValueBudget executor
        (executor.bind result descriptor.outputType completion.output).2 ↔
      executor.unwinding = false ∧ ∃ count bytes, result.isSet = true ∧
        executor.retainedBudget result = some (count, bytes) ∧
        ¬ executor.Fits count bytes completion.output := by
  obtain ⟨limits, valid⟩ := awaits.validHere
  rcases bind_budgeted executor valid result with
    ⟨count, bytes, message, isSet, retained, exceeded, failed⟩ | ⟨same, fits⟩
  · have answers := awaits.answers
    simp only [completionMatches, Bool.and_eq_true, decide_eq_true_eq] at answers
    have live : executor.activity ≠ .terminal := by simp [answers.1.1.1.1]
    rw [failed, endsWithValueBudget_beginFailure rfl live]
    exact ⟨fun running => ⟨running, count, bytes, isSet, retained, exceeded⟩, And.left⟩
  refine iff_of_false (not_endsWithValueBudget same) ?_
  rintro ⟨-, count, bytes, isSet, retained, exceeded⟩
  exact exceeded (fits count bytes isSet retained)

/-- A completion that fits beside all that is accounted for leaves the
unwinding as it is. -/
theorem deliverSuccess_unwinding {ready : Executor}
    (fits : executor.Fits executor.valueCount executor.valueBytes completion.output)
    (same : ready = { (executor.recordCleanup completion) with
      pending := none }) :
    (ready.deliverSuccess pending (some descriptor) completion).2.unwinding =
      executor.unwinding := by
  obtain ⟨limits, valid⟩ := awaits.validHere
  subst same
  unfold deliverSuccess
  cases pending.success with
  | bindValue =>
    dsimp only
    cases pending.result with
    | none => rfl
    | some result =>
      rcases bind_budgeted { (executor.recordCleanup completion) with
        pending := none, activity := .runnable } valid result with
        ⟨count, bytes, message, isSet, retained, exceeded, failed⟩ | ⟨same, -⟩
      · have least := retainedBudget_le retained
        exact absurd (fits.mono least.1 least.2) exceeded
      · exact same
  | closeScope =>
    dsimp only
    split <;> rfl
  | pushScope | promote | deferredCleanup => rfl
  | finishInvocation =>
    dsimp only [trace]
    split <;> rfl

/-- The delivery ends the invocation when the output does not fit beside all
that is accounted for. -/
theorem deliver_iff : EndsWithValueBudget executor (executor.deliverHostCompletion completion).2 ↔
      executor.unwinding = false ∧
        ¬ executor.Fits executor.valueCount executor.valueBytes completion.output := by
  obtain ⟨limits, valid⟩ := awaits.valid
  have status : executor.outputStatus pending (some descriptor) completion =
      validateProgramValueGraph completion.output descriptor.outputType
        executor.verified.typeClosure
        (executor.remainingLimits executor.valueCount executor.valueBytes)
        (some completion.worksetEpoch) := by
    simp [outputStatus, awaits.completed, awaits.operation]
  unfold deliverHostCompletion
  simp only [awaits.waits, awaits.answers, awaits.epoch, Bool.not_true,
    Bool.false_eq_true, if_false]
  unfold acceptCompletion
  simp only [awaits.action, Option.isNone_some, Bool.and_false,
    Bool.false_eq_true, if_false, status]
  rcases measured_or_budget valid
      (executor.remainingLimits executor.valueCount executor.valueBytes)
    with ⟨measured, measures, admitted⟩ | ⟨failure, exceeded, refused, budget⟩
  · have fits : executor.Fits executor.valueCount executor.valueBytes
        completion.output := ⟨measured, measures⟩
    simp only [admitted, awaits.completed, if_true]
    exact iff_of_false
      (not_endsWithValueBudget (awaits.deliverSuccess_unwinding fits rfl))
      fun ⟨_, exceeded⟩ => exceeded fits
  have unfit : ¬ executor.Fits executor.valueCount executor.valueBytes
      completion.output := by
    rintro ⟨measured, measures⟩
    rw [exceeded] at measures
    cases measures
  simp only [refused, budget, if_true]
  refine (endsWithValueBudget_beginFailure ?_ ?_).trans ⟨fun running => ⟨running, unfit⟩, And.left⟩
  · rfl
  · simp

end AwaitsOutput

/-- The two paths agree exactly when the program unwinds already, or the output
fits beside all that is accounted for, or it is bound and does not fit beside
what its binding retains. -/
theorem chargedAlike_iff (awaits : AwaitsOutput executor pending descriptor completion) :
    ChargedAlike executor pending descriptor completion ↔ executor.unwinding = true ∨
        executor.Fits executor.valueCount executor.valueBytes completion.output ∨
        ∃ result, pending.result = some result ∧ ∃ count bytes, result.isSet = true ∧
            executor.retainedBudget result = some (count, bytes) ∧
            ¬ executor.Fits count bytes completion.output := by
  unfold ChargedAlike
  rw [awaits.deliver_iff]
  simp only [awaits.bind_iff]
  constructor
  · intro alike
    by_cases running : executor.unwinding = true
    · exact .inl running
    by_cases fits : executor.Fits executor.valueCount executor.valueBytes completion.output
    · exact .inr (.inl fits)
    obtain ⟨result, bound, -, exceeded⟩ := alike.mp ⟨eq_false_of_ne_true running, fits⟩
    exact .inr (.inr ⟨result, bound, exceeded⟩)
  · rintro agree
    constructor
    · rintro ⟨running, exceeded⟩
      rcases agree with unwinding | fits | ⟨result, bound, unfit⟩
      · rw [running] at unwinding
        cases unwinding
      · exact absurd fits exceeded
      · exact ⟨result, bound, running, unfit⟩
    rintro ⟨result, bound, running, count, bytes, isSet, retained, exceeded⟩
    have least := retainedBudget_le retained
    exact ⟨running, fun fits => exceeded (fits.mono least.1 least.2)⟩

end Executor

/-! ## An action without an output -/

namespace Sample

/-- The action of the sample without an output. -/
def quietDescriptor : ActionDescriptor := { revertDescriptor with outputType := .ofBuiltin .unit }

/-- Await the action on a number. -/
def await : Instruction where
  id := ⟨5⟩
  opcode := .awaitAction
  sourceLocation := location
  operands := [⟨2⟩]
  target := { kind := .action, dependency := some revert }

/-- The constants leave four bytes of the budget. -/
def awaitingModule : ProgramModule :=
  { module with
    functions := [{ function with
      blocks := [{ block with
        instructions := [constant 2 10, constant 3 20, constant 4 30, await] }] }] }

def verifiedAwaiting : VerifiedProgramModule :=
  { verified with
    module := awaitingModule
    moduleClosure := [awaitingModule]
    actions := [⟨revert, quietDescriptor⟩] }

/-- The host's answer to the awaited action. -/
def quietAnswer : ProgramActionResolution where
  requestId := ⟨1⟩
  invocationId := ⟨1⟩
  attemptId := ⟨1⟩
  operation := .invokeAction
  status := .completed
  worksetEpoch := ⟨1⟩
  output := unitGraph
  cleanupReceipts := []
  cleanup := .clean
  sessionDisposition := .clean
  code := []
  message := []

/-- An executor awaits the answer, and ends with a value budget on it. -/
def awaitsQuietAnswer : Machine → Bool
  | .started executor none => executor.pending.any fun pending =>
    pending.request.operation = .invokeAction &&
    pending.request.action.bind executor.verified.action = some quietDescriptor &&
    executor.completionMatches pending quietAnswer &&
    executor.epochMatches quietAnswer &&
    (validateProgramValueGraph unitGraph (.ofBuiltin .unit)
      executor.verified.typeClosure ⟨64, 64⟩ (some ⟨1⟩)).isOk &&
    pending.result = none &&
    Executor.EndsWithValueBudget executor (executor.deliverHostCompletion quietAnswer).2
  | _ => false

end Sample

namespace Executor

/-- The sample awaits an action without an output while four bytes are left. -/
theorem exists_awaiting_quiet : ∃ history executor pending,
    ExecutorRun .integers (fun _ _ => True) history (.started executor none) ∧
    AwaitsOutput executor pending Sample.quietDescriptor Sample.quietAnswer ∧
    pending.result = none ∧
    EndsWithValueBudget executor (executor.deliverHostCompletion Sample.quietAnswer).2 := by
  obtain ⟨history, machine, run, reached⟩ := ExecutorRun.exists_of_replay
    (.start Sample.verifiedAwaiting (Sample.invocation 64) ::
      Sample.pump 4 4 ++ [.bindPendingAction ⟨1⟩])
    (fun _ => Sample.awaitsQuietAnswer) (by decide +kernel)
  unfold Sample.awaitsQuietAnswer at reached
  split at reached
  case h_2 => cases reached
  case h_1 executor =>
      obtain ⟨pending, waits, passes⟩ := (Option.any_eq_true _ _).mp reached
      simp only [Bool.and_eq_true, decide_eq_true_eq] at passes
      obtain ⟨⟨⟨⟨⟨⟨operation, action⟩, answers⟩, epoch⟩, valid⟩, unbound⟩, ends⟩ := passes
      refine ⟨history, executor, pending, run, ⟨waits, operation, action,
        answers, epoch, rfl, ⟨64, 64⟩, ?_⟩, unbound, ends⟩
      revert valid
      show Except.isOk (validateProgramValueGraph _ _ _ _ _) = true → _
      generalize validateProgramValueGraph _ _ _ _ _ = status
      intro valid
      cases status with
      | error failure => cases valid
      | ok value => rfl

/-- The missing output of the action is charged where it is not bound. -/
theorem exists_not_chargedAlike : ∃ history executor pending descriptor completion,
    ExecutorRun .integers (fun _ _ => True) history (.started executor none) ∧
    AwaitsOutput executor pending descriptor completion ∧
    ¬ ChargedAlike executor pending descriptor completion := by
  obtain ⟨history, executor, pending, run, awaits, unbound, ends⟩ := exists_awaiting_quiet
  refine ⟨history, executor, pending, _, _, run, awaits, fun alike => ?_⟩
  obtain ⟨result, bound, -⟩ := alike.mp ends
  rw [unbound] at bound
  cases bound

/-- The condition on the awaited action of the sample. -/
theorem chargedAlike_iff_sample : ∃ executor pending,
    AwaitsOutput executor pending Sample.quietDescriptor Sample.quietAnswer ∧
    (ChargedAlike executor pending Sample.quietDescriptor Sample.quietAnswer ↔
      executor.unwinding = true ∨ executor.Fits executor.valueCount executor.valueBytes unitGraph ∨
        ∃ result, pending.result = some result ∧ ∃ count bytes, result.isSet = true ∧
            executor.retainedBudget result = some (count, bytes) ∧
            ¬ executor.Fits count bytes unitGraph) := by
  obtain ⟨_, executor, pending, _, awaits, _⟩ := exists_awaiting_quiet
  exact ⟨executor, pending, awaits, chargedAlike_iff awaits⟩

end Executor
end Savor.Program

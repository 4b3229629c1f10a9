import Savor.Execution.Machine

/-!
# The executor refines its control relation

One lemma for each operation of the executor: what it does to the control
state.  They are assembled into `step_control`, from which every law about runs
is proved.
-/

namespace Savor.Program
namespace Executor

open Control

section Updates

variable (executor : Executor)

@[simp] theorem control_trace (kind : String) (source : ProgramSourceLocationId)
    (attributes : List ProvenanceEntry) :
    (executor.trace kind source attributes).control = executor.control := by
  unfold trace
  split <;> rfl

@[simp] theorem control_beginFailure (status : ProgramInfrastructureStatus)
    (code message : ByteString) (source : ProgramSourceLocationId) :
    (executor.beginFailure status code message source).control = executor.control.fail status := by
  unfold beginFailure Control.fail
  split
  · rename_i exceeded
    exact (if_pos exceeded).symm
  · rename_i active
    exact (if_neg active).symm

@[simp] theorem control_beginReturn (terminator : Terminator) :
    (executor.beginReturn terminator).control = executor.control.finish := rfl

@[simp] theorem control_suspend (request : ExecutorHostRequest)
    (success : PendingSuccess) (result : Option ProgramValueId) :
    (executor.suspend request success result).2.control =
      executor.control.suspend request success result := rfl

@[simp] theorem hostRequest_suspend (request : ExecutorHostRequest)
    (success : PendingSuccess) (result : Option ProgramValueId) :
    (executor.suspend request success result).1.hostRequest = some request := rfl

@[simp] theorem control_failInstruction (instruction : Instruction) (message : ByteString) :
    (executor.failInstruction instruction message).2.control =
      executor.control.fail .contractFailed :=
  executor.control_beginFailure _ _ _ _

@[simp] theorem hostRequest_failInstruction (instruction : Instruction) (message : ByteString) :
    (executor.failInstruction instruction message).1.hostRequest = none := rfl

@[simp] theorem control_countInstruction :
    executor.countInstruction.control = executor.control := rfl

@[simp] theorem control_recordCleanup (completion : ProgramActionResolution) :
    (executor.recordCleanup completion).control = executor.control := rfl

variable {callers : List Frame} {frame : Frame}

theorem control_modifyFrame (stack : executor.frames = frame :: callers) (modify : Frame → Frame) :
    (executor.modifyFrame modify).control =
      { executor.control with frames := modify frame :: callers } := by
  unfold modifyFrame
  rw [stack]
  rfl

theorem control_advance (stack : executor.frames = frame :: callers) : executor.advance.control =
      { executor.control with frames := frame.advance :: callers } :=
  executor.control_modifyFrame stack Frame.advance

theorem frame?_eq (stack : executor.frames = frame :: callers) : executor.frame? = some frame := by
  rw [frame?, stack]
  rfl

theorem value_eq (stack : executor.frames = frame :: callers) :
    executor.value = frame.value executor.control.epoch := by
  funext id
  rw [value, executor.frame?_eq stack]
  rfl

variable {value : ProgramValueGraph}

/-- A binding either stores a validated value, or leaves the control state as
it is or failed. -/
theorem bind_cases {id : ProgramValueId} {type : TypeRef} {accepted : Bool} {after : Executor}
    (binding : executor.bind id type value = (accepted, after)) :
    (accepted = true ∧ executor.control.Validated type value ∧
      after.control = (executor.store id value).control) ∨
    (accepted = false ∧ after = executor) ∨ (accepted = false ∧
      ∃ status, after.control = executor.control.fail status) := by
  unfold bind at binding
  split at binding
  · cases binding
    exact .inr (.inl ⟨rfl, rfl⟩)
  split at binding
  · cases binding
    exact .inr (.inl ⟨rfl, rfl⟩)
  rename_i count bytes _
  simp only at binding
  split at binding
  · cases binding
    refine .inr (.inr ⟨rfl, ?_⟩)
    split
    · exact ⟨_, executor.control_beginFailure _ _ _ _⟩
    · exact ⟨_, executor.control_beginFailure _ _ _ _⟩
  rename_i validated
  split at binding
  · cases binding
    exact .inr (.inr ⟨rfl, _, executor.control_beginFailure _ _ _ _⟩)
  · cases binding
    exact .inl ⟨rfl, ⟨_, validated⟩, rfl⟩

/-- In every case the control state is stored, unchanged or failed. -/
theorem bind_failed_control {id : ProgramValueId} {type : TypeRef}
    {after : Executor} (binding : executor.bind id type value = (false, after))
    (status : ProgramInfrastructureStatus) :
    ∃ status', after.control.fail status = executor.control.fail status' := by
  rcases executor.bind_cases binding with
    ⟨absurd, _⟩ | ⟨_, rfl⟩ | ⟨_, first, failed⟩
  · cases absurd
  · exact ⟨status, rfl⟩
  · exact ⟨first, by rw [failed, fail_fail]⟩

end Updates

section Instructions

variable {executor : Executor} {frame : Frame} {callers : List Frame}
variable (stack : executor.frames = frame :: callers)
variable (instruction : Instruction)

/-- The executor takes a step of the control relation. -/
abbrev Steps (executor : Executor) (frame : Frame) (callers : List Frame)
    (instruction : Instruction) (step : PumpResult × Executor) : Prop :=
  InstructionStep executor.control frame callers instruction step.1.hostRequest step.2.control

variable {instruction} in
theorem refused_step {failing : Executor} {message : ByteString}
    (same : failing.control = executor.control) : executor.Steps frame callers instruction
      (failing.failInstruction instruction message) := by
  rw [Steps, control_failInstruction, hostRequest_failInstruction, same]
  exact .failed _

include stack

theorem bindResult_step (computes : instruction.opcode.computes)
    (failure : String) (value : ProgramValueGraph) : executor.Steps frame callers instruction
      (executor.bindResult instruction failure value) := by
  unfold Steps bindResult
  split
  · exact refused_step (by rfl)
  rename_i result resulting
  split
  · rename_i after binding
    obtain ⟨status, failed⟩ := executor.bind_failed_control binding .contractFailed
    rw [control_failInstruction, hostRequest_failInstruction, failed]
    exact .failed _
  rename_i after binding
  rcases executor.bind_cases binding with
    ⟨_, validated, stored⟩ | ⟨absurd, _⟩ | ⟨absurd, _⟩
  · have storedFrames : after.frames = frame.store result.id value :: callers := by
      have frames := congrArg Control.frames stored
      rwa [store, executor.control_modifyFrame stack] at frames
    have advanced : after.advance.control =
        { executor.control with
          frames := (frame.store result.id value).advance :: callers } := by
      rw [after.control_advance storedFrames, stored, store, executor.control_modifyFrame stack]
    rw [advanced]
    exact .bound computes resulting validated
  · cases absurd
  · cases absurd

theorem pushCall_step {module : ProgramModule} {function : ProgramFunction}
    (target : CallTarget executor.verified frame.module instruction module function)
    (unavailable : String) : executor.Steps frame callers instruction
      (executor.pushCall instruction module function unavailable) := by
  unfold Steps pushCall
  simp only
  split
  · rw [control_failInstruction, control_beginFailure, fail_fail]
    exact .failed _
  split
  · rw [control_failInstruction, control_beginFailure, fail_fail]
    exact .failed _
  rename_i arity
  split
  · rename_i block values entry operands
    have operands' : instruction.operands.mapM
        (frame.value executor.control.epoch) = some values := by
      rw [← executor.value_eq stack]
      exact operands
    rw [control_trace]
    unfold advance modifyFrame
    simp only [stack]
    exact .called target (not_not.mp arity) entry operands'
  · exact refused_step (by rfl)

theorem executeCallLocal_step (opcode : instruction.opcode = .callLocal) :
    executor.Steps frame callers instruction (executor.executeCallLocal instruction) := by
  unfold executeCallLocal
  simp only [executor.frame?_eq stack, Option.map_some]
  split
  · exact refused_step (by rfl)
  · rename_i function found
    exact pushCall_step stack instruction (.local opcode found) _

theorem executeCallImported_step (opcode : instruction.opcode = .callImported) :
    executor.Steps frame callers instruction (executor.executeCallImported instruction) := by
  unfold executeCallImported
  split
  · exact refused_step (by rfl)
  rename_i dependency target
  split
  · exact refused_step (by rfl)
  rename_i module resolved
  split
  · exact refused_step (by rfl)
  rename_i function found
  exact pushCall_step stack instruction (.imported opcode target resolved found) _

theorem executeAwaitAction_step (opcode : instruction.opcode = .awaitAction) :
    executor.Steps frame callers instruction (executor.executeAwaitAction instruction) := by
  unfold Steps executeAwaitAction
  split
  · exact refused_step (by rfl)
  rename_i dependency target
  split
  · exact refused_step (by rfl)
  rename_i descriptor described
  split
  · exact refused_step (by rfl)
  rename_i input _
  simp only
  split
  · rw [actionBudgetFailure, control_beginFailure]
    exact .failed _
  have step := @InstructionStep.awaited executor.control frame callers
    instruction dependency descriptor input _ opcode target described rfl
  unfold advance modifyFrame
  simp only [stack]
  exact step

theorem executeEmitRecord_step (opcode : instruction.opcode = .emitRecord) :
    executor.Steps frame callers instruction (executor.executeEmitRecord instruction) := by
  unfold Steps executeEmitRecord
  split
  · exact refused_step (by rfl)
  simp only
  split
  · exact refused_step (by rfl)
  split
  · exact refused_step (by rfl)
  unfold advance modifyFrame
  simp only [stack]
  exact .effected (.inl opcode)

theorem executePublishArtifact_step (opcode : instruction.opcode = .publishArtifact) :
    executor.Steps frame callers instruction (executor.executePublishArtifact instruction) := by
  unfold Steps executePublishArtifact
  split
  · exact refused_step (by rfl)
  simp only
  split
  · exact refused_step (by rfl)
  split
  · split
    · exact refused_step (by rfl)
    unfold advance modifyFrame
    simp only [stack]
    exact .effected (.inr opcode)
  · exact refused_step (by rfl)

theorem executeEnterScope_step (opcode : instruction.opcode = .enterScope) :
    executor.Steps frame callers instruction (executor.executeEnterScope instruction) := by
  unfold Steps executeEnterScope
  split
  · exact refused_step (by rfl)
  rename_i wellFormed
  simp only [Bool.or_eq_true, Bool.not_eq_true', List.isEmpty_iff, not_or,
    Bool.not_eq_false] at wellFormed
  rw [control_suspend, hostRequest_suspend, executor.control_advance stack]
  exact .scopeEntered opcode wellFormed.1 wellFormed.2 rfl

theorem executeExitScope_step (opcode : instruction.opcode = .exitScope) :
    executor.Steps frame callers instruction (executor.executeExitScope instruction) := by
  unfold Steps executeExitScope
  split
  · exact refused_step (by rfl)
  rename_i nested
  simp only [Bool.or_eq_true, decide_eq_true_eq, not_or, not_le, ne_eq, not_not] at nested
  match scopes : executor.scopes with
  | [] => simp [scopes] at nested
  | scope :: outer =>
    have enclosed : outer ≠ [] := by
      rintro rfl
      simp [scopes] at nested
    have named : scope.id = instruction.scope := by simpa [innermost, scopes] using nested.2
    unfold advance modifyFrame
    simp only [stack]
    exact .scopeExited opcode scopes enclosed named

theorem executeDeferCompensation_step (opcode : instruction.opcode = .deferCompensation) :
    executor.Steps frame callers instruction (executor.executeDeferCompensation instruction) := by
  unfold Steps executeDeferCompensation
  split
  · exact refused_step (by rfl)
  rename_i dependency target
  split
  · exact refused_step (by rfl)
  rename_i enclosed
  split
  · exact refused_step (by rfl)
  rename_i descriptor described
  split
  · exact refused_step (by rfl)
  rename_i input _
  simp only
  split
  · rw [actionBudgetFailure, control_beginFailure]
    exact .failed _
  match scopes : executor.scopes with
  | [] => simp [scopes] at enclosed
  | scope :: outer =>
    have step := @InstructionStep.deferred executor.control frame
      callers instruction dependency descriptor input scope outer opcode target described scopes
    unfold advance modifyFrame pushDeferred
    simp only [stack]
    exact step

theorem executePromoteResource_step (opcode : instruction.opcode = .promoteResource) :
    executor.Steps frame callers instruction (executor.executePromoteResource instruction) := by
  unfold Steps executePromoteResource
  split
  · exact refused_step (by rfl)
  split
  · rw [control_suspend, hostRequest_suspend, executor.control_advance stack]
    exact .promoted opcode rfl
  · exact refused_step (by rfl)

theorem executeInstruction_step (floats : FloatUnit) (reducers : Option PureReducerInvoker) :
    executor.Steps frame callers instruction
      (executeInstruction floats reducers executor instruction) := by
  unfold Steps executeInstruction
  generalize traced : executor.trace "instruction" _ _ = begun
  have same : begun.control = executor.control := by rw [← traced, control_trace]
  have begunStack : begun.frames = frame :: callers := by
    have frames := congrArg Control.frames same
    exact frames.trans stack
  rw [← same]
  unfold executeOpcode
  split
  case h_1 opcode => exact executeCallLocal_step begunStack instruction opcode
  case h_2 opcode => exact executeCallImported_step begunStack instruction opcode
  case h_3 opcode => exact executeAwaitAction_step begunStack instruction opcode
  case h_4 opcode => exact executeEmitRecord_step begunStack instruction opcode
  case h_5 opcode => exact executePublishArtifact_step begunStack instruction opcode
  case h_6 opcode => exact executeEnterScope_step begunStack instruction opcode
  case h_7 opcode => exact executeExitScope_step begunStack instruction opcode
  case h_8 opcode => exact executeDeferCompensation_step begunStack instruction opcode
  case h_9 opcode => exact executePromoteResource_step begunStack instruction opcode
  case h_10 =>
    have computes : instruction.opcode.computes := by
      cases opcode : instruction.opcode <;> simp_all [InstructionOpcode.computes]
    split
    · exact bindResult_step begunStack instruction computes _ _
    · exact refused_step (by rfl)
    · exact refused_step (by rfl)

end Instructions

section Terminators

variable {executor : Executor} {frame : Frame} {callers : List Frame}
variable (stack : executor.frames = frame :: callers)
variable (terminator : Terminator)

include stack in
theorem enterBlock_eq_some {edge : BlockEdge} {after : Executor}
    (entered : executor.enterBlock edge = some after) : ∃ target values,
      frame.function.findBlock edge.target = some target ∧
      target.arguments.length = edge.arguments.length ∧
      edge.arguments.mapM frame.lookup = some values ∧ after.control =
        { executor.control with
          frames := enteredFrame target values frame :: callers } := by
  unfold enterBlock at entered
  simp only [executor.frame?_eq stack, Option.bind_eq_bind, Option.bind_some] at entered
  obtain ⟨target, found, entered⟩ := Option.bind_eq_some_iff.mp entered
  split at entered
  · cases entered
  rename_i arity
  simp only [Option.pure_def] at entered
  obtain ⟨values, arguments, entered⟩ := Option.bind_eq_some_iff.mp entered
  refine ⟨target, values, found, not_not.mp arity, arguments, ?_⟩
  cases entered
  rw [control_trace, executor.control_modifyFrame stack]

include stack in
theorem takeEdge_step (code message : String) (edge : Option BlockEdge)
    (listed : ∀ chosen, edge = some chosen → chosen ∈ terminator.allEdges)
    (jumps : terminator.kind ≠ .return) : TerminatorStep executor.control frame callers terminator
      (executor.takeEdge terminator code message edge).2.control := by
  unfold takeEdge
  split
  · rename_i after taken
    obtain ⟨chosen, selected, entered⟩ := Option.bind_eq_some_iff.mp taken
    obtain ⟨target, values, found, arity, arguments, control⟩ := enterBlock_eq_some stack entered
    rw [control]
    exact .entered (listed chosen selected) jumps found arity arguments
  · rw [control_beginFailure]
    exact .failed _

include stack in
theorem executeReturn_step (returns : terminator.kind = .return) :
    TerminatorStep executor.control frame callers terminator
      (executor.executeReturn terminator).2.control := by
  unfold executeReturn
  simp only [stack]
  split
  · rw [control_beginFailure]
    exact .failed _
  rename_i returned _
  match callers, stack with
  | [], stack =>
    simp only
    rw [control_beginReturn]
    exact .finished returns rfl
  | caller :: rest, stack =>
    simp only
    generalize popped : ({ executor with frames := caller :: rest } : Executor) = below
    have belowControl : below.control =
        { executor.control with frames := caller :: rest } := by
      rw [← popped]
      rfl
    have belowStack : below.frames = caller :: rest := by rw [← popped]
    have unbound : TerminatorStep executor.control frame (caller :: rest)
        terminator below.control := by
      rw [belowControl]
      exact .returned returns rfl
    cases destined : frame.returnDestination with
    | none => exact unbound
    | some destination =>
      simp only
      cases typed : below.definitionType destination with
      | none => exact unbound
      | some type =>
        simp only
        have typed' : caller.definitionType destination = some type := by
          rwa [definitionType, below.frame?_eq belowStack] at typed
        generalize binding : below.bind destination type returned = bound
        obtain ⟨accepted, after⟩ := bound
        rcases below.bind_cases binding with
          ⟨rfl, validated, stored⟩ | ⟨rfl, rfl⟩ | ⟨rfl, status, failed⟩
        · rw [store, below.control_modifyFrame belowStack, belowControl] at stored
          simp only [stored]
          rw [Validated, belowControl] at validated
          exact .returnBound returns rfl destined typed' validated
        · exact unbound
        · simp only [failed, belowControl]
          exact .returnFailed status returns rfl

theorem switchEdge_mem {payload : Option ProgramValuePayload} {edge : BlockEdge}
    (selected : switchEdge terminator payload = some edge) : edge ∈ terminator.allEdges := by
  unfold switchEdge at selected
  simp only [Option.or_eq_some_iff] at selected
  simp only [Terminator.allEdges, List.mem_append, List.mem_map, Option.mem_toList]
  rcases selected with listed | ⟨_, default⟩
  · split at listed
    · obtain ⟨switchCase, found, rfl⟩ := Option.map_eq_some_iff.mp listed
      exact .inl (.inr ⟨switchCase, List.mem_of_find?_eq_some found, rfl⟩)
    · cases listed
  · exact .inr default

include stack in
theorem executeTerminator_step : TerminatorStep executor.control frame callers terminator
      (executor.executeTerminator terminator).2.control := by
  unfold executeTerminator
  split
  case h_1 kind =>
    refine takeEdge_step stack terminator _ _ _ ?_ (by simp [kind])
    intro chosen selected
    split at selected
    · rename_i edge single
      cases selected
      simp [Terminator.allEdges, single]
    · cases selected
  case h_2 kind =>
    split
    · rename_i whenTrue whenFalse _ pair
      refine takeEdge_step stack terminator _ _ _ ?_ (by simp [kind])
      intro chosen selected
      obtain ⟨value, _, rfl⟩ := Option.map_eq_some_iff.mp selected
      cases value <;> simp [Terminator.allEdges, pair]
    · rw [control_beginFailure]
      exact .failed _
  case h_3 kind =>
    split
    · rw [control_beginFailure]
      exact .failed _
    · exact takeEdge_step stack terminator _ _ _
        (fun _ selected => switchEdge_mem terminator selected) (by simp [kind])
  case h_4 kind => exact executeReturn_step stack terminator kind
  case h_5 =>
    rw [control_beginFailure]
    exact .failed _

end Terminators

theorem pumpCleanup_step (executor : Executor) :
    CleanupStep executor.control executor.pumpCleanup.1.hostRequest
      executor.pumpCleanup.2.control := by
  unfold pumpCleanup
  split
  · rename_i stack
    rw [control_beginFailure]
    exact .underflow stack
  rename_i scope outer stack
  split
  · rename_i deferred rest registered
    exact .deferred stack registered rfl
  rename_i exhausted
  split
  · rename_i explicitly
    exact .close stack exhausted (.inl explicitly) rfl
  rename_i implicit
  split
  · rename_i enclosed
    have nonempty : outer ≠ [] := by
      rintro rfl
      simp [stack] at enclosed
    exact .close stack exhausted (.inr nonempty) rfl
  rename_i last
  have alone : outer = [] := by
    cases outer with
    | nil => rfl
    | cons next rest => simp [stack] at last
  subst alone
  have implicit' : executor.explicitScopeClose = false := by simpa using implicit
  exact .finish stack exhausted implicit' rfl

/-- The completion of a deferred action, delivered while the program unwinds,
whose output does not fit the remaining value budget. -/
def resumesUnwinding (executor : Executor) (completion : ProgramActionResolution) : Bool :=
  executor.unwinding &&
    match executor.pending with
    | none => false
    | some pending =>
      pending.success = .deferredCleanup &&
        match executor.outputStatus pending
            (pending.request.action.bind executor.verified.action)
            completion with
        | .error failure => failure.error.isBudget
        | .ok () => false

section Deliveries

variable (executor : Executor) (pending : PendingHost)
variable (completion : ProgramActionResolution)

theorem deliverBind_step {executor : Executor} {runnable : Executor}
    (resumed : runnable.control = executor.control.resume)
    (completed : completion.status = .completed) (value : pending.success = .bindValue)
    {result : ProgramValueId} (resulting : pending.result = some result)
    {descriptor : ActionDescriptor}
    (described : pending.request.action.bind executor.verified.action = some descriptor)
    (resumes : Prop) : DeliveryStep executor.control pending completion resumes
      (runnable.bind result descriptor.outputType completion.output).2.control := by
  generalize binding : runnable.bind result descriptor.outputType completion.output = bound
  obtain ⟨accepted, after⟩ := bound
  rcases runnable.bind_cases binding with
    ⟨_, validated, stored⟩ | ⟨_, rfl⟩ | ⟨_, status, failed⟩
  · rw [Validated, resumed] at validated
    have step : DeliveryStep executor.control pending completion resumes _ :=
      .bound completed value resulting described validated
    have frames : executor.control.frames = runnable.control.frames := by
      rw [resumed]
      rfl
    rw [← resumed, frames] at step
    exact stored ▸ step
  · simp only [resumed]
    exact .unbound completed value
  · simp only [failed, resumed]
    exact .bindFailed status completed value

theorem deliverSuccess_step (completed : completion.status = .completed) (resumes : Prop) :
    DeliveryStep executor.control pending completion resumes
      (deliverSuccess { executor with pending := none } pending
        (pending.request.action.bind executor.verified.action) completion).2.control := by
  unfold deliverSuccess
  split
  case h_1 value =>
    split
    · exact .unbound completed value
    · exact .unbound completed value
    rename_i result descriptor resulting described
    exact deliverBind_step pending completion rfl completed value resulting described resumes
  case h_2 push => exact .scopePushed completed push
  case h_3 close =>
    split
    · rename_i explicitly
      exact .scopeClosedExplicitly completed close explicitly
    rename_i implicit
    have implicit' : executor.explicitScopeClose = false := by simpa using implicit
    exact .scopeClosed completed close implicit'
  case h_4 promote => exact .promoted completed promote
  case h_5 cleanup => exact .deferredDone completed cleanup
  case h_6 finish =>
    have same := control_trace { executor with pending := none }
      "invocation_terminal" StrongId.none []
    have step : DeliveryStep executor.control pending completion resumes _ :=
      .finished completed finish
    have after : ({ trace { executor with pending := none } "invocation_terminal"
        with activity := .terminal } : Executor).control =
        { executor.control with pending := none, activity := .terminal } := by
      have shape : ∀ traced : Executor,
          traced.control = { executor.control with pending := none } →
          ({ traced with activity := .terminal } : Executor).control =
            { executor.control with pending := none, activity := .terminal } := by
        intro traced equal
        calc ({ traced with activity := .terminal } : Executor).control
            = { traced.control with activity := .terminal } := rfl
          _ = _ := by rw [equal]
      exact shape _ same
    exact after ▸ step

theorem deliverSuccess_accepted {executor : Executor} (descriptor : Option ActionDescriptor)
    (effect : pending.success ≠ .bindValue) :
    (executor.deliverSuccess pending descriptor completion).1.accepted = true := by
  unfold deliverSuccess
  split
  case h_1 value => exact absurd value effect
  case h_3 => split <;> rfl
  all_goals rfl

theorem deliverFailure_step (unsuccessful : completion.status ≠ .completed) (resumes : Prop) :
    DeliveryStep executor.control pending completion resumes
      (deliverFailure { executor with pending := none } pending.success completion).control := by
  unfold deliverFailure deliverCleanupFailure
  cases success : pending.success with
  | deferredCleanup => exact .deferredFailed unsuccessful success
  | closeScope => exact .closeFailed unsuccessful success
  | finishInvocation => exact .finishFailed unsuccessful success
  | bindValue | pushScope | promote =>
    simp only [control_beginFailure]
    exact .actionFailed _ unsuccessful (by simp [success, PendingSuccess.isOrdinary])

theorem outputStatus_error {descriptor : Option ActionDescriptor}
    {failure : ProgramValueArenaFailure}
    (rejected : executor.outputStatus pending descriptor completion = .error failure) :
    completion.status = .completed ∧ pending.request.operation = .invokeAction := by
  unfold outputStatus at rejected
  split at rejected
  · rename_i checked
    simpa using checked
  · cases rejected

theorem deliverHostCompletion_step {delivery : Delivery} {after : Executor}
    (delivered : executor.deliverHostCompletion completion = (delivery, after)) :
    ControlStep executor.control (executor.resumesUnwinding completion = true)
      (.deliverHostCompletion completion) (.delivered delivery) after.control := by
  have refused : delivery.accepted = false → ControlStep executor.control
      (executor.resumesUnwinding completion = true)
      (.deliverHostCompletion completion) (.delivered delivery)
      executor.control := by
    intro unaccepted
    exact .quiet (by simp [ExecutorEvent.action]) rfl unaccepted
  unfold deliverHostCompletion at delivered
  simp only at delivered
  split at delivered
  · cases delivered
    exact refused rfl
  rename_i pending waiting
  split at delivered
  · cases delivered
    exact refused rfl
  rename_i matching
  simp only [completionMatches, Bool.not_eq_true', Bool.not_eq_false,
    Bool.and_eq_true, decide_eq_true_eq] at matching
  obtain ⟨⟨⟨⟨awaiting, _⟩, _⟩, _⟩, operation⟩ := matching
  split at delivered
  · cases delivered
    exact refused rfl
  unfold acceptCompletion at delivered
  simp only at delivered
  split at delivered
  · cases delivered
    exact refused rfl
  split at delivered
  · rename_i failure rejected
    split at delivered
    · rename_i budget
      cases delivered
      obtain ⟨completed, invoked⟩ := executor.outputStatus_error pending completion rejected
      refine .delivered awaiting waiting operation (fun _ => rfl) ?_
      rw [control_beginFailure]
      refine .overBudget completed invoked ?_
      intro unwinding deferred
      have unwinding' : executor.unwinding = true := unwinding
      simp [resumesUnwinding, unwinding', waiting, deferred, rejected, budget]
    · cases delivered
      exact refused rfl
  · split at delivered
    · rename_i completed
      have first := congrArg Prod.fst delivered
      have second := congrArg Prod.snd delivered
      simp only at first second
      have accepted : pending.success ≠ .bindValue →
          delivery.accepted = true := by
        intro effect
        rw [← first]
        exact deliverSuccess_accepted pending completion _ effect
      refine .delivered awaiting waiting operation accepted ?_
      rw [← control_recordCleanup executor completion, ← second]
      exact deliverSuccess_step (executor.recordCleanup completion) pending completion completed
        (executor.resumesUnwinding completion = true)
    · rename_i unsuccessful
      cases delivered
      refine .delivered awaiting waiting operation (fun _ => rfl) ?_
      rw [← control_recordCleanup executor completion]
      exact deliverFailure_step (executor.recordCleanup completion) pending completion unsuccessful
        (executor.resumesUnwinding completion = true)

end Deliveries

section Pump

variable (executor : Executor) (loop : PumpLoop)

/-- What each action of the pump loop says about the executor. -/
def PumpAction.Applies (executor : Executor) : PumpAction → Prop
  | .quantumSpent | .notRunnable => True
  | .cleanup => executor.activity = .unwinding
  | .instructionBudgetExhausted | .missingBlock => executor.activity = .runnable
  | .instruction instruction =>
    executor.activity = .runnable ∧ ∃ frame callers block,
      executor.frames = frame :: callers ∧ frame.block = some block ∧
      block.instructions[frame.instructionIndex]? = some instruction
  | .terminator terminator =>
    executor.activity = .runnable ∧ ∃ frame callers block,
      executor.frames = frame :: callers ∧ frame.block = some block ∧
      block.instructions[frame.instructionIndex]? = none ∧ block.terminator = terminator

theorem pumpAction_applies : PumpAction.Applies executor (executor.pumpAction loop) := by
  unfold pumpAction
  split
  · trivial
  split
  · rename_i unwinding
    exact unwinding
  split
  · rename_i frame runnable current
    obtain ⟨callers, stack⟩ : ∃ callers, executor.frames = frame :: callers := by
      unfold frame? at current
      cases frames : executor.frames with
      | nil => simp [frames] at current
      | cons head callers =>
        simp only [frames, List.head?_cons, Option.some.injEq] at current
        exact ⟨callers, by rw [current]⟩
    split
    · exact runnable
    split
    · exact runnable
    rename_i block active
    split
    · rename_i instruction point
      exact ⟨runnable, frame, callers, block, stack, active, point⟩
    · rename_i point
      exact ⟨runnable, frame, callers, block, stack, active, point, rfl⟩
  · trivial

theorem continueLoop_request (step : PumpResult × Executor) :
    (continueLoop loop step).1.bind PumpResult.hostRequest = step.1.hostRequest := by
  unfold continueLoop
  simp only
  split
  · rfl
  rename_i quiet
  simp only [Bool.or_eq_true, not_or, Bool.not_eq_true,
    Option.isSome_eq_false_iff, Option.isNone_iff_eq_none] at quiet
  exact quiet.1.1.symm

@[simp] theorem continueLoop_executor (step : PumpResult × Executor) :
    (continueLoop loop step).2.1 = step.2 := by
  unfold continueLoop
  simp only
  split <;> rfl

/-- A terminator neither asks the host nor emits. -/
theorem executeTerminator_result (terminator : Terminator) :
    ∃ runnable, (executor.executeTerminator terminator).1 = { runnable } := by
  have edge : ∀ code message chosen,
      (executor.takeEdge terminator code message chosen).1 = { runnable := true } := by
    intro code message chosen
    unfold takeEdge
    split <;> rfl
  unfold executeTerminator
  split
  · exact ⟨true, edge _ _ _⟩
  · split
    · exact ⟨true, edge _ _ _⟩
    · exact ⟨false, rfl⟩
  · split
    · exact ⟨false, rfl⟩
    · exact ⟨true, edge _ _ _⟩
  · unfold executeReturn
    simp only
    split
    · exact ⟨false, rfl⟩
    split
    · split
      · exact ⟨true, rfl⟩
      split
      · exact ⟨false, rfl⟩
      split
      · exact ⟨true, rfl⟩
      · exact ⟨false, rfl⟩
    · exact ⟨true, rfl⟩
  · exact ⟨true, rfl⟩

theorem continueLoop_terminator (terminator : Terminator) :
    (continueLoop loop (executor.executeTerminator terminator)).1 = none := by
  obtain ⟨runnable, result⟩ := executor.executeTerminator_result terminator
  unfold continueLoop
  simp [result]

theorem pumpIteration_step (floats : FloatUnit)
    (reducers : Option PureReducerInvoker) (resumes : Prop) :
    ControlStep executor.control resumes (.iterate reducers)
      (.iterated (executor.pumpAction loop) (executor.pumpIteration floats reducers loop).1)
      (executor.pumpIteration floats reducers loop).2.1.control := by
  have applies := executor.pumpAction_applies loop
  unfold pumpIteration
  split
  case h_1 action =>
    rw [action]
    exact .quiet (by simp [ExecutorEvent.action, PumpAction.isInert]) rfl rfl
  case h_2 action =>
    rw [action] at applies ⊢
    exact .cleanup applies executor.pumpCleanup_step
  case h_3 action =>
    rw [action]
    exact .quiet (by simp [ExecutorEvent.action, PumpAction.isInert]) rfl rfl
  case h_4 action =>
    rw [action] at applies ⊢
    rw [control_beginFailure, control_countInstruction]
    exact .failed _ (by simp [ExecutorEvent.action, PumpAction.isInert]) rfl rfl (.inl applies)
  case h_5 action =>
    rw [action] at applies ⊢
    rw [control_beginFailure, control_countInstruction]
    exact .failed _ (by simp [ExecutorEvent.action, PumpAction.isInert]) rfl rfl (.inl applies)
  case h_6 instruction action =>
    rw [action] at applies ⊢
    obtain ⟨runnable, frame, callers, block, stack, active, point⟩ := applies
    refine .instruction runnable stack active point ?_
    rw [continueLoop_request, continueLoop_executor]
    have counted : executor.countInstruction.frames = frame :: callers := stack
    exact executeInstruction_step counted instruction floats reducers
  case h_7 terminator action =>
    rw [action] at applies ⊢
    obtain ⟨runnable, frame, callers, block, stack, active, point, rfl⟩ := applies
    rw [continueLoop_terminator, continueLoop_executor]
    have counted : executor.countInstruction.frames = frame :: callers := stack
    exact .terminator runnable stack active point (executeTerminator_step counted block.terminator)

theorem pump_step (maximum : UInt64) (token : CancellationReason)
    {event : ExecutorEvent} (inert : event.action = none)
    (unasked : event.request = none) (undelivered : event.accepts = false) (resumes : Prop) :
    ControlStep executor.control resumes (.pump maximum token) event
      (executor.pump maximum token).2.control := by
  have actionless : ∀ action, event.action = some action → action.isInert := by simp [inert]
  unfold pump
  split
  · exact .quiet actionless unasked undelivered
  rename_i live
  split
  · exact .quiet actionless unasked undelivered
  rename_i active
  split
  · exact .quiet actionless unasked undelivered
  split
  · rw [control_beginFailure]
    refine .failed _ actionless unasked undelivered ?_
    have cases : executor.activity = .runnable ∨
        executor.activity = .unwinding := by
      cases activity : executor.activity <;> simp_all
    exact cases
  · exact .quiet actionless unasked undelivered

end Pump

end Executor

/-- The call delivers a completion that makes an unwinding program runnable. -/
def ExecutorInput.resumes (executor : Executor) : ExecutorInput → Bool
  | .deliverHostCompletion completion => executor.resumesUnwinding completion
  | _ => false

/-- The event of a call that neither pumps nor delivers anything. -/
def ExecutorEvent.Quiet (event : ExecutorEvent) : Prop :=
  event.action = none ∧ event.request = none ∧ event.accepts = false

/-- What a call or an iteration does to the executor of a started machine. -/
inductive StartedStep (floats : FloatUnit) (executor : Executor) :
    Option PumpLoop → ExecutorInput → ExecutorEvent → Executor → Prop
  | refused {input event} (quiet : event.Quiet) :
      StartedStep floats executor none input event executor
  | pumped (maximum token) {event} (quiet : event.Quiet) :
      StartedStep floats executor none (.pump maximum token) event (executor.pump maximum token).2
  | iterated (reducers loop) :
      StartedStep floats executor (some loop) (.iterate reducers)
        (.iterated (executor.pumpAction loop) (executor.pumpIteration floats reducers loop).1)
        (executor.pumpIteration floats reducers loop).2.1
  | bound (requestId) {pending} (waiting : executor.pending = some pending) :
      StartedStep floats executor none (.bindPendingAction requestId)
        (.bound true)
        { executor with
          pending := some { pending with requestId := some requestId } }
  | delivered (completion) :
      StartedStep floats executor none (.deliverHostCompletion completion)
        (.delivered (executor.deliverHostCompletion completion).1)
        (executor.deliverHostCompletion completion).2
  | cancelled (reason) :
      StartedStep floats executor none (.requestCancellation reason)
        (.cancellationRequested true)
        { executor with explicitCancellation := reason }

section Started

variable {floats : FloatUnit} {input : ExecutorInput} {executor : Executor}
variable {loop : Option PumpLoop} {event : ExecutorEvent} {after : Machine}

theorem Machine.step_started (stepped : Machine.step floats input (.started executor loop) =
      some (event, after)) :
    ∃ executor' loop', after = .started executor' loop' ∧
      StartedStep floats executor loop input event executor' := by
  have quiet {event : ExecutorEvent} (inert : event.action = none)
      (unasked : event.request = none) (undelivered : event.accepts = false) :
      event.Quiet := ⟨inert, unasked, undelivered⟩
  cases loop with
  | some loop =>
    cases input with
    | iterate reducers =>
      have step : StartedStep floats executor (some loop) _ _ _ := .iterated reducers loop
      simp only [Machine.step] at stepped
      split at stepped <;>
      · rename_i iterated
        cases stepped
        rw [iterated] at step
        exact ⟨_, _, rfl, step⟩
    | start | pump | bindPendingAction | deliverHostCompletion
        | requestCancellation => cases stepped
  | none =>
    cases input with
    | start verified invocation =>
      cases stepped
      exact ⟨_, _, rfl, .refused (quiet rfl rfl rfl)⟩
    | pump maximum token =>
      have step {event : ExecutorEvent} (silent : event.Quiet) :
          StartedStep floats executor none _ event _ :=
        .pumped maximum token silent
      simp only [Machine.step] at stepped
      split at stepped <;>
      · rename_i pumped
        cases stepped
        rw [pumped] at step
        exact ⟨_, _, rfl, step (quiet rfl rfl rfl)⟩
    | iterate reducers => cases stepped
    | bindPendingAction requestId =>
      simp only [Machine.step] at stepped
      split at stepped
      · cases stepped
        exact ⟨_, _, rfl, .refused (quiet rfl rfl rfl)⟩
      rename_i executor' accepted
      cases stepped
      unfold Executor.bindPendingAction at accepted
      split at accepted
      · cases accepted
      rename_i pending waiting
      split at accepted
      · cases accepted
      cases accepted
      exact ⟨_, _, rfl, .bound requestId waiting⟩
    | deliverHostCompletion completion =>
      cases stepped
      exact ⟨_, _, rfl, .delivered completion⟩
    | requestCancellation reason =>
      simp only [Machine.step] at stepped
      split at stepped
      · cases stepped
        exact ⟨_, _, rfl, .refused (quiet rfl rfl rfl)⟩
      rename_i executor' accepted
      cases stepped
      unfold Executor.requestCancellation at accepted
      split at accepted
      · cases accepted
      cases accepted
      exact ⟨_, _, rfl, .cancelled reason⟩

theorem Machine.step_control (stepped : Machine.step floats input (.started executor loop) =
      some (event, after)) :
    ∃ executor' loop', after = .started executor' loop' ∧
      ControlStep executor.control (input.resumes executor = true) input event
        executor'.control := by
  obtain ⟨executor', loop', same, step⟩ := Machine.step_started stepped
  refine ⟨executor', loop', same, ?_⟩
  cases step with
  | refused quiet => exact .quiet (by simp [quiet.1]) quiet.2.1 quiet.2.2
  | pumped maximum token quiet =>
    exact executor.pump_step maximum token quiet.1 quiet.2.1 quiet.2.2 _
  | iterated reducers loop => exact executor.pumpIteration_step loop floats reducers _
  | bound requestId waiting => exact .identified waiting
  | delivered completion => exact executor.deliverHostCompletion_step completion rfl
  | cancelled reason =>
    have kept : ({ executor with explicitCancellation := reason } :
        Executor).control = executor.control := rfl
    rw [kept]
    exact .quiet (by simp [ExecutorEvent.action]) rfl rfl

end Started

theorem Executor.start_eq_ok {verified : VerifiedProgramModule}
    {invocation : ProgramInvocation} {executor : Executor}
    (accepted : Executor.start verified invocation = .ok executor) :
    ∃ function block argument measured, startBudgetsNonzero invocation.limits = true ∧
      measureProgramValueGraph invocation.input ⟨invocation.limits.maximumValues,
        invocation.limits.maximumValueBytes⟩ = .ok measured ∧
      executor = (Executor.initial verified invocation function block argument
        measured).trace "invocation_started" := by
  unfold Executor.start at accepted
  simp only at accepted
  split at accepted
  · cases accepted
  split at accepted
  · cases accepted
  rename_i nonzero
  iterate 2 (split at accepted; · cases accepted)
  split at accepted
  case h_2 => cases accepted
  split at accepted
  · cases accepted
  iterate 2 (split at accepted; · cases accepted)
  split at accepted
  · cases accepted
  rename_i measured measures
  cases accepted
  exact ⟨_, _, _, measured, by simpa using nonzero, measures, rfl⟩

/-- The control state of a started machine satisfies a predicate. -/
def Machine.Satisfies (predicate : Control → Prop) (machine : Machine) : Prop :=
  ∀ executor, machine.executor? = some executor → predicate executor.control

/-- The call does not make an unwinding program runnable. -/
def UnwindingContinues (machine : Machine) (input : ExecutorInput) : Prop :=
  ∀ executor, machine.executor? = some executor → input.resumes executor = false

theorem Machine.step_idle {floats : FloatUnit} {input : ExecutorInput}
    {event : ExecutorEvent} {after : Machine}
    (stepped : Machine.step floats input .idle = some (event, after)) :
    after = .idle ∨ ∃ verified invocation executor, input = .start verified invocation ∧
      Executor.start verified invocation = .ok executor ∧ after = .started executor none := by
  cases input with
  | start verified invocation =>
    simp only [Machine.step] at stepped
    split at stepped
    · cases stepped
      exact .inl rfl
    rename_i executor accepted
    cases stepped
    exact .inr ⟨verified, invocation, executor, rfl, accepted, rfl⟩
  | pump | bindPendingAction | deliverHostCompletion | requestCancellation =>
    cases stepped
    exact .inl rfl
  | iterate => cases stepped

namespace ExecutorRun

variable {floats : FloatUnit} {Allowed : Machine → ExecutorInput → Prop}
variable {predicate : Control → Prop}

section

variable
    (started : ∀ verified invocation executor, Allowed .idle (.start verified invocation) →
      Executor.start verified invocation = .ok executor → predicate executor.control)
    (preserved : ∀ executor loop input event after, Allowed (.started executor loop) input →
      predicate executor.control →
      ControlStep executor.control (input.resumes executor = true) input event after →
      predicate after)
include started preserved

/-- A predicate that an accepted Start establishes and every allowed step
keeps holds in every state of a run. -/
theorem step_satisfies (machine : Machine) (input : ExecutorInput) (event : ExecutorEvent)
    (next : Machine) (holds : machine.Satisfies predicate) (allowed : Allowed machine input)
    (stepped : Machine.step floats input machine = some (event, next)) :
    next.Satisfies predicate := by
  intro executor' reached
  cases machine with
  | idle =>
    rcases Machine.step_idle stepped with
      rfl | ⟨verified, invocation, executor, rfl, accepted, rfl⟩
    · cases reached
    · cases reached
      exact started verified invocation _ allowed accepted
  | started executor loop =>
    obtain ⟨executor'', loop', rfl, step⟩ := Machine.step_control stepped
    cases reached
    exact preserved executor loop input event _ allowed (holds executor rfl) step

variable {history : List ExecutorTransition} {transition : ExecutorTransition}

theorem forall_after {machine : Machine} (run : ExecutorRun floats Allowed history machine)
    (member : transition ∈ history) : transition.after.Satisfies predicate := by
  have idle : Machine.idle.Satisfies predicate := by
    intro executor absurd
    cases absurd
  have keeps := @step_satisfies floats Allowed predicate started preserved
  obtain ⟨holds, allowed, stepped⟩ := run.forall_transition idle keeps transition member
  exact keeps _ _ _ _ holds allowed stepped

/-- Every transition of a started machine in a run starts where the predicate
holds and is a step of the control relation. -/
theorem forall_step {machine : Machine} (run : ExecutorRun floats Allowed history machine)
    (member : transition ∈ history)
    {executor : Executor} (before : transition.before.executor? = some executor) :
    predicate executor.control ∧ Allowed transition.before transition.input ∧
      ∃ executor', transition.after.executor? = some executor' ∧ ControlStep executor.control
          (transition.input.resumes executor = true) transition.input
          transition.event executor'.control := by
  have idle : Machine.idle.Satisfies predicate := by
    intro executor absurd
    cases absurd
  obtain ⟨holds, allowed, stepped⟩ := run.forall_transition idle
    (step_satisfies started preserved) transition member
  refine ⟨holds executor before, allowed, ?_⟩
  obtain ⟨beforeMachine, input, event, after⟩ := transition
  cases beforeMachine with
  | idle => cases before
  | started executor' loop =>
    cases before
    obtain ⟨executor', loop', rfl, step⟩ := Machine.step_control stepped
    exact ⟨executor', rfl, step⟩

end

end ExecutorRun

end Savor.Program

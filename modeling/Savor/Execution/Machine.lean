import Savor.Execution.Instruction
import Savor.Library.Transition

/-!
# The executor as a machine

`Start`, `Pump`, `BindPendingAction`, `DeliverHostCompletion` and
`RequestCancellation`.  The loop of a pump is taken apart: a call of `Pump`
that enters the loop leaves the machine inside it, and every iteration is a
step of its own.
-/

namespace Savor.Program

open Library
open Executor

/-- The control state of a pump: its argument and the instructions it has
executed. -/
structure PumpLoop where
  (maximumInstructions quantum : UInt64)
  deriving DecidableEq

/-- An executor is idle until a Start is accepted.  The fields a rejected Start
assigns are overwritten by the next one. -/
inductive Machine
  | idle
  | started (executor : Executor) (loop : Option PumpLoop)

/-- Calls into the executor, and the iterations of a pump's loop.  The
cancellation token is read at the start of a pump, and each iteration may find
the reducers in another state. -/
inductive ExecutorInput
  | start (verified : VerifiedProgramModule) (invocation : ProgramInvocation)
  | pump (maximumInstructions : UInt64) (token : CancellationReason)
  | iterate (reducers : Option PureReducerInvoker)
  | bindPendingAction (requestId : ProgramActionRequestId)
  | deliverHostCompletion (completion : ProgramActionResolution)
  | requestCancellation (reason : CancellationReason)

/-- What an iteration of the pump loop does. -/
inductive PumpAction
  | quantumSpent
  | cleanup
  | notRunnable
  | instructionBudgetExhausted
  | missingBlock
  | instruction (instruction : Instruction)
  | terminator (terminator : Terminator)
  deriving DecidableEq

/-- The answer to a delivered completion. -/
structure Delivery where
  accepted : Bool
  diagnostic : Option ByteString := none

inductive ExecutorEvent
  | startAccepted
  | startRejected (diagnostic : ByteString)
  | pumpReturned (result : PumpResult)
  | pumpEntered
  | iterated (action : PumpAction) (returned : Option PumpResult)
  | bound (accepted : Bool)
  | delivered (delivery : Delivery)
  | cancellationRequested (accepted : Bool)

namespace ProgramCleanupStatus

/-- Cleanup outcomes by severity. -/
def severity (status : ProgramCleanupStatus) : Nat := status.ctorIdx

/-- The more severe of two outcomes. -/
def worst (left right : ProgramCleanupStatus) : ProgramCleanupStatus :=
  if right.severity > left.severity then right else left

end ProgramCleanupStatus

/-- The more severe of two dispositions. -/
def SessionDisposition.worst (left right : SessionDisposition) : SessionDisposition :=
  if right.ctorIdx > left.ctorIdx then right else left

variable (executor : Executor) (pending : PendingHost)
variable (completion : ProgramActionResolution)

namespace Executor

/-- The budgets that Start requires to be nonzero; the emission and artifact
budgets may be zero. -/
def startBudgetsNonzero (limits : ProgramBudgets) : Bool :=
  limits.maximumInstructions != 0 && limits.maximumCalls != 0 &&
    limits.maximumCallDepth != 0 && limits.maximumActionRequests != 0 &&
    limits.maximumValues != 0 && limits.maximumValueBytes != 0 && limits.maximumTraceEvents != 0

/-- The executor of an accepted Start, before its first trace event. -/
def initial (verified : VerifiedProgramModule) (invocation : ProgramInvocation)
    (function : ProgramFunction) (block : BasicBlock) (argument : ValueDefinition)
    (measured : ProgramValueGraphMeasure) : Executor :=
  { verified, invocation
    limits := invocation.limits
    result :=
      { invocationId := invocation.invocationId
        attemptId := invocation.attemptId
        module := invocation.module
        entrypoint := invocation.entrypoint
        resolvedDependencies := verified.dependencyLock
        provenance := invocation.provenance }
    activity := .runnable
    frames :=
      [{ module := verified.module
         function
         block := some block
         values := AList.singleton argument.id invocation.input }]
    scopes := [{ id := invocationScope, parent := StrongId.none }]
    valueCount := measured.valueCount
    valueBytes := measured.valueBytes }

/-- `ProgramExecutor::Start` on an idle executor. -/
def start (verified : VerifiedProgramModule) (invocation : ProgramInvocation) :
    Except ByteString Executor :=
  let invalidStart := "ProgramExecutor start request is invalid"
  let budgets := "ProgramExecutor requires finite nonzero budgets"
  let oneInput := "ProgramExecutor entrypoint requires one typed input"
  let invalidInput := "ProgramExecutor entrypoint or input graph is invalid"
  if !invocation.invocationId.isSet || !invocation.attemptId.isSet ||
      !invocation.state.expectedEpoch.isSet then .error (text invalidStart)
  else if !startBudgetsNonzero invocation.limits then .error (text budgets)
  else
    match verified.entrypoint invocation.entrypoint with
    | none => .error (text oneInput)
    | some entrypoint =>
      match verified.module.findFunction entrypoint.function with
      | none => .error (text oneInput)
      | some function =>
        match function.arguments with
        | [argument] =>
          match function.findBlock function.entryBlock with
          | none => .error (text invalidInput)
          | some block =>
            if invocation.input.values.isEmpty || invocation.input.rootValue.isNone then
              .error (text invalidInput)
            else
              let limits : ProgramValueArenaLimits :=
                ⟨invocation.limits.maximumValues, invocation.limits.maximumValueBytes⟩
              match validateProgramValueGraph invocation.input
                  entrypoint.inputType verified.typeClosure limits
                  (some invocation.state.expectedEpoch) with
              | .error failure => .error (orDefault failure.message
                  "ProgramExecutor input graph violates its verified schema")
              | .ok () =>
                match measureProgramValueGraph invocation.input limits with
                | .error failure => .error (orDefault failure.message
                    "ProgramExecutor input graph exceeds its value budget")
                | .ok measured =>
                  .ok ((initial verified invocation function block
                    argument measured).trace "invocation_started")
        | _ => .error (text oneInput)

/-- A cleanup request for a scope. -/
def cleanupRequest (scope : Scope) (operation : ProgramHostOperation)
    (action : Option ExactDependencyIdentity) (input : ProgramValueGraph) : ExecutorHostRequest :=
  { operation, action, input
    scope := scope.id
    parentScope := scope.parent
    cleanupOnly := true }

/-- `Impl::PumpCleanup`: the newest deferred action of the innermost scope,
else its close, else the end of the invocation. -/
def pumpCleanup : PumpResult × Executor :=
  match executor.scopes with
  | [] =>
    ({}, executor.beginFailure .contractFailed (text "scope_underflow")
      (text "Program cleanup lost the invocation scope"))
  | scope :: scopes =>
    match scope.deferred with
    | deferred :: rest =>
      ({ executor with
          scopes := { scope with deferred := rest } :: scopes }).suspend
        (cleanupRequest scope .invokeAction (some deferred.action) deferred.input)
        .deferredCleanup
    | [] =>
      if executor.explicitScopeClose then
        executor.suspend (cleanupRequest scope .closeScope none unitGraph) .closeScope
      else if executor.scopes.length > 1 then
        executor.suspend (cleanupRequest scope .closeScope none unitGraph) .closeScope
      else
        executor.suspend (cleanupRequest scope .finishInvocation none unitGraph) .finishInvocation

/-- What the next iteration of the pump loop does. -/
def pumpAction (loop : PumpLoop) : PumpAction :=
  if loop.quantum ≥ loop.maximumInstructions then .quantumSpent
  else if executor.activity = .unwinding then .cleanup
  else
    match executor.activity, executor.frame? with
    | .runnable, some frame =>
      if executor.instructionsExecuted + 1 >
          executor.limits.maximumInstructions then .instructionBudgetExhausted
      else
        match frame.block with
        | none => .missingBlock
        | some block =>
          match block.instructions[frame.instructionIndex]? with
          | some instruction => .instruction instruction
          | none => .terminator block.terminator
    | _, _ => .notRunnable

/-- Count an instruction against the budget. -/
def countInstruction : Executor :=
  { executor with instructionsExecuted := executor.instructionsExecuted + 1 }

/-- The loop goes on unless the step asks the host, ends or emits. -/
def continueLoop (loop : PumpLoop) (step : PumpResult × Executor) :
    Option PumpResult × Executor × PumpLoop :=
  let spent := { loop with quantum := loop.quantum + 1 }
  if step.1.hostRequest.isSome || step.1.terminal.isSome ||
      step.1.emission.isSome then (some step.1, step.2, spent)
  else (none, step.2, spent)

/-- One iteration of the loop of `ProgramExecutor::Pump`: the result it returns
from the pump, if it does, and the state it leaves. -/
def pumpIteration (floats : FloatUnit) (reducers : Option PureReducerInvoker)
    (executor : Executor) (loop : PumpLoop) : Option PumpResult × Executor × PumpLoop :=
  match executor.pumpAction loop with
  | .quantumSpent =>
    (some { runnable := executor.activity = .runnable ||
        executor.activity = .unwinding }, executor, loop)
  | .cleanup =>
    let (result, executor) := executor.pumpCleanup
    (some result, executor, loop)
  | .notRunnable => (some {}, executor, loop)
  | .instructionBudgetExhausted =>
    -- The loop continues without counting this round.
    (none, executor.countInstruction.beginFailure .budgetExhausted (text "instruction_budget")
        (text "Program instruction budget was exhausted"), loop)
  | .missingBlock =>
    (none, executor.countInstruction.beginFailure .contractFailed (text "missing_block")
        (text "Program frame has no active basic block"), { loop with quantum := loop.quantum + 1 })
  | .instruction instruction =>
    continueLoop loop (executeInstruction floats reducers executor.countInstruction instruction)
  | .terminator terminator =>
    continueLoop loop (executor.countInstruction.executeTerminator terminator)

/-- The requested cancellation, or the one the token reports. -/
def cancellationReason (token : CancellationReason) : CancellationReason :=
  if executor.explicitCancellation ≠ .none then executor.explicitCancellation
  else token

/-- `ProgramExecutor::Pump` up to its loop: a result it returns at once, or the
state in which it enters the loop. -/
def pump (maximumInstructions : UInt64) (token : CancellationReason) :
    Option PumpResult × Executor :=
  if executor.activity = .terminal then
    (some { terminal := some executor.result }, executor)
  else if executor.activity = .awaitingHost || executor.activity = .idle then
    (some {}, executor)
  else if maximumInstructions = 0 then
    (some { runnable := true }, executor)
  else
    if executor.cancellationReason token ≠ .none && !executor.unwinding then
      (none, executor.beginFailure .cancelled (text "cancelled")
        (text "Program invocation was cancelled"))
    else (none, executor)

/-- `ProgramExecutor::BindPendingAction`. -/
def bindPendingAction (requestId : ProgramActionRequestId) : Option Executor :=
  match executor.pending with
  | none => none
  | some pending =>
    if !requestId.isSet || executor.activity ≠ .awaitingHost || pending.requestId.isSome then none
    else
      some { executor with
        pending := some { pending with requestId := some requestId } }

/-- `ProgramExecutor::RequestCancellation`. -/
def requestCancellation (reason : CancellationReason) : Option Executor :=
  if reason = .none || executor.activity = .idle ||
      executor.activity = .terminal ||
      executor.explicitCancellation ≠ .none then none
  else some { executor with explicitCancellation := reason }

/-- The completion answers the pending request. -/
def completionMatches : Bool :=
  executor.activity = .awaitingHost && pending.requestId = some completion.requestId &&
    completion.invocationId = executor.invocation.invocationId &&
    completion.attemptId = executor.invocation.attemptId &&
    completion.operation = pending.request.operation

/-- The completion is bound to the invocation's epoch. -/
def epochMatches : Bool :=
  completion.worksetEpoch.isSet && completion.worksetEpoch = executor.invocation.state.expectedEpoch

/-- The check of a completed action's output against the action's type and the
remaining value budget; other completions pass. -/
def outputStatus (descriptor : Option ActionDescriptor)
    (completion : ProgramActionResolution) : ArenaResult Unit :=
  if completion.status = .completed && pending.request.operation = .invokeAction then
    match descriptor with
    | some descriptor =>
      validateProgramValueGraph completion.output descriptor.outputType
        executor.verified.typeClosure
        (executor.remainingLimits executor.valueCount executor.valueBytes)
        (some completion.worksetEpoch)
    | none => arenaFailure .schemaMismatch "Pending action binding disappeared"
  else .ok ()

/-- Record what the completion reports about cleanup. -/
def recordCleanup : Executor :=
  let result := executor.result
  let cleanup := completion.cleanupReceipts.foldl
    (fun cleanup receipt => cleanup.worst receipt.status)
    (result.cleanup.worst completion.cleanup)
  let disposition :=
    if completion.cleanupReceipts.any (·.status = .tainted) then .tainted
    else result.sessionDisposition.worst completion.sessionDisposition
  { executor with
    result := { result with
      cleanup := cleanup
      sessionDisposition := disposition
      cleanupReceipts := result.cleanupReceipts ++ completion.cleanupReceipts } }

/-- A failed cleanup request taints the session and the unwinding goes on; a
failed close retires its scope, a failed finish ends the run. -/
def deliverCleanupFailure (success : PendingSuccess)
    (completion : ProgramActionResolution) : Executor :=
  let tainted := { executor with
    result := { executor.result with
      cleanup := .tainted
      sessionDisposition := .tainted } }
  let reported := tainted.diagnostic
    (orDefault completion.code "cleanup_failed")
    (orDefault completion.message "Program cleanup action failed")
  match success with
  | .finishInvocation =>
    { reported with
      result := { reported.result with infrastructure := .backendFailed }
      activity := .terminal }
  | .closeScope =>
    let infrastructure :=
      if reported.unwinding then reported.result.infrastructure
      else .backendFailed
    { reported with
      scopes := reported.scopes.tail
      explicitScopeClose := false
      unwinding := true
      result := { reported.result with infrastructure := infrastructure }
      activity := .unwinding }
  | _ => { reported with activity := .unwinding }

/-- The status an unsuccessful action ends the program with. -/
def failureStatus : ProgramActionResolutionStatus → ProgramInfrastructureStatus
  | .cancelled => .cancelled
  | .timedOut => .timedOut
  | .staleEpoch => .contractFailed
  | _ => .backendFailed

/-- A completion that did not succeed. -/
def deliverFailure (success : PendingSuccess) (completion : ProgramActionResolution) : Executor :=
  match success with
  | .deferredCleanup | .closeScope | .finishInvocation =>
    executor.deliverCleanupFailure success completion
  | _ =>
    ({ executor with activity := .runnable }).beginFailure
      (failureStatus completion.status)
      (orDefault completion.code "action_failed")
      (orDefault completion.message "Program action failed")

/-- A completion that succeeded. -/
def deliverSuccess (descriptor : Option ActionDescriptor)
    (completion : ProgramActionResolution) : Delivery × Executor :=
  match pending.success with
  | .bindValue =>
    let executor := { executor with activity := .runnable }
    match pending.result, descriptor with
    | none, _ => (⟨true, none⟩, executor)
    | some _, none => (⟨false, none⟩, executor)
    | some result, some descriptor =>
      let (accepted, executor) := executor.bind result descriptor.outputType completion.output
      (⟨accepted, none⟩, executor)
  | .pushScope =>
    (⟨true, none⟩, { executor with
      scopes := ⟨pending.request.scope, pending.request.parentScope, []⟩ :: executor.scopes
      activity := .runnable })
  | .closeScope =>
    if executor.explicitScopeClose then
      (⟨true, none⟩, { executor with
        scopes := executor.scopes.tail
        explicitScopeClose := false
        activity := .runnable })
    else
      (⟨true, none⟩, { executor with
        scopes := executor.scopes.tail
        activity := .unwinding })
  | .promote => (⟨true, none⟩, { executor with activity := .runnable })
  | .deferredCleanup => (⟨true, none⟩, { executor with activity := .unwinding })
  | .finishInvocation =>
    (⟨true, none⟩, { executor.trace "invocation_terminal" with
      activity := .terminal })

/-- `DeliverHostCompletion` once the completion has been found to answer the
pending request. -/
def acceptCompletion : Delivery × Executor :=
  let descriptor := pending.request.action.bind executor.verified.action
  if pending.request.action.isSome && descriptor.isNone then
    (⟨false, some (text "Pending action binding disappeared")⟩, executor)
  else
    match executor.outputStatus pending descriptor completion with
    | .error failure =>
      if failure.error.isBudget then
        -- The activity is made runnable for `beginFailure`, which does
        -- nothing when the unwinding has already begun.
        (⟨true, none⟩, ({ (executor.recordCleanup completion) with
            pending := none
            activity := .runnable }).beginFailure .budgetExhausted (text "value_budget")
          (orDefault failure.message
            "Action completion output exceeds the remaining program value budget"))
      else
        (⟨false, some (orDefault failure.message
          "Action completion output does not match the verified action contract")⟩, executor)
    | .ok () =>
      let executor := { (executor.recordCleanup completion) with
        pending := none }
      if completion.status = .completed then
        executor.deliverSuccess pending descriptor completion
      else
        (⟨true, none⟩, executor.deliverFailure pending.success completion)

/-- `ProgramExecutor::DeliverHostCompletion`. -/
def deliverHostCompletion : Delivery × Executor :=
  let mismatch := text "Host completion does not match the pending action"
  match executor.pending with
  | none => (⟨false, some mismatch⟩, executor)
  | some pending =>
    if !executor.completionMatches pending completion then
      (⟨false, some mismatch⟩, executor)
    else if !executor.epochMatches completion then
      (⟨false, some (text
        "Host completion did not preserve the pending action's authoritative WorksetEpoch")⟩,
        executor)
    else executor.acceptCompletion pending completion

end Executor

namespace Machine

/-- One call into the executor, or one iteration of a pump. -/
def step (floats : FloatUnit) : ExecutorInput → Machine → Option (ExecutorEvent × Machine)
  | .start verified invocation, .idle =>
    match start verified invocation with
    | .error diagnostic => some (.startRejected diagnostic, .idle)
    | .ok executor => some (.startAccepted, .started executor none)
  | .start _ _, .started executor none =>
    some (.startRejected (text "ProgramExecutor start request is invalid"), .started executor none)
  | .pump _ _, .idle => some (.pumpReturned {}, .idle)
  | .pump maximum token, .started executor none =>
    match executor.pump maximum token with
    | (some result, executor) => some (.pumpReturned result, .started executor none)
    | (none, executor) => some (.pumpEntered, .started executor (some ⟨maximum, 0⟩))
  | .iterate reducers, .started executor (some loop) =>
    let action := executor.pumpAction loop
    match executor.pumpIteration floats reducers loop with
    | (some result, executor, _) => some (.iterated action (some result), .started executor none)
    | (none, executor, loop) => some (.iterated action none, .started executor (some loop))
  | .bindPendingAction _, .idle => some (.bound false, .idle)
  | .bindPendingAction requestId, .started executor none =>
    match executor.bindPendingAction requestId with
    | none => some (.bound false, .started executor none)
    | some executor => some (.bound true, .started executor none)
  | .deliverHostCompletion _, .idle =>
    some (.delivered ⟨false,
      some (text "Host completion does not match the pending action")⟩, .idle)
  | .deliverHostCompletion completion, .started executor none =>
    let (delivery, executor) := executor.deliverHostCompletion completion
    some (.delivered delivery, .started executor none)
  | .requestCancellation _, .idle => some (.cancellationRequested false, .idle)
  | .requestCancellation reason, .started executor none =>
    match executor.requestCancellation reason with
    | none => some (.cancellationRequested false, .started executor none)
    | some executor => some (.cancellationRequested true, .started executor none)
  -- Inside a pump only its own iterations run.
  | _, _ => none

/-- The executor of a started machine. -/
def executor? : Machine → Option Executor
  | .idle => none
  | .started executor _ => some executor

end Machine

/-- A recorded call or iteration. -/
abbrev ExecutorTransition := Transition Machine ExecutorInput ExecutorEvent

/-- Runs of a new executor whose transitions meet a condition. -/
abbrev ExecutorRun (floats : FloatUnit) (Allowed : Machine → ExecutorInput → Prop) :
    List ExecutorTransition → Machine → Prop :=
  Run (Machine.step floats) Allowed .idle

/-!
## The control state of an executor

The part of the executor's state that decides what happens next: activity,
frames, scopes, the pending request and the unwinding flags.  Traces, counters
and collected results are left out.  Every step of the machine is a step of the
relation `ControlStep`, which says once what each operation can do to this
state; the laws about runs are proved from it.
-/

structure Control where
  verified : VerifiedProgramModule
  epoch : WorksetEpoch
  infrastructure : ProgramInfrastructureStatus
  activity : ProgramExecutorActivity
  frames : List Frame
  scopes : List Scope
  pending : Option PendingHost
  (unwinding explicitScopeClose : Bool)

/-- The control state of an executor. -/
def Executor.control : Control where
  verified := executor.verified
  epoch := executor.invocation.state.expectedEpoch
  infrastructure := executor.result.infrastructure
  activity := executor.activity
  frames := executor.frames
  scopes := executor.scopes
  pending := executor.pending
  unwinding := executor.unwinding
  explicitScopeClose := executor.explicitScopeClose

variable (control : Control)

namespace Control

/-- The first failure starts the unwinding. -/
def fail (status : ProgramInfrastructureStatus) : Control :=
  if control.unwinding || control.activity = .terminal then control
  else
    { control with
      infrastructure := status
      unwinding := true
      explicitScopeClose := false
      activity := .unwinding }

/-- Wait for the host. -/
def suspend (request : ExecutorHostRequest) (success : PendingSuccess)
    (result : Option ProgramValueId) : Control :=
  { control with
    pending := some { request, success, result, requestId := none }
    activity := .awaitingHost }

/-- The pending request is answered and the program may go on. -/
def resume : Control := { control with pending := none, activity := .runnable }

/-- The entry function has returned. -/
def finish : Control :=
  { control with
    infrastructure := .completed
    unwinding := true
    explicitScopeClose := false
    activity := .unwinding }

@[simp] theorem fail_fail (first second : ProgramInfrastructureStatus) :
    (control.fail first).fail second = control.fail first := by
  unfold fail
  split <;> simp_all

/-- The innermost scope, or the executor's default where there is none. -/
def innermost : Scope := control.scopes.head?.getD ⟨StrongId.none, StrongId.none, []⟩

/-- A value that was validated against a type in the verified closure. -/
def Validated (type : TypeRef) (value : ProgramValueGraph) : Prop :=
  ∃ limits, validateProgramValueGraph value type control.verified.typeClosure
    limits (some control.epoch) = .ok ()

/-- The function that a call instruction of a module names. -/
inductive CallTarget (verified : VerifiedProgramModule) (caller : ProgramModule)
    (instruction : Instruction) : ProgramModule → ProgramFunction → Prop
  | local {function}
      (opcode : instruction.opcode = .callLocal)
      (found : caller.findFunction instruction.target.localFunction = some function) :
      CallTarget verified caller instruction caller function
  | imported {dependency module function}
      (opcode : instruction.opcode = .callImported)
      (target : instruction.target.dependency = some dependency)
      (resolved : verified.importedModule dependency = some module)
      (found : module.functions.find? (·.name = instruction.target.memberName) = some function) :
      CallTarget verified caller instruction module function

end Control

/-- The instructions that compute a value and bind it. -/
def InstructionOpcode.computes : InstructionOpcode → Bool
  | .callLocal | .callImported | .awaitAction | .emitRecord | .publishArtifact
  | .enterScope | .exitScope | .deferCompensation | .promoteResource => false
  | _ => true

open Control

/-- What executing an instruction in `frame` does: the request it makes and the
control state it leaves. -/
inductive InstructionStep (control : Control) (frame : Frame)
    (callers : List Frame) (instruction : Instruction) : Option ExecutorHostRequest → Control → Prop
  | failed (status) : InstructionStep control frame callers instruction none (control.fail status)
  | bound {result value}
      (opcode : instruction.opcode.computes)
      (resulting : instruction.result = some result)
      (validated : control.Validated result.type value) :
      InstructionStep control frame callers instruction none
        { control with
          frames := (frame.store result.id value).advance :: callers }
  | called {module function block values}
      (target : CallTarget control.verified frame.module instruction module function)
      (arity : function.arguments.length = instruction.operands.length)
      (entry : function.findBlock function.entryBlock = some block)
      (operands : instruction.operands.mapM (frame.value control.epoch) = some values) :
      InstructionStep control frame callers instruction none
        { control with
          frames := calleeFrame module function block values
            (instruction.result.map (·.id)) :: frame.advance :: callers }
  | awaited {dependency descriptor input request}
      (opcode : instruction.opcode = .awaitAction)
      (target : instruction.target.dependency = some dependency)
      (described : control.verified.action dependency = some descriptor)
      (asked : request =
        { operation := .invokeAction
          action := some dependency
          input := input
          scope := control.innermost.id
          parentScope := control.innermost.parent
          diagnosticSelector := instruction.selector }) :
      InstructionStep control frame callers instruction (some request)
        ({ control with frames := frame.advance :: callers }.suspend request
          .bindValue (instruction.result.map ValueDefinition.id))
  | effected
      (opcode : instruction.opcode = .emitRecord ∨ instruction.opcode = .publishArtifact) :
      InstructionStep control frame callers instruction none
        { control with frames := frame.advance :: callers }
  | scopeEntered {request}
      (opcode : instruction.opcode = .enterScope)
      (named : instruction.scope.isSet)
      (enclosed : control.scopes ≠ [])
      (asked : request =
        { operation := .openScope
          input := unitGraph
          scope := instruction.scope
          parentScope := control.innermost.id }) :
      InstructionStep control frame callers instruction (some request)
        ({ control with frames := frame.advance :: callers }.suspend request .pushScope none)
  | scopeExited {scope outer}
      (opcode : instruction.opcode = .exitScope)
      (stack : control.scopes = scope :: outer)
      (enclosed : outer ≠ [])
      (named : scope.id = instruction.scope) :
      InstructionStep control frame callers instruction none
        { control with
          frames := frame.advance :: callers
          explicitScopeClose := true
          activity := .unwinding }
  | deferred {dependency descriptor input scope outer}
      (opcode : instruction.opcode = .deferCompensation)
      (target : instruction.target.dependency = some dependency)
      (described : control.verified.action dependency = some descriptor)
      (stack : control.scopes = scope :: outer) :
      InstructionStep control frame callers instruction none
        { control with
          frames := frame.advance :: callers
          scopes :=
            { scope with deferred := ⟨dependency, input⟩ :: scope.deferred } :: outer }
  | promoted {handle request}
      (opcode : instruction.opcode = .promoteResource)
      (asked : request =
        { operation := .promoteResource
          input := unitGraph
          scope := instruction.scope
          parentScope := control.innermost.id
          resource := handle }) :
      InstructionStep control frame callers instruction (some request)
        ({ control with frames := frame.advance :: callers }.suspend request .promote none)

/-- What executing a terminator in `frame` does. -/
inductive TerminatorStep (control : Control) (frame : Frame)
    (callers : List Frame) (terminator : Terminator) : Control → Prop
  | failed (status) : TerminatorStep control frame callers terminator (control.fail status)
  | entered {edge target values}
      (listed : edge ∈ terminator.allEdges)
      (jumps : terminator.kind ≠ .return)
      (found : frame.function.findBlock edge.target = some target)
      (arity : target.arguments.length = edge.arguments.length)
      (arguments : edge.arguments.mapM frame.lookup = some values) :
      TerminatorStep control frame callers terminator
        { control with
          frames := enteredFrame target values frame :: callers }
  | returned {caller rest}
      (returns : terminator.kind = .return)
      (stack : callers = caller :: rest) :
      TerminatorStep control frame callers terminator { control with frames := caller :: rest }
  | returnBound {caller rest destination type value}
      (returns : terminator.kind = .return)
      (stack : callers = caller :: rest)
      (destined : frame.returnDestination = some destination)
      (typed : caller.definitionType destination = some type)
      (validated : control.Validated type value) :
      TerminatorStep control frame callers terminator
        { control with frames := caller.store destination value :: rest }
  | returnFailed {caller rest} (status)
      (returns : terminator.kind = .return)
      (stack : callers = caller :: rest) :
      TerminatorStep control frame callers terminator
        ({ control with frames := caller :: rest }.fail status)
  | finished
      (returns : terminator.kind = .return)
      (outermost : callers = []) :
      TerminatorStep control frame callers terminator control.finish

/-- What pumping the cleanup does. -/
inductive CleanupStep (control : Control) : Option ExecutorHostRequest → Control → Prop
  | underflow
      (stack : control.scopes = []) :
      CleanupStep control none (control.fail .contractFailed)
  | deferred {scope outer deferred rest request}
      (stack : control.scopes = scope :: outer)
      (registered : scope.deferred = deferred :: rest)
      (asked : request = cleanupRequest scope .invokeAction (some deferred.action) deferred.input) :
      CleanupStep control (some request)
        ({ control with scopes := { scope with deferred := rest } :: outer }
          |>.suspend request .deferredCleanup none)
  | close {scope outer request}
      (stack : control.scopes = scope :: outer)
      (exhausted : scope.deferred = [])
      (enclosed : control.explicitScopeClose = true ∨ outer ≠ [])
      (asked : request = cleanupRequest scope .closeScope none unitGraph) :
      CleanupStep control (some request) (control.suspend request .closeScope none)
  | finish {scope request}
      (stack : control.scopes = [scope])
      (exhausted : scope.deferred = [])
      (implicit : control.explicitScopeClose = false)
      (asked : request = cleanupRequest scope .finishInvocation none unitGraph) :
      CleanupStep control (some request) (control.suspend request .finishInvocation none)

/-- The requests whose failure fails the program. -/
def PendingSuccess.isOrdinary : PendingSuccess → Bool
  | .bindValue | .pushScope | .promote => true
  | .closeScope | .deferredCleanup | .finishInvocation => false

/-- What an accepted completion of the pending request does.  `resumes` stands
for the completions that make an unwinding program runnable again. -/
inductive DeliveryStep (control : Control) (pending : PendingHost)
    (completion : ProgramActionResolution) (resumes : Prop) : Control → Prop
  | overBudget
      (completed : completion.status = .completed)
      (operation : pending.request.operation = .invokeAction)
      (unwinds : control.unwinding = true → pending.success = .deferredCleanup → resumes) :
      DeliveryStep control pending completion resumes (control.resume.fail .budgetExhausted)
  | actionFailed (status)
      (unsuccessful : completion.status ≠ .completed)
      (ordinary : pending.success.isOrdinary) :
      DeliveryStep control pending completion resumes (control.resume.fail status)
  | deferredFailed
      (unsuccessful : completion.status ≠ .completed)
      (cleanup : pending.success = .deferredCleanup) :
      DeliveryStep control pending completion resumes
        { control with pending := none, activity := .unwinding }
  | closeFailed
      (unsuccessful : completion.status ≠ .completed)
      (close : pending.success = .closeScope) :
      DeliveryStep control pending completion resumes
        { control with
          pending := none
          scopes := control.scopes.tail
          explicitScopeClose := false
          unwinding := true
          infrastructure :=
            if control.unwinding then control.infrastructure
            else .backendFailed
          activity := .unwinding }
  | finishFailed
      (unsuccessful : completion.status ≠ .completed)
      (finish : pending.success = .finishInvocation) :
      DeliveryStep control pending completion resumes
        { control with
          pending := none
          infrastructure := .backendFailed
          activity := .terminal }
  | unbound
      (completed : completion.status = .completed)
      (value : pending.success = .bindValue) :
      DeliveryStep control pending completion resumes control.resume
  | bound {result descriptor}
      (completed : completion.status = .completed)
      (value : pending.success = .bindValue)
      (resulting : pending.result = some result)
      (described : pending.request.action.bind control.verified.action = some descriptor)
      (validated : control.Validated descriptor.outputType completion.output) :
      DeliveryStep control pending completion resumes
        { control.resume with
          frames := match control.frames with
            | [] => []
            | frame :: callers => frame.store result completion.output :: callers }
  | bindFailed (status)
      (completed : completion.status = .completed)
      (value : pending.success = .bindValue) :
      DeliveryStep control pending completion resumes (control.resume.fail status)
  | scopePushed
      (completed : completion.status = .completed)
      (push : pending.success = .pushScope) :
      DeliveryStep control pending completion resumes
        { control.resume with
          scopes := ⟨pending.request.scope, pending.request.parentScope, []⟩ :: control.scopes }
  | scopeClosed
      (completed : completion.status = .completed)
      (close : pending.success = .closeScope)
      (implicit : control.explicitScopeClose = false) :
      DeliveryStep control pending completion resumes
        { control with
          pending := none
          scopes := control.scopes.tail
          activity := .unwinding }
  | scopeClosedExplicitly
      (completed : completion.status = .completed)
      (close : pending.success = .closeScope)
      (explicitly : control.explicitScopeClose = true) :
      DeliveryStep control pending completion resumes
        { control.resume with
          scopes := control.scopes.tail
          explicitScopeClose := false }
  | promoted
      (completed : completion.status = .completed)
      (promote : pending.success = .promote) :
      DeliveryStep control pending completion resumes control.resume
  | deferredDone
      (completed : completion.status = .completed)
      (cleanup : pending.success = .deferredCleanup) :
      DeliveryStep control pending completion resumes
        { control with pending := none, activity := .unwinding }
  | finished
      (completed : completion.status = .completed)
      (finish : pending.success = .finishInvocation) :
      DeliveryStep control pending completion resumes
        { control with pending := none, activity := .terminal }

namespace ExecutorEvent

/-- The pump action of an iteration. -/
def action : ExecutorEvent → Option PumpAction
  | .iterated action _ => some action
  | _ => none

/-- The request that an iteration returns to the host. -/
def request : ExecutorEvent → Option ExecutorHostRequest
  | .iterated _ (some result) => result.hostRequest
  | _ => none

/-- A completion was delivered and accepted. -/
def accepts : ExecutorEvent → Bool
  | .delivered delivery => delivery.accepted
  | _ => false

end ExecutorEvent

/-- The pump actions that do nothing to the program. -/
def PumpAction.isInert : PumpAction → Bool
  | .quantumSpent | .notRunnable | .instructionBudgetExhausted | .missingBlock => true
  | .cleanup | .instruction _ | .terminator _ => false

/-- A step of a started machine on the control state. -/
inductive ControlStep (control : Control) (resumes : Prop) :
    ExecutorInput → ExecutorEvent → Control → Prop
  | quiet {input event}
      (inert : ∀ action, event.action = some action → action.isInert)
      (unasked : event.request = none)
      (refused : event.accepts = false) :
      ControlStep control resumes input event control
  | identified {requestId pending}
      (waiting : control.pending = some pending) :
      ControlStep control resumes (.bindPendingAction requestId) (.bound true)
        { control with
          pending := some { pending with requestId := some requestId } }
  | failed {input event} (status)
      (inert : ∀ action, event.action = some action → action.isInert)
      (unasked : event.request = none)
      (refused : event.accepts = false)
      (active : control.activity = .runnable ∨ control.activity = .unwinding) :
      ControlStep control resumes input event (control.fail status)
  | cleanup {reducers result after}
      (unwinding : control.activity = .unwinding)
      (step : CleanupStep control result.hostRequest after) :
      ControlStep control resumes (.iterate reducers) (.iterated .cleanup (some result)) after
  | instruction {reducers returned after frame callers block instruction}
      (runnable : control.activity = .runnable)
      (stack : control.frames = frame :: callers)
      (current : frame.block = some block)
      (point : block.instructions[frame.instructionIndex]? = some instruction)
      (step : InstructionStep control frame callers instruction
        (returned.bind PumpResult.hostRequest) after) :
      ControlStep control resumes (.iterate reducers)
        (.iterated (.instruction instruction) returned) after
  | terminator {reducers after frame callers block}
      (runnable : control.activity = .runnable)
      (stack : control.frames = frame :: callers)
      (current : frame.block = some block)
      (point : block.instructions[frame.instructionIndex]? = none)
      (step : TerminatorStep control frame callers block.terminator after) :
      ControlStep control resumes (.iterate reducers)
        (.iterated (.terminator block.terminator) none) after
  | delivered {completion delivery pending after}
      (awaiting : control.activity = .awaitingHost)
      (waiting : control.pending = some pending)
      (operation : completion.operation = pending.request.operation)
      (accepted : pending.success ≠ .bindValue → delivery.accepted = true)
      (step : DeliveryStep control pending completion resumes after) :
      ControlStep control resumes (.deliverHostCompletion completion) (.delivered delivery) after

end Savor.Program

import Savor.Execution.State

/-!
# Executing instructions

The opcodes that compute a value share one evaluation and one binding step.
Calls, awaited actions, effects and scopes each have their own transition.
-/

namespace Savor.Program

/-- A message, or a fallback where it is empty. -/
def orDefault (message : ByteString) (fallback : String) : ByteString :=
  if message.isEmpty then text fallback else message

namespace Executor

/-- The values and bytes that stay accounted for when an id is bound again:
everything but its present value.  None where the accounts disagree. -/
def retainedBudget (executor : Executor) (id : ProgramValueId) : Option (Nat × Nat) :=
  match executor.frame?.bind (·.lookup id) with
  | none => some (executor.valueCount, executor.valueBytes)
  | some existing =>
    match measureProgramValueGraph existing
        ⟨executor.limits.maximumValues, executor.limits.maximumValueBytes⟩ with
    | .error _ => none
    | .ok measured =>
      if measured.valueCount > executor.valueCount ||
          measured.valueBytes > executor.valueBytes then none
      else some (executor.valueCount - measured.valueCount,
        executor.valueBytes - measured.valueBytes)

/-- Store a value in the executing frame. -/
def store (executor : Executor) (id : ProgramValueId) (value : ProgramValueGraph) : Executor :=
  executor.modifyFrame (·.store id value)

/-- `Impl::Bind`: validate a value against its static type and the remaining
budget, and store it.  A validation failure starts the unwinding. -/
def bind (executor : Executor) (id : ProgramValueId) (expectedType : TypeRef)
    (value : ProgramValueGraph) : Bool × Executor :=
  if !id.isSet || value.values.isEmpty || value.rootValue.isNone then
    (false, executor)
  else
    match executor.retainedBudget id with
    | none => (false, executor)
    | some (count, bytes) =>
      let remaining := executor.remainingLimits count bytes
      match validateProgramValueGraph value expectedType
          executor.verified.typeClosure remaining
          (some executor.invocation.state.expectedEpoch) with
      | .error failure =>
        (false, if failure.error.isBudget then
            executor.beginFailure .budgetExhausted (text "value_budget")
              (orDefault failure.message "Program value graph violated its verified schema")
          else
            executor.beginFailure .contractFailed (text "invalid_value")
              (orDefault failure.message "Program value graph violated its verified schema"))
      | .ok () =>
        match measureProgramValueGraph value remaining with
        | .error failure =>
          (false, executor.beginFailure .budgetExhausted (text "value_budget")
              (orDefault failure.message "Program value arena budget was exhausted"))
        | .ok measured =>
          (true,
            { executor.store id value with
              valueCount := count + measured.valueCount
              valueBytes := bytes + measured.valueBytes })

/-- `fail` of an instruction. -/
def failInstruction (executor : Executor) (instruction : Instruction)
    (message : ByteString) : PumpResult × Executor :=
  ({}, executor.beginFailure .contractFailed (text "instruction_failed") message
    instruction.sourceLocation)

/-- `bind_result`, with the message of a failed binding. -/
def bindResult (executor : Executor) (instruction : Instruction)
    (failure : String) (value : ProgramValueGraph) : PumpResult × Executor :=
  match instruction.result with
  | none => executor.failInstruction instruction (text failure)
  | some result =>
    match executor.bind result.id result.type value with
    | (false, executor) => executor.failInstruction instruction (text failure)
    | (true, executor) => ({ runnable := true }, executor.advance)

def buildInput (executor : Executor) (instruction : Instruction)
    (inputType : TypeRef) : Option ProgramValueGraph :=
  match instruction.operands.mapM executor.value with
  | none => none
  | some [] => some unitGraph
  | some [operand] => some operand
  | some operands => some (compositeGraph inputType operands false)

section Evaluation

variable (floats : FloatUnit) (executor : Executor) (instruction : Instruction)

/-- `operand`: the value of an operand by position. -/
def operand (index : Nat) : Option ProgramValueGraph :=
  instruction.operands[index]?.bind executor.value

/-- The payload at the root of a graph. -/
def rootPayload (graph : ProgramValueGraph) : Option ProgramValuePayload :=
  graph.rootValue.map ProgramValue.payload

/-- A required part of an evaluation, with the message of its absence. -/
def require {α : Type} (part : Option α) (message : String) : Except ByteString α :=
  match part with
  | none => .error (text message)
  | some part => .ok part

/-- `RecordProject` and `ListIndex`. -/
def evaluateProjection : Except ByteString ProgramValueGraph := do
  let source ← require (executor.operand instruction 0)
    "Projection operand is missing"
  let payload ← require (rootPayload source) "Projection root is missing"
  let members : Option (List ProgramValueId) := match payload with
    | .record fields => some fields
    | .list elements => some elements
    | _ => none
  let index ←
    if instruction.opcode = .recordProject then
      require (executor.recordFieldIndex instruction)
        "Record projection field is unresolved"
    else if instruction.operands.length > 1 then
      match (executor.operand instruction 1).bind (toNumber floats) with
      | some (.unsigned value) => .ok value.toNat
      | _ => .error (text "List index is not unsigned")
    else .ok 0
  let member ← require (members.bind (·[index]?))
    "Composite projection is out of bounds"
  let projected := source.extractGraph member
  if projected.values.isEmpty then
    .error (text "Composite projection could not be extracted")
  else .ok projected

/-- `RecordUpdate`. -/
def evaluateRecordUpdate : Except ByteString ProgramValueGraph := do
  let malformed := "Record update is malformed"
  let source ← require (executor.operand instruction 0) malformed
  let replacement ← require (executor.operand instruction 1) malformed
  let result ← require instruction.result malformed
  let outOfBounds := "Record update field is out of bounds"
  let fields ← match rootPayload source with
    | some (.record fields) => .ok fields
    | _ => .error (text outOfBounds)
  let field ← require (executor.recordFieldIndex instruction) outOfBounds
  if field ≥ fields.length then .error (text outOfBounds)
  else
    .ok (compositeGraph result.type
      (fields.mapIdx fun index member =>
        if index = field then replacement else source.extractGraph member) false)

/-- The floating branch of a binary arithmetic instruction. -/
def evaluateFloating (type : TypeRef) (left right : Number floats) :
    Except ByteString ProgramValueGraph := do
  let lhs := left.floatingValue
  let rhs := right.floatingValue
  let zero := floats.equal rhs (floats.ofInteger 0)
  let value ← match instruction.opcode with
    | .addChecked => .ok (floats.add lhs rhs)
    | .subtractChecked => .ok (floats.subtract lhs rhs)
    | .multiplyChecked => .ok (floats.multiply lhs rhs)
    | .divideChecked =>
      if zero then .error (text "Division by zero")
      else .ok (floats.divide lhs rhs)
    | .remainderChecked =>
      if zero || left.isFloating || right.isFloating then
        .error (text "Invalid remainder operation")
      else .ok (floats.remainder lhs rhs)
    | _ => .ok (floats.ofInteger 0)
  require (numberGraph floats type value)
    "Checked numeric operation overflowed"

/-- The binary arithmetic instructions. -/
def evaluateArithmetic : Except ByteString ProgramValueGraph := do
  let malformed := "Numeric operation is malformed"
  let lhs ← require (executor.operand instruction 0) malformed
  let rhs ← require (executor.operand instruction 1) malformed
  let result ← require instruction.result malformed
  let left ← require (toNumber floats lhs) "Numeric operand is invalid"
  let right ← require (toNumber floats rhs) "Numeric operand is invalid"
  if result.type.builtin.integerFormat.isSome then
    require (checkedIntegerBinaryGraph result.type lhs rhs instruction.opcode)
      (if instruction.opcode = .divideChecked && right.integersAreZero then
        "Division by zero"
      else "Checked numeric operation overflowed")
  else evaluateFloating floats instruction result.type left right

/-- `NegateChecked`. -/
def evaluateNegation : Except ByteString ProgramValueGraph := do
  let source ← require (executor.operand instruction 0) "Negation is malformed"
  let result ← require instruction.result "Negation is malformed"
  let output := (toNumber floats source).bind fun number =>
    if result.type.builtin.integerFormat.isSome then
      checkedIntegerNegationGraph result.type source
    else
      numberGraph floats result.type (floats.negate number.floatingValue)
  require output "Checked negation overflowed"

/-- The order of two numbers: exact where the left root has an integer type,
floating otherwise. -/
def compareNumbers (lhs rhs : ProgramValueGraph) (left right : Number floats) : Bool :=
  let exact := lhs.rootValue.bind fun root => compareExactInteger root.type.builtin lhs rhs
  let leftValue := left.floatingValue
  let rightValue := right.floatingValue
  match instruction.opcode, exact with
  | .less, some order => order.isLT
  | .less, none => floats.less leftValue rightValue
  | .lessEqual, some order => order.isLE
  | .lessEqual, none => floats.lessEqual leftValue rightValue
  | .greater, some order => order.isGT
  | .greater, none => floats.less rightValue leftValue
  | .greaterEqual, some order => order.isGE
  | .greaterEqual, none => floats.lessEqual rightValue leftValue
  | _, _ => false

/-- A value of type bool. -/
def boolGraph (value : Bool) : ProgramValueGraph := scalarGraph (.ofBuiltin .bool) (.bool value)

/-- The comparison instructions. -/
def evaluateComparison : Except ByteString ProgramValueGraph := do
  let lhs ← require (executor.operand instruction 0) "Comparison is malformed"
  let rhs ← require (executor.operand instruction 1) "Comparison is malformed"
  if instruction.opcode = .equal then .ok (boolGraph (lhs.equivalent rhs))
  else if instruction.opcode = .notEqual then
    .ok (boolGraph (!lhs.equivalent rhs))
  else
    let left ← require (toNumber floats lhs)
      "Ordered comparison requires numbers"
    let right ← require (toNumber floats rhs)
      "Ordered comparison requires numbers"
    .ok (boolGraph (compareNumbers floats instruction lhs rhs left right))

/-- `BooleanAnd` and `BooleanOr`. -/
def evaluateConnective : Except ByteString ProgramValueGraph := do
  let malformed := "Boolean operation is malformed"
  let lhs ← require (executor.operand instruction 0) malformed
  let rhs ← require (executor.operand instruction 1) malformed
  let notBool := "Boolean operation requires bool operands"
  let left ← require (boolean lhs) notBool
  let right ← require (boolean rhs) notBool
  .ok (boolGraph (if instruction.opcode = .booleanAnd then left && right else left || right))

/-- `CallReducer`. -/
def evaluateReducer (reducers : Option PureReducerInvoker) :
    Except ByteString ProgramValueGraph := do
  let unavailable := "Reducer call is unavailable"
  let dependency ← require instruction.target.dependency unavailable
  let _ ← require instruction.result unavailable
  let reduce ← require reducers unavailable
  let inputs ← require (instruction.operands.mapM executor.value)
    "Reducer operand is unavailable"
  match reduce dependency inputs with
  | (some output, _) => .ok output
  | (none, diagnostic) => .error (orDefault diagnostic "Pure reducer failed")

/-- The value of an instruction that computes one, or its failure message.
None for the instructions that do more than compute a value. -/
def evaluate (reducers : Option PureReducerInvoker) :
    Option (Except ByteString ProgramValueGraph) :=
  match instruction.opcode with
  | .constant => some do
      let literal ← require instruction.literal "Constant has no literal"
      .ok (fromLiteral literal)
  | .copy => some (require (executor.operand instruction 0) "Copy has no operand")
  | .select => some do
      let missing := "Select is missing an operand"
      let condition ← require (executor.operand instruction 0) missing
      let whenTrue ← require (executor.operand instruction 1) missing
      let whenFalse ← require (executor.operand instruction 2) missing
      let chosen ← require (boolean condition) "Select condition is not bool"
      .ok (if chosen then whenTrue else whenFalse)
  | .checkedConvert => some do
      let malformed := "Checked conversion is malformed"
      let result ← require instruction.result malformed
      let source ← require (executor.operand instruction 0) malformed
      let number ← require (toNumber floats source)
        "Checked conversion operand is not numeric"
      require (convertNumber floats result.type number)
        "Checked conversion overflowed"
  | .recordConstruct | .listConstruct => some do
      let result ← require instruction.result
        "Composite construction has no result"
      let children ← require (instruction.operands.mapM executor.value)
        "Composite construction operand is missing"
      .ok (compositeGraph result.type children (instruction.opcode = .listConstruct))
  | .recordProject | .listIndex => some (evaluateProjection floats executor instruction)
  | .recordUpdate => some (executor.evaluateRecordUpdate instruction)
  | .optionalConstruct => some do
      let result ← require instruction.result
        "Optional construction has no result"
      .ok (optionalGraph result.type (executor.operand instruction 0))
  | .optionalIsPresent => some do
      let source ← require (executor.operand instruction 0)
        "Optional test has no operand"
      match rootPayload source with
      | some (.optional value) => .ok (boolGraph value.isSome)
      | _ => .error (text "Optional test operand is not optional")
  | .optionalExtract => some do
      let source ← require (executor.operand instruction 0)
        "Optional extraction has no operand"
      match rootPayload source with
      | some (.optional (some value)) => .ok (source.extractGraph value)
      | _ => .error (text "Required optional value is unavailable")
  | .listAppend => some do
      let malformed := "List append is malformed"
      let source ← require (executor.operand instruction 0) malformed
      let element ← require (executor.operand instruction 1) malformed
      let result ← require instruction.result malformed
      match rootPayload source with
      | some (.list _) =>
        let appended := appendListGraph source element result.type
        if appended.values.isEmpty then
          .error (text "List append result could not be bound")
        else .ok appended
      | _ => .error (text "List append target is not a list")
  | .listSize => some do
      let source ← require (executor.operand instruction 0)
        "List size has no operand"
      match rootPayload source with
      | some (.list elements) =>
        .ok (scalarGraph ((instruction.result.map (·.type)).getD (.ofBuiltin .u64))
          (.u64 (UInt64.ofNat elements.length)))
      | _ => .error (text "List size target is not a list")
  | .addChecked | .subtractChecked | .multiplyChecked | .divideChecked
  | .remainderChecked => some (evaluateArithmetic floats executor instruction)
  | .negateChecked => some (evaluateNegation floats executor instruction)
  | .equal | .notEqual | .less | .lessEqual | .greater | .greaterEqual =>
    some (evaluateComparison floats executor instruction)
  | .booleanAnd | .booleanOr => some (executor.evaluateConnective instruction)
  | .booleanNot => some do
      let source ← require (executor.operand instruction 0)
        "Boolean not has no operand"
      let value ← require (boolean source) "Boolean not requires bool"
      .ok (boolGraph !value)
  | .callReducer => some (executor.evaluateReducer instruction reducers)
  | _ => none

/-- The message of a result that could not be bound. -/
def bindFailure : String :=
  if instruction.opcode = .listAppend then
    "List append result could not be bound"
  else "Instruction result could not be bound"

end Evaluation

section Transitions

variable (executor : Executor) (instruction : Instruction)

/-- The environment of a callee: one value for each argument.  An id that is
listed twice keeps its first value. -/
def callEnvironment (arguments : List ValueDefinition)
    (values : List ProgramValueGraph) : Environment :=
  (arguments.zip values).foldl
    (fun environment (argument, value) =>
      if argument.id ∈ environment then environment
      else environment.insert argument.id value) ∅

/-- The frame of a call. -/
def calleeFrame (module : ProgramModule) (function : ProgramFunction)
    (block : BasicBlock) (values : List ProgramValueGraph)
    (destination : Option ProgramValueId) : Frame :=
  { module, function
    block := some block
    values := callEnvironment function.arguments values
    returnDestination := destination }

/-- `PushCall`, with the failure that its caller reports when it does not
succeed; a budget or arity failure has been reported before. -/
def pushCall (module : ProgramModule) (function : ProgramFunction)
    (unavailable : String) : PumpResult × Executor :=
  let executor := { executor with callsExecuted := executor.callsExecuted + 1 }
  if executor.callsExecuted > executor.limits.maximumCalls ||
      executor.frames.length + 1 > executor.limits.maximumCallDepth.toNat then
    failInstruction
      (executor.beginFailure .budgetExhausted (text "call_budget")
        (text "Program call budget was exhausted") instruction.sourceLocation)
      instruction (text unavailable)
  else if function.arguments.length ≠ instruction.operands.length then
    failInstruction
      (executor.beginFailure .contractFailed (text "call_arity")
        (text "Program call argument count changed after verification") instruction.sourceLocation)
      instruction (text unavailable)
  else
    match function.findBlock function.entryBlock, instruction.operands.mapM executor.value with
    | some block, some values =>
      let child := calleeFrame module function block values (instruction.result.map (·.id))
      let executor := executor.advance
      ({ runnable := true }, ({ executor with frames := child :: executor.frames }).trace "call"
          instruction.sourceLocation [⟨text "function", function.name⟩])
    | _, _ => executor.failInstruction instruction (text unavailable)

/-- `CallLocal`. -/
def executeCallLocal : PumpResult × Executor :=
  let unavailable := "Local call target is unavailable"
  match executor.frame?.map (·.module) with
  | none => executor.failInstruction instruction (text unavailable)
  | some module =>
    match module.findFunction instruction.target.localFunction with
    | none => executor.failInstruction instruction (text unavailable)
    | some function => executor.pushCall instruction module function unavailable

/-- `CallImported`. -/
def executeCallImported : PumpResult × Executor :=
  match instruction.target.dependency with
  | none => executor.failInstruction instruction
      (text "Imported call has no exact dependency")
  | some dependency =>
    match executor.verified.importedModule dependency with
    | none => executor.failInstruction instruction
        (text "Imported module is unavailable")
    | some module =>
      match module.functions.find? (·.name = instruction.target.memberName) with
      | none => executor.failInstruction instruction
          (text "Imported function is unavailable")
      | some function =>
        executor.pushCall instruction module function
          "Imported function is unavailable"

/-- The request budget check of awaited and deferred actions. -/
def actionBudgetFailure (message : String) : PumpResult × Executor :=
  ({}, executor.beginFailure .budgetExhausted (text "action_budget")
    (text message) instruction.sourceLocation)

/-- The innermost scope.  It is never missing before the end of a run; the
default stands for the source's undefined `back()` of an empty stack. -/
def innermost : Scope := executor.scopes.head?.getD ⟨StrongId.none, StrongId.none, []⟩

/-- `AwaitAction`: the request is made for the innermost scope. -/
def executeAwaitAction : PumpResult × Executor :=
  match instruction.target.dependency with
  | none => executor.failInstruction instruction
      (text "Action await has no exact dependency")
  | some dependency =>
    match executor.verified.action dependency with
    | none => executor.failInstruction instruction
        (text "Action await import is unavailable")
    | some descriptor =>
      match executor.buildInput instruction descriptor.inputType with
      | none => executor.failInstruction instruction
          (text "Action input could not be constructed")
      | some input =>
        let executor := { executor with
          actionRequests := executor.actionRequests + 1 }
        if executor.actionRequests > executor.limits.maximumActionRequests then
          executor.actionBudgetFailure instruction
            "Program action request budget was exhausted"
        else
          executor.advance.suspend
            { operation := .invokeAction
              action := some dependency
              input := input
              scope := executor.innermost.id
              parentScope := executor.innermost.parent
              diagnosticSelector := instruction.selector }
            .bindValue (instruction.result.map (·.id))

/-- `EmitRecord`. -/
def executeEmitRecord : PumpResult × Executor :=
  match executor.operand instruction 0 with
  | none => executor.failInstruction instruction
      (text "Emission is unavailable or over budget")
  | some value =>
    let executor := { executor with emissions := executor.emissions + 1 }
    if executor.emissions > executor.limits.maximumEmissions then
      executor.failInstruction instruction
        (text "Emission is unavailable or over budget")
    else
      match value.rootValue.bind (·.type.named) with
      | none => executor.failInstruction instruction
          (text "Emission requires a named record value")
      | some schema =>
        let emission : ProgramEmission :=
          { sequence := ⟨executor.nextEmission⟩
            schema := schema
            value := value
            complete := true }
        ({ runnable := true, emission := some emission },
          { executor.advance with
            nextEmission := executor.nextEmission + 1
            result := { executor.result with
              emissions := executor.result.emissions ++ [emission] } })

/-- `PublishArtifact`. -/
def executePublishArtifact : PumpResult × Executor :=
  match executor.operand instruction 0 with
  | none => executor.failInstruction instruction
      (text "Artifact is unavailable or over budget")
  | some value =>
    let executor := { executor with artifacts := executor.artifacts + 1 }
    if executor.artifacts > executor.limits.maximumArtifacts then
      executor.failInstruction instruction
        (text "Artifact is unavailable or over budget")
    else
      match rootPayload value with
      | some (.artifact artifact) =>
        if !artifact.complete then
          executor.failInstruction instruction
            (text "Only complete artifacts may be published")
        else
          ({ runnable := true },
            { executor.advance with
              nextArtifact := executor.nextArtifact + 1
              result := { executor.result with
                artifacts := executor.result.artifacts ++ [⟨⟨executor.nextArtifact⟩, artifact⟩] } })
      | _ => executor.failInstruction instruction
          (text "Only complete artifacts may be published")

/-- `EnterScope`. -/
def executeEnterScope : PumpResult × Executor :=
  if !instruction.scope.isSet || executor.scopes.isEmpty then
    executor.failInstruction instruction (text "Scope entry is malformed")
  else
    executor.advance.suspend
      { operation := .openScope
        input := unitGraph
        scope := instruction.scope
        parentScope := executor.innermost.id }
      .pushScope

/-- `ExitScope`. -/
def executeExitScope : PumpResult × Executor :=
  if executor.scopes.length ≤ 1 || executor.innermost.id ≠ instruction.scope then
    executor.failInstruction instruction
      (text "Scope exit is not properly nested")
  else
    ({ runnable := true },
      { executor.advance with
        explicitScopeClose := true
        activity := .unwinding })

/-- Register a deferred action on the innermost scope. -/
def pushDeferred (deferred : DeferredAction) : Executor :=
  { executor with
    scopes := match executor.scopes with
      | [] => []
      | scope :: scopes => { scope with deferred := deferred :: scope.deferred } :: scopes }

/-- `DeferCompensation`: the request budget is reserved here, so that cleanup
cannot be skipped later. -/
def executeDeferCompensation : PumpResult × Executor :=
  match instruction.target.dependency with
  | none => executor.failInstruction instruction
      (text "Deferred compensation is malformed")
  | some dependency =>
    if executor.scopes.isEmpty then
      executor.failInstruction instruction
        (text "Deferred compensation is malformed")
    else
      match executor.verified.action dependency with
      | none => executor.failInstruction instruction
          (text "Deferred action import is unavailable")
      | some descriptor =>
        match executor.buildInput instruction descriptor.inputType with
        | none => executor.failInstruction instruction
            (text "Deferred action input is unavailable")
        | some input =>
          let executor := { executor with
            actionRequests := executor.actionRequests + 1 }
          if executor.actionRequests > executor.limits.maximumActionRequests then
            executor.actionBudgetFailure instruction
              "Program deferred-action budget was exhausted"
          else
            ({ runnable := true }, (executor.pushDeferred ⟨dependency, input⟩).advance)

/-- `PromoteResource`. -/
def executePromoteResource : PumpResult × Executor :=
  match executor.operand instruction 0 with
  | none => executor.failInstruction instruction
      (text "Resource promotion has no handle")
  | some value =>
    match rootPayload value with
    | some (.resource handle) =>
      executor.advance.suspend
        { operation := .promoteResource
          input := unitGraph
          scope := instruction.scope
          parentScope := executor.innermost.id
          resource := handle.handleId }
        .promote
    | _ => executor.failInstruction instruction
        (text "Resource promotion operand is not a handle")

end Transitions

/-- The instruction once its trace event is recorded. -/
def executeOpcode (floats : FloatUnit) (reducers : Option PureReducerInvoker)
    (executor : Executor) (instruction : Instruction) : PumpResult × Executor :=
  match instruction.opcode with
  | .callLocal => executor.executeCallLocal instruction
  | .callImported => executor.executeCallImported instruction
  | .awaitAction => executor.executeAwaitAction instruction
  | .emitRecord => executor.executeEmitRecord instruction
  | .publishArtifact => executor.executePublishArtifact instruction
  | .enterScope => executor.executeEnterScope instruction
  | .exitScope => executor.executeExitScope instruction
  | .deferCompensation => executor.executeDeferCompensation instruction
  | .promoteResource => executor.executePromoteResource instruction
  | _ =>
    match executor.evaluate floats instruction reducers with
    | some (.ok value) => executor.bindResult instruction (bindFailure instruction) value
    | some (.error message) => executor.failInstruction instruction message
    | none => executor.failInstruction instruction
        (text "Unknown canonical instruction")

def executeInstruction (floats : FloatUnit) (reducers : Option PureReducerInvoker)
    (executor : Executor) (instruction : Instruction) : PumpResult × Executor :=
  executeOpcode floats reducers
    (executor.trace "instruction" instruction.sourceLocation
      [⟨text "opcode", decimal instruction.opcode.ctorIdx⟩])
    instruction

/-!
## Executing terminators

Block edges, returns and structured failures.
-/

/-- The parallel assignment of edge arguments to block arguments. -/
def assignArguments (environment : Environment)
    (arguments : List ValueDefinition) (values : List ProgramValueGraph) : Environment :=
  (arguments.zip values).foldl
    (fun environment (argument, value) => environment.insert argument.id value)
    environment

/-- The frame at the start of a block whose arguments take these values. -/
def enteredFrame (target : BasicBlock) (values : List ProgramValueGraph) (frame : Frame) : Frame :=
  { frame with
    block := some target
    instructionIndex := 0
    values := assignArguments frame.values target.arguments values }

/-- `EnterBlock` on the executing frame. -/
def enterBlock (executor : Executor) (edge : BlockEdge) : Option Executor := do
  let frame ← executor.frame?
  let target ← frame.function.findBlock edge.target
  if target.arguments.length ≠ edge.arguments.length then none
  let values ← edge.arguments.mapM frame.lookup
  return (executor.modifyFrame (enteredFrame target values)).trace "branch"
    target.terminator.sourceLocation
    [⟨text "block", decimal target.id.value.toNat⟩]

/-- Take an edge, or fail with this code and message. -/
def takeEdge (executor : Executor) (terminator : Terminator)
    (code message : String) (edge : Option BlockEdge) : PumpResult × Executor :=
  match edge.bind executor.enterBlock with
  | some executor => ({ runnable := true }, executor)
  | none => ({ runnable := true },
      executor.beginFailure .contractFailed (text code) (text message) terminator.sourceLocation)

/-- The edge an enum switch selects for a value of its selector. -/
def switchEdge (terminator : Terminator) (payload : Option ProgramValuePayload) :
    Option BlockEdge :=
  let selected : Option BlockEdge := match payload with
    | some (.enum value) => (terminator.enumCases.find? (·.enumValue = value.value)).map (·.edge)
    | _ => none
  selected.or terminator.defaultEdge

/-- `Return`: out of a callee into its caller's frame, or out of the entry
function into the unwinding. -/
def executeReturn (executor : Executor) (terminator : Terminator) : PumpResult × Executor :=
  let returned : Option ProgramValueGraph := match terminator.returnValue with
    | none => some default
    | some id => executor.value id
  match returned with
  | none =>
    ({}, executor.beginFailure .contractFailed (text "missing_return")
      (text "Return value is unavailable") terminator.sourceLocation)
  | some returned =>
    match executor.frames with
    | callee :: caller :: frames =>
      let executor := { executor with frames := caller :: frames }
      match callee.returnDestination with
      | none => ({ runnable := true }, executor)
      | some destination =>
        match executor.definitionType destination with
        | none => ({}, executor)
        | some expected =>
          match executor.bind destination expected returned with
          | (true, executor) => ({ runnable := true }, executor)
          | (false, executor) => ({}, executor)
    | _ => ({ runnable := true }, executor.beginReturn terminator)

def executeTerminator (executor : Executor) (terminator : Terminator) : PumpResult × Executor :=
  match terminator.kind with
  | .branch =>
    executor.takeEdge terminator "invalid_branch"
      "Branch target became invalid after verification"
      (match terminator.edges with
        | [edge] => some edge
        | _ => none)
  | .conditionalBranch =>
    match terminator.conditionOrSelector, terminator.edges with
    | some condition, [whenTrue, whenFalse] =>
      executor.takeEdge terminator "invalid_branch"
        "Conditional branch could not select its edge"
        (((executor.value condition).bind boolean).map fun value =>
          if value then whenTrue else whenFalse)
    | _, _ =>
      ({}, executor.beginFailure .contractFailed (text "invalid_branch")
        (text "Conditional branch is malformed") terminator.sourceLocation)
  | .enumSwitch =>
    match terminator.conditionOrSelector with
    | none =>
      ({}, executor.beginFailure .contractFailed (text "invalid_switch")
        (text "Enum switch has no selector") terminator.sourceLocation)
    | some selector =>
      executor.takeEdge terminator "invalid_switch"
        "Enum switch has no matching edge"
        (switchEdge terminator ((executor.value selector).bind rootPayload))
  | .return => executor.executeReturn terminator
  | .structuredFail =>
    let failure := terminator.failure.getD
      ⟨text "structured_failure", text "Program reported a structured failure", none⟩
    ({ runnable := true }, executor.beginFailure .contractFailed failure.code failure.message
        terminator.sourceLocation)

end Executor
end Savor.Program

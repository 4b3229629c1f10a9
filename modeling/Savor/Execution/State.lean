import Mathlib.Data.List.AList
import Savor.Value.Number

/-!
# Action and reducer contracts, capability packs

The descriptors that modules import by exact identity, and the verified module
that links a program to them.
-/

namespace Savor.Program

/-- `ActionEffect`, by its bit. -/
inductive ActionEffect
  | readGuest
  | mutateGuest
  | advanceEmulation
  | publishInput
  | moviePlayback
  | movieRecording
  | capture
  | artifactIo
  | telemetry
  | readDerivedState
  | readMovieState

/-- `EffectMask`. -/
def ActionEffect.mask : ActionEffect → UInt32
  | .readGuest => 0x001
  | .mutateGuest => 0x002
  | .advanceEmulation => 0x004
  | .publishInput => 0x008
  | .moviePlayback => 0x020
  | .movieRecording => 0x040
  | .capture => 0x080
  | .artifactIo => 0x100
  | .telemetry => 0x200
  | .readDerivedState => 0x400
  | .readMovieState => 0x800

inductive ActionResourceBehavior
  | none
  | scoped
  | promotable
  deriving DecidableEq

inductive ActionCleanupGuarantee
  | none
  | automatic
  | verifiedCompensation
  deriving DecidableEq

inductive ActionIdempotency
  | notRetryable
  | naturallyIdempotent
  | receiptProven
  deriving DecidableEq

/-- The fields of an action descriptor that verification and execution read. -/
structure ActionDescriptor where
  identity : ExactDependencyIdentity
  providingPack : CapabilityPackIdentity
  (inputType outputType : TypeRef)
  effects : UInt32
  resourceBehavior : ActionResourceBehavior
  cleanup : ActionCleanupGuarantee
  idempotency : ActionIdempotency
  deriving DecidableEq

structure ReducerDescriptor where
  identity : ExactDependencyIdentity
  providingPack : CapabilityPackIdentity
  inputTypes : List TypeRef
  outputType : TypeRef
  deriving DecidableEq

structure RuntimeCompatibility where
  (gameId executableIdentity addressMapRevision : ByteString)
  deriving DecidableEq

/-- The part of a capability pack manifest that closure resolution reads. -/
structure CapabilityPackManifest where
  identity : CapabilityPackIdentity
  compatibility : RuntimeCompatibility
  dependencies : List CapabilityPackIdentity
  deriving DecidableEq

structure VerifiedActionBinding where
  imported : ExactDependencyIdentity
  descriptor : ActionDescriptor
  deriving DecidableEq

structure VerifiedReducerBinding where
  imported : ExactDependencyIdentity
  descriptor : ReducerDescriptor
  deriving DecidableEq

structure VerifiedProgramModule where
  module : ProgramModule
  dependencyLock : ProgramDependencyLock
  moduleClosure : List ProgramModule
  typeClosure : List TypeSchemaDefinition
  actions : List VerifiedActionBinding
  reducers : List VerifiedReducerBinding
  capabilityPacks : List CapabilityPackManifest
  deriving DecidableEq

namespace VerifiedProgramModule

/-- `Impl::Action`: the descriptor bound to an exact import. -/
def action (verified : VerifiedProgramModule)
    (identity : ExactDependencyIdentity) : Option ActionDescriptor :=
  (verified.actions.find? (·.imported = identity)).map (·.descriptor)

/-- `Impl::Entrypoint`. -/
def entrypoint (verified : VerifiedProgramModule) (name : ByteString) : Option ProgramEntrypoint :=
  verified.module.entrypoints.find? (·.name = name)

/-- The closure module an imported call names. -/
def importedModule (verified : VerifiedProgramModule)
    (dependency : ExactDependencyIdentity) : Option ProgramModule :=
  verified.moduleClosure.find? fun candidate =>
    candidate.identity.canonicalId = dependency.canonicalId &&
      candidate.identity.revision = dependency.version &&
      candidate.identity.moduleHash = dependency.signatureHash

end VerifiedProgramModule

/-!
## The executor's state

Frames, scopes, the pending host request and the counters of one invocation,
with the small updates that every operation of the executor is built from.
Stacks are lists whose head is the innermost entry.
-/

/-- `kInvocationScope`. -/
def invocationScope : ProgramScopeId := ⟨0xffffffffffffffff⟩

inductive ProgramExecutorActivity
  | idle
  | runnable
  | awaitingHost
  | unwinding
  | terminal
  deriving DecidableEq

inductive ProgramHostOperation
  | prepareInvocationState
  | invokeAction
  | openScope
  | closeScope
  | promoteResource
  | finishInvocation
  deriving DecidableEq

inductive ProgramActionResolutionStatus
  | completed
  | rejected
  | cancelled
  | timedOut
  | staleEpoch
  | unsupported
  | failed
  | cleanupFailed
  deriving DecidableEq

structure ExecutorHostRequest where
  operation : ProgramHostOperation
  action : Option ExactDependencyIdentity := none
  input : ProgramValueGraph
  (scope parentScope : ProgramScopeId)
  resource : ProgramResourceHandleId := StrongId.none
  cleanupOnly : Bool := false
  diagnosticSelector : ByteString := []
  deriving DecidableEq

/-- The host's answer to a pending request.  The resources it lists stay with
the host, so the executor does not read them. -/
structure ProgramActionResolution where
  requestId : ProgramActionRequestId
  invocationId : InvocationId
  attemptId : AttemptId
  operation : ProgramHostOperation
  status : ProgramActionResolutionStatus
  worksetEpoch : WorksetEpoch
  output : ProgramValueGraph
  cleanupReceipts : List CleanupReceipt
  cleanup : ProgramCleanupStatus
  sessionDisposition : SessionDisposition
  (code message : ByteString)

/-- `ProgramExecutorPumpResult`. -/
structure PumpResult where
  runnable : Bool := false
  hostRequest : Option ExecutorHostRequest := none
  terminal : Option ProgramResult := none
  emission : Option ProgramEmission := none

/-- A pure reducer: a value, or none with a diagnostic. -/
abbrev PureReducerInvoker :=
  ExactDependencyIdentity → List ProgramValueGraph → Option ProgramValueGraph × ByteString

structure DeferredAction where
  action : ExactDependencyIdentity
  input : ProgramValueGraph
  deriving DecidableEq

/-- A scope; the newest deferred action is the head. -/
structure Scope where
  (id parent : ProgramScopeId)
  deferred : List DeferredAction := []
  deriving DecidableEq

/-- The values bound in a frame. -/
abbrev Environment := AList fun _ : ProgramValueId => ProgramValueGraph

structure Frame where
  module : ProgramModule
  function : ProgramFunction
  block : Option BasicBlock
  instructionIndex : Nat := 0
  values : Environment := ∅
  returnDestination : Option ProgramValueId := none

/-- What a successful completion of the pending request does. -/
inductive PendingSuccess
  | bindValue
  | pushScope
  | closeScope
  | promote
  | deferredCleanup
  | finishInvocation
  deriving DecidableEq

structure PendingHost where
  request : ExecutorHostRequest
  success : PendingSuccess
  result : Option ProgramValueId
  requestId : Option ProgramActionRequestId
  deriving DecidableEq

/-- An executor whose Start was accepted. -/
structure Executor where
  verified : VerifiedProgramModule
  invocation : ProgramInvocation
  limits : ProgramBudgets
  result : ProgramResult
  activity : ProgramExecutorActivity
  frames : List Frame
  scopes : List Scope
  pending : Option PendingHost := none
  (unwinding explicitScopeClose : Bool := false)
  explicitCancellation : CancellationReason := .none
  (instructionsExecuted callsExecuted actionRequests emissions : UInt64 := 0)
  artifacts : UInt64 := 0
  (valueCount valueBytes : Nat := 0)
  (nextTrace nextEmission nextArtifact : UInt64 := 1)

/-- Every handle of a graph is bound to this epoch. -/
def ProgramValueGraph.freshFor (epoch : WorksetEpoch) (graph : ProgramValueGraph) : Bool :=
  graph.values.all fun value => value.payload.boundEpoch.all (· = epoch)

namespace Frame

/-- The value a frame binds to an id. -/
def lookup (frame : Frame) (id : ProgramValueId) : Option ProgramValueGraph :=
  frame.values.lookup id

/-- The value of an id, unless it holds a handle of another epoch. -/
def value (epoch : WorksetEpoch) (frame : Frame) (id : ProgramValueId) : Option ProgramValueGraph :=
  match frame.lookup id with
  | none => none
  | some graph => if graph.freshFor epoch then some graph else none

/-- Bind an id to a value. -/
def store (frame : Frame) (id : ProgramValueId) (value : ProgramValueGraph) : Frame :=
  { frame with values := frame.values.insert id value }

/-- Step to the next instruction of the block. -/
def advance (frame : Frame) : Frame := { frame with instructionIndex := frame.instructionIndex + 1 }

/-- The static type of an id: function arguments first, then each block's
arguments and instruction results in order. -/
def definitionType (frame : Frame) (id : ProgramValueId) : Option TypeRef :=
  let definitions := frame.function.arguments ++
    frame.function.blocks.flatMap fun block =>
      block.arguments ++ block.instructions.filterMap (·.result)
  (definitions.find? (·.id = id)).map (·.type)

end Frame

variable (executor : Executor)

namespace Executor

/-- The frame that is executing. -/
def frame? : Option Frame := executor.frames.head?

/-- `Impl::Value`: the value of an id in the current frame, unless it holds a
stale handle. -/
def value (executor : Executor) (id : ProgramValueId) : Option ProgramValueGraph :=
  executor.frame?.bind (·.value executor.invocation.state.expectedEpoch id)

/-- `Impl::DefinitionType`. -/
def definitionType (executor : Executor) (id : ProgramValueId) : Option TypeRef :=
  executor.frame?.bind (·.definitionType id)

/-- `Impl::Schema`: the current module's own types first. -/
def schema (type : TypeRef) : Option TypeSchemaDefinition :=
  type.named.bind fun identity =>
    let localTypes := (executor.frame?.map (·.module.localTypes)).getD []
    (findSchema localTypes identity).or (findSchema executor.verified.typeClosure identity)

/-- `Impl::RecordFieldIndex`. -/
def recordFieldIndex (instruction : Instruction) : Option Nat := do
  let operand ← instruction.operands.head?
  let type ← executor.definitionType operand
  let record ← executor.schema type
  if record.kind ≠ .record then none
  else record.recordFields.findIdx? (·.name = instruction.selector)

/-- `Impl::Trace`. -/
def trace (executor : Executor) (kind : String) (source : ProgramSourceLocationId := StrongId.none)
    (attributes : List ProvenanceEntry := []) : Executor :=
  if !executor.invocation.execution.recordTrace ||
      executor.result.trace.length ≥ executor.limits.maximumTraceEvents.toNat then executor
  else
    { executor with
      nextTrace := executor.nextTrace + 1
      result := { executor.result with
        trace := executor.result.trace ++
          [{ sequence := ⟨executor.nextTrace⟩
             kind := text kind
             sourceLocation := if source.isSet then some source else none
             epoch := executor.invocation.state.expectedEpoch
             attributes := attributes }] } }

/-- `Impl::Diagnostic` at error severity, the only one the executor reports. -/
def diagnostic (code message : ByteString)
    (source : ProgramSourceLocationId := StrongId.none) : Executor :=
  { executor with
    result := { executor.result with
      diagnostics := executor.result.diagnostics ++
        [{ severity := .error
           code := code
           message := message
           sourceLocation := if source.isSet then some source else none
           causalChain := [] }] } }

/-- `Impl::BeginFailure`: the first failure starts the unwinding, later ones do
nothing. -/
def beginFailure (status : ProgramInfrastructureStatus) (code message : ByteString)
    (source : ProgramSourceLocationId := StrongId.none) : Executor :=
  if executor.unwinding || executor.activity = .terminal then executor
  else
    let reported := { executor with
      result := { executor.result with infrastructure := status } }
    { reported.diagnostic code message source with
      unwinding := true
      explicitScopeClose := false
      activity := .unwinding }

/-- `Impl::BeginReturn`. -/
def beginReturn (terminator : Terminator) : Executor :=
  let output := (terminator.returnValue.bind executor.value).or executor.result.output
  let domainOutcome := (terminator.domainOutcome.bind executor.value).or
    executor.result.domainOutcome
  { executor with
    result := { executor.result with
      output := output
      domainOutcome := domainOutcome
      infrastructure := .completed }
    unwinding := true
    explicitScopeClose := false
    activity := .unwinding }

/-- `Impl::Suspend`. -/
def suspend (request : ExecutorHostRequest) (success : PendingSuccess)
    (result : Option ProgramValueId := none) :
    PumpResult × Executor :=
  ({ hostRequest := some request },
    { executor with
      pending := some { request, success, result, requestId := none }
      activity := .awaitingHost })

/-- Replace the executing frame. -/
def modifyFrame (modify : Frame → Frame) : Executor :=
  { executor with
    frames := match executor.frames with
      | [] => []
      | frame :: frames => modify frame :: frames }

/-- Step the executing frame to its next instruction. -/
def advance (executor : Executor) : Executor := executor.modifyFrame Frame.advance

/-- The value budget that the retained values leave. -/
def remainingLimits (count bytes : Nat) : ProgramValueArenaLimits :=
  { maximumValues := UInt64.ofNat (executor.limits.maximumValues.toNat - count)
    maximumValueBytes := UInt64.ofNat (executor.limits.maximumValueBytes.toNat - bytes) }

end Executor

end Savor.Program

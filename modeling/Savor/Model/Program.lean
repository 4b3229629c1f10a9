import Savor.Model.Identifiers

/-!
# Program types, schemas and values

A type is a builtin scalar or a named schema.  A value graph is a flat arena
projection: composite payloads name their children by id.
-/

namespace Savor.Program

inductive BuiltinType
  | unit | bool | u8 | u16 | u32 | u64 | i32 | i64 | f32 | f64
  deriving DecidableEq

/-- A named type keeps the default builtin, which the comparison of two types
still looks at. -/
structure TypeRef where
  builtin : BuiltinType := .unit
  named : Option SchemaIdentity := none
  deriving DecidableEq

namespace TypeRef

/-- `TypeRef::Builtin`. -/
def ofBuiltin (type : BuiltinType) : TypeRef := { builtin := type }

/-- `TypeRef::Named`. -/
def ofNamed (identity : SchemaIdentity) : TypeRef := { builtin := .unit, named := some identity }

/-- `TypeRef::is_named`. -/
def isNamed (type : TypeRef) : Bool := type.named.isSome

end TypeRef

/-- What a schema defines. -/
inductive TypeSchemaKind
  | boundedUtf8String
  | boundedBytes
  | closedEnum
  | optional
  | record
  | boundedList
  | artifactReference
  | resourceHandle
  | epochBoundOpaqueHandle
  deriving DecidableEq

structure EnumMemberDefinition where
  name : ByteString
  value : Int64
  deriving DecidableEq

/-- A field of a record. -/
structure RecordFieldDefinition where
  name : ByteString
  type : TypeRef
  deriving DecidableEq

/-- The definition of a named type. -/
structure TypeSchemaDefinition where
  identity : SchemaIdentity
  kind : TypeSchemaKind
  maximumSize : UInt64
  elementType : Option TypeRef
  enumMembers : List EnumMemberDefinition
  recordFields : List RecordFieldDefinition
  permitsIncomplete : Bool
  deriving DecidableEq

structure EnumValue where
  schema : SchemaIdentity
  value : Int64
  deriving DecidableEq

/-- A reference to a stored artifact. -/
structure ArtifactReferenceValue where
  artifactId : ByteString
  schema : SchemaIdentity
  contentHash : ContentHash256
  storageReference : ByteString
  complete : Bool
  deriving DecidableEq

/-- A resource within an epoch. -/
structure ResourceHandleValue where
  handleId : ProgramResourceHandleId
  resourceType : SchemaIdentity
  worksetEpoch : WorksetEpoch
  deriving DecidableEq

/-- A handle within an epoch. -/
structure OpaqueHandleValue where
  handleId : ProgramResourceHandleId
  handleType : SchemaIdentity
  worksetEpoch : WorksetEpoch
  deriving DecidableEq

/-- A `float`, by its bit pattern. -/
structure Float32Bits where
  bits : UInt32
  deriving DecidableEq

/-- A `double`, by its bit pattern. -/
structure Float64Bits where
  bits : UInt64
  deriving DecidableEq

/-- `std::isfinite` on a `float`: the exponent is not all ones. -/
def Float32Bits.isFinite (value : Float32Bits) : Bool := value.bits &&& 0x7f800000 != 0x7f800000

/-- `std::isfinite` on a `double`: the exponent is not all ones. -/
def Float64Bits.isFinite (value : Float64Bits) : Bool :=
  value.bits &&& 0x7ff0000000000000 != 0x7ff0000000000000

/-- `==` on `float`s: a NaN differs from itself, and the two zeros are equal. -/
def Float32Bits.equal (left right : Float32Bits) : Bool :=
  let magnitude (value : Float32Bits) := value.bits &&& 0x7fffffff
  magnitude left ≤ 0x7f800000 && magnitude right ≤ 0x7f800000 &&
    (left = right || (magnitude left = 0 && magnitude right = 0))

/-- `==` on `double`s. -/
def Float64Bits.equal (left right : Float64Bits) : Bool :=
  let magnitude (value : Float64Bits) := value.bits &&& 0x7fffffffffffffff
  magnitude left ≤ 0x7ff0000000000000 && magnitude right ≤ 0x7ff0000000000000 &&
    (left = right || (magnitude left = 0 && magnitude right = 0))

/-- The content of a literal. -/
inductive LiteralPayload
  | unit
  | bool (value : Bool)
  | u8 (value : UInt8)
  | u16 (value : UInt16)
  | u32 (value : UInt32)
  | u64 (value : UInt64)
  | i32 (value : Int32)
  | i64 (value : Int64)
  | f32 (value : Float32Bits)
  | f64 (value : Float64Bits)
  | string (value : ByteString)
  | bytes (value : ByteString)
  | enum (value : EnumValue)
  deriving DecidableEq

structure LiteralValue where
  type : TypeRef
  payload : LiteralPayload
  deriving DecidableEq

/-- The content of a value. -/
inductive ProgramValuePayload
  | unit
  | bool (value : Bool)
  | u8 (value : UInt8)
  | u16 (value : UInt16)
  | u32 (value : UInt32)
  | u64 (value : UInt64)
  | i32 (value : Int32)
  | i64 (value : Int64)
  | f32 (value : Float32Bits)
  | f64 (value : Float64Bits)
  | string (value : ByteString)
  | bytes (value : ByteString)
  | enum (value : EnumValue)
  | optional (value : Option ProgramValueId)
  | record (fields : List ProgramValueId)
  | list (elements : List ProgramValueId)
  | artifact (value : ArtifactReferenceValue)
  | resource (value : ResourceHandleValue)
  | opaqueHandle (value : OpaqueHandleValue)
  deriving DecidableEq

namespace ProgramValuePayload

/-- The child ids of a composite payload, in order. -/
def children : ProgramValuePayload → List ProgramValueId
  | .optional value => value.toList
  | .record fields => fields
  | .list elements => elements
  | _ => []

/-- The epoch a handle payload is bound to. -/
def boundEpoch : ProgramValuePayload → Option WorksetEpoch
  | .resource handle => some handle.worksetEpoch
  | .opaqueHandle handle => some handle.worksetEpoch
  | _ => none

end ProgramValuePayload

/-- A node of a value graph. -/
structure ProgramValue where
  id : ProgramValueId
  type : TypeRef
  payload : ProgramValuePayload
  deriving DecidableEq

/-- A closed immutable value arena projection. -/
structure ProgramValueGraph where
  root : ProgramValueId := StrongId.none
  values : List ProgramValue := []
  deriving DecidableEq

instance : Inhabited ProgramValueGraph := ⟨{}⟩

/-!
## The canonical intermediate representation

Instructions, terminators, basic blocks and functions of a program module, with
the entrypoints, budgets and policies that a module declares.
-/

/-- A typed name for a value. -/
structure ValueDefinition where
  id : ProgramValueId
  type : TypeRef
  deriving DecidableEq

inductive InstructionOpcode
  | constant
  | copy
  | select
  | checkedConvert
  | recordConstruct
  | recordProject
  | recordUpdate
  | optionalConstruct
  | optionalIsPresent
  | optionalExtract
  | listConstruct
  | listAppend
  | listIndex
  | listSize
  | addChecked
  | subtractChecked
  | multiplyChecked
  | divideChecked
  | remainderChecked
  | negateChecked
  | equal
  | notEqual
  | less
  | lessEqual
  | greater
  | greaterEqual
  | booleanAnd
  | booleanOr
  | booleanNot
  | callLocal
  | callImported
  | callReducer
  | awaitAction
  | emitRecord
  | publishArtifact
  | enterScope
  | exitScope
  | deferCompensation
  | promoteResource
  deriving DecidableEq

inductive InstructionTargetKind
  | none
  | localFunction
  | importedFunction
  | action
  | reducer
  | deferredAction
  deriving DecidableEq

/-- What an instruction refers to. -/
structure InstructionTarget where
  kind : InstructionTargetKind := .none
  localFunction : ProgramFunctionId := StrongId.none
  dependency : Option ExactDependencyIdentity := Option.none
  memberName : ByteString := []
  deriving DecidableEq

/-- An instruction with all its operands. -/
structure Instruction where
  id : ProgramInstructionId
  opcode : InstructionOpcode
  sourceLocation : ProgramSourceLocationId
  result : Option ValueDefinition := none
  operands : List ProgramValueId := []
  literal : Option LiteralValue := none
  target : InstructionTarget := {}
  selector : ByteString := []
  ordinal : UInt64 := 0
  scope : ProgramScopeId := StrongId.none
  deriving DecidableEq

/-- A jump, with arguments for its block. -/
structure BlockEdge where
  target : ProgramBlockId
  arguments : List ProgramValueId
  deriving DecidableEq

structure EnumSwitchCase where
  enumValue : Int64
  edge : BlockEdge
  deriving DecidableEq

inductive TerminatorKind
  | branch
  | conditionalBranch
  | enumSwitch
  | return
  | structuredFail
  deriving DecidableEq

/-- A failure that a program states. -/
structure StructuredFailure where
  (code message : ByteString)
  details : Option ProgramValueId
  deriving DecidableEq

/-- How a block ends. -/
structure Terminator where
  kind : TerminatorKind
  sourceLocation : ProgramSourceLocationId
  conditionOrSelector : Option ProgramValueId := none
  edges : List BlockEdge := []
  enumCases : List EnumSwitchCase := []
  defaultEdge : Option BlockEdge := none
  (returnValue domainOutcome : Option ProgramValueId := none)
  failure : Option StructuredFailure := none
  deriving DecidableEq

/-- `Edges`: every edge a terminator carries, whatever its kind. -/
def Terminator.allEdges (terminator : Terminator) : List BlockEdge :=
  terminator.edges ++ terminator.enumCases.map (·.edge) ++ terminator.defaultEdge.toList

/-- Instructions and how they end. -/
structure BasicBlock where
  id : ProgramBlockId
  arguments : List ValueDefinition
  instructions : List Instruction
  terminator : Terminator
  deriving DecidableEq

/-- A function with its blocks. -/
structure ProgramFunction where
  id : ProgramFunctionId
  name : ByteString
  arguments : List ValueDefinition
  outputType : TypeRef
  domainOutcomeType : Option TypeRef
  entryBlock : ProgramBlockId
  blocks : List BasicBlock
  exported : Bool
  deriving DecidableEq

/-- The first block of the function with this id. -/
def ProgramFunction.findBlock
    (function : ProgramFunction) (id : ProgramBlockId) : Option BasicBlock :=
  function.blocks.find? (·.id = id)

/-- The limits of an invocation. -/
structure ProgramBudgets where
  (maximumInstructions maximumCalls maximumCallDepth : UInt64)
  (maximumActionRequests maximumEmissions maximumArtifacts : UInt64)
  maximumValues : UInt64
  (maximumValueBytes maximumTraceEvents : UInt64)
  deriving DecidableEq

/-- The state that a run starts from. -/
inductive InvocationStatePolicy
  | restoreBaseline
  | establishBaseline
  deriving DecidableEq

inductive ExecutionIntent
  | live
  | replay
  deriving DecidableEq

/-- The policies that a module accepts. -/
structure ProgramPolicySet where
  statePolicies : List InvocationStatePolicy
  executionIntents : List ExecutionIntent
  (permitsMoviePlayback permitsMovieRecording permitsCapture : Bool)
  permitsReplay : Bool
  permitsResourcePromotion : Bool
  deriving DecidableEq

/-- A function that can be invoked. -/
structure ProgramEntrypoint where
  name : ByteString
  function : ProgramFunctionId
  (inputType outputType domainOutcomeType : TypeRef)
  (emissionSchemas artifactSchemas : List SchemaIdentity)
  requiredCapabilityPacks : List CapabilityPackIdentity
  acceptedPolicies : ProgramPolicySet
  narrowedBudgets : Option ProgramBudgets
  deriving DecidableEq

/-- Where a part of a module comes from. -/
structure SourceMapEntry where
  id : ProgramSourceLocationId
  function : Option ProgramFunctionId
  block : Option ProgramBlockId
  instruction : Option ProgramInstructionId
  (sourceName semanticPath : ByteString)
  (line column : UInt32)
  deriving DecidableEq

structure ProgramSourceMap where
  version : UInt32
  entries : List SourceMapEntry
  deriving DecidableEq

/-!
## Modules, invocations and results

The authored module, the invocation that runs one of its entrypoints, and the
result with its emissions, artifacts, diagnostics, trace and cleanup receipts.
-/

/-- `kCanonicalIrVersionV1`. -/
def canonicalIrVersionV1 : UInt32 := 1

/-- A module as authored. -/
structure ProgramModule where
  identity : ModuleIdentity
  irVersion : UInt32
  entrypoints : List ProgramEntrypoint
  functions : List ProgramFunction
  localTypes : List TypeSchemaDefinition
  moduleImports : List ModuleImportIdentity
  (actionImports reducerImports : List ExactDependencyIdentity)
  typeImports : List SchemaIdentity
  requiredCapabilityPacks : List CapabilityPackIdentity
  acceptedPolicies : ProgramPolicySet
  budgets : ProgramBudgets
  sourceMap : ProgramSourceMap
  deriving DecidableEq

/-- The first function of the module with this id. -/
def ProgramModule.findFunction (module : ProgramModule) (id : ProgramFunctionId) :
    Option ProgramFunction :=
  module.functions.find? (·.id = id)

/-- Exactly what a module depends on. -/
structure ProgramDependencyLock where
  irVersion : UInt32
  moduleImports : List ModuleImportIdentity
  (actionImports reducerImports : List ExactDependencyIdentity)
  typeImports : List SchemaIdentity
  capabilityPacks : List CapabilityPackIdentity
  deriving DecidableEq

/-- The game and what the runtime offers. -/
structure RuntimeProfile where
  (profileId gameId discIdentity executableIdentity backend : ByteString)
  capabilityPacks : List CapabilityPackIdentity
  deriving DecidableEq

/-- The state that is expected. -/
structure InvocationStateRequest where
  policy : InvocationStatePolicy
  sessionLineage : ByteString
  expectedSession : SessionId
  expectedEpoch : WorksetEpoch
  deriving DecidableEq

/-- What a run may do. -/
structure InvocationExecutionPolicy where
  intent : ExecutionIntent
  (allowMoviePlayback allowMovieRecording allowInput allowCapture : Bool)
  recordTrace : Bool
  handlerFlags : UInt32
  deriving DecidableEq

structure ProvenanceEntry where
  (key value : ByteString)
  deriving DecidableEq

/-- Who asks for a run, and from what. -/
structure ProgramProvenance where
  requestingComponent : ByteString
  sourceArtifacts : List ArtifactReferenceValue
  attributes : List ProvenanceEntry
  deriving DecidableEq

/-- A request to run an entrypoint. -/
structure ProgramInvocation where
  invocationId : InvocationId
  attemptId : AttemptId
  module : ModuleIdentity
  entrypoint : ByteString
  dependencies : ProgramDependencyLock
  runtimeProfile : RuntimeProfile
  state : InvocationStateRequest
  execution : InvocationExecutionPolicy
  input : ProgramValueGraph
  limits : ProgramBudgets
  provenance : ProgramProvenance
  deriving DecidableEq

/-- How a run has ended. -/
inductive ProgramInfrastructureStatus
  | completed
  | rejected
  | cancelled
  | timedOut
  | budgetExhausted
  | backendFailed
  | contractFailed
  deriving DecidableEq

/-- Cleanup outcomes in increasing severity. -/
inductive ProgramCleanupStatus
  | clean
  | cleanWithDiagnostics
  | tainted
  deriving DecidableEq

inductive DiagnosticSeverity
  | information
  | warning
  | error
  deriving DecidableEq

structure ProgramDiagnostic where
  severity : DiagnosticSeverity
  (code message : ByteString)
  sourceLocation : Option ProgramSourceLocationId
  causalChain : List ByteString
  deriving DecidableEq

/-- A value that a run emits. -/
structure ProgramEmission where
  sequence : ProgramEmissionSequence
  schema : SchemaIdentity
  value : ProgramValueGraph
  complete : Bool
  deriving DecidableEq

/-- An artifact that a run publishes. -/
structure ProgramArtifact where
  sequence : ProgramArtifactSequence
  artifact : ArtifactReferenceValue
  deriving DecidableEq

/-- A recorded step of a run. -/
structure ProgramTraceEvent where
  sequence : ProgramTraceSequence
  kind : ByteString
  sourceLocation : Option ProgramSourceLocationId
  epoch : WorksetEpoch
  attributes : List ProvenanceEntry
  deriving DecidableEq

/-- The outcome of one cleanup. -/
structure CleanupReceipt where
  resource : ProgramResourceHandleId
  status : ProgramCleanupStatus
  diagnostic : ByteString
  deriving DecidableEq

/-- All that a run leaves. -/
structure ProgramResult where
  invocationId : InvocationId
  attemptId : AttemptId
  module : ModuleIdentity
  entrypoint : ByteString
  resolvedDependencies : ProgramDependencyLock
  infrastructure : ProgramInfrastructureStatus := .contractFailed
  domainOutcome : Option ProgramValueGraph := none
  cleanup : ProgramCleanupStatus := .clean
  sessionDisposition : SessionDisposition := .clean
  output : Option ProgramValueGraph := none
  emissions : List ProgramEmission := []
  artifacts : List ProgramArtifact := []
  diagnostics : List ProgramDiagnostic := []
  trace : List ProgramTraceEvent := []
  cleanupReceipts : List CleanupReceipt := []
  provenance : ProgramProvenance
  deriving DecidableEq

end Savor.Program

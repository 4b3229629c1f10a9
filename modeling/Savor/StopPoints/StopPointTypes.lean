import Savor.Model.Identifiers

/-!
# Stop points

The types that the stop-point router shares with its callers: what a
subscription asks for, what a native hit supplies and what a receipt reports.
-/

namespace Savor.StopPoints

open Program

inductive StopSourceIdTag

inductive StopSubscriptionGroupIdTag

inductive StopSubscriptionIdTag

inductive RoutedStopSequenceTag

inductive StopSampleSnapshotIdTag

inductive StopDispatchGenerationTag

inductive PhysicalPlanGenerationTag

abbrev StopSourceId := StrongId StopSourceIdTag

abbrev StopSubscriptionGroupId := StrongId StopSubscriptionGroupIdTag

abbrev StopSubscriptionId := StrongId StopSubscriptionIdTag

abbrev RoutedStopSequence := StrongId RoutedStopSequenceTag

abbrev StopSampleSnapshotId := StrongId StopSampleSnapshotIdTag

abbrev StopDispatchGeneration := StrongId StopDispatchGenerationTag

abbrev PhysicalPlanGeneration := StrongId PhysicalPlanGenerationTag

def kStopPointNativeIngressCapacity : Nat := 256

def kStopPointRoutingHistoryCapacity : Nat := 256

def kMaxStopDeliveriesPerHit : Nat := 128

def kMaxLogicalStopSubscriptions : Nat := 4096

def kMaxCpuObserversPerHit : Nat := 32

def kMaxRoutedHitSamples : Nat := 32

inductive StopMemoryAccess
  | read
  | write
  | access
  deriving DecidableEq

/-- Accesses to a range of memory. -/
structure MemoryStopPointSpec where
  (address size : UInt32)
  access : StopMemoryAccess := .write

/-- The variant of the PC, memory and synthetic specifications. -/
inductive StopPointSpec
  | pc (address : UInt32)
  | memory (specification : MemoryStopPointSpec)
  | synthetic (identity : UInt64)

/-- Whether a subscription ends at a hit. -/
inductive StopSubscriptionLifetime
  | scoped
  | oneShot
  deriving DecidableEq

/-- Who watches, and whether losses count. -/
structure PassiveStopObservation where
  cpuObserverDescriptorId : UInt32 := 0
  lossless : Bool := false

/-- A sample that has to have a value. -/
structure SampleExpectation where
  descriptorId : UInt32
  expectedValue : UInt64

/-- An operation that waits for hits. -/
structure ForegroundStopWait where
  executionOperationId : UInt64 := 0
  requiredOccurrences : UInt32 := 1
  sampleExpectation : Option SampleExpectation := none

/-- A handler that is to run at a hit. -/
structure TrustedStopInterruptionRequest where
  handlerKey : ByteString
  executionOperationId : UInt64 := 0

/-- What a hit does for a subscription. -/
inductive StopSubscriptionRoute
  | passive (observation : PassiveStopObservation)
  | foreground (wait : ForegroundStopWait)
  | interruption (request : TrustedStopInterruptionRequest)

namespace StopSubscriptionRoute

def isPassive : StopSubscriptionRoute → Bool
  | .passive _ => true
  | _ => false

def isForeground : StopSubscriptionRoute → Bool
  | .foreground _ => true
  | _ => false

def isInterruption : StopSubscriptionRoute → Bool
  | .interruption _ => true
  | _ => false

/-- Control routes count as lossless. -/
def isLossless : StopSubscriptionRoute → Bool
  | .passive observation => observation.lossless
  | _ => true

def cpuObserverDescriptor : StopSubscriptionRoute → UInt32
  | .passive observation => observation.cpuObserverDescriptorId
  | _ => 0

/-- An interruption request whose handler key is empty. -/
def lacksHandlerKey : StopSubscriptionRoute → Bool
  | .interruption request => request.handlerKey.isEmpty
  | _ => false

/-- `RouteStage`: passive routes come first. -/
def stage (route : StopSubscriptionRoute) : Nat := if route.isPassive then 0 else 1

end StopSubscriptionRoute

structure StopSourceIdentity where
  id : StopSourceId
  stableName : ByteString
  diagnosticLabel : ByteString := []

inductive NativeStopPath
  | jit
  | memcheck
  | synthetic
  deriving DecidableEq

/-- Which hit, and under which plan. -/
structure RoutedStopIdentity where
  sequence : RoutedStopSequence := .none
  sampleSnapshot : StopSampleSnapshotId := .none
  worksetEpoch : WorksetEpoch := .none
  dispatchGeneration : StopDispatchGeneration := .none
  physicalGeneration : PhysicalPlanGeneration := .none
  deriving DecidableEq

/-- What the CPU thread saw of a hit. -/
structure RoutedStopEvidence where
  path : NativeStopPath := .synthetic
  point : StopPointSpec := .synthetic 0
  hitPc : UInt32 := 0
  value : UInt64 := 0
  postWrite : Bool := false

/-- A value that was read at a hit. -/
structure RoutedHitSample where
  descriptorId : UInt32
  value : UInt64 := 0
  available : Bool := false

/-- The samples are the used part of the fixed array of the source. -/
structure RoutedStopEvent where
  identity : RoutedStopIdentity := {}
  evidence : RoutedStopEvidence := {}
  samples : List RoutedHitSample := []
  matchedOccurrenceCount : UInt32 := 0
  sampleExpectationFailed : Bool := false
  expectedSampleDescriptorId : UInt32 := 0
  (expectedSampleValue actualSampleValue : UInt64 := 0)
  (actualSampleAvailable activeForegroundWait authoritative : Bool := false)
  requiresPhysicalReconcileBeforeResume : Bool := false

def RoutedStopEvent.hasSample (event : RoutedStopEvent) (descriptorId : UInt32) : Bool :=
  event.samples.any (·.descriptorId = descriptorId)

/-- A consumer pointer is a number; the null pointer is `none`. -/
structure StopSubscriptionDefinition where
  id : StopSubscriptionId
  point : StopPointSpec
  route : StopSubscriptionRoute := .passive {}
  lifetime : StopSubscriptionLifetime := .scoped
  priority : Int32 := 0
  qualificationId : UInt32 := 0
  sampleDescriptorIds : List UInt32 := []
  consumer : Option Nat := none

/-- What is registered at once. -/
structure StopSubscriptionGroupDefinition where
  id : StopSubscriptionGroupId
  source : StopSourceIdentity
  subscriptions : List StopSubscriptionDefinition

inductive StopPointErrorCode
  | invalidArgument
  | invalidState
  | invalidPolicy
  | wrongThread
  | groupNotFound
  | sourceMismatch
  | foregroundWaitAlreadyRegistered
  | controlOwnershipConflict
  | currentPointUnavailable
  | staleEpoch
  | staleDispatchGeneration
  | ingressOverflow
  | physicalReconcileFailed
  | physicalIntegrityUnknown
  | runtimeStopping
  deriving DecidableEq

structure StopPointError where
  code : StopPointErrorCode
  message : ByteString

/-- `Error`, for a literal message. -/
def stopError (code : StopPointErrorCode) (message : String) : StopPointError :=
  ⟨code, text message⟩

@[simp] theorem stopError_code (code : StopPointErrorCode) (message : String) :
    (stopError code message).code = code :=
  rfl

/-- The right to release a group. -/
structure StopSubscriptionGroupLease where
  groupId : StopSubscriptionGroupId
  sourceId : StopSourceId
  registrationSequence : UInt64
  acquisitionEpoch : WorksetEpoch
  active : Bool := false

/-- The lease of a default constructed receipt. -/
def StopSubscriptionGroupLease.none : StopSubscriptionGroupLease := ⟨.none, .none, 0, .none, false⟩

/-- The answer to a registration. -/
structure StopGroupReceipt where
  ok : Bool := false
  lease : StopSubscriptionGroupLease := .none
  dispatchGeneration : StopDispatchGeneration := .none
  physicalGeneration : PhysicalPlanGeneration := .none
  error : Option StopPointError := none

/-- The answer to a release. -/
structure StopReleaseReceipt where
  (ok alreadyReleased : Bool := false)
  groupId : StopSubscriptionGroupId
  dispatchGeneration : StopDispatchGeneration := .none
  physicalGeneration : PhysicalPlanGeneration := .none
  error : Option StopPointError := none

structure StopInterruptionHandlerRequest where
  sourceId : StopSourceId
  groupId : StopSubscriptionGroupId
  subscriptionId : StopSubscriptionId
  interruptionHandlerKey : ByteString

/-- How the routing of a packet ends. -/
inductive StopRouteTerminal
  | none
  | foregroundMatched
  | interruptionRequested
  | routingFailure
  | unclaimed
  | stale
  | overflow
  deriving DecidableEq

/-- An event for one subscription. -/
structure StopDelivery where
  event : RoutedStopEvent
  sourceId : StopSourceId
  groupId : StopSubscriptionGroupId
  subscriptionId : StopSubscriptionId

/-- The outcome of routing a packet. -/
structure StopRouteReceipt where
  terminal : StopRouteTerminal := .none
  identity : RoutedStopIdentity := {}
  event : Option RoutedStopEvent := none
  interruptionHandlerRequest : Option StopInterruptionHandlerRequest := none
  deliveries : List StopDelivery := []
  error : Option StopPointError := none
  coreMustRemainStopped : Bool := false
  executionOperationId : UInt64 := 0

/-- `FailureRoute`: the core stays stopped. -/
def failureRoute (terminal : StopRouteTerminal) (error : StopPointError) : StopRouteReceipt :=
  { terminal, error := some error, coreMustRemainStopped := true }

/-- The part of the CPU context that matching reads; evaluators see the rest. -/
structure StopPointCpuContext where
  path : NativeStopPath := .synthetic
  (pc address size : UInt32 := 0)
  write : Bool := false
  syntheticIdentity : UInt64 := 0

/-- What an observer says of a hit. -/
inductive StopCpuObservationResult
  | observed
  | observedRequiresReconcile
  | ignored
  | failed

inductive NativeStopOrigin
  | jit
  | memcheck

def NativeStopOrigin.toNativePath : NativeStopOrigin → NativeStopPath
  | .jit => .jit
  | .memcheck => .memcheck

/-- What the CPU thread does after a hit. -/
structure NativeStopDecision where
  (requestBreak authoritativeOverflow : Bool := false)
  routedSequence : UInt64 := 0

/-- Whether a retained point is wanted. -/
inductive StopCurrentPointPolicy
  | ignore
  | acceptIfAvailable
  | require
  deriving DecidableEq

def StopMemoryAccess.accessMatches (wanted : StopMemoryAccess) (write : Bool) : Bool :=
  wanted = .access || (write && wanted = .write) || (!write && wanted = .read)

/-- `RangeEnd`: the last address of a range that is not empty and does not wrap
around. -/
def rangeEnd (address size : UInt32) : Option UInt32 :=
  if size = 0 then none
  else if address.toNat + size.toNat - 1 > UInt32.size - 1 then none
  else some (UInt32.ofNat (address.toNat + size.toNat - 1))

/-- The ranges have a common address. -/
def rangesOverlap (lhsAddress lhsSize rhsAddress rhsSize : UInt32) : Bool :=
  match rangeEnd lhsAddress lhsSize, rangeEnd rhsAddress rhsSize with
  | some lhsEnd, some rhsEnd => lhsAddress ≤ rhsEnd && rhsAddress ≤ lhsEnd
  | _, _ => false

/-- The CPU is at the point. -/
def StopPointSpec.pointMatches (specification : StopPointSpec) (context : StopPointCpuContext) :
    Bool :=
  match specification with
  | .pc address => context.path = .jit && address = context.pc
  | .memory point =>
    context.path = .memcheck && point.access.accessMatches context.write &&
      rangesOverlap point.address point.size context.address context.size
  | .synthetic identity => context.path = .synthetic && identity = context.syntheticIdentity

/-- A routed hit is at the point. -/
def StopPointSpec.pointMatchesEvidence (specification : StopPointSpec)
    (evidence : RoutedStopEvidence) : Bool :=
  match specification, evidence.point with
  | .memory expected, .memory actual =>
    expected.access.accessMatches
        (actual.access = .write || actual.access = .access) &&
      rangesOverlap expected.address expected.size actual.address actual.size
  | .pc expected, .pc actual => expected = actual
  | .synthetic expected, .synthetic actual => expected = actual
  | _, _ => false

def StopPointSpec.controlPointsOverlap : StopPointSpec → StopPointSpec → Bool
  | .pc lhs, .pc rhs => lhs = rhs
  | .memory lhs, .memory rhs =>
    rangesOverlap lhs.address lhs.size rhs.address rhs.size &&
      (lhs.access = .access || rhs.access = .access || lhs.access = rhs.access)
  | .synthetic lhs, .synthetic rhs => lhs = rhs
  | _, _ => false

end Savor.StopPoints

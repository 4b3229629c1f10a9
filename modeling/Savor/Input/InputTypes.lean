import Savor.Model.Identifiers

/-!
# Input frames, leases and receipts

The data that the input arbiter and its callers exchange, and the backend that
publishes frames on the ports of the controller.
-/

namespace Savor.Input

open Program

/-- A frame of controller input.  The default frame is the neutral one. -/
structure GCInputFrame where
  buttons : UInt16 := 0
  (mainX mainY cX cY : UInt8 := 128)
  (trigL trigR : UInt8 := 0)
  deriving DecidableEq

def neutralFrame : GCInputFrame := {}

def GCInputFrame.isNeutral (frame : GCInputFrame) : Bool := frame = neutralFrame

/-- The port of a controller. -/
abbrev InputPort := UInt8

/-- An id that its issuer counts up from one.  Zero is no id. -/
structure CountedId (Tag : Type) where
  value : Nat

namespace CountedId

variable {Tag : Type}

@[ext] theorem ext {left right : CountedId Tag}
    (values : left.value = right.value) : left = right := by
  cases left
  cases right
  exact congrArg CountedId.mk values

instance : DecidableEq (CountedId Tag) := fun left right =>
  decidable_of_iff (left.value = right.value) ⟨CountedId.ext, congrArg CountedId.value⟩

/-- The default constructed id, which names nothing. -/
def none : CountedId Tag := ⟨0⟩

def isSet (id : CountedId Tag) : Bool := id.value ≠ 0

end CountedId

inductive InputOwnerIdTag

inductive InputLeaseIdTag

inductive InputExecutionBindingIdTag

inductive InputPublicationTokenTag

inductive InputPollReceiptIdTag

inductive InputDeliveryIdTag

inductive InputExecutionRelationshipIdTag

abbrev InputOwnerId := StrongId InputOwnerIdTag

abbrev InputLeaseId := CountedId InputLeaseIdTag

abbrev InputExecutionBindingId := CountedId InputExecutionBindingIdTag

abbrev InputPublicationToken := CountedId InputPublicationTokenTag

abbrev InputPollReceiptId := CountedId InputPollReceiptIdTag

abbrev InputDeliveryId := CountedId InputDeliveryIdTag

abbrev InputExecutionRelationshipId := CountedId InputExecutionRelationshipIdTag

/-- What a borrower finds on the port. -/
inductive InputBorrowPolicy
  | preserveHeldUntilBorrowerApplies
  | requireStableNeutral
  deriving DecidableEq

inductive InputLeaseStatus
  | rejected
  | active
  | suspended
  | released
  | invalidated
  deriving DecidableEq

/-- What a lease has on its port. -/
inductive InputState
  | neutral
  | held
  | deliveryPending
  | neutralTransitionPending
  deriving DecidableEq

/-- What a binding was issued for. -/
inductive InputBindingKind
  | stableNeutral
  | held
  | delivery
  | neutralTransition
  deriving DecidableEq

inductive InputArbiterErrorCode
  | none
  | wrongThread
  | stopped
  | invalidArgument
  | worksetEpochMismatch
  | backendFailure

structure BackendResult where
  ok : Bool
  message : String := ""

/-- The answer to a publication. -/
structure BackendInputPublication where
  result : BackendResult
  publicationEpoch : UInt64 := 0

/-- What the guest has polled. -/
structure BackendInputPoll where
  result : BackendResult
  publicationEpoch : UInt64 := 0
  (callbackCount aControlCallbackCount : UInt32 := 0)
  frame : GCInputFrame := {}

/-- `IInputBackendPort`: what the backend answers during one call. -/
structure InputBackend where
  isAvailable : InputPort → Bool
  publish : InputPort → GCInputFrame → BackendInputPublication
  queryPoll : InputPort → BackendInputPoll

/-- The lease that is asked for. -/
structure InputLeaseRequest where
  owner : InputOwnerId
  port : InputPort := 0
  priority : Int32 := 0
  suspendable : Bool := true
  (interruptionBorrowable movieExclusive : Bool := false)
  borrowPolicy : InputBorrowPolicy := .preserveHeldUntilBorrowerApplies
  deriving DecidableEq

/-- The answer to `Acquire` and `Borrow`. -/
structure InputLeaseReceipt where
  ok : Bool
  status : InputLeaseStatus
  lease : InputLeaseId
  epoch : WorksetEpoch
  message : String := ""
  error : InputArbiterErrorCode := .none

/-- The state that a lease was given. -/
structure InputExecutionBindingReceipt where
  ok : Bool := false
  binding : InputExecutionBindingId := .none
  lease : InputLeaseId
  epoch : WorksetEpoch
  stateGeneration : Nat := 0
  frame : GCInputFrame
  kind : InputBindingKind := .stableNeutral
  requiresObservation : Bool := false
  message : String := ""
  error : InputArbiterErrorCode := .none
  publication : InputPublicationToken := .none

/-- How far a delivery is. -/
structure InputDeliveryReceipt where
  ok : Bool := false
  delivery : InputDeliveryId := .none
  binding : InputExecutionBindingId
  lease : InputLeaseId
  publication : InputPublicationToken := .none
  poll : InputPollReceiptId := .none
  epoch : WorksetEpoch
  stateGeneration : Nat := 0
  callbackCount : UInt32 := 0
  frame : GCInputFrame := {}
  message : String := ""
  error : InputArbiterErrorCode := .none

/-- The answer to `CloseLease`. -/
structure InputLeaseCloseReceipt where
  ok : Bool
  status : InputLeaseStatus
  lease : InputLeaseId
  neutralPublication : InputPublicationToken := .none
  resumedLease : Option InputLeaseId := none
  epoch : WorksetEpoch
  message : String := ""
  error : InputArbiterErrorCode := .none

structure InputArbiterOperationReceipt where
  ok : Bool
  error : InputArbiterErrorCode := .none
  message : String := ""

/-- The answer to a new relationship. -/
structure InputExecutionRelationshipReceipt where
  ok : Bool
  relationship : InputExecutionRelationshipId := .none
  epoch : WorksetEpoch
  message : String := ""
  error : InputArbiterErrorCode := .none

structure InputArbiterShutdownReceipt where
  (ok cleanupComplete taintRequired : Bool)
  neutralPublication : InputPublicationToken := .none
  epoch : WorksetEpoch
  message : String := ""
  error : InputArbiterErrorCode := .none

structure InputExecutionRelationshipOperationReceipt where
  ok : Bool
  message : String := ""

/-- What a relationship has observed. -/
structure InputExecutionRelationshipInspection where
  (ok requiresObservation exactPublicationObserved : Bool := false)
  publicationEpoch : UInt64 := 0
  (callbackCount aControlCallbackCount : UInt32 := 0)
  frame : GCInputFrame := {}
  message : String := ""

/-- What a caller claims about the binding that it holds. -/
structure InputExecutionBindingEvidence where
  lease : InputLeaseId
  binding : InputExecutionBindingId
  publication : InputPublicationToken := .none
  epoch : WorksetEpoch
  stateGeneration : Nat := 0
  frame : GCInputFrame := {}
  deriving DecidableEq

end Savor.Input

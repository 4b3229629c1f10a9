import Savor.Input.InputTypes

/-!
# The input arbiter

The arbiter owns the ports of the controller.  Leases nest: a lease of a higher
priority suspends the active one, and closing it resumes the one below.  The
state that a lease applies is bound to an id, and a binding that was published
has to be observed by the guest before it counts.
-/

namespace Savor.Input

open Program

structure LeaseState where
  request : InputLeaseRequest
  id : InputLeaseId
  epoch : WorksetEpoch
  status : InputLeaseStatus := .active
  inputState : InputState := .neutral
  stateGeneration : Nat := 1
  currentBinding : Option InputExecutionBindingId := none
  backendNeutral : Bool := true
  mutatedBackend : Bool := false

structure BindingState where
  id : InputExecutionBindingId
  lease : InputLeaseId
  epoch : WorksetEpoch
  stateGeneration : Nat
  frame : GCInputFrame
  kind : InputBindingKind
  publication : Option InputPublicationToken
  backendPublicationEpoch : UInt64
  (requiresObservation observed : Bool)
  poll : InputPollReceiptId := .none
  callbackCount : UInt32 := 0
  delivery : Option InputDeliveryId
  deriving DecidableEq

structure RelationshipState where
  id : InputExecutionRelationshipId
  binding : InputExecutionBindingId
  lease : InputLeaseId
  epoch : WorksetEpoch
  stateGeneration : Nat

/-- The arbiter.  The last suspended lease stands first. -/
structure InputArbiter where
  ownerThread : ThreadId
  epoch : WorksetEpoch := .none
  (nextLease nextBinding nextPublication nextPollReceipt : Nat := 1)
  nextDelivery : Nat := 1
  nextRelationship : Nat := 1
  active : Option InputLeaseId := none
  suspended : List InputLeaseId := []
  leases : List LeaseState := []
  bindings : List BindingState := []
  relationships : List RelationshipState := []
  stopped : Bool := false
  shutdownReceipt : Option InputArbiterShutdownReceipt := none

inductive InputOperation
  | acquire (request : InputLeaseRequest) (epoch : WorksetEpoch)
  | borrow
      (parent : InputLeaseId)
      (request : InputLeaseRequest)
      (epoch : WorksetEpoch)
  | applyState
      (lease : InputLeaseId)
      (frame : GCInputFrame)
      (epoch : WorksetEpoch)
  | beginDelivery
      (lease : InputLeaseId)
      (frame : GCInputFrame)
      (epoch : WorksetEpoch)
  | completeDelivery
      (lease : InputLeaseId)
      (binding : InputExecutionBindingId)
      (epoch : WorksetEpoch)
  | replaceDelivery
      (lease : InputLeaseId)
      (observedBinding : InputExecutionBindingId)
      (replacement : GCInputFrame)
      (epoch : WorksetEpoch)
  | validateBinding (evidence : InputExecutionBindingEvidence)
  | createExecutionRelationship (evidence : InputExecutionBindingEvidence)
  | removeExecutionRelationship (relationship : InputExecutionRelationshipId)
  | closeLease (lease : InputLeaseId) (epoch : WorksetEpoch)
  | initializeWorksetEpoch (epoch : WorksetEpoch)
  | shutdown
  | validate
      (relationship : InputExecutionRelationshipId)
      (epoch : WorksetEpoch)
  | complete
      (relationship : InputExecutionRelationshipId)
      (epoch : WorksetEpoch)
  | cancel (relationship : InputExecutionRelationshipId) (epoch : WorksetEpoch)
  | inspect (relationship : InputExecutionRelationshipId) (epoch : WorksetEpoch)
  deriving DecidableEq

/-- A call, with what the backend answers during it. -/
structure InputCall where
  thread : ThreadId
  operation : InputOperation
  backend : InputBackend

inductive InputReply
  | lease (receipt : InputLeaseReceipt)
  | binding (receipt : InputExecutionBindingReceipt)
  | delivery (receipt : InputDeliveryReceipt)
  | close (receipt : InputLeaseCloseReceipt)
  | operation (receipt : InputArbiterOperationReceipt)
  | relationship (receipt : InputExecutionRelationshipReceipt)
  | relationshipOperation (receipt : InputExecutionRelationshipOperationReceipt)
  | inspection (receipt : InputExecutionRelationshipInspection)
  | shutdown (receipt : InputArbiterShutdownReceipt)

/-- A frame that the backend was asked to publish. -/
structure Publication where
  port : InputPort
  frame : GCInputFrame
  answer : BackendInputPublication

/-- The backend published the frame under an epoch. -/
def Publication.succeeded (publication : Publication) : Bool :=
  publication.answer.result.ok && publication.answer.publicationEpoch ≠ 0

/-- A reply, with what the backend was asked to publish and how a poll that was
made was answered. -/
structure InputEvent where
  reply : InputReply
  publication : Option Publication := none
  poll : Option BackendInputPoll := none

/-- `PublishedState`, without its outcome. -/
structure PublishedState where
  publication : InputPublicationToken
  backendPublicationEpoch : UInt64

namespace InputArbiter

variable (arbiter : InputArbiter) (call : InputCall) (lease : InputLeaseId)

def findLease : Option LeaseState := arbiter.leases.find? fun state => state.id = lease

def findBinding (binding : InputExecutionBindingId) : Option BindingState :=
  arbiter.bindings.find? fun state => state.id = binding

variable (relationship : InputExecutionRelationshipId)

def findRelationship : Option RelationshipState :=
  arbiter.relationships.find? fun state => state.id = relationship

variable (epoch : WorksetEpoch)

def isCurrent : Bool := arbiter.epoch.isSet && arbiter.epoch = epoch

/-- Write the state of a lease. -/
def setLease (state : LeaseState) : InputArbiter :=
  { arbiter with
    leases := arbiter.leases.map fun other => if other.id = state.id then state else other }

/-- Write the state of a binding. -/
def setBinding (state : BindingState) : InputArbiter :=
  { arbiter with
    bindings := arbiter.bindings.map fun other => if other.id = state.id then state else other }

def eraseBindingsForLease : InputArbiter :=
  { arbiter with
    bindings := arbiter.bindings.filter (·.lease ≠ lease)
    relationships := arbiter.relationships.filter (·.lease ≠ lease) }

def eraseLeaseState : InputArbiter :=
  { arbiter.eraseBindingsForLease lease with
    leases := arbiter.leases.filter (·.id ≠ lease) }

def eraseRelationship : InputArbiter :=
  { arbiter with
    relationships := arbiter.relationships.filter (·.id ≠ relationship) }

def clearRetainedState : InputArbiter :=
  { arbiter with
    active := none
    suspended := []
    relationships := []
    bindings := []
    leases := [] }

/-- The checks that every call starts with: that it is made on the actor thread
and that the arbiter is not shut down. -/
def checkActor (attempt : String) : Option (String × InputArbiterErrorCode) :=
  if arbiter.ownerThread ≠ call.thread then
    some ("InputArbiter " ++ attempt ++ " was attempted off its actor thread", .wrongThread)
  else if arbiter.stopped then some ("InputArbiter is shut down", .stopped)
  else none

/-- `PublishBackend`: what the backend was asked, and what came of it. -/
def publishBackend (lease : LeaseState) (frame : GCInputFrame) :
    Publication × Except String PublishedState × InputArbiter :=
  let answer := call.backend.publish lease.request.port frame
  let publication : Publication := ⟨lease.request.port, frame, answer⟩
  if !publication.succeeded then
    (publication, .error (if answer.result.message.isEmpty then
        "input backend did not publish an epoch" else answer.result.message), arbiter)
  else
    (publication, .ok ⟨⟨arbiter.nextPublication⟩, answer.publicationEpoch⟩,
      { arbiter with nextPublication := arbiter.nextPublication + 1 })

def bindCurrentState (lease : LeaseState) (frame : GCInputFrame)
    (kind : InputBindingKind) (publication : Option PublishedState)
    (delivery : Option InputDeliveryId) : InputExecutionBindingReceipt × InputArbiter :=
  let erased := arbiter.eraseBindingsForLease lease.id
  let id : InputExecutionBindingId := ⟨arbiter.nextBinding⟩
  let state : BindingState :=
    { id
      lease := lease.id
      epoch := lease.epoch
      stateGeneration := lease.stateGeneration
      frame
      kind
      publication := publication.map (·.publication)
      backendPublicationEpoch := (publication.map (·.backendPublicationEpoch)).getD 0
      requiresObservation := publication.isSome
      observed := !publication.isSome
      delivery }
  ({ ok := true
     binding := id
     lease := lease.id
     epoch := lease.epoch
     stateGeneration := lease.stateGeneration
     frame
     kind
     requiresObservation := publication.isSome
     publication := (publication.map (·.publication)).getD .none },
    { erased with
      nextBinding := arbiter.nextBinding + 1
      bindings := state :: erased.bindings }.setLease { lease with currentBinding := some id })

def acquire (request : InputLeaseRequest) (epoch : WorksetEpoch) : InputEvent × InputArbiter :=
  let refuse (arbiter : InputArbiter) (message : String)
      (error : InputArbiterErrorCode) : InputEvent × InputArbiter :=
    ({ reply := .lease
        { ok := false, status := .rejected, lease := .none, epoch, message, error } }, arbiter)
  match arbiter.checkActor call "mutation" with
  | some (message, error) => refuse arbiter message error
  | none =>
    if !request.owner.isSet || !epoch.isSet then
      refuse arbiter "owner and epoch are required" .none
    else if !request.movieExclusive && !call.backend.isAvailable request.port then
      refuse arbiter "input port is unavailable" .none
    else if arbiter.epoch.isSet && arbiter.epoch ≠ epoch then
      refuse arbiter "stale input epoch" .none
    else
      let arbiter : InputArbiter := if arbiter.epoch.isSet then arbiter else { arbiter with epoch }
      let grant (arbiter : InputArbiter) (inheritsBackend : Bool) :
          InputEvent × InputArbiter :=
        let id : InputLeaseId := ⟨arbiter.nextLease⟩
        let state : LeaseState := { request, id, epoch, backendNeutral := !inheritsBackend }
        ({ reply := .lease
            { ok := true, status := .active, lease := id, epoch } },
          { arbiter with
            nextLease := arbiter.nextLease + 1
            leases := state :: arbiter.leases
            active := some id })
      match arbiter.active with
      | none => grant arbiter false
      | some active =>
        match arbiter.findLease active with
        | none => refuse arbiter "active lease is missing" .none
        | some current =>
          if current.request.movieExclusive || !current.request.suspendable then
            refuse arbiter "active lease is unsuspendable" .none
          else if request.priority ≤ current.request.priority then
            refuse arbiter "lease priority is insufficient" .none
          else
            let arbiter := arbiter.setLease { current with status := .suspended }
            grant { arbiter with
              suspended := current.id :: arbiter.suspended } true

def borrow (parent : InputLeaseId) (request : InputLeaseRequest) (epoch : WorksetEpoch) :
    InputEvent × InputArbiter :=
  let refuse (message : String) (error : InputArbiterErrorCode) :
      InputEvent × InputArbiter :=
    ({ reply := .lease
        { ok := false, status := .rejected, lease := .none, epoch, message, error } }, arbiter)
  match arbiter.checkActor call "mutation" with
  | some (message, error) => refuse message error
  | none =>
    match arbiter.findLease parent with
    | none => refuse "parent lease is not active" .none
    | some state =>
      if arbiter.active ≠ some parent ∨ state.epoch ≠ epoch ∨ !arbiter.isCurrent epoch then
        refuse "parent lease is not active" .none
      else if !state.request.interruptionBorrowable then
        refuse "parent lease forbids borrowing" .none
      else if state.request.borrowPolicy = .requireStableNeutral ∧
          (state.inputState ≠ .neutral ∨ !state.backendNeutral) then
        refuse "borrowing requires a stable neutral parent lease" .none
      else
        arbiter.acquire call
          { request with
            priority := max request.priority (state.request.priority + 1) }
          epoch

/-- The checks of a call that changes the state of the active lease. -/
def checkLease : Except (String × InputArbiterErrorCode) LeaseState :=
  match arbiter.checkActor call "mutation" with
  | some refused => .error refused
  | none =>
    match arbiter.findLease lease with
    | none => .error ("lease is not active", .none)
    | some state =>
      if arbiter.active ≠ some lease ∨ state.status ≠ .active then
        .error ("lease is not active", .none)
      else if !arbiter.isCurrent epoch ∨ state.epoch ≠ epoch then
        .error ("stale input epoch", .worksetEpochMismatch)
      else .ok state

/-- Publish a frame for the active lease, and bind it. -/
def publishState (state : LeaseState) (frame : GCInputFrame)
    (inputState : InputState) (kind : InputBindingKind) (delivery : Option InputDeliveryId)
    (refuse : String → InputArbiterErrorCode → InputReply) : InputEvent × InputArbiter :=
  match arbiter.publishBackend call state frame with
  | (publication, .error message, arbiter) =>
    ({ reply := refuse message .backendFailure
       publication := some publication }, arbiter)
  | (publication, .ok published, arbiter) =>
    let state : LeaseState :=
      { state with
        stateGeneration := state.stateGeneration + 1
        inputState
        backendNeutral := frame.isNeutral
        mutatedBackend := true }
    let bound := arbiter.bindCurrentState state frame kind (some published) delivery
    ({ reply := .binding bound.1, publication := some publication }, bound.2)

def applyState (frame : GCInputFrame) (epoch : WorksetEpoch) : InputEvent × InputArbiter :=
  let refuse (message : String) (error : InputArbiterErrorCode) : InputReply :=
    .binding { lease, epoch, frame, message, error }
  match arbiter.checkLease call lease epoch with
  | .error (message, error) => ({ reply := refuse message error }, arbiter)
  | .ok state =>
    match state.inputState with
    | .deliveryPending =>
      ({ reply := refuse "one-shot input delivery must complete before applying another state" .none },
        arbiter)
    | .neutralTransitionPending =>
      match if frame.isNeutral then state.currentBinding else none with
      | none =>
        ({ reply := refuse "neutral transition must be observed before another held state" .none },
          arbiter)
      | some binding =>
        match arbiter.findBinding binding with
        | none =>
          ({ reply := refuse "pending neutral transition binding is unavailable" .none }, arbiter)
        | some current =>
          ({ reply := .binding
              { ok := true
                binding := current.id
                lease := current.lease
                epoch := current.epoch
                stateGeneration := current.stateGeneration
                frame := current.frame
                kind := current.kind
                requiresObservation := current.requiresObservation } }, arbiter)
    | _ =>
      if frame.isNeutral && state.inputState = .neutral && state.backendNeutral then
        let bound := arbiter.bindCurrentState state frame .stableNeutral none none
        ({ reply := .binding bound.1 }, bound.2)
      else if frame.isNeutral then
        arbiter.publishState call state frame .neutralTransitionPending
          .neutralTransition none refuse
      else
        arbiter.publishState call state frame .held .held none refuse

/-- Begin a delivery for the active lease. -/
def publishDelivery (state : LeaseState) (frame : GCInputFrame)
    (refuse : String → InputArbiterErrorCode → InputReply) : InputEvent × InputArbiter :=
  let delivered := arbiter.publishState call state frame .deliveryPending
    .delivery (some ⟨arbiter.nextDelivery⟩) refuse
  match delivered.1.publication with
  | some publication =>
    if publication.succeeded then
      (delivered.1, { delivered.2 with nextDelivery := arbiter.nextDelivery + 1 })
    else delivered
  | none => delivered

def beginDelivery (frame : GCInputFrame) (epoch : WorksetEpoch) : InputEvent × InputArbiter :=
  let refuse (message : String) (error : InputArbiterErrorCode) : InputReply :=
    .binding { lease, epoch, frame, message, error }
  match arbiter.checkLease call lease epoch with
  | .error (message, error) => ({ reply := refuse message error }, arbiter)
  | .ok state =>
    if state.inputState ≠ .neutral ∨ !state.backendNeutral then
      ({ reply := refuse "one-shot delivery requires a stable neutral lease" .none }, arbiter)
    else arbiter.publishDelivery call state frame refuse

/-- The exact active delivery that a binding names: the lease and the binding,
with its delivery and its publication. -/
def exactDelivery (binding : InputExecutionBindingId) (epoch : WorksetEpoch) :
    Option (LeaseState × BindingState × InputDeliveryId × InputPublicationToken) :=
  match arbiter.findLease lease, arbiter.findBinding binding with
  | some state, some delivery =>
    match delivery.delivery, delivery.publication with
    | some id, some publication =>
      if arbiter.active = some lease ∧ state.status = .active ∧
          state.inputState = .deliveryPending ∧
          state.currentBinding = some binding ∧ delivery.lease = lease ∧
          delivery.epoch = epoch ∧ delivery.kind = .delivery then
        some (state, delivery, id, publication)
      else none
    | _, _ => none
  | _, _ => none

/-- The lease is back in its neutral state, with nothing bound. -/
def settleDelivery (state : LeaseState) (mutatedBackend : Bool) : InputArbiter :=
  (arbiter.eraseBindingsForLease state.id).setLease
    { state with
      stateGeneration := state.stateGeneration + 1
      inputState := .neutral
      backendNeutral := true
      mutatedBackend
      currentBinding := none }

def completeDelivery (binding : InputExecutionBindingId) (epoch : WorksetEpoch) :
    InputEvent × InputArbiter :=
  match arbiter.checkActor call "mutation" with
  | some (message, error) =>
    ({ reply := .delivery { binding, lease, epoch, message, error } }, arbiter)
  | none =>
    match arbiter.exactDelivery lease binding epoch with
    | none =>
      ({ reply := .delivery
          { binding, lease, epoch
            message := "delivery binding is not the exact active delivery" } }, arbiter)
    | some (state, delivery, id, publication) =>
      if !delivery.observed || !delivery.poll.isSet then
        ({ reply := .delivery
            { delivery := id, binding, lease, publication, epoch
              stateGeneration := delivery.stateGeneration
              frame := delivery.frame
              message := "delivery has not been observed by the guest" } }, arbiter)
      else
        let receipt : InputDeliveryReceipt :=
          { ok := true, delivery := id, binding, lease, publication
            poll := delivery.poll
            epoch
            stateGeneration := delivery.stateGeneration
            callbackCount := delivery.callbackCount
            frame := delivery.frame }
        if delivery.frame.isNeutral then
          ({ reply := .delivery receipt }, arbiter.settleDelivery state state.mutatedBackend)
        else
          match arbiter.publishBackend call state neutralFrame with
          | (publication, .error message, arbiter) =>
            ({ reply := .delivery
                { receipt with
                  ok := false, message, error := .backendFailure }
               publication := some publication }, arbiter)
          | (publication, .ok _, arbiter) =>
            ({ reply := .delivery receipt
               publication := some publication }, arbiter.settleDelivery state true)

def replaceDelivery (observedBinding : InputExecutionBindingId)
    (replacement : GCInputFrame) (epoch : WorksetEpoch) : InputEvent × InputArbiter :=
  let refuse (message : String) (error : InputArbiterErrorCode) : InputReply :=
    .binding
      { binding := observedBinding, lease, epoch, frame := replacement, message, error }
  match arbiter.checkActor call "mutation" with
  | some (message, error) => ({ reply := refuse message error }, arbiter)
  | none =>
    match arbiter.exactDelivery lease observedBinding epoch with
    | none =>
      ({ reply := refuse "replacement requires the exact active delivery" .none }, arbiter)
    | some (state, delivery, _) =>
      if !delivery.observed || !delivery.poll.isSet then
        ({ reply := refuse "replacement delivery has not been observed by the guest" .none },
          arbiter)
      else arbiter.publishDelivery call state replacement refuse

/-- `ValidateBinding` -/
def checkBinding (evidence : InputExecutionBindingEvidence) : InputArbiterOperationReceipt :=
  match arbiter.checkActor call "access" with
  | some (message, error) => { ok := false, error, message }
  | none =>
    match arbiter.findLease evidence.lease, arbiter.findBinding evidence.binding with
    | some lease, some binding =>
      if arbiter.active = some evidence.lease ∧ lease.status = .active ∧
          lease.epoch = evidence.epoch ∧ arbiter.isCurrent evidence.epoch ∧
          lease.currentBinding = some evidence.binding ∧
          lease.stateGeneration = evidence.stateGeneration ∧
          binding.lease = evidence.lease ∧
          binding.epoch = evidence.epoch ∧
          binding.stateGeneration = evidence.stateGeneration ∧
          binding.frame = evidence.frame ∧
          binding.publication.getD .none = evidence.publication then
        { ok := true }
      else
        { ok := false
          message := "input execution binding does not name the exact current lease state" }
    | _, _ =>
      { ok := false
        message := "input execution binding does not name the exact current lease state" }

def createExecutionRelationship (evidence : InputExecutionBindingEvidence) :
    InputEvent × InputArbiter :=
  let validated := arbiter.checkBinding call evidence
  if !validated.ok then
    ({ reply := .relationship
        { ok := false
          epoch := evidence.epoch
          message := validated.message
          error := validated.error } }, arbiter)
  else
    let id : InputExecutionRelationshipId := ⟨arbiter.nextRelationship⟩
    ({ reply := .relationship
        { ok := true, relationship := id, epoch := evidence.epoch } },
      { arbiter with
        nextRelationship := arbiter.nextRelationship + 1
        relationships :=
          { id
            binding := evidence.binding
            lease := evidence.lease
            epoch := evidence.epoch
            stateGeneration := evidence.stateGeneration } :: arbiter.relationships })

def removeExecutionRelationship : InputEvent × InputArbiter :=
  match arbiter.checkActor call "mutation" with
  | some (message, error) => ({ reply := .operation { ok := false, error, message } }, arbiter)
  | none => ({ reply := .operation { ok := true } }, arbiter.eraseRelationship relationship)

/-- The loop of `FinishClose` over the suspended leases: the first one that can
be resumed, with those below it. -/
def resumable : List InputLeaseId → Option LeaseState × List InputLeaseId
  | [] => (none, [])
  | candidate :: rest =>
    match arbiter.findLease candidate with
    | some parent =>
      if parent.status = .suspended ∧ parent.epoch = arbiter.epoch then
        (some parent, rest)
      else resumable rest
    | none => resumable rest

def finishClose (lease : LeaseState) : InputLeaseCloseReceipt × InputArbiter :=
  let closed : InputArbiter :=
    { arbiter.eraseLeaseState lease.id with
      active := none
      suspended := arbiter.suspended.filter (· ≠ lease.id) }
  let receipt : InputLeaseCloseReceipt :=
    { ok := true, status := .released, lease := lease.id, epoch := lease.epoch }
  match closed.resumable closed.suspended with
  | (none, rest) => (receipt, { closed with suspended := rest })
  | (some parent, rest) =>
    let parent : LeaseState := { parent with status := .active }
    let resumed : InputArbiter := { closed with suspended := rest, active := some parent.id }
    let receipt : InputLeaseCloseReceipt := { receipt with resumedLease := some parent.id }
    if lease.mutatedBackend then
      ({ receipt with message := "suspended lease resumed in neutral state" },
        (resumed.eraseBindingsForLease parent.id).setLease
          { parent with
            stateGeneration := parent.stateGeneration + 1
            inputState := .neutral
            backendNeutral := true
            mutatedBackend := true
            currentBinding := none })
    else (receipt, resumed.setLease parent)

def closeLease : InputEvent × InputArbiter :=
  let refuse (status : InputLeaseStatus) (message : String)
      (error : InputArbiterErrorCode) : InputReply :=
    .close { ok := false, status, lease, epoch, message, error }
  match arbiter.checkActor call "mutation" with
  | some (message, error) => ({ reply := refuse .rejected message error }, arbiter)
  | none =>
    match arbiter.findLease lease with
    | none => ({ reply := .close { ok := true, status := .released, lease, epoch } }, arbiter)
    | some state =>
      if !arbiter.isCurrent epoch ∨ state.epoch ≠ epoch then
        ({ reply := refuse .rejected "stale input lease"
            .worksetEpochMismatch }, arbiter)
      else if arbiter.active ≠ some lease then
        ({ reply := refuse state.status "only the active lease can close"
            .none }, arbiter)
      else
        let resumesWithoutMutation := !arbiter.suspended.isEmpty && !state.mutatedBackend
        if !resumesWithoutMutation &&
            !(state.request.movieExclusive && !call.backend.isAvailable state.request.port) &&
            !state.backendNeutral then
          match arbiter.publishBackend call state neutralFrame with
          | (publication, .error message, arbiter) =>
            ({ reply := refuse state.status message .backendFailure
               publication := some publication }, arbiter)
          | (publication, .ok published, arbiter) =>
            let state : LeaseState := { state with backendNeutral := true, mutatedBackend := true }
            let closed := (arbiter.setLease state).finishClose state
            ({ reply := .close
                { closed.1 with
                  neutralPublication := published.publication }
               publication := some publication }, closed.2)
        else
          let closed := arbiter.finishClose state
          ({ reply := .close closed.1 }, closed.2)

def initializeWorksetEpoch : InputEvent × InputArbiter :=
  let refuse (error : InputArbiterErrorCode) (message : String) :
      InputEvent × InputArbiter :=
    ({ reply := .operation { ok := false, error, message } }, arbiter)
  match arbiter.checkActor call "mutation" with
  | some (message, error) => refuse error message
  | none =>
    if !epoch.isSet then
      refuse .invalidArgument "InputArbiter requires a nonzero WorksetEpoch"
    else if arbiter.epoch.isSet && arbiter.epoch ≠ epoch then
      refuse .worksetEpochMismatch
        "InputArbiter cannot change its owning WorksetEpoch"
    else ({ reply := .operation { ok := true } }, { arbiter with epoch })

/-- The neutralization of `Shutdown`: its receipt and what it published. -/
def shutdownCleanup : InputArbiterShutdownReceipt × Option Publication × InputArbiter :=
  let receipt : InputArbiterShutdownReceipt :=
    { ok := true
      cleanupComplete := true
      taintRequired := false
      epoch := arbiter.epoch }
  let taint (message : String) (error : InputArbiterErrorCode) :
      InputArbiterShutdownReceipt :=
    { receipt with
      ok := false, cleanupComplete := false, taintRequired := true, message,
      error }
  match arbiter.active with
  | some active =>
    match arbiter.findLease active with
    | none =>
      (taint "active input lease was missing during shutdown" .none, none, arbiter)
    | some state =>
      if !(state.request.movieExclusive && !call.backend.isAvailable state.request.port) &&
          !state.backendNeutral then
        match arbiter.publishBackend call state neutralFrame with
        | (publication, .error message, arbiter) =>
          (taint (if message.isEmpty then
              "input neutralization failed during shutdown" else message)
            .backendFailure, some publication, arbiter)
        | (publication, .ok published, arbiter) =>
          ({ receipt with neutralPublication := published.publication }, some publication, arbiter)
      else (receipt, none, arbiter)
  | none =>
    if arbiter.leases.isEmpty then (receipt, none, arbiter)
    else
      (taint "input leases remained without an active owner during shutdown" .none, none, arbiter)

def shutdown : InputEvent × InputArbiter :=
  if arbiter.ownerThread ≠ call.thread then
    ({ reply := .shutdown
        { ok := false
          cleanupComplete := false
          taintRequired := false
          epoch := arbiter.epoch
          message := "InputArbiter shutdown was attempted off its actor thread"
          error := .wrongThread } }, arbiter)
  else
    match arbiter.shutdownReceipt with
    | some receipt => ({ reply := .shutdown receipt }, arbiter)
    | none =>
      let (receipt, publication, arbiter) := arbiter.shutdownCleanup call
      ({ reply := .shutdown receipt, publication },
        { arbiter.clearRetainedState with
          stopped := true
          shutdownReceipt := some receipt })

/-- `ValidateRelationship`: the relationship with its lease and binding, or why
it is not valid. -/
def validateRelationship : Except String (RelationshipState × LeaseState × BindingState) :=
  match arbiter.checkActor call "access" with
  | some (message, _) => .error message
  | none =>
    match arbiter.findRelationship relationship with
    | none => .error "input execution relationship is unknown"
    | some found =>
      if !arbiter.isCurrent epoch ∨ found.epoch ≠ epoch then
        .error "input execution relationship has a stale epoch"
      else
        match arbiter.findLease found.lease, arbiter.findBinding found.binding with
        | some lease, some binding =>
          if arbiter.active = some lease.id ∧ lease.status = .active ∧
              lease.currentBinding = some binding.id ∧
              lease.stateGeneration = found.stateGeneration ∧
              binding.stateGeneration = found.stateGeneration then
            .ok (found, lease, binding)
          else
            .error "input execution relationship no longer names the current lease state"
        | _, _ =>
          .error "input execution relationship no longer names the current lease state"

/-- The reply to a call that names a relationship. -/
def relationshipReply (error : Option String) : InputReply :=
  .relationshipOperation
    { ok := error.isNone, message := error.getD "" }

def validate : InputEvent × InputArbiter :=
  match arbiter.validateRelationship call relationship epoch with
  | .error message => ({ reply := relationshipReply (some message) }, arbiter)
  | .ok _ => ({ reply := relationshipReply none }, arbiter)

/-- The end of `Complete`, once the binding is known to be observed. -/
def retire (lease : LeaseState) (binding : BindingState) : InputArbiter :=
  let arbiter :=
    if binding.kind = .neutralTransition then
      arbiter.setLease { lease with inputState := .neutral }
    else arbiter
  arbiter.eraseRelationship relationship

def complete : InputEvent × InputArbiter :=
  match arbiter.validateRelationship call relationship epoch with
  | .error message => ({ reply := relationshipReply (some message) }, arbiter)
  | .ok (_, lease, binding) =>
    if binding.requiresObservation && !binding.observed then
      let poll := call.backend.queryPoll lease.request.port
      let refuse (message : String) : InputEvent × InputArbiter :=
        ({ reply := relationshipReply (some message), poll := some poll },
          arbiter.eraseRelationship relationship)
      if !poll.result.ok then
        refuse (if poll.result.message.isEmpty then
          "input backend poll query failed" else poll.result.message)
      else if poll.publicationEpoch ≠ binding.backendPublicationEpoch ∨
          poll.callbackCount = 0 then
        refuse "guest has not observed the input execution binding"
      else
        let observed : BindingState :=
          { binding with
            observed := true
            poll := ⟨arbiter.nextPollReceipt⟩
            callbackCount := poll.callbackCount }
        let arbiter : InputArbiter :=
          { arbiter with nextPollReceipt := arbiter.nextPollReceipt + 1 }
        ({ reply := relationshipReply none, poll := some poll },
          (arbiter.setBinding observed).retire relationship lease observed)
    else
      ({ reply := relationshipReply none }, arbiter.retire relationship lease binding)

def cancel : InputEvent × InputArbiter :=
  match arbiter.checkActor call "mutation" with
  | some (message, _) => ({ reply := relationshipReply (some message) }, arbiter)
  | none =>
    match arbiter.findRelationship relationship with
    | none => ({ reply := relationshipReply none }, arbiter)
    | some found =>
      if !arbiter.isCurrent epoch ∨ found.epoch ≠ epoch then
        ({ reply :=
            relationshipReply (some "stale input execution relationship") }, arbiter)
      else
        ({ reply := relationshipReply none }, arbiter.eraseRelationship relationship)

def inspect : InputEvent × InputArbiter :=
  match arbiter.validateRelationship call relationship epoch with
  | .error message => ({ reply := .inspection { message } }, arbiter)
  | .ok (_, lease, binding) =>
    let poll := call.backend.queryPoll lease.request.port
    let inspection : InputExecutionRelationshipInspection :=
      if !poll.result.ok then
        { message := if poll.result.message.isEmpty then
            "input backend poll inspection failed" else poll.result.message }
      else
        { ok := true
          requiresObservation := binding.requiresObservation
          exactPublicationObserved :=
            !binding.requiresObservation ||
              (poll.publicationEpoch = binding.backendPublicationEpoch &&
                poll.aControlCallbackCount ≠ 0)
          publicationEpoch := poll.publicationEpoch
          callbackCount := poll.callbackCount
          aControlCallbackCount := poll.aControlCallbackCount
          frame := poll.frame }
    ({ reply := .inspection inspection, poll := some poll }, arbiter)

/-- Perform a call. -/
def perform : InputEvent × InputArbiter :=
  match call.operation with
  | .acquire request epoch => arbiter.acquire call request epoch
  | .borrow parent request epoch => arbiter.borrow call parent request epoch
  | .applyState lease frame epoch => arbiter.applyState call lease frame epoch
  | .beginDelivery lease frame epoch => arbiter.beginDelivery call lease frame epoch
  | .completeDelivery lease binding epoch => arbiter.completeDelivery call lease binding epoch
  | .replaceDelivery lease observedBinding replacement epoch =>
    arbiter.replaceDelivery call lease observedBinding replacement epoch
  | .validateBinding evidence =>
    ({ reply := .operation (arbiter.checkBinding call evidence) }, arbiter)
  | .createExecutionRelationship evidence => arbiter.createExecutionRelationship call evidence
  | .removeExecutionRelationship relationship =>
    arbiter.removeExecutionRelationship call relationship
  | .closeLease lease epoch => arbiter.closeLease call lease epoch
  | .initializeWorksetEpoch epoch => arbiter.initializeWorksetEpoch call epoch
  | .shutdown => arbiter.shutdown call
  | .validate relationship epoch => arbiter.validate call relationship epoch
  | .complete relationship epoch => arbiter.complete call relationship epoch
  | .cancel relationship epoch => arbiter.cancel call relationship epoch
  | .inspect relationship epoch => arbiter.inspect call relationship epoch

/-- The transition function of the arbiter. -/
def step (call : InputCall) (arbiter : InputArbiter) : Option (InputEvent × InputArbiter) :=
  some (arbiter.perform call)

/-- The arbiter as constructed. -/
def new (ownerThread : ThreadId) : InputArbiter where
  ownerThread := ownerThread

end InputArbiter

namespace Sample

/-- A backend that reaches every port, publishes every frame and reports every
publication as observed. -/
def backend : InputBackend where
  isAvailable := fun _ => true
  publish := fun _ _ => ⟨⟨true, ""⟩, 1⟩
  queryPoll := fun _ =>
    { result := ⟨true, ""⟩, publicationEpoch := 1, callbackCount := 1 }

def call (operation : InputOperation) : InputCall := ⟨0, operation, backend⟩

def epoch : WorksetEpoch := ⟨1⟩

def pressed : GCInputFrame := { buttons := 1 }

/-- A lease that others may borrow. -/
def request (port : InputPort) : InputLeaseRequest :=
  { owner := ⟨1⟩, port, interruptionBorrowable := true }

end Sample

end Savor.Input

import Mathlib.Logic.Basic
import Savor.Input.InputArbiter

/-!
# What a call of the arbiter can do

Every call refuses and changes nothing, or takes one of a few steps.  The steps
name the lease and the binding that they are about, so that what holds of the
arbiter is proved once for each step.
-/

namespace Savor.Input

open Program

/-- The call grants something: a lease, a binding, a delivery or a relationship.
Or it resumes a lease, or reports that the shutdown left nothing behind. -/
def InputReply.grants : InputReply → Bool
  | .lease receipt => receipt.ok
  | .binding receipt => receipt.ok
  | .delivery receipt => receipt.ok
  | .relationship receipt => receipt.ok
  | .close receipt => receipt.resumedLease.isSome
  | .shutdown receipt => receipt.cleanupComplete
  | _ => false

/-- The port that a call asks a lease for. -/
def InputOperation.requestedPort : InputOperation → Option InputPort
  | .acquire request _ => some request.port
  | .borrow _ request _ => some request.port
  | _ => none

/-- A lease that published a frame. -/
def LeaseState.published (state : LeaseState) (frame : GCInputFrame) (inputState : InputState) :
    LeaseState :=
  { state with
    stateGeneration := state.stateGeneration + 1
    inputState
    backendNeutral := frame.isNeutral
    mutatedBackend := true }

/-- A lease that published the neutral frame to be closed. -/
def LeaseState.neutralized (state : LeaseState) : LeaseState :=
  { state with backendNeutral := true, mutatedBackend := true }

/-- What the backend is asked to publish for a lease, and its answer. -/
def InputCall.publication (call : InputCall) (lease : LeaseState) (frame : GCInputFrame) :
    Publication :=
  ⟨lease.request.port, frame, call.backend.publish lease.request.port frame⟩

/-- The port of the lease is left alone when the lease ends: it belongs to a
movie and cannot be reached. -/
def InputCall.misses (call : InputCall) (lease : LeaseState) : Bool :=
  lease.request.movieExclusive && !call.backend.isAvailable lease.request.port

namespace InputArbiter

variable {arbiter : InputArbiter} {call : InputCall}

/-- The call is one of the actor, before the shutdown. -/
structure Serves (arbiter : InputArbiter) (call : InputCall) : Prop where
  owner : arbiter.ownerThread = call.thread
  running : arbiter.stopped = false

theorem serves_of_check {attempt : String} (checked : arbiter.checkActor call attempt = none) :
    arbiter.Serves call := by
  unfold checkActor at checked
  split at checked
  · cases checked
  rename_i owner
  split at checked
  · cases checked
  rename_i running
  exact ⟨not_not.mp owner, by simpa using running⟩

/-- The lease is the active one, in the epoch of the arbiter. -/
structure Holds (arbiter : InputArbiter) (state : LeaseState) : Prop where
  found : arbiter.findLease state.id = some state
  active : arbiter.active = some state.id
  status : state.status = .active

variable {lease : InputLeaseId} {state : LeaseState}

theorem id_of_findLease (found : arbiter.findLease lease = some state) : state.id = lease := by
  simpa using List.find?_some found

variable {binding : InputExecutionBindingId}

theorem id_of_findBinding {state : BindingState}
    (found : arbiter.findBinding binding = some state) : state.id = binding := by
  simpa using List.find?_some found

variable {relationship : InputExecutionRelationshipId}

theorem id_of_findRelationship {state : RelationshipState}
    (found : arbiter.findRelationship relationship = some state) : state.id = relationship := by
  simpa using List.find?_some found

theorem checkLease_ok {epoch : WorksetEpoch}
    (checked : arbiter.checkLease call lease epoch = .ok state) :
    arbiter.Serves call ∧ arbiter.Holds state ∧ state.id = lease ∧
      arbiter.isCurrent epoch = true ∧ state.epoch = epoch := by
  unfold checkLease at checked
  split at checked
  · cases checked
  rename_i serves
  split at checked
  · cases checked
  rename_i found
  have named := id_of_findLease found
  split at checked
  · cases checked
  rename_i active
  split at checked
  · cases checked
  rename_i current
  rw [Except.ok.injEq] at checked
  subst checked
  rw [not_or, not_not, not_not] at active
  simp only [not_or, Bool.not_eq_true', Bool.not_eq_false, not_not] at current
  exact ⟨serves_of_check serves,
    ⟨named.symm ▸ found, named.symm ▸ active.1, active.2⟩, named, current⟩

/-- The exact active delivery of a lease. -/
structure Delivers (arbiter : InputArbiter) (state : LeaseState) (delivery : BindingState) :
    Prop where
  holds : arbiter.Holds state
  pending : state.inputState = .deliveryPending
  current : state.currentBinding = some delivery.id
  found : arbiter.findBinding delivery.id = some delivery
  lease : delivery.lease = state.id
  kind : delivery.kind = .delivery

theorem exactDelivery_some {epoch : WorksetEpoch} {delivery : BindingState} {id : InputDeliveryId}
    {publication : InputPublicationToken} (exact : arbiter.exactDelivery lease binding epoch =
      some (state, delivery, id, publication)) :
    arbiter.Delivers state delivery ∧ state.id = lease ∧
      delivery.id = binding ∧ delivery.epoch = epoch ∧
      delivery.delivery = some id ∧ delivery.publication = some publication := by
  unfold exactDelivery at exact
  split at exact
  · rename_i found bound
    have named := id_of_findLease found
    have bindingNamed := id_of_findBinding bound
    split at exact
    · rename_i delivered published
      split at exact
      · rename_i checked
        simp only [Option.some.injEq, Prod.mk.injEq] at exact
        obtain ⟨rfl, rfl, rfl, rfl⟩ := exact
        subst named bindingNamed
        obtain ⟨active, status, pending, current, owner, inEpoch, kind⟩ := checked
        exact ⟨⟨⟨found, active, status⟩, pending, current, bound, owner, kind⟩,
          rfl, rfl, inEpoch, delivered, published⟩
      · cases exact
    · cases exact
  · cases exact

/-- The evidence names the exact current state of the active lease. -/
structure Evidences (arbiter : InputArbiter)
    (evidence : InputExecutionBindingEvidence) (state : LeaseState) (binding : BindingState) :
    Prop where
  holds : arbiter.Holds state
  found : arbiter.findBinding binding.id = some binding
  lease : evidence.lease = state.id
  named : evidence.binding = binding.id
  current : state.currentBinding = some binding.id
  leaseEpoch : state.epoch = evidence.epoch
  leaseGeneration : state.stateGeneration = evidence.stateGeneration
  bindingLease : binding.lease = state.id
  bindingEpoch : binding.epoch = evidence.epoch
  bindingGeneration : binding.stateGeneration = evidence.stateGeneration
  epoch : arbiter.isCurrent evidence.epoch = true

variable {evidence : InputExecutionBindingEvidence}

theorem checkBinding_ok (valid : (arbiter.checkBinding call evidence).ok = true) :
    arbiter.Serves call ∧ ∃ state binding, arbiter.Evidences evidence state binding := by
  unfold checkBinding at valid
  split at valid
  · cases valid
  rename_i checked
  split at valid
  · rename_i state binding found bound
    split at valid
    · rename_i exact
      obtain ⟨active, status, leaseEpoch, epoch, current, leaseGeneration,
        bindingLease, bindingEpoch, bindingGeneration, -⟩ := exact
      have named := id_of_findLease found
      have bindingNamed := id_of_findBinding bound
      rw [← named] at found active bindingLease
      rw [← bindingNamed] at bound current
      exact ⟨serves_of_check checked, state, binding, ⟨found, active, status⟩,
        bound, named.symm, bindingNamed.symm, current, leaseEpoch,
        leaseGeneration, bindingLease, bindingEpoch, bindingGeneration, epoch⟩
    · cases valid
  · cases valid

/-- A relationship on the current binding of the active lease. -/
structure Relates (arbiter : InputArbiter) (relationship : RelationshipState)
    (state : LeaseState) (binding : BindingState) : Prop where
  holds : arbiter.Holds state
  related : arbiter.findRelationship relationship.id = some relationship
  bound : arbiter.findBinding binding.id = some binding
  lease : relationship.lease = state.id
  names : relationship.binding = binding.id
  current : state.currentBinding = some binding.id
  leaseGeneration : state.stateGeneration = relationship.stateGeneration
  bindingGeneration : binding.stateGeneration = relationship.stateGeneration
  epoch : arbiter.isCurrent relationship.epoch = true

theorem validateRelationship_ok
    {epoch : WorksetEpoch} {found : RelationshipState} {binding : BindingState}
    (valid : arbiter.validateRelationship call relationship epoch = .ok (found, state, binding)) :
    arbiter.Serves call ∧ arbiter.Relates found state binding ∧
      found.id = relationship ∧ found.epoch = epoch := by
  unfold validateRelationship at valid
  split at valid
  · cases valid
  rename_i serves
  split at valid
  · cases valid
  rename_i record related
  have named := id_of_findRelationship related
  split at valid
  · cases valid
  rename_i current
  simp only [not_or, Bool.not_eq_true', Bool.not_eq_false, not_not] at current
  split at valid
  · rename_i lease bound leaseFound bindingFound
    split at valid
    · rename_i checked
      rw [Except.ok.injEq] at valid
      simp only [Prod.mk.injEq] at valid
      obtain ⟨rfl, rfl, rfl⟩ := valid
      obtain ⟨active, status, currentBinding, leaseGeneration, bindingGeneration⟩ := checked
      have leaseNamed := id_of_findLease leaseFound
      have bindingNamed := id_of_findBinding bindingFound
      subst named
      obtain ⟨isCurrent, rfl⟩ := current
      refine ⟨serves_of_check serves, ⟨⟨?_, active, status⟩, related, ?_,
        leaseNamed.symm, bindingNamed.symm, currentBinding, leaseGeneration,
        bindingGeneration, isCurrent⟩, rfl, rfl⟩
      · rw [leaseNamed]
        exact leaseFound
      · rw [bindingNamed]
        exact bindingFound
    · cases valid
  · cases valid

/-- Publishing fails and changes nothing, or gives the next token. -/
theorem publishBackend_cases (arbiter : InputArbiter) (call : InputCall)
    (state : LeaseState) (frame : GCInputFrame) :
    ((call.publication state frame).succeeded = false ∧ ∃ message,
      arbiter.publishBackend call state frame =
        (call.publication state frame, .error message, arbiter)) ∨
    ((call.publication state frame).succeeded = true ∧ arbiter.publishBackend call state frame =
        (call.publication state frame,
          .ok ⟨⟨arbiter.nextPublication⟩, (call.publication state frame).answer.publicationEpoch⟩,
          { arbiter with nextPublication := arbiter.nextPublication + 1 })) := by
  unfold publishBackend
  dsimp only
  split
  · rename_i failed
    exact .inl ⟨by simpa [InputCall.publication] using failed, _, rfl⟩
  · rename_i succeeded
    exact .inr ⟨by simpa [InputCall.publication] using succeeded, rfl⟩

/-- The arbiter after a frame was published for a lease and bound. -/
def published (arbiter : InputArbiter) (state : LeaseState)
    (publication : Publication) (inputState : InputState)
    (kind : InputBindingKind) (delivery : Option InputDeliveryId) :
    InputExecutionBindingReceipt × InputArbiter :=
  { arbiter with
    nextPublication := arbiter.nextPublication + 1 }.bindCurrentState
    (state.published publication.frame inputState) publication.frame kind
    (some ⟨⟨arbiter.nextPublication⟩, publication.answer.publicationEpoch⟩)
    delivery

/-- The backend refused the frame, or it was published and bound. -/
def Publishes (arbiter : InputArbiter) (state : LeaseState)
    (frame : GCInputFrame) (refuse : String → InputArbiterErrorCode → InputReply)
    (bound : Publication → InputExecutionBindingReceipt × InputArbiter)
    (result : InputEvent × InputArbiter) : Prop :=
  (∃ message publication, publication.succeeded = false ∧ result =
      ({ reply := refuse message .backendFailure
         publication := some publication }, arbiter)) ∨
  ∃ publication, publication.succeeded = true ∧
    publication.port = state.request.port ∧ publication.frame = frame ∧
    result =
      ({ reply := .binding (bound publication).1
         publication := some publication }, (bound publication).2)

theorem publishState_cases (arbiter : InputArbiter) (call : InputCall)
    (state : LeaseState) (frame : GCInputFrame) (inputState : InputState) (kind : InputBindingKind)
    (delivery : Option InputDeliveryId) (refuse : String → InputArbiterErrorCode → InputReply) :
    arbiter.Publishes state frame refuse (arbiter.published state · inputState kind delivery)
      (arbiter.publishState call state frame inputState kind delivery refuse) := by
  unfold publishState
  obtain ⟨failed, message, result⟩ | ⟨succeeded, result⟩ :=
    publishBackend_cases arbiter call state frame
  · rw [result]
    exact .inl ⟨message, _, failed, rfl⟩
  · rw [result]
    exact .inr ⟨_, succeeded, rfl, rfl, rfl⟩

/-- The arbiter after a delivery was published. -/
def delivered (arbiter : InputArbiter) (state : LeaseState) (publication : Publication) :
    InputExecutionBindingReceipt × InputArbiter :=
  let bound := arbiter.published state publication .deliveryPending .delivery
    (some ⟨arbiter.nextDelivery⟩)
  (bound.1, { bound.2 with nextDelivery := arbiter.nextDelivery + 1 })

theorem publishDelivery_cases (arbiter : InputArbiter) (call : InputCall)
    (state : LeaseState) (frame : GCInputFrame)
    (refuse : String → InputArbiterErrorCode → InputReply) :
    arbiter.Publishes state frame refuse (arbiter.delivered state)
      (arbiter.publishDelivery call state frame refuse) := by
  unfold publishDelivery
  obtain ⟨message, publication, failed, result⟩ |
    ⟨publication, succeeded, port, rfl, result⟩ :=
      publishState_cases arbiter call state frame .deliveryPending .delivery
        (some ⟨arbiter.nextDelivery⟩) refuse
  · rw [result]
    refine .inl ⟨message, publication, failed, ?_⟩
    simp only [failed, Bool.false_eq_true, if_false]
  rw [result]
  refine .inr ⟨publication, succeeded, port, rfl, ?_⟩
  simp only [succeeded, if_true]
  rfl

/-- The arbiter in the epoch of its first lease. -/
def withEpoch (arbiter : InputArbiter) (epoch : WorksetEpoch) : InputArbiter :=
  { arbiter with epoch }

/-- The arbiter after a lease was granted. -/
def withLease (arbiter : InputArbiter) (request : InputLeaseRequest) (inheritsBackend : Bool) :
    InputArbiter :=
  { arbiter with
    nextLease := arbiter.nextLease + 1
    leases :=
      { request
        id := ⟨arbiter.nextLease⟩
        epoch := arbiter.epoch
        backendNeutral := !inheritsBackend } :: arbiter.leases
    active := some ⟨arbiter.nextLease⟩ }

/-- The arbiter after a lease was suspended. -/
def suspend (arbiter : InputArbiter) (state : LeaseState) : InputArbiter :=
  { arbiter.setLease { state with status := .suspended } with
    suspended := state.id :: arbiter.suspended }

/-- A binding as it is once the guest observed it. -/
def seen (arbiter : InputArbiter) (binding : BindingState) (poll : BackendInputPoll) :
    BindingState :=
  { binding with
    observed := true
    poll := ⟨arbiter.nextPollReceipt⟩
    callbackCount := poll.callbackCount }

/-- The arbiter after a binding was observed. -/
def observe (arbiter : InputArbiter) (binding : BindingState) (poll : BackendInputPoll) :
    InputArbiter :=
  { arbiter with
    nextPollReceipt := arbiter.nextPollReceipt + 1 }.setBinding (arbiter.seen binding poll)

/-- The arbiter after the port of a lease was neutralized. -/
def neutralize (arbiter : InputArbiter) (state : LeaseState) : InputArbiter :=
  { arbiter with
    nextPublication := arbiter.nextPublication + 1 }.setLease state.neutralized

/-- The close of a lease whose port was just neutralized. -/
def neutralizedClose (arbiter : InputArbiter) (state : LeaseState) :
    InputLeaseCloseReceipt × InputArbiter :=
  (arbiter.neutralize state).finishClose state.neutralized

/-- The port of an active lease is left as it is, when it is neutral or cannot
be reached, or is neutralized. -/
structure Cleans (arbiter : InputArbiter) (call : InputCall) (publication : Option Publication) :
    Prop where
  idle : arbiter.active = none → arbiter.leases = [] ∧ publication = none
  clean : ∀ active, arbiter.active = some active → ∃ state,
    arbiter.findLease active = some state ∧
    (call.misses state = true ∧ publication = none ∨
      state.backendNeutral = true ∧ publication = none ∨
      publication = some (call.publication state neutralFrame) ∧
        (call.publication state neutralFrame).succeeded = true)

/-- What a call can do to the arbiter. -/
inductive ArbiterStep (arbiter : InputArbiter) (call : InputCall) : InputEvent × InputArbiter → Prop
  /-- Nothing changes. -/
  | refused {reply publication poll}
      (quiet : reply.grants = false)
      (failed : ∀ attempt, publication = some attempt → attempt.succeeded = false) :
      ArbiterStep arbiter call ({ reply, publication, poll }, arbiter)
  /-- The outcome of the shutdown is reported once more. -/
  | answered (receipt : InputArbiterShutdownReceipt)
      (answer : arbiter.shutdownReceipt = some receipt) :
      ArbiterStep arbiter call ({ reply := .shutdown receipt }, arbiter)
  /-- The epoch of the arbiter is fixed. -/
  | initialized {reply epoch}
      (serves : arbiter.Serves call)
      (quiet : reply.grants = false)
      (isSet : epoch.isSet = true)
      (first : arbiter.epoch.isSet = true → arbiter.epoch = epoch) :
      ArbiterStep arbiter call ({ reply }, arbiter.withEpoch epoch)
  /-- A lease is granted while there is none. -/
  | granted {epoch} (request : InputLeaseRequest)
      (serves : arbiter.Serves call)
      (isSet : epoch.isSet = true)
      (first : arbiter.epoch.isSet = true → arbiter.epoch = epoch)
      (inactive : arbiter.active = none)
      (asked : call.operation.requestedPort = some request.port) :
      ArbiterStep arbiter call
        ({ reply := .lease
            { ok := true
              status := .active
              lease := ⟨arbiter.nextLease⟩
              epoch } }, (arbiter.withEpoch epoch).withLease request false)
  /-- A lease is granted above the active one. -/
  | suspended {epoch} (request : InputLeaseRequest) (holder : LeaseState)
      (serves : arbiter.Serves call)
      (isSet : epoch.isSet = true)
      (first : arbiter.epoch.isSet = true → arbiter.epoch = epoch)
      (active : arbiter.active = some holder.id)
      (found : arbiter.findLease holder.id = some holder)
      (asked : call.operation.requestedPort = some request.port) :
      ArbiterStep arbiter call
        ({ reply := .lease
            { ok := true
              status := .active
              lease := ⟨arbiter.nextLease⟩
              epoch } }, ((arbiter.withEpoch epoch).suspend holder).withLease request true)
  /-- The pending neutral transition is named once more. -/
  | repeated {receipt} (state : LeaseState) (current : BindingState)
      (serves : arbiter.Serves call)
      (holds : arbiter.Holds state)
      (pending : state.inputState = .neutralTransitionPending)
      (bound : state.currentBinding = some current.id)
      (found : arbiter.findBinding current.id = some current)
      (kind : receipt.kind = current.kind)
      (owner : receipt.lease = current.lease)
      (asked : ∃ lease frame epoch, call.operation = .applyState lease frame epoch) :
      ArbiterStep arbiter call ({ reply := .binding receipt }, arbiter)
  /-- The stable neutral state is bound. -/
  | bound (state : LeaseState)
      (serves : arbiter.Serves call)
      (holds : arbiter.Holds state)
      (neutral : state.inputState = .neutral)
      (asked : ∃ lease frame epoch, call.operation = .applyState lease frame epoch) :
      ArbiterStep arbiter call
        ({ reply := .binding (arbiter.bindCurrentState state neutralFrame
            .stableNeutral none none).1 },
          (arbiter.bindCurrentState state neutralFrame .stableNeutral none none).2)
  /-- A state is published and bound. -/
  | applied (state : LeaseState) (publication : Publication)
      (serves : arbiter.Serves call)
      (holds : arbiter.Holds state)
      (ready : state.inputState = .neutral ∨ state.inputState = .held)
      (succeeded : publication.succeeded = true)
      (port : publication.port = state.request.port)
      (asked : call.operation = .applyState state.id publication.frame state.epoch) :
      ArbiterStep arbiter call
        ({ reply := .binding (arbiter.published state publication
            (if publication.frame.isNeutral then .neutralTransitionPending
              else .held) (if publication.frame.isNeutral then .neutralTransition
              else .held) none).1
           publication := some publication }, (arbiter.published state publication
            (if publication.frame.isNeutral then .neutralTransitionPending
              else .held) (if publication.frame.isNeutral then .neutralTransition
              else .held) none).2)
  /-- A delivery begins. -/
  | began (state : LeaseState) (publication : Publication)
      (serves : arbiter.Serves call)
      (holds : arbiter.Holds state)
      (neutral : state.inputState = .neutral)
      (succeeded : publication.succeeded = true)
      (port : publication.port = state.request.port)
      (asked : call.operation = .beginDelivery state.id publication.frame state.epoch) :
      ArbiterStep arbiter call
        ({ reply := .binding (arbiter.delivered state publication).1
           publication := some publication }, (arbiter.delivered state publication).2)
  /-- An observed delivery is replaced. -/
  | replaced (state : LeaseState) (delivery : BindingState)
      (publication : Publication) (epoch : WorksetEpoch)
      (serves : arbiter.Serves call)
      (delivers : arbiter.Delivers state delivery)
      (observed : delivery.observed = true)
      (succeeded : publication.succeeded = true)
      (port : publication.port = state.request.port)
      (asked : call.operation = .replaceDelivery state.id delivery.id publication.frame epoch) :
      ArbiterStep arbiter call
        ({ reply := .binding (arbiter.delivered state publication).1
           publication := some publication }, (arbiter.delivered state publication).2)
  /-- An observed delivery completes. -/
  | completed {receipt publication} (state : LeaseState)
      (delivery : BindingState) (epoch : WorksetEpoch) (nextPublication : Nat)
      (mutatedBackend : Bool)
      (serves : arbiter.Serves call)
      (delivers : arbiter.Delivers state delivery)
      (observed : delivery.observed = true)
      (receiptDelivery : delivery.delivery = some receipt.delivery)
      (receiptBinding : receipt.binding = delivery.id)
      (neutralizes : (publication = none ∧ delivery.frame.isNeutral = true ∧
          mutatedBackend = state.mutatedBackend) ∨
        ∃ attempt, publication = some attempt ∧ attempt.succeeded = true ∧
          attempt.port = state.request.port ∧ attempt.frame = neutralFrame ∧ mutatedBackend = true)
      (asked : call.operation = .completeDelivery state.id delivery.id epoch) :
      ArbiterStep arbiter call
        ({ reply := .delivery receipt, publication },
          { arbiter with nextPublication }.settleDelivery state mutatedBackend)
  /-- A relationship on the current binding is created. -/
  | related (evidence : InputExecutionBindingEvidence) (state : LeaseState)
      (binding : BindingState)
      (serves : arbiter.Serves call)
      (evidences : arbiter.Evidences evidence state binding)
      (asked : call.operation = .createExecutionRelationship evidence) :
      ArbiterStep arbiter call
        ({ reply := .relationship
            { ok := true
              relationship := ⟨arbiter.nextRelationship⟩
              epoch := evidence.epoch } },
          { arbiter with
            nextRelationship := arbiter.nextRelationship + 1
            relationships :=
              { id := ⟨arbiter.nextRelationship⟩
                binding := evidence.binding
                lease := evidence.lease
                epoch := evidence.epoch
                stateGeneration := evidence.stateGeneration } :: arbiter.relationships })
  /-- A relationship is given up. -/
  | unrelated {reply poll} (relationship : InputExecutionRelationshipId)
      (quiet : reply.grants = false) :
      ArbiterStep arbiter call ({ reply, poll }, arbiter.eraseRelationship relationship)
  /-- A relationship completes on a binding that needs no observation, or was
  observed before. -/
  | witnessed (relationship : RelationshipState) (state : LeaseState)
      (binding : BindingState)
      (serves : arbiter.Serves call)
      (relates : arbiter.Relates relationship state binding)
      (settled : binding.requiresObservation = true → binding.observed = true)
      (asked : call.operation = .complete relationship.id relationship.epoch) :
      ArbiterStep arbiter call
        ({ reply := relationshipReply none }, arbiter.retire relationship.id state binding)
  /-- A relationship completes after a poll that reported the publication of its
  binding. -/
  | observed (relationship : RelationshipState) (state : LeaseState)
      (binding : BindingState) (poll : BackendInputPoll)
      (serves : arbiter.Serves call)
      (relates : arbiter.Relates relationship state binding)
      (required : binding.requiresObservation = true)
      (unobserved : binding.observed = false)
      (answered : poll.result.ok = true)
      (reported : poll.publicationEpoch = binding.backendPublicationEpoch)
      (seen : poll.callbackCount ≠ 0)
      (asked : call.operation = .complete relationship.id relationship.epoch) :
      ArbiterStep arbiter call
        ({ reply := relationshipReply none, poll := some poll },
          (arbiter.observe binding poll).retire relationship.id state (arbiter.seen binding poll))
  /-- A lease is closed that had nothing to neutralize. -/
  | closed (state : LeaseState)
      (serves : arbiter.Serves call)
      (found : arbiter.findLease state.id = some state)
      (active : arbiter.active = some state.id)
      (skipped : (arbiter.suspended ≠ [] ∧ state.mutatedBackend = false) ∨
        call.misses state = true ∨ state.backendNeutral = true)
      (asked : call.operation = .closeLease state.id state.epoch) :
      ArbiterStep arbiter call
        ({ reply := .close (arbiter.finishClose state).1 }, (arbiter.finishClose state).2)
  /-- A lease is neutralized and closed. -/
  | neutralized (state : LeaseState)
      (serves : arbiter.Serves call)
      (found : arbiter.findLease state.id = some state)
      (active : arbiter.active = some state.id)
      (changed : arbiter.suspended ≠ [] → state.mutatedBackend = true)
      (succeeded : (call.publication state neutralFrame).succeeded = true)
      (asked : call.operation = .closeLease state.id state.epoch) :
      ArbiterStep arbiter call
        ({ reply := .close
            { (arbiter.neutralizedClose state).1 with
              neutralPublication := ⟨arbiter.nextPublication⟩ }
           publication := some (call.publication state neutralFrame) },
          (arbiter.neutralizedClose state).2)
  /-- The arbiter is shut down. -/
  | shutDown {publication} (receipt : InputArbiterShutdownReceipt)
      (nextPublication : Nat)
      (owner : arbiter.ownerThread = call.thread)
      (unanswered : arbiter.shutdownReceipt = none)
      (asked : call.operation = .shutdown)
      (complete : receipt.cleanupComplete = true → arbiter.Cleans call publication) :
      ArbiterStep arbiter call
        ({ reply := .shutdown receipt, publication },
          { arbiter.clearRetainedState with
            nextPublication
            stopped := true
            shutdownReceipt := some receipt })

/-! ## Every operation takes one of the steps -/

theorem withEpoch_of_current {epoch : WorksetEpoch} (current : arbiter.epoch = epoch) :
    arbiter.withEpoch epoch = arbiter := by
  subst current
  rfl

variable {request : InputLeaseRequest}

theorem acquire_step {epoch : WorksetEpoch}
    (asked : call.operation.requestedPort = some request.port) :
    ArbiterStep arbiter call (arbiter.acquire call request epoch) := by
  unfold acquire
  dsimp only
  split
  · exact .refused rfl nofun
  rename_i checked
  split
  · exact .refused rfl nofun
  rename_i named
  split
  · exact .refused rfl nofun
  split
  · exact .refused rfl nofun
  rename_i current
  have first : arbiter.epoch.isSet = true → arbiter.epoch = epoch := by
    intro isSet
    simpa [isSet] using current
  have epochSet : epoch.isSet = true := by
    simp only [Bool.or_eq_true, Bool.not_eq_true', not_or, Bool.not_eq_false] at named
    exact named.2
  have entered : (if arbiter.epoch.isSet = true then arbiter
      else { arbiter with epoch }) = arbiter.withEpoch epoch := by
    split
    · rename_i isSet
      exact (withEpoch_of_current (first isSet)).symm
    · rfl
  have serves := serves_of_check checked
  rw [entered]
  split
  · rename_i inactive
    exact .granted request serves epochSet first inactive asked
  rename_i active isActive
  split
  · exact .initialized serves rfl epochSet first
  rename_i holder found
  split
  · exact .initialized serves rfl epochSet first
  split
  · exact .initialized serves rfl epochSet first
  have named : holder.id = active := id_of_findLease found
  subst named
  exact .suspended request holder serves epochSet first isActive found asked

theorem borrow_step {parent : InputLeaseId} {epoch : WorksetEpoch}
    (asked : call.operation.requestedPort = some request.port) :
    ArbiterStep arbiter call (arbiter.borrow call parent request epoch) := by
  unfold borrow
  split
  · exact .refused rfl nofun
  split
  · exact .refused rfl nofun
  split
  · exact .refused rfl nofun
  split
  · exact .refused rfl nofun
  split
  · exact .refused rfl nofun
  exact acquire_step asked

variable {frame : GCInputFrame}

theorem Publishes.refuses {refuse : String → InputArbiterErrorCode → InputReply}
    {bound : Publication → InputExecutionBindingReceipt × InputArbiter}
    {result : InputEvent × InputArbiter}
    (publishes : arbiter.Publishes state frame refuse bound result)
    (quiet : ∀ message error, (refuse message error).grants = false)
    (delivers : ∀ publication, publication.succeeded = true →
      publication.port = state.request.port → publication.frame = frame → ArbiterStep arbiter call
        ({ reply := .binding (bound publication).1
           publication := some publication }, (bound publication).2)) :
    ArbiterStep arbiter call result := by
  obtain ⟨message, publication, failed, rfl⟩ |
    ⟨publication, succeeded, port, published, rfl⟩ := publishes
  · refine .refused (quiet _ _) ?_
    rintro _ ⟨⟩
    exact failed
  · exact delivers publication succeeded port published

theorem applyState_step {epoch : WorksetEpoch}
    (asked : call.operation = .applyState lease frame epoch) :
    ArbiterStep arbiter call (arbiter.applyState call lease frame epoch) := by
  unfold applyState
  split
  · exact .refused rfl nofun
  rename_i state checked
  obtain ⟨serves, holds, rfl, -, rfl⟩ := checkLease_ok checked
  split
  · exact .refused rfl nofun
  · rename_i pending
    split
    · exact .refused rfl nofun
    rename_i binding named
    split
    · exact .refused rfl nofun
    rename_i current found
    have bound : state.currentBinding = some current.id := by
      rw [id_of_findBinding found]
      split at named
      · exact named
      · cases named
    refine .repeated state current serves holds pending bound ?_ rfl rfl ⟨_, _, _, asked⟩
    rw [id_of_findBinding found]
    exact found
  · rename_i notDelivering notPending
    have ready : state.inputState = .neutral ∨ state.inputState = .held := by
      cases isState : state.inputState with
      | neutral => exact .inl rfl
      | held => exact .inr rfl
      | deliveryPending => exact absurd isState notDelivering
      | neutralTransitionPending => exact absurd isState notPending
    split
    · rename_i stable
      simp only [Bool.and_eq_true, decide_eq_true_eq, GCInputFrame.isNeutral] at stable
      obtain ⟨⟨rfl, neutral⟩, -⟩ := stable
      exact .bound state serves holds neutral ⟨_, _, _, asked⟩
    split
    · rename_i neutral
      refine (publishState_cases ..).refuses (fun _ _ => rfl) ?_
      rintro publication succeeded port rfl
      have step := ArbiterStep.applied state publication serves holds ready succeeded port asked
      simp only [neutral, if_true] at step
      exact step
    rename_i neutral
    refine (publishState_cases ..).refuses (fun _ _ => rfl) ?_
    rintro publication succeeded port rfl
    have step := ArbiterStep.applied state publication serves holds ready succeeded port asked
    simp only [neutral] at step
    exact step

theorem beginDelivery_step {epoch : WorksetEpoch}
    (asked : call.operation = .beginDelivery lease frame epoch) :
    ArbiterStep arbiter call (arbiter.beginDelivery call lease frame epoch) := by
  unfold beginDelivery
  split
  · exact .refused rfl nofun
  rename_i state checked
  obtain ⟨serves, holds, rfl, -, rfl⟩ := checkLease_ok checked
  split
  · exact .refused rfl nofun
  rename_i neutral
  rw [not_or, not_not] at neutral
  refine (publishDelivery_cases ..).refuses (fun _ _ => rfl) ?_
  rintro publication succeeded port rfl
  exact .began state publication serves holds neutral.1 succeeded port asked

theorem completeDelivery_step {epoch : WorksetEpoch}
    (asked : call.operation = .completeDelivery lease binding epoch) : ArbiterStep arbiter call
      (arbiter.completeDelivery call lease binding epoch) := by
  unfold completeDelivery
  split
  · exact .refused rfl nofun
  rename_i checked
  split
  · exact .refused rfl nofun
  rename_i state delivery id token exact
  obtain ⟨delivers, rfl, rfl, -, delivered, -⟩ := exactDelivery_some exact
  split
  · exact .refused rfl nofun
  rename_i settled
  have observed : delivery.observed = true := by
    simp only [Bool.or_eq_true, Bool.not_eq_true', not_or, Bool.not_eq_false] at settled
    exact settled.1
  have serves := serves_of_check checked
  split
  · rename_i neutral
    exact .completed state delivery epoch arbiter.nextPublication
      state.mutatedBackend serves delivers observed delivered rfl (.inl ⟨rfl, neutral, rfl⟩) asked
  obtain ⟨failed, message, result⟩ | ⟨succeeded, result⟩ :=
    publishBackend_cases arbiter call state neutralFrame
  · rw [result]
    refine .refused rfl ?_
    rintro _ ⟨⟩
    exact failed
  rw [result]
  exact .completed state delivery epoch (arbiter.nextPublication + 1) true
    serves delivers observed delivered rfl (.inr ⟨_, rfl, succeeded, rfl, rfl, rfl⟩) asked

theorem replaceDelivery_step {epoch : WorksetEpoch}
    (asked : call.operation = .replaceDelivery lease binding frame epoch) : ArbiterStep arbiter call
      (arbiter.replaceDelivery call lease binding frame epoch) := by
  unfold replaceDelivery
  split
  · exact .refused rfl nofun
  rename_i checked
  split
  · exact .refused rfl nofun
  rename_i state delivery id exact
  obtain ⟨delivers, rfl, rfl, -⟩ := exactDelivery_some exact
  split
  · exact .refused rfl nofun
  rename_i settled
  have observed : delivery.observed = true := by
    simp only [Bool.or_eq_true, Bool.not_eq_true', not_or, Bool.not_eq_false] at settled
    exact settled.1
  refine (publishDelivery_cases ..).refuses (fun _ _ => rfl) ?_
  rintro publication succeeded port rfl
  exact .replaced state delivery publication epoch (serves_of_check checked)
    delivers observed succeeded port asked

theorem createExecutionRelationship_step
    (asked : call.operation = .createExecutionRelationship evidence) : ArbiterStep arbiter call
      (arbiter.createExecutionRelationship call evidence) := by
  unfold createExecutionRelationship
  dsimp only
  split
  · exact .refused rfl nofun
  rename_i checked
  obtain ⟨serves, state, binding, evidences⟩ := checkBinding_ok (by simpa using checked)
  exact .related evidence state binding serves evidences asked

theorem removeExecutionRelationship_step (relationship : InputExecutionRelationshipId) :
    ArbiterStep arbiter call (arbiter.removeExecutionRelationship call relationship) := by
  unfold removeExecutionRelationship
  split
  · exact .refused rfl nofun
  · exact .unrelated relationship rfl

theorem closeLease_step {epoch : WorksetEpoch} (asked : call.operation = .closeLease lease epoch) :
    ArbiterStep arbiter call (arbiter.closeLease call lease epoch) := by
  unfold closeLease
  dsimp only
  split
  · exact .refused rfl nofun
  rename_i checked
  split
  · exact .refused rfl nofun
  rename_i state found
  have named := id_of_findLease found
  subst named
  split
  · exact .refused rfl nofun
  rename_i current
  simp only [not_or, not_not] at current
  obtain ⟨-, rfl⟩ := current
  split
  · exact .refused rfl nofun
  rename_i active
  rw [not_not] at active
  have serves := serves_of_check checked
  split
  · rename_i needed
    have changed : arbiter.suspended ≠ [] → state.mutatedBackend = true := by
      intro nested
      cases mutated : state.mutatedBackend with
      | true => rfl
      | false => simp [nested, mutated] at needed
    obtain ⟨failed, message, result⟩ | ⟨succeeded, result⟩ :=
      publishBackend_cases arbiter call state neutralFrame
    · rw [result]
      refine .refused rfl ?_
      rintro _ ⟨⟩
      exact failed
    · rw [result]
      exact .neutralized state serves found active changed succeeded asked
  · rename_i skipped
    refine .closed state serves found active ?_ asked
    by_cases neutral : state.backendNeutral = true
    · exact .inr (.inr neutral)
    by_cases missed : call.misses state = true
    · exact .inr (.inl missed)
    simp only [neutral, Bool.not_false, Bool.and_true] at skipped
    unfold InputCall.misses at missed
    refine .inl ?_
    simpa [missed] using skipped

theorem initializeWorksetEpoch_step (epoch : WorksetEpoch) :
    ArbiterStep arbiter call (arbiter.initializeWorksetEpoch call epoch) := by
  unfold initializeWorksetEpoch
  split
  · exact .refused rfl nofun
  rename_i checked
  split
  · exact .refused rfl nofun
  rename_i isSet
  split
  · exact .refused rfl nofun
  rename_i current
  refine .initialized (serves_of_check checked) rfl (by simpa using isSet) ?_
  intro fixed
  simpa [fixed] using current

theorem shutdownCleanup_spec (arbiter : InputArbiter) (call : InputCall) :
    ((arbiter.shutdownCleanup call).1.cleanupComplete = true →
      arbiter.Cleans call (arbiter.shutdownCleanup call).2.1) ∧
    ∃ nextPublication, (arbiter.shutdownCleanup call).2.2 = { arbiter with nextPublication } := by
  unfold shutdownCleanup
  split
  · rename_i active isActive
    split
    · exact ⟨nofun, _, rfl⟩
    rename_i state found
    split
    · obtain ⟨failed, message, result⟩ | ⟨succeeded, result⟩ :=
        publishBackend_cases arbiter call state neutralFrame
      · rw [result]
        exact ⟨nofun, _, rfl⟩
      rw [result]
      refine ⟨fun _ => ⟨by simp [isActive], ?_⟩, _, rfl⟩
      intro other isOther
      rw [isActive, Option.some.injEq] at isOther
      subst isOther
      exact ⟨state, found, .inr (.inr ⟨rfl, succeeded⟩)⟩
    · rename_i clean
      refine ⟨fun _ => ⟨by simp [isActive], ?_⟩, _, rfl⟩
      intro other isOther
      rw [isActive, Option.some.injEq] at isOther
      subst isOther
      refine ⟨state, found, ?_⟩
      by_cases neutral : state.backendNeutral = true
      · exact .inr (.inl ⟨neutral, rfl⟩)
      · simp only [neutral, Bool.not_false, Bool.and_true] at clean
        exact .inl ⟨by simpa [InputCall.misses] using clean, rfl⟩
  · rename_i inactive
    split
    · rename_i empty
      refine ⟨fun _ => ⟨fun _ => ⟨List.isEmpty_iff.mp empty, rfl⟩, ?_⟩, _, rfl⟩
      simp [inactive]
    · exact ⟨nofun, _, rfl⟩

theorem shutdown_step (asked : call.operation = .shutdown) :
    ArbiterStep arbiter call (arbiter.shutdown call) := by
  unfold shutdown
  split
  · exact .refused rfl nofun
  rename_i owner
  rw [not_not] at owner
  split
  · rename_i receipt answer
    exact .answered receipt answer
  rename_i unanswered
  obtain ⟨complete, nextPublication, left⟩ := shutdownCleanup_spec arbiter call
  have step := ArbiterStep.shutDown (arbiter.shutdownCleanup call).1
    nextPublication owner unanswered asked complete
  simp only [left]
  exact step

theorem validate_step (relationship : InputExecutionRelationshipId) (epoch : WorksetEpoch) :
    ArbiterStep arbiter call (arbiter.validate call relationship epoch) := by
  unfold validate
  split
  · exact .refused rfl nofun
  · exact .refused rfl nofun

theorem complete_step {epoch : WorksetEpoch}
    (asked : call.operation = .complete relationship epoch) :
    ArbiterStep arbiter call (arbiter.complete call relationship epoch) := by
  unfold complete
  split
  · exact .refused rfl nofun
  rename_i found state binding valid
  obtain ⟨serves, relates, rfl, rfl⟩ := validateRelationship_ok valid
  split
  · rename_i required
    rw [Bool.and_eq_true, Bool.not_eq_true'] at required
    dsimp only
    split
    · exact .unrelated found.id rfl
    rename_i answered
    split
    · exact .unrelated found.id rfl
    rename_i reported
    rw [not_or, not_not] at reported
    exact .observed found state binding _ serves relates required.1 required.2
      (by simpa using answered) reported.1 reported.2 asked
  · rename_i settled
    refine .witnessed found state binding serves relates ?_ asked
    intro required
    simpa [required] using settled

theorem cancel_step (relationship : InputExecutionRelationshipId) (epoch : WorksetEpoch) :
    ArbiterStep arbiter call (arbiter.cancel call relationship epoch) := by
  unfold cancel
  split
  · exact .refused rfl nofun
  split
  · exact .refused rfl nofun
  split
  · exact .refused rfl nofun
  · exact .unrelated relationship rfl

theorem inspect_step (relationship : InputExecutionRelationshipId) (epoch : WorksetEpoch) :
    ArbiterStep arbiter call (arbiter.inspect call relationship epoch) := by
  unfold inspect
  split
  · exact .refused rfl nofun
  · exact .refused rfl nofun

theorem perform_step (arbiter : InputArbiter) (call : InputCall) :
    ArbiterStep arbiter call (arbiter.perform call) := by
  unfold perform
  split
  all_goals rename_i asked
  · exact acquire_step (by rw [asked]; rfl)
  · exact borrow_step (by rw [asked]; rfl)
  · exact applyState_step asked
  · exact beginDelivery_step asked
  · exact completeDelivery_step asked
  · exact replaceDelivery_step asked
  · exact .refused rfl nofun
  · exact createExecutionRelationship_step asked
  · exact removeExecutionRelationship_step _
  · exact closeLease_step asked
  · exact initializeWorksetEpoch_step _
  · exact shutdown_step asked
  · exact validate_step _ _
  · exact complete_step asked
  · exact cancel_step _ _
  · exact inspect_step _ _

end InputArbiter

end Savor.Input

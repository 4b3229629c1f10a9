import Savor.Input.InputBindings

/-!
# Where the state of the arbiter comes from

What a call leaves behind was there before, or was made by the call, which then
says so in its reply.
-/

namespace Savor.Input

open Library Program

/-- The event grants a binding. -/
def InputEvent.Grants (event : InputEvent) (receipt : InputExecutionBindingReceipt) : Prop :=
  event.reply = .binding receipt ∧ receipt.ok = true

/-- The event says that a frame was published under the epoch. -/
def InputEvent.PublishedUnder (event : InputEvent) (epoch : UInt64) : Prop :=
  ∃ publication, event.publication = some publication ∧
    publication.succeeded = true ∧ publication.answer.publicationEpoch = epoch

/-- The poll reports that the guest observed a publication. -/
structure BackendInputPoll.Reports (poll : BackendInputPoll) (epoch : UInt64) : Prop where
  ok : poll.result.ok = true
  publication : poll.publicationEpoch = epoch
  callbacks : poll.callbackCount ≠ 0

/-- The call creates a relationship with the evidence. -/
structure Creates (call : InputCall) (event : InputEvent) (evidence : InputExecutionBindingEvidence)
    (relationship : InputExecutionRelationshipId) : Prop where
  asked : call.operation = .createExecutionRelationship evidence
  succeeded : ∃ receipt, event.reply = .relationship receipt ∧
    receipt.ok = true ∧ receipt.relationship = relationship

/-- The evidence is what the relationship was created with. -/
structure Attests (evidence : InputExecutionBindingEvidence) (relationship : RelationshipState) :
    Prop where
  binding : evidence.binding = relationship.binding
  lease : evidence.lease = relationship.lease
  epoch : evidence.epoch = relationship.epoch
  generation : evidence.stateGeneration = relationship.stateGeneration

/-- The call completes a relationship, after a poll that reported the
publication. -/
structure Completes (call : InputCall) (event : InputEvent)
    (relationship : InputExecutionRelationshipId) (publication : UInt64) : Prop where
  asked : ∃ epoch, call.operation = .complete relationship epoch
  succeeded : event.reply = InputArbiter.relationshipReply none
  poll : ∃ poll, event.poll = some poll ∧ poll.Reports publication

namespace InputArbiter

variable {arbiter after : InputArbiter} {call : InputCall} {event : InputEvent}

/-- The binding is new: the reply of the call grants it, and says under which
epoch it was published. -/
structure Fresh (arbiter after : InputArbiter) (event : InputEvent) (binding : BindingState) :
    Prop where
  id : binding.id.value = arbiter.nextBinding
  next : after.nextBinding = arbiter.nextBinding + 1
  delivery : ∀ id, binding.delivery = some id →
    id.value = arbiter.nextDelivery ∧ after.nextDelivery = arbiter.nextDelivery + 1
  observed : binding.observed = !binding.requiresObservation
  granted : ∃ receipt, event.Grants receipt ∧ receipt.binding = binding.id ∧
    receipt.lease = binding.lease ∧ receipt.epoch = binding.epoch ∧
    receipt.stateGeneration = binding.stateGeneration ∧ receipt.kind = binding.kind
  published : binding.requiresObservation = true →
    event.PublishedUnder binding.backendPublicationEpoch

/-- The binding was there and is observed now: the call completed a relationship
that names it. -/
structure Seen (arbiter : InputArbiter) (call : InputCall) (event : InputEvent)
    (old binding : BindingState) : Prop where
  member : old ∈ arbiter.bindings
  observes : Observes old binding
  kind : binding.kind = old.kind
  required : binding.requiresObservation = old.requiresObservation
  epoch : binding.backendPublicationEpoch = old.backendPublicationEpoch
  relationship : ∃ relationship ∈ arbiter.relationships,
    Names relationship old ∧ Completes call event relationship.id old.backendPublicationEpoch

/-- Where a binding comes from. -/
inductive BindingOrigin (arbiter after : InputArbiter) (call : InputCall)
    (event : InputEvent) (binding : BindingState) : Prop
  | kept (member : binding ∈ arbiter.bindings)
  | seen (old : BindingState) (seen : arbiter.Seen call event old binding)
  | fresh (fresh : arbiter.Fresh after event binding)

variable {kind : InputBindingKind} {state : LeaseState}
variable {delivery : Option InputDeliveryId} {rest : List LeaseState}

theorem BindingOrigin.of_bindCurrentState {frame : GCInputFrame}
    {publication : Option PublishedState} (bindings : after.bindings =
      arbiter.freshBinding state frame kind publication delivery ::
        arbiter.bindings.filter (·.lease ≠ state.id)) (fresh : arbiter.Fresh after event
      (arbiter.freshBinding state frame kind publication delivery)) :
    ∀ binding ∈ after.bindings, arbiter.BindingOrigin after call event binding := by
  intro binding member
  rw [bindings] at member
  rcases List.mem_cons.mp member with rfl | old
  · exact .fresh fresh
  · exact .kept (List.mem_filter.mp old).1

variable {publication : Publication} {inputState : InputState}

theorem fresh_published (succeeded : publication.succeeded = true)
    (published : event.publication = some publication)
    (reply : event.reply = .binding (arbiter.published state publication
      inputState kind delivery).1) (nextBinding : after.nextBinding = arbiter.nextBinding + 1)
    (counted : ∀ id, delivery = some id → id.value = arbiter.nextDelivery ∧
      after.nextDelivery = arbiter.nextDelivery + 1) :
    arbiter.Fresh after event
      (arbiter.freshBinding (state.published publication.frame inputState) publication.frame kind
        (some ⟨⟨arbiter.nextPublication⟩, publication.answer.publicationEpoch⟩) delivery) where
  id := rfl
  next := nextBinding
  delivery := counted
  observed := rfl
  granted := ⟨_, ⟨reply, rfl⟩, rfl, rfl, rfl, rfl, rfl⟩
  published := fun _ => ⟨publication, published, succeeded, rfl⟩

theorem finishClose_bindings (stacked : arbiter.Stacked) (listed : arbiter.leases = state :: rest) :
    (arbiter.finishClose state).2.bindings ⊆ arbiter.bindings ∧
      (arbiter.finishClose state).2.relationships ⊆ arbiter.relationships := by
  cases rest with
  | nil =>
    rw [stacked.finishClose_last listed rfl]
    exact ⟨List.filter_subset_self _, List.filter_subset_self _⟩
  | cons parent below =>
    rw [(stacked.finishClose_parent listed rfl).2]
    exact ⟨List.filter_subset_self _, List.filter_subset_self _⟩

variable {relationship : RelationshipState} {binding : BindingState}

theorem Bound.names_of_relates (bound : arbiter.Bound) (member : binding ∈ arbiter.bindings)
    (relates : arbiter.Relates relationship state binding) : Names relationship binding := by
  obtain ⟨other, otherMember, names⟩ := bound.related relationship
    (List.mem_of_find?_eq_some relates.related)
  have same : other = binding :=
    List.inj_on_of_nodup_map bound.distinct otherMember member
      (names.named.symm.trans relates.names)
  exact same ▸ names

theorem seen_of_completes {poll : BackendInputPoll} (bound : arbiter.Bound)
    (member : binding ∈ arbiter.bindings) (relates : arbiter.Relates relationship state binding)
    (asked : call.operation = .complete relationship.id relationship.epoch)
    (reports : poll.Reports binding.backendPublicationEpoch) :
    arbiter.Seen call { reply := relationshipReply none, poll := some poll }
      binding (arbiter.seen binding poll) where
  member := member
  observes := ⟨rfl, rfl, rfl, rfl, rfl⟩
  kind := rfl
  required := rfl
  epoch := rfl
  relationship := ⟨relationship, List.mem_of_find?_eq_some relates.related,
    bound.names_of_relates member relates, ⟨⟨_, asked⟩, rfl, poll, rfl, reports⟩⟩

/-- Every binding was there, is observed now, or is new. -/
theorem bindings_origin (stacked : arbiter.Stacked) (bound : arbiter.Bound)
    (step : ArbiterStep arbiter call (event, after)) : ∀ binding ∈ after.bindings,
      arbiter.BindingOrigin after call event binding := by
  cases step with
  | refused | answered | initialized | granted | suspended | repeated
  | related | unrelated => exact fun _ member => .kept member
  | bound state serves holds neutral asked =>
    apply BindingOrigin.of_bindCurrentState rfl
    exact ⟨rfl, rfl, nofun, rfl, ⟨_, ⟨rfl, rfl⟩, rfl, rfl, rfl, rfl, rfl⟩, nofun⟩
  | applied state publication serves holds ready succeeded =>
    apply BindingOrigin.of_bindCurrentState rfl
    exact fresh_published succeeded rfl rfl rfl nofun
  | began state publication serves holds neutral succeeded =>
    apply BindingOrigin.of_bindCurrentState rfl
    apply fresh_published succeeded rfl rfl rfl
    rintro _ ⟨⟩
    exact ⟨rfl, rfl⟩
  | replaced state delivery publication epoch serves delivers observed
      succeeded =>
      apply BindingOrigin.of_bindCurrentState rfl
      apply fresh_published succeeded rfl rfl rfl
      rintro _ ⟨⟩
      exact ⟨rfl, rfl⟩
  | completed => exact fun _ member => .kept (List.mem_filter.mp member).1
  | witnessed relationship state binding =>
    rw [retire_eq]
    exact fun _ member => .kept member
  | observed relationship state binding poll serves relates required
      unobserved answered reported seen asked =>
      obtain ⟨rest, listed⟩ := stacked.holds relates.holds
      obtain ⟨member, isMatch⟩ := bound.matching stacked listed relates.current relates.bound
      rw [retire_eq]
      intro changed changedMember
      obtain ⟨other, otherMember, rfl⟩ := List.mem_map.mp changedMember
      by_cases same : other.id = (arbiter.seen binding poll).id
      · rw [if_pos same]
        exact .seen binding (seen_of_completes bound member relates asked
          ⟨answered, reported, seen⟩)
      · rw [if_neg same]
        exact .kept otherMember
  | closed state serves found active =>
    obtain ⟨rest, listed⟩ := stacked.top active found
    intro binding member
    exact .kept ((finishClose_bindings stacked listed).1 member)
  | neutralized state serves found active =>
    obtain ⟨rest, listed⟩ := stacked.top active found
    obtain ⟨leases, neutralized⟩ := stacked.neutralize listed
    intro binding member
    exact .kept ((finishClose_bindings neutralized leases).1 member)
  | shutDown => simp [clearRetainedState]

/-- The relationship is new: the call created it. -/
structure Created (arbiter after : InputArbiter) (call : InputCall)
    (event : InputEvent) (relationship : RelationshipState) : Prop where
  id : relationship.id.value = arbiter.nextRelationship
  next : after.nextRelationship = arbiter.nextRelationship + 1
  created : ∃ evidence, Creates call event evidence relationship.id ∧ Attests evidence relationship

theorem relationships_origin (stacked : arbiter.Stacked)
    (step : ArbiterStep arbiter call (event, after)) : ∀ relationship ∈ after.relationships,
      relationship ∈ arbiter.relationships ∨ arbiter.Created after call event relationship := by
  cases step with
  | refused | answered | initialized | granted | suspended | repeated =>
    exact fun _ member => .inl member
  | bound | applied | began | replaced | completed | unrelated =>
    exact fun _ member => .inl (List.mem_filter.mp member).1
  | related evidence state binding serves evidences asked =>
    intro relationship member
    rcases List.mem_cons.mp member with rfl | old
    · exact .inr ⟨rfl, rfl, evidence, ⟨asked, _, rfl, rfl, rfl⟩, ⟨rfl, rfl, rfl, rfl⟩⟩
    · exact .inl old
  | witnessed | observed =>
    rw [retire_eq]
    exact fun _ member => .inl (List.mem_filter.mp member).1
  | closed state serves found active =>
    obtain ⟨rest, listed⟩ := stacked.top active found
    intro relationship member
    exact .inl ((finishClose_bindings stacked listed).2 member)
  | neutralized state serves found active =>
    obtain ⟨rest, listed⟩ := stacked.top active found
    obtain ⟨leases, neutralized⟩ := stacked.neutralize listed
    intro relationship member
    exact .inl ((finishClose_bindings neutralized leases).2 member)
  | shutDown => simp [clearRetainedState]

/-- What became of a lease. -/
inductive Became (arbiter : InputArbiter) (call : InputCall)
    (event : InputEvent) (old lease : LeaseState) : Prop
  /-- The lease is in the state that it was in. -/
  | same
      (state : lease.inputState = old.inputState)
      (binding : lease.currentBinding = old.currentBinding)
  /-- The lease was neutral, and still is. -/
  | neutral
      (before : old.inputState = .neutral)
      (state : lease.inputState = .neutral)
  /-- A state is held. -/
  | held (state : lease.inputState = .held)
  /-- A neutral transition was published. -/
  | pending (receipt : InputExecutionBindingReceipt)
      (state : lease.inputState = .neutralTransitionPending)
      (granted : event.Grants receipt)
      (owner : receipt.lease = old.id)
      (kind : receipt.kind = .neutralTransition)
      (binding : lease.currentBinding = some receipt.binding)
      (published : ∃ epoch, event.PublishedUnder epoch)
  /-- A delivery began. -/
  | delivering
      (before : old.inputState = .neutral ∨ old.inputState = .deliveryPending)
      (state : lease.inputState = .deliveryPending)
  /-- A delivery is over. -/
  | delivered
      (before : old.inputState = .deliveryPending)
      (state : lease.inputState = .neutral)
  /-- A neutral transition was observed. -/
  | observed (binding : BindingState) (seen : BindingState)
      (before : old.inputState = .neutralTransitionPending)
      (state : lease.inputState = .neutral)
      (current : old.currentBinding = some binding.id)
      (required : binding.requiresObservation = true)
      (isSeen : arbiter.Seen call event binding seen)
  /-- The lease was resumed, and starts over. -/
  | resumed (receipt : InputLeaseCloseReceipt)
      (reply : event.reply = .close receipt)
      (names : receipt.resumedLease = some old.id)
      (message : receipt.message = resumedMessage)
      (state : lease.inputState = .neutral)

/-- What a lease of the stack was before. -/
def Evolves (arbiter : InputArbiter) (call : InputCall) (event : InputEvent) (lease : LeaseState) :
    Prop :=
  ∃ old ∈ arbiter.leases, old.id = lease.id ∧ arbiter.Became call event old lease

/-- A lease that is left alone. -/
theorem evolves_of_mem {lease : LeaseState} (member : lease ∈ arbiter.leases) :
    arbiter.Evolves call event lease :=
  ⟨lease, member, rfl, .same rfl rfl⟩

/-- Only the top of the stack changes. -/
theorem evolves_of_top {top : LeaseState} (listed : arbiter.leases = top :: rest)
    (leases : after.leases = state :: rest) (same : top.id = state.id)
    (became : arbiter.Became call event top state) :
    ∀ lease ∈ after.leases, arbiter.Evolves call event lease := by
  rw [leases]
  intro lease member
  rcases List.mem_cons.mp member with rfl | below
  · exact ⟨top, listed ▸ List.mem_cons_self, same, became⟩
  · exact evolves_of_mem (listed ▸ List.mem_cons_of_mem _ below)

theorem evolves_of_finishClose {closing : InputArbiter}
    (stacked : closing.Stacked) (listed : closing.leases = state :: rest)
    (below : ∀ lease ∈ rest, lease ∈ arbiter.leases)
    (reply : ∃ receipt, event.reply = .close receipt ∧
      receipt.resumedLease = (closing.finishClose state).1.resumedLease ∧
      receipt.message = (closing.finishClose state).1.message) :
    ∀ lease ∈ (closing.finishClose state).2.leases, arbiter.Evolves call event lease := by
  cases rest with
  | nil =>
    rw [stacked.finishClose_last listed rfl]
    simp
  | cons parent deeper =>
    obtain ⟨⟨resumes, told⟩, result⟩ := stacked.finishClose_parent listed rfl
    obtain ⟨receipt, isReply, resumedLease, message⟩ := reply
    rw [result]
    intro lease member
    rcases List.mem_cons.mp member with rfl | deep
    · refine ⟨parent, below parent List.mem_cons_self, ?_, ?_⟩
      · unfold resumedParent
        split <;> rfl
      cases mutated : state.mutatedBackend with
      | false =>
        apply Became.same
        · simp [resumedParent, mutated]
        · simp [resumedParent, mutated]
      | true =>
        exact .resumed receipt isReply (resumedLease.trans resumes)
          (message.trans (told mutated)) (by simp [resumedParent, mutated])
    · exact evolves_of_mem (below lease (List.mem_cons_of_mem _ deep))

theorem became_published (succeeded : publication.succeeded = true)
    (published : event.publication = some publication)
    (reply : event.reply = .binding (arbiter.published state publication
      inputState kind delivery).1) (states : inputState = .held ∨
      (kind = .neutralTransition ∧ inputState = .neutralTransitionPending)) :
    arbiter.Became call event state
      (arbiter.boundLease (state.published publication.frame inputState)) := by
  obtain rfl | ⟨rfl, rfl⟩ := states
  · exact .held rfl
  · exact .pending _ rfl ⟨reply, rfl⟩ rfl rfl rfl ⟨_, publication, published, succeeded, rfl⟩

/-- Every lease is new or was there before. -/
theorem leases_origin (stacked : arbiter.Stacked) (bound : arbiter.Bound)
    (step : ArbiterStep arbiter call (event, after)) :
    ∀ lease ∈ after.leases, lease.id.value = arbiter.nextLease ∨
      arbiter.Evolves call event lease := by
  cases step with
  | refused | answered | initialized | repeated | related | unrelated =>
    exact fun _ member => .inr (evolves_of_mem member)
  | granted =>
    intro lease member
    rcases List.mem_cons.mp member with rfl | old
    · exact .inl rfl
    · exact .inr (evolves_of_mem old)
  | @suspended epoch request holder serves isSet first active found =>
    obtain ⟨rest, listed⟩ := stacked.top active found
    have leases : ((arbiter.withEpoch epoch).suspend holder).leases =
        { holder with status := .suspended } :: rest :=
      setLease_leases listed (stacked.below listed) rfl
    intro lease member
    rcases List.mem_cons.mp member with rfl | old
    · exact .inl rfl
    · exact .inr (evolves_of_top listed leases rfl (.same rfl rfl) lease old)
  | bound state serves holds neutral =>
    obtain ⟨rest, listed⟩ := stacked.holds holds
    intro lease member
    exact .inr (evolves_of_top listed (stacked.bound_leases listed rfl _ _ _ _)
      rfl (.neutral neutral neutral) lease member)
  | applied state publication serves holds ready succeeded =>
    obtain ⟨rest, listed⟩ := stacked.holds holds
    intro lease member
    refine .inr (evolves_of_top listed
      (stacked.published_leases listed publication _ _ _) rfl ?_ lease member)
    apply became_published succeeded rfl rfl
    cases publication.frame.isNeutral
    · exact .inl rfl
    · exact .inr ⟨rfl, rfl⟩
  | began state publication serves holds neutral =>
    obtain ⟨rest, listed⟩ := stacked.holds holds
    intro lease member
    exact .inr (evolves_of_top listed (stacked.delivered_leases listed publication) rfl
      (.delivering (.inl neutral) rfl) lease member)
  | replaced state delivery publication epoch serves delivers =>
    obtain ⟨rest, listed⟩ := stacked.holds delivers.holds
    intro lease member
    exact .inr (evolves_of_top listed (stacked.delivered_leases listed publication) rfl
      (.delivering (.inr delivers.pending) rfl) lease member)
  | completed state delivery epoch nextPublication mutated serves delivers =>
    obtain ⟨rest, listed⟩ := stacked.holds delivers.holds
    intro lease member
    exact .inr (evolves_of_top listed (stacked.settled_leases listed nextPublication mutated) rfl
      (.delivered delivers.pending rfl) lease member)
  | witnessed relationship state binding serves relates settled =>
    obtain ⟨rest, listed⟩ := stacked.holds relates.holds
    obtain ⟨member, isMatch⟩ := bound.matching stacked listed relates.current relates.bound
    intro lease leaseMember
    refine .inr (evolves_of_top listed (retire_leases _ _ listed (stacked.below listed))
      (retired_fields state binding).1.symm ?_ lease leaseMember)
    by_cases transition : binding.kind = .neutralTransition
    · have seen := settled (isMatch.required (by simp [transition]))
      have before : state.inputState = .neutral := by
        rw [isMatch.state]
        simp [BindingState.inputState, transition, seen]
      apply Became.neutral before
      simp [retired, transition]
    apply Became.same
    · simp [retired, transition]
    · simp [retired, transition]
  | observed relationship state binding poll serves relates required
      unobserved answered reported seen asked =>
      obtain ⟨rest, listed⟩ := stacked.holds relates.holds
      obtain ⟨member, isMatch⟩ := bound.matching stacked listed relates.current relates.bound
      have isSeen := seen_of_completes bound member relates asked ⟨answered, reported, seen⟩
      have leases : (arbiter.observe binding poll).leases = state :: rest := listed
      intro lease leaseMember
      refine .inr (evolves_of_top listed (retire_leases _ _ leases (stacked.below listed))
        (retired_fields state _).1.symm ?_ lease leaseMember)
      by_cases transition : binding.kind = .neutralTransition
      · have before : state.inputState = .neutralTransitionPending := by
          rw [isMatch.state]
          simp [BindingState.inputState, transition, unobserved]
        refine .observed binding _ before ?_ relates.current required isSeen
        simp [retired, InputArbiter.seen, transition]
      apply Became.same
      · simp [retired, InputArbiter.seen, transition]
      · simp [retired, InputArbiter.seen, transition]
  | closed state serves found active =>
    obtain ⟨rest, listed⟩ := stacked.top active found
    intro lease member
    refine .inr (evolves_of_finishClose stacked listed ?_ ⟨_, rfl, rfl, rfl⟩ lease member)
    intro other below
    exact listed ▸ List.mem_cons_of_mem _ below
  | neutralized state serves found active =>
    obtain ⟨rest, listed⟩ := stacked.top active found
    obtain ⟨leases, neutralized⟩ := stacked.neutralize listed
    intro lease member
    have reply : ∃ receipt, InputReply.close
        { (arbiter.neutralizedClose state).1 with
          neutralPublication := ⟨arbiter.nextPublication⟩ } = .close receipt ∧
        receipt.resumedLease = (arbiter.neutralizedClose state).1.resumedLease ∧
        receipt.message = (arbiter.neutralizedClose state).1.message :=
      ⟨_, rfl, rfl, rfl⟩
    refine .inr (evolves_of_finishClose neutralized leases ?_ reply lease member)
    intro other below
    exact listed ▸ List.mem_cons_of_mem _ below
  | shutDown => simp [clearRetainedState]

end InputArbiter

/-!
## What the arbiter knows is what happened

The bindings and relationships of the arbiter are those that earlier calls made,
and a binding is observed only when the guest observed it.
-/

/-- A call before granted the binding, as the arbiter has it. -/
def IssuedIn (history : List InputTransition) (binding : BindingState) : Prop :=
  ∃ issue ∈ history, ∃ receipt, issue.event.Grants receipt ∧
    receipt.binding = binding.id ∧ receipt.lease = binding.lease ∧
    receipt.epoch = binding.epoch ∧
    receipt.stateGeneration = binding.stateGeneration ∧
    receipt.kind = binding.kind ∧
    (binding.requiresObservation = true →
      issue.event.PublishedUnder binding.backendPublicationEpoch)

/-- A call before created the relationship, with evidence for its binding. -/
def CreatedIn (history : List InputTransition) (relationship : InputExecutionRelationshipId)
    (evidence : InputExecutionBindingEvidence) : Prop :=
  ∃ creation ∈ history, Creates creation.input creation.event evidence relationship

/-- The call completes a relationship that was created for the binding, after a
poll that reported the publication of the binding. -/
def Observing (earlier : List InputTransition) (transition : InputTransition)
    (binding : InputExecutionBindingId) : Prop :=
  ∃ publication relationship evidence,
    (∃ issue ∈ earlier, ∃ receipt, issue.event.Grants receipt ∧
      receipt.binding = binding ∧ issue.event.PublishedUnder publication) ∧
    CreatedIn earlier relationship evidence ∧ evidence.binding = binding ∧
    Completes transition.input transition.event relationship publication

/-- The guest observed the binding. -/
def ObservedIn (history : List InputTransition) (binding : InputExecutionBindingId) : Prop :=
  ∃ earlier transition later, history = earlier ++ transition :: later ∧
    Observing earlier transition binding

/-- The delivery that a call completes. -/
def completedDelivery (transition : InputTransition) : Option InputDeliveryId :=
  match transition.event.reply with
  | .delivery receipt => if receipt.ok then some receipt.delivery else none
  | _ => none

/-- The binding of the delivery that a call completes or replaces. -/
def consumedBinding (transition : InputTransition) : Option InputExecutionBindingId :=
  match transition.input.operation, transition.event.reply with
  | .completeDelivery _ binding _, .delivery receipt => if receipt.ok then some binding else none
  | .replaceDelivery _ binding _ _, .binding receipt => if receipt.ok then some binding else none
  | _, _ => none

/-- The binding that a call published and granted. -/
def issuedBinding (transition : InputTransition) : Option InputExecutionBindingId :=
  match transition.event.reply, transition.event.publication with
  | .binding receipt, some _ => if receipt.ok then some receipt.binding else none
  | _, _ => none

/-- The relationship that a call created. -/
def createdRelationship (transition : InputTransition) : Option InputExecutionRelationshipId :=
  match transition.event.reply with
  | .relationship receipt => if receipt.ok then some receipt.relationship else none
  | _ => none

variable {history : List InputTransition} {transition : InputTransition}

theorem IssuedIn.snoc {binding : BindingState} (issued : IssuedIn history binding) :
    IssuedIn (history ++ [transition]) binding := by
  obtain ⟨issue, member, granted⟩ := issued
  exact ⟨issue, List.mem_append_left _ member, granted⟩

theorem CreatedIn.snoc {relationship : InputExecutionRelationshipId}
    {evidence : InputExecutionBindingEvidence} (created : CreatedIn history relationship evidence) :
    CreatedIn (history ++ [transition]) relationship evidence := by
  obtain ⟨creation, member, creates⟩ := created
  exact ⟨creation, List.mem_append_left _ member, creates⟩

theorem ObservedIn.snoc {binding : InputExecutionBindingId}
    (observed : ObservedIn history binding) : ObservedIn (history ++ [transition]) binding := by
  obtain ⟨earlier, completion, later, rfl, observing⟩ := observed
  exact ⟨earlier, completion, later ++ [transition], by simp, observing⟩

/-- What the arbiter knows is what happened. -/
structure Recorded (history : List InputTransition) (arbiter : InputArbiter) : Prop where
  stacked : arbiter.Stacked
  bound : arbiter.Bound
  issued : ∀ binding ∈ arbiter.bindings, IssuedIn history binding
  created : ∀ relationship ∈ arbiter.relationships, ∃ evidence,
    CreatedIn history relationship.id evidence ∧ Attests evidence relationship
  observed : ∀ binding ∈ arbiter.bindings, binding.requiresObservation = true →
    binding.observed = true → ObservedIn history binding.id

theorem recorded_new (ownerThread : ThreadId) : Recorded [] (InputArbiter.new ownerThread) where
  stacked := InputArbiter.stacked_new ownerThread
  bound := InputArbiter.bound_new ownerThread
  issued := by simp [InputArbiter.new]
  created := by simp [InputArbiter.new]
  observed := by simp [InputArbiter.new]

section Steps

variable {arbiter after : InputArbiter} {call : InputCall} {event : InputEvent}

/-- What is known of an observed binding is what the completed relationship
showed. -/
theorem Recorded.observing {old binding : BindingState} (recorded : Recorded history arbiter)
    (seen : arbiter.Seen call event old binding) (required : old.requiresObservation = true) :
    Observing history ⟨arbiter, call, event, after⟩ old.id := by
  obtain ⟨relationship, member, names, completes⟩ := seen.relationship
  obtain ⟨issue, issueMember, receipt, granted, named, -, -, -, -, published⟩ :=
    recorded.issued old seen.member
  obtain ⟨evidence, created, attests⟩ := recorded.created relationship member
  exact ⟨_, relationship.id, evidence,
    ⟨issue, issueMember, receipt, granted, named, published required⟩, created,
    attests.binding.trans names.named, completes⟩

theorem Recorded.step (recorded : Recorded history arbiter)
    (step : InputArbiter.ArbiterStep arbiter call (event, after)) :
    Recorded (history ++ [⟨arbiter, call, event, after⟩]) after where
  stacked := recorded.stacked.step step
  bound := recorded.bound.step recorded.stacked step
  issued := by
    intro binding member
    cases InputArbiter.bindings_origin recorded.stacked recorded.bound step binding member with
    | kept old => exact (recorded.issued binding old).snoc
    | seen old seen =>
      obtain ⟨issue, issueMember, receipt, granted, named, owner, epoch,
        generation, kind, published⟩ := recorded.issued old seen.member
      refine ⟨issue, List.mem_append_left _ issueMember, receipt, granted,
        named.trans seen.observes.id.symm, owner.trans seen.observes.lease.symm,
        epoch.trans seen.observes.epoch.symm, generation.trans seen.observes.generation.symm,
        kind.trans seen.kind.symm, ?_⟩
      rw [seen.required, seen.epoch]
      exact published
    | fresh fresh =>
      obtain ⟨receipt, granted, named, owner, epoch, generation, kind⟩ := fresh.granted
      exact ⟨_, List.mem_append_right _ (List.mem_singleton.mpr rfl), receipt,
        granted, named, owner, epoch, generation, kind, fresh.published⟩
  created := by
    intro relationship member
    obtain old | created :=
      InputArbiter.relationships_origin recorded.stacked step relationship member
    · obtain ⟨evidence, earlier, attests⟩ := recorded.created relationship old
      exact ⟨evidence, earlier.snoc, attests⟩
    obtain ⟨evidence, creates, attests⟩ := created.created
    exact ⟨evidence, ⟨_, List.mem_append_right _ (List.mem_singleton.mpr rfl), creates⟩, attests⟩
  observed := by
    intro binding member required observed
    cases InputArbiter.bindings_origin recorded.stacked recorded.bound step binding member with
    | kept old => exact (recorded.observed binding old required observed).snoc
    | seen old seen =>
      refine ⟨history, _, [], rfl, ?_⟩
      rw [seen.observes.id]
      exact recorded.observing seen (seen.required ▸ required)
    | fresh fresh =>
      rw [fresh.observed, required] at observed
      cases observed

end Steps
end Savor.Input


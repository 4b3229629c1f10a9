import Savor.Input.InputOrigins

/-!
# Deliveries are used up

A delivery that completes or is replaced is the current state of the active
lease, was observed by the guest, and is gone afterwards.
-/

namespace Savor.Input

open Library Program
open InputArbiter

namespace InputArbiter

variable {arbiter after : InputArbiter} {call : InputCall} {event : InputEvent}

/-- The binding is the current one of the active lease, in the current epoch and
the generation of the lease. -/
structure Current (arbiter : InputArbiter) (lease : InputLeaseId)
    (binding : InputExecutionBindingId) (epoch : WorksetEpoch) (stateGeneration : Nat) : Prop where
  active : arbiter.active = some lease
  current : arbiter.isCurrent epoch = true
  state : ∃ state, arbiter.findLease lease = some state ∧
    state.status = .active ∧ state.epoch = epoch ∧ state.stateGeneration = stateGeneration ∧
    state.currentBinding = some binding

theorem current_of_matches {state : LeaseState} {rest : List LeaseState}
    {binding : BindingState} (stacked : arbiter.Stacked)
    (listed : arbiter.leases = state :: rest) (holds : arbiter.Holds state)
    (isMatch : Matches state binding) : arbiter.Current binding.lease binding.id binding.epoch
      binding.stateGeneration where
  active := by
    rw [isMatch.owner]
    exact holds.active
  current := by
    have same : state.epoch = arbiter.epoch := by
      apply stacked.epochs
      rw [listed]
      exact List.mem_cons_self
    have isSet : arbiter.epoch.isSet = true := stacked.started (listed ▸ List.cons_ne_nil _ _)
    rw [isMatch.epoch, same, isCurrent, isSet]
    simp
  state := by
    rw [isMatch.owner]
    exact ⟨state, holds.found, holds.status, isMatch.epoch.symm,
      isMatch.generation.symm, isMatch.current⟩

/-- A delivery is used up: it was observed, and is gone. -/
structure Consumes (arbiter after : InputArbiter) (delivery : BindingState) : Prop where
  member : delivery ∈ arbiter.bindings
  required : delivery.requiresObservation = true
  observed : delivery.observed = true
  current : arbiter.Current delivery.lease delivery.id delivery.epoch delivery.stateGeneration
  gone : ∀ binding ∈ after.bindings, binding.id ≠ delivery.id ∧
    ∀ id, delivery.delivery = some id → binding.delivery ≠ some id

/-- What the delivery of the active lease gives way to is different from it. -/
theorem consumes_of_delivers {state : LeaseState} {delivery : BindingState}
    (fresh : Option BindingState) (stacked : arbiter.Stacked)
    (bound : arbiter.Bound) (delivers : arbiter.Delivers state delivery)
    (observed : delivery.observed = true) (bindings : after.bindings =
      fresh.toList ++ arbiter.bindings.filter (·.lease ≠ state.id))
    (counted : ∀ binding ∈ fresh, arbiter.nextBinding ≤ binding.id.value ∧
      ∀ id, binding.delivery = some id → arbiter.nextDelivery ≤ id.value) :
    arbiter.Consumes after delivery := by
  obtain ⟨rest, listed⟩ := stacked.holds delivers.holds
  obtain ⟨member, isMatch⟩ := bound.matching stacked listed delivers.current delivers.found
  refine ⟨member, isMatch.required (by simp [delivers.kind]), observed,
    current_of_matches stacked listed delivers.holds isMatch, ?_⟩
  rw [bindings]
  intro binding bindingMember
  rcases List.mem_append.mp bindingMember with new | old
  · obtain ⟨id, deliveries⟩ := counted binding (Option.mem_toList.mp new)
    constructor
    · intro same
      have below := bound.counted delivery member
      rw [same] at id
      omega
    intro other isDelivery same
    have below := bound.deliveries delivery member other isDelivery
    have above := deliveries other same
    omega
  · simp only [List.mem_filter, decide_eq_true_eq] at old
    constructor
    · intro same
      have equal : binding = delivery := List.inj_on_of_nodup_map bound.distinct old.1 member same
      rw [equal] at old
      exact old.2 delivers.lease
    intro other isDelivery same
    have equal := bound.delivery_unique old.1 member same isDelivery
    rw [equal] at old
    exact old.2 delivers.lease

end InputArbiter

section Steps

variable {arbiter after : InputArbiter} {call : InputCall} {event : InputEvent}
variable {transition : InputTransition}

theorem grants_of_completed {id : InputDeliveryId}
    (completed : completedDelivery transition = some id) :
    ∃ receipt, transition.event.reply = .delivery receipt ∧
      receipt.ok = true ∧ receipt.delivery = id := by
  unfold completedDelivery at completed
  split at completed
  · rename_i receipt reply
    split at completed
    · rename_i ok
      exact ⟨receipt, reply, ok, Option.some.inj completed⟩
    · cases completed
  · cases completed

theorem grants_of_consumed {binding : InputExecutionBindingId}
    (consumed : consumedBinding transition = some binding) : (∃ lease epoch receipt,
      transition.input.operation = .completeDelivery lease binding epoch ∧
        transition.event.reply = .delivery receipt ∧ receipt.ok = true) ∨
    ∃ lease frame epoch receipt, transition.input.operation =
        .replaceDelivery lease binding frame epoch ∧
        transition.event.reply = .binding receipt ∧ receipt.ok = true := by
  unfold consumedBinding at consumed
  split at consumed
  · rename_i lease other epoch receipt operation reply
    split at consumed
    · rename_i ok
      rw [Option.some.injEq] at consumed
      subst consumed
      exact .inl ⟨lease, epoch, receipt, operation, reply, ok⟩
    · cases consumed
  · rename_i lease other frame epoch receipt operation reply
    split at consumed
    · rename_i ok
      rw [Option.some.injEq] at consumed
      subst consumed
      exact .inr ⟨lease, frame, epoch, receipt, operation, reply, ok⟩
    · cases consumed
  · cases consumed

section

variable (stacked : arbiter.Stacked) (bound : arbiter.Bound)
variable (step : InputArbiter.ArbiterStep arbiter call (event, after))
include stacked bound step

theorem consumes_of_delivery {receipt : InputDeliveryReceipt}
    (reply : event.reply = .delivery receipt) (ok : receipt.ok = true) :
    ∃ delivery, arbiter.Consumes after delivery ∧ delivery.delivery = some receipt.delivery ∧
      ∃ lease epoch, call.operation = .completeDelivery lease delivery.id epoch := by
  have granted : event.reply.grants = true := by rw [reply, InputReply.grants, ok]
  cases step with
  | refused quiet | initialized _ quiet | unrelated _ quiet => simp [quiet] at granted
  | completed state delivery epoch nextPublication mutated serves delivers
      observed receiptDelivery receiptBinding neutralizes asked =>
      cases reply
      refine ⟨delivery, ?_, receiptDelivery, _, _, asked⟩
      exact consumes_of_delivers none stacked bound delivers observed rfl nofun
  | _ => cases reply

variable {binding : InputExecutionBindingId}

theorem consumes_of_replaceDelivery {receipt : InputExecutionBindingReceipt}
    {lease : InputLeaseId} {frame : GCInputFrame} {epoch : WorksetEpoch}
    (operation : call.operation = .replaceDelivery lease binding frame epoch)
    (reply : event.reply = .binding receipt) (ok : receipt.ok = true) :
    ∃ delivery, arbiter.Consumes after delivery ∧ delivery.id = binding := by
  have granted : event.reply.grants = true := by rw [reply, InputReply.grants, ok]
  cases step with
  | refused quiet | initialized _ quiet | unrelated _ quiet => simp [quiet] at granted
  | repeated _ _ _ _ _ _ _ _ _ asked | bound _ _ _ _ asked =>
    obtain ⟨other, otherFrame, otherEpoch, asked⟩ := asked
    rw [operation] at asked
    cases asked
  | applied _ _ _ _ _ _ _ asked | began _ _ _ _ _ _ _ asked =>
    rw [operation] at asked
    cases asked
  | replaced state delivery publication other serves delivers observed
      succeeded port asked =>
      rw [operation] at asked
      cases asked
      refine ⟨delivery, ?_, rfl⟩
      refine consumes_of_delivers (some _) stacked bound delivers observed rfl ?_
      rintro _ ⟨⟩
      refine ⟨Nat.le_refl _, ?_⟩
      rintro _ ⟨⟩
      exact Nat.le_refl _
  | _ => cases reply

theorem consumes_of_consumed
    (consumed : consumedBinding ⟨arbiter, call, event, after⟩ = some binding) :
    ∃ delivery, arbiter.Consumes after delivery ∧ delivery.id = binding := by
  obtain ⟨lease, epoch, receipt, operation, reply, ok⟩ |
    ⟨lease, frame, epoch, receipt, operation, reply, ok⟩ := grants_of_consumed consumed
  · obtain ⟨delivery, consumes, -, other, otherEpoch, asked⟩ :=
      consumes_of_delivery stacked bound step reply ok
    rw [operation] at asked
    cases asked
    exact ⟨delivery, consumes, rfl⟩
  · exact consumes_of_replaceDelivery stacked bound step operation reply ok

end

/-- The counters of an arbiter only grow. -/
structure Grows (before after : InputArbiter) : Prop where
  binding : before.nextBinding ≤ after.nextBinding
  delivery : before.nextDelivery ≤ after.nextDelivery
  relationship : before.nextRelationship ≤ after.nextRelationship
  lease : before.nextLease ≤ after.nextLease

theorem grows_of_same (binding : after.nextBinding = arbiter.nextBinding)
    (delivery : after.nextDelivery = arbiter.nextDelivery)
    (relationship : after.nextRelationship = arbiter.nextRelationship)
    (lease : after.nextLease = arbiter.nextLease) : Grows arbiter after :=
  ⟨Nat.le_of_eq binding.symm, Nat.le_of_eq delivery.symm,
    Nat.le_of_eq relationship.symm, Nat.le_of_eq lease.symm⟩

theorem grows_of_finishClose {state : LeaseState} {rest : List LeaseState}
    (stacked : arbiter.Stacked) (listed : arbiter.leases = state :: rest) :
    Grows arbiter (arbiter.finishClose state).2 := by
  cases rest with
  | nil =>
    rw [stacked.finishClose_last listed rfl]
    exact grows_of_same rfl rfl rfl rfl
  | cons parent below =>
    rw [(stacked.finishClose_parent listed rfl).2]
    exact grows_of_same rfl rfl rfl rfl

theorem grows_of_step (stacked : arbiter.Stacked)
    (step : InputArbiter.ArbiterStep arbiter call (event, after)) : Grows arbiter after := by
  cases step with
  | refused | answered | initialized | repeated | completed | unrelated
  | shutDown => exact grows_of_same rfl rfl rfl rfl
  | granted | suspended => exact ⟨Nat.le_refl _, Nat.le_refl _, Nat.le_refl _, Nat.le_succ _⟩
  | bound | applied => exact ⟨Nat.le_succ _, Nat.le_refl _, Nat.le_refl _, Nat.le_refl _⟩
  | began | replaced => exact ⟨Nat.le_succ _, Nat.le_succ _, Nat.le_refl _, Nat.le_refl _⟩
  | related => exact ⟨Nat.le_refl _, Nat.le_refl _, Nat.le_succ _, Nat.le_refl _⟩
  | witnessed | observed =>
    rw [retire_eq]
    exact grows_of_same rfl rfl rfl rfl
  | closed state serves found active =>
    obtain ⟨rest, listed⟩ := stacked.top active found
    exact grows_of_finishClose stacked listed
  | neutralized state serves found active =>
    obtain ⟨rest, listed⟩ := stacked.top active found
    obtain ⟨leases, neutralized⟩ := stacked.neutralize listed
    have grown := grows_of_finishClose neutralized leases
    exact ⟨grown.binding, grown.delivery, grown.relationship, grown.lease⟩

/-- No binding is of the delivery any more, and none will be. -/
def InputArbiter.DeliveryGone (arbiter : InputArbiter) (id : InputDeliveryId) : Prop :=
  id.value < arbiter.nextDelivery ∧ ∀ binding ∈ arbiter.bindings, binding.delivery ≠ some id

/-- The binding is gone for good. -/
def InputArbiter.BindingGone (arbiter : InputArbiter) (id : InputExecutionBindingId) : Prop :=
  id.value < arbiter.nextBinding ∧ ∀ binding ∈ arbiter.bindings, binding.id ≠ id

section

variable (stacked : arbiter.Stacked) (bound : arbiter.Bound)
variable (step : InputArbiter.ArbiterStep arbiter call (event, after))
include stacked bound step

theorem deliveryGone_of_step {id : InputDeliveryId} (gone : arbiter.DeliveryGone id) :
    after.DeliveryGone id := by
  refine ⟨Nat.lt_of_lt_of_le gone.1 (grows_of_step stacked step).delivery, ?_⟩
  intro binding member same
  cases bindings_origin stacked bound step binding member with
  | kept old => exact gone.2 binding old same
  | seen old seen => exact gone.2 old seen.member (seen.observes.delivery.symm.trans same)
  | fresh fresh =>
    have isNext := (fresh.delivery id same).1
    have below := gone.1
    omega

theorem bindingGone_of_step {id : InputExecutionBindingId} (gone : arbiter.BindingGone id) :
    after.BindingGone id := by
  refine ⟨Nat.lt_of_lt_of_le gone.1 (grows_of_step stacked step).binding, ?_⟩
  intro binding member same
  cases bindings_origin stacked bound step binding member with
  | kept old => exact gone.2 binding old same
  | seen old seen => exact gone.2 old seen.member (seen.observes.id.symm.trans same)
  | fresh fresh =>
    have isNext := fresh.id
    have below := gone.1
    rw [same] at isNext
    omega

end

theorem issued_next {id : InputExecutionBindingId}
    (step : InputArbiter.ArbiterStep arbiter call (event, after))
    (issued : issuedBinding ⟨arbiter, call, event, after⟩ = some id) :
    id.value = arbiter.nextBinding ∧ after.nextBinding = arbiter.nextBinding + 1 := by
  have granted : ∃ receipt publication, event.reply = .binding receipt ∧
      event.publication = some publication ∧ receipt.ok = true ∧
      receipt.binding = id := by
    unfold issuedBinding at issued
    split at issued
    · rename_i receipt publication reply published
      split at issued
      · rename_i ok
        exact ⟨receipt, publication, reply, published, ok, Option.some.inj issued⟩
      · cases issued
    · cases issued
  obtain ⟨receipt, publication, reply, published, ok, rfl⟩ := granted
  have granted : event.reply.grants = true := by rw [reply, InputReply.grants, ok]
  cases step with
  | refused quiet | initialized _ quiet | unrelated _ quiet => simp [quiet] at granted
  | repeated | bound => cases published
  | applied | began | replaced =>
    cases reply
    exact ⟨rfl, rfl⟩
  | _ => cases reply

theorem created_next {id : InputExecutionRelationshipId}
    (step : InputArbiter.ArbiterStep arbiter call (event, after))
    (created : createdRelationship ⟨arbiter, call, event, after⟩ = some id) :
    id.value = arbiter.nextRelationship ∧
      after.nextRelationship = arbiter.nextRelationship + 1 := by
  have granted : ∃ receipt, event.reply = .relationship receipt ∧
      receipt.ok = true ∧ receipt.relationship = id := by
    unfold createdRelationship at created
    split at created
    · rename_i receipt reply
      split at created
      · rename_i ok
        exact ⟨receipt, reply, ok, Option.some.inj created⟩
      · cases created
    · cases created
  obtain ⟨receipt, reply, ok, rfl⟩ := granted
  have granted : event.reply.grants = true := by rw [reply, InputReply.grants, ok]
  cases step with
  | refused quiet | initialized _ quiet | unrelated _ quiet => simp [quiet] at granted
  | related =>
    cases reply
    exact ⟨rfl, rfl⟩
  | _ => cases reply

/-- What was used up or handed out stays so. -/
structure Spent (history : List InputTransition) (arbiter : InputArbiter) : Prop where
  completed : Once completedDelivery arbiter.DeliveryGone history
  consumed : Once consumedBinding arbiter.BindingGone history
  issued : Once issuedBinding (·.value < arbiter.nextBinding) history
  created : Once createdRelationship (·.value < arbiter.nextRelationship) history

theorem spent_new (ownerThread : ThreadId) : Spent [] (new ownerThread) := ⟨.nil, .nil, .nil, .nil⟩

theorem Spent.step {history : List InputTransition}
    (spent : Spent history arbiter) (stacked : arbiter.Stacked) (bound : arbiter.Bound)
    (step : InputArbiter.ArbiterStep arbiter call (event, after)) :
    Spent (history ++ [⟨arbiter, call, event, after⟩]) after where
  completed := by
    apply spent.completed.snoc
    · exact fun _ => deliveryGone_of_step stacked bound step
    intro id completed
    obtain ⟨receipt, reply, ok, rfl⟩ := grants_of_completed completed
    obtain ⟨delivery, consumes, isDelivery, -⟩ := consumes_of_delivery stacked bound step reply ok
    have counted := bound.deliveries delivery consumes.member _ isDelivery
    refine ⟨fun gone => gone.2 delivery consumes.member isDelivery,
      Nat.lt_of_lt_of_le counted (grows_of_step stacked step).delivery, ?_⟩
    intro binding member
    exact (consumes.gone binding member).2 _ isDelivery
  consumed := by
    apply spent.consumed.snoc
    · exact fun _ => bindingGone_of_step stacked bound step
    intro id consumed
    obtain ⟨delivery, consumes, rfl⟩ := consumes_of_consumed stacked bound step consumed
    have counted := bound.counted delivery consumes.member
    refine ⟨fun gone => gone.2 delivery consumes.member rfl,
      Nat.lt_of_lt_of_le counted (grows_of_step stacked step).binding, ?_⟩
    intro binding member
    exact (consumes.gone binding member).1
  issued := by
    apply spent.issued.snoc
    · intro id below
      exact Nat.lt_of_lt_of_le below (grows_of_step stacked step).binding
    intro id issued
    obtain ⟨isNext, next⟩ := issued_next step issued
    omega
  created := by
    apply spent.created.snoc
    · intro id below
      exact Nat.lt_of_lt_of_le below (grows_of_step stacked step).relationship
    intro id created
    obtain ⟨isNext, next⟩ := created_next step created
    omega

end Steps

/-!
## Input is observed once

What is known of every run of the arbiter: a delivery ends only after the guest
observed it, and once; nothing of an earlier state counts; and a lease that held
a state takes the next one from its neutral state only after the guest observed
that it let go.
-/

variable {relationship : InputExecutionRelationshipId}

/-- The call grants a binding of the kind to the lease. -/
def Accepts (transition : InputTransition) (lease : InputLeaseId) (kind : InputBindingKind) :
    Prop :=
  ∃ receipt, transition.event.Grants receipt ∧ receipt.lease = lease ∧ receipt.kind = kind

/-- A neutral transition of the lease was published and observed. -/
def ObservedNeutral (earlier middle : List InputTransition) (lease : InputLeaseId) : Prop :=
  ∃ before transition later, middle = before ++ transition :: later ∧
    ∃ issue ∈ before, ∃ receipt, issue.event.Grants receipt ∧
      receipt.lease = lease ∧ receipt.kind = .neutralTransition ∧
      Observing (earlier ++ before) transition receipt.binding

/-- The lease was resumed in its neutral state, since its borrower had published
something. -/
def ResumedIn (middle : List InputTransition) (lease : InputLeaseId) : Prop :=
  ∃ transition ∈ middle, ∃ receipt, transition.event.reply = .close receipt ∧
    receipt.resumedLease = some lease ∧ receipt.message = resumedMessage

/-- The call validates, completes or inspects a relationship. -/
def Validates (transition : InputTransition) (relationship : InputExecutionRelationshipId) : Prop :=
  (∃ epoch, (transition.input.operation = .validate relationship epoch ∨
      transition.input.operation = .complete relationship epoch) ∧
    transition.event.reply = relationshipReply none) ∨
  ∃ epoch inspection,
    transition.input.operation = .inspect relationship epoch ∧
      transition.event.reply = .inspection inspection ∧ inspection.ok = true

/-- The call finds the evidence to be right. -/
def Confirms (transition : InputTransition) (evidence : InputExecutionBindingEvidence) : Prop :=
  (transition.input.operation = .validateBinding evidence ∧
    ∃ receipt, transition.event.reply = .operation receipt ∧ receipt.ok = true) ∨
  ∃ relationship, Creates transition.input transition.event evidence relationship

/-- The evidence names what is current. -/
def InputExecutionBindingEvidence.Current
    (evidence : InputExecutionBindingEvidence) (arbiter : InputArbiter) : Prop :=
  arbiter.Current evidence.lease evidence.binding evidence.epoch evidence.stateGeneration

/-- The laws of deliveries.  `Released` says what has to happen, after the calls
that came first, for a lease that held a state to leave it. -/
structure DeliveryLaws (Released : List InputTransition → List InputTransition →
      InputLeaseId → Prop)
    (history : List InputTransition) : Prop where
  /-- A delivery ends only after the guest observed it. -/
  observed : ∀ earlier transition later,
    history = earlier ++ transition :: later →
      ∀ binding, consumedBinding transition = some binding → ObservedIn earlier binding
  /-- Every delivery completes once. -/
  completedOnce : (history.filterMap completedDelivery).Nodup
  /-- Every binding of a delivery is used up once. -/
  consumedOnce : (history.filterMap consumedBinding).Nodup
  /-- Every binding is published once. -/
  issuedOnce : (history.filterMap issuedBinding).Nodup
  /-- Every relationship is created once. -/
  createdOnce : (history.filterMap createdRelationship).Nodup
  /-- A delivery that ends is the current state of the active lease. -/
  delivery : ∀ earlier transition later,
    history = earlier ++ transition :: later →
      ∀ binding, consumedBinding transition = some binding →
        ∃ issue ∈ earlier, ∃ receipt, issue.event.Grants receipt ∧ receipt.binding = binding ∧
          transition.before.Current receipt.lease binding receipt.epoch receipt.stateGeneration
  /-- Evidence is right only about the current state of the active lease. -/
  evidence : ∀ transition ∈ history, ∀ evidence,
    Confirms transition evidence → evidence.Current transition.before
  /-- A relationship is valid only while the state that it was created for is
  current. -/
  relationship : ∀ earlier transition later,
    history = earlier ++ transition :: later →
      ∀ relationship, Validates transition relationship →
        ∃ evidence, CreatedIn earlier relationship evidence ∧ evidence.Current transition.before
  /-- A lease that held a state takes a new one, other than directly, only after
  it was released. -/
  released : ∀ earlier held middle next later,
    history = earlier ++ held :: (middle ++ next :: later) →
      ∀ lease state, Accepts held lease .held →
        Accepts next lease .held ∨ Accepts next lease .delivery →
          next.before.findLease lease = some state →
            state.inputState ≠ .held → Released (earlier ++ [held]) middle lease

section Steps

variable {arbiter after : InputArbiter} {call : InputCall} {event : InputEvent}
variable {history : List InputTransition} {transition : InputTransition}

theorem ObservedNeutral.snoc {earlier middle : List InputTransition}
    {lease : InputLeaseId} (observed : ObservedNeutral earlier middle lease) :
    ObservedNeutral earlier (middle ++ [transition]) lease := by
  obtain ⟨before, completion, later, rfl, issued⟩ := observed
  exact ⟨before, completion, later ++ [transition], by simp, issued⟩

theorem ResumedIn.snoc {middle : List InputTransition} {lease : InputLeaseId}
    (resumed : ResumedIn middle lease) : ResumedIn (middle ++ [transition]) lease := by
  obtain ⟨close, member, closes⟩ := resumed
  exact ⟨close, List.mem_append_left _ member, closes⟩

theorem lease_of_grants {receipt : InputExecutionBindingReceipt}
    (stacked : arbiter.Stacked) (bound : arbiter.Bound)
    (step : InputArbiter.ArbiterStep arbiter call (event, after)) (granted : event.Grants receipt) :
    ∃ state, arbiter.Holds state ∧ receipt.lease = state.id ∧
      (receipt.kind = .held → (state.inputState = .neutral ∨ state.inputState = .held) ∧
          ∀ lease ∈ after.leases, lease.id = state.id → lease.inputState = .held) ∧
      (receipt.kind = .delivery →
        state.inputState = .neutral ∨ state.inputState = .deliveryPending) := by
  obtain ⟨reply, ok⟩ := granted
  have granted : event.reply.grants = true := by rw [reply, InputReply.grants, ok]
  cases step with
  | refused quiet | initialized _ quiet | unrelated _ quiet => simp [quiet] at granted
  | repeated state current serves holds pending isBound found kind owner =>
    cases reply
    obtain ⟨rest, listed⟩ := stacked.holds holds
    have isMatch := (bound.matching stacked listed isBound found).2
    have transitional : current.kind = .neutralTransition := by
      have same := isMatch.state.symm.trans pending
      cases isKind : current.kind with
      | neutralTransition => rfl
      | stableNeutral | held | delivery => simp [BindingState.inputState, isKind] at same
    refine ⟨state, holds, owner.trans isMatch.owner, ?_, ?_⟩
    · rw [kind, transitional]
      rintro ⟨⟩
    · rw [kind, transitional]
      rintro ⟨⟩
  | bound state serves holds neutral =>
    cases reply
    exact ⟨state, holds, rfl, by rintro ⟨⟩, by rintro ⟨⟩⟩
  | applied state publication serves holds ready =>
    cases reply
    obtain ⟨rest, listed⟩ := stacked.holds holds
    refine ⟨state, holds, rfl, ?_, ?_⟩
    · intro isHeld
      refine ⟨ready, ?_⟩
      rw [stacked.published_leases listed]
      intro lease member same
      rcases List.mem_cons.mp member with rfl | below
      · cases neutral : publication.frame.isNeutral with
        | false => simp [boundLease, LeaseState.published]
        | true =>
          exfalso
          simp [published, bindCurrentState, neutral] at isHeld
      · exact absurd same (stacked.below listed lease below)
    · intro isDelivery
      exfalso
      cases neutral : publication.frame.isNeutral <;>
        simp [published, bindCurrentState, neutral] at isDelivery
  | began state publication serves holds neutral =>
    cases reply
    exact ⟨state, holds, rfl, by rintro ⟨⟩, fun _ => .inl neutral⟩
  | replaced state delivery publication epoch serves delivers =>
    cases reply
    exact ⟨state, delivers.holds, rfl, by rintro ⟨⟩, fun _ => .inr delivers.pending⟩
  | _ => cases reply

/-- The leases that held a state were released since, or are about to be. -/
structure Rested (history : List InputTransition) (arbiter : InputArbiter) : Prop where
  counted : ∀ transition ∈ history, ∀ receipt,
    transition.event.Grants receipt → receipt.lease.value < arbiter.nextLease
  rested : ∀ earlier held middle, history = earlier ++ held :: middle →
    ∀ lease ∈ arbiter.leases, Accepts held lease.id .held →
      (lease.inputState = .neutral ∨ lease.inputState = .deliveryPending →
        ObservedNeutral (earlier ++ [held]) middle lease.id ∨ ResumedIn middle lease.id) ∧
      (lease.inputState = .neutralTransitionPending →
        ∃ issue ∈ middle, ∃ receipt, issue.event.Grants receipt ∧
          receipt.lease = lease.id ∧ receipt.kind = .neutralTransition ∧
          lease.currentBinding = some receipt.binding)

theorem rested_new (ownerThread : ThreadId) : Rested [] (new ownerThread) where
  counted := by simp
  rested := by simp

theorem Rested.step (rested : Rested history arbiter) (recorded : Recorded history arbiter)
    (step : InputArbiter.ArbiterStep arbiter call (event, after)) :
    Rested (history ++ [⟨arbiter, call, event, after⟩]) after where
  counted := by
    intro other member receipt granted
    have grows := (grows_of_step recorded.stacked step).lease
    rcases List.mem_append.mp member with old | new
    · exact Nat.lt_of_lt_of_le (rested.counted other old receipt granted) grows
    rw [List.mem_singleton] at new
    subst new
    obtain ⟨state, holds, owner, -⟩ := lease_of_grants recorded.stacked recorded.bound step granted
    obtain ⟨rest, listed⟩ := recorded.stacked.holds holds
    rw [owner]
    refine Nat.lt_of_lt_of_le (recorded.stacked.counted state ?_) grows
    rw [listed]
    exact List.mem_cons_self
  rested := by
    intro earlier held middle position lease member accepts
    rcases List.eq_nil_or_concat middle with rfl | ⟨rest, last, rfl⟩
    · obtain ⟨rfl, isNew⟩ := List.append_inj' position rfl
      simp only [List.cons.injEq, and_true] at isNew
      subst isNew
      obtain ⟨receipt, granted, owner, kind⟩ := accepts
      obtain ⟨state, -, stateOwner, isHeld, -⟩ :=
        lease_of_grants recorded.stacked recorded.bound step granted
      have holding := (isHeld kind).2 lease member (owner.symm.trans stateOwner)
      rw [holding]
      exact ⟨nofun, nofun⟩
    · rw [List.concat_eq_append, ← List.cons_append, ← List.append_assoc]
        at position
      obtain ⟨isEarlier, isNew⟩ := List.append_inj' position rfl
      simp only [List.cons.injEq, and_true] at isNew
      subst isNew
      rw [List.concat_eq_append]
      obtain fresh | ⟨old, oldMember, same, became⟩ :=
        leases_origin recorded.stacked recorded.bound step lease member
      · obtain ⟨receipt, granted, owner, -⟩ := accepts
        have below := rested.counted held (by rw [isEarlier]; simp) receipt granted
        rw [owner, fresh] at below
        exact absurd below (Nat.lt_irrefl _)
      rw [← same] at accepts ⊢
      obtain ⟨released, transitional⟩ :=
        rested.rested earlier held rest isEarlier old oldMember accepts
      have kept : old.inputState = .neutral ∨
          old.inputState = .deliveryPending →
          ObservedNeutral (earlier ++ [held]) (rest ++ [⟨arbiter, call, event, after⟩]) old.id ∨
          ResumedIn (rest ++ [⟨arbiter, call, event, after⟩]) old.id := by
        intro state
        exact (released state).imp ObservedNeutral.snoc ResumedIn.snoc
      cases became with
      | same state binding =>
        rw [state, binding]
        refine ⟨kept, ?_⟩
        intro pending
        obtain ⟨issue, issueMember, granted⟩ := transitional pending
        exact ⟨issue, List.mem_append_left _ issueMember, granted⟩
      | neutral before state =>
        rw [state]
        exact ⟨fun _ => kept (.inl before), nofun⟩
      | held state =>
        rw [state]
        exact ⟨nofun, nofun⟩
      | pending receipt state granted owner kind binding =>
        rw [state]
        refine ⟨nofun, fun _ => ?_⟩
        exact ⟨_, List.mem_append_right _ (List.mem_singleton.mpr rfl),
          receipt, granted, owner, kind, binding⟩
      | delivering before state =>
        rw [state]
        exact ⟨fun _ => kept before, nofun⟩
      | delivered before state =>
        rw [state]
        exact ⟨fun _ => kept (.inr before), nofun⟩
      | observed binding seen before state current required isSeen =>
        rw [state]
        refine ⟨fun _ => .inl ?_, nofun⟩
        obtain ⟨issue, issueMember, receipt, granted, owner, kind, named⟩ := transitional before
        refine ⟨rest, _, [], rfl, issue, issueMember, receipt, granted, owner, kind, ?_⟩
        have sameBinding : receipt.binding = binding.id :=
          Option.some.inj (named.symm.trans current)
        have observing : Observing history ⟨arbiter, call, event, after⟩
            binding.id :=
          recorded.observing isSeen required
        rw [isEarlier] at observing
        rw [sameBinding, List.append_assoc]
        exact observing
      | resumed receipt reply resumedLease message state =>
        have resumed : ResumedIn
            (rest ++ [⟨arbiter, call, event, after⟩]) old.id :=
          ⟨_, List.mem_append_right _ (List.mem_singleton.mpr rfl), receipt,
            reply, resumedLease, message⟩
        rw [state]
        exact ⟨fun _ => .inr resumed, nofun⟩

/-- What is known of the arbiter after a run. -/
structure Known (history : List InputTransition) (arbiter : InputArbiter) : Prop where
  recorded : Recorded history arbiter
  spent : Spent history arbiter
  rested : Rested history arbiter

theorem known_of_run {ownerThread : ThreadId}
    (run : Run step AnyCall (new ownerThread) history arbiter) : Known history arbiter := by
  refine run.historyInvariant ?_ ?_
  · exact ⟨recorded_new ownerThread, spent_new ownerThread, rested_new ownerThread⟩
  rintro earlier before input event after known - stepped
  have step := step_of_stepped stepped
  exact ⟨known.recorded.step step,
    known.spent.step known.recorded.stacked known.recorded.bound step,
    known.rested.step known.recorded step⟩

/-! ## What is valid is current -/

theorem Recorded.current {epoch : WorksetEpoch}
    {result : RelationshipState × LeaseState × BindingState} (recorded : Recorded history arbiter)
    (valid : arbiter.validateRelationship call relationship epoch = .ok result) :
    ∃ evidence, CreatedIn history relationship evidence ∧ evidence.Current arbiter := by
  obtain ⟨found, state, binding⟩ := result
  obtain ⟨-, relates, rfl, -⟩ := validateRelationship_ok valid
  obtain ⟨evidence, created, attests⟩ := recorded.created found
    (List.mem_of_find?_eq_some relates.related)
  obtain ⟨rest, listed⟩ := recorded.stacked.holds relates.holds
  have sameEpoch : state.epoch = found.epoch := by
    have current := relates.epoch
    simp only [isCurrent, Bool.and_eq_true, decide_eq_true_eq] at current
    rw [← current.2]
    apply recorded.stacked.epochs
    rw [listed]
    exact List.mem_cons_self
  refine ⟨evidence, created, ?_⟩
  constructor
  · rw [attests.lease, relates.lease]
    exact relates.holds.active
  · rw [attests.epoch]
    exact relates.epoch
  rw [attests.lease, relates.lease, attests.epoch, attests.generation,
    attests.binding, relates.names]
  exact ⟨state, relates.holds.found, relates.holds.status, sameEpoch,
    relates.leaseGeneration, relates.current⟩

theorem valid_of_validates (performed : arbiter.perform call = (event, after))
    (validates : Validates ⟨arbiter, call, event, after⟩ relationship) :
    ∃ epoch result, arbiter.validateRelationship call relationship epoch = .ok result := by
  obtain ⟨epoch, asked | asked, reply⟩ | ⟨epoch, inspection, asked, reply, ok⟩ := validates
  all_goals
    dsimp only at asked reply
    rw [perform, asked] at performed
    dsimp only at performed
    refine ⟨epoch, ?_⟩
    cases valid : arbiter.validateRelationship call relationship epoch with
    | ok result => exact ⟨result, rfl⟩
    | error message => ?_
  · rw [validate, valid] at performed
    cases performed
    cases reply
  · rw [complete, valid] at performed
    cases performed
    cases reply
  rw [inspect, valid] at performed
  cases performed
  cases reply
  cases ok

theorem current_of_confirms {evidence : InputExecutionBindingEvidence}
    (performed : arbiter.perform call = (event, after))
    (confirms : Confirms ⟨arbiter, call, event, after⟩ evidence) : evidence.Current arbiter := by
  have valid : (arbiter.checkBinding call evidence).ok = true := by
    obtain ⟨asked, receipt, reply, ok⟩ | ⟨relationship, creates⟩ := confirms
    · dsimp only at asked reply
      rw [perform, asked] at performed
      cases performed
      cases reply
      exact ok
    obtain ⟨asked, receipt, reply, ok, -⟩ := creates
    dsimp only at asked reply
    rw [perform, asked] at performed
    dsimp only at performed
    cases valid : (arbiter.checkBinding call evidence).ok with
    | true => rfl
    | false =>
      simp only [createExecutionRelationship, valid,
        Bool.not_false, if_true, Prod.mk.injEq] at performed
      rw [← performed.1] at reply
      cases reply
      cases ok
  obtain ⟨-, state, binding, evidences⟩ := checkBinding_ok valid
  constructor
  · rw [evidences.lease]
    exact evidences.holds.active
  · exact evidences.epoch
  rw [evidences.lease, evidences.named]
  exact ⟨state, evidences.holds.found, evidences.holds.status,
    evidences.leaseEpoch, evidences.leaseGeneration, evidences.current⟩

theorem Recorded.consumed {binding : InputExecutionBindingId} (recorded : Recorded history arbiter)
    (step : InputArbiter.ArbiterStep arbiter call (event, after))
    (consumed : consumedBinding ⟨arbiter, call, event, after⟩ = some binding) :
    ObservedIn history binding ∧ ∃ issue ∈ history, ∃ receipt, issue.event.Grants receipt ∧
        receipt.binding = binding ∧
        arbiter.Current receipt.lease binding receipt.epoch receipt.stateGeneration := by
  obtain ⟨delivery, consumes, rfl⟩ := consumes_of_consumed recorded.stacked
    recorded.bound step consumed
  obtain ⟨issue, member, receipt, granted, named, owner, epoch, generation, -⟩ :=
    recorded.issued delivery consumes.member
  refine ⟨recorded.observed delivery consumes.member consumes.required
    consumes.observed, issue, member, receipt, granted, named, ?_⟩
  rw [owner, epoch, generation]
  exact consumes.current

end Steps

/-- A lease that held a state takes a new one, other than directly, only after
the guest observed a neutral transition of it, or after it was resumed in its
neutral state. -/
def LetGo (earlier middle : List InputTransition) (lease : InputLeaseId) : Prop :=
  ObservedNeutral earlier middle lease ∨ ResumedIn middle lease

/-- The laws of deliveries hold over every run. -/
theorem input_is_observed_once (ownerThread : ThreadId)
    (history : List InputTransition) (arbiter : InputArbiter)
    (run : Run step AnyCall (new ownerThread) history arbiter) : DeliveryLaws LetGo history := by
  have known := known_of_run run
  have before : ∀ earlier transition later,
      history = earlier ++ transition :: later →
        Known earlier transition.before ∧
          transition.before.perform transition.input = (transition.event, transition.after) := by
    intro earlier transition later position
    obtain ⟨shorter, -, stepped⟩ := run.split position
    exact ⟨known_of_run shorter, Option.some.inj stepped⟩
  have steps : ∀ transition : InputTransition,
      transition.before.perform transition.input = (transition.event, transition.after) →
      InputArbiter.ArbiterStep transition.before transition.input
        (transition.event, transition.after) := by
    intro transition performed
    rw [← performed]
    exact perform_step _ _
  constructor
  · intro earlier transition later position binding consumed
    obtain ⟨earlierKnown, performed⟩ := before _ _ _ position
    exact (earlierKnown.recorded.consumed (steps _ performed) consumed).1
  · exact known.spent.completed.nodup
  · exact known.spent.consumed.nodup
  · exact known.spent.issued.nodup
  · exact known.spent.created.nodup
  · intro earlier transition later position binding consumed
    obtain ⟨earlierKnown, performed⟩ := before _ _ _ position
    exact (earlierKnown.recorded.consumed (steps _ performed) consumed).2
  · intro transition member evidence confirms
    obtain ⟨earlier, later, position⟩ := List.append_of_mem member
    obtain ⟨-, performed⟩ := before _ _ _ position
    exact current_of_confirms performed confirms
  · intro earlier transition later position relationship validates
    obtain ⟨earlierKnown, performed⟩ := before _ _ _ position
    obtain ⟨epoch, result, valid⟩ := valid_of_validates performed validates
    exact earlierKnown.recorded.current valid
  intro earlier held middle next later position lease state accepts takes found unheld
  rw [← List.cons_append, ← List.append_assoc] at position
  obtain ⟨earlierKnown, performed⟩ := before _ _ _ position
  have step := steps _ performed
  have named := id_of_findLease found
  subst named
  have member : state ∈ next.before.leases := List.mem_of_find?_eq_some found
  obtain ⟨released, -⟩ := earlierKnown.rested.rested earlier held middle rfl state member accepts
  apply released
  have owns : ∀ receipt, next.event.Grants receipt →
      receipt.lease = state.id →
        (receipt.kind = .held → state.inputState = .neutral ∨ state.inputState = .held) ∧
        (receipt.kind = .delivery → state.inputState = .neutral ∨
          state.inputState = .deliveryPending) := by
    intro receipt granted owner
    obtain ⟨other, holds, otherOwner, isHeld, isDelivery⟩ := lease_of_grants
      earlierKnown.recorded.stacked earlierKnown.recorded.bound step granted
    have otherFound := holds.found
    rw [← otherOwner, owner, found, Option.some.injEq] at otherFound
    subst otherFound
    exact ⟨fun kind => (isHeld kind).1, isDelivery⟩
  obtain ⟨receipt, granted, owner, kind⟩ | ⟨receipt, granted, owner, kind⟩ := takes
  · obtain neutral | isHeld := (owns receipt granted owner).1 kind
    · exact .inl neutral
    · exact absurd isHeld unheld
  · exact (owns receipt granted owner).2 kind

/-- A delivery is observed and completed. -/
def Sample.observedDelivery : List InputCall :=
  [ Sample.call (.acquire (Sample.request 0) Sample.epoch),
    Sample.call (.beginDelivery ⟨1⟩ Sample.pressed Sample.epoch),
    Sample.call (.createExecutionRelationship
      { lease := ⟨1⟩
        binding := ⟨1⟩
        publication := ⟨1⟩
        epoch := Sample.epoch
        stateGeneration := 2
        frame := Sample.pressed }), Sample.call (.complete ⟨1⟩ Sample.epoch),
    Sample.call (.completeDelivery ⟨1⟩ ⟨1⟩ Sample.epoch) ]

theorem input_is_observed_once_sample : ∃ history, DeliveryLaws LetGo history ∧
      history.filterMap consumedBinding = [⟨1⟩] ∧ history.filterMap completedDelivery = [⟨1⟩] := by
  obtain ⟨history, arbiter, run, consumed, completed⟩ : ∃ history arbiter,
      Run step AnyCall (new 0) history arbiter ∧
        history.filterMap consumedBinding = [⟨1⟩] ∧ history.filterMap completedDelivery = [⟨1⟩] :=
    Run.exists_of_replay Sample.observedDelivery _ (by decide +kernel)
  exact ⟨history, input_is_observed_once 0 history arbiter run, consumed, completed⟩

/-- A lease holds a state.  A borrower holds one and is closed, and the lease
holds a state again. -/
def Sample.heldAgain : List InputCall :=
  [ Sample.call (.acquire (Sample.request 0) Sample.epoch),
    Sample.call (.applyState ⟨1⟩ Sample.pressed Sample.epoch),
    Sample.call (.borrow ⟨1⟩ (Sample.request 0) Sample.epoch),
    Sample.call (.applyState ⟨2⟩ Sample.pressed Sample.epoch),
    Sample.call (.closeLease ⟨2⟩ Sample.epoch),
    Sample.call (.applyState ⟨1⟩ Sample.pressed Sample.epoch) ]

/-- A lease holds a state and is closed, and the next one holds a state. -/
def Sample.heldByNext : List InputCall :=
  [ Sample.call (.acquire (Sample.request 0) Sample.epoch),
    Sample.call (.applyState ⟨1⟩ Sample.pressed Sample.epoch),
    Sample.call (.closeLease ⟨1⟩ Sample.epoch),
    Sample.call (.acquire (Sample.request 0) Sample.epoch),
    Sample.call (.applyState ⟨2⟩ Sample.pressed Sample.epoch) ]

/-- Between a held state of a lease and a new one that another lease takes, other
than directly, the guest observed a neutral transition.  The first lease is kept
until then or not. -/
def ObservedBetween (kept : Bool) (history : List InputTransition) : Prop :=
  ∀ earlier held middle next later, history = earlier ++ held :: (middle ++ next :: later) →
    ∀ lease other state, lease ≠ other → Accepts held lease .held → Accepts next other .held →
      next.before.findLease other = some state → state.inputState ≠ .held →
        (next.before.findLease lease).isSome = kept →
          ∃ observed, ObservedNeutral (earlier ++ [held]) middle observed

/-- The call grants the lease a held state. -/
def Sample.holds (lease : InputLeaseId) (transition : InputTransition) : Bool :=
  match transition.event.reply with
  | .binding receipt => receipt.ok && receipt.lease = lease && receipt.kind = .held
  | _ => false

theorem Sample.accepts_of_holds {lease : InputLeaseId} {transition : InputTransition}
    (holds : Sample.holds lease transition = true) : Accepts transition lease .held := by
  unfold Sample.holds at holds
  split at holds
  · rename_i receipt reply
    simp only [Bool.and_eq_true, decide_eq_true_eq] at holds
    exact ⟨receipt, ⟨reply, holds.1.1⟩, holds.1.2, holds.2⟩
  · cases holds

/-- The second call grants one lease a held state, and the last one another,
which is not held before.  Nothing is completed in between. -/
def Sample.holdsAgain (lease other : InputLeaseId) (kept : Bool) : List InputTransition → Bool
  | _ :: held :: rest => rest.getLast?.any fun next =>
    Sample.holds lease held && Sample.holds other next &&
    rest.dropLast.all (fun transition =>
      match transition.input.operation with
      | .complete _ _ => false
      | _ => true) &&
    ((next.before.findLease other).any fun state => decide (state.inputState ≠ .held)) &&
    (next.before.findLease lease).isSome == kept
  | _ => false

theorem Sample.unobserved_of_holdsAgain {lease other : InputLeaseId} {kept : Bool}
    {history : List InputTransition} (again : Sample.holdsAgain lease other kept history = true) :
    ∃ earlier held middle next state, history = earlier ++ held :: (middle ++ next :: []) ∧
      Accepts held lease .held ∧ Accepts next other .held ∧
      next.before.findLease other = some state ∧ state.inputState ≠ .held ∧
      (next.before.findLease lease).isSome = kept ∧
      ∀ observed, ¬ObservedNeutral (earlier ++ [held]) middle observed := by
  unfold Sample.holdsAgain at again
  split at again
  · rename_i first held rest
    simp only [Bool.and_eq_true, List.all_eq_true, Option.any_eq_true, decide_eq_true_eq,
      beq_iff_eq] at again
    obtain ⟨next, last, ⟨⟨⟨holds, holdsAgain⟩, incomplete⟩, state, found, unheld⟩, isKept⟩ := again
    refine ⟨[first], held, rest.dropLast, next, state, ?_, Sample.accepts_of_holds holds,
      Sample.accepts_of_holds holdsAgain, found, unheld, isKept, ?_⟩
    · rw [List.dropLast_append_getLast? next last]
      rfl
    rintro observed ⟨before, completion, later, position, issue, -, receipt, -, -, -,
      publication, relationship, evidence, -, -, -, completes⟩
    have member : completion ∈ rest.dropLast := by
      rw [position]
      simp
    obtain ⟨epoch, asked⟩ := completes.asked
    have checkedOperation := incomplete completion member
    rw [asked] at checkedOperation
    cases checkedOperation
  · cases again

/-- A lease that held a state can take a new one although the guest observed no
neutral transition of it: a borrower that published something was closed in
between.  Nor does a lease that takes a held state after another one wait for the
guest, whether it borrowed from it or came when it was closed. -/
theorem neutral_is_not_always_observed :
    (¬∀ ownerThread history arbiter, Run step AnyCall (new ownerThread) history arbiter →
      DeliveryLaws ObservedNeutral history) ∧
    ∀ kept, ¬∀ ownerThread history arbiter, Run step AnyCall (new ownerThread) history arbiter →
      ObservedBetween kept history := by
  have reached (calls : List InputCall) (lease other : InputLeaseId) (kept : Bool)
      (checked : (replay step (new 0) calls).any
        (fun reached => Sample.holdsAgain lease other kept reached.1 = true) = true) :
      ∃ history arbiter, Run step AnyCall (new 0) history arbiter ∧
        Sample.holdsAgain lease other kept history = true :=
    Run.exists_of_replay calls (fun history _ => Sample.holdsAgain lease other kept history = true)
      checked
  have between (calls : List InputCall) (kept : Bool)
      (checked : (replay step (new 0) calls).any
        (fun reached => Sample.holdsAgain ⟨1⟩ ⟨2⟩ kept reached.1 = true) = true) :
      ¬∀ ownerThread history arbiter, Run step AnyCall (new ownerThread) history arbiter →
        ObservedBetween kept history := by
    intro always
    obtain ⟨history, arbiter, run, again⟩ := reached calls ⟨1⟩ ⟨2⟩ kept checked
    obtain ⟨earlier, held, middle, next, state, position, holds, holdsNext, found, unheld,
      isKept, unobserved⟩ := Sample.unobserved_of_holdsAgain again
    obtain ⟨observed, seen⟩ := always 0 history arbiter run earlier held middle next [] position
      ⟨1⟩ ⟨2⟩ state (by decide) holds holdsNext found unheld isKept
    exact unobserved observed seen
  refine ⟨fun always => ?_, fun kept => ?_⟩
  · obtain ⟨history, arbiter, run, again⟩ :=
      reached Sample.heldAgain ⟨1⟩ ⟨1⟩ true (by decide +kernel)
    obtain ⟨earlier, held, middle, next, state, position, holds, holdsNext, found, unheld, -,
      unobserved⟩ := Sample.unobserved_of_holdsAgain again
    exact unobserved ⟨1⟩ ((always 0 history arbiter run).released earlier held middle next []
      position ⟨1⟩ state holds (.inl holdsNext) found unheld)
  · cases kept with
    | false => exact between Sample.heldByNext false (by decide +kernel)
    | true => exact between (Sample.heldAgain.take 4) true (by decide +kernel)

end Savor.Input

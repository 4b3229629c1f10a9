import Savor.Library.Transition
import Savor.Input.InputSteps

/-!
# Leases nest

The leases of the arbiter form a stack: the newest one is active and the others
are suspended, in the order in which they were granted.
-/

namespace Savor.Input

open Library Program

/-- A call of an arbiter as a run records it. -/
abbrev InputTransition := Transition InputArbiter InputCall InputEvent

/-- Every call may be made in every state. -/
def AnyCall (_ : InputArbiter) (_ : InputCall) : Prop := True

theorem step_of_stepped {arbiter after : InputArbiter} {call : InputCall} {event : InputEvent}
    (stepped : InputArbiter.step call arbiter = some (event, after)) :
    InputArbiter.ArbiterStep arbiter call (event, after) := by
  simp only [InputArbiter.step, Option.some.injEq] at stepped
  rw [← stepped]
  exact InputArbiter.perform_step arbiter call

namespace InputArbiter

/-- The active lease stands above the suspended ones. -/
def Nested (arbiter : InputArbiter) : List LeaseState → Prop
  | [] => arbiter.active = none ∧ arbiter.suspended = []
  | top :: rest =>
    arbiter.active = some top.id ∧ arbiter.suspended = rest.map (·.id) ∧
      top.status = .active ∧ ∀ lease ∈ rest, lease.status = .suspended

/-- The leases of the arbiter are a stack of different ones. -/
structure Stacked (arbiter : InputArbiter) : Prop where
  nested : arbiter.Nested arbiter.leases
  distinct : (arbiter.leases.map (·.id)).Nodup
  counted : ∀ lease ∈ arbiter.leases, lease.id.value < arbiter.nextLease
  epochs : ∀ lease ∈ arbiter.leases, lease.epoch = arbiter.epoch
  started : arbiter.leases ≠ [] → arbiter.epoch.isSet = true

variable {arbiter : InputArbiter} {call : InputCall}

theorem stacked_of_empty (leases : arbiter.leases = [])
    (active : arbiter.active = none) (suspended : arbiter.suspended = []) : arbiter.Stacked where
  nested := by
    rw [leases]
    exact ⟨active, suspended⟩
  distinct := by simp [leases]
  counted := by simp [leases]
  epochs := by simp [leases]
  started := by simp [leases]

theorem stacked_new (ownerThread : ThreadId) : (new ownerThread).Stacked :=
  stacked_of_empty rfl rfl rfl

/-- What the stack rests on is unchanged. -/
theorem Stacked.of_same {after : InputArbiter} (stacked : arbiter.Stacked)
    (leases : after.leases = arbiter.leases) (active : after.active = arbiter.active)
    (suspended : after.suspended = arbiter.suspended)
    (nextLease : after.nextLease = arbiter.nextLease) (epoch : after.epoch = arbiter.epoch) :
    after.Stacked where
  nested := by
    have nested := stacked.nested
    rw [leases]
    cases listed : arbiter.leases with
    | nil =>
      rw [listed] at nested
      exact ⟨active.trans nested.1, suspended.trans nested.2⟩
    | cons top rest =>
      rw [listed] at nested
      exact ⟨active.trans nested.1, suspended.trans nested.2.1, nested.2.2⟩
  distinct := leases ▸ stacked.distinct
  counted := by
    rw [leases, nextLease]
    exact stacked.counted
  epochs := by
    rw [leases, epoch]
    exact stacked.epochs
  started := by
    rw [leases, epoch]
    exact stacked.started

variable {state : LeaseState}

theorem Stacked.top {lease : InputLeaseId} (stacked : arbiter.Stacked)
    (active : arbiter.active = some lease) (found : arbiter.findLease lease = some state) :
    ∃ rest, arbiter.leases = state :: rest := by
  have nested := stacked.nested
  cases listed : arbiter.leases with
  | nil =>
    rw [listed] at nested
    rw [nested.1] at active
    cases active
  | cons top rest =>
    rw [listed] at nested
    have same : top.id = lease := Option.some.inj (nested.1.symm.trans active)
    simp only [findLease, listed, same, decide_true, List.find?_cons_of_pos,
      Option.some.injEq] at found
    subst found
    exact ⟨rest, rfl⟩

theorem Stacked.holds (stacked : arbiter.Stacked) (holds : arbiter.Holds state) :
    ∃ rest, arbiter.leases = state :: rest :=
  stacked.top holds.active holds.found

variable {rest : List LeaseState} {top : LeaseState}

/-- Of different leases, those below the first do not have its id. -/
theorem ne_of_distinct (distinct : ((top :: rest).map (·.id)).Nodup) :
    ∀ lease ∈ rest, lease.id ≠ top.id := by
  intro lease member same
  rw [List.map_cons, List.nodup_cons] at distinct
  exact distinct.1 (same ▸ List.mem_map_of_mem member)

theorem Stacked.below (stacked : arbiter.Stacked) (listed : arbiter.leases = top :: rest) :
    ∀ lease ∈ rest, lease.id ≠ top.id :=
  ne_of_distinct (listed ▸ stacked.distinct)

variable {below : List LeaseState} {parent : LeaseState}

theorem Stacked.belowParent (stacked : arbiter.Stacked)
    (listed : arbiter.leases = top :: parent :: below) : ∀ lease ∈ below, lease.id ≠ parent.id := by
  have distinct := stacked.distinct
  rw [listed, List.map_cons, List.nodup_cons] at distinct
  exact ne_of_distinct distinct.2

theorem setLease_leases (listed : arbiter.leases = top :: rest)
    (others : ∀ lease ∈ rest, lease.id ≠ top.id) (same : state.id = top.id) :
    (arbiter.setLease state).leases = state :: rest := by
  simp only [setLease, listed, List.map_cons, same, if_true, List.cons.injEq, true_and]
  refine Eq.trans (List.map_congr_left (g := id) ?_) (List.map_id rest)
  intro other member
  exact if_neg (others other member)

theorem Stacked.replaced {after : InputArbiter} (stacked : arbiter.Stacked)
    (listed : arbiter.leases = top :: rest)
    (leases : after.leases = state :: rest) (id : state.id = top.id)
    (status : state.status = top.status) (leaseEpoch : state.epoch = top.epoch)
    (active : after.active = arbiter.active) (suspended : after.suspended = arbiter.suspended)
    (nextLease : after.nextLease = arbiter.nextLease) (epoch : after.epoch = arbiter.epoch) :
    after.Stacked := by
  obtain ⟨nested, distinct, counted, epochs, started⟩ := stacked
  rw [listed] at nested distinct counted epochs started
  rw [List.forall_mem_cons] at counted epochs
  refine ⟨?_, ?_, ?_, ?_, ?_⟩
  · rw [leases]
    exact ⟨active.trans (id ▸ nested.1), suspended.trans nested.2.1,
      status.trans nested.2.2.1, nested.2.2.2⟩
  · rw [leases, List.map_cons, id]
    exact distinct
  · rw [leases, nextLease, List.forall_mem_cons, id]
    exact counted
  · rw [leases, epoch, List.forall_mem_cons, leaseEpoch]
    exact epochs
  · rw [epoch]
    exact fun _ => started (List.cons_ne_nil _ _)

/-! ## Granting -/

variable {epoch : WorksetEpoch}

theorem Stacked.withEpoch (stacked : arbiter.Stacked) (isSet : epoch.isSet = true)
    (first : arbiter.epoch.isSet = true → arbiter.epoch = epoch) :
    (arbiter.withEpoch epoch).Stacked where
  nested := stacked.nested
  distinct := stacked.distinct
  counted := stacked.counted
  epochs := by
    intro lease member
    rw [stacked.epochs lease member]
    exact first (stacked.started (List.ne_nil_of_mem member))
  started := fun _ => isSet

theorem Stacked.suspend_leases {holder : LeaseState} (stacked : arbiter.Stacked)
    (listed : arbiter.leases = holder :: rest) : (arbiter.suspend holder).leases =
      { holder with status := .suspended } :: rest :=
  setLease_leases listed (stacked.below listed) rfl

variable {request : InputLeaseRequest}

theorem stacked_withLease {inherits : Bool}
    (suspended : arbiter.suspended = arbiter.leases.map (·.id))
    (statuses : ∀ lease ∈ arbiter.leases, lease.status = .suspended)
    (distinct : (arbiter.leases.map (·.id)).Nodup)
    (counted : ∀ lease ∈ arbiter.leases, lease.id.value < arbiter.nextLease)
    (epochs : ∀ lease ∈ arbiter.leases, lease.epoch = arbiter.epoch)
    (isSet : arbiter.epoch.isSet = true) : (arbiter.withLease request inherits).Stacked where
  nested := ⟨rfl, suspended, rfl, statuses⟩
  distinct := by
    rw [withLease, List.map_cons, List.nodup_cons]
    refine ⟨?_, distinct⟩
    intro member
    obtain ⟨lease, leaseMember, same⟩ := List.mem_map.mp member
    have below := counted lease leaseMember
    rw [same] at below
    exact Nat.lt_irrefl _ below
  counted := by
    rw [withLease, List.forall_mem_cons]
    exact ⟨Nat.lt_succ_self _, fun lease member => Nat.lt_succ_of_lt (counted lease member)⟩
  epochs := by
    rw [withLease, List.forall_mem_cons]
    exact ⟨rfl, epochs⟩
  started := fun _ => isSet

theorem Stacked.leases_of_inactive (stacked : arbiter.Stacked) (inactive : arbiter.active = none) :
    arbiter.leases = [] := by
  have nested := stacked.nested
  cases listed : arbiter.leases with
  | nil => rfl
  | cons top rest =>
    rw [listed] at nested
    rw [nested.1] at inactive
    cases inactive

theorem Stacked.granted (stacked : arbiter.Stacked)
    (inactive : arbiter.active = none) (isSet : epoch.isSet = true) :
    ((arbiter.withEpoch epoch).withLease request false).Stacked := by
  have listed := stacked.leases_of_inactive inactive
  have nested := stacked.nested
  rw [listed] at nested
  have empty : (arbiter.withEpoch epoch).leases = [] := listed
  apply stacked_withLease
  · rw [empty]
    exact nested.2
  · simp [empty]
  · simp [empty]
  · simp [empty]
  · simp [empty]
  · exact isSet

theorem Stacked.suspended {holder : LeaseState} (stacked : arbiter.Stacked)
    (listed : arbiter.leases = holder :: rest)
    (first : arbiter.epoch.isSet = true → arbiter.epoch = epoch) :
    (((arbiter.withEpoch epoch).suspend holder).withLease request true).Stacked := by
  have started : arbiter.epoch.isSet = true := stacked.started (listed ▸ List.cons_ne_nil _ _)
  have current := first started
  subst current
  have leases := stacked.suspend_leases listed
  obtain ⟨nested, distinct, counted, epochs, -⟩ := stacked
  rw [listed] at nested distinct counted epochs
  rw [List.forall_mem_cons] at counted epochs
  apply stacked_withLease
  · rw [withEpoch_of_current rfl, leases, suspend, nested.2.1]
    rfl
  · rw [withEpoch_of_current rfl, leases, List.forall_mem_cons]
    exact ⟨rfl, nested.2.2.2⟩
  · rw [withEpoch_of_current rfl, leases]
    exact distinct
  · rw [withEpoch_of_current rfl, leases, List.forall_mem_cons]
    exact counted
  · rw [withEpoch_of_current rfl, leases, List.forall_mem_cons]
    exact epochs
  · exact started

/-! ## Closing -/

/-- The parent of a closed lease as it is resumed. -/
def resumedParent (lease parent : LeaseState) : LeaseState :=
  if lease.mutatedBackend then
    { parent with
      status := .active
      stateGeneration := parent.stateGeneration + 1
      inputState := .neutral
      backendNeutral := true
      mutatedBackend := true
      currentBinding := none }
  else { parent with status := .active }

/-- The leases whose bindings go when a lease is closed above its parent. -/
def unbinds (lease parent : LeaseState) (other : InputLeaseId) : Bool :=
  other = lease.id || lease.mutatedBackend && other = parent.id

theorem Stacked.finishClose_last (stacked : arbiter.Stacked)
    (listed : arbiter.leases = [top]) (same : state.id = top.id) : arbiter.finishClose state =
      ({ ok := true
         status := .released
         lease := state.id
         epoch := state.epoch },
        { arbiter.eraseLeaseState state.id with
          leases := []
          active := none
          suspended := [] }) := by
  have nested := stacked.nested
  rw [listed] at nested
  simp [finishClose, eraseLeaseState, resumable, nested.2.1, listed, same]

/-- What is left below a lease that is erased. -/
theorem Stacked.filter_leases (stacked : arbiter.Stacked) (listed : arbiter.leases = top :: rest) :
    arbiter.leases.filter (·.id ≠ top.id) = rest ∧
      arbiter.suspended.filter (· ≠ top.id) = rest.map (·.id) := by
  have others := stacked.below listed
  have nested := stacked.nested
  rw [listed] at nested
  constructor
  · rw [listed, List.filter_cons_of_neg (by simp), List.filter_eq_self]
    intro lease member
    simpa using others lease member
  rw [nested.2.1, List.filter_eq_self]
  intro id member
  obtain ⟨lease, leaseMember, rfl⟩ := List.mem_map.mp member
  simpa using others lease leaseMember

/-- The parent of the top is the first one that can be resumed. -/
theorem resumable_parent {suspended : List InputLeaseId} (listed : arbiter.leases = parent :: below)
    (status : parent.status = .suspended) (epoch : parent.epoch = arbiter.epoch) :
    arbiter.resumable (parent.id :: suspended) = (some parent, suspended) := by
  have found : arbiter.findLease parent.id = some parent := by simp [findLease, listed]
  simp [resumable, found, status, epoch]

/-- What a close says when it resumes a lease that has to start over. -/
def resumedMessage : String := "suspended lease resumed in neutral state"

theorem Stacked.finishClose_parent (stacked : arbiter.Stacked)
    (listed : arbiter.leases = top :: parent :: below) (same : state.id = top.id) :
    ((arbiter.finishClose state).1.resumedLease = some parent.id ∧
      (state.mutatedBackend = true → (arbiter.finishClose state).1.message = resumedMessage)) ∧
      (arbiter.finishClose state).2 =
        { arbiter with
          leases := resumedParent state parent :: below
          active := some parent.id
          suspended := below.map (·.id)
          bindings := arbiter.bindings.filter fun binding => !unbinds state parent binding.lease
          relationships := arbiter.relationships.filter
            fun relationship => !unbinds state parent relationship.lease } := by
  obtain ⟨leasesLeft, suspendedLeft⟩ := stacked.filter_leases listed
  have nested := stacked.nested
  rw [listed] at nested
  have status : parent.status = .suspended := nested.2.2.2 parent List.mem_cons_self
  have epoch : parent.epoch = arbiter.epoch := by
    apply stacked.epochs
    rw [listed]
    simp
  have distinct := stacked.belowParent listed
  have resumes : ({ arbiter.eraseLeaseState top.id with
      active := none
      suspended := parent.id :: below.map (·.id) } : InputArbiter).resumable
        (parent.id :: below.map (·.id)) = (some parent, below.map (·.id)) :=
    resumable_parent leasesLeft status epoch
  have written : ∀ resumed : LeaseState, resumed.id = parent.id →
      ((arbiter.leases.filter (·.id ≠ top.id)).map fun other =>
        if other.id = resumed.id then resumed else other) = resumed :: below := by
    intro resumed sameId
    rw [leasesLeft, sameId, List.map_cons, if_pos rfl]
    refine congrArg _ (Eq.trans (List.map_congr_left (g := id) ?_) (List.map_id below))
    intro other member
    exact if_neg (distinct other member)
  unfold finishClose
  rw [same, suspendedLeft, List.map_cons]
  dsimp only
  rw [resumes]
  cases mutated : state.mutatedBackend with
  | false =>
    refine ⟨⟨by simp, nofun⟩, ?_⟩
    simp only [mutated, Bool.false_eq_true, if_false, setLease,
      eraseLeaseState, eraseBindingsForLease, resumedParent, unbinds,
      Bool.false_and, Bool.or_false, same]
    rw [written { parent with status := .active } rfl]
    simp
  | true =>
    refine ⟨⟨by simp, fun _ => by simp [resumedMessage]⟩, ?_⟩
    simp only [mutated, if_true, setLease, eraseLeaseState,
      eraseBindingsForLease, resumedParent, unbinds, Bool.true_and, same]
    rw [written { parent with
      status := .active
      stateGeneration := parent.stateGeneration + 1
      inputState := .neutral
      backendNeutral := true
      mutatedBackend := true
      currentBinding := none } rfl]
    simp [List.filter_filter, Bool.and_comm]

theorem Stacked.finishClose (stacked : arbiter.Stacked)
    (listed : arbiter.leases = top :: rest) (same : state.id = top.id) :
    (arbiter.finishClose state).2.Stacked := by
  cases rest with
  | nil =>
    rw [stacked.finishClose_last listed same]
    exact stacked_of_empty rfl rfl rfl
  | cons parent below =>
    obtain ⟨nested, distinct, counted, epochs, started⟩ := stacked
    rw [(Stacked.finishClose_parent ⟨nested, distinct, counted, epochs, started⟩ listed same).2]
    rw [listed] at nested distinct counted epochs started
    simp only [List.forall_mem_cons] at counted epochs
    have id : (resumedParent state parent).id = parent.id := by
      unfold resumedParent
      split <;> rfl
    have epoch : (resumedParent state parent).epoch = parent.epoch := by
      unfold resumedParent
      split <;> rfl
    have status : (resumedParent state parent).status = .active := by
      unfold resumedParent
      split <;> rfl
    constructor
    · exact ⟨congrArg some id.symm, rfl, status, fun lease member =>
        nested.2.2.2 lease (List.mem_cons_of_mem _ member)⟩
    · rw [List.map_cons, id]
      exact (List.nodup_cons.mp distinct).2
    · rw [List.forall_mem_cons, id]
      exact counted.2
    · rw [List.forall_mem_cons, epoch]
      exact epochs.2
    · intro _
      exact started (List.cons_ne_nil _ _)

/-! ## Steps -/

/-- A lease with the binding that is made next. -/
def boundLease (arbiter : InputArbiter) (state : LeaseState) : LeaseState :=
  { state with currentBinding := some ⟨arbiter.nextBinding⟩ }

section Top

section

variable (stacked : arbiter.Stacked) (listed : arbiter.leases = top :: rest)
include stacked listed

theorem Stacked.bound_leases {state : LeaseState} (same : state.id = top.id)
    (frame : GCInputFrame) (kind : InputBindingKind)
    (publication : Option PublishedState) (delivery : Option InputDeliveryId) :
    (arbiter.bindCurrentState state frame kind publication
      delivery).2.leases = arbiter.boundLease state :: rest :=
  setLease_leases listed (stacked.below listed) same

theorem Stacked.published_leases (publication : Publication) (inputState : InputState)
    (kind : InputBindingKind) (delivery : Option InputDeliveryId) :
    (arbiter.published top publication inputState kind delivery).2.leases =
      arbiter.boundLease (top.published publication.frame inputState) :: rest :=
  setLease_leases listed (stacked.below listed) rfl

theorem Stacked.delivered_leases (publication : Publication) :
    (arbiter.delivered top publication).2.leases =
      arbiter.boundLease (top.published publication.frame .deliveryPending) :: rest :=
  stacked.published_leases listed publication _ _ _

end

/-- A lease whose delivery is over. -/
def settled (state : LeaseState) (mutatedBackend : Bool) : LeaseState :=
  { state with
    stateGeneration := state.stateGeneration + 1
    inputState := .neutral
    backendNeutral := true
    mutatedBackend
    currentBinding := none }

theorem Stacked.settled_leases (stacked : arbiter.Stacked) (listed : arbiter.leases = top :: rest)
    (nextPublication : Nat) (mutatedBackend : Bool) :
    ({ arbiter with nextPublication }.settleDelivery top
      mutatedBackend).leases = settled top mutatedBackend :: rest :=
  setLease_leases listed (stacked.below listed) rfl

/-- The lease of a relationship that completes. -/
def retired (state : LeaseState) (binding : BindingState) : LeaseState :=
  if binding.kind = .neutralTransition then
    { state with inputState := .neutral }
  else state

theorem retired_fields (state : LeaseState) (binding : BindingState) :
    (retired state binding).id = state.id ∧ (retired state binding).status = state.status ∧
      (retired state binding).epoch = state.epoch := by
  unfold retired
  split <;> exact ⟨rfl, rfl, rfl⟩

theorem retire_eq (arbiter : InputArbiter) (state : LeaseState)
    (binding : BindingState) (relationship : InputExecutionRelationshipId) :
    arbiter.retire relationship state binding =
      { arbiter with
        leases :=
          if binding.kind = .neutralTransition then
            (arbiter.setLease { state with inputState := .neutral }).leases
          else arbiter.leases
        relationships := arbiter.relationships.filter (·.id ≠ relationship) } := by
  unfold retire
  split <;> rfl

theorem retire_leases (relationship : InputExecutionRelationshipId)
    (binding : BindingState) (listed : arbiter.leases = top :: rest)
    (others : ∀ lease ∈ rest, lease.id ≠ top.id) :
    (arbiter.retire relationship top binding).leases = retired top binding :: rest := by
  unfold retire retired
  split
  · exact setLease_leases listed others rfl
  · exact listed

theorem Stacked.retire {binding : BindingState}
    {relationship : InputExecutionRelationshipId} (stacked : arbiter.Stacked)
    (listed : arbiter.leases = top :: rest) :
    (arbiter.retire relationship top binding).Stacked := by
  have leases := retire_leases relationship binding listed (stacked.below listed)
  have lease := retired_fields top binding
  apply stacked.replaced listed leases lease.1 lease.2.1 lease.2.2
  all_goals rw [retire_eq]

theorem Stacked.neutralize (stacked : arbiter.Stacked) (listed : arbiter.leases = top :: rest) :
    (arbiter.neutralize top).leases = top.neutralized :: rest ∧
      (arbiter.neutralize top).Stacked := by
  have leases : (arbiter.neutralize top).leases = top.neutralized :: rest :=
    setLease_leases listed (stacked.below listed) rfl
  exact ⟨leases, stacked.replaced listed leases rfl rfl rfl rfl rfl rfl rfl⟩

end Top

theorem Stacked.step {result : InputEvent × InputArbiter}
    (stacked : arbiter.Stacked) (step : ArbiterStep arbiter call result) : result.2.Stacked := by
  cases step with
  | refused | answered | repeated => exact stacked
  | initialized serves quiet isSet first => exact stacked.withEpoch isSet first
  | granted request serves isSet first inactive asked => exact stacked.granted inactive isSet
  | suspended request holder serves isSet first active found asked =>
    obtain ⟨rest, listed⟩ := stacked.top active found
    exact stacked.suspended listed first
  | bound state serves holds neutral =>
    obtain ⟨rest, listed⟩ := stacked.holds holds
    exact stacked.replaced listed
      (stacked.bound_leases listed rfl _ _ _ _) rfl rfl rfl rfl rfl rfl rfl
  | applied _ publication _ holds | began _ publication _ holds =>
    obtain ⟨rest, listed⟩ := stacked.holds holds
    exact stacked.replaced listed
      (stacked.published_leases listed publication _ _ _) rfl rfl rfl rfl rfl rfl rfl
  | replaced state delivery publication epoch serves delivers =>
    obtain ⟨rest, listed⟩ := stacked.holds delivers.holds
    exact stacked.replaced listed
      (stacked.published_leases listed publication _ _ _) rfl rfl rfl rfl rfl rfl rfl
  | completed state delivery epoch nextPublication mutated serves delivers =>
    obtain ⟨rest, listed⟩ := stacked.holds delivers.holds
    exact stacked.replaced listed
      (stacked.settled_leases listed nextPublication mutated) rfl rfl rfl rfl rfl rfl rfl
  | related | unrelated => exact stacked.of_same rfl rfl rfl rfl rfl
  | witnessed relationship state binding serves relates =>
    obtain ⟨rest, listed⟩ := stacked.holds relates.holds
    exact stacked.retire listed
  | observed relationship state binding poll serves relates =>
    obtain ⟨rest, listed⟩ := stacked.holds relates.holds
    refine Stacked.retire ?_ listed
    exact stacked.of_same rfl rfl rfl rfl rfl
  | closed state serves found active =>
    obtain ⟨rest, listed⟩ := stacked.top active found
    exact stacked.finishClose listed rfl
  | neutralized state serves found active =>
    obtain ⟨rest, listed⟩ := stacked.top active found
    obtain ⟨leases, neutralized⟩ := stacked.neutralize listed
    exact neutralized.finishClose leases rfl
  | shutDown => exact stacked_of_empty rfl rfl rfl

end InputArbiter

end Savor.Input

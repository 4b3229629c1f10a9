import Mathlib.Data.List.Nodup
import Mathlib.Data.List.Pairwise
import Savor.Input.InputStack

/-!
# Bindings name the state of a lease

Every binding is the current one of its lease, and says which state the lease is
in.  A relationship names a binding, in the epoch and the generation of its
lease.
-/

namespace Savor.Input

open Library Program

/-- The state of the lease that a binding is current for. -/
def BindingState.inputState (binding : BindingState) : InputState :=
  match binding.kind with
  | .stableNeutral => .neutral
  | .held => .held
  | .delivery => .deliveryPending
  | .neutralTransition => if binding.observed then .neutral else .neutralTransitionPending

/-- The binding is the current one of the lease, and says what state it is in. -/
structure Matches (lease : LeaseState) (binding : BindingState) : Prop where
  owner : binding.lease = lease.id
  current : lease.currentBinding = some binding.id
  epoch : binding.epoch = lease.epoch
  generation : binding.stateGeneration = lease.stateGeneration
  state : lease.inputState = binding.inputState
  recorded : binding.kind ≠ .stableNeutral → binding.frame.isNeutral = true →
    lease.backendNeutral = true
  required : binding.kind ≠ .stableNeutral → binding.requiresObservation = true
  delivery : binding.delivery.isSome = decide (binding.kind = .delivery)

/-- The relationship names the binding. -/
structure Names (relationship : RelationshipState) (binding : BindingState) : Prop where
  named : relationship.binding = binding.id
  lease : relationship.lease = binding.lease
  epoch : relationship.epoch = binding.epoch
  generation : relationship.stateGeneration = binding.stateGeneration

variable {binding : BindingState} {lease : LeaseState}

theorem Matches.withStatus (isMatch : Matches lease binding) (status : InputLeaseStatus) :
    Matches { lease with status } binding :=
  ⟨isMatch.owner, isMatch.current, isMatch.epoch, isMatch.generation,
    isMatch.state, isMatch.recorded, isMatch.required, isMatch.delivery⟩

theorem Matches.neutralized (isMatch : Matches lease binding) : Matches lease.neutralized binding :=
  ⟨isMatch.owner, isMatch.current, isMatch.epoch, isMatch.generation,
    isMatch.state, fun _ _ => rfl, isMatch.required, isMatch.delivery⟩

/-- Observing a neutral transition ends it. -/
theorem Matches.retired (isMatch : Matches lease binding)
    (arbiter : InputArbiter) (poll : BackendInputPoll) :
    Matches (InputArbiter.retired lease (arbiter.seen binding poll))
      (arbiter.seen binding poll) := by
  unfold InputArbiter.retired
  split
  · rename_i transition
    refine ⟨isMatch.owner, isMatch.current, isMatch.epoch, isMatch.generation,
      ?_, isMatch.recorded, isMatch.required, isMatch.delivery⟩
    have isTransition : binding.kind = .neutralTransition := transition
    simp [BindingState.inputState, InputArbiter.seen, isTransition]
  rename_i other
  refine ⟨isMatch.owner, isMatch.current, isMatch.epoch, isMatch.generation,
    ?_, isMatch.recorded, isMatch.required, isMatch.delivery⟩
  rw [isMatch.state]
  unfold BindingState.inputState InputArbiter.seen
  cases isKind : binding.kind with
  | neutralTransition => exact absurd isKind other
  | stableNeutral | held | delivery => rfl

namespace InputArbiter

/-- The bindings are the current states of the leases. -/
structure Bound (arbiter : InputArbiter) : Prop where
  owned : ∀ binding ∈ arbiter.bindings, ∃ lease ∈ arbiter.leases, Matches lease binding
  bound : ∀ lease ∈ arbiter.leases, ∀ id, lease.currentBinding = some id →
    ∃ binding ∈ arbiter.bindings, binding.id = id ∧ binding.lease = lease.id
  unbound : ∀ lease ∈ arbiter.leases, lease.currentBinding = none → lease.inputState = .neutral
  distinct : (arbiter.bindings.map (·.id)).Nodup
  counted : ∀ binding ∈ arbiter.bindings, binding.id.value < arbiter.nextBinding
  deliveries : ∀ binding ∈ arbiter.bindings, ∀ id, binding.delivery = some id →
    id.value < arbiter.nextDelivery
  deliveriesDistinct : (arbiter.bindings.filterMap (·.delivery)).Nodup
  related : ∀ relationship ∈ arbiter.relationships,
    ∃ binding ∈ arbiter.bindings, Names relationship binding
  relationshipsCounted : ∀ relationship ∈ arbiter.relationships,
    relationship.id.value < arbiter.nextRelationship
  relationshipsDistinct : (arbiter.relationships.map (·.id)).Nodup

variable {arbiter : InputArbiter} {call : InputCall}

theorem bound_of_empty (leases : arbiter.leases = []) (bindings : arbiter.bindings = [])
    (relationships : arbiter.relationships = []) : arbiter.Bound where
  owned := by simp [bindings]
  bound := by simp [leases]
  unbound := by simp [leases]
  distinct := by simp [bindings]
  counted := by simp [bindings]
  deliveries := by simp [bindings]
  deliveriesDistinct := by simp [bindings]
  related := by simp [relationships]
  relationshipsCounted := by simp [relationships]
  relationshipsDistinct := by simp [relationships]

theorem bound_new (ownerThread : ThreadId) : (new ownerThread).Bound := bound_of_empty rfl rfl rfl

variable {after : InputArbiter} {top state : LeaseState}
variable {rest : List LeaseState}

/-- The leases change without touching what the bindings say of them, and
relationships may go. -/
theorem Bound.of_leases (bound : arbiter.Bound) (bindings : after.bindings = arbiter.bindings)
    (relationships : after.relationships.Sublist arbiter.relationships)
    (nextBinding : after.nextBinding = arbiter.nextBinding)
    (nextDelivery : after.nextDelivery = arbiter.nextDelivery)
    (nextRelationship : after.nextRelationship = arbiter.nextRelationship)
    (kept : ∀ lease ∈ arbiter.leases, ∀ binding, Matches lease binding →
      ∃ other ∈ after.leases, Matches other binding)
    (known : ∀ lease ∈ after.leases, lease.currentBinding = none ∧ lease.inputState = .neutral ∨
      ∃ other ∈ arbiter.leases, lease.id = other.id ∧ lease.currentBinding = other.currentBinding ∧
        lease.inputState = other.inputState) :
    after.Bound where
  owned := by
    rw [bindings]
    intro binding member
    obtain ⟨lease, leaseMember, isMatch⟩ := bound.owned binding member
    exact kept lease leaseMember binding isMatch
  bound := by
    intro lease member id current
    obtain ⟨unset, -⟩ | ⟨other, otherMember, same, binding, -⟩ := known lease member
    · rw [unset] at current
      cases current
    · rw [bindings, same]
      exact bound.bound other otherMember id (binding ▸ current)
  unbound := by
    intro lease member unset
    obtain ⟨-, neutral⟩ | ⟨other, otherMember, -, binding, state⟩ := known lease member
    · exact neutral
    · rw [state]
      exact bound.unbound other otherMember (binding ▸ unset)
  distinct := bindings ▸ bound.distinct
  counted := by
    rw [bindings, nextBinding]
    exact bound.counted
  deliveries := by
    rw [bindings, nextDelivery]
    exact bound.deliveries
  deliveriesDistinct := bindings ▸ bound.deliveriesDistinct
  related := by
    rw [bindings]
    intro relationship member
    exact bound.related relationship (relationships.subset member)
  relationshipsCounted := by
    rw [nextRelationship]
    intro relationship member
    exact bound.relationshipsCounted relationship (relationships.subset member)
  relationshipsDistinct := bound.relationshipsDistinct.sublist (relationships.map _)

/-- The bindings of the top of the stack give way to a fresh one, or to none. -/
structure Rebinds (arbiter after : InputArbiter) (top state : LeaseState)
    (fresh : Option BindingState) : Prop where
  same : state.id = top.id
  bindings : after.bindings = fresh.toList ++ arbiter.bindings.filter (·.lease ≠ top.id)
  relationships : after.relationships = arbiter.relationships.filter (·.lease ≠ top.id)
  matching : ∀ binding ∈ fresh, Matches state binding
  unbound : fresh = none → state.currentBinding = none ∧ state.inputState = .neutral
  nextBinding : ∀ binding ∈ fresh,
    arbiter.nextBinding ≤ binding.id.value ∧ binding.id.value < after.nextBinding
  grows : arbiter.nextBinding ≤ after.nextBinding
  nextDelivery : ∀ binding ∈ fresh, ∀ id, binding.delivery = some id →
    arbiter.nextDelivery ≤ id.value ∧ id.value < after.nextDelivery
  delivers : arbiter.nextDelivery ≤ after.nextDelivery
  nextRelationship : after.nextRelationship = arbiter.nextRelationship

section

variable (bound : arbiter.Bound) (listed : arbiter.leases = top :: rest)
variable (others : ∀ lease ∈ rest, lease.id ≠ top.id)
include bound listed others

theorem Bound.rebind {fresh : Option BindingState} (leases : after.leases = state :: rest)
    (rebinds : Rebinds arbiter after top state fresh) : after.Bound where
  owned := by
    rw [rebinds.bindings, leases]
    intro binding member
    rcases List.mem_append.mp member with new | old
    · exact ⟨state, List.mem_cons_self, rebinds.matching binding (Option.mem_toList.mp new)⟩
    simp only [List.mem_filter, decide_eq_true_eq] at old
    obtain ⟨lease, leaseMember, isMatch⟩ := bound.owned binding old.1
    rw [listed, List.mem_cons] at leaseMember
    rcases leaseMember with rfl | below
    · exact absurd isMatch.owner old.2
    · exact ⟨lease, List.mem_cons_of_mem _ below, isMatch⟩
  bound := by
    rw [rebinds.bindings, leases]
    intro lease member id current
    rcases List.mem_cons.mp member with rfl | below
    · cases isFresh : fresh with
      | none =>
        rw [(rebinds.unbound isFresh).1] at current
        cases current
      | some binding =>
        have isMatch := rebinds.matching binding isFresh
        rw [isMatch.current, Option.some.injEq] at current
        exact ⟨binding, by simp, current, isMatch.owner⟩
    obtain ⟨binding, bindingMember, named, owner⟩ :=
      bound.bound lease (listed ▸ List.mem_cons_of_mem _ below) id current
    refine ⟨binding, List.mem_append_right _ ?_, named, owner⟩
    simpa [bindingMember, owner] using others lease below
  unbound := by
    rw [leases]
    intro lease member unset
    rcases List.mem_cons.mp member with rfl | below
    · cases isFresh : fresh with
      | none => exact (rebinds.unbound isFresh).2
      | some binding =>
        rw [(rebinds.matching binding isFresh).current] at unset
        cases unset
    · exact bound.unbound lease (listed ▸ List.mem_cons_of_mem _ below) unset
  distinct := by
    rw [rebinds.bindings]
    have kept : ((arbiter.bindings.filter (·.lease ≠ top.id)).map (·.id)).Nodup :=
      bound.distinct.sublist (List.filter_sublist.map _)
    cases isFresh : fresh with
    | none => exact kept
    | some binding =>
      refine List.nodup_cons.mpr ⟨?_, kept⟩
      intro member
      obtain ⟨other, otherMember, same⟩ := List.mem_map.mp member
      have equal : other.id = binding.id := same
      have below := bound.counted other (List.mem_filter.mp otherMember).1
      have above := (rebinds.nextBinding binding isFresh).1
      rw [equal] at below
      omega
  counted := by
    rw [rebinds.bindings]
    intro binding member
    rcases List.mem_append.mp member with new | old
    · exact (rebinds.nextBinding binding (Option.mem_toList.mp new)).2
    · exact Nat.lt_of_lt_of_le (bound.counted binding (List.mem_filter.mp old).1) rebinds.grows
  deliveries := by
    rw [rebinds.bindings]
    intro binding member id delivered
    rcases List.mem_append.mp member with new | old
    · exact (rebinds.nextDelivery binding (Option.mem_toList.mp new) id delivered).2
    exact Nat.lt_of_lt_of_le (bound.deliveries binding (List.mem_filter.mp old).1 id delivered)
      rebinds.delivers
  deliveriesDistinct := by
    rw [rebinds.bindings]
    have kept : ((arbiter.bindings.filter (·.lease ≠ top.id)).filterMap (·.delivery)).Nodup :=
      bound.deliveriesDistinct.sublist (List.filter_sublist.filterMap _)
    cases isFresh : fresh with
    | none => exact kept
    | some binding =>
      rw [Option.toList_some, List.singleton_append]
      cases delivered : binding.delivery with
      | none =>
        rw [List.filterMap_cons_none delivered]
        exact kept
      | some id =>
        rw [List.filterMap_cons_some delivered, List.nodup_cons]
        refine ⟨?_, kept⟩
        intro member
        obtain ⟨other, otherMember, same⟩ := List.mem_filterMap.mp member
        have below := bound.deliveries other (List.mem_filter.mp otherMember).1 id same
        have above := (rebinds.nextDelivery binding isFresh id delivered).1
        omega
  related := by
    rw [rebinds.bindings, rebinds.relationships]
    intro relationship member
    simp only [List.mem_filter, decide_eq_true_eq] at member
    obtain ⟨binding, bindingMember, names⟩ := bound.related relationship member.1
    refine ⟨binding, List.mem_append_right _ ?_, names⟩
    simp only [List.mem_filter, decide_eq_true_eq]
    exact ⟨bindingMember, names.lease ▸ member.2⟩
  relationshipsCounted := by
    rw [rebinds.relationships, rebinds.nextRelationship]
    intro relationship member
    exact bound.relationshipsCounted relationship (List.mem_filter.mp member).1
  relationshipsDistinct := by
    rw [rebinds.relationships]
    exact bound.relationshipsDistinct.sublist (List.filter_sublist.map _)

theorem Bound.pop (leases : after.leases = rest)
    (bindings : after.bindings = arbiter.bindings.filter (·.lease ≠ top.id)) (relationships :
      after.relationships = arbiter.relationships.filter (·.lease ≠ top.id))
    (nextBinding : after.nextBinding = arbiter.nextBinding)
    (nextDelivery : after.nextDelivery = arbiter.nextDelivery)
    (nextRelationship : after.nextRelationship = arbiter.nextRelationship) : after.Bound where
  owned := by
    rw [bindings, leases]
    intro binding member
    simp only [List.mem_filter, decide_eq_true_eq] at member
    obtain ⟨lease, leaseMember, isMatch⟩ := bound.owned binding member.1
    rw [listed, List.mem_cons] at leaseMember
    rcases leaseMember with rfl | below
    · exact absurd isMatch.owner member.2
    · exact ⟨lease, below, isMatch⟩
  bound := by
    rw [bindings, leases]
    intro lease member id current
    obtain ⟨binding, bindingMember, named, owner⟩ :=
      bound.bound lease (listed ▸ List.mem_cons_of_mem _ member) id current
    refine ⟨binding, ?_, named, owner⟩
    simpa [bindingMember, owner] using others lease member
  unbound := by
    rw [leases]
    intro lease member
    exact bound.unbound lease (listed ▸ List.mem_cons_of_mem _ member)
  distinct := by
    rw [bindings]
    exact bound.distinct.sublist (List.filter_sublist.map _)
  counted := by
    rw [bindings, nextBinding]
    intro binding member
    exact bound.counted binding (List.mem_filter.mp member).1
  deliveries := by
    rw [bindings, nextDelivery]
    intro binding member
    exact bound.deliveries binding (List.mem_filter.mp member).1
  deliveriesDistinct := by
    rw [bindings]
    exact bound.deliveriesDistinct.sublist (List.filter_sublist.filterMap _)
  related := by
    rw [bindings, relationships]
    intro relationship member
    simp only [List.mem_filter, decide_eq_true_eq] at member
    obtain ⟨binding, bindingMember, names⟩ := bound.related relationship member.1
    refine ⟨binding, ?_, names⟩
    simp only [List.mem_filter, decide_eq_true_eq]
    exact ⟨bindingMember, names.lease ▸ member.2⟩
  relationshipsCounted := by
    rw [relationships, nextRelationship]
    intro relationship member
    exact bound.relationshipsCounted relationship (List.mem_filter.mp member).1
  relationshipsDistinct := by
    rw [relationships]
    exact bound.relationshipsDistinct.sublist (List.filter_sublist.map _)

end

theorem Bound.finishClose (stacked : arbiter.Stacked) (bound : arbiter.Bound)
    (listed : arbiter.leases = top :: rest) (same : state.id = top.id) :
    (arbiter.finishClose state).2.Bound := by
  have others := stacked.below listed
  cases rest with
  | nil =>
    rw [stacked.finishClose_last listed same, same]
    exact bound.pop listed others rfl rfl rfl rfl rfl rfl
  | cons parent below =>
    rw [(stacked.finishClose_parent listed same).2]
    have popped : ({ arbiter with
        leases := parent :: below
        bindings := arbiter.bindings.filter (·.lease ≠ top.id)
        relationships := arbiter.relationships.filter (·.lease ≠ top.id) } : InputArbiter).Bound :=
      bound.pop listed others rfl rfl rfl rfl rfl rfl
    have id : (resumedParent state parent).id = parent.id := by
      unfold resumedParent
      split <;> rfl
    cases mutated : state.mutatedBackend with
    | false =>
      have resumed : resumedParent state parent =
          { parent with status := .active } := by
        simp [resumedParent, mutated]
      apply popped.of_leases
      · simp [unbinds, mutated, same]
      · simp [unbinds, mutated, same]
      · rfl
      · rfl
      · rfl
      · intro lease member binding isMatch
        rcases List.mem_cons.mp member with rfl | deeper
        · refine ⟨_, List.mem_cons_self, ?_⟩
          rw [resumed]
          exact isMatch.withStatus .active
        · exact ⟨lease, List.mem_cons_of_mem _ deeper, isMatch⟩
      intro lease member
      rcases List.mem_cons.mp member with rfl | deeper
      · refine .inr ⟨parent, List.mem_cons_self, id, ?_⟩
        rw [resumed]
        exact ⟨rfl, rfl⟩
      · exact .inr ⟨lease, List.mem_cons_of_mem _ deeper, rfl, rfl, rfl⟩
    | true =>
      refine popped.rebind rfl (stacked.belowParent listed) rfl (?_ : Rebinds _ _ parent _ none)
      refine ⟨id, ?_, ?_, by rintro _ ⟨⟩, ?_, by rintro _ ⟨⟩,
        Nat.le_refl _, by rintro _ ⟨⟩, Nat.le_refl _, rfl⟩
      · simp only [unbinds, mutated, same, Bool.true_and, Option.toList_none,
          List.nil_append, List.filter_filter]
        apply List.filter_congr
        intro binding _
        simp [Bool.and_comm]
      · simp only [unbinds, mutated, same, Bool.true_and, List.filter_filter]
        apply List.filter_congr
        intro relationship _
        simp [Bool.and_comm]
      · intro _
        simp [resumedParent, mutated]

theorem Bound.matching (bound : arbiter.Bound) (stacked : arbiter.Stacked)
    (listed : arbiter.leases = state :: rest) (current : state.currentBinding = some binding.id)
    (found : arbiter.findBinding binding.id = some binding) :
    binding ∈ arbiter.bindings ∧ Matches state binding := by
  have member : binding ∈ arbiter.bindings := List.mem_of_find?_eq_some found
  have stateMember : state ∈ arbiter.leases := by
    rw [listed]
    exact List.mem_cons_self
  obtain ⟨other, otherMember, named, owner⟩ := bound.bound state stateMember binding.id current
  have same : other = binding := List.inj_on_of_nodup_map bound.distinct otherMember member named
  obtain ⟨lease, leaseMember, isMatch⟩ := bound.owned binding member
  have sameLease : lease = state := by
    apply List.inj_on_of_nodup_map stacked.distinct leaseMember stateMember
    rw [← isMatch.owner, ← owner, same]
  subst sameLease
  exact ⟨member, isMatch⟩

theorem Bound.delivery_unique {left right : BindingState} {id : InputDeliveryId}
    (bound : arbiter.Bound) (leftMember : left ∈ arbiter.bindings)
    (rightMember : right ∈ arbiter.bindings) (leftDelivery : left.delivery = some id)
    (rightDelivery : right.delivery = some id) : left = right := by
  have distinct := List.pairwise_filterMap.mp bound.deliveriesDistinct
  have symmetric : Std.Symm fun first second : BindingState =>
      ∀ value, first.delivery = some value →
        ∀ other, second.delivery = some other → value ≠ other := by
    constructor
    intro first second apart value isValue other isOther same
    exact apart other isOther value isValue same.symm
  by_contra different
  exact distinct.forall leftMember rightMember different id leftDelivery id rightDelivery rfl

/-- The binding as it is once the guest observed it. -/
structure Observes (binding seen : BindingState) : Prop where
  id : seen.id = binding.id
  lease : seen.lease = binding.lease
  epoch : seen.epoch = binding.epoch
  generation : seen.stateGeneration = binding.stateGeneration
  delivery : seen.delivery = binding.delivery

theorem Bound.observe {seen : BindingState} (bound : arbiter.Bound)
    (listed : arbiter.leases = top :: rest)
    (member : binding ∈ arbiter.bindings) (observes : Observes binding seen)
    (leases : after.leases = state :: rest)
    (bindings : after.bindings = arbiter.bindings.map fun other =>
      if other.id = seen.id then seen else other)
    (relationships : after.relationships.Sublist arbiter.relationships)
    (nextBinding : after.nextBinding = arbiter.nextBinding)
    (nextDelivery : after.nextDelivery = arbiter.nextDelivery)
    (nextRelationship : after.nextRelationship = arbiter.nextRelationship)
    (current : top.currentBinding = some binding.id) (isMatch : Matches state seen) :
    after.Bound := by
  have kept : ∀ other ∈ arbiter.bindings,
      Observes other (if other.id = seen.id then seen else other) := by
    intro other otherMember
    split
    · rename_i same
      have equal : other = binding :=
        List.inj_on_of_nodup_map bound.distinct otherMember member (same.trans observes.id)
      rw [equal]
      exact observes
    · exact ⟨rfl, rfl, rfl, rfl, rfl⟩
  constructor
  · rw [bindings, leases]
    intro changed changedMember
    obtain ⟨other, otherMember, rfl⟩ := List.mem_map.mp changedMember
    split
    · exact ⟨state, List.mem_cons_self, isMatch⟩
    rename_i different
    obtain ⟨lease, leaseMember, otherMatch⟩ := bound.owned other otherMember
    rw [listed, List.mem_cons] at leaseMember
    rcases leaseMember with rfl | below
    · rw [otherMatch.current, Option.some.injEq] at current
      exact absurd (current.trans observes.id.symm) different
    · exact ⟨lease, List.mem_cons_of_mem _ below, otherMatch⟩
  · rw [bindings, leases]
    intro lease leaseMember id isCurrent
    rcases List.mem_cons.mp leaseMember with rfl | below
    · refine ⟨seen, List.mem_map.mpr ⟨binding, member, ?_⟩, ?_, isMatch.owner⟩
      · rw [if_pos observes.id.symm]
      · rw [isMatch.current, Option.some.injEq] at isCurrent
        exact isCurrent
    obtain ⟨other, otherMember, named, owner⟩ :=
      bound.bound lease (listed ▸ List.mem_cons_of_mem _ below) id isCurrent
    have same := kept other otherMember
    exact ⟨_, List.mem_map_of_mem otherMember, same.id.trans named, same.lease.trans owner⟩
  · rw [leases]
    intro lease leaseMember unset
    rcases List.mem_cons.mp leaseMember with rfl | below
    · rw [isMatch.current] at unset
      cases unset
    · exact bound.unbound lease (listed ▸ List.mem_cons_of_mem _ below) unset
  · rw [bindings, List.map_map]
    refine (List.map_congr_left ?_ : _ = arbiter.bindings.map (·.id)) ▸ bound.distinct
    intro other otherMember
    exact (kept other otherMember).id
  · rw [bindings, nextBinding]
    intro changed changedMember
    obtain ⟨other, otherMember, rfl⟩ := List.mem_map.mp changedMember
    rw [(kept other otherMember).id]
    exact bound.counted other otherMember
  · rw [bindings, nextDelivery]
    intro changed changedMember
    obtain ⟨other, otherMember, rfl⟩ := List.mem_map.mp changedMember
    rw [(kept other otherMember).delivery]
    exact bound.deliveries other otherMember
  · rw [bindings, List.filterMap_map]
    refine (List.filterMap_congr ?_ :
      _ = arbiter.bindings.filterMap (·.delivery)) ▸ bound.deliveriesDistinct
    intro other otherMember
    exact (kept other otherMember).delivery
  · rw [bindings]
    intro relationship relationshipMember
    obtain ⟨other, otherMember, names⟩ :=
      bound.related relationship (relationships.subset relationshipMember)
    have same := kept other otherMember
    exact ⟨_, List.mem_map_of_mem otherMember, names.named.trans same.id.symm,
      names.lease.trans same.lease.symm, names.epoch.trans same.epoch.symm,
      names.generation.trans same.generation.symm⟩
  · rw [nextRelationship]
    intro relationship relationshipMember
    exact bound.relationshipsCounted relationship (relationships.subset relationshipMember)
  · exact bound.relationshipsDistinct.sublist (relationships.map _)

/-! ## Steps -/

/-- Only counters of other things change. -/
theorem Bound.of_same (bound : arbiter.Bound) (leases : after.leases = arbiter.leases)
    (bindings : after.bindings = arbiter.bindings)
    (relationships : after.relationships.Sublist arbiter.relationships)
    (nextBinding : after.nextBinding = arbiter.nextBinding)
    (nextDelivery : after.nextDelivery = arbiter.nextDelivery)
    (nextRelationship : after.nextRelationship = arbiter.nextRelationship) : after.Bound := by
  apply bound.of_leases bindings relationships nextBinding nextDelivery nextRelationship
  · intro lease member binding isMatch
    exact ⟨lease, leases ▸ member, isMatch⟩
  · intro lease member
    exact .inr ⟨lease, leases ▸ member, rfl, rfl, rfl⟩

theorem Bound.of_top (bound : arbiter.Bound) (listed : arbiter.leases = top :: rest)
    (leases : after.leases = state :: rest) (bindings : after.bindings = arbiter.bindings)
    (relationships : after.relationships.Sublist arbiter.relationships)
    (nextBinding : after.nextBinding = arbiter.nextBinding)
    (nextDelivery : after.nextDelivery = arbiter.nextDelivery)
    (nextRelationship : after.nextRelationship = arbiter.nextRelationship)
    (matching : ∀ binding, Matches top binding → Matches state binding) (id : state.id = top.id)
    (current : state.currentBinding = top.currentBinding)
    (inputState : state.inputState = top.inputState) : after.Bound := by
  apply bound.of_leases bindings relationships nextBinding nextDelivery nextRelationship
  · rw [listed, leases]
    intro lease member binding isMatch
    rcases List.mem_cons.mp member with rfl | below
    · exact ⟨state, List.mem_cons_self, matching binding isMatch⟩
    · exact ⟨lease, List.mem_cons_of_mem _ below, isMatch⟩
  rw [listed, leases]
  intro lease member
  rcases List.mem_cons.mp member with rfl | below
  · exact .inr ⟨top, List.mem_cons_self, id, current, inputState⟩
  · exact .inr ⟨lease, List.mem_cons_of_mem _ below, rfl, rfl, rfl⟩

theorem Bound.withLease {request : InputLeaseRequest} {inherits : Bool} (bound : arbiter.Bound) :
    (arbiter.withLease request inherits).Bound := by
  refine bound.of_leases rfl (List.Sublist.refl _) rfl rfl rfl ?_ ?_
  · intro lease member binding isMatch
    exact ⟨lease, List.mem_cons_of_mem _ member, isMatch⟩
  intro lease member
  rcases List.mem_cons.mp member with rfl | below
  · exact .inl ⟨rfl, rfl⟩
  · exact .inr ⟨lease, below, rfl, rfl, rfl⟩

/-- The binding that a state is given. -/
def freshBinding (arbiter : InputArbiter) (lease : LeaseState)
    (frame : GCInputFrame) (kind : InputBindingKind)
    (publication : Option PublishedState) (delivery : Option InputDeliveryId) : BindingState :=
  { id := ⟨arbiter.nextBinding⟩
    lease := lease.id
    epoch := lease.epoch
    stateGeneration := lease.stateGeneration
    frame
    kind
    publication := publication.map (·.publication)
    backendPublicationEpoch := (publication.map (·.backendPublicationEpoch)).getD 0
    requiresObservation := publication.isSome
    observed := !publication.isSome
    delivery }

variable {delivery : Option InputDeliveryId} {kind : InputBindingKind}

theorem Bound.bindCurrentState {frame : GCInputFrame}
    {publication : Option PublishedState} {nextDelivery : Nat}
    (bound : arbiter.Bound) (stacked : arbiter.Stacked)
    (listed : arbiter.leases = top :: rest) (same : state.id = top.id)
    (inputState : state.inputState =
      (arbiter.freshBinding state frame kind publication delivery).inputState)
    (recorded : kind ≠ .stableNeutral →
      publication.isSome = true ∧ (frame.isNeutral = true → state.backendNeutral = true))
    (delivered : delivery.isSome = decide (kind = .delivery)) (counted : ∀ id, delivery = some id →
      arbiter.nextDelivery ≤ id.value ∧ id.value < nextDelivery)
    (grows : arbiter.nextDelivery ≤ nextDelivery) :
    { (arbiter.bindCurrentState state frame kind publication
      delivery).2 with nextDelivery }.Bound := by
  refine bound.rebind listed (stacked.below listed)
    (stacked.bound_leases listed same frame kind publication delivery)
    (?_ : Rebinds _ _ _ _ (some (arbiter.freshBinding state frame kind publication delivery)))
  constructor
  · exact same
  · rw [← same]
    rfl
  · rw [← same]
    rfl
  · rintro _ ⟨⟩
    exact ⟨rfl, rfl, rfl, rfl, inputState, fun published =>
      (recorded published).2, fun published => (recorded published).1,
      delivered⟩
  · nofun
  · rintro _ ⟨⟩
    exact ⟨Nat.le_refl _, Nat.lt_succ_self _⟩
  · exact Nat.le_succ _
  · rintro _ ⟨⟩
    exact counted
  · exact grows
  · rfl

variable {publication : Publication}

theorem Bound.published {inputState : InputState} {nextDelivery : Nat}
    (bound : arbiter.Bound) (stacked : arbiter.Stacked) (listed : arbiter.leases = top :: rest)
    (states : (kind = .held ∧ inputState = .held) ∨
      (kind = .delivery ∧ inputState = .deliveryPending) ∨
      (kind = .neutralTransition ∧ inputState = .neutralTransitionPending))
    (delivered : delivery.isSome = decide (kind = .delivery)) (counted : ∀ id, delivery = some id →
      arbiter.nextDelivery ≤ id.value ∧ id.value < nextDelivery)
    (grows : arbiter.nextDelivery ≤ nextDelivery) :
    { (arbiter.published top publication inputState kind delivery).2 with
      nextDelivery }.Bound := by
  refine Bound.bindCurrentState ?_ ?_ listed rfl ?_ (fun _ => ⟨rfl, id⟩) delivered counted grows
  · exact bound.of_same rfl rfl (List.Sublist.refl _) rfl rfl rfl
  · exact stacked.of_same rfl rfl rfl rfl rfl
  · obtain ⟨rfl, rfl⟩ | ⟨rfl, rfl⟩ | ⟨rfl, rfl⟩ := states <;> rfl

theorem Bound.delivered (bound : arbiter.Bound) (stacked : arbiter.Stacked)
    (listed : arbiter.leases = top :: rest) : (arbiter.delivered top publication).2.Bound := by
  refine bound.published stacked listed (.inr (.inl ⟨rfl, rfl⟩)) rfl ?_ (Nat.le_succ _)
  rintro _ ⟨⟩
  exact ⟨Nat.le_refl _, Nat.lt_succ_self _⟩

theorem Bound.withRelationship {relationship : RelationshipState}
    (bound : arbiter.Bound) (member : binding ∈ arbiter.bindings)
    (names : Names relationship binding) (id : relationship.id.value = arbiter.nextRelationship)
    (leases : after.leases = arbiter.leases) (bindings : after.bindings = arbiter.bindings)
    (relationships : after.relationships = relationship :: arbiter.relationships)
    (nextBinding : after.nextBinding = arbiter.nextBinding)
    (nextDelivery : after.nextDelivery = arbiter.nextDelivery)
    (nextRelationship : after.nextRelationship = arbiter.nextRelationship + 1) : after.Bound where
  owned := by
    rw [bindings, leases]
    exact bound.owned
  bound := by
    rw [bindings, leases]
    exact bound.bound
  unbound := by
    rw [leases]
    exact bound.unbound
  distinct := bindings ▸ bound.distinct
  counted := by
    rw [bindings, nextBinding]
    exact bound.counted
  deliveries := by
    rw [bindings, nextDelivery]
    exact bound.deliveries
  deliveriesDistinct := bindings ▸ bound.deliveriesDistinct
  related := by
    rw [bindings, relationships, List.forall_mem_cons]
    exact ⟨⟨binding, member, names⟩, bound.related⟩
  relationshipsCounted := by
    rw [relationships, nextRelationship, List.forall_mem_cons, id]
    exact ⟨Nat.lt_succ_self _, fun other otherMember =>
      Nat.lt_succ_of_lt (bound.relationshipsCounted other otherMember)⟩
  relationshipsDistinct := by
    rw [relationships, List.map_cons, List.nodup_cons]
    refine ⟨?_, bound.relationshipsDistinct⟩
    intro idMember
    obtain ⟨other, otherMember, same⟩ := List.mem_map.mp idMember
    have below := bound.relationshipsCounted other otherMember
    rw [same, id] at below
    exact Nat.lt_irrefl _ below

theorem Bound.step {result : InputEvent × InputArbiter} (bound : arbiter.Bound)
    (stacked : arbiter.Stacked) (step : ArbiterStep arbiter call result) : result.2.Bound := by
  cases step with
  | refused | answered | repeated => exact bound
  | initialized => exact bound.of_same rfl rfl (List.Sublist.refl _) rfl rfl rfl
  | granted request serves isSet first inactive asked =>
    apply Bound.withLease
    exact bound.of_same rfl rfl (List.Sublist.refl _) rfl rfl rfl
  | suspended request holder serves isSet first active found asked =>
    obtain ⟨rest, listed⟩ := stacked.top active found
    apply Bound.withLease
    exact bound.of_top listed (stacked.suspend_leases listed) rfl
      (List.Sublist.refl _) rfl rfl rfl
      (fun _ isMatch => isMatch.withStatus .suspended) rfl rfl rfl
  | bound state serves holds neutral =>
    obtain ⟨rest, listed⟩ := stacked.holds holds
    refine bound.bindCurrentState stacked listed rfl neutral
      (fun published => absurd rfl published) rfl nofun (Nat.le_refl _)
  | applied state publication serves holds =>
    obtain ⟨rest, listed⟩ := stacked.holds holds
    refine bound.published stacked listed ?_ ?_ nofun (Nat.le_refl _)
    · cases publication.frame.isNeutral
      · exact .inl ⟨rfl, rfl⟩
      · exact .inr (.inr ⟨rfl, rfl⟩)
    · cases publication.frame.isNeutral <;> rfl
  | began state publication serves holds =>
    obtain ⟨rest, listed⟩ := stacked.holds holds
    exact bound.delivered stacked listed
  | replaced state delivery publication epoch serves delivers =>
    obtain ⟨rest, listed⟩ := stacked.holds delivers.holds
    exact bound.delivered stacked listed
  | completed state delivery epoch nextPublication mutated serves delivers =>
    obtain ⟨rest, listed⟩ := stacked.holds delivers.holds
    refine bound.rebind listed (stacked.below listed)
      (stacked.settled_leases listed nextPublication mutated) (?_ : Rebinds _ _ _ _ none)
    exact ⟨rfl, rfl, rfl, nofun, fun _ => ⟨rfl, rfl⟩, nofun, Nat.le_refl _,
      nofun, Nat.le_refl _, rfl⟩
  | related evidence state binding serves evidences =>
    obtain ⟨rest, listed⟩ := stacked.holds evidences.holds
    obtain ⟨member, isMatch⟩ := bound.matching stacked listed evidences.current evidences.found
    refine bound.withRelationship member ?_ rfl rfl rfl rfl rfl rfl rfl
    exact ⟨evidences.named, evidences.lease.trans evidences.bindingLease.symm,
      evidences.bindingEpoch.symm, evidences.bindingGeneration.symm⟩
  | unrelated => exact bound.of_same rfl rfl List.filter_sublist rfl rfl rfl
  | witnessed relationship state binding serves relates settled =>
    obtain ⟨rest, listed⟩ := stacked.holds relates.holds
    obtain ⟨member, isMatch⟩ := bound.matching stacked listed relates.current relates.bound
    have same : retired state binding = state := by
      unfold retired
      split
      · rename_i transition
        have seen : binding.observed = true := by
          apply settled
          apply isMatch.required
          simp [transition]
        have neutral : state.inputState = .neutral := by
          rw [isMatch.state]
          simp [BindingState.inputState, transition, seen]
        rw [← neutral]
      · rfl
    have leases := retire_leases relationship.id binding listed (stacked.below listed)
    rw [same] at leases
    refine bound.of_top listed leases ?_ ?_ ?_ ?_ ?_ (fun _ => id) rfl rfl rfl
    all_goals rw [retire_eq]
    exact List.filter_sublist
  | observed relationship state binding poll serves relates required =>
    obtain ⟨rest, listed⟩ := stacked.holds relates.holds
    obtain ⟨member, isMatch⟩ := bound.matching stacked listed relates.current relates.bound
    have leases : ((arbiter.observe binding poll).retire relationship.id state
        (arbiter.seen binding poll)).leases = retired state (arbiter.seen binding poll) :: rest :=
      retire_leases _ _ listed (stacked.below listed)
    have observes : Observes binding (arbiter.seen binding poll) := ⟨rfl, rfl, rfl, rfl, rfl⟩
    refine bound.observe listed member observes leases ?_ ?_ ?_ ?_ ?_
      relates.current (isMatch.retired arbiter poll)
    all_goals rw [retire_eq]
    · rfl
    · exact List.filter_sublist
    all_goals rfl
  | closed state serves found active =>
    obtain ⟨rest, listed⟩ := stacked.top active found
    exact bound.finishClose stacked listed rfl
  | neutralized state serves found active =>
    obtain ⟨rest, listed⟩ := stacked.top active found
    obtain ⟨leases, neutralized⟩ := stacked.neutralize listed
    refine Bound.finishClose neutralized ?_ leases rfl
    exact bound.of_top listed leases rfl (List.Sublist.refl _) rfl rfl rfl
      (fun _ isMatch => isMatch.neutralized) rfl rfl rfl
  | shutDown => exact bound_of_empty rfl rfl rfl

end InputArbiter

end Savor.Input

import Savor.Resources.Closing

/-!
# Steps of the resource ledger

What a call of the ledger can do: nothing, a change while the ledger accepts,
the begin of an unwind, or its continuation.
-/

namespace Savor.Resources

open Library Library.Ancestry Program

/-- The live resources that an operation has to release. -/
def ResourceLedgerOperation.targets (ledger : SessionResourceLedger)
    (operation : ResourceLedgerOperation) (resource : ResourceReceipt) : Prop :=
  resource ∈ ledger.resources ∧ resource.status.isLive ∧
    match operation with
    | .release id => resource.id = id
    | .closeScope scope => Within (scopeLinks ledger.scopes) resource.scope scope
    | .shutdown => True
    | _ => False

/-- The call began or continued an unwind. -/
def ResourceLedgerReply.unwinds : ResourceLedgerReply → Prop
  | .unwind result => result.unwinds
  | _ => False

/-- The call was rejected. -/
def ResourceLedgerReply.rejected : ResourceLedgerReply → Prop
  | .operation (.error _) | .scope (.error _) | .acquisition (.error _)
  | .promotion (.error _) => True
  | .unwind result => result.outcome = .rejected
  | _ => False

/-- The call accepted an acquisition or a promotion. -/
def ResourceLedgerReply.accepts : ResourceLedgerReply → Prop
  | .acquisition (.ok _) | .promotion (.ok _) => True
  | _ => False

/-- What a call answers and leaves behind. -/
inductive ResourceStep (ledger : SessionResourceLedger) (operation : ResourceLedgerOperation) :
    ResourceLedgerEvent → SessionResourceLedger → Prop
  | unchanged {reply}
      (idle : ¬reply.unwinds)
      (accepting : reply.accepts → ledger.state = .accepting) :
      ResourceStep ledger operation ⟨reply, []⟩ ledger
  | changed {reply after}
      (idle : ¬reply.unwinds)
      (accepted : ¬reply.rejected)
      (accepting : reply.accepts → ledger.state = .accepting)
      (invariant : ResourceInvariant after)
      (pending : ledger.pendingUnwind = none)
      (pending' : after.pendingUnwind = none)
      (disposition : after.disposition = ledger.disposition)
      (released : ∀ resource ∈ ledger.resources, ¬resource.status.isLive →
        resource ∈ after.resources) :
      ResourceStep ledger operation ⟨reply, []⟩ after
  /-- A ledger that was never initialized has nothing to release. -/
  | unused {result : ResourceUnwindResult}
      (blank : ledger.state = .uninitialized)
      (completed : result.outcome = .completed) :
      ResourceStep ledger operation ⟨.unwind result, []⟩ { ledger with state := .closed }
  | began {started pending all result steps after}
      (idle : ledger.pendingUnwind = none)
      (invariant : ResourceInvariant started)
      (unwinding : started.state = .unwinding)
      (unwind : UnwindInvariant started pending all all)
      (covers : ∀ resource, resource ∈ all ↔ operation.targets ledger resource)
      (resources : started.resources = ledger.resources)
      (disposition : started.disposition = ledger.disposition)
      (pumped : Pumped started pending all result steps after) :
      ResourceStep ledger operation ⟨.unwind result, steps⟩ after
  | continued {pending result steps after}
      (suspended : ledger.pendingUnwind = some pending)
      (pumps : ∀ all remaining, UnwindInvariant ledger pending all remaining →
        Pumped ledger pending remaining result steps after) :
      ResourceStep ledger operation ⟨.unwind result, steps⟩ after

namespace SessionResourceLedger

variable {ledger : SessionResourceLedger} {sorting : UnstableSort}
variable {dispatcher : ResourceReleaseDispatcher}

theorem liveResources_spec (invariant : ResourceInvariant ledger)
    (sorting : UnstableSort) (keep : ResourceReceipt → Bool) : ∃ all : List ResourceReceipt,
      ledger.liveResources sorting keep = all.map (·.id) ∧
        (∀ resource, resource ∈ all ↔ resource ∈ ledger.resources ∧
          resource.status.isLive ∧ keep resource) ∧
        all.Pairwise fun earlier later => later.sequence < earlier.sequence := by
  generalize selection : (ledger.resources.filter fun receipt =>
    receipt.status.isLive && keep receipt) = selected
  generalize sorted : ledger.liveResources sorting keep = ids
  have selectedIds : ∀ id, id ∈ ids ↔ ∃ receipt ∈ selected, receipt.id = id := by
    intro id
    rw [← sorted, liveResources, sorting.mem_sort, selection, List.mem_map]
  have found {receipt : ResourceReceipt} (member : receipt ∈ selected) :
      ledger.findResource receipt.id = some receipt := by
    rw [← selection, List.mem_filter] at member
    exact Keyed.lookup_key invariant.distinct member.1
  have members : ∀ resource, resource ∈ ids.filterMap ledger.findResource ↔
      resource ∈ selected := by
    intro resource
    rw [List.mem_filterMap]
    constructor
    · rintro ⟨id, member, looked⟩
      obtain ⟨receipt, known, rfl⟩ := (selectedIds id).mp member
      rw [found known] at looked
      exact Option.some.inj looked ▸ known
    intro member
    exact ⟨resource.id, (selectedIds _).mpr ⟨resource, member, rfl⟩, found member⟩
  have mapped : (ids.filterMap ledger.findResource).map (·.id) = ids := by
    rw [List.map_filterMap]
    have same : ∀ id ∈ ids, (ledger.findResource id).map (·.id) = some id := by
      intro id member
      obtain ⟨receipt, known, rfl⟩ := (selectedIds id).mp member
      rw [found known]
      rfl
    rw [List.filterMap_congr same, List.filterMap_some]
  refine ⟨ids.filterMap ledger.findResource, mapped.symm, ?_, ?_⟩
  · intro resource
    rw [members, ← selection, List.mem_filter, Bool.and_eq_true]
  have distinct : ids.Nodup := by
    rw [← sorted, liveResources]
    refine (sorting.perm _ _).nodup_iff.mpr ?_
    exact invariant.distinct.sublist (List.filter_sublist.map _)
  have ordered := sorting.ordered (descendingOn ledger.sequenceOf)
    ((ledger.resources.filter fun receipt =>
      receipt.status.isLive && keep receipt).map (·.id))
  have strict := List.Pairwise.and ordered
    (sorted ▸ distinct : (ledger.liveResources sorting keep).Nodup)
  rw [show sorting.sort _ _ = ids from sorted, ← mapped, List.pairwise_map] at strict
  refine strict.imp_of_mem ?_
  intro earlier later known known' both
  obtain ⟨descends, different⟩ := both
  rw [members] at known known'
  simp only [descendingOn, compareOn, sequenceOf, found known, found known', Option.map_some,
    Option.getD_some] at descends
  rw [← selection, List.mem_filter] at known known'
  have sequences : earlier.sequence.value ≠ later.sequence.value := by
    intro same
    apply different
    exact congrArg (·.id) (List.inj_on_of_nodup_map invariant.sequences.nodup known.1 known'.1 same)
  have bound : later.sequence.value ≤ earlier.sequence.value := by
    rw [← UInt64.not_lt]
    intro less
    apply descends
    exact Std.compare_eq_gt.mpr less
  exact UInt64.lt_of_le_of_ne bound sequences.symm

variable {operation : ResourceLedgerOperation}

/-- An unwind that is refused or has nothing to do. -/
theorem unwind_unchanged {result : ResourceUnwindResult}
    (idle : result.outcome = .rejected ∨ result.outcome = .alreadyComplete) :
    ResourceStep ledger operation (unwindEvent (result, [], ledger)).1
      (unwindEvent (result, [], ledger)).2 := by
  apply ResourceStep.unchanged
  · rintro ⟨notRejected, notComplete⟩
    exact idle.elim notRejected notComplete
  · exact False.elim

theorem startUnwind_step (invariant : ResourceInvariant ledger)
    (all : List ResourceReceipt) {scopesToClose : List ResourceScopeId}
    {reason : ResourceReleaseReason} {completionState : ResourceLedgerState} {shutdown : Bool}
    (ready : ledger.state = .accepting ∨ ledger.state = .tainted)
    (covers : ∀ resource, resource ∈ all ↔ operation.targets ledger resource)
    (descending : all.Pairwise fun earlier later => later.sequence < earlier.sequence)
    (below : ∀ scope ∈ ledger.scopes, scope.opened →
      scope.parent ∈ scopesToClose → scope.id ∈ scopesToClose)
    (completes : completionState ≠ .unwinding ∧ completionState ≠ .uninitialized) :
    let unwound := unwindEvent (ledger.startUnwind (all.map (·.id))
      scopesToClose reason completionState shutdown dispatcher)
    ResourceStep ledger operation unwound.1 unwound.2 := by
  have notClosed : ledger.state ≠ .closed := by rcases ready with state | state <;> simp [state]
  have idle : ledger.pendingUnwind = none := by
    have suspended := invariant.suspended
    rcases ready with state | state <;> simpa [state] using suspended
  unfold startUnwind
  rw [if_neg (by simp [idle])]
  split
  · exact unwind_unchanged (.inl rfl)
  split
  · exact unwind_unchanged (.inl rfl)
  simp only [pumpUnwind, List.drop_zero, unwindEvent]
  generalize begun : ({ ledger with
    pendingUnwind := some
      { resources := all.map (·.id)
        scopesToClose := scopesToClose
        reason := reason
        completionState := completionState
        shutdown := shutdown
        continuation := ⟨ledger.nextContinuationId⟩ }
    boundDispatcher := some dispatcher.identity
    nextContinuationId := ledger.nextContinuationId + 1
    state := .unwinding } : SessionResourceLedger) = started
  have started_invariant : ResourceInvariant started := by
    subst begun
    exact { invariant with
      closedEmpty := fun _ => invariant.closedEmpty notClosed
      suspended := by simp
      tainted := by simp
      blank := by simp }
  have unwinding : started.state = .unwinding := by
    subst begun
    rfl
  have unwind : UnwindInvariant started
      { resources := all.map (·.id)
        scopesToClose := scopesToClose
        reason := reason
        completionState := completionState
        shutdown := shutdown
        continuation := ⟨ledger.nextContinuationId⟩ } all all := by
    subst begun
    refine ⟨⟨below, completes.1, completes.2⟩, rfl, descending, List.suffix_refl _, ?_⟩
    intro resource member
    obtain ⟨registered, live, -⟩ := (covers resource).mp member
    exact ⟨registered, live⟩
  have pumped := pumpFrom_pumped started_invariant unwinding unwind dispatcher
  refine .began idle started_invariant unwinding unwind covers ?_ ?_ pumped
  · subst begun
    rfl
  · subst begun
    rfl

/-- The states in which an unwind can begin. -/
theorem ready_of_not (able : ¬(ledger.state ≠ .accepting ∧ ledger.state ≠ .tainted)) :
    ledger.state = .accepting ∨ ledger.state = .tainted := by
  rw [not_and_or, not_ne_iff, not_ne_iff] at able
  exact able

theorem ready_completes (ready : ledger.state = .accepting ∨ ledger.state = .tainted) :
    ledger.state ≠ .unwinding ∧ ledger.state ≠ .uninitialized := by
  rcases ready with state | state <;> simp [state]

section

variable (invariant : ResourceInvariant ledger)
include invariant

theorem release_step (resource : ResourceReceiptId) :
    let unwound := unwindEvent (ledger.release resource dispatcher)
    ResourceStep ledger (.release resource) unwound.1 unwound.2 := by
  unfold release
  split
  · exact unwind_unchanged (.inl rfl)
  rename_i able
  split
  · exact unwind_unchanged (.inl rfl)
  rename_i found looked
  split
  · exact unwind_unchanged (.inr rfl)
  rename_i live
  have registered := Keyed.mem_of_lookup looked
  have named : found.id = resource := Keyed.key_of_lookup looked
  rw [← named]
  have ready := ready_of_not able
  apply startUnwind_step invariant [found] ready
  · intro other
    rw [List.mem_singleton]
    constructor
    · rintro rfl
      exact ⟨registered, by simpa using live, rfl⟩
    · rintro ⟨known, -, same⟩
      exact List.inj_on_of_nodup_map invariant.distinct known registered same
  · exact List.pairwise_singleton _ _
  · intro scope _ _ member
    cases member
  · exact ready_completes ready

theorem closeScope_step (scope : ResourceScopeId) :
    let unwound := unwindEvent (ledger.closeScope sorting scope dispatcher)
    ResourceStep ledger (.closeScope scope) unwound.1 unwound.2 := by
  unfold closeScope
  split
  · exact unwind_unchanged (.inl rfl)
  rename_i able
  split
  · exact unwind_unchanged (.inl rfl)
  split
  · exact unwind_unchanged (.inl rfl)
  split
  · exact unwind_unchanged (.inr rfl)
  have ready := ready_of_not able
  obtain ⟨all, resources, covers, descending⟩ :=
    liveResources_spec invariant sorting fun receipt => ledger.isInScopeSubtree receipt.scope scope
  rw [resources]
  have listed : ∀ id, id ∈ ledger.openScopes sorting scope ↔
      ∃ candidate ∈ ledger.scopes, candidate.opened ∧
        Within (scopeLinks ledger.scopes) candidate.id scope ∧ candidate.id = id := by
    intro id
    rw [openScopes, sorting.mem_sort, List.mem_map]
    constructor
    · rintro ⟨candidate, member, same⟩
      rw [List.mem_filter, Bool.and_eq_true, isInScopeSubtree_iff invariant.tree] at member
      exact ⟨candidate, member.1, member.2.1, member.2.2, same⟩
    rintro ⟨candidate, member, opened, within, same⟩
    refine ⟨candidate, ?_, same⟩
    rw [List.mem_filter, Bool.and_eq_true, isInScopeSubtree_iff invariant.tree]
    exact ⟨member, opened, within⟩
  apply startUnwind_step invariant all ready
  · intro resource
    rw [covers, isInScopeSubtree_iff invariant.tree]
    rfl
  · exact descending
  · intro inner member opened above
    rw [listed] at above ⊢
    obtain ⟨outer, registered, -, within, same⟩ := above
    refine ⟨inner, member, opened, Within.head ?_ within, rfl⟩
    exact mem_scopeLinks.mpr ⟨inner, member, rfl, same.symm, invariant.tree.isSet registered⟩
  · exact ready_completes ready

theorem shutdown_step : let unwound := unwindEvent (ledger.shutdown sorting dispatcher)
    ResourceStep ledger .shutdown unwound.1 unwound.2 := by
  unfold shutdown
  split
  · exact unwind_unchanged (.inr rfl)
  rename_i notClosed
  split
  · rename_i blank
    exact .unused blank rfl
  rename_i initialized
  split
  · exact unwind_unchanged (.inl rfl)
  rename_i notUnwinding
  have ready : ledger.state = .accepting ∨ ledger.state = .tainted := by
    cases state : ledger.state <;> simp_all
  obtain ⟨all, resources, covers, descending⟩ := liveResources_spec invariant sorting fun _ => true
  rw [resources]
  apply startUnwind_step invariant all ready
  · intro resource
    rw [covers]
    simp [ResourceLedgerOperation.targets]
  · exact descending
  · intro inner member opened _
    exact List.mem_map.mpr ⟨inner, List.mem_filter.mpr ⟨member, opened⟩, rfl⟩
  · simp

theorem continueCleanup_step (continuation : ResourceCleanupContinuationId) :
    let unwound := unwindEvent (ledger.continueCleanup continuation dispatcher)
    ResourceStep ledger (.continueCleanup continuation) unwound.1 unwound.2 := by
  unfold continueCleanup
  split
  · exact unwind_unchanged (.inl rfl)
  rename_i pending suspended
  split
  · exact unwind_unchanged (.inl rfl)
  rename_i unwinding
  split
  · exact unwind_unchanged (.inl rfl)
  split
  · exact unwind_unchanged (.inl rfl)
  simp only [pumpUnwind, suspended, unwindEvent]
  apply ResourceStep.continued suspended
  intro all remaining unwind
  rw [unwind.position]
  exact pumpFrom_pumped invariant (not_ne_iff.mp unwinding) unwind dispatcher

theorem idle_of_accepting (accepting : ledger.state = .accepting) :
    ledger.pendingUnwind = none := by
  have suspended := invariant.suspended
  simpa [accepting] using suspended

theorem initializeSession_step (session : SessionId) (epoch : WorksetEpoch)
    (owner : ResourceOwnerId) : let performed := ledger.initializeSession session epoch owner
    ResourceStep ledger operation { reply := .operation performed.1 } performed.2 := by
  have kept := invariant.initializeSession session epoch owner
  unfold initializeSession at kept ⊢
  split
  · exact .unchanged id False.elim
  rename_i uninitialized
  split
  · exact .unchanged id False.elim
  rename_i proper
  rw [if_neg uninitialized, if_neg proper] at kept
  have blank := not_ne_iff.mp uninitialized
  have idle : ledger.pendingUnwind = none := by
    have suspended := invariant.suspended
    simpa [blank] using suspended
  refine .changed id id False.elim kept idle idle ?_ fun _ member _ => member
  exact (invariant.blank blank).2.2.1.symm

theorem openSyntheticScope_step (parent : ResourceScopeId)
    (owner : ResourceOwnerId) (label : ByteString) :
    let performed := ledger.openSyntheticScope parent owner label
    ResourceStep ledger operation { reply := .scope performed.1 } performed.2 := by
  have kept := invariant.openSyntheticScope parent owner label
  unfold openSyntheticScope at kept ⊢
  cases validated : ledger.validateAcquisition parent with
  | error refused => exact .unchanged id False.elim
  | ok found =>
    obtain ⟨accepting, -⟩ := validateAcquisition_ok validated
    have idle := idle_of_accepting invariant accepting
    rw [validated] at kept
    simp only at kept ⊢
    split
    · exact .unchanged id False.elim
    rename_i proper
    split
    · exact .unchanged id False.elim
    rename_i room
    rw [if_neg proper, if_neg room] at kept
    exact .changed id id False.elim kept idle idle rfl fun _ member _ => member

theorem acquire_step (scope : ResourceScopeId) (definitions : List ResourceAcquisitionDefinition) :
    let performed := ledger.acquire scope definitions
    ResourceStep ledger operation { reply := .acquisition performed.1 } performed.2 := by
  have kept := invariant.acquire scope definitions
  unfold acquire at kept ⊢
  cases validated : ledger.validateAcquisition scope with
  | error refused => exact .unchanged id False.elim
  | ok found =>
    obtain ⟨accepting, -⟩ := validateAcquisition_ok validated
    have idle := idle_of_accepting invariant accepting
    rw [validated] at kept
    simp only at kept ⊢
    split
    · exact .unchanged id fun _ => accepting
    rename_i some
    split
    · exact .unchanged id False.elim
    rename_i room
    rw [if_neg some, if_neg room] at kept
    cases checked : ledger.validateDefinitions found [] definitions with
    | error refused => exact .unchanged id False.elim
    | ok _ =>
      rw [checked] at kept
      exact .changed id id (fun _ => accepting) kept idle idle rfl
        fun _ member _ => List.mem_append_left _ member

theorem promote_step (resource : ResourceReceiptId) (destination : ResourceScopeId) :
    let performed := ledger.promote resource destination
    ResourceStep ledger operation { reply := .promotion performed.1 } performed.2 := by
  have kept := invariant.promote resource destination
  unfold promote at kept ⊢
  cases validated : ledger.validateAcquisition destination with
  | error refused => exact .unchanged id False.elim
  | ok scope =>
    obtain ⟨accepting, -⟩ := validateAcquisition_ok validated
    have idle := idle_of_accepting invariant accepting
    rw [validated] at kept
    simp only at kept ⊢
    cases looked : ledger.findResource resource with
    | none => exact .unchanged id False.elim
    | some found =>
      rw [looked] at kept
      simp only at kept ⊢
      split
      · exact .unchanged id False.elim
      rename_i alive
      split
      · exact .unchanged id False.elim
      rename_i sameOwner
      split
      · exact .unchanged id fun _ => accepting
      rename_i elsewhere
      split
      · exact .unchanged id False.elim
      rename_i above
      split
      · exact .unchanged id False.elim
      rename_i allowed
      split
      · exact .unchanged id False.elim
      rename_i near
      rw [if_neg alive, if_neg sameOwner, if_neg elsewhere, if_neg above,
        if_neg allowed, if_neg near] at kept
      refine .changed id id (fun _ => accepting) kept idle idle rfl ?_
      -- only the live resource that was found moves
      intro other member dead
      rw [Keyed.update_eq_map invariant.distinct]
      refine List.mem_map.mpr ⟨other, member, if_neg ?_⟩
      intro same
      have registered := Keyed.mem_of_lookup looked
      have named : found.id = resource := Keyed.key_of_lookup looked
      rw [List.inj_on_of_nodup_map invariant.distinct member registered
        (same.trans named.symm)] at dead
      exact dead (by simpa using alive)

theorem step_resourceStep {call : ResourceLedgerCall}
    {event : ResourceLedgerEvent} {after : SessionResourceLedger}
    (stepped : ledger.step sorting call = some (event, after)) :
    ResourceStep ledger call.operation event after := by
  obtain ⟨thread, dispatcher, operation⟩ := call
  unfold step at stepped
  split at stepped
  · cases stepped
    apply ResourceStep.unchanged
    · cases operation <;> simp [wrongThread, ResourceLedgerReply.unwinds,
        ResourceUnwindResult.unwinds, rejectedUnwind]
    · cases operation <;> simp [wrongThread, ResourceLedgerReply.accepts]
  rw [Option.some.injEq] at stepped
  have events : ResourceStep ledger operation
      (ledger.perform sorting dispatcher operation).1
      (ledger.perform sorting dispatcher operation).2 := by
    cases operation with
    | initializeSession session epoch owner =>
      exact initializeSession_step invariant session epoch owner
    | openSyntheticScope parent owner label =>
      exact openSyntheticScope_step invariant parent owner label
    | acquire scope definitions => exact acquire_step invariant scope definitions
    | promote resource destination => exact promote_step invariant resource destination
    | release resource => exact release_step invariant resource
    | closeScope scope => exact closeScope_step invariant scope
    | continueCleanup continuation => exact continueCleanup_step invariant continuation
    | shutdown => exact shutdown_step invariant
  rwa [stepped] at events

end

end SessionResourceLedger

end Savor.Resources

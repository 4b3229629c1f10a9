import Savor.StopPoints.RouterMoves

/-!
# Gates only advance

Routing a hit and accepting a retained point fire one-shot gates and count
occurrences of the entries that they see.  They never reset a gate and touch no
other one.
-/

namespace Savor.StopPoints

open Program

/-- The gates advanced at some of the given entries. -/
structure Gates.Advances (gates : Gates) (entries : List DispatchEntry) (after : Gates) : Prop where
  next : after.next = gates.next
  keeps : ∀ gate, gates.fired gate = true → after.fired gate = true
  fires : ∀ gate, after.fired gate = true →
    gates.fired gate = true ∨ ∃ entry ∈ entries, entry.oneShot = some gate
  counts : ∀ gate, after.observed gate ≠ gates.observed gate → ∃ entry ∈ entries, entry.gate = gate

namespace Gates

variable {gates middle after : Gates} {entries more : List DispatchEntry}
variable {gate : GateId}

/-- A gate that is fired fires no other one. -/
theorem fire_fired {other : GateId} : (gates.fire gate).fired other = true ↔
      other = gate ∨ gates.fired other = true := by
  unfold fire
  dsimp only
  split <;> simp_all

namespace Advances

theorem refl : gates.Advances entries gates :=
  ⟨rfl, fun _ => id, fun _ => Or.inl, fun _ changed => absurd rfl changed⟩

theorem trans (first : gates.Advances entries middle) (second : middle.Advances entries after) :
    gates.Advances entries after where
  next := second.next.trans first.next
  keeps gate fired := second.keeps gate (first.keeps gate fired)
  fires gate fired := by
    rcases second.fires gate fired with earlier | later
    · exact first.fires gate earlier
    · exact .inr later
  counts gate changed := by
    by_cases same : after.observed gate = middle.observed gate
    · exact first.counts gate (same ▸ changed)
    · exact second.counts gate same

theorem mono (advances : gates.Advances entries after) (subset : entries ⊆ more) :
    gates.Advances more after where
  next := advances.next
  keeps := advances.keeps
  fires gate fired := by
    rcases advances.fires gate fired with earlier | ⟨entry, member, named⟩
    · exact .inl earlier
    · exact .inr ⟨entry, subset member, named⟩
  counts gate changed := by
    obtain ⟨entry, member, named⟩ := advances.counts gate changed
    exact ⟨entry, subset member, named⟩

theorem fire {entry : DispatchEntry} (named : entry.oneShot = some gate)
    (member : entry ∈ entries) : gates.Advances entries (gates.fire gate) where
  next := rfl
  keeps _ fired := fire_fired.mpr (.inr fired)
  fires other fired := by
    rcases fire_fired.mp fired with rfl | earlier
    · exact .inr ⟨entry, member, named⟩
    · exact .inl earlier
  counts _ changed := absurd rfl changed

theorem observe {entry : DispatchEntry} (member : entry ∈ entries) :
    gates.Advances entries (gates.observe entry.gate) where
  next := rfl
  keeps _ := id
  fires _ := .inl
  counts other changed := by
    by_cases same : other = entry.gate
    · exact ⟨entry, member, same.symm⟩
    · simp [Gates.observe, same] at changed

end Advances
end Gates

/-- A claim advances the gate of its entry. -/
theorem claimEntry_advances (entry : DispatchEntry) (packet : NativePacket) (gates : Gates) :
    gates.Advances [entry] (claimEntry entry packet gates).2 := by
  unfold claimEntry
  split
  · rename_i gate named
    exact .fire named (List.mem_singleton.mpr rfl)
  · exact .refl

theorem routeCandidates_advances (candidates : List DispatchEntry)
    (packet : NativePacket) (gates : Gates) :
    gates.Advances candidates (routeCandidates candidates packet gates).2 := by
  induction candidates generalizing packet gates with
  | nil => exact .refl
  | cons entry rest ih =>
    have continues (packet : NativePacket) (gates : Gates) :=
      (ih packet gates).mono (List.subset_cons_self entry rest)
    unfold routeCandidates
    split
    · exact continues packet gates
    dsimp only
    have claims := (claimEntry_advances entry packet gates).mono
      (List.cons_subset_cons entry (List.nil_subset rest))
    split
    · exact claims.trans (continues _ _)
    · exact claims
    have counted := claims.trans (.observe List.mem_cons_self)
    split
    · exact counted
    split
    · exact counted.trans (continues _ _)
    · exact counted

variable {ports : StopPointPorts}

/-- The candidates are among the entries. -/
theorem collectCandidates_subset {hit : NativeHit} {entries candidates found : List DispatchEntry}
    {observers named : List UInt32}
    (collected : collectCandidates ports hit entries candidates observers = some (found, named)) :
    found ⊆ candidates ++ entries := by
  induction entries generalizing candidates observers with
  | nil =>
    simp only [collectCandidates, Option.some.injEq, Prod.mk.injEq] at collected
    simp [collected.1]
  | cons entry rest ih =>
    unfold collectCandidates at collected
    split at collected
    · intro other member
      have earlier := ih collected member
      rw [List.mem_append] at earlier ⊢
      exact earlier.imp_right (List.mem_cons_of_mem entry)
    split at collected
    · cases collected
    dsimp only at collected
    have later {observers : List UInt32}
        (collected : collectCandidates ports hit rest (candidates ++ [entry])
          observers = some (found, named)) :
        found ⊆ candidates ++ entry :: rest := by
      have subset := ih collected
      rwa [List.append_assoc, List.singleton_append] at subset
    split at collected
    · split at collected
      · cases collected
      · exact later collected
    · exact later collected

/-- A packet advances gates of published entries. -/
theorem buildNativePacket_advances
    {snapshot : Option DispatchSnapshot} {hit : NativeHit} {gates : Gates}
    {nextStopSequence nextSampleSnapshot : UInt64} :
    gates.Advances ((snapshot.map (·.entries)).getD [])
      (buildNativePacket ports snapshot hit gates nextStopSequence nextSampleSnapshot).gates := by
  unfold buildNativePacket
  cases snapshot with
  | none => exact .refl
  | some snapshot =>
    dsimp only
    split
    · exact .refl
    split
    · exact .refl
    dsimp only
    split
    · exact .refl
    · exact .refl
    rename_i candidates observers _ collected
    unfold routeHit
    dsimp only
    split
    · exact .refl
    · exact (routeCandidates_advances _ _ _).mono (collectCandidates_subset collected)

namespace StopPointRouter

variable {router : StopPointRouter}

/-- The entries of the published snapshot. -/
def dispatchEntries (router : StopPointRouter) : List DispatchEntry :=
  (router.dispatch.map (·.entries)).getD []

/-- Only the gates of published entries advanced, and what waits, counts and
numbers changed: the groups, the snapshot and the manager did not.  The ingress
was not opened. -/
structure GatesChange (router next : StopPointRouter) : Prop where
  ownerThread : next.ownerThread = router.ownerThread
  ports : next.ports = router.ports
  initialized : next.initialized = router.initialized
  manager : next.manager = router.manager
  groups : next.groups = router.groups
  dispatch : next.dispatch = router.dispatch
  worksetEpoch : next.worksetEpoch = router.worksetEpoch
  dispatchGeneration : next.dispatchGeneration = router.dispatchGeneration
  releasedRegistrationSequences :
    next.releasedRegistrationSequences = router.releasedRegistrationSequences
  stopped : next.stopped = router.stopped
  gates : router.gates.Advances router.dispatchEntries next.gates
  ingressEnabled : next.ingressEnabled = true → router.ingressEnabled = true

theorem GatesChange.refl : GatesChange router router :=
  ⟨rfl, rfl, rfl, rfl, rfl, rfl, rfl, rfl, rfl, rfl, .refl, id⟩

theorem afterBuild_gatesChange (router : StopPointRouter) (hit : NativeHit) :
    GatesChange router (router.afterBuild (router.buildPacket hit)) :=
  ⟨rfl, rfl, rfl, rfl, rfl, rfl, rfl, rfl, rfl, rfl, buildNativePacket_advances, id⟩

theorem overflowIngress_gatesChange : GatesChange router router.overflowIngress :=
  ⟨rfl, rfl, rfl, rfl, rfl, rfl, rfl, rfl, rfl, rfl, .refl,
    fun enabled => absurd enabled Bool.false_ne_true⟩

theorem GatesChange.trans {middle next : StopPointRouter}
    (first : GatesChange router middle) (second : GatesChange middle next) :
    GatesChange router next where
  ownerThread := second.ownerThread.trans first.ownerThread
  ports := second.ports.trans first.ports
  initialized := second.initialized.trans first.initialized
  manager := second.manager.trans first.manager
  groups := second.groups.trans first.groups
  dispatch := second.dispatch.trans first.dispatch
  worksetEpoch := second.worksetEpoch.trans first.worksetEpoch
  dispatchGeneration := second.dispatchGeneration.trans first.dispatchGeneration
  releasedRegistrationSequences :=
    second.releasedRegistrationSequences.trans first.releasedRegistrationSequences
  stopped := second.stopped.trans first.stopped
  gates := by
    have later := second.gates
    unfold dispatchEntries at later
    rw [first.dispatch] at later
    exact first.gates.trans later
  ingressEnabled := first.ingressEnabled ∘ second.ingressEnabled

theorem publish_gatesChange (packet : NativePacket) :
    GatesChange router (router.publish packet).2.2 := by
  have flagged : GatesChange router (router.flagOverflow packet) := by
    unfold flagOverflow
    split
    · exact overflowIngress_gatesChange
    · exact .refl
  refine flagged.trans ?_
  unfold publish place
  dsimp only
  split
  · exact ⟨rfl, rfl, rfl, rfl, rfl, rfl, rfl, rfl, rfl, rfl, .refl, id⟩
  split
  · split
    · exact ⟨rfl, rfl, rfl, rfl, rfl, rfl, rfl, rfl, rfl, rfl, .refl,
        fun enabled => absurd enabled Bool.false_ne_true⟩
    · exact overflowIngress_gatesChange
  · exact ⟨rfl, rfl, rfl, rfl, rfl, rfl, rfl, rfl, rfl, rfl, .refl, id⟩

/-- A native hit leaves groups and plan alone. -/
theorem routeNative_gatesChange (router : StopPointRouter) (readerFree : Bool) (hit : NativeHit) :
    GatesChange router (router.routeNative readerFree hit).router := by
  have built := afterBuild_gatesChange router hit
  unfold routeNative
  split
  · exact .refl
  split
  · exact overflowIngress_gatesChange
  split
  · exact .refl
  dsimp only
  split
  · exact built
  split
  · exact built
  · exact built.trans (publish_gatesChange _)

theorem injected_gatesChange (router : StopPointRouter) (hit : NativeHit)
    (authoritative : Bool) (consumers : Consumers) : GatesChange router
      ((router.afterBuild (router.buildPacket hit)).processPacket consumers
        ((router.buildPacket hit).packet.inject authoritative)).2.2 := by
  refine (afterBuild_gatesChange router hit).trans ?_
  by_cases current :
      (router.afterBuild (router.buildPacket hit)).IsCurrent
        ((router.buildPacket hit).packet.inject authoritative)
  · obtain ⟨point, processed⟩ := processPacket_current consumers current
    rw [processed]
    exact ⟨rfl, rfl, rfl, rfl, rfl, rfl, rfl, rfl, rfl, rfl, .refl, id⟩
  obtain ⟨receipt, processed, -⟩ := processPacket_stale consumers current
  rw [processed]
  exact ⟨rfl, rfl, rfl, rfl, rfl, rfl, rfl, rfl, rfl, rfl, .refl, id⟩

end StopPointRouter

theorem acceptEntries_advances (consumers : Consumers)
    (current : RoutedStopEvent) (groupId : StopSubscriptionGroupId)
    (entries : List DispatchEntry) (accepted : Acceptance) : accepted.gates.Advances entries
      (acceptEntries consumers current groupId entries accepted).gates := by
  induction entries generalizing accepted with
  | nil => exact .refl
  | cons entry rest ih =>
    have continues (accepted : Acceptance) := (ih accepted).mono (List.subset_cons_self entry rest)
    unfold acceptEntries
    split
    · exact continues accepted
    dsimp only
    have claims : accepted.gates.Advances (entry :: rest)
        (accepted.claim entry).gates := by
      unfold Acceptance.claim
      split
      · rename_i gate named
        exact .fire named List.mem_cons_self
      · exact .refl
    split
    · exact claims
    split
    · exact claims
    · exact claims
    · exact claims.trans (continues _)

/-!
## What the other publishing calls do

Initialization, the revalidation after JIT and the final cleanup publish a
snapshot without going through a candidate.  One lemma each tells how they can
end.
-/

open Program PhysicalStopPointManager

namespace StopPointRouter

variable {router : StopPointRouter} {call : RouterCall}

/-- How `RevalidateAfterJit` can end.  The snapshot is built from the groups,
but the manager keeps the plan that it had. -/
inductive Revalidates (router : StopPointRouter) (call : RouterCall) :
    StopPointLifecycleReceipt × StopPointRouter → Prop
  | refused {receipt}
      (failed : receipt.ok = false)
      (preserved : receipt.physicalIntegrity = .preserved)
      (unchecked : router.checkControlThread call ≠ none) :
      Revalidates router call (receipt, router)
  | failed {receipt manager}
      (failed : receipt.ok = false)
      (checked : router.checkControlThread call = none)
      (same : SamePlan manager router.manager) :
      Revalidates router call (receipt, { router with manager, ingressEnabled := false })
  | published {receipt manager physicalGeneration}
      (ok : receipt.ok = true)
      (checked : router.checkControlThread call = none)
      (committed : (call.backend.revalidatePhysicalStopPlan
        router.manager.currentPlan router.manager.nextGeneration).committed = true)
      (generation : manager.generation = physicalGeneration)
      (currentPlan : manager.currentPlan = router.manager.currentPlan) :
      Revalidates router call
        (receipt,
          { router with
            manager
            dispatchGeneration := nextDispatchGeneration router.dispatchGeneration
            dispatch := some (buildSnapshot router.gates router.groups router.worksetEpoch
              (nextDispatchGeneration router.dispatchGeneration) physicalGeneration) })
  | torn {receipt manager physicalGeneration}
      (failed : receipt.ok = false)
      (checked : router.checkControlThread call = none)
      (unfaithful : ¬call.backend.Faithful)
      (same : SamePlan manager router.manager) :
      Revalidates router call
        (receipt,
          { router with
            manager
            ingressEnabled := false
            dispatchGeneration := nextDispatchGeneration router.dispatchGeneration
            dispatch := some (buildSnapshot router.gates router.groups router.worksetEpoch
              (nextDispatchGeneration router.dispatchGeneration) physicalGeneration) })

theorem revalidate_cases (router : StopPointRouter) (call : RouterCall) :
    Revalidates router call (router.revalidate call) := by
  have reconciles : router.manager.Reconciles router.manager.currentPlan _
      (router.manager.revalidateAfterJit call.backend) :=
    revalidateAfterJit_reconciles
  have faithful (faithful : call.backend.Faithful) :
      (router.manager.revalidateAfterJit call.backend).receipt.ok = false →
      (router.manager.revalidateAfterJit call.backend).committed = false :=
    PhysicalStopPointManager.revalidateAfterJit_faithful faithful
  have commits := revalidateAfterJit_committed router.manager call.backend
  unfold revalidate
  cases checked : router.checkControlThread call with
  | some error => exact .refused rfl rfl (by simp [checked])
  | none =>
    dsimp only
    split
    · exact .failed rfl checked (.refl router.manager)
    generalize router.manager.revalidateAfterJit call.backend = physical
      at reconciles faithful commits ⊢
    cases reconciles with
    | failed refused same worsened =>
      simp only [refused, Bool.not_false, if_true]
      cases committed : physical.committed with
      | false => exact .failed rfl checked same
      | true =>
        refine .torn rfl checked (fun loyal => ?_) same
        have kept := faithful loyal refused
        simp [committed] at kept
    | installed ok committed receiptGeneration currentPlan generation exact =>
      simp only [committed, ok, if_true, Bool.not_true, Bool.false_eq_true, if_false]
      exact .published rfl checked (commits ok) generation currentPlan

/-- How `Initialize` can end for a router that is not in use. -/
inductive Initializes (router : StopPointRouter) (firstEpoch : WorksetEpoch) :
    RouterEvent × StopPointRouter → Prop
  | refused {receipt}
      (failed : receipt.ok = false)
      (preserved : receipt.physicalIntegrity = .preserved) :
      Initializes router firstEpoch ({ reply := .lifecycle receipt }, router)
  | failed {receipt manager dispatch}
      (failed : receipt.ok = false)
      (same : SamePlan manager router.manager)
      (kept : dispatch = none ∨ dispatch = router.dispatch) :
      Initializes router firstEpoch
        ({ reply := .lifecycle receipt },
          { router with
            worksetEpoch := .none
            dispatchGeneration := .none
            manager
            dispatch })
  | started {receipt manager physicalGeneration}
      (ok : receipt.ok = true)
      (generation : manager.generation = physicalGeneration)
      (currentPlan : manager.currentPlan = buildPhysicalPlan router.gates router.groups) :
      Initializes router firstEpoch
        ({ reply := .lifecycle receipt },
          { router with
            manager
            worksetEpoch := firstEpoch
            dispatchGeneration := ⟨1⟩
            dispatch := some (buildSnapshot router.gates router.groups
              firstEpoch ⟨1⟩ physicalGeneration)
            initialized := true
            stopped := false
            stopping := false
            ingressEnabled := true })

theorem initializeRouter_cases (call : RouterCall) (firstEpoch : WorksetEpoch)
    (fresh : router.initialized = false) :
    Initializes router firstEpoch (router.initializeRouter call firstEpoch) := by
  unfold initializeRouter
  split
  · exact .refused rfl rfl
  rw [if_neg (by simp [fresh])]
  split
  · exact .refused rfl rfl
  dsimp only
  have bound : SamePlan (router.manager.bindNativeStopSink call.backend).2
      router.manager := bindNativeStopSink_samePlan
  generalize router.manager.bindNativeStopSink call.backend = bind at bound ⊢
  split
  · exact .failed rfl bound (.inr rfl)
  unfold initializeBound
  dsimp only
  have released : SamePlan (bind.2.unbindNativeStopSink call.backend).2 bind.2 :=
    unbindNativeStopSink_samePlan
  split
  · exact .failed rfl (released.trans bound) (.inr rfl)
  have reconciles : bind.2.Reconciles
      (buildPhysicalPlan router.gates router.groups) _
      (bind.2.applyExactPlan call.backend (buildPhysicalPlan router.gates router.groups) true) :=
    applyExactPlan_reconciles true
  unfold buildSnapshot
  dsimp only
  generalize bind.2.applyExactPlan call.backend
    (buildPhysicalPlan router.gates router.groups) true = applied at reconciles ⊢
  cases reconciles with
  | failed refused same worsened =>
    simp only [refused, Bool.not_false, if_true]
    have unbound : SamePlan
        (applied.manager.unbindNativeStopSink call.backend).2 applied.manager :=
      unbindNativeStopSink_samePlan
    exact .failed rfl ((unbound.trans same).trans bound) (.inl rfl)
  | installed ok committed receiptGeneration currentPlan generation exact =>
    simp only [ok, committed, Bool.not_true, Bool.false_eq_true, if_false, if_true]
    exact .started rfl generation currentPlan

/-- How the cleanup can end.  It clears the groups and the dispatch together
with the plan, or keeps them. -/
structure CleansUp (router : StopPointRouter) (call : RouterCall) (next : StopPointRouter) :
    Prop where
  ownerThread : next.ownerThread = router.ownerThread
  ports : next.ports = router.ports
  initialized : next.initialized = router.initialized
  worksetEpoch : next.worksetEpoch = router.worksetEpoch
  gates : next.gates = router.gates
  ingressEnabled : next.ingressEnabled = router.ingressEnabled
  pending : next.pending = []
  passiveDrops : next.passiveDrops = router.passiveDrops
  passiveDropCount : next.passiveDropCount = router.passiveDropCount
  authoritativeOverflow : next.authoritativeOverflow = router.authoritativeOverflow
  overflowReported : next.overflowReported = router.overflowReported
  released : next.releasedRegistrationSequences =
    (router.markReleased (List.map GroupRecord.registration
      router.groups)).releasedRegistrationSequences
  currentPlan : next.manager.currentPlan = router.manager.currentPlan ∨
    next.manager.currentPlan = {}
  stopped : router.stopped = true → next.stopped = true
  /-- The router is stopped only when the plan was cleared. -/
  finished : next.stopped = true → router.stopped = true ∨
    next.groups = [] ∧ next.manager.currentPlan = {} ∧
      ∀ snapshot, next.dispatch = some snapshot → snapshot.entries = []
  outcome :
    (next.groups = router.groups ∧ next.dispatch = router.dispatch ∧
      next.dispatchGeneration = router.dispatchGeneration ∧ SamePlan next.manager router.manager) ∨
    (next.groups = [] ∧ ∀ snapshot, next.dispatch = some snapshot →
        snapshot.entries = [] ∧ snapshot.physicalPlan = {} ∧
        snapshot.generation = next.dispatchGeneration ∧ snapshot.worksetEpoch = next.worksetEpoch ∧
        (call.backend.Faithful → next.manager.generation = snapshot.physicalGeneration ∧
          next.manager.currentPlan = {}))

theorem cleanUp_cases (router : StopPointRouter) (call : RouterCall) :
    CleansUp router call (router.cleanUp call).2 := by
  have reconciles : router.manager.Reconciles {} router.manager.nextGeneration
      (router.manager.clearOwnedStopPoints call.backend) :=
    execute_reconciles _
  have faithful (faithful : call.backend.Faithful) :
      (router.manager.clearOwnedStopPoints call.backend).receipt.ok = false →
      (router.manager.clearOwnedStopPoints call.backend).committed = false :=
    execute_faithful faithful.clear
  unfold cleanUp
  dsimp only
  generalize router.manager.clearOwnedStopPoints call.backend = clear at reconciles faithful ⊢
  have unbound : SamePlan (clear.manager.unbindNativeStopSink call.backend).2
      clear.manager := unbindNativeStopSink_samePlan
  generalize clear.manager.unbindNativeStopSink call.backend = unbind at unbound ⊢
  have plan : unbind.2.currentPlan = router.manager.currentPlan ∨
      unbind.2.currentPlan = {} := by
    rw [unbound.currentPlan]
    cases reconciles with
    | failed _ same _ => exact .inl same.currentPlan
    | installed _ _ _ currentPlan _ _ => exact .inr currentPlan
  cases committed : clear.committed with
  | false =>
    have refused : clear.receipt.ok = false ∧
        SamePlan clear.manager router.manager := by
      cases reconciles with
      | failed refused same _ => exact ⟨refused, same⟩
      | installed _ ran => simp [committed] at ran
    simp only [refused.1, Bool.false_eq_true, if_false, Bool.false_and]
    exact ⟨rfl, rfl, rfl, rfl, rfl, rfl, rfl, rfl, rfl, rfl, rfl, rfl, plan,
      id, .inl, .inl ⟨rfl, rfl, rfl, unbound.trans refused.2⟩⟩
  | true =>
    have installed (done : clear.receipt.ok = true) :
        unbind.2.generation = router.manager.nextGeneration ∧ unbind.2.currentPlan = {} := by
      cases reconciles with
      | failed refused _ _ => exact absurd (done.symm.trans refused) (by decide)
      | installed _ _ _ currentPlan generation _ =>
        exact ⟨unbound.generation.trans generation, unbound.currentPlan.trans currentPlan⟩
    have loyal (loyal : call.backend.Faithful) : clear.receipt.ok = true := by
      by_contra refused
      have kept := faithful loyal (by simpa using refused)
      simp [committed] at kept
    simp only [if_true]
    split
    · rename_i done
      rw [Bool.and_eq_true] at done
      have cleared := (installed done.1).2
      split
      all_goals
        refine ⟨rfl, rfl, rfl, rfl, rfl, rfl, rfl, rfl, rfl, rfl, rfl, rfl,
          plan, fun _ => rfl, fun _ => .inr ⟨rfl, cleared, ?_⟩,
          .inr ⟨rfl, fun snapshot published => ?_⟩⟩
      · rintro snapshot ⟨⟩
        rfl
      · cases published
        exact ⟨rfl, rfl, rfl, rfl, fun _ => installed done.1⟩
      · exact nofun
      · cases published
    · split
      all_goals
        refine ⟨rfl, rfl, rfl, rfl, rfl, rfl, rfl, rfl, rfl, rfl, rfl, rfl,
          plan, id, .inl, .inr ⟨rfl, fun snapshot published => ?_⟩⟩
      · cases published
        exact ⟨rfl, rfl, rfl, rfl, fun faithful => installed (loyal faithful)⟩
      · cases published

end StopPointRouter
end Savor.StopPoints


import Savor.StopPoints.RouterOperations

/-!
# What applying a candidate and draining do

One lemma for each of the two operations that most calls go through.  A
candidate either changes nothing that dispatches, or it is published as a whole.
A drain takes every waiting packet once, in order, and removes the one-shot
subscriptions that fired.
-/

namespace Savor.StopPoints

open Program PhysicalStopPointManager

/-- The router with its overflow reported or not. -/
def StopPointRouter.withReported (router : StopPointRouter) (reported : Bool) : StopPointRouter :=
  { router with overflowReported := reported }

/-- Only control data changed: nothing that dispatches, waits or counts, and the
ingress was not opened. -/
structure ControlChange (router next : StopPointRouter) : Prop where
  ownerThread : next.ownerThread = router.ownerThread
  ports : next.ports = router.ports
  initialized : next.initialized = router.initialized
  manager : SamePlan next.manager router.manager
  groups : next.groups = router.groups
  dispatch : next.dispatch = router.dispatch
  gates : next.gates = router.gates
  worksetEpoch : next.worksetEpoch = router.worksetEpoch
  dispatchGeneration : next.dispatchGeneration = router.dispatchGeneration
  ingress : next.ingress = router.ingress
  emergency : next.emergency = router.emergency
  passiveDrops : next.passiveDrops = router.passiveDrops
  passiveDropCount : next.passiveDropCount = router.passiveDropCount
  authoritativeOverflow : next.authoritativeOverflow = router.authoritativeOverflow
  overflowReported : next.overflowReported = router.overflowReported
  nextRegistrationSequence : next.nextRegistrationSequence = router.nextRegistrationSequence
  releasedRegistrationSequences :
    next.releasedRegistrationSequences = router.releasedRegistrationSequences
  stopping : next.stopping = router.stopping
  stopped : next.stopped = router.stopped
  ingressEnabled : next.ingressEnabled = true → router.ingressEnabled = true

theorem ControlChange.refl (router : StopPointRouter) : ControlChange router router :=
  ⟨rfl, rfl, rfl, .refl _, rfl, rfl, rfl, rfl, rfl, rfl, rfl, rfl, rfl, rfl,
    rfl, rfl, rfl, rfl, rfl, id⟩

theorem ControlChange.close (router : StopPointRouter) :
    ControlChange router { router with ingressEnabled := false } :=
  ⟨rfl, rfl, rfl, .refl _, rfl, rfl, rfl, rfl, rfl, rfl, rfl, rfl, rfl, rfl,
    rfl, rfl, rfl, rfl, rfl, fun enabled => absurd enabled Bool.false_ne_true⟩

theorem ControlChange.withReported {router next : StopPointRouter}
    {before : Bool} (change : ControlChange (router.withReported before) next) (reported : Bool) :
    ControlChange (router.withReported reported) (next.withReported reported) :=
  { change with overflowReported := rfl }

/-- The owner, the ports, the epoch, the gates and the numbers stayed, and so
did being in use or stopped. -/
structure Keeps (router next : StopPointRouter) : Prop where
  ownerThread : next.ownerThread = router.ownerThread
  ports : next.ports = router.ports
  initialized : next.initialized = router.initialized
  worksetEpoch : next.worksetEpoch = router.worksetEpoch
  gates : next.gates = router.gates
  nextRegistrationSequence : next.nextRegistrationSequence = router.nextRegistrationSequence
  stopping : next.stopping = router.stopping
  stopped : next.stopped = router.stopped

theorem Keeps.refl (router : StopPointRouter) : Keeps router router :=
  ⟨rfl, rfl, rfl, rfl, rfl, rfl, rfl, rfl⟩

theorem Keeps.trans {router middle next : StopPointRouter}
    (first : Keeps router middle) (second : Keeps middle next) : Keeps router next where
  ownerThread := second.ownerThread.trans first.ownerThread
  ports := second.ports.trans first.ports
  initialized := second.initialized.trans first.initialized
  worksetEpoch := second.worksetEpoch.trans first.worksetEpoch
  gates := second.gates.trans first.gates
  nextRegistrationSequence := second.nextRegistrationSequence.trans first.nextRegistrationSequence
  stopping := second.stopping.trans first.stopping
  stopped := second.stopped.trans first.stopped

theorem ControlChange.keeps {router next : StopPointRouter} (change : ControlChange router next) :
    Keeps router next :=
  ⟨change.ownerThread, change.ports, change.initialized, change.worksetEpoch,
    change.gates, change.nextRegistrationSequence, change.stopping, change.stopped⟩

/-- What waits, what was dropped and what is known of an overflow stayed, and
the ingress was not opened. -/
structure KeepsQueue (router next : StopPointRouter) : Prop where
  ingress : next.ingress = router.ingress
  emergency : next.emergency = router.emergency
  passiveDrops : next.passiveDrops = router.passiveDrops
  passiveDropCount : next.passiveDropCount = router.passiveDropCount
  authoritativeOverflow : next.authoritativeOverflow = router.authoritativeOverflow
  overflowReported : next.overflowReported = router.overflowReported
  ingressEnabled : next.ingressEnabled = true → router.ingressEnabled = true

theorem ControlChange.keepsQueue {router next : StopPointRouter}
    (change : ControlChange router next) : KeepsQueue router next :=
  ⟨change.ingress, change.emergency, change.passiveDrops,
    change.passiveDropCount, change.authoritativeOverflow,
    change.overflowReported, change.ingressEnabled⟩

namespace KeepsQueue

theorem trans {router middle next : StopPointRouter}
    (first : KeepsQueue router middle) (second : KeepsQueue middle next) :
    KeepsQueue router next where
  ingress := second.ingress.trans first.ingress
  emergency := second.emergency.trans first.emergency
  passiveDrops := second.passiveDrops.trans first.passiveDrops
  passiveDropCount := second.passiveDropCount.trans first.passiveDropCount
  authoritativeOverflow := second.authoritativeOverflow.trans first.authoritativeOverflow
  overflowReported := second.overflowReported.trans first.overflowReported
  ingressEnabled := first.ingressEnabled ∘ second.ingressEnabled

theorem withReported {router next : StopPointRouter}
    (kept : KeepsQueue router next) (reported : Bool) :
    KeepsQueue (router.withReported reported) (next.withReported reported) :=
  { kept with overflowReported := rfl }

theorem pending {router next : StopPointRouter} (kept : KeepsQueue router next) :
    next.pending = router.pending := by
  unfold StopPointRouter.pending
  rw [kept.ingress, kept.emergency]

end KeepsQueue

theorem ControlChange.trans {router middle next : StopPointRouter}
    (first : ControlChange router middle) (second : ControlChange middle next) :
    ControlChange router next :=
  { first.keeps.trans second.keeps,
    first.keepsQueue.trans second.keepsQueue with
    manager := second.manager.trans first.manager
    groups := second.groups.trans first.groups
    dispatch := second.dispatch.trans first.dispatch
    dispatchGeneration := second.dispatchGeneration.trans first.dispatchGeneration
    releasedRegistrationSequences :=
      second.releasedRegistrationSequences.trans first.releasedRegistrationSequences }

/-- The error of a failed receipt tells that the integrity is unknown exactly
when it is. -/
def CandidateApplyReceipt.ErrorTellsIntegrity (receipt : CandidateApplyReceipt) : Prop :=
  ∃ error, receipt.error = some error ∧
    (error.code = .physicalIntegrityUnknown ↔ receipt.integrity = .unknown)

/-- What `ApplyCandidate` can do.  When the backend ran the commit without
success it is not faithful. -/
inductive AppliesCandidate (router : StopPointRouter) (candidate : Groups)
    (backend : PhysicalStopPointBackend) : CandidateApplyReceipt × StopPointRouter → Prop
  | kept {receipt manager}
      (failed : receipt.ok = false)
      (reported : receipt.ErrorTellsIntegrity)
      (same : SamePlan manager router.manager) :
      AppliesCandidate router candidate backend (receipt, { router with manager })
  | published {receipt manager physicalGeneration}
      (ok : receipt.ok = true)
      (reported : receipt.error = none)
      (generation : manager.generation = physicalGeneration)
      (currentPlan : manager.currentPlan = buildPhysicalPlan router.gates candidate) :
      AppliesCandidate router candidate backend
        (receipt,
          { router with
            manager
            groups := candidate
            dispatchGeneration := nextDispatchGeneration router.dispatchGeneration
            dispatch := some (buildSnapshot router.gates candidate router.worksetEpoch
              (nextDispatchGeneration router.dispatchGeneration) physicalGeneration) })
  | torn {receipt manager physicalGeneration}
      (failed : receipt.ok = false)
      (reported : receipt.ErrorTellsIntegrity)
      (unknown : receipt.integrity = .unknown)
      (unfaithful : ¬backend.Faithful)
      (same : SamePlan manager router.manager) :
      AppliesCandidate router candidate backend
        (receipt,
          { router with
            manager
            groups := candidate
            dispatchGeneration := nextDispatchGeneration router.dispatchGeneration
            dispatch := some (buildSnapshot router.gates candidate router.worksetEpoch
              (nextDispatchGeneration router.dispatchGeneration) physicalGeneration) })

variable {error : StopPointError}

theorem CandidateScan.subscription_code {scan : CandidateScan} {record : SubscriptionRecord}
    (failed : scan.subscription record = .error error) :
    error.code ≠ .physicalIntegrityUnknown := by
  unfold CandidateScan.subscription at failed
  dsimp only at failed
  split at failed
  · cases failed
    simp
  split at failed
  · split at failed
    · cases failed
      simp
    · cases failed
  · cases failed

theorem foldlM_error {α β : Type} {step : β → α → Except StopPointError β}
    {property : StopPointError → Prop}
    (steps : ∀ state element error, step state element = .error error → property error)
    {list : List α} {state : β} (failed : list.foldlM step state = .error error) :
    property error := by
  induction list generalizing state with
  | nil => cases failed
  | cons element rest ih =>
    rw [List.foldlM_cons] at failed
    cases stepped : step state element with
    | error stopped =>
      rw [stepped] at failed
      cases failed
      exact steps state element _ stepped
    | ok next =>
      rw [stepped] at failed
      exact ih failed

theorem CandidateScan.group_code {scan : CandidateScan} {group : GroupRecord}
    (failed : scan.group group = .error error) : error.code ≠ .physicalIntegrityUnknown := by
  unfold CandidateScan.group at failed
  split at failed
  · split at failed
    · cases failed
      simp
    · exact foldlM_error (fun _ _ _ => CandidateScan.subscription_code) failed
  · exact foldlM_error (fun _ _ _ => CandidateScan.subscription_code) failed

/-- Checking a candidate says nothing about the physical plan. -/
theorem validateCandidate_code {groups : Groups} (failed : validateCandidate groups = some error) :
    error.code ≠ .physicalIntegrityUnknown := by
  unfold validateCandidate at failed
  split at failed
  · rename_i stopped
    cases failed
    exact foldlM_error (fun _ _ _ => CandidateScan.group_code) stopped
  split at failed
  · cases failed
    simp
  · cases failed

theorem DispatchSnapshot.validateMatchCapacity_code {snapshot : DispatchSnapshot}
    (failed : snapshot.validateMatchCapacity = some error) :
    error.code ≠ .physicalIntegrityUnknown := by
  obtain ⟨context, -, checked⟩ := List.exists_of_findSome?_eq_some failed
  unfold DispatchSnapshot.validateContext at checked
  dsimp only at checked
  split at checked
  · cases checked
    simp
  split at checked
  · cases checked
    simp
  split at checked
  · cases checked
    simp
  · cases checked

namespace StopPointRouter

variable {router : StopPointRouter} {candidate : Groups}
variable {backend : PhysicalStopPointBackend} {force : Bool}
variable {consumers : Consumers}

theorem controlChange_appendHistory (receipt : StopRouteReceipt) :
    ControlChange router (router.appendHistory receipt) :=
  ⟨rfl, rfl, rfl, .refl _, rfl, rfl, rfl, rfl, rfl, rfl, rfl, rfl, rfl, rfl,
    rfl, rfl, rfl, rfl, rfl, id⟩

theorem controlChange_distrustPhysical (integrity : PhysicalStopIntegrity) :
    ControlChange router (router.distrustPhysical integrity) := by
  unfold distrustPhysical
  split
  · exact .close router
  · exact .refl router

variable {manager : PhysicalStopPointManager}

theorem controlChange_manager (same : SamePlan manager router.manager) :
    ControlChange router { router with manager } :=
  { ControlChange.refl router with manager := same }

theorem controlChange_distrust (same : SamePlan manager router.manager) :
    ControlChange router { router with manager, ingressEnabled := false } :=
  { ControlChange.close router with manager := same }

theorem refuseCandidate_applies {integrity : PhysicalStopIntegrity} {error : StopPointError}
    (tells : error.code = .physicalIntegrityUnknown ↔ integrity = .unknown) :
    AppliesCandidate router candidate backend (router.refuseCandidate integrity error) :=
  .kept rfl ⟨error, rfl, tells⟩ (.refl router.manager)

theorem physicalError_tells {receipt : PhysicalStopBackendReceipt} :
    (physicalError receipt).code = .physicalIntegrityUnknown ↔ receipt.integrity = .unknown := by
  unfold physicalError
  split <;> simp_all

theorem commitCandidate_applies : AppliesCandidate router candidate backend
      (router.commitCandidate candidate (buildSnapshot router.gates candidate router.worksetEpoch
          (nextDispatchGeneration router.dispatchGeneration)
          (router.manager.generationFor (buildPhysicalPlan router.gates candidate) force))
        force backend) := by
  have reconciles : router.manager.Reconciles
      (buildPhysicalPlan router.gates candidate) _
      (router.manager.applyExactPlan backend (buildPhysicalPlan router.gates candidate) force) :=
    applyExactPlan_reconciles force
  have faithful (faithful : backend.Faithful) :
      (router.manager.applyExactPlan backend
        (buildPhysicalPlan router.gates candidate) force).receipt.ok = false →
      (router.manager.applyExactPlan backend
        (buildPhysicalPlan router.gates candidate) force).committed = false :=
    applyExactPlan_faithful faithful
  unfold commitCandidate buildSnapshot
  generalize router.manager.applyExactPlan backend
    (buildPhysicalPlan router.gates candidate) force = physical at reconciles faithful ⊢
  cases reconciles with
  | failed refused same worsened =>
    have tells : CandidateApplyReceipt.ErrorTellsIntegrity
        { ok := physical.receipt.ok
          dispatchGeneration :=
            (if physical.committed then
              nextDispatchGeneration router.dispatchGeneration
            else router.dispatchGeneration)
          physicalGeneration := physical.receipt.generation
          integrity := physical.receipt.integrity
          error :=
            if physical.receipt.ok then none
            else some (physicalError physical.receipt) } :=
      ⟨physicalError physical.receipt, by simp [refused], physicalError_tells⟩
    cases committed : physical.committed with
    | false =>
      simp only [committed, Bool.false_eq_true, if_false] at tells ⊢
      exact .kept refused tells same
    | true =>
      simp only [committed, if_true] at tells ⊢
      refine .torn refused tells (worsened committed) ?_ same
      intro loyal
      have kept := faithful loyal refused
      simp [committed] at kept
  | installed ok committed receiptGeneration currentPlan generation exact =>
    simp only [committed, ok, if_true]
    exact .published rfl rfl generation currentPlan

/-- `ApplyCandidate` keeps the dispatch, or publishes the candidate. -/
theorem applyCandidate_applies (router : StopPointRouter) (candidate : Groups)
    (force : Bool) (backend : PhysicalStopPointBackend) : AppliesCandidate router candidate backend
      (router.applyCandidate candidate force backend) := by
  unfold applyCandidate
  split
  · rename_i error invalid
    apply refuseCandidate_applies
    have code := validateCandidate_code invalid
    simp [code]
  dsimp only
  split
  · exact refuseCandidate_applies (by simp)
  split
  · rename_i error invalid
    apply refuseCandidate_applies
    have code := DispatchSnapshot.validateMatchCapacity_code invalid
    simp [code]
  split
  · exact refuseCandidate_applies (by simp)
  · exact commitCandidate_applies

/-- The packet belongs to the dispatch and the plan that the router has now. -/
def IsCurrent (router : StopPointRouter) (packet : NativePacket) : Prop :=
  packet.snapshot.isSome ∧ packet.event.identity.dispatchGeneration = router.dispatchGeneration ∧
    packet.event.identity.worksetEpoch = router.worksetEpoch ∧
    packet.event.identity.physicalGeneration = router.manager.generation

instance (router : StopPointRouter) (packet : NativePacket) : Decidable (router.IsCurrent packet) :=
  inferInstanceAs (Decidable (_ ∧ _ ∧ _ ∧ _))

/-- Processing the packet reports an overflow. -/
def reportsOverflow (router : StopPointRouter) (packet : NativePacket) : Bool :=
  decide (router.IsCurrent packet) && packet.terminal = .overflow

/-- A stale packet delivers nothing, and an authoritative one keeps the core
stopped. -/
theorem processPacket_stale (consumers : Consumers) {packet : NativePacket}
    (old : ¬router.IsCurrent packet) : ∃ receipt, router.processPacket consumers packet =
        (receipt, [], router.appendHistory receipt) ∧
      receipt.terminal = .stale ∧ receipt.deliveries = [] ∧
      receipt.coreMustRemainStopped = packet.event.authoritative := by
  unfold processPacket
  rw [if_pos]
  · exact ⟨_, rfl, rfl, rfl, rfl⟩
  by_contra current
  apply old
  simp only [not_or, not_not, Option.isNone_iff_eq_none, ← Option.isSome_iff_ne_none] at current
  exact ⟨current.1, current.2.1, current.2.2.1, current.2.2.2⟩

theorem processPacket_current (consumers : Consumers) {packet : NativePacket}
    (current : router.IsCurrent packet) : ∃ point, router.processPacket consumers packet =
      (packet.routeReceipt (notifyConsumers consumers packet.event packet.entries).1
          (notifyConsumers consumers packet.event packet.entries).2,
        (notifyConsumers consumers packet.event packet.entries).1,
        { router with
          overflowReported :=
            router.overflowReported || packet.terminal = StopRouteTerminal.overflow
          currentPoint := point }.appendHistory (packet.routeReceipt
              (notifyConsumers consumers packet.event packet.entries).1
              (notifyConsumers consumers packet.event packet.entries).2)) := by
  obtain ⟨published, dispatch, epoch, physical⟩ := current
  unfold processPacket
  rw [if_neg]
  · exact ⟨_, rfl⟩
  · simp [published, dispatch, epoch, physical, ← Option.isSome_iff_ne_none]

theorem processPacket_change (router : StopPointRouter) (consumers : Consumers)
    (packet : NativePacket) : ControlChange
      (router.withReported (router.overflowReported || router.reportsOverflow packet))
      (router.processPacket consumers packet).2.2 := by
  by_cases current : router.IsCurrent packet
  · obtain ⟨point, processed⟩ := processPacket_current consumers current
    rw [processed]
    refine ControlChange.trans ?_ (controlChange_appendHistory _)
    have reports : router.reportsOverflow packet =
        decide (packet.terminal = .overflow) := by
      simp [reportsOverflow, current]
    rw [reports]
    exact ⟨rfl, rfl, rfl, .refl _, rfl, rfl, rfl, rfl, rfl, rfl, rfl, rfl, rfl,
      rfl, rfl, rfl, rfl, rfl, rfl, id⟩
  · obtain ⟨receipt, processed, -⟩ := processPacket_stale consumers current
    have silent : router.reportsOverflow packet = false := by simp [reportsOverflow, current]
    rw [processed, silent, Bool.or_false]
    exact controlChange_appendHistory receipt

variable {other : StopPointRouter}

theorem processPacket_congr (consumers : Consumers)
    (dispatch : other.dispatchGeneration = router.dispatchGeneration)
    (epoch : other.worksetEpoch = router.worksetEpoch)
    (physical : other.manager.generation = router.manager.generation) (packet : NativePacket) :
    (other.processPacket consumers packet).1 = (router.processPacket consumers packet).1 ∧
      (other.processPacket consumers packet).2.1 = (router.processPacket consumers packet).2.1 := by
  unfold processPacket
  rw [dispatch, epoch, physical]
  split <;> exact ⟨rfl, rfl⟩

/-- The items of packets that are drained. -/
def routedItems (router : StopPointRouter) (consumers : Consumers) (packets : List NativePacket) :
    List DrainItem :=
  packets.map fun packet => .routed packet (router.processPacket consumers packet).1

/-- The entries that are notified when packets are drained. -/
def notifiedBy (router : StopPointRouter) (consumers : Consumers) (packets : List NativePacket) :
    List DispatchEntry :=
  packets.flatMap fun packet => (router.processPacket consumers packet).2.1

theorem drained_congr (router : StopPointRouter) (consumers : Consumers)
    (dispatch : other.dispatchGeneration = router.dispatchGeneration)
    (epoch : other.worksetEpoch = router.worksetEpoch)
    (physical : other.manager.generation = router.manager.generation)
    (packets : List NativePacket) :
    other.routedItems consumers packets = router.routedItems consumers packets ∧
      other.notifiedBy consumers packets = router.notifiedBy consumers packets := by
  have same (packet : NativePacket) := processPacket_congr consumers dispatch epoch physical packet
  constructor
  · apply List.map_congr_left
    intro packet _
    rw [(same packet).1]
  apply List.flatMap_congr
  intro packet _
  exact (same packet).2

theorem processAll_spec (router : StopPointRouter) (consumers : Consumers)
    (packets : List NativePacket) : (processAll consumers packets router).items =
        router.routedItems consumers packets ∧
      (processAll consumers packets router).notified = router.notifiedBy consumers packets ∧
      ControlChange
        (router.withReported (router.overflowReported || packets.any router.reportsOverflow))
        (processAll consumers packets router).router := by
  induction packets generalizing router with
  | nil =>
    simp only [List.any_nil, Bool.or_false]
    exact ⟨rfl, rfl, .refl router⟩
  | cons packet rest ih =>
    have change := processPacket_change router consumers packet
    obtain ⟨items, notified, later⟩ := ih (router.processPacket consumers packet).2.2
    obtain ⟨sameItems, sameNotified⟩ := drained_congr router consumers
      change.dispatchGeneration change.worksetEpoch change.manager.generation rest
    have reports : (router.processPacket consumers packet).2.2.reportsOverflow =
        router.reportsOverflow := by
      funext other
      have current :
          (router.processPacket consumers packet).2.2.IsCurrent other ↔ router.IsCurrent other := by
        unfold IsCurrent
        rw [change.dispatchGeneration, change.worksetEpoch, change.manager.generation]
        exact Iff.rfl
      simp only [reportsOverflow, current]
    refine ⟨?_, ?_, ?_⟩
    · simp only [processAll, items, sameItems]
      rfl
    · simp only [processAll, notified, sameNotified]
      rfl
    rw [reports, change.overflowReported] at later
    simp only [List.any_cons, processAll]
    rw [← Bool.or_assoc]
    exact ControlChange.trans (change.withReported _) later

/-- The router with its waiting packets taken out. -/
def emptied (router : StopPointRouter) : StopPointRouter :=
  { router with ingress := [], emergency := none }

theorem removeFired_settled (gates : Gates) (groups : Groups) : (removeFiredOneShotsCandidate gates
      (removeFiredOneShotsCandidate gates groups).candidate).changed = false := by
  unfold removeFiredOneShotsCandidate
  simp only [List.any_eq_false, List.mem_filter, List.mem_map]
  rintro group ⟨⟨original, -, rfl⟩, -⟩
  simp

theorem controlChange_emptied (empty : router.pending = []) :
    ControlChange router router.emptied := by
  obtain ⟨ingress, emergency⟩ := List.append_eq_nil_iff.mp empty
  exact { ControlChange.refl router with
    ingress := ingress.symm
    emergency := by
      rw [Option.toList_eq_nil_iff] at emergency
      exact emergency.symm }

/-- A second pass finds nothing to do, so that more passes change nothing. -/
theorem drainPasses_settled (backend : PhysicalStopPointBackend)
    (consumers : Consumers) {passes : Nat} (drained : router.pending = []) (settled :
      (removeFiredOneShotsCandidate router.gates router.groups).changed = false) :
    drainPasses backend consumers (passes + 1) router =
      { items := [], notified := [], router := router.emptied } := by
  simp only [drainPasses, drained, processAll, settled, emptied, Bool.not_false, if_true]

/-- The router after a drain applied its candidate: when that succeeded, the
groups that ended are remembered as released. -/
def markEnded (router applied : StopPointRouter) (ok : Bool) : StopPointRouter :=
  { applied with
    releasedRegistrationSequences :=
      if ok then
        (applied.markReleased (removeFiredOneShotsCandidate router.gates
          router.groups).endedGroups).releasedRegistrationSequences
      else applied.releasedRegistrationSequences }

/-- Everything that a drain can do.  The packets are processed, and when
one-shot subscriptions fired the candidate without them is applied.  What it
reports besides the packets is `trailing`. -/
structure DrainsTo (router : StopPointRouter)
    (backend : PhysicalStopPointBackend) (consumers : Consumers)
    (trailing : List DrainItem) (drained : Drained) : Prop where
  items : drained.items = router.routedItems consumers router.pending ++ trailing
  notified : drained.notified = router.notifiedBy consumers router.pending
  outcome :
    ((removeFiredOneShotsCandidate router.gates router.groups).changed = false ∧
      (∀ integrity receipt, .reconcileFailed integrity receipt ∉ trailing) ∧ ControlChange
        (router.emptied.withReported drained.router.overflowReported) drained.router) ∨
    ∃ middle receipt applied,
      ControlChange (router.emptied.withReported middle.overflowReported) middle ∧
      AppliesCandidate middle (removeFiredOneShotsCandidate router.gates router.groups).candidate
        backend (receipt, applied) ∧
      ControlChange
        ((router.markEnded applied receipt.ok).withReported drained.router.overflowReported)
        drained.router ∧
      (∀ integrity failure, .reconcileFailed integrity failure ∈ trailing →
        receipt.ok = false ∧ receipt.integrity = integrity) ∧
      (receipt.ok = false → drained.router.ingressEnabled = false)
  reported : drained.router.overflowReported =
    (router.overflowReported || router.pending.any router.reportsOverflow ||
      router.authoritativeOverflow)
  /-- An overflow that no packet reports is reported by the drain itself. -/
  owed : router.authoritativeOverflow = true →
    router.overflowReported = false →
    router.pending.any router.reportsOverflow = false →
      ∃ receipt, .overflowed receipt ∈ trailing ∧ receipt.terminal = .overflow
  reports : ∀ item ∈ trailing,
    (∃ integrity receipt, item = .reconcileFailed integrity receipt) ∨
      ∃ receipt, item = .overflowed receipt

theorem drainPasses_spec (router : StopPointRouter)
    (backend : PhysicalStopPointBackend) (consumers : Consumers) : ∃ trailing,
      (drainPasses backend consumers drainPassLimit router).items =
        router.routedItems consumers router.pending ++ trailing ∧
      (drainPasses backend consumers drainPassLimit router).notified =
        router.notifiedBy consumers router.pending ∧
      (drainPasses backend consumers drainPassLimit router).router.overflowReported =
        (router.overflowReported || router.pending.any router.reportsOverflow) ∧
      (drainPasses backend consumers drainPassLimit
          router).router.authoritativeOverflow = router.authoritativeOverflow ∧
      ((removeFiredOneShotsCandidate router.gates router.groups).changed = false ∧ trailing = [] ∧
        ControlChange (router.emptied.withReported (router.overflowReported ||
            router.pending.any router.reportsOverflow))
          (drainPasses backend consumers drainPassLimit router).router ∨ ∃ middle receipt applied,
        ControlChange (router.emptied.withReported middle.overflowReported) middle ∧
        AppliesCandidate middle (removeFiredOneShotsCandidate router.gates router.groups).candidate
          backend (receipt, applied) ∧ ControlChange (router.markEnded applied receipt.ok)
          (drainPasses backend consumers drainPassLimit router).router ∧
        ((receipt.ok = true ∧ trailing = []) ∨ ∃ failure, receipt.ok = false ∧
            trailing = [.reconcileFailed receipt.integrity failure] ∧
            (drainPasses backend consumers drainPassLimit
              router).router.ingressEnabled = false)) := by
  obtain ⟨items, notified, change⟩ := processAll_spec router.emptied consumers router.pending
  have reports : router.emptied.reportsOverflow = router.reportsOverflow := rfl
  rw [reports] at change
  obtain ⟨sameItems, sameNotified⟩ := drained_congr router consumers
    (show router.emptied.dispatchGeneration = router.dispatchGeneration from rfl)
    rfl rfl router.pending
  rw [sameItems] at items
  rw [sameNotified] at notified
  generalize taken : processAll consumers router.pending router.emptied = processed
    at items notified change
  have gates : processed.router.gates = router.gates := change.gates
  have groups : processed.router.groups = router.groups := change.groups
  unfold drainPassLimit drainPasses
  dsimp only
  rw [← emptied, taken, gates, groups]
  split
  · rename_i settled
    refine ⟨[], ?_, notified, change.overflowReported, change.authoritativeOverflow,
      .inl ⟨by simpa using settled, rfl, change⟩⟩
    rw [List.append_nil]
    exact items
  have applies := applyCandidate_applies processed.router
    (removeFiredOneShotsCandidate router.gates router.groups).candidate false backend
  generalize result : processed.router.applyCandidate
    (removeFiredOneShotsCandidate router.gates router.groups).candidate false
    backend = applied at applies ⊢
  obtain ⟨receipt, applied⟩ := applied
  have middle : ControlChange
      (router.emptied.withReported processed.router.overflowReported)
      processed.router :=
    { change with overflowReported := rfl }
  have flags : applied.overflowReported = processed.router.overflowReported ∧
      applied.authoritativeOverflow = processed.router.authoritativeOverflow := by
    cases applies <;> exact ⟨rfl, rfl⟩
  split
  · rename_i failed
    have failed : receipt.ok = false := by simpa using failed
    refine ⟨[_], by rw [items], notified, flags.1.trans change.overflowReported,
      flags.2.trans change.authoritativeOverflow, .inr ?_⟩
    have unmarked : router.markEnded applied receipt.ok = applied := by simp [markEnded, failed]
    refine ⟨_, _, _, middle, applies, ?_, .inr ⟨_, failed, rfl, rfl⟩⟩
    rw [unmarked]
    exact (controlChange_appendHistory _).trans (.close _)
  · rename_i succeeded
    have applied_ok : receipt.ok = true := by simpa using succeeded
    have settled :
        (removeFiredOneShotsCandidate applied.gates applied.groups).changed = false := by
      cases applies with
      | kept failed | torn failed => exact absurd (applied_ok.symm.trans failed) (by decide)
      | published =>
        rw [gates]
        exact removeFired_settled router.gates router.groups
    have empty : (applied.markReleased (removeFiredOneShotsCandidate
        router.gates router.groups).endedGroups).pending = [] := by
      have ingress : processed.router.ingress = [] := change.ingress
      have emergency : processed.router.emergency = none := change.emergency
      cases applies <;> simp [pending, markReleased, ingress, emergency]
    rw [drainPasses_settled backend consumers empty settled]
    refine ⟨[], ?_, ?_, flags.1.trans change.overflowReported,
      flags.2.trans change.authoritativeOverflow, .inr ?_⟩
    · simp only [List.append_nil]
      exact items
    · simp only [List.append_nil]
      exact notified
    have marked : router.markEnded applied receipt.ok =
        applied.markReleased (removeFiredOneShotsCandidate router.gates
          router.groups).endedGroups := by
      simp [markEnded, applied_ok, markReleased]
    refine ⟨_, _, _, middle, applies, ?_, .inl ⟨applied_ok, rfl⟩⟩
    rw [marked]
    exact controlChange_emptied empty

theorem drainIngress_drainsTo {thread : ThreadId}
    (backend : PhysicalStopPointBackend) (consumers : Consumers)
    (initialized : router.initialized = true) (owner : router.ownerThread = thread) :
    ∃ trailing, DrainsTo router backend consumers trailing
      (router.drainIngress thread backend consumers) := by
  obtain ⟨trailing, items, notified, reported, overflow, outcome⟩ :=
    drainPasses_spec router backend consumers
  unfold drainIngress
  rw [if_neg (by simp [initialized]), if_neg (by simp [owner])]
  dsimp only
  generalize drainPasses backend consumers drainPassLimit router = drained
    at items notified reported overflow outcome ⊢
  have reports : ∀ item ∈ trailing,
      (∃ integrity receipt, item = .reconcileFailed integrity receipt) ∨
        ∃ receipt, item = .overflowed receipt := by
    intro item member
    obtain ⟨-, rfl, -⟩ | ⟨_, _, _, -, -, -, ⟨-, rfl⟩ | ⟨_, -, rfl, -⟩⟩ := outcome
    · cases member
    · cases member
    · rw [List.mem_singleton] at member
      exact .inl ⟨_, _, member⟩
  split
  · rename_i owes
    rw [Bool.and_eq_true, Bool.not_eq_true'] at owes
    refine ⟨trailing ++ [.overflowed ingressOverflowRoute], ?_, notified, ?_, ?_, ?_, ?_⟩
    · rw [← List.append_assoc, items]
    · obtain ⟨settled, none, change⟩ |
        ⟨middle, receipt, applied, first, applies, last, closing⟩ := outcome
      · refine .inl ⟨settled, ?_, ?_⟩
        · simp [none]
        · exact (change.withReported true).trans ((controlChange_appendHistory _).withReported true)
      refine .inr ⟨middle, receipt, applied, first, applies, ?_, ?_, ?_⟩
      · have settled : ControlChange
            ((router.markEnded applied receipt.ok).withReported
              applied.overflowReported) drained.router :=
          last
        exact (settled.withReported true).trans ((controlChange_appendHistory _).withReported true)
      · intro integrity failure member
        obtain ⟨-, rfl⟩ | ⟨_, failed, rfl, -⟩ := closing
        · simp at member
        simp only [List.cons_append, List.nil_append, List.mem_cons,
          DrainItem.reconcileFailed.injEq, reduceCtorEq, List.not_mem_nil, or_false] at member
        exact ⟨failed, member.1.symm⟩
      intro failed
      obtain ⟨succeeded, -⟩ | ⟨_, -, -, closed⟩ := closing
      · rw [succeeded] at failed
        cases failed
      · exact closed
    · rw [overflow] at owes
      simp [owes.1]
    · intro _ _ _
      exact ⟨_, List.mem_append_right _ (List.mem_singleton.mpr rfl), rfl⟩
    intro item member
    rcases List.mem_append.mp member with earlier | last
    · exact reports item earlier
    · rw [List.mem_singleton] at last
      exact .inr ⟨_, last⟩
  · rename_i settled
    refine ⟨trailing, items, notified, ?_, ?_, ?_, reports⟩
    · obtain ⟨quiet, none, change⟩ |
        ⟨middle, receipt, applied, first, applies, last, closing⟩ := outcome
      · exact .inl ⟨quiet, by simp [none], change.withReported _⟩
      have settled : ControlChange
          ((router.markEnded applied receipt.ok).withReported
            applied.overflowReported) drained.router :=
        last
      refine .inr ⟨middle, receipt, applied, first, applies, settled.withReported _, ?_, ?_⟩
      · intro integrity failure member
        obtain ⟨-, rfl⟩ | ⟨_, failed, rfl, -⟩ := closing
        · cases member
        simp only [List.mem_singleton, DrainItem.reconcileFailed.injEq] at member
        exact ⟨failed, member.1.symm⟩
      intro failed
      obtain ⟨succeeded, -⟩ | ⟨_, -, -, closed⟩ := closing
      · rw [succeeded] at failed
        cases failed
      · exact closed
    · rw [Bool.and_eq_true, Bool.not_eq_true', overflow, reported, not_and]
        at settled
      rw [reported]
      cases authoritative : router.authoritativeOverflow with
      | false => rw [Bool.or_false]
      | true =>
        cases shown : (router.overflowReported || router.pending.any router.reportsOverflow) with
        | true => rfl
        | false => exact absurd shown (settled authoritative)
    · intro authoritative unreported none
      rw [Bool.and_eq_true, Bool.not_eq_true', overflow, reported, unreported, none] at settled
      exact absurd ⟨authoritative, rfl⟩ settled

theorem applyCandidate_keeps (router : StopPointRouter) (candidate : Groups)
    (force : Bool) (backend : PhysicalStopPointBackend) :
    Keeps router (router.applyCandidate candidate force backend).2 := by
  have applies := applyCandidate_applies router candidate force backend
  generalize router.applyCandidate candidate force backend = result at applies ⊢
  cases applies <;> exact ⟨rfl, rfl, rfl, rfl, rfl, rfl, rfl, rfl⟩

theorem AppliesCandidate.keepsQueue {result : CandidateApplyReceipt × StopPointRouter}
    (applies : AppliesCandidate router candidate backend result) : KeepsQueue router result.2 := by
  cases applies <;> exact ⟨rfl, rfl, rfl, rfl, rfl, rfl, id⟩

theorem drainIngress_refused (router : StopPointRouter) {thread : ThreadId}
    (backend : PhysicalStopPointBackend) (consumers : Consumers)
    (refused : ¬(router.initialized = true ∧ router.ownerThread = thread)) :
    ∃ receipt, router.drainIngress thread backend consumers =
      { items := [.refused receipt], notified := [], router } := by
  unfold drainIngress
  split
  · exact ⟨_, rfl⟩
  split
  · exact ⟨_, rfl⟩
  · rename_i active owner
    exact absurd ⟨by simpa using active, not_not.mp owner⟩ refused

theorem emptied_keeps (router : StopPointRouter) (reported : Bool) :
    Keeps router (router.emptied.withReported reported) :=
  ⟨rfl, rfl, rfl, rfl, rfl, rfl, rfl, rfl⟩

variable {trailing : List DrainItem}

theorem DrainsTo.keeps {drained : Drained}
    (drains : DrainsTo router backend consumers trailing drained) :
    Keeps router drained.router := by
  obtain ⟨-, -, change⟩ | ⟨middle, receipt, applied, first, applies, last, -⟩ := drains.outcome
  · exact (emptied_keeps router _).trans change.keeps
  have published : Keeps middle applied := by
    generalize result : (receipt, applied) = final at applies
    cases applies <;> cases result <;> exact ⟨rfl, rfl, rfl, rfl, rfl, rfl, rfl, rfl⟩
  have reported (flag : Bool) :
      Keeps applied ((router.markEnded applied receipt.ok).withReported flag) :=
    ⟨rfl, rfl, rfl, rfl, rfl, rfl, rfl, rfl⟩
  exact ((emptied_keeps router _).trans first.keeps).trans
    ((published.trans (reported _)).trans last.keeps)

/-- A drain takes everything that waits, and loses track of nothing else. -/
theorem DrainsTo.keepsQueue {drained : Drained}
    (drains : DrainsTo router backend consumers trailing drained) :
    KeepsQueue (router.emptied.withReported drained.router.overflowReported) drained.router := by
  obtain ⟨-, -, change⟩ | ⟨middle, receipt, applied, first, applies, last, -⟩ := drains.outcome
  · exact change.keepsQueue
  have marked : KeepsQueue applied (router.markEnded applied receipt.ok) :=
    ⟨rfl, rfl, rfl, rfl, rfl, rfl, id⟩
  have early := (first.keepsQueue.trans (AppliesCandidate.keepsQueue applies)).trans marked
  exact (early.withReported drained.router.overflowReported).trans last.keepsQueue

theorem drainIngress_keeps (router : StopPointRouter) (thread : ThreadId)
    (backend : PhysicalStopPointBackend) (consumers : Consumers) :
    Keeps router (router.drainIngress thread backend consumers).router := by
  by_cases served : router.initialized = true ∧ router.ownerThread = thread
  · obtain ⟨trailing, drains⟩ := drainIngress_drainsTo backend consumers
      served.1 served.2
    exact drains.keeps
  obtain ⟨receipt, refused⟩ := drainIngress_refused router backend consumers served
  rw [refused]
  exact .refl router

end StopPointRouter

end Savor.StopPoints

import Savor.StopPoints.LeaseInvariant

/-!
# The state after a successful cleanup

Once the cleanup succeeded nothing is installed, nothing dispatches and the
ingress is closed.  No call changes that but those that the check of the control
thread should stop and does not: registering a group, and opening the ingress.
-/

namespace Savor.StopPoints

open Program PhysicalStopPointManager

/-- The call restarts a router that was stopped: it registers a group or opens
the ingress, and the check of the control thread lets it through. -/
def RouterCall.Restarts (router : StopPointRouter) (call : RouterCall) : Prop :=
  call.thread = router.ownerThread ∧
    match call.operation with
    | .registerGroup definition _ => definition.validate router.ports = none
    | .reconcileAfterWorksetBaselineRestore => True
    | .resumeAfterFailedWorksetBaselineRestore => True
    | .enterStoppedMovieCoreBoundary => True
    | _ => False

instance (router : StopPointRouter) (call : RouterCall) : Decidable (call.Restarts router) := by
  unfold RouterCall.Restarts
  have decided : Decidable
      (match call.operation with
        | .registerGroup definition _ => definition.validate router.ports = none
        | .reconcileAfterWorksetBaselineRestore => True
        | .resumeAfterFailedWorksetBaselineRestore => True
        | .enterStoppedMovieCoreBoundary => True
        | _ => False) := by
    split <;> infer_instance
  infer_instance

theorem buildNativePacket_silent {ports : StopPointPorts}
    {dispatch : Option DispatchSnapshot} {hit : NativeHit} {gates : Gates}
    {nextStopSequence nextSampleSnapshot : UInt64}
    (silent : ∀ snapshot, dispatch = some snapshot → snapshot.entries = []) :
    (buildNativePacket ports dispatch hit gates nextStopSequence
      nextSampleSnapshot).packet.entries = [] := by
  unfold buildNativePacket
  split
  · rfl
  rename_i snapshot
  have none : snapshot.entries = [] := silent snapshot rfl
  dsimp only
  split
  · rfl
  split
  · rfl
  · simp only [none, collectCandidates]

namespace StopPointRouter

/-- Nothing is installed, dispatches or waits, and the ingress is closed. -/
structure Finished (router : StopPointRouter) : Prop where
  initialized : router.initialized = true
  groups : router.groups = []
  currentPlan : router.manager.currentPlan = {}
  silent : ∀ snapshot, router.dispatch = some snapshot → snapshot.entries = []
  pending : router.pending = []
  ingressEnabled : router.ingressEnabled = false

variable {router next : StopPointRouter} {call : RouterCall}

namespace Finished

theorem of_same (finished : router.Finished) (initialized : next.initialized = router.initialized)
    (groups : next.groups = router.groups) (manager : SamePlan next.manager router.manager)
    (dispatch : next.dispatch = router.dispatch) (pending : next.pending = router.pending)
    (ingressEnabled : next.ingressEnabled = true → router.ingressEnabled = true) :
    next.Finished where
  initialized := initialized.trans finished.initialized
  groups := groups.trans finished.groups
  currentPlan := manager.currentPlan.trans finished.currentPlan
  silent := by
    rw [dispatch]
    exact finished.silent
  pending := pending.trans finished.pending
  ingressEnabled := by
    rw [← Bool.not_eq_true]
    intro opened
    have earlier := ingressEnabled opened
    rw [finished.ingressEnabled] at earlier
    cases earlier

theorem of_control (finished : router.Finished) (change : ControlChange router next) :
    next.Finished :=
  finished.of_same change.initialized change.groups change.manager
    change.dispatch change.keepsQueue.pending change.ingressEnabled

theorem snapshot_silent (gates : Gates) (epoch : WorksetEpoch) (generation : StopDispatchGeneration)
    (physicalGeneration : PhysicalPlanGeneration) :
    (buildSnapshot gates [] epoch generation physicalGeneration).entries = [] := rfl

section

variable (finished : router.Finished)
include finished

/-- Applying no groups installs nothing. -/
theorem of_applies {candidate : Groups} {backend : PhysicalStopPointBackend}
    {result : CandidateApplyReceipt × StopPointRouter} (empty : candidate = [])
    (applies : AppliesCandidate router candidate backend result) : result.2.Finished := by
  subst empty
  cases applies with
  | kept _ _ same => exact finished.of_same rfl rfl same rfl rfl id
  | published ok reported generation currentPlan =>
    refine ⟨finished.initialized, rfl, currentPlan, ?_, finished.pending, finished.ingressEnabled⟩
    rintro snapshot ⟨⟩
    exact snapshot_silent ..
  | torn _ _ _ _ same =>
    refine ⟨finished.initialized, rfl,
      same.currentPlan.trans finished.currentPlan, ?_, finished.pending, finished.ingressEnabled⟩
    rintro snapshot ⟨⟩
    exact snapshot_silent ..

theorem revalidate : (router.revalidate call).2.Finished := by
  have outcome := revalidate_cases router call
  generalize router.revalidate call = result at outcome ⊢
  have published {dispatch : Option DispatchSnapshot}
      (built : ∃ epoch generation physicalGeneration,
        dispatch = some (buildSnapshot router.gates router.groups epoch
          generation physicalGeneration)) :
      ∀ snapshot, dispatch = some snapshot → snapshot.entries = [] := by
    obtain ⟨epoch, generation, physicalGeneration, rfl⟩ := built
    rw [finished.groups]
    rintro snapshot ⟨⟩
    exact snapshot_silent ..
  cases outcome with
  | refused => exact finished
  | failed _ _ same =>
    exact finished.of_same rfl rfl same rfl rfl (fun opened => absurd opened Bool.false_ne_true)
  | published _ _ _ _ currentPlan =>
    exact ⟨finished.initialized, finished.groups,
      currentPlan.trans finished.currentPlan, published ⟨_, _, _, rfl⟩,
      finished.pending, finished.ingressEnabled⟩
  | torn _ _ _ same =>
    exact ⟨finished.initialized, finished.groups,
      same.currentPlan.trans finished.currentPlan, published ⟨_, _, _, rfl⟩, finished.pending, rfl⟩

/-- With nothing waiting and no groups a drain has nothing to do. -/
theorem drain : (router.drain call).router.Finished ∧ (router.drain call).notified = [] := by
  by_cases served : router.initialized = true ∧ router.ownerThread = call.thread
  · obtain ⟨trailing, drains⟩ := drainIngress_drainsTo call.drainBackend
      call.consumers served.1 served.2
    have empty (reported : Bool) :
        (router.emptied.withReported reported).Finished :=
      finished.of_same rfl rfl (.refl _) rfl finished.pending.symm id
    constructor
    · obtain ⟨-, -, change⟩ |
        ⟨middle, receipt, applied, first, applies, last, -⟩ := drains.outcome
      · exact (empty _).of_control change
      have removed : (removeFiredOneShotsCandidate router.gates router.groups).candidate = [] := by
        rw [finished.groups]
        rfl
      have published : applied.Finished := ((empty _).of_control first).of_applies removed applies
      have marked (reported : Bool) :
          ((router.markEnded applied receipt.ok).withReported reported).Finished :=
        published.of_same rfl rfl (.refl _) rfl rfl id
      exact (marked _).of_control last
    · refine drains.notified.trans ?_
      rw [finished.pending]
      rfl
  · obtain ⟨receipt, refused⟩ :=
      drainIngress_refused router call.drainBackend call.consumers served
    unfold StopPointRouter.drain
    rw [refused]
    exact ⟨finished, rfl⟩

/-- A closed ingress turns hits away. -/
theorem routeNative (hit : NativeHit) (readerFree : Bool) :
    (router.routeNative readerFree hit).router.Finished := by
  unfold StopPointRouter.routeNative
  rw [if_pos (by simp [finished.ingressEnabled])]
  exact finished

/-- An injected stop finds no entry. -/
theorem injected (hit : NativeHit) (authoritative : Bool) (consumers : Consumers) :
    ((router.afterBuild (router.buildPacket hit)).processPacket consumers
        ((router.buildPacket hit).packet.inject authoritative)).2.2.Finished ∧
      ((router.afterBuild (router.buildPacket hit)).processPacket consumers
        ((router.buildPacket hit).packet.inject authoritative)).2.1 = [] := by
  have silent : ((router.buildPacket hit).packet.inject authoritative).entries = [] := by
    have built : (router.buildPacket hit).packet.entries = [] :=
      buildNativePacket_silent finished.silent
    unfold NativePacket.inject
    simp only [built, List.isEmpty_nil, if_true]
  have after : (router.afterBuild (router.buildPacket hit)).Finished :=
    finished.of_same rfl rfl (.refl _) rfl rfl id
  by_cases current : (router.afterBuild (router.buildPacket hit)).IsCurrent
      ((router.buildPacket hit).packet.inject authoritative)
  · obtain ⟨point, processed⟩ := processPacket_current consumers current
    rw [processed, silent]
    exact ⟨after.of_same rfl rfl (.refl _) rfl rfl id, rfl⟩
  obtain ⟨receipt, processed, -⟩ := processPacket_stale consumers current
  rw [processed]
  exact ⟨after.of_control (controlChange_appendHistory receipt), rfl⟩

theorem cleanUp : (router.cleanUp call).2.Finished := by
  have cleans := cleanUp_cases router call
  have empty : (router.cleanUp call).2.manager.currentPlan = {} :=
    cleans.currentPlan.elim (fun same => same.trans finished.currentPlan) id
  obtain ⟨groups, dispatch, -, manager⟩ | ⟨groups, published⟩ := cleans.outcome
  · exact finished.of_same cleans.initialized groups manager dispatch
      (cleans.pending.trans finished.pending.symm)
      (fun opened => cleans.ingressEnabled.symm.trans opened)
  exact ⟨cleans.initialized.trans finished.initialized, groups, empty,
    fun snapshot isSnapshot => (published snapshot isSnapshot).1,
    cleans.pending, cleans.ingressEnabled.trans finished.ingressEnabled⟩

theorem move {label : MoveLabel} (kept : ¬call.Restarts router)
    (move : Move call router label next) : next.Finished ∧ label.notified = [] := by
  cases move with
  | control change => exact ⟨finished.of_control change, rfl⟩
  | initialized firstEpoch fresh => exact absurd (finished.initialized.symm.trans fresh) (by decide)
  | closed =>
    exact ⟨finished.of_same rfl rfl (.refl _) rfl rfl
      (fun opened => absurd opened Bool.false_ne_true), rfl⟩
  | reopened _ owner settled =>
    refine absurd ⟨owner.symm, ?_⟩ kept
    obtain (asked | asked) | ⟨asked, -⟩ := settled
    all_goals simp only [asked]
  | reapplied => exact ⟨finished.of_applies finished.groups (applyCandidate_applies _ _ _ _), rfl⟩
  | inserted checked definition _ _ valid named =>
    cases named with
    | registers asked =>
      refine absurd ⟨(checkControlThread_eq_none checked).2.1.symm, ?_⟩ kept
      simp only [asked, valid]
    | replaces found =>
      rw [finished.groups] at found
      cases found
  | erased _ lease group owned =>
    have found := owned.1
    rw [finished.groups] at found
    cases found
  | revalidated => exact ⟨finished.revalidate, rfl⟩
  | drained => exact finished.drain
  | hit hit readerFree => exact ⟨finished.routeNative hit readerFree, rfl⟩
  | injected hit authoritative => exact finished.injected hit authoritative call.consumers
  | accepted current groupId accepts =>
    have silent : (router.dispatch.map (·.entries)).getD [] = [] := by
      cases published : router.dispatch with
      | none => rfl
      | some snapshot => exact finished.silent snapshot published
    rw [silent] at accepts
    subst accepts
    exact ⟨finished.of_same rfl rfl (.refl _) rfl rfl id, rfl⟩
  | cleaned => exact ⟨finished.cleanUp, rfl⟩

end

end Finished

end StopPointRouter

end Savor.StopPoints

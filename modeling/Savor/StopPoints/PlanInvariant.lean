import Savor.StopPoints.PublishFacts

/-!
# The published snapshot and the installed plan

The snapshot that hits are matched against names the plan that the manager
installed, under its generation, and that plan covers every subscription that
did not fire.  Everything but a revalidation keeps this, and a revalidation does
when the groups still ask for the installed plan.
-/

namespace Savor.StopPoints

open Program PhysicalStopPointManager

namespace StopPointRouter

/-- A router that is not in use has no groups and publishes nothing. -/
structure Idle (router : StopPointRouter) : Prop where
  groups : router.groups = []
  dispatch : router.dispatch = none
  dispatchGeneration : router.dispatchGeneration = .none
  ingressEnabled : router.ingressEnabled = false

/-- The router is in use, or idle. -/
def UsedOrIdle (router : StopPointRouter) : Prop := router.initialized = false → router.Idle

/-- A snapshot fits the installed plan, which covers every subscription that
did not fire. -/
structure InStep (router : StopPointRouter) (snapshot : DispatchSnapshot) : Prop where
  generation : snapshot.physicalGeneration = router.manager.generation
  plan : snapshot.physicalPlan = router.manager.currentPlan
  covers : ∀ entry ∈ router.groups.liveEntries router.gates,
    router.manager.currentPlan.Covers entry.point

/-- The published snapshot fits the installed plan. -/
def PlanInStep (router : StopPointRouter) : Prop :=
  ∀ snapshot, router.dispatch = some snapshot → router.InStep snapshot

variable {router next : StopPointRouter} {call : RouterCall}

theorem Idle.of_same (idle : router.Idle) (groups : next.groups = router.groups)
    (dispatch : next.dispatch = router.dispatch)
    (dispatchGeneration : next.dispatchGeneration = router.dispatchGeneration) (ingressEnabled :
      next.ingressEnabled = true → router.ingressEnabled = true) :
    next.Idle where
  groups := groups.trans idle.groups
  dispatch := dispatch.trans idle.dispatch
  dispatchGeneration := dispatchGeneration.trans idle.dispatchGeneration
  ingressEnabled := by
    rw [← Bool.not_eq_true]
    intro enabled
    have open_ := ingressEnabled enabled
    rw [idle.ingressEnabled] at open_
    cases open_

theorem UsedOrIdle.move {label : MoveLabel} (move : Move call router label next)
    (holds : router.UsedOrIdle) : next.UsedOrIdle := by
  intro unused
  cases move with
  | control change =>
    have idle := holds (change.initialized.symm.trans unused)
    exact idle.of_same change.groups change.dispatch change.dispatchGeneration change.ingressEnabled
  | initialized firstEpoch fresh =>
    have idle := holds fresh
    have outcome := initializeRouter_cases call firstEpoch fresh
    generalize router.initializeRouter call firstEpoch = result at outcome unused ⊢
    cases outcome with
    | refused => exact idle
    | failed _ _ kept =>
      refine ⟨idle.groups, ?_, rfl, idle.ingressEnabled⟩
      rcases kept with rfl | rfl
      · rfl
      · exact idle.dispatch
    | started => cases unused
  | closed =>
    have idle := holds unused
    exact ⟨idle.groups, idle.dispatch, idle.dispatchGeneration, rfl⟩
  | reopened active => exact absurd (active.symm.trans unused) (by decide)
  | reapplied active =>
    have same := (applyCandidate_keeps router router.groups true call.backend).initialized
    exact absurd ((active.symm.trans same.symm).trans unused) (by decide)
  | inserted checked definition sequence following valid named =>
    have active := initialized_of_check checked
    have same := insertGroup_initialized router definition sequence following call.backend
    exact absurd ((active.symm.trans same.symm).trans unused) (by decide)
  | erased active lease group owned =>
    have same := eraseGroup_initialized router lease call.backend
    exact absurd ((active.symm.trans same.symm).trans unused) (by decide)
  | revalidated =>
    have fresh := (revalidate_keeps router call).initialized.symm.trans unused
    have idle := holds fresh
    have outcome := revalidate_cases router call
    have unchecked : router.checkControlThread call ≠ none := by
      intro checked
      exact absurd ((initialized_of_check checked).symm.trans fresh) (by decide)
    generalize router.revalidate call = result at outcome ⊢
    cases outcome with
    | refused => exact idle
    | failed _ checked | published _ checked | torn _ checked => exact absurd checked unchecked
  | drained =>
    have fresh := (drainIngress_keeps router call.thread call.drainBackend
      call.consumers).initialized.symm.trans unused
    have idle := holds fresh
    obtain ⟨receipt, refused⟩ := drainIngress_refused router call.drainBackend
      call.consumers
      (show ¬(router.initialized = true ∧ router.ownerThread = call.thread) by simp [fresh])
    unfold drain
    rw [refused]
    exact idle
  | hit hit readerFree asked =>
    have change := routeNative_gatesChange router readerFree hit
    have idle := holds (change.initialized.symm.trans unused)
    exact idle.of_same change.groups change.dispatch change.dispatchGeneration change.ingressEnabled
  | injected hit authoritative asked =>
    have change := injected_gatesChange router hit authoritative call.consumers
    have idle := holds (change.initialized.symm.trans unused)
    exact idle.of_same change.groups change.dispatch change.dispatchGeneration change.ingressEnabled
  | accepted current groupId accepts =>
    have idle := holds unused
    exact ⟨idle.groups, idle.dispatch, idle.dispatchGeneration, idle.ingressEnabled⟩
  | cleaned active =>
    have same := (cleanUp_cases router call).initialized
    exact absurd ((active.symm.trans same.symm).trans unused) (by decide)

/-- What the snapshot, the plan and the groups say stays, and no gate is
reset. -/
theorem PlanInStep.of_same (inStep : router.PlanInStep) (groups : next.groups = router.groups)
    (dispatch : next.dispatch = router.dispatch) (manager : SamePlan next.manager router.manager)
    (keeps : ∀ gate, router.gates.fired gate = true → next.gates.fired gate = true) :
    next.PlanInStep := by
  intro snapshot published
  obtain ⟨generation, plan, covers⟩ := inStep snapshot (dispatch ▸ published)
  refine ⟨generation.trans manager.generation.symm, plan.trans manager.currentPlan.symm, ?_⟩
  intro entry member
  rw [groups] at member
  rw [manager.currentPlan]
  exact covers entry (Groups.liveEntries_subset keeps member)

theorem PlanInStep.of_control (inStep : router.PlanInStep) (change : ControlChange router next) :
    next.PlanInStep := by
  apply inStep.of_same change.groups change.dispatch change.manager
  rw [change.gates]
  exact fun _ => id

/-- A published snapshot of the groups is in step when the plan that was built
for them is installed under its generation. -/
theorem PlanInStep.of_published {epoch : WorksetEpoch} {generation : StopDispatchGeneration}
    {physicalGeneration : PhysicalPlanGeneration}
    (published : next.dispatch = some (buildSnapshot next.gates next.groups
      epoch generation physicalGeneration))
    (installed : next.manager.generation = physicalGeneration) (currentPlan :
      next.manager.currentPlan = buildPhysicalPlan next.gates next.groups) :
    next.PlanInStep := by
  intro snapshot isSnapshot
  rw [published, Option.some.injEq] at isSnapshot
  subst isSnapshot
  refine ⟨installed.symm, currentPlan.symm, ?_⟩
  intro entry member
  rw [currentPlan]
  exact PhysicalStopPointPlan.ofPoints_covers
    (List.mem_map_of_mem (f := DispatchEntry.point) member)

theorem PlanInStep.of_applies {candidate : Groups} {backend : PhysicalStopPointBackend}
    {result : CandidateApplyReceipt × StopPointRouter}
    (faithful : backend.Faithful) (inStep : router.PlanInStep)
    (applies : AppliesCandidate router candidate backend result) : result.2.PlanInStep := by
  cases applies with
  | kept failed reported same => exact inStep.of_same rfl rfl same fun _ => id
  | published ok reported generation currentPlan => exact .of_published rfl generation currentPlan
  | torn _ _ _ unfaithful => exact absurd faithful unfaithful

theorem PlanInStep.drain (faithful : call.drainBackend.Faithful) (inStep : router.PlanInStep) :
    (router.drain call).router.PlanInStep := by
  by_cases served : router.initialized = true ∧ router.ownerThread = call.thread
  · obtain ⟨trailing, drains⟩ := drainIngress_drainsTo call.drainBackend
      call.consumers served.1 served.2
    have empty (reported : Bool) :
        (router.emptied.withReported reported).PlanInStep :=
      inStep.of_same rfl rfl (.refl _) fun _ => id
    obtain ⟨-, -, change⟩ | ⟨middle, receipt, applied, first, applies, last, -⟩ := drains.outcome
    · exact (empty _).of_control change
    have published : applied.PlanInStep :=
      PlanInStep.of_applies faithful ((empty _).of_control first) applies
    have reported (flag : Bool) :
        ((router.markEnded applied receipt.ok).withReported flag).PlanInStep :=
      published.of_same rfl rfl (.refl _) fun _ => id
    exact (reported _).of_control last
  · obtain ⟨receipt, refused⟩ :=
      drainIngress_refused router call.drainBackend call.consumers served
    unfold StopPointRouter.drain
    rw [refused]
    exact inStep

/-- A revalidation keeps snapshot and plan in step, when the groups still ask
for the installed plan. -/
theorem PlanInStep.revalidate (faithful : call.backend.Faithful)
    (agrees : router.checkControlThread call = none →
      (call.backend.revalidatePhysicalStopPlan router.manager.currentPlan
        router.manager.nextGeneration).committed = true →
      buildPhysicalPlan router.gates router.groups = router.manager.currentPlan)
    (inStep : router.PlanInStep) : (router.revalidate call).2.PlanInStep := by
  have outcome := revalidate_cases router call
  generalize router.revalidate call = result at outcome ⊢
  cases outcome with
  | refused => exact inStep
  | failed _ _ same => exact inStep.of_same rfl rfl same fun _ => id
  | published _ checked committed generation currentPlan =>
    exact .of_published rfl generation (currentPlan.trans (agrees checked committed).symm)
  | torn _ _ unfaithful => exact absurd faithful unfaithful

theorem PlanInStep.move {label : MoveLabel} (faithful : call.backend.Faithful)
    (drainFaithful : call.drainBackend.Faithful) (kept : ¬call.Revalidates)
    (move : Move call router label next) (inStep : router.PlanInStep) : next.PlanInStep := by
  cases move with
  | control change => exact inStep.of_control change
  | initialized firstEpoch fresh =>
    have outcome := initializeRouter_cases call firstEpoch fresh
    generalize router.initializeRouter call firstEpoch = result at outcome ⊢
    cases outcome with
    | refused => exact inStep
    | failed _ same unpublished =>
      rcases unpublished with rfl | rfl
      · intro snapshot published
        cases published
      · exact inStep.of_same rfl rfl same fun _ => id
    | started _ generation currentPlan => exact .of_published rfl generation currentPlan
  | closed | reopened => exact inStep.of_same rfl rfl (.refl _) fun _ => id
  | reapplied => exact .of_applies faithful inStep (applyCandidate_applies _ _ _ _)
  | inserted _ definition sequence following =>
    have made : StopPointRouter.PlanInStep
        { router with
          nextRegistrationSequence := following
          gates := (makeGroupRecord router.gates definition sequence router.worksetEpoch).2 } :=
      inStep.of_same rfl rfl (.refl _) fun _ => id
    exact .of_applies faithful made
      (insertGroup_applies router definition sequence following call.backend)
  | erased _ lease =>
    have applied : (router.applyCandidate (router.groups.erase lease.groupId)
        false call.backend).2.PlanInStep :=
      .of_applies faithful inStep (applyCandidate_applies _ _ _ _)
    unfold eraseGroup
    dsimp only
    split
    · exact applied.of_same rfl rfl (.refl _) fun _ => id
    · exact applied
  | revalidated asked => exact absurd asked kept
  | drained => exact inStep.drain drainFaithful
  | hit hit readerFree asked =>
    have change := routeNative_gatesChange router readerFree hit
    exact inStep.of_same change.groups change.dispatch (change.manager ▸ .refl _) change.gates.keeps
  | injected hit authoritative asked =>
    have change := injected_gatesChange router hit authoritative call.consumers
    exact inStep.of_same change.groups change.dispatch (change.manager ▸ .refl _) change.gates.keeps
  | accepted current groupId accepts =>
    have advances := acceptEntries_advances call.consumers current groupId
      ((router.dispatch.map (·.entries)).getD []) { gates := router.gates }
    rw [accepts] at advances
    exact inStep.of_same rfl rfl (.refl _) advances.keeps
  | cleaned =>
    have cleans := cleanUp_cases router call
    obtain ⟨groups, dispatch, -, manager⟩ | ⟨groups, published⟩ := cleans.outcome
    · apply inStep.of_same groups dispatch manager
      rw [cleans.gates]
      exact fun _ => id
    intro snapshot isSnapshot
    obtain ⟨-, plan, -, -, installed⟩ := published snapshot isSnapshot
    obtain ⟨generation, currentPlan⟩ := installed faithful
    refine ⟨generation.symm, plan.trans currentPlan.symm, ?_⟩
    rw [groups]
    intro entry member
    cases member

end StopPointRouter

end Savor.StopPoints

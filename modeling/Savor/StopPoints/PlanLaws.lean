import Savor.Library.Transition
import Savor.StopPoints.PlanInvariant

/-!
# Plan and dispatch stay in step

In every run of the router the published snapshot, the installed plan and the
groups agree, and a failed operation tells what it left behind.  Three calls
break this: a revalidation that publishes the groups after a one-shot
subscription fired, the check for an empty plan, and a registration without a
number left.
-/

namespace Savor.StopPoints

open Program PhysicalStopPointManager Library
open PhysicalStopPointBackend

/-- The integrity that the error of a receipt tells. -/
def errorIntegrity (error : Option StopPointError) : PhysicalStopIntegrity :=
  if error.any (·.code = .physicalIntegrityUnknown) then .unknown
  else .preserved

/-- The failure that an item of a drain reports. -/
def DrainItem.failure : DrainItem → Option PhysicalStopIntegrity
  | .reconcileFailed integrity _ => some integrity
  | .refused _ => some .preserved
  | _ => none

/-- The failure that a call reports: in its own receipt, or in one of the
receipts of the drain that it made. -/
def RouterEvent.failure (event : RouterEvent) : Option PhysicalStopIntegrity :=
  match event.reply with
  | .lifecycle receipt => if receipt.ok then none else some receipt.physicalIntegrity
  | .registered receipt _ | .replaced receipt =>
    if receipt.ok then none else some (errorIntegrity receipt.error)
  | .released receipt _ => if receipt.ok then none else some (errorIntegrity receipt.error)
  | .status error => error.map fun error => errorIntegrity (some error)
  | .receipts _ | .route _ => (event.drain.getD []).findSome? DrainItem.failure
  | .decision _ => none

/-- Groups, dispatch and plan are the same. -/
structure SameDispatch (router next : StopPointRouter) : Prop where
  groups : next.groups = router.groups
  dispatch : next.dispatch = router.dispatch
  dispatchGeneration : next.dispatchGeneration = router.dispatchGeneration
  currentPlan : next.manager.currentPlan = router.manager.currentPlan
  physicalGeneration : next.manager.generation = router.manager.generation

/-- A failure with preserved integrity left everything as it was, and one with
unknown integrity left the ingress closed. -/
def FailsSafely (failure : Option PhysicalStopIntegrity) (router next : StopPointRouter) : Prop :=
  (failure = some .preserved → SameDispatch router next) ∧
    (failure = some .unknown → next.ingressEnabled = false)

/-- The backend answers a query with the plan that is installed, or fails
without losing it. -/
def PhysicalStopPointBackend.queryAgrees (backend : PhysicalStopPointBackend)
    (manager : PhysicalStopPointManager) : Bool :=
  match backend.queryPhysicalStopPoints with
  | .threw _ => false
  | .returned receipt =>
    if receipt.ok then
      receipt.generation = manager.generation && receipt.actual = manager.currentPlan
    else receipt.integrity = .preserved

/-- What an operation must find so that it keeps the plan in step.  A
revalidation that the backend commits needs groups that ask for the installed
plan.  With an open ingress the check for an empty plan must not lose the
integrity, and a registration must have a number left. -/
def KeepsPlanIn (router : StopPointRouter) (call : RouterCall) : RouterOperation → Prop
  | .revalidateAfterJit | .enterStoppedMovieCoreBoundary =>
    (call.backend.revalidatePhysicalStopPlan router.manager.currentPlan
      router.manager.nextGeneration).committed = true →
    buildPhysicalPlan router.gates router.groups = router.manager.currentPlan
  | .validateEmptyForMovieCoreStop =>
    router.ingressEnabled = true → router.desiredPhysicalPlan = {} →
      call.backend.queryAgrees router.manager = true
  | .registerGroup definition policy =>
    router.ingressEnabled = true →
    definition.validate router.ports = none →
    router.groups.find definition.id = none →
    (policy = .require → (router.retainedFor definition).isSome = true) →
    router.nextRegistrationSequence ≠ 0 ∧ router.nextRegistrationSequence.toNat ≠ UInt64.size - 1
  | _ => True

/-- A call of the owner that keeps the plan in step. -/
def KeepsPlan (router : StopPointRouter) (call : RouterCall) : Prop :=
  router.checkControlThread call = none → KeepsPlanIn router call call.operation

instance (router : StopPointRouter) (call : RouterCall) (operation : RouterOperation) :
    Decidable (KeepsPlanIn router call operation) :=
  match operation with
  | .revalidateAfterJit | .enterStoppedMovieCoreBoundary => inferInstanceAs (Decidable (_ → _))
  | .validateEmptyForMovieCoreStop => inferInstanceAs (Decidable (_ → _ → _))
  | .registerGroup _ _ => inferInstanceAs (Decidable (_ → _ → _ → (_ → _) → _ ∧ _))
  | .initializeRouter _ | .quiesceForWorksetBaselineRestore
  | .reconcileAfterWorksetBaselineRestore
  | .resumeAfterFailedWorksetBaselineRestore
  | .validateBreakpointChangeNotification | .stopIngressDrainAndCleanup
  | .replaceGroup _ _ | .releaseGroup _ | .releaseGroupNoThrow _
  | .acceptCurrentPoint _ | .departCurrentPoint
  | .establishPausedCurrentPoint _ | .drainIngress
  | .injectSyntheticStop _ _ _ | .onPcStop _ _ _ _
  | .onMemoryStop _ _ _ _ _ _ _ _ => isTrue trivial

instance (router : StopPointRouter) (call : RouterCall) : Decidable (KeepsPlan router call) :=
  inferInstanceAs (Decidable (_ → _))

/-- An error that says nothing about the plan. -/
theorem errorIntegrity_of_code {error : StopPointError}
    (code : error.code ≠ .physicalIntegrityUnknown) : errorIntegrity (some error) = .preserved := by
  simp [errorIntegrity, code]

theorem errorIntegrity_of_tells {receipt : CandidateApplyReceipt}
    (tells : receipt.ErrorTellsIntegrity) : errorIntegrity receipt.error = receipt.integrity := by
  obtain ⟨error, reported, tells⟩ := tells
  unfold errorIntegrity
  rw [reported]
  cases integrity : receipt.integrity with
  | unknown => simp [tells.mpr integrity]
  | preserved =>
    have known : error.code ≠ .physicalIntegrityUnknown := by
      intro unknown
      rw [tells.mp unknown] at integrity
      cases integrity
    simp [known]

/-- A check whose errors say nothing about the plan. -/
def TellsNoIntegrity (check : Option StopPointError) : Prop :=
  ∀ error, check = some error → error.code ≠ .physicalIntegrityUnknown

namespace TellsNoIntegrity

theorem passed : TellsNoIntegrity none := nofun

theorem failed {code : StopPointErrorCode} {message : String}
    (other : code ≠ .physicalIntegrityUnknown) :
    TellsNoIntegrity (some (stopError code message)) := by
  intro error same
  cases same
  exact other

theorem ite {condition : Prop} [Decidable condition] {first rest : Option StopPointError}
    (here : TellsNoIntegrity first) (there : TellsNoIntegrity rest) :
    TellsNoIntegrity (if condition then first else rest) := by
  split
  · exact here
  · exact there

end TellsNoIntegrity

theorem StopPointSpec.validate_code (point : StopPointSpec) : TellsNoIntegrity point.validate := by
  unfold validate
  split
  all_goals exact .ite (.failed nofun) .passed

theorem StopSubscriptionDefinition.validateForeground_code
    (subscription : StopSubscriptionDefinition) :
    TellsNoIntegrity subscription.validateForeground := by
  unfold validateForeground
  split
  · exact .ite (.failed nofun) (.ite (.failed nofun) .passed)
  · exact .passed

theorem validateSubscriptions_code (ports : StopPointPorts)
    (subscriptionIds : List StopSubscriptionId) (sampleIds : List UInt32)
    (subscriptions : List StopSubscriptionDefinition) : TellsNoIntegrity
      (validateSubscriptions ports subscriptionIds sampleIds subscriptions) := by
  induction subscriptions generalizing subscriptionIds sampleIds with
  | nil => exact .passed
  | cons subscription rest ih =>
    unfold validateSubscriptions
    dsimp only
    refine .ite (.failed nofun) ?_
    refine .ite (.failed nofun) ?_
    refine .ite (.failed nofun) ?_
    refine .ite (.failed nofun) ?_
    refine .ite (.failed nofun) ?_
    refine .ite subscription.validateForeground_code ?_
    refine .ite (.failed nofun) ?_
    refine .ite (.failed nofun) ?_
    refine .ite (.failed nofun) ?_
    refine .ite (.failed nofun) ?_
    have point := subscription.point.validate_code
    split
    · rename_i error wrong
      rw [wrong] at point
      exact point
    · exact ih _ _

theorem StopSubscriptionGroupDefinition.validate_code (ports : StopPointPorts)
    (definition : StopSubscriptionGroupDefinition) :
    TellsNoIntegrity (definition.validate ports) := by
  unfold validate
  refine .ite (.failed nofun) ?_
  refine .ite (.failed nofun) ?_
  refine .ite (.failed nofun) ?_
  refine .ite (.failed nofun) ?_
  refine .ite (.failed nofun) ?_
  exact validateSubscriptions_code ports _ _ _

namespace SameDispatch

variable {router next : StopPointRouter}

theorem refl (router : StopPointRouter) : SameDispatch router router := ⟨rfl, rfl, rfl, rfl, rfl⟩

theorem trans {middle : StopPointRouter}
    (first : SameDispatch router middle) (second : SameDispatch middle next) :
    SameDispatch router next where
  groups := second.groups.trans first.groups
  dispatch := second.dispatch.trans first.dispatch
  dispatchGeneration := second.dispatchGeneration.trans first.dispatchGeneration
  currentPlan := second.currentPlan.trans first.currentPlan
  physicalGeneration := second.physicalGeneration.trans first.physicalGeneration

theorem of_manager {manager : PhysicalStopPointManager} (same : SamePlan manager router.manager) :
    SameDispatch router { router with manager } :=
  ⟨rfl, rfl, rfl, same.currentPlan, same.generation⟩

end SameDispatch

namespace FailsSafely

variable {router next : StopPointRouter}
variable {failure : Option PhysicalStopIntegrity}

theorem of_none : FailsSafely none router next := ⟨nofun, nofun⟩

/-- A failure with preserved integrity that changed nothing. -/
theorem of_same (same : SameDispatch router next) : FailsSafely (some .preserved) router next :=
  ⟨fun _ => same, nofun⟩

theorem of_closed (same : SameDispatch router next) (closed : next.ingressEnabled = false) :
    FailsSafely failure router next :=
  ⟨fun _ => same, fun _ => closed⟩

end FailsSafely

namespace StopPointRouter

variable {router next : StopPointRouter} {call : RouterCall}

theorem checkControlThread_code (router : StopPointRouter) (call : RouterCall) :
    TellsNoIntegrity (router.checkControlThread call) := by
  unfold checkControlThread
  refine .ite (.failed nofun) ?_
  refine .ite (.failed nofun) ?_
  exact .ite (.failed nofun) .passed

/-- What a failing result of a call must satisfy. -/
abbrev Safe (router : StopPointRouter) (result : RouterEvent × StopPointRouter) : Prop :=
  FailsSafely result.1.failure router result.2

variable {error : StopPointError}

/-- A lifecycle call that is refused changes nothing. -/
theorem failLifecycle_safe : router.Safe (router.failLifecycle error .preserved) :=
  .of_same (.refl router)

theorem succeedLifecycle_safe {physicalGeneration : PhysicalPlanGeneration} :
    router.Safe (next.succeedLifecycle physicalGeneration) :=
  .of_none

variable {backend : PhysicalStopPointBackend}

/-- A failed candidate changed nothing, unless it closes the ingress. -/
theorem applyCandidate_fails {candidate : Groups} {force : Bool} (faithful : backend.Faithful)
    (failed : (router.applyCandidate candidate force backend).1.ok = false) :
    SameDispatch router (router.applyCandidate candidate force backend).2 ∧
      (router.applyCandidate candidate force backend).2.ingressEnabled = router.ingressEnabled ∧
      (router.applyCandidate candidate force backend).1.ErrorTellsIntegrity := by
  have applies := applyCandidate_applies router candidate force backend
  generalize router.applyCandidate candidate force backend = result at failed applies ⊢
  cases applies with
  | kept _ reported same => exact ⟨.of_manager same, rfl, reported⟩
  | published ok => exact absurd (ok.symm.trans failed) (by decide)
  | torn _ _ _ unfaithful => exact absurd faithful unfaithful

theorem distrustPhysical_same (integrity : PhysicalStopIntegrity) :
    SameDispatch router (router.distrustPhysical integrity) := by
  have change : ControlChange router (router.distrustPhysical integrity) :=
    controlChange_distrustPhysical integrity
  exact ⟨change.groups, change.dispatch, change.dispatchGeneration,
    change.manager.currentPlan, change.manager.generation⟩

theorem distrustPhysical_closed : (router.distrustPhysical .unknown).ingressEnabled = false := rfl

/-- A failed candidate, after which the ingress is closed when the integrity is
unknown. -/
theorem candidate_fails {candidate : Groups} {force : Bool} (faithful : backend.Faithful)
    (failed : (router.applyCandidate candidate force backend).1.ok = false) : FailsSafely
      (some (errorIntegrity (router.applyCandidate candidate force backend).1.error)) router
      ((router.applyCandidate candidate force backend).2.distrustPhysical
        (router.applyCandidate candidate force backend).1.integrity) := by
  obtain ⟨same, -, tells⟩ := applyCandidate_fails faithful failed
  rw [errorIntegrity_of_tells tells]
  refine ⟨fun _ => same.trans (distrustPhysical_same _), fun unknown => ?_⟩
  rw [Option.some.inj unknown]
  exact distrustPhysical_closed

theorem initializeRouter_safe (idle : router.UsedOrIdle) (firstEpoch : WorksetEpoch) :
    router.Safe (router.initializeRouter call firstEpoch) := by
  by_cases used : router.initialized = true
  · unfold initializeRouter
    split
    · exact failLifecycle_safe
    split
    · exact succeedLifecycle_safe
    · exact failLifecycle_safe
  have fresh : router.initialized = false := by simpa using used
  have idle := idle fresh
  have outcome := initializeRouter_cases call firstEpoch fresh
  generalize router.initializeRouter call firstEpoch = result at outcome ⊢
  cases outcome with
  | refused failed preserved =>
    simp only [Safe, RouterEvent.failure, failed, preserved, Bool.false_eq_true, if_false]
    exact .of_same (.refl router)
  | failed _ same unpublished =>
    apply FailsSafely.of_closed
    · refine ⟨rfl, ?_, idle.dispatchGeneration.symm, same.currentPlan, same.generation⟩
      rcases unpublished with rfl | rfl
      · exact idle.dispatch.symm
      · rfl
    · exact idle.ingressEnabled
  | started ok =>
    simp only [Safe, RouterEvent.failure, ok, if_true]
    exact .of_none

theorem quiesceForWorksetBaselineRestore_safe :
    router.Safe (router.quiesceForWorksetBaselineRestore call) := by
  unfold quiesceForWorksetBaselineRestore
  split
  · exact failLifecycle_safe
  · exact .of_none

theorem reconcileAfterWorksetBaselineRestore_safe (faithful : call.backend.Faithful) :
    router.Safe (router.reconcileAfterWorksetBaselineRestore call) := by
  unfold reconcileAfterWorksetBaselineRestore
  split
  · exact failLifecycle_safe
  split
  · exact failLifecycle_safe
  rename_i opened
  have closed : router.ingressEnabled = false := by simpa using opened
  dsimp only
  split
  · rename_i error reported
    have failed : (router.applyCandidate router.groups true call.backend).1.ok = false := by
      have applies := applyCandidate_applies router router.groups true call.backend
      generalize router.applyCandidate router.groups true call.backend = result
        at reported applies ⊢
      cases applies with
      | kept failed | torn failed => exact failed
      | published _ unreported => exact absurd (unreported.symm.trans reported) nofun
    obtain ⟨same, ingress, -⟩ := applyCandidate_fails faithful failed
    exact .of_closed same (ingress.trans closed)
  · exact succeedLifecycle_safe

theorem resumeAfterFailedWorksetBaselineRestore_safe :
    router.Safe (router.resumeAfterFailedWorksetBaselineRestore call) := by
  unfold resumeAfterFailedWorksetBaselineRestore
  have same := validateExactPlanUnchanged_samePlan router.manager call.backend
  split
  · exact failLifecycle_safe
  split
  · exact failLifecycle_safe
  rename_i opened
  have closed : router.ingressEnabled = false := by simpa using opened
  dsimp only
  split
  · exact .of_closed (.of_manager same) closed
  · exact succeedLifecycle_safe

theorem validateBreakpointChangeNotification_safe :
    router.Safe (router.validateBreakpointChangeNotification call) := by
  unfold validateBreakpointChangeNotification
  have same := validateExactPlanUnchanged_samePlan router.manager call.backend
  split
  · exact failLifecycle_safe
  dsimp only
  split
  · exact .of_closed ⟨rfl, rfl, rfl, same.currentPlan, same.generation⟩ rfl
  · exact succeedLifecycle_safe

/-- A query that keeps the integrity does not end with an unknown one. -/
theorem validateExactPlanUnchanged_integrity {manager : PhysicalStopPointManager}
    (agrees : backend.queryAgrees manager = true)
    (failed : (manager.validateExactPlanUnchanged backend).1.ok = false) :
    (manager.validateExactPlanUnchanged backend).1.integrity = .preserved := by
  unfold queryAgrees at agrees
  unfold validateExactPlanUnchanged at failed ⊢
  split at failed
  · rename_i inexact
    rw [if_pos inexact]
    rfl
  rename_i exact
  rw [if_neg exact]
  cases answered : backend.queryPhysicalStopPoints with
  | threw what => simp [answered] at agrees
  | returned receipt =>
    simp only [answered] at agrees failed ⊢
    by_cases ok : receipt.ok = true
    · simp only [ok, if_true, Bool.and_eq_true, decide_eq_true_eq] at agrees
      simp [ok, agrees] at failed
    · simpa [ok] using agrees

theorem validateEmptyForMovieCoreStop_safe (asked : call.operation = .validateEmptyForMovieCoreStop)
    (keeps : KeepsPlan router call) : router.Safe (router.validateEmptyForMovieCoreStop call) := by
  unfold validateEmptyForMovieCoreStop
  have same := validateExactPlanUnchanged_samePlan router.manager call.backend
  cases checked : router.checkControlThread call with
  | some error => exact failLifecycle_safe
  | none =>
    dsimp only
    split
    · exact failLifecycle_safe
    rename_i empty
    split
    · rename_i refused
      have failed : (router.manager.validateExactPlanUnchanged
          call.backend).1.ok = false := by simpa using refused
      refine ⟨fun _ => .of_manager same, fun unknown => ?_⟩
      change some (router.manager.validateExactPlanUnchanged
        call.backend).1.integrity = some .unknown at unknown
      change router.ingressEnabled = false
      by_contra opened
      have desired : router.desiredPhysicalPlan = {} := by
        simp only [not_or, not_not] at empty
        generalize router.desiredPhysicalPlan = plan at empty ⊢
        cases plan
        simp_all
      have condition := keeps checked
      rw [asked] at condition
      have agrees := condition (by simpa using opened) desired
      rw [validateExactPlanUnchanged_integrity agrees failed] at unknown
      cases unknown
    · exact succeedLifecycle_safe

/-- A revalidation that fails changed nothing and closed the ingress. -/
theorem revalidate_fails (faithful : call.backend.Faithful)
    (failed : (router.revalidate call).1.ok = false) :
    FailsSafely (some (router.revalidate call).1.physicalIntegrity) router
      (router.revalidate call).2 := by
  have outcome := revalidate_cases router call
  generalize router.revalidate call = result at failed outcome ⊢
  cases outcome with
  | refused _ preserved =>
    rw [preserved]
    exact .of_same (.refl router)
  | failed _ _ same => exact .of_closed ⟨rfl, rfl, rfl, same.currentPlan, same.generation⟩ rfl
  | published ok => exact absurd (ok.symm.trans failed) (by decide)
  | torn _ _ unfaithful => exact absurd faithful unfaithful

theorem enterStoppedMovieCoreBoundary_safe (faithful : call.backend.Faithful) :
    router.Safe (router.enterStoppedMovieCoreBoundary call) := by
  unfold enterStoppedMovieCoreBoundary
  split
  · exact failLifecycle_safe
  dsimp only
  split
  · rename_i refused
    have failed :
        (({ router with ingressEnabled := false } : StopPointRouter).revalidate
          call).1.ok = false := by simpa using refused
    have fails := revalidate_fails faithful failed
    simp only [Safe, RouterEvent.failure, failed, Bool.false_eq_true, if_false]
    refine ⟨fun preserved => ?_, fails.2⟩
    obtain ⟨groups, dispatch, generation, plan, physical⟩ := fails.1 preserved
    exact ⟨groups, dispatch, generation, plan, physical⟩
  · exact .of_none

theorem revalidateAfterJit_safe (faithful : call.backend.Faithful) :
    router.Safe (router.revalidateAfterJit call) := by
  unfold revalidateAfterJit
  cases ok : (router.revalidate call).1.ok with
  | true =>
    simp only [Safe, RouterEvent.failure, ok, if_true]
    exact .of_none
  | false =>
    simp only [Safe, RouterEvent.failure, ok, Bool.false_eq_true, if_false]
    exact revalidate_fails faithful ok

/-- A drain that reports a failure changed nothing that dispatches, and closed
the ingress, unless it was refused. -/
theorem drain_safe (router : StopPointRouter) (faithful : call.drainBackend.Faithful) :
    FailsSafely ((router.drain call).items.findSome? DrainItem.failure) router
      (router.drain call).router := by
  by_cases served : router.initialized = true ∧ router.ownerThread = call.thread
  · obtain ⟨trailing, drains⟩ := drainIngress_drainsTo call.drainBackend
      call.consumers served.1 served.2
    unfold drain
    generalize router.drainIngress call.thread call.drainBackend
      call.consumers = drained at drains ⊢
    rw [drains.items, List.findSome?_append]
    have quiet : (router.routedItems call.consumers router.pending).findSome?
        DrainItem.failure = none := by
      rw [List.findSome?_eq_none_iff]
      intro item member
      obtain ⟨packet, -, rfl⟩ := List.mem_map.mp member
      rfl
    rw [quiet, Option.none_or]
    cases failure : trailing.findSome? DrainItem.failure with
    | none => exact .of_none
    | some integrity =>
      obtain ⟨item, member, tells⟩ := List.exists_of_findSome?_eq_some failure
      obtain ⟨reported, receipt, rfl⟩ | ⟨receipt, rfl⟩ := drains.reports item member
      · obtain ⟨-, none, -⟩ |
          ⟨middle, applying, applied, first, applies, last, failing, closes⟩ := drains.outcome
        · exact absurd member (none _ _)
        have failed := (failing _ _ member).1
        refine .of_closed ?_ (closes failed)
        have kept : SameDispatch middle applied := by
          generalize result : (applying, applied) = final at applies
          cases applies with
          | kept _ _ same =>
            cases result
            exact .of_manager same
          | published ok =>
            cases result
            exact absurd (ok.symm.trans failed) (by decide)
          | torn _ _ _ unfaithful => exact absurd faithful unfaithful
        have before : SameDispatch router middle :=
          ⟨first.groups, first.dispatch, first.dispatchGeneration,
            first.manager.currentPlan, first.manager.generation⟩
        have after : SameDispatch applied drained.router :=
          ⟨last.groups, last.dispatch, last.dispatchGeneration,
            last.manager.currentPlan, last.manager.generation⟩
        exact (before.trans kept).trans after
      · cases tells
  · obtain ⟨receipt, refused⟩ :=
      drainIngress_refused router call.drainBackend call.consumers served
    unfold drain
    rw [refused]
    exact .of_same (.refl router)

/-- A call that is refused without a word on the integrity changes nothing. -/
theorem refused_safe {reply : RouterReply} (failure : RouterEvent.failure { reply } =
      some (errorIntegrity (some error)))
    (code : error.code ≠ .physicalIntegrityUnknown) : router.Safe ({ reply }, router) := by
  unfold Safe
  rw [failure, errorIntegrity_of_code code]
  exact .of_same (.refl router)

/-- A call whose result reports no failure. -/
theorem successful_safe {event : RouterEvent} (failure : event.failure = none) :
    router.Safe (event, next) := by
  unfold Safe
  rw [failure]
  exact .of_none

theorem acceptRetained_safe (faithful : call.drainBackend.Faithful)
    (current : RoutedStopEvent) (groupId : StopSubscriptionGroupId) (receipt : StopRouteReceipt) :
    router.Safe
      ({ reply := .route receipt
         drain :=
          if (router.acceptRetained call current groupId).2.2 then
            some (router.acceptRetained call current groupId).2.1.items
          else none
         notified := (router.acceptRetained call current groupId).2.1.notified },
        (router.acceptRetained call current groupId).2.1.router) := by
  unfold acceptRetained
  dsimp only
  split
  · obtain ⟨preserved, unknown⟩ := drain_safe
      (StopPointRouter.appendHistory _ _) faithful
    refine ⟨fun failure => ?_, unknown⟩
    obtain ⟨groups, dispatch, generation, plan, physical⟩ := preserved failure
    exact ⟨groups, dispatch, generation, plan, physical⟩
  · exact .of_none

section

variable (faithful : call.backend.Faithful)
include faithful

theorem registerGroup_safe {definition : StopSubscriptionGroupDefinition}
    {policy : StopCurrentPointPolicy} (asked : call.operation = .registerGroup definition policy)
    (keeps : KeepsPlan router call) :
    router.Safe (router.registerGroup call definition policy) := by
  unfold registerGroup
  dsimp only
  cases checked : router.checkControlThread call with
  | some error => exact refused_safe rfl (checkControlThread_code router call error checked)
  | none =>
    dsimp only
    cases valid : definition.validate router.ports with
    | some error => exact refused_safe rfl (definition.validate_code router.ports error valid)
    | none =>
      dsimp only
      split
      · exact refused_safe rfl nofun
      rename_i unknown
      split
      · exact refused_safe rfl nofun
      rename_i available
      split
      · rename_i exhausted
        refine ⟨fun _ => .refl router, fun _ => ?_⟩
        change router.ingressEnabled = false
        by_contra opened
        have condition := keeps checked
        rw [asked] at condition
        have left := condition (by simpa using opened) valid
          (by simpa using unknown) fun required => by
            simpa [required, ← Option.isSome_iff_ne_none] using available
        rcases exhausted with zero | last
        · exact left.1 zero
        · exact left.2 last
      split
      · rename_i refused
        have failed := Bool.not_eq_true' _ |>.mp refused
        have fails := candidate_fails faithful failed
        unfold Safe RouterEvent.failure failRegistration
        refine ⟨fun preserved => ?_, fun lost => ?_⟩
        · obtain ⟨groups, dispatch, generation, plan, physical⟩ :=
            fails.1 preserved
          exact ⟨groups, dispatch, generation, plan, physical⟩
        · exact fails.2 lost
      split
      · exact successful_safe rfl
      split
      · exact successful_safe rfl
      · exact successful_safe rfl

theorem replaceGroup_safe (lease : StopSubscriptionGroupLease)
    (definition : StopSubscriptionGroupDefinition) :
    router.Safe (router.replaceGroup call lease definition) := by
  unfold replaceGroup
  dsimp only
  cases checked : router.checkControlThread call with
  | some error => exact refused_safe rfl (checkControlThread_code router call error checked)
  | none =>
    dsimp only
    split
    · exact refused_safe rfl nofun
    split
    · exact refused_safe rfl nofun
    split
    · exact refused_safe rfl nofun
    split
    · exact refused_safe rfl nofun
    cases valid : definition.validate router.ports with
    | some error => exact refused_safe rfl (definition.validate_code router.ports error valid)
    | none =>
      dsimp only
      split
      · rename_i refused
        have failed := (Bool.not_eq_true' _).mp refused
        have fails := candidate_fails faithful failed
        refine ⟨fun preserved => ?_, fun lost => fails.2 lost⟩
        obtain ⟨groups, dispatch, generation, plan, physical⟩ := fails.1 preserved
        exact ⟨groups, dispatch, generation, plan, physical⟩
      · exact successful_safe rfl

theorem releaseGroup_safe (lease : StopSubscriptionGroupLease) :
    router.Safe (router.releaseGroup call lease) := by
  unfold releaseGroup
  dsimp only
  split
  · exact successful_safe rfl
  split
  · exact successful_safe rfl
  cases checked : router.checkControlThread call with
  | some error => exact refused_safe rfl (checkControlThread_code router call error checked)
  | none =>
    dsimp only
    split
    · split
      · exact successful_safe rfl
      · exact refused_safe rfl nofun
    split
    · exact refused_safe rfl nofun
    split
    · rename_i refused
      have failed := (Bool.not_eq_true' _).mp refused
      have fails := candidate_fails faithful failed
      exact ⟨fun preserved => fails.1 preserved, fun lost => fails.2 lost⟩
    · exact successful_safe rfl

theorem releaseGroupNoThrow_safe (lease : StopSubscriptionGroupLease) :
    router.Safe (router.releaseGroupNoThrow call lease) := by
  have released : router.Safe (router.releaseGroup call lease) := releaseGroup_safe faithful lease
  unfold releaseGroupNoThrow
  dsimp only
  split
  · split
    · exact released
    refine ⟨fun preserved => ?_, fun _ => rfl⟩
    obtain ⟨groups, dispatch, generation, plan, physical⟩ := released.1 preserved
    exact ⟨groups, dispatch, generation, plan, physical⟩
  · exact released

end

theorem acceptCurrentPoint_safe (faithful : call.drainBackend.Faithful)
    (lease : StopSubscriptionGroupLease) : router.Safe (router.acceptCurrentPoint call lease) := by
  unfold acceptCurrentPoint
  dsimp only
  split
  · exact successful_safe rfl
  split
  · exact successful_safe rfl
  split
  · exact successful_safe rfl
  split
  · exact successful_safe rfl
  · exact acceptRetained_safe faithful _ _ _

theorem departCurrentPoint_safe : router.Safe (router.departCurrentPoint call) := by
  unfold departCurrentPoint
  cases checked : router.checkControlThread call with
  | some error => exact refused_safe rfl (checkControlThread_code router call error checked)
  | none => exact successful_safe rfl

theorem establishPausedCurrentPoint_safe (pc : UInt32) :
    router.Safe (router.establishPausedCurrentPoint call pc) := by
  unfold establishPausedCurrentPoint
  dsimp only
  cases checked : router.checkControlThread call with
  | some error => exact refused_safe rfl (checkControlThread_code router call error checked)
  | none =>
    dsimp only
    split
    · exact refused_safe rfl nofun
    split
    · split
      · exact successful_safe rfl
      · exact refused_safe rfl nofun
    split
    · exact refused_safe rfl nofun
    split
    · exact .of_closed ⟨rfl, rfl, rfl, rfl, rfl⟩ rfl
    · exact successful_safe rfl

theorem injectSyntheticStop_safe (identity : UInt64) (authoritative : Bool)
    (answers : NativeAnswers) : router.Safe
      (router.injectSyntheticStop call identity authoritative answers) := by
  unfold injectSyntheticStop
  dsimp only
  split
  · exact successful_safe rfl
  split
  · exact successful_safe rfl
  · exact successful_safe rfl

/-- Whatever fails, fails safely, but the final cleanup. -/
theorem perform_safe (faithful : call.backend.Faithful)
    (drainFaithful : call.drainBackend.Faithful) (idle : router.UsedOrIdle)
    (keeps : KeepsPlan router call) (running : call.operation ≠ .stopIngressDrainAndCleanup) :
    router.Safe (router.perform call) := by
  unfold perform
  split
  · exact initializeRouter_safe idle _
  · exact quiesceForWorksetBaselineRestore_safe
  · exact reconcileAfterWorksetBaselineRestore_safe faithful
  · exact resumeAfterFailedWorksetBaselineRestore_safe
  · rename_i asked
    exact validateEmptyForMovieCoreStop_safe asked keeps
  · exact enterStoppedMovieCoreBoundary_safe faithful
  · exact revalidateAfterJit_safe faithful
  · exact validateBreakpointChangeNotification_safe
  · rename_i asked
    exact absurd asked running
  · rename_i asked
    exact registerGroup_safe faithful asked keeps
  · exact replaceGroup_safe faithful _ _
  · exact releaseGroup_safe faithful _
  · exact releaseGroupNoThrow_safe faithful _
  · exact acceptCurrentPoint_safe drainFaithful _
  · exact departCurrentPoint_safe
  · exact establishPausedCurrentPoint_safe _
  · exact drain_safe router drainFaithful
  · exact injectSyntheticStop_safe _ _ _
  · exact successful_safe rfl
  · exact successful_safe rfl

theorem PlanInStep.perform (faithful : call.backend.Faithful)
    (drainFaithful : call.drainBackend.Faithful)
    (keeps : KeepsPlan router call) (inStep : router.PlanInStep) :
    (router.perform call).2.PlanInStep := by
  by_cases asked : call.Revalidates
  · have agrees : router.checkControlThread call = none →
        (call.backend.revalidatePhysicalStopPlan router.manager.currentPlan
          router.manager.nextGeneration).committed = true →
        buildPhysicalPlan router.gates router.groups = router.manager.currentPlan := by
      intro checked
      have condition := keeps checked
      rcases asked with asked | asked
      all_goals
        rw [asked] at condition
        exact condition
    rcases asked with asked | asked
    · simp only [StopPointRouter.perform, asked, revalidateAfterJit]
      exact inStep.revalidate faithful agrees
    simp only [StopPointRouter.perform, asked]
    unfold enterStoppedMovieCoreBoundary
    split
    · exact inStep
    have closed :
        StopPointRouter.PlanInStep { router with ingressEnabled := false } :=
      inStep.of_control (.close router)
    have revalidated :
        (({ router with ingressEnabled := false } :
          StopPointRouter).revalidate call).2.PlanInStep :=
      closed.revalidate faithful agrees
    dsimp only
    split
    · exact revalidated
    · exact (revalidated.drain drainFaithful).of_same rfl rfl (.refl _) fun _ => id
  · obtain ⟨labels, moves, -⟩ := perform_moves router call
    exact moves.invariant (fun move => PlanInStep.move faithful drainFaithful asked move) inStep

end StopPointRouter

/-- A call of the router that keeps the plan, with a faithful backend. -/
structure InStepCall (router : StopPointRouter) (call : RouterCall) : Prop where
  faithful : call.Faithful
  keeps : KeepsPlan router call

/-- What a run tells about plan and dispatch. -/
structure PlanLaws (history : List (Transition StopPointRouter RouterCall RouterEvent))
    (router : StopPointRouter) : Prop where
  inStep : router.PlanInStep
  /-- The final cleanup drains before it can fail. -/
  failsSafely : ∀ transition ∈ history,
    transition.input.operation ≠ .stopIngressDrainAndCleanup →
      FailsSafely transition.event.failure transition.before transition.after

/-- What every state of a run satisfies. -/
structure UsedAndInStep (router : StopPointRouter) : Prop where
  used : router.UsedOrIdle
  inStep : router.PlanInStep

/-- Plan and dispatch stay in step in every run. -/
theorem plan_stays_in_step (ownerThread : ThreadId) (ports : StopPointPorts)
    (history : List (Transition StopPointRouter RouterCall RouterEvent)) (router : StopPointRouter)
    (run : Run StopPointRouter.step InStepCall
      (StopPointRouter.new ownerThread ports) history router) :
    PlanLaws history router := by
  have initial : UsedAndInStep (.new ownerThread ports) := ⟨fun _ => ⟨rfl, rfl, rfl, rfl⟩, nofun⟩
  have preserved : ∀ state input event next, UsedAndInStep state →
      InStepCall state input → StopPointRouter.step input state =
        some (event, next) → UsedAndInStep next := by
    intro state input event next holds allowed stepped
    have performed := StopPointRouter.perform_of_step stepped
    obtain ⟨labels, moves, -⟩ := StopPointRouter.perform_moves state input
    have used := moves.invariant (fun move => StopPointRouter.UsedOrIdle.move move) holds.used
    have inStep :=
      holds.inStep.perform allowed.faithful.backend allowed.faithful.drainBackend allowed.keeps
    rw [performed] at used inStep
    exact ⟨used, inStep⟩
  refine ⟨(run.invariant initial preserved).inStep, ?_⟩
  intro transition member running
  obtain ⟨holds, allowed, stepped⟩ := run.forall_transition initial preserved transition member
  have performed := StopPointRouter.perform_of_step stepped
  have safe := StopPointRouter.perform_safe allowed.faithful.backend
    allowed.faithful.drainBackend holds.used allowed.keeps running
  rw [performed] at safe
  exact safe

/-- A backend that does what it is asked for. -/
def PhysicalStopPointBackend.obedient : PhysicalStopPointBackend where
  bindNativeStopSink := { ok := true }
  unbindNativeStopSink := { ok := true }
  queryPhysicalStopPoints := .threw none
  applyExactPhysicalStopPlan actual generation :=
    ⟨true, .returned { ok := true, generation, actual }⟩
  publishExactPhysicalStopPlanUnchanged actual generation :=
    ⟨true, .returned { ok := true, generation, actual }⟩
  revalidatePhysicalStopPlan actual generation :=
    ⟨true, .returned { ok := true, generation, actual }⟩
  clearOwnedPhysicalStopPoints generation := ⟨true, .returned { ok := true, generation }⟩

theorem PhysicalStopPointBackend.obedient_faithful : obedient.Faithful where
  apply _ _ := ⟨fun _ => ⟨_, rfl, rfl, rfl, rfl⟩, fun _ => rfl⟩
  publish _ _ := ⟨fun _ => ⟨_, rfl, rfl, rfl, rfl⟩, fun _ => rfl⟩
  revalidate _ _ := ⟨fun _ => ⟨_, rfl, rfl, rfl, rfl⟩, fun _ => rfl⟩
  clear _ := ⟨fun _ => ⟨_, rfl, rfl, rfl, rfl⟩, fun _ => rfl⟩

namespace Sample

/-- A call of the owner, with consumers that never throw. -/
def call (operation : RouterOperation) : RouterCall where
  thread := 0
  operation := operation
  backend := .obedient
  drainBackend := .obedient
  consumers _ _ := none

/-- An evaluator that grants and samples everything. -/
def answers : NativeAnswers where
  qualify _ _ := true
  sample descriptorId := { descriptorId }
  observe _ := .observed

/-- A group of one subscription at a PC. -/
def group (id : UInt64) (route : StopSubscriptionRoute) (lifetime : StopSubscriptionLifetime) :
    StopSubscriptionGroupDefinition where
  id := ⟨id⟩
  source := { id := ⟨1⟩, stableName := text "source" }
  subscriptions := [{ id := ⟨id⟩, point := .pc 256, route, lifetime, consumer := some 0 }]

def register (id : UInt64) (route : StopSubscriptionRoute) (lifetime : StopSubscriptionLifetime) :
    RouterOperation :=
  .registerGroup (group id route lifetime) .ignore

/-- The core hits the PC. -/
def hit : RouterOperation := .onPcStop .jit 256 answers true

def ports : StopPointPorts where
  hasEvaluator := true
  recognizesDescriptor := some fun _ => true

theorem faithful {operations : List RouterOperation} {input : RouterCall}
    (member : input ∈ operations.map call) : input.Faithful := by
  obtain ⟨operation, -, rfl⟩ := List.mem_map.mp member
  exact ⟨obedient_faithful, obedient_faithful⟩

end Sample

theorem plan_stays_in_step_sample : ∃ history router, PlanLaws history router ∧ history.length = 5 ∧
      router.dispatch.any (·.entries.isEmpty) = true := by
  have reached : ∃ history router, Run StopPointRouter.step InStepCall
      (StopPointRouter.new 0 Sample.ports) history router ∧ _ :=
    Run.exists_of_replay_inputs
      ([.initializeRouter ⟨1⟩, Sample.register 1 (.passive {}) .oneShot,
        Sample.hit, .drainIngress, .revalidateAfterJit].map Sample.call)
      (fun _ member => Sample.faithful member)
      (fun history router =>
        (∀ transition ∈ history, KeepsPlan transition.before transition.input) ∧
        history.length = 5 ∧ router.dispatch.any (·.entries.isEmpty) = true)
      (by decide +kernel) fun history router checked transition member faithful =>
        ⟨faithful, checked.1 transition member⟩
  obtain ⟨history, router, run, -, length, published⟩ := reached
  exact ⟨history, router, plan_stays_in_step 0 Sample.ports history router run, length, published⟩

/-- A faithful backend alone does not keep snapshot and plan in step: after a
one-shot subscription fired, a revalidation publishes a snapshot without its
stop, which is still installed. -/
theorem plan_falls_out_of_step : ¬∀ (ownerThread : ThreadId) (ports : StopPointPorts)
      (history : List (Transition StopPointRouter RouterCall RouterEvent))
      (router : StopPointRouter), Run StopPointRouter.step
        (fun _ call => call.Faithful)
        (StopPointRouter.new ownerThread ports) history router → PlanLaws history router := by
  intro always
  have reached : ∃ history router, Run StopPointRouter.step
      (fun _ call => call.Faithful)
      (StopPointRouter.new 0 Sample.ports) history router ∧ _ :=
    Run.exists_of_replay_inputs
      ([.initializeRouter ⟨1⟩, Sample.register 1 (.passive {}) .oneShot,
        Sample.hit, .revalidateAfterJit].map Sample.call)
      (fun _ member => Sample.faithful member)
      (fun _ router => router.dispatch.any fun snapshot =>
        snapshot.physicalPlan ≠ router.manager.currentPlan)
      (by decide +kernel) (fun _ _ _ _ _ faithful => faithful)
  obtain ⟨history, router, run, differs⟩ := reached
  obtain ⟨snapshot, published, differs⟩ := (Option.any_eq_true _ _).mp differs
  have inStep := (always 0 Sample.ports history router run).inStep snapshot published
  exact of_decide_eq_true differs inStep.plan

end Savor.StopPoints

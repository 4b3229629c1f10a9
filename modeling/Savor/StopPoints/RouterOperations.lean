import Savor.StopPoints.StopPointRouter

/-!
# The operations of the stop-point router

The calls that the owner of the router, its lease handles and the CPU thread can
make.  Every call answers a reply together with a record of what happened on the
way: the packet that was built, what the drain inside the call did and the
consumers that were called.
-/

namespace Savor.StopPoints

open Program

structure StopPointLifecycleReceipt where
  ok : Bool
  worksetEpoch : WorksetEpoch
  dispatchGeneration : StopDispatchGeneration
  physicalGeneration : PhysicalPlanGeneration := .none
  physicalIntegrity : PhysicalStopIntegrity := .preserved
  drainedEventCount : Nat := 0
  error : Option StopPointError := none

/-- What a call returns.  A lease is the one of the caller after the call. -/
inductive RouterReply
  | lifecycle (receipt : StopPointLifecycleReceipt)
  | registered
      (receipt : StopGroupReceipt)
      (currentPoint : Option StopRouteReceipt)
  | replaced (receipt : StopGroupReceipt)
  | released (receipt : StopReleaseReceipt) (lease : StopSubscriptionGroupLease)
  | route (receipt : StopRouteReceipt)
  | status (error : Option StopPointError)
  | receipts (receipts : List StopRouteReceipt)
  | decision (decision : NativeStopDecision)

/-- A reply, with the hit that was built, where it ended up, the drain that ran
inside the call and the entries whose consumers were called. -/
structure RouterEvent where
  reply : RouterReply
  build : Option NativeBuild := none
  fate : Option HitFate := none
  drain : Option (List DrainItem) := none
  notified : List DispatchEntry := []

inductive RouterOperation
  | initializeRouter (firstEpoch : WorksetEpoch)
  | quiesceForWorksetBaselineRestore
  | reconcileAfterWorksetBaselineRestore
  | resumeAfterFailedWorksetBaselineRestore
  | validateEmptyForMovieCoreStop
  | enterStoppedMovieCoreBoundary
  | revalidateAfterJit
  | validateBreakpointChangeNotification
  | stopIngressDrainAndCleanup
  | registerGroup
      (definition : StopSubscriptionGroupDefinition)
      (currentPoint : StopCurrentPointPolicy)
  | replaceGroup
      (lease : StopSubscriptionGroupLease)
      (definition : StopSubscriptionGroupDefinition)
  | releaseGroup (lease : StopSubscriptionGroupLease)
  | releaseGroupNoThrow (lease : StopSubscriptionGroupLease)
  | acceptCurrentPoint (lease : StopSubscriptionGroupLease)
  | departCurrentPoint
  | establishPausedCurrentPoint (pc : UInt32)
  | drainIngress
  | injectSyntheticStop
      (identity : UInt64)
      (authoritative : Bool)
      (answers : NativeAnswers)
  | onPcStop
      (origin : NativeStopOrigin)
      (pc : UInt32)
      (answers : NativeAnswers)
      (readerFree : Bool)
  | onMemoryStop
      (pc address size : UInt32)
      (value : UInt64)
      (write postWrite : Bool)
      (answers : NativeAnswers)
      (readerFree : Bool)

/-- The hit of the CPU thread, with whether its reader is free. -/
def RouterOperation.nativeHit : RouterOperation → Option (NativeHit × Bool)
  | .onPcStop origin pc answers readerFree => some (.ofPcStop answers origin pc, readerFree)
  | .onMemoryStop pc address size value write postWrite answers readerFree =>
    some (.ofMemoryStop answers pc address size value write postWrite, readerFree)
  | _ => none

/-- A call.  The drain inside a call may find the backend changed. -/
structure RouterCall where
  thread : ThreadId
  operation : RouterOperation
  (backend drainBackend : PhysicalStopPointBackend)
  consumers : Consumers

/-- What accepting a retained point has done so far. -/
structure Acceptance where
  gates : Gates
  notified : List DispatchEntry := []
  terminal : StopRouteTerminal := .none
  error : Option StopPointError := none
  handlerRequest : Option StopInterruptionHandlerRequest := none
  (coreMustRemainStopped firedOneShot : Bool := false)

/-- Claim an entry and notify it. -/
def Acceptance.claim (accepted : Acceptance) (entry : DispatchEntry) : Acceptance :=
  match entry.oneShot with
  | some gate =>
    { accepted with
      gates := accepted.gates.fire gate
      notified := accepted.notified ++ [entry]
      firedOneShot := true }
  | none => { accepted with notified := accepted.notified ++ [entry] }

/-- The entry of a group can consume a retained point. -/
def acceptsPoint (current : RoutedStopEvent) (groupId : StopSubscriptionGroupId)
    (entry : DispatchEntry) : Bool :=
  entry.groupId = groupId &&
    entry.point.pointMatchesEvidence current.evidence &&
    entry.subscription.definition.qualificationId = 0 &&
    (match entry.route with
      | .foreground wait => wait.requiredOccurrences = 1
      | _ => true) &&
    entry.subscription.definition.sampleDescriptorIds.all current.hasSample

/-- The loop over the entries of a snapshot that accepts a retained point. -/
def acceptEntries (consumers : Consumers) (current : RoutedStopEvent)
    (groupId : StopSubscriptionGroupId) : List DispatchEntry → Acceptance → Acceptance
  | [], accepted => accepted
  | entry :: rest, accepted =>
    if !acceptsPoint current groupId entry || entry.hasFired accepted.gates
    then acceptEntries consumers current groupId rest accepted
    else
      let accepted := accepted.claim entry
      match consumers current.identity entry.subscriptionId with
      | some thrown =>
        { accepted with
          terminal := .routingFailure
          error := some
            { code := .invalidPolicy
              message := stopConsumerFailureMessage entry current thrown }
          coreMustRemainStopped := true }
      | none =>
        match entry.route with
        | .foreground _ => { accepted with terminal := .foregroundMatched }
        | .interruption _ =>
          { accepted with
            terminal := .interruptionRequested
            handlerRequest := entry.interruptionHandlerRequest
            coreMustRemainStopped := true }
        | .passive _ => acceptEntries consumers current groupId rest accepted

/-- The receipt of an accepted point. -/
def Acceptance.receipt (accepted : Acceptance) (current : RoutedStopEvent) : StopRouteReceipt :=
  let unclaimed := accepted.notified.isEmpty
  { identity := current.identity
    event := some
      { current with
        requiresPhysicalReconcileBeforeResume :=
          current.requiresPhysicalReconcileBeforeResume || accepted.firedOneShot }
    terminal := if unclaimed then .unclaimed else accepted.terminal
    error :=
      if unclaimed then
        some (stopError .currentPointUnavailable
          "No current-point subscription could consume the retained evidence")
      else accepted.error
    deliveries := accepted.notified.map (DispatchEntry.delivery current)
    interruptionHandlerRequest := accepted.handlerRequest
    coreMustRemainStopped := accepted.coreMustRemainStopped || accepted.firedOneShot }

/-- A failure in the drain turns the receipt of the accepted point into one. -/
def StopRouteReceipt.afterReconcile (receipt : StopRouteReceipt) (items : List DrainItem) :
    StopRouteReceipt :=
  match (items.map DrainItem.receipt).find? fun drained =>
      drained.terminal = .routingFailure || drained.terminal = .overflow with
  | some failure =>
    { receipt with
      terminal := .routingFailure
      error := failure.error
      coreMustRemainStopped := true }
  | none => receipt

namespace StopPointRouter

variable (router : StopPointRouter) (call : RouterCall)

def lifecycleFailure (error : StopPointError) (integrity : PhysicalStopIntegrity) :
    StopPointLifecycleReceipt where
  ok := false
  worksetEpoch := router.worksetEpoch
  dispatchGeneration := router.dispatchGeneration
  physicalIntegrity := integrity
  error := some error

def lifecycleSuccess (physicalGeneration : PhysicalPlanGeneration) (drained : Nat) :
    StopPointLifecycleReceipt where
  ok := true
  worksetEpoch := router.worksetEpoch
  dispatchGeneration := router.dispatchGeneration
  physicalGeneration := physicalGeneration
  drainedEventCount := drained

/-- A lifecycle call that fails in this state. -/
def failLifecycle (error : StopPointError) (integrity : PhysicalStopIntegrity) :
    RouterEvent × StopPointRouter :=
  ({ reply := .lifecycle (router.lifecycleFailure error integrity) }, router)

/-- A lifecycle call that succeeds in this state. -/
def succeedLifecycle (physicalGeneration : PhysicalPlanGeneration) :
    RouterEvent × StopPointRouter :=
  ({ reply := .lifecycle (router.lifecycleSuccess physicalGeneration 0) }, router)

def checkControlThread : Option StopPointError :=
  if !router.initialized then
    some (stopError .invalidArgument "Stop-point router is not initialized")
  else if router.ownerThread ≠ call.thread then
    some (stopError .wrongThread "Stop-point control operation used the wrong thread")
  else if router.stopping then
    some (stopError .runtimeStopping "Stop-point router is stopping")
  else none

/-- The drain inside a call. -/
def drain : Drained := router.drainIngress call.thread call.drainBackend call.consumers

/-- `Initialize`, once the sink is bound. -/
def initializeBound (firstEpoch : WorksetEpoch) : RouterEvent × StopPointRouter :=
  let unbound := router.manager.unbindNativeStopSink call.backend
  let physicalGeneration := router.manager.nextGeneration
  if !physicalGeneration.isSet then
    { router with manager := unbound.2 }.failLifecycle
      (stopError .physicalIntegrityUnknown "Physical stop-point generation exhausted") .unknown
  else
    let snapshot := buildSnapshot router.gates router.groups firstEpoch ⟨1⟩ physicalGeneration
    let applied := router.manager.applyExactPlan call.backend snapshot.physicalPlan true
    if !applied.receipt.ok then
      { router with
        manager := (applied.manager.unbindNativeStopSink call.backend).2
        dispatch := none }.failLifecycle (physicalError applied.receipt) applied.receipt.integrity
    else
      { router with
        manager := applied.manager
        worksetEpoch := firstEpoch
        dispatchGeneration := ⟨1⟩
        dispatch := if applied.committed then some snapshot else router.dispatch
        initialized := true
        stopped := false
        stopping := false
        ingressEnabled := true }.succeedLifecycle applied.receipt.generation

/-- `Initialize`: every failure before the plan is applied resets the epoch and
the dispatch generation, which are set for the time of the call only. -/
def initializeRouter (firstEpoch : WorksetEpoch) : RouterEvent × StopPointRouter :=
  if router.ownerThread ≠ call.thread then
    router.failLifecycle (stopError .wrongThread
      "Stop-point router initialization used the wrong thread") .preserved
  else if router.initialized then
    if firstEpoch = router.worksetEpoch ∧ !router.stopped then
      router.succeedLifecycle router.manager.generation
    else
      router.failLifecycle (stopError .invalidArgument
        "Stop-point router is already initialized") .preserved
  else if !firstEpoch.isSet then
    router.failLifecycle (stopError .invalidArgument
      "The first WorksetEpoch must be nonzero") .preserved
  else
    let cleared : StopPointRouter :=
      { router with worksetEpoch := .none, dispatchGeneration := .none }
    let bind := router.manager.bindNativeStopSink call.backend
    if !bind.1.ok then
      { cleared with manager := bind.2 }.failLifecycle (physicalError bind.1)
        bind.1.integrity
    else { cleared with manager := bind.2 }.initializeBound call firstEpoch

def quiesceForWorksetBaselineRestore : RouterEvent × StopPointRouter :=
  match router.checkControlThread call with
  | some error => router.failLifecycle error .preserved
  | none =>
    let drained := { router with ingressEnabled := false }.drain call
    ({ reply := .lifecycle (drained.router.lifecycleSuccess
          drained.router.manager.generation drained.items.length)
       drain := some drained.items
       notified := drained.notified }, drained.router)

/-- The ingress opens again, with nothing retained and no overflow known. -/
def reopenIngress : StopPointRouter :=
  { router with
    currentPoint := none
    authoritativeOverflow := false
    overflowReported := false
    ingressEnabled := true }

def reconcileAfterWorksetBaselineRestore : RouterEvent × StopPointRouter :=
  match router.checkControlThread call with
  | some error => router.failLifecycle error .preserved
  | none =>
    if router.ingressEnabled then
      router.failLifecycle (stopError .invalidState
        "Workset baseline reconciliation requires quiesced ingress")
        .preserved
    else
      let applied := router.applyCandidate router.groups true call.backend
      match applied.1.error with
      | some error => applied.2.failLifecycle error applied.1.integrity
      | none => applied.2.reopenIngress.succeedLifecycle applied.1.physicalGeneration

def resumeAfterFailedWorksetBaselineRestore : RouterEvent × StopPointRouter :=
  match router.checkControlThread call with
  | some error => router.failLifecycle error .preserved
  | none =>
    if router.ingressEnabled then
      router.failLifecycle (stopError .invalidState
        "Failed workset baseline restoration did not retain quiesced ingress")
        .preserved
    else
      let physical := router.manager.validateExactPlanUnchanged call.backend
      let router := { router with manager := physical.2 }
      if !physical.1.ok then
        router.failLifecycle (physicalError physical.1) physical.1.integrity
      else router.reopenIngress.succeedLifecycle physical.1.generation

def desiredPhysicalPlan : PhysicalStopPointPlan := (router.dispatch.map (·.physicalPlan)).getD {}

def validateEmptyForMovieCoreStop : RouterEvent × StopPointRouter :=
  match router.checkControlThread call with
  | some error => router.failLifecycle error .preserved
  | none =>
    let desired := router.desiredPhysicalPlan
    if desired.pcs ≠ [] ∨ desired.memory ≠ [] then
      router.failLifecycle (stopError .invalidState
        "Movie core stop requires an empty program-owned stop-point plan")
        .preserved
    else
      let physical := router.manager.validateExactPlanUnchanged call.backend
      let router := { router with manager := physical.2 }
      if !physical.1.ok then
        router.failLifecycle (physicalError physical.1) physical.1.integrity
      else router.succeedLifecycle physical.1.generation

def validateBreakpointChangeNotification : RouterEvent × StopPointRouter :=
  match router.checkControlThread call with
  | some error => router.failLifecycle error .preserved
  | none =>
    let physical := router.manager.validateExactPlanUnchanged call.backend
    let router := { router with manager := physical.2 }
    if !physical.1.ok then
      { router with ingressEnabled := false }.failLifecycle
        (physicalError physical.1) physical.1.integrity
    else router.succeedLifecycle physical.1.generation

/-- `RevalidateAfterJit`, which builds the snapshot from the groups while the
manager revalidates the plan that it has. -/
def revalidate : StopPointLifecycleReceipt × StopPointRouter :=
  match router.checkControlThread call with
  | some error => (router.lifecycleFailure error .preserved, router)
  | none =>
    let nextDispatch := nextDispatchGeneration router.dispatchGeneration
    let nextPhysical := router.manager.nextGeneration
    if !nextDispatch.isSet || !nextPhysical.isSet then
      (router.lifecycleFailure (stopError .physicalIntegrityUnknown
          "Stop-point generation exhausted during JIT revalidation") .unknown,
        { router with ingressEnabled := false })
    else
      let snapshot := buildSnapshot router.gates router.groups
        router.worksetEpoch nextDispatch nextPhysical
      let physical := router.manager.revalidateAfterJit call.backend
      let router := { router with manager := physical.manager }
      let router :=
        if physical.committed then
          { router with
            dispatchGeneration := nextDispatch
            dispatch := some snapshot }
        else router
      if !physical.receipt.ok then
        (router.lifecycleFailure (physicalError physical.receipt) physical.receipt.integrity,
          { router with ingressEnabled := false })
      else (router.lifecycleSuccess physical.receipt.generation 0, router)

def revalidateAfterJit : RouterEvent × StopPointRouter :=
  let revalidated := router.revalidate call
  ({ reply := .lifecycle revalidated.1 }, revalidated.2)

def enterStoppedMovieCoreBoundary : RouterEvent × StopPointRouter :=
  match router.checkControlThread call with
  | some error => router.failLifecycle error .preserved
  | none =>
    let revalidated := { router with ingressEnabled := false }.revalidate call
    if !revalidated.1.ok then
      ({ reply := .lifecycle revalidated.1 }, revalidated.2)
    else
      let drained := revalidated.2.drain call
      let router := drained.router.reopenIngress
      ({ reply := .lifecycle (router.lifecycleSuccess
            revalidated.1.physicalGeneration drained.items.length)
         drain := some drained.items
         notified := drained.notified }, router)

/-- Deliver the retained point to a group, and reconcile when that fired a
one-shot subscription. -/
def acceptRetained (current : RoutedStopEvent) (groupId : StopSubscriptionGroupId) :
    StopRouteReceipt × Drained × Bool :=
  let accepted := acceptEntries call.consumers current groupId
    ((router.dispatch.map (·.entries)).getD []) { gates := router.gates }
  let receipt := accepted.receipt current
  let router := { router with gates := accepted.gates }.appendHistory receipt
  if accepted.firedOneShot then
    let drained := router.drain call
    (receipt.afterReconcile drained.items,
      { drained with notified := accepted.notified ++ drained.notified }, true)
  else
    (receipt, { items := [], notified := accepted.notified, router }, false)

/-- The reply of a registration that fails. -/
def failRegistration (receipt : StopGroupReceipt) : RouterEvent × StopPointRouter :=
  ({ reply := .registered receipt none }, router)

/-- A candidate that was refused closes the ingress when the integrity of the
physical plan is unknown. -/
def distrustPhysical (integrity : PhysicalStopIntegrity) : StopPointRouter :=
  if integrity = .unknown then { router with ingressEnabled := false }
  else router

/-- The retained point, when a group can take it over. -/
def retainedFor (definition : StopSubscriptionGroupDefinition) : Option RoutedStopEvent :=
  router.currentPoint.filter fun current =>
    current.identity.worksetEpoch = router.worksetEpoch &&
      currentPointMatchesDefinition current definition

def registerGroup (definition : StopSubscriptionGroupDefinition) (policy : StopCurrentPointPolicy) :
    RouterEvent × StopPointRouter :=
  let current := router.retainedFor definition
  match router.checkControlThread call with
  | some error => router.failRegistration { error := some error }
  | none =>
    match definition.validate router.ports with
    | some error => router.failRegistration { error := some error }
    | none =>
      if (router.groups.find definition.id).isSome then
        router.failRegistration
          { error := some (stopError .invalidArgument "Subscription group ID is already active") }
      else if policy = .require ∧ current.isNone then
        router.failRegistration
          { error := some (stopError .currentPointUnavailable
              "The required current stop point is unavailable") }
      else if router.nextRegistrationSequence = 0 ∨
          router.nextRegistrationSequence.toNat = UInt64.size - 1 then
        router.failRegistration
          { error := some (stopError .physicalIntegrityUnknown
              "Stop subscription registration sequence exhausted") }
      else
        let registrationSequence := router.nextRegistrationSequence
        let made := makeGroupRecord router.gates definition registrationSequence router.worksetEpoch
        let applied :=
          { router with
            nextRegistrationSequence := registrationSequence + 1
            gates := made.2 }.applyCandidate (router.groups.insert made.1) false call.backend
        if !applied.1.ok then
          (applied.2.distrustPhysical applied.1.integrity).failRegistration
            { error := applied.1.error
              dispatchGeneration := applied.2.dispatchGeneration
              physicalGeneration := applied.1.physicalGeneration }
        else
          let receipt : StopGroupReceipt :=
            { ok := true
              lease :=
                { groupId := definition.id
                  sourceId := definition.source.id
                  registrationSequence
                  acquisitionEpoch := router.worksetEpoch
                  active := true }
              dispatchGeneration := applied.2.dispatchGeneration
              physicalGeneration := applied.1.physicalGeneration }
          match current with
          | none => ({ reply := .registered receipt none }, applied.2)
          | some current =>
            if policy = .ignore then
              ({ reply := .registered receipt none }, applied.2)
            else
              let accepted := applied.2.acceptRetained call current definition.id
              ({ reply := .registered receipt (some accepted.1)
                 drain := if accepted.2.2 then some accepted.2.1.items else none
                 notified := accepted.2.1.notified }, accepted.2.1.router)

variable (lease : StopSubscriptionGroupLease)

def acceptCurrentPoint : RouterEvent × StopPointRouter :=
  let refuse (terminal : StopRouteTerminal) (error : StopPointError) :
      RouterEvent × StopPointRouter :=
    ({ reply := .route (failureRoute terminal error) }, router)
  match router.checkControlThread call with
  | some error => refuse .routingFailure error
  | none =>
    if !lease.active then
      refuse .routingFailure (stopError .groupNotFound
        "Cannot accept the current point for an inactive lease")
    else if !((router.groups.find lease.groupId).any fun group =>
        group.source.id = lease.sourceId &&
          group.registrationSequence = lease.registrationSequence) then
      refuse .routingFailure (stopError .sourceMismatch
        "Current-point request does not own the active group")
    else
      match router.currentPoint.filter fun current =>
          current.identity.worksetEpoch = router.worksetEpoch with
      | none =>
        refuse .unclaimed (stopError .currentPointUnavailable "No current stop point is retained")
      | some current =>
        let accepted := router.acceptRetained call current lease.groupId
        ({ reply := .route accepted.1
           drain := if accepted.2.2 then some accepted.2.1.items else none
           notified := accepted.2.1.notified }, accepted.2.1.router)

def departCurrentPoint : RouterEvent × StopPointRouter :=
  match router.checkControlThread call with
  | some error => ({ reply := .status (some error) }, router)
  | none => ({ reply := .status none }, { router with currentPoint := none })

/-- `ReplaceFromHandle` -/
def replaceGroup (definition : StopSubscriptionGroupDefinition) : RouterEvent × StopPointRouter :=
  let refuse (error : StopPointError) : RouterEvent × StopPointRouter :=
    ({ reply := .replaced
        { lease
          dispatchGeneration := router.dispatchGeneration
          physicalGeneration := router.manager.generation
          error := some error } }, router)
  match router.checkControlThread call with
  | some error => refuse error
  | none =>
    if !lease.active then
      refuse (stopError .groupNotFound "Cannot replace an inactive subscription-group lease")
    else
      match router.groups.find lease.groupId with
      | none =>
        refuse (stopError .groupNotFound "Subscription group is no longer active")
      | some existing =>
        if existing.source.id ≠ lease.sourceId ∨
            existing.registrationSequence ≠ lease.registrationSequence then
          refuse (stopError .sourceMismatch
            "Subscription-group lease does not own the active group")
        else if definition.id ≠ lease.groupId ∨ definition.source.id ≠ lease.sourceId then
          refuse (stopError .sourceMismatch "Replacement must preserve group and source identity")
        else
          match definition.validate router.ports with
          | some error => refuse error
          | none =>
            let made := makeGroupRecord router.gates definition
              lease.registrationSequence router.worksetEpoch
            let applied := { router with gates := made.2 }.applyCandidate
              (router.groups.insert made.1) false call.backend
            if !applied.1.ok then
              ({ reply := .replaced
                  { lease
                    error := applied.1.error
                    dispatchGeneration := applied.2.dispatchGeneration
                    physicalGeneration := applied.1.physicalGeneration } },
                applied.2.distrustPhysical applied.1.integrity)
            else
              ({ reply := .replaced
                  { ok := true
                    lease :=
                      { lease with
                        acquisitionEpoch := router.worksetEpoch }
                    dispatchGeneration := applied.2.dispatchGeneration
                    physicalGeneration := applied.1.physicalGeneration } }, applied.2)

/-- The lease names the registration that was released last under its id. -/
def wasReleased : Bool :=
  router.releasedRegistrationSequences lease.groupId = some lease.registrationSequence

/-- `ReleaseFromHandle` -/
def releaseGroup : RouterEvent × StopPointRouter :=
  let receipt : StopReleaseReceipt :=
    { groupId := lease.groupId
      dispatchGeneration := router.dispatchGeneration
      physicalGeneration := router.manager.generation }
  let ended : StopSubscriptionGroupLease := { lease with active := false }
  let already : StopReleaseReceipt := { receipt with ok := true, alreadyReleased := true }
  let refuse (error : StopPointError) : RouterEvent × StopPointRouter :=
    ({ reply := .released { receipt with error := some error } lease }, router)
  if !lease.active then ({ reply := .released already lease }, router)
  else if (router.stopping || router.stopped) && router.wasReleased lease then
    ({ reply := .released already ended }, router)
  else
    match router.checkControlThread call with
    | some error => refuse error
    | none =>
      match router.groups.find lease.groupId with
      | none =>
        if router.wasReleased lease then
          ({ reply := .released already ended }, router)
        else
          refuse (stopError .groupNotFound "Subscription group is not active")
      | some existing =>
        if existing.source.id ≠ lease.sourceId ∨
            existing.registrationSequence ≠ lease.registrationSequence then
          refuse (stopError .sourceMismatch
            "Subscription-group lease does not own the active group")
        else
          let applied := router.applyCandidate
            (router.groups.erase lease.groupId) false call.backend
          let receipt : StopReleaseReceipt :=
            { receipt with
              dispatchGeneration := applied.2.dispatchGeneration
              physicalGeneration := applied.1.physicalGeneration }
          if !applied.1.ok then
            ({ reply :=
                .released { receipt with error := applied.1.error } lease },
              applied.2.distrustPhysical applied.1.integrity)
          else
            ({ reply := .released { receipt with ok := true } ended },
              applied.2.markReleased [(lease.groupId, lease.registrationSequence)])

/-- `ReleaseFromHandleNoThrow`: a failed release closes the ingress. -/
def releaseGroupNoThrow : RouterEvent × StopPointRouter :=
  let released := router.releaseGroup call lease
  match released.1.reply with
  | .released receipt _ =>
    if receipt.ok then released
    else (released.1, released.2.overflowIngress)
  | _ => released

def establishPausedCurrentPoint (pc : UInt32) : RouterEvent × StopPointRouter :=
  let refuse (code : StopPointErrorCode) (message : String) :
      RouterEvent × StopPointRouter :=
    ({ reply := .status (some (stopError code message)) }, router)
  match router.checkControlThread call with
  | some error => ({ reply := .status (some error) }, router)
  | none =>
    if pc = 0 then
      refuse .invalidArgument "A paused current point requires a nonzero PC"
    else
      match router.currentPoint with
      | some current =>
        if current.identity.worksetEpoch = router.worksetEpoch ∧ current.evidence.hitPc = pc then
          ({ reply := .status none }, router)
        else
          refuse .currentPointUnavailable
            "A different current stop point is already retained"
      | none =>
        match router.dispatch.filter fun snapshot =>
            snapshot.worksetEpoch = router.worksetEpoch with
        | none =>
          refuse .currentPointUnavailable
            "A paused current point requires the active workset dispatch"
        | some snapshot =>
          let sequence := nextNonzero router.nextStopSequence
          let sampleSnapshot := nextNonzero router.nextSampleSnapshot
          let router :=
            { router with
              nextStopSequence := sequence.2
              nextSampleSnapshot := sampleSnapshot.2 }
          if sequence.1 = 0 ∨ sampleSnapshot.1 = 0 then
            ({ reply := .status (some (stopError .physicalIntegrityUnknown
                "Paused current-point identity space is exhausted")) }, router.overflowIngress)
          else
            ({ reply := .status none },
              { router with
                currentPoint := some
                  { identity :=
                      { sequence := ⟨sequence.1⟩
                        sampleSnapshot := ⟨sampleSnapshot.1⟩
                        worksetEpoch := snapshot.worksetEpoch
                        dispatchGeneration := snapshot.generation
                        physicalGeneration := snapshot.physicalGeneration }
                    evidence := { path := .synthetic, point := .pc pc, hitPc := pc }
                    authoritative := true } })

def drainCall : RouterEvent × StopPointRouter :=
  let drained := router.drain call
  ({ reply := .receipts (drained.items.map DrainItem.receipt)
     drain := some drained.items
     notified := drained.notified }, drained.router)

def injectSyntheticStop (identity : UInt64) (authoritative : Bool) (answers : NativeAnswers) :
    RouterEvent × StopPointRouter :=
  let refuse (error : StopPointError) : RouterEvent × StopPointRouter :=
    ({ reply := .route (failureRoute .routingFailure error) }, router)
  match router.checkControlThread call with
  | some error => refuse error
  | none =>
    if identity = 0 then
      refuse (stopError .invalidArgument "Synthetic stop identity must be nonzero")
    else
      let build := buildNativePacket router.ports router.dispatch
        (.ofSyntheticStop answers identity) router.gates
        router.nextStopSequence router.nextSampleSnapshot
      let router :=
        { router with
          gates := build.gates
          nextStopSequence := build.nextStopSequence
          nextSampleSnapshot := build.nextSampleSnapshot }
      let packet : NativePacket :=
        { build.packet with
          event :=
            { build.packet.event with
              authoritative := build.packet.event.authoritative || authoritative } }
      let packet : NativePacket :=
        if packet.entries.isEmpty then
          { packet with
            terminal := if authoritative then .unclaimed else .none
            requestBreak := authoritative }
        else packet
      let processed := router.processPacket call.consumers packet
      ({ reply := .route processed.1
         build := some build
         notified := processed.2.1 }, processed.2.2)

def nativeStop (hit : NativeHit) (readerFree : Bool) : RouterEvent × StopPointRouter :=
  let routed := router.routeNative readerFree hit
  ({ reply := .decision routed.decision
     build := routed.build
     fate := some routed.fate }, routed.router)

/-- The end of `StopIngressDrainAndCleanup`, after the drain. -/
def cleanUp : StopPointLifecycleReceipt × StopPointRouter :=
  let next := nextDispatchGeneration router.dispatchGeneration
  let empty : DispatchSnapshot :=
    { generation := next
      physicalGeneration := router.manager.nextGeneration
      worksetEpoch := router.worksetEpoch }
  let clear := router.manager.clearOwnedStopPoints call.backend
  let marked := { router with stopping := true }.markReleased
    (List.map (fun group : GroupRecord => (group.id, group.registrationSequence)) router.groups)
  let cleared : StopPointRouter :=
    if clear.committed then
      if next.isSet then
        { marked with
          groups := []
          dispatchGeneration := next
          dispatch := some empty }
      else { marked with groups := [], dispatch := none }
    else marked
  let unbind := clear.manager.unbindNativeStopSink call.backend
  let emptied : StopPointRouter :=
    { cleared with
      manager := unbind.2
      ingress := []
      emergency := none
      currentPoint := none }
  if clear.receipt.ok && unbind.1.ok then
    let final := { emptied with stopped := true, stopping := false }
    (final.lifecycleSuccess clear.receipt.generation 0, final)
  else
    let failed := if !clear.receipt.ok then clear.receipt else unbind.1
    (emptied.lifecycleFailure (physicalError failed) failed.integrity, emptied)

def stopIngressDrainAndCleanup : RouterEvent × StopPointRouter :=
  if router.stopped then router.succeedLifecycle router.manager.generation
  else if !router.initialized then
    router.failLifecycle (stopError .invalidArgument
      "Stop-point router is not initialized") .preserved
  else if router.ownerThread ≠ call.thread then
    router.failLifecycle (stopError .wrongThread
      "Stop-point cleanup used the wrong thread") .preserved
  else
    let drained := { router with ingressEnabled := false }.drain call
    let final := drained.router.cleanUp call
    let receipt :=
      if final.1.ok then
        { final.1 with drainedEventCount := drained.items.length }
      else final.1
    ({ reply := .lifecycle receipt
       drain := some drained.items
       notified := drained.notified }, final.2)

/-- Perform a call. -/
def perform : RouterEvent × StopPointRouter :=
  match call.operation with
  | .initializeRouter firstEpoch => router.initializeRouter call firstEpoch
  | .quiesceForWorksetBaselineRestore => router.quiesceForWorksetBaselineRestore call
  | .reconcileAfterWorksetBaselineRestore => router.reconcileAfterWorksetBaselineRestore call
  | .resumeAfterFailedWorksetBaselineRestore => router.resumeAfterFailedWorksetBaselineRestore call
  | .validateEmptyForMovieCoreStop => router.validateEmptyForMovieCoreStop call
  | .enterStoppedMovieCoreBoundary => router.enterStoppedMovieCoreBoundary call
  | .revalidateAfterJit => router.revalidateAfterJit call
  | .validateBreakpointChangeNotification => router.validateBreakpointChangeNotification call
  | .stopIngressDrainAndCleanup => router.stopIngressDrainAndCleanup call
  | .registerGroup definition policy => router.registerGroup call definition policy
  | .replaceGroup lease definition => router.replaceGroup call lease definition
  | .releaseGroup lease => router.releaseGroup call lease
  | .releaseGroupNoThrow lease => router.releaseGroupNoThrow call lease
  | .acceptCurrentPoint lease => router.acceptCurrentPoint call lease
  | .departCurrentPoint => router.departCurrentPoint call
  | .establishPausedCurrentPoint pc => router.establishPausedCurrentPoint call pc
  | .drainIngress => router.drainCall call
  | .injectSyntheticStop identity authoritative answers =>
    router.injectSyntheticStop call identity authoritative answers
  | .onPcStop origin pc answers readerFree =>
    router.nativeStop (.ofPcStop answers origin pc) readerFree
  | .onMemoryStop pc address size value write postWrite answers readerFree =>
    router.nativeStop (.ofMemoryStop answers pc address size value write postWrite) readerFree

/-- The transition function of the router. -/
def step (call : RouterCall) (router : StopPointRouter) : Option (RouterEvent × StopPointRouter) :=
  some (router.perform call)

theorem perform_of_step {router next : StopPointRouter} {call : RouterCall}
    {event : RouterEvent} (stepped : step call router = some (event, next)) :
    router.perform call = (event, next) :=
  Option.some.inj stepped

/-- The router as constructed. -/
def new (ownerThread : ThreadId) (ports : StopPointPorts) : StopPointRouter where
  ownerThread := ownerThread
  ports := ports

end StopPointRouter

end Savor.StopPoints

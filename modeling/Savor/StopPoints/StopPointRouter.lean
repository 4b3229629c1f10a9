import Savor.StopPoints.NativePacket

/-!
# The stop-point router

The state of the router, the native side that publishes packets into a bounded
ring or the emergency slot, and the owner side that drains them.  A native hit
is one step: it is routed to its end before anything else happens.
-/

namespace Savor.StopPoints

open Program

/-- What the consumers do in one operation: the text of the exception that a
consumer throws for a hit that is delivered to a subscription, if it throws. -/
abbrev Consumers := RoutedStopIdentity → StopSubscriptionId → Option ByteString

structure StopPointRouter where
  ownerThread : ThreadId
  ports : StopPointPorts
  manager : PhysicalStopPointManager := {}
  groups : Groups := []
  passiveDrops : StopSourceId → Nat := fun _ => 0
  releasedRegistrationSequences : StopSubscriptionGroupId → Option UInt64 := fun _ => none
  currentPoint : Option RoutedStopEvent := none
  history : List StopRouteReceipt := []
  ingress : List NativePacket := []
  emergency : Option NativePacket := none
  dispatch : Option DispatchSnapshot := none
  gates : Gates := {}
  (nextRegistrationSequence nextStopSequence nextSampleSnapshot : UInt64 := 1)
  overflowReported : Bool := false
  worksetEpoch : WorksetEpoch := .none
  dispatchGeneration : StopDispatchGeneration := .none
  (ingressEnabled authoritativeOverflow : Bool := false)
  passiveDropCount : Nat := 0
  (initialized stopping stopped : Bool := false)

/-- Where a hit ends up on the native side, with its packet. -/
inductive HitFate
  /-- Native ingress is closed. -/
  | unrouted
  /-- The hit is none of the plan's, or it was only counted. -/
  | ignored
  | queued (packet : NativePacket)
  | passiveDrop (packet : NativePacket)
  /-- The ring is full and the packet waits in the emergency slot, emptied and
  turned into an overflow. -/
  | emergency (packet : NativePacket)
  /-- The emergency slot was taken, too. -/
  | lost (packet : NativePacket)

/-- What routing a native hit leads to. -/
structure NativeRouting where
  decision : NativeStopDecision
  fate : HitFate
  build : Option NativeBuild
  router : StopPointRouter

/-- One thing that a drain returns a receipt for. -/
inductive DrainItem
  | routed (packet : NativePacket) (receipt : StopRouteReceipt)
  | reconcileFailed
      (integrity : PhysicalStopIntegrity)
      (receipt : StopRouteReceipt)
  | overflowed (receipt : StopRouteReceipt)
  /-- The drain itself was refused. -/
  | refused (receipt : StopRouteReceipt)

def DrainItem.receipt : DrainItem → StopRouteReceipt
  | .routed _ receipt | .reconcileFailed _ receipt | .overflowed receipt
  | .refused receipt => receipt

/-- The items of a drain, the entries whose consumers it called, and the router
afterwards. -/
structure Drained where
  items : List DrainItem
  notified : List DispatchEntry
  router : StopPointRouter

structure CandidateApplyReceipt where
  ok : Bool
  dispatchGeneration : StopDispatchGeneration
  physicalGeneration : PhysicalPlanGeneration
  integrity : PhysicalStopIntegrity
  error : Option StopPointError := none

def physicalError (receipt : PhysicalStopBackendReceipt) : StopPointError where
  code :=
    if receipt.integrity = .unknown then .physicalIntegrityUnknown
    else .physicalReconcileFailed
  message :=
    if receipt.message.isEmpty then
      text "Physical stop-point reconciliation failed"
    else receipt.message

/-- `{:08X}` -/
def hex8 (number : UInt32) : ByteString :=
  (List.range 8).map fun position =>
    let digit := number.toNat / 16 ^ (7 - position) % 16
    UInt8.ofNat (if digit < 10 then 48 + digit else 55 + digit)

def stopConsumerFailureMessage (entry : DispatchEntry) (event : RoutedStopEvent)
    (exceptionMessage : ByteString) : ByteString :=
  text "Stop consumer '" ++ entry.consumerName ++ text "' threw at PC 0x" ++
    hex8 event.evidence.hitPc ++
    text " (source=" ++ decimal entry.sourceId.value.toNat ++
    text ", group=" ++ decimal entry.groupId.value.toNat ++
    text ", subscription=" ++ decimal entry.subscriptionId.value.toNat ++
    text "): " ++ exceptionMessage

/-- `NextDispatchGeneration`: absent when exhausted. -/
def nextDispatchGeneration (current : StopDispatchGeneration) : StopDispatchGeneration :=
  if current.value.toNat = UInt64.size - 1 then .none
  else ⟨current.value + 1⟩

/-- The delivery of an event to an entry. -/
def DispatchEntry.delivery (event : RoutedStopEvent) (entry : DispatchEntry) : StopDelivery :=
  { event
    sourceId := entry.sourceId
    groupId := entry.groupId
    subscriptionId := entry.subscriptionId }

/-- The request of an entry that asks for an interruption. -/
def DispatchEntry.interruptionHandlerRequest (entry : DispatchEntry) :
    Option StopInterruptionHandlerRequest :=
  match entry.route with
  | .interruption request =>
    some
      { sourceId := entry.sourceId
        groupId := entry.groupId
        subscriptionId := entry.subscriptionId
        interruptionHandlerKey := request.handlerKey }
  | _ => none

/-- The operation that a control entry belongs to. -/
def DispatchEntry.executionOperationId (entry : DispatchEntry) : UInt64 :=
  match entry.route with
  | .foreground wait => wait.executionOperationId
  | .interruption request => request.executionOperationId
  | .passive _ => 0

/-- Call the consumers of the entries in order, up to the first that throws. -/
def notifyConsumers (consumers : Consumers) (event : RoutedStopEvent) :
    List DispatchEntry → List DispatchEntry × Option StopPointError
  | [] => ([], none)
  | entry :: rest =>
    match consumers event.identity entry.subscriptionId with
    | some thrown =>
      ([entry], some
          { code := .invalidPolicy
            message := stopConsumerFailureMessage entry event thrown })
    | none =>
      let notified := notifyConsumers consumers event rest
      (entry :: notified.1, notified.2)

variable (packet : NativePacket)

namespace NativePacket

/-- The error of a foreground wait whose sample expectation failed. -/
def sampleMismatchError : StopPointError where
  code := .invalidPolicy
  message :=
    text "Foreground occurrence sample mismatch at occurrence " ++
      decimal packet.event.matchedOccurrenceCount.toNat ++
      text ": descriptor=" ++
      decimal packet.event.expectedSampleDescriptorId.toNat ++
      text ", expected=" ++ decimal packet.event.expectedSampleValue.toNat ++
      text ", actual=" ++
      (if packet.event.actualSampleAvailable then
        decimal packet.event.actualSampleValue.toNat
      else text "unavailable")

/-- The receipt of a packet that is not stale, for the entries that were
notified and the error of the consumer that threw. -/
def routeReceipt (notified : List DispatchEntry) (thrown : Option StopPointError) :
    StopRouteReceipt :=
  let deliveries := notified.map (DispatchEntry.delivery packet.event)
  let terminal := if thrown.isSome then .routingFailure else packet.terminal
  let failed := terminal = .routingFailure
  let error : Option StopPointError :=
    if thrown.isSome then thrown
    else if packet.terminal = .overflow then
      some (stopError .ingressOverflow "Native stop routing exceeded its fixed delivery capacity")
    else if packet.terminal = .routingFailure ∧ packet.event.sampleExpectationFailed then
      some packet.sampleMismatchError
    else if failed then
      some (stopError .invalidPolicy "A routed observer failed")
    else none
  { identity := packet.event.identity
    event := some packet.event
    terminal := if terminal = .none ∧ deliveries.isEmpty then .unclaimed else terminal
    executionOperationId := (packet.terminalEntry.map (·.executionOperationId)).getD 0
    interruptionHandlerRequest :=
      if terminal = .interruptionRequested then
        packet.terminalEntry.bind (·.interruptionHandlerRequest)
      else none
    deliveries
    error
    coreMustRemainStopped :=
      packet.event.requiresPhysicalReconcileBeforeResume ||
        (packet.requestBreak && packet.terminal ≠ .foregroundMatched) ||
        thrown.isSome ||
        (packet.terminal = .routingFailure && !packet.event.sampleExpectationFailed) }

/-- An authoritative packet for which the ring has no room. -/
def displaced : NativePacket :=
  { packet with
    entries := []
    terminalEntry := none
    terminal := .overflow
    requestBreak := true
    event := { packet.event with authoritative := true } }

/-- A packet without entries is unclaimed, unless it is an overflow. -/
def claimed : NativePacket :=
  if packet.entries.isEmpty ∧ packet.terminal ≠ .overflow then
    { packet with terminal := .unclaimed }
  else packet

/-- The packet stops the core at a point that is kept. -/
def retainsPoint (terminal : StopRouteTerminal) : Bool :=
  packet.event.requiresPhysicalReconcileBeforeResume ||
    (packet.requestBreak && (terminal = .foregroundMatched || terminal = .routingFailure ||
        terminal = .interruptionRequested || terminal = .overflow))

end NativePacket

variable (router : StopPointRouter)

namespace StopPointRouter

def appendHistory (receipt : StopRouteReceipt) : StopPointRouter :=
  let kept :=
    if router.history.length = kStopPointRoutingHistoryCapacity then
      router.history.drop 1
    else router.history
  { router with history := kept ++ [receipt] }

/-- An authoritative event cannot be kept: close the ingress. -/
def overflowIngress : StopPointRouter :=
  { router with authoritativeOverflow := true, ingressEnabled := false }

/-- Count a passive drop, globally and for each passive source. -/
def countPassiveDrop (sources : List StopSourceId) : StopPointRouter :=
  { router with
    passiveDropCount := router.passiveDropCount + 1
    passiveDrops := fun source => router.passiveDrops source + sources.count source }

/-- The packets that wait to be drained, in the order they are taken. -/
def pending : List NativePacket := router.ingress ++ router.emergency.toList

/-- A packet that overflowed by itself closes the ingress first. -/
def flagOverflow (packet : NativePacket) : StopPointRouter :=
  if packet.terminal = .overflow then router.overflowIngress else router

/-- Put a packet into the ring, else into the emergency slot, or drop it. -/
def place (packet : NativePacket) : NativeStopDecision × HitFate × StopPointRouter :=
  let routedSequence := packet.event.identity.sequence.value
  if router.ingress.length < kStopPointNativeIngressCapacity then
    ({ requestBreak := packet.requestBreak, routedSequence },
      .queued packet, { router with ingress := router.ingress ++ [packet] })
  else if packet.event.authoritative || packet.terminal = .overflow then
    let decision : NativeStopDecision :=
      { requestBreak := true, authoritativeOverflow := true, routedSequence }
    if router.emergency.isNone then
      (decision, .emergency packet.displaced,
        { router.overflowIngress with emergency := some packet.displaced })
    else (decision, .lost packet.displaced, router.overflowIngress)
  else
    ({}, .passiveDrop packet, router.countPassiveDrop packet.passiveSources)

/-- `RouteNative` after a packet was built that needs an answer. -/
def publish (packet : NativePacket) : NativeStopDecision × HitFate × StopPointRouter :=
  (router.flagOverflow packet).place packet

/-- `RouteNative`.  The reader is not free while another hit is routed. -/
def routeNative (readerFree : Bool) (hit : NativeHit) : NativeRouting :=
  if !router.ingressEnabled then
    { decision :=
        { requestBreak := router.initialized
          authoritativeOverflow := router.authoritativeOverflow }
      fate := .unrouted, build := none, router }
  else if !readerFree then
    { decision := { requestBreak := true, authoritativeOverflow := true }
      fate := .unrouted, build := none, router := router.overflowIngress }
  else if router.dispatch.isNone then
    { decision := { requestBreak := true }
      fate := .unrouted, build := none, router }
  else
    let build := buildNativePacket router.ports router.dispatch hit
      router.gates router.nextStopSequence router.nextSampleSnapshot
    let router :=
      { router with
        gates := build.gates
        nextStopSequence := build.nextStopSequence
        nextSampleSnapshot := build.nextSampleSnapshot }
    let packet := build.packet
    if !packet.physicalHit then
      { decision := {}, fate := .ignored, build := some build, router }
    else if packet.entries.isEmpty ∧ packet.event.matchedOccurrenceCount ≠ 0 ∧
        !packet.requestBreak then
      { decision := {}, fate := .ignored, build := some build, router }
    else
      let published := router.publish packet.claimed
      { decision := published.1
        fate := published.2.1
        build := some build
        router := published.2.2 }

/-- `ProcessPacket`, with the entries whose consumers it called. -/
def processPacket (consumers : Consumers) (packet : NativePacket) :
    StopRouteReceipt × List DispatchEntry × StopPointRouter :=
  if packet.snapshot.isNone ∨
      packet.event.identity.dispatchGeneration ≠ router.dispatchGeneration ∨
      packet.event.identity.worksetEpoch ≠ router.worksetEpoch ∨
      packet.event.identity.physicalGeneration ≠ router.manager.generation then
    let receipt : StopRouteReceipt :=
      { terminal := .stale
        identity := packet.event.identity
        event := some packet.event
        error := some (stopError (if packet.event.identity.worksetEpoch ≠ router.worksetEpoch then
            .staleEpoch
          else .staleDispatchGeneration) "Native stop event belongs to a stale dispatch snapshot")
        coreMustRemainStopped := packet.event.authoritative }
    (receipt, [], router.appendHistory receipt)
  else
    let notified := notifyConsumers consumers packet.event packet.entries
    let receipt := packet.routeReceipt notified.1 notified.2
    let router :=
      { router with
        overflowReported := router.overflowReported || packet.terminal = StopRouteTerminal.overflow
        currentPoint :=
          if packet.retainsPoint receipt.terminal then some packet.event
          else none }
    (receipt, notified.1, router.appendHistory receipt)

/-- Process the packets that were taken. -/
def processAll (consumers : Consumers) : List NativePacket → StopPointRouter → Drained
  | [], router => { items := [], notified := [], router }
  | packet :: rest, router =>
    let processed := router.processPacket consumers packet
    let later := processAll consumers rest processed.2.2
    { items := .routed packet processed.1 :: later.items
      notified := processed.2.1 ++ later.notified
      router := later.router }

/-- What the backend is asked for when a candidate is applied: the manager runs
the commit, which swaps the groups in and publishes the snapshot. -/
def commitCandidate (candidate : Groups) (snapshot : DispatchSnapshot)
    (force : Bool) (backend : PhysicalStopPointBackend) : CandidateApplyReceipt × StopPointRouter :=
  let physical := router.manager.applyExactPlan backend snapshot.physicalPlan force
  let router := { router with manager := physical.manager }
  let router :=
    if physical.committed then
      { router with
        groups := candidate
        dispatchGeneration := snapshot.generation
        dispatch := some snapshot }
    else router
  ({ ok := physical.receipt.ok
     dispatchGeneration := router.dispatchGeneration
     physicalGeneration := physical.receipt.generation
     integrity := physical.receipt.integrity
     error :=
      if physical.receipt.ok then none
      else some (physicalError physical.receipt) }, router)

/-- The receipt of a candidate that never reaches the manager. -/
def refuseCandidate (integrity : PhysicalStopIntegrity) (error : StopPointError) :
    CandidateApplyReceipt × StopPointRouter :=
  ({ ok := false
     dispatchGeneration := router.dispatchGeneration
     physicalGeneration := router.manager.generation
     integrity
     error := some error }, router)

def applyCandidate (candidate : Groups) (force : Bool) (backend : PhysicalStopPointBackend) :
    CandidateApplyReceipt × StopPointRouter :=
  match validateCandidate candidate with
  | some error => router.refuseCandidate .preserved error
  | none =>
    let next := nextDispatchGeneration router.dispatchGeneration
    if !next.isSet then
      router.refuseCandidate .unknown
        (stopError .physicalIntegrityUnknown "Stop dispatch generation exhausted")
    else
      let unnumbered := buildSnapshot router.gates candidate router.worksetEpoch next .none
      match unnumbered.validateMatchCapacity with
      | some error => router.refuseCandidate .preserved error
      | none =>
        let physicalGeneration := router.manager.generationFor unnumbered.physicalPlan force
        if !physicalGeneration.isSet then
          router.refuseCandidate .unknown
            (stopError .physicalIntegrityUnknown "Physical stop-point generation exhausted")
        else
          router.commitCandidate candidate { unnumbered with physicalGeneration } force backend

/-- Remember the registrations of groups that ended. -/
def markReleased (ended : List (StopSubscriptionGroupId × UInt64)) : StopPointRouter :=
  { router with
    releasedRegistrationSequences := fun id =>
      match ended.reverse.find? (·.1 = id) with
      | some released => some released.2
      | none => router.releasedRegistrationSequences id }

/-- The loop of `DrainIngress`, for at most the given number of passes. -/
def drainPasses (backend : PhysicalStopPointBackend) (consumers : Consumers) :
    Nat → StopPointRouter → Drained
  | 0, router => { items := [], notified := [], router }
  | passes + 1, router =>
    let taken := processAll consumers router.pending
      { router with ingress := [], emergency := none }
    let removal := removeFiredOneShotsCandidate taken.router.gates taken.router.groups
    if !removal.changed then taken
    else
      let applied := taken.router.applyCandidate removal.candidate false backend
      if !applied.1.ok then
        let failure := failureRoute .routingFailure
          (applied.1.error.getD (stopError .invalidArgument ""))
        { items := taken.items ++ [.reconcileFailed applied.1.integrity failure]
          notified := taken.notified
          router := { applied.2.appendHistory failure with ingressEnabled := false } }
      else
        let later := drainPasses backend consumers passes
          (applied.2.markReleased removal.endedGroups)
        { items := taken.items ++ later.items
          notified := taken.notified ++ later.notified
          router := later.router }

/-- The passes that a drain can need: after one that removed the fired one-shot
subscriptions nothing is left to do. -/
def drainPassLimit : Nat := 2

/-- The receipt with which a drain reports an overflow itself. -/
def ingressOverflowRoute : StopRouteReceipt :=
  failureRoute .overflow
    (stopError .ingressOverflow
      "The fixed native stop ingress overflowed for an authoritative event")

def drainIngress (thread : ThreadId) (backend : PhysicalStopPointBackend) (consumers : Consumers) :
    Drained :=
  if !router.initialized then
    { items := [.refused (failureRoute .routingFailure
        (stopError .invalidArgument "Stop-point router is not initialized"))]
      notified := []
      router }
  else if router.ownerThread ≠ thread then
    { items := [.refused (failureRoute .routingFailure (stopError .wrongThread
          "Stop ingress must be drained by the control thread"))]
      notified := []
      router }
  else
    let drained := drainPasses backend consumers drainPassLimit router
    if drained.router.authoritativeOverflow && !drained.router.overflowReported then
      { items := drained.items ++ [.overflowed ingressOverflowRoute]
        notified := drained.notified
        router :=
          { drained.router.appendHistory ingressOverflowRoute with
            overflowReported := true } }
    else drained

end StopPointRouter

end Savor.StopPoints

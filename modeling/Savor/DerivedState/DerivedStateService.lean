import Savor.DerivedState.BattleEvidence
import Savor.Guest.GuestMutationService

/-!
# The derived-state service

The service publishes snapshots of the battle groups: from the evidence that the
CPU thread queued at a native hit, when the hit is delivered, or from the paused
guest, when a retained current point is accepted while an item is activated.
-/

namespace Savor.DerivedState

open Program (ByteString WorksetEpoch text decimal)
open StopPoints
open Guest (GuestMemoryBackendPort GuestScalarWidth)
open Worksets (WorkerWorksetItemId)

inductive DerivedStateErrorCode
  | none
  | invalidArgument
  | invalidState
  | staleEpoch
  | missingSnapshot
  | guestReadFailure
  | malformedEvidence
  | routingFailure

structure DerivedStateReceipt where
  ok : Bool := false
  code : DerivedStateErrorCode := .none
  message : ByteString := []

/-- `DerivedStateReceipt::Success` -/
def DerivedStateReceipt.success : DerivedStateReceipt where
  ok := true

/-- `DerivedStateReceipt::Failure` -/
def DerivedStateReceipt.failure (code : DerivedStateErrorCode)
    (message : ByteString) : DerivedStateReceipt where
  ok := false
  code
  message

/-- The generation and the snapshot of a group. -/
structure RefreshedGroup (Value : Type) where
  generation : Nat := 0
  snapshot : Option (BattleSnapshot Value) := none

/-- Publish a replacement under its generation. -/
def RefreshedGroup.publish {Value : Type} (group : RefreshedGroup Value) :
    Option (BattleSnapshot Value) → RefreshedGroup Value
  | none => group
  | some replacement =>
    { generation := replacement.provenance.generation
      snapshot := some replacement }

/-- The subscription handles are known by whether they are active. -/
structure DerivedStateService where
  cpu : CpuState := {}
  (routerBound active battleCoreActive acceptingCurrentPoint : Bool := false)
  epoch : WorksetEpoch := .none
  itemId : WorkerWorksetItemId := .none
  battleCoreIdentity : DerivedStateBlockIdentityV1 := {}
  (initializationSubscriptions nativeSubscriptions : Bool := false)
  turnEntry : RefreshedGroup (List BattleItemTotalV1) := {}
  turnOrder : RefreshedGroup (List UInt8) := {}
  rewards : RefreshedGroup (List BattleItemTotalV1) := {}

/-- The memory service, with a backend that does not change while it is read. -/
structure PausedMemory where
  opened : WorksetEpoch
  port : GuestMemoryBackendPort Unit

def PausedMemory.readScalar (memory : PausedMemory) (address : UInt32)
    (width : GuestScalarWidth) (epoch : WorksetEpoch) : Guest.GuestReadReceipt :=
  Guest.readScalar memory.port () memory.opened address width epoch

def PausedMemory.readBytes (memory : PausedMemory) (address : UInt32)
    (size : Nat) (epoch : WorksetEpoch) : Guest.GuestBytesResult :=
  Guest.readBytes memory.port () memory.opened address size epoch

variable (service : DerivedStateService) (registry : DerivedStateRegistry)

namespace DerivedStateService

def makeProvenance (group : DerivedStateRefreshGroupDescriptor)
    (generation : Nat) (event : RoutedStopEvent) : DerivedStateSnapshotProvenanceV1 where
  worksetEpoch := service.epoch
  itemId := service.itemId
  block := service.battleCoreIdentity
  groupId := group.groupId
  groupRevision := group.revision
  generation
  routedStop := event.identity
  triggerPc := event.evidence.hitPc

/-! ## Committing native evidence -/

/-- The replacements of the groups that a commit prepares. -/
structure Replacements where
  turnEntry : Option BattleTurnEntrySnapshotV1 := none
  turnOrder : Option BattleTurnOrderSnapshotV1 := none
  rewards : Option BattleRewardsSnapshotV1 := none

/-- The replacement of a group by its evidence, unless it has one already. -/
def replacement {Value : Type} (service : DerivedStateService)
    (event : RoutedStopEvent) (evidence : BattleGroupEvidenceRecord)
    (current : RefreshedGroup Value) (pending : Option (BattleSnapshot Value))
    (twice : String) (parse : ByteString → Except ByteString Value) :
    Except ByteString (Option (BattleSnapshot Value)) :=
  if pending.isSome then .error (text twice)
  else do
    let value ← parse evidence.payload
    pure (some
      { provenance := service.makeProvenance evidence.group
          (current.generation + 1) event
        currentTurn := evidence.currentTurn.toUInt32
        value })

/-- The evidence names a group of the registry that the trigger refreshes. -/
def namesGroup (triggerPc : UInt32) (evidence : BattleGroupEvidenceRecord) : Bool :=
  registry.findBlock evidence.block.identity.canonicalId = some evidence.block &&
    evidence.block.groups.contains evidence.group &&
    evidence.group.triggers.any fun trigger => trigger.pc = triggerPc

/-- The text for evidence whose acquisition failed. -/
def acquisitionFailure (triggerPc : UInt32) (evidence : BattleGroupEvidenceRecord) : ByteString :=
  text "Derived-state CPU acquisition failed for block '" ++
    evidence.block.identity.canonicalId ++ text "' group '" ++
    evidence.group.groupId ++ text "' at trigger PC 0x" ++ hex8 triggerPc ++
    text ": " ++ failureName evidence.failure ++ text "; address 0x" ++
    hex8 evidence.failureAddress ++ text ", size " ++
    decimal evidence.failureSize ++ text ", read result " ++
    hitTimeErrorName evidence.backendError

/-- The body of the loop of `CommitNativeEvidence`. -/
def replaceGroup (service : DerivedStateService) (event : RoutedStopEvent)
    (triggerPc : UInt32) (pending : Replacements)
    (evidence : BattleGroupEvidenceRecord) : Except ByteString Replacements :=
  if !namesGroup registry triggerPc evidence then
    .error (text "Battle derived-state CPU evidence names an invalid static refresh group")
  else if evidence.failure ≠ .none then
    .error (acquisitionFailure triggerPc evidence)
  else
    match evidence.kind with
    | .turnEntry => do
        let turnEntry ← service.replacement event evidence service.turnEntry
          pending.turnEntry
          "Battle turn-entry refreshed twice in one routed event" parseInventory
        pure { pending with turnEntry }
    | .turnOrder => do
        let turnOrder ← service.replacement event evidence service.turnOrder
          pending.turnOrder
          "Battle turn-order refreshed twice in one routed event" parseTurnOrder
        pure { pending with turnOrder }
    | .rewards => do
        let rewards ← service.replacement event evidence service.rewards
          pending.rewards
          "Battle rewards refreshed twice in one routed event" parseRewards
        pure { pending with rewards }
    | .none =>
      .error (text "Battle derived-state CPU evidence has an unknown group kind")

/-- Publish every group that has a replacement. -/
def publish (service : DerivedStateService) (replacements : Replacements) : DerivedStateService :=
  { service with
    turnEntry := service.turnEntry.publish replacements.turnEntry
    turnOrder := service.turnOrder.publish replacements.turnOrder
    rewards := service.rewards.publish replacements.rewards }

/-- The replacements that a record of evidence gives for an event. -/
def deriveRecord (service : DerivedStateService) (event : RoutedStopEvent)
    (record : DerivedEventEvidenceRecord) : Except ByteString Replacements :=
  if record.routedStop ≠ event.identity || record.epoch ≠ service.epoch ||
      record.itemId ≠ service.itemId ||
      record.triggerPc ≠ event.evidence.hitPc then
    .error (text "Battle derived-state CPU evidence belongs to a stale routed event")
  else if record.groups.length = 0 || record.groups.length > kMaximumRefreshGroupsPerHit then
    .error (text "Battle derived-state CPU evidence has an invalid group count")
  else
    record.groups.foldlM (service.replaceGroup registry event record.triggerPc) {}

/-- `CommitNativeEvidence`: what it throws, and the service afterwards. -/
def commitNativeEvidence (service : DerivedStateService) (event : RoutedStopEvent) :
    Option ByteString × DerivedStateService :=
  match service.cpu.queue with
  | [] =>
    if service.cpu.overflowed then
      (some (text "Battle derived-state hit-time evidence queue overflowed"),
        { service with cpu := { service.cpu with overflowed := false } })
    else
      (some (text "Battle derived-state native hit has no CPU-thread evidence"), service)
  | record :: rest =>
    let popped := { service with cpu := { service.cpu with queue := rest } }
    match popped.deriveRecord registry event record with
    | .error thrown => (some thrown, popped)
    | .ok replacements => (none, popped.publish replacements)

/-! ## The retained current point -/

def requireGroup (groupId : ByteString) : Except ByteString DerivedStateRefreshGroupDescriptor :=
  match registry.findGroup kBattleCoreBlockId groupId with
  | none =>
    .error (text "The static Battle derived-state group is unavailable")
  | some group => .ok group

/-- The bytes of a payload, or the text that names the read. -/
def retainedBytes (memory : PausedMemory) (address : UInt32) (size : Nat) (failed : String) :
    Except ByteString ByteString :=
  let bytes := memory.readBytes address size service.epoch
  if !bytes.result.ok || bytes.bytes.length ≠ size then
    .error (text failed ++ bytes.result.message)
  else .ok bytes.bytes

/-- The payload that the pointer to the battle state leads to. -/
def retainedIndirectBytes (memory : PausedMemory) (mainPointer offset : UInt32)
    (size : Nat) (overflows failed : String) : Except ByteString ByteString :=
  if mainPointer > 0xffffffff - offset then .error (text overflows)
  else service.retainedBytes memory (mainPointer + offset) size failed

/-- The snapshot of a group at the retained point. -/
def retainedSnapshot {Value : Type} (registry : DerivedStateRegistry)
    (service : DerivedStateService) (event : RoutedStopEvent)
    (groupId : ByteString) (current : RefreshedGroup Value)
    (currentTurn : UInt64) (parsed : Except ByteString Value) :
    Except ByteString (BattleSnapshot Value) := do
  let group ← requireGroup registry groupId
  let value ← parsed
  pure
    { provenance := service.makeProvenance group (current.generation + 1) event
      currentTurn := currentTurn.toUInt32
      value }

def refreshFromRetainedCurrentPoint (service : DerivedStateService)
    (memory : PausedMemory) (event : RoutedStopEvent) : Except ByteString DerivedStateService :=
  let currentTurn := memory.readScalar currentTurnAddress .u8 service.epoch
  let pointer := memory.readScalar mainInstancePtrAddress .u32 service.epoch
  let pc := event.evidence.hitPc
  if !currentTurn.ok then
    .error
      (text "Could not read the current Battle turn at retained point: " ++ currentTurn.message)
  else if pc = 0x800715EC then do
    let bytes ← service.retainedBytes memory turnOrderTableAddress 12
      "Could not read Battle turn order at retained point: "
    let snapshot ← service.retainedSnapshot registry event
      kBattleTurnOrderGroupId service.turnOrder currentTurn.value (parseTurnOrder bytes)
    pure { service with turnOrder := service.turnOrder.publish snapshot }
  else if pc ≠ 0x80071740 && pc ≠ 0x800702A0 && pc ≠ 0x800706D8 then
    .error (text "Derived-state retained point names an unknown trigger PC")
  else if !pointer.ok then
    .error (text "Could not read BattleState pointer at retained point: " ++ pointer.message)
  else if pointer.value = 0 then
    .error (text "BattleState pointer is null at retained point")
  else if pc = 0x80071740 then do
    let bytes ← service.retainedIndirectBytes memory pointer.value.toUInt32
      useableItemsOffset useableItemsSize
      "Battle inventory address overflows at retained point"
      "Could not read Battle inventory at retained point: "
    let snapshot ← service.retainedSnapshot registry event
      kBattleTurnEntryGroupId service.turnEntry currentTurn.value (parseInventory bytes)
    pure { service with turnEntry := service.turnEntry.publish snapshot }
  else do
    let bytes ← service.retainedIndirectBytes memory pointer.value.toUInt32
      itemDropsOffset itemDropsSize
      "Battle rewards address overflows at retained point"
      "Could not read Battle rewards at retained point: "
    let snapshot ← service.retainedSnapshot registry event
      kBattleRewardsGroupId service.rewards currentTurn.value (parseRewards bytes)
    pure { service with rewards := service.rewards.publish snapshot }

/-- `OnStopPoint`: what it throws, and the service afterwards. -/
def onStopPoint (service : DerivedStateService) (memory : PausedMemory)
    (event : RoutedStopEvent) : Option ByteString × DerivedStateService :=
  if !service.active || !service.battleCoreActive ||
      event.identity.worksetEpoch ≠ service.epoch then
    (some (text "Derived-state routed delivery is stale"), service)
  else if service.acceptingCurrentPoint then
    match service.refreshFromRetainedCurrentPoint registry memory event with
    | .error thrown => (some thrown, service)
    | .ok refreshed => (none, refreshed)
  else service.commitNativeEvidence registry event

/-- The id of `CanonicalStopCpuObserver::DerivedState`. -/
def derivedStateObserverId : UInt32 := 0x44525631

def observeRoutedHit (descriptorId : UInt32) (memory : HitTimeMemory) (event : RoutedStopEvent) :
    StopCpuObservationResult × DerivedStateService :=
  if descriptorId ≠ derivedStateObserverId then (.failed, service)
  else
    let observed := service.cpu.observe memory event
    (observed.1, { service with cpu := observed.2 })

/-! ## Closing an item -/

/-- What the release of each group of subscriptions answers: nothing, or the
message of its error. -/
structure CloseAnswers where
  (native initialization : Option ByteString := none)

/-- A message, or another text when it is empty. -/
def messageOr (message : ByteString) (other : String) : ByteString :=
  if message.isEmpty then text other else message

/-- The part of `CloseItem` after the releases. -/
def clearItem : DerivedStateService :=
  { service with
    cpu := { activePlan := none, queue := [], overflowed := false }
    acceptingCurrentPoint := false
    turnEntry := {}
    turnOrder := {}
    rewards := {}
    battleCoreIdentity := {}
    battleCoreActive := false
    itemId := .none
    epoch := .none
    active := false }

/-- The part of `CloseItem` after the release of the native subscriptions. -/
def closeInitialization (answers : CloseAnswers) : DerivedStateReceipt × DerivedStateService :=
  if service.initializationSubscriptions then
    match answers.initialization with
    | some message =>
      (.failure .routingFailure (messageOr message
        "Derived-state initialization subscriptions could not release"), service)
    | none => (.success, { service with initializationSubscriptions := false }.clearItem)
  else (.success, service.clearItem)

def closeItem (answers : CloseAnswers) : DerivedStateReceipt × DerivedStateService :=
  if service.nativeSubscriptions then
    match answers.native with
    | some message =>
      (.failure .routingFailure (messageOr message
        "Derived-state subscriptions could not release"), service)
    | none =>
      { service with nativeSubscriptions := false }.closeInitialization
        answers
  else service.closeInitialization answers

/-! ## Activating an item -/

def kInitializationGroupId : StopSubscriptionGroupId := ⟨0x44530001⟩

def kNativeGroupId : StopSubscriptionGroupId := ⟨0x44530002⟩

def kSubscriptionIdBase : UInt64 := 0x4453000100000000

def derivedStateSource : StopSourceIdentity where
  id := ⟨0x44530001⟩
  stableName := text "soa.derived-state.battle.core"
  diagnosticLabel := text "Battle core derived state"

/-- Insert into a set of program counters. -/
def insertPc (pc : UInt32) : List UInt32 → List UInt32
  | [] => [pc]
  | other :: rest =>
    if pc < other then pc :: other :: rest
    else if pc = other then other :: rest
    else other :: insertPc pc rest

/-- The set of the triggers of the groups that accept, or do not accept, a
current point. -/
def triggerPcs (groups : List DerivedStateRefreshGroupDescriptor)
    (accepting : Bool) : List UInt32 :=
  ((groups.filter fun group =>
      group.acceptsCurrentPointInitialization = accepting).flatMap fun group =>
        group.triggers.map (·.pc)).foldl (fun pcs pc => insertPc pc pcs) []

/-- The subscriptions to program counters, numbered from an ordinal on. -/
def subscriptionsFor (ordinal : Nat) (pcs : List UInt32) : List StopSubscriptionDefinition :=
  pcs.zipIdx.map fun (pc, index) =>
    { id := ⟨kSubscriptionIdBase + UInt64.ofNat (ordinal + index)⟩
      point := .pc pc
      route := .passive
        { cpuObserverDescriptorId := derivedStateObserverId
          lossless := true }
      lifetime := .scoped
      priority := Int32.maxValue
      consumer := some 0 }

def initializationDefinition (block : DerivedStateBlockDescriptor) :
    StopSubscriptionGroupDefinition where
  id := kInitializationGroupId
  source := derivedStateSource
  subscriptions := subscriptionsFor 1 (triggerPcs block.groups true)

def nativeDefinition (block : DerivedStateBlockDescriptor) : StopSubscriptionGroupDefinition where
  id := kNativeGroupId
  source := derivedStateSource
  subscriptions :=
    subscriptionsFor (1 + (triggerPcs block.groups true).length) (triggerPcs block.groups false)

/-- A hit of the CPU thread and the memory at the hit. -/
structure Hit where
  event : RoutedStopEvent
  memory : HitTimeMemory

/-- What happens outside of the service while it activates an item: the epoch
and the retained point of the router, the error messages of its registrations,
the paused memory, the hits that the CPU thread observes once the plan is
active, and the releases of a close. -/
structure ActivationAnswers where
  routerEpoch : WorksetEpoch
  currentPoint : Option RoutedStopEvent := none
  (initialization native : Option ByteString := none)
  memory : PausedMemory
  hits : List Hit := []
  close : CloseAnswers := {}

/-- The service after hits of the CPU thread. -/
def observeHits (hits : List Hit) : DerivedStateService :=
  hits.foldl
    (fun service hit => (service.observeRoutedHit derivedStateObserverId hit.memory hit.event).2)
    service

/-- The blocks of a binding that the battle provider refreshes. -/
def battleBlocks (binding : WorksetDerivedStateBindingV1) : List DerivedStateBlockDescriptor :=
  (binding.blocks.filterMap fun block =>
    registry.findBlock block.identity.canonicalId).filter fun descriptor =>
      descriptor.refreshProvider.canonicalId = kBattleCoreRefreshProviderId

/-- The loop that fills the plan, over the groups of the blocks in order: the
error text, or the entries. -/
def fillPlan : List CpuRefreshPlanEntry →
    List (DerivedStateBlockDescriptor × DerivedStateRefreshGroupDescriptor) →
    Except ByteString (List CpuRefreshPlanEntry)
  | entries, [] => .ok entries
  | entries, (block, group) :: rest =>
    let kind := battleEvidenceKindFor group.groupId
    if kind = .none then
      .error (text "Battle derived-state refresh group has no static CPU sampler")
    else
      let filled := entries ++ group.triggers.map fun trigger =>
        { triggerPc := trigger.pc, block, group, kind }
      if filled.length > kMaximumRefreshGroupsPerItem then
        .error (text "Derived-state item exceeds the fixed CPU refresh-plan capacity")
      else fillPlan filled rest

/-- The entries of the plan of an item, or the error text. -/
def refreshPlan (binding : WorksetDerivedStateBindingV1) :
    Except ByteString (List CpuRefreshPlanEntry) := do
  let entries ← fillPlan []
    ((battleBlocks registry binding).flatMap fun block =>
      block.groups.map fun group => (block, group))
  if entries.any fun entry =>
      (entries.filter fun other =>
        other.triggerPc = entry.triggerPc).length > kMaximumRefreshGroupsPerHit then
    throw (text "Derived-state trigger exceeds the fixed CPU evidence capacity")
  pure entries

/-- The loop of `ActivateItem` over the blocks of the binding: the error text
if it fails, and the service with the battle block bound. -/
def bindBlocks (registry : DerivedStateRegistry) :
    List DerivedStateBlockBindingV1 → DerivedStateService → Option ByteString × DerivedStateService
  | [], service => (none, service)
  | block :: rest, service =>
    match registry.findBlock block.identity.canonicalId with
    | none =>
      (some (text "Derived-state activation binding does not match the static registry"), service)
    | some descriptor =>
      if descriptor.identity ≠ block.identity ||
          block.configuration.length > descriptor.maximumConfigurationBytes then
        (some (text "Derived-state activation binding does not match the static registry"), service)
      else if block.identity.canonicalId = kBattleCoreBlockId then
        if descriptor.refreshProvider.canonicalId ≠
            kBattleCoreRefreshProviderId ||
            descriptor.refreshProvider.revision ≠ 1 then
          (some (text "Battle derived-state refresh provider is not canonical"), service)
        else
          bindBlocks registry rest
            { service with
              battleCoreActive := true
              battleCoreIdentity := block.identity }
      else bindBlocks registry rest service

/-- The text that the router makes of what a subscription threw. -/
def consumerFailureMessage (definition : StopSubscriptionGroupDefinition)
    (subscription : StopSubscriptionDefinition) (event : RoutedStopEvent)
    (thrown : ByteString) : ByteString :=
  text "Stop consumer '" ++ definition.source.diagnosticLabel ++ text " [" ++
    definition.source.stableName ++ text "]' threw at PC 0x" ++
    hex8 event.evidence.hitPc ++
    text " (source=" ++ decimal definition.source.id.value.toNat ++
    text ", group=" ++ decimal definition.id.value.toNat ++
    text ", subscription=" ++ decimal subscription.id.value.toNat ++
    text "): " ++ thrown

/-- The router gives a retained point to the subscriptions of a group, up to
the first one that throws. -/
def acceptSubscriptions (registry : DerivedStateRegistry)
    (memory : PausedMemory) (event : RoutedStopEvent)
    (definition : StopSubscriptionGroupDefinition) :
    List StopSubscriptionDefinition → DerivedStateService → Option ByteString × DerivedStateService
  | [], service => (none, service)
  | subscription :: rest, service =>
    if subscription.point.pointMatchesEvidence event.evidence then
      match service.onStopPoint registry memory event with
      | (some thrown, after) =>
        (some (consumerFailureMessage definition subscription event thrown), after)
      | (none, after) => acceptSubscriptions registry memory event definition rest after
    else acceptSubscriptions registry memory event definition rest service

/-- The router has a retained point for a definition. -/
def ActivationAnswers.retainedFor (answers : ActivationAnswers)
    (definition : StopSubscriptionGroupDefinition) : Option RoutedStopEvent :=
  answers.currentPoint.filter fun current =>
    current.identity.worksetEpoch = answers.routerEpoch &&
      currentPointMatchesDefinition current definition

/-- Close, and fail the activation. -/
def failActivation (answers : ActivationAnswers) (code : DerivedStateErrorCode)
    (message : ByteString) : DerivedStateReceipt × DerivedStateService :=
  (.failure code message, (service.closeItem answers.close).2)

/-- The registration of the native subscriptions. -/
def registerNative (answers : ActivationAnswers) (definition : StopSubscriptionGroupDefinition) :
    DerivedStateReceipt × DerivedStateService :=
  if definition.subscriptions.isEmpty then (.success, service)
  else
    match answers.native with
    | some message =>
      service.failActivation answers .routingFailure (messageOr message
        "Battle derived-state native subscriptions could not activate")
    | none => (.success, { service with nativeSubscriptions := true })

/-- The turn entry was refreshed at an event. -/
def committedTurnEntry (event : RoutedStopEvent) : Bool :=
  service.turnEntry.generation ≠ 0 &&
    service.turnEntry.snapshot.any fun snapshot => snapshot.provenance.routedStop = event.identity

/-- The registration of the initialization subscriptions, with the retained
point that it accepts: the error text if the activation fails. -/
def registerInitialization (service : DerivedStateService) (answers : ActivationAnswers)
    (definition : StopSubscriptionGroupDefinition) : Option ByteString × DerivedStateService :=
  if definition.subscriptions.isEmpty then (none, service)
  else
    match answers.initialization with
    | some message =>
      (some (messageOr message
        "Battle derived-state initialization subscription could not activate"), service)
    | none =>
      match answers.retainedFor definition with
      | none => (none, { service with initializationSubscriptions := true })
      | some event =>
        let accepted := acceptSubscriptions registry answers.memory event
          definition definition.subscriptions
          { service with acceptingCurrentPoint := true }
        let after := { accepted.2 with
          acceptingCurrentPoint := false
          initializationSubscriptions := true }
        match accepted.1 with
        | some message => (some message, after)
        | none =>
          if after.committedTurnEntry event then (none, after)
          else
            (some (text
              "Battle derived-state current-point initialization did not commit the required turn-entry snapshot"),
              after)

/-- The part of `ActivateItem` with the plan. -/
def subscribe (service : DerivedStateService) (answers : ActivationAnswers)
    (entries : List CpuRefreshPlanEntry) : DerivedStateReceipt × DerivedStateService :=
  let planned :=
    { service with
      cpu :=
        { activePlan := some ⟨service.epoch, service.itemId, entries⟩
          queue := []
          overflowed := false } }
  let observing := planned.observeHits answers.hits
  match registry.findBlock kBattleCoreBlockId with
  | none => (.success, observing)
  | some block =>
    match observing.registerInitialization registry answers (initializationDefinition block) with
    | (some message, after) => after.failActivation answers .routingFailure message
    | (none, after) => after.registerNative answers (nativeDefinition block)

def activateItem (sha256 : ByteString → ByteString)
    (registry : DerivedStateRegistry) (service : DerivedStateService)
    (binding : WorksetDerivedStateBindingV1) (epoch : WorksetEpoch)
    (itemId : WorkerWorksetItemId) (answers : ActivationAnswers) :
    DerivedStateReceipt × DerivedStateService :=
  if service.active || !service.routerBound || !epoch.isSet || !itemId.isSet then
    (.failure .invalidState (text
      "Derived state can only activate one item on its owner thread"), service)
  else
    match validateWorksetDerivedStateBindingV1 sha256 binding with
    | some error => (.failure .invalidArgument error, service)
    | none =>
      if answers.routerEpoch ≠ epoch then
        (.failure .staleEpoch (text
          "Derived-state activation does not match the router epoch"), service)
      else
        match bindBlocks registry binding.blocks { service with active := true, epoch, itemId } with
        | (some message, bound) => bound.failActivation answers .invalidArgument message
        | (none, bound) =>
          if !bound.battleCoreActive then (.success, bound)
          else
            match refreshPlan registry binding with
            | .error message => bound.failActivation answers .invalidArgument message
            | .ok entries => bound.subscribe registry answers entries

/-! ## Queries -/

def validateQuery (query : DerivedStateQueryV1)
    (provenance : Option DerivedStateSnapshotProvenanceV1) : DerivedStateReceipt :=
  if !service.active || !service.battleCoreActive then
    .failure .invalidState (text "Battle derived state is not active for this item")
  else if query.worksetEpoch ≠ service.epoch || query.itemId ≠ service.itemId then
    .failure .staleEpoch (text "Derived-state query names a stale item or epoch")
  else
    match provenance with
    | none =>
      .failure .missingSnapshot (text
        "The requested derived-state group has not refreshed in this item")
    | some provenance =>
      match query.freshness with
      | .sameRoutedEvent =>
        if !query.routedStop.sequence.isSet || query.routedStop ≠ provenance.routedStop then
          .failure .missingSnapshot (text
            "Derived-state query requires the exact routed event generation")
        else .success
      | .latestInItem => .success
      | .unknown =>
        .failure .invalidArgument (text "Derived-state query freshness is unknown")

/-- The three query functions, each for its group. -/
def query {Value : Type} (service : DerivedStateService)
    (group : RefreshedGroup Value) (query : DerivedStateQueryV1) :
    DerivedStateReceipt × Option (BattleSnapshot Value) :=
  let receipt := service.validateQuery query (group.snapshot.map (·.provenance))
  (receipt, if receipt.ok then group.snapshot else none)

def bindRouter (routerEpoch epoch : WorksetEpoch) : DerivedStateReceipt × DerivedStateService :=
  if service.routerBound || !epoch.isSet || routerEpoch ≠ epoch then
    (.failure .invalidState (text
      "Derived state could not bind the current session router"), service)
  else (.success, { service with routerBound := true })

end DerivedStateService
end Savor.DerivedState

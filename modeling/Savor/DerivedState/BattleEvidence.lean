import Savor.Worksets.LedgerSteps
import Savor.StopPoints.StopPointRouter

/-!
# Derived state

What a workset binds of the derived state of the guest, the snapshots of it that
are taken at routed stop events, and the evidence of the battle groups.
-/

namespace Savor.DerivedState

open Program (ByteString WorksetEpoch text decimal)
open StopPoints (RoutedStopIdentity RoutedStopEvent StopCpuObservationResult
  kStopPointNativeIngressCapacity)
open Worksets (WorkerWorksetItemId)

def kWorksetDerivedStateBindingVersionV1 : UInt32 := 1

/-- A freshness is an enumerator or a number that names none. -/
inductive DerivedStateFreshness
  | sameRoutedEvent
  | latestInItem
  | unknown

def completeSha256 (value : ByteString) : Bool :=
  value.length = 64 && value.all fun character =>
    (48 ≤ character && character ≤ 57) || (97 ≤ character && character ≤ 102)

structure DerivedStateBlockIdentityV1 where
  canonicalId : ByteString := []
  revision : UInt32 := 0
  descriptorSha256 : ByteString := []
  deriving DecidableEq

/-- `DerivedStateBlockIdentityV1::operator bool` -/
def DerivedStateBlockIdentityV1.isSet (identity : DerivedStateBlockIdentityV1) : Bool :=
  !identity.canonicalId.isEmpty && identity.revision ≠ 0 && completeSha256 identity.descriptorSha256

structure DerivedStateBlockBindingV1 where
  identity : DerivedStateBlockIdentityV1 := {}
  (configuration configurationSha256 contentSha256 : ByteString := [])

/-- `DerivedStateBlockBindingV1::operator bool` -/
def DerivedStateBlockBindingV1.isSet (block : DerivedStateBlockBindingV1) : Bool :=
  block.identity.isSet && completeSha256 block.configurationSha256 &&
    completeSha256 block.contentSha256

structure WorksetDerivedStateBindingV1 where
  version : UInt32 := kWorksetDerivedStateBindingVersionV1
  blocks : List DerivedStateBlockBindingV1 := []
  contentSha256 : ByteString := []

/-- `WorksetDerivedStateBindingV1::operator bool` -/
def WorksetDerivedStateBindingV1.isSet (binding : WorksetDerivedStateBindingV1) : Bool :=
  binding.version = kWorksetDerivedStateBindingVersionV1 && completeSha256 binding.contentSha256

structure DerivedStateSnapshotProvenanceV1 where
  worksetEpoch : WorksetEpoch
  itemId : WorkerWorksetItemId
  block : DerivedStateBlockIdentityV1
  groupId : ByteString
  groupRevision : UInt32
  generation : Nat
  routedStop : RoutedStopIdentity
  triggerPc : UInt32

/-! ## Hashes and validation -/

def appendField (value : ByteString) : ByteString :=
  decimal value.length ++ text ":" ++ value ++ text "|"

def appendNumber (value : Nat) : ByteString := appendField (decimal value)

section Hashes

variable (sha256 : ByteString → ByteString)

def computeDerivedStateBlockBindingHashV1 (binding : DerivedStateBlockBindingV1) : ByteString :=
  sha256
    (appendField (text "savor.derived-state.block-binding/v1") ++
      appendField binding.identity.canonicalId ++ appendNumber binding.identity.revision.toNat ++
      appendField binding.identity.descriptorSha256 ++ appendField binding.configurationSha256)

def computeWorksetDerivedStateBindingHashV1 (binding : WorksetDerivedStateBindingV1) : ByteString :=
  sha256
    (appendField (text "savor.derived-state.workset-binding/v1") ++
      appendNumber binding.version.toNat ++ appendNumber binding.blocks.length ++
      (binding.blocks.map fun block => appendField block.contentSha256).flatten)

/-- The loop of the validation over the blocks, after a block with the id
`previous`: the error text of the first block that is refused. -/
def validateBlocks : ByteString → List DerivedStateBlockBindingV1 → Option ByteString
  | _, [] => none
  | previous, block :: rest =>
    if !block.isSet then
      some (text "Derived-state block binding is incomplete")
    else if !previous.isEmpty && block.identity.canonicalId ≤ previous then
      some (text "Derived-state block bindings must be uniquely sorted by canonical ID")
    else if sha256 block.configuration ≠ block.configurationSha256 then
      some (text "Derived-state block configuration hash is invalid")
    else if computeDerivedStateBlockBindingHashV1 sha256 block ≠
        block.contentSha256 then
      some (text "Derived-state block binding hash is invalid")
    else validateBlocks block.identity.canonicalId rest

/-- `ValidateWorksetDerivedStateBindingV1`: the error text, if there is an
error. -/
def validateWorksetDerivedStateBindingV1
    (binding : WorksetDerivedStateBindingV1) : Option ByteString :=
  if !binding.isSet || binding.version ≠ kWorksetDerivedStateBindingVersionV1 then
    some (text "Derived-state binding version or identity is invalid")
  else if binding.blocks.length > 16 then
    some (text "Derived-state binding exceeds the block limit")
  else
    match validateBlocks sha256 [] binding.blocks with
    | some error => some error
    | none =>
      if computeWorksetDerivedStateBindingHashV1 sha256 binding ≠
          binding.contentSha256 then
        some (text "Derived-state workset binding hash is invalid")
      else none

end Hashes

/-! ## Snapshots -/

structure BattleItemTotalV1 where
  itemId : UInt16 := 0
  count : UInt32 := 0

/-- The snapshots of the three groups differ in the value they hold. -/
structure BattleSnapshot (Value : Type) where
  provenance : DerivedStateSnapshotProvenanceV1
  currentTurn : UInt32
  value : Value

/-- The value is the inventory. -/
abbrev BattleTurnEntrySnapshotV1 := BattleSnapshot (List BattleItemTotalV1)

/-- The value is the list of the active slots. -/
abbrev BattleTurnOrderSnapshotV1 := BattleSnapshot (List UInt8)

/-- The value is the list of the drops. -/
abbrev BattleRewardsSnapshotV1 := BattleSnapshot (List BattleItemTotalV1)

structure DerivedStateQueryV1 where
  freshness : DerivedStateFreshness := .latestInItem
  worksetEpoch : WorksetEpoch := .none
  itemId : WorkerWorksetItemId := .none
  routedStop : RoutedStopIdentity := {}

/-!
## The registry of derived state

A block of derived state has refresh groups, and a group has the program
counters that trigger its refresh.  The registry is fixed when it is built.
-/

structure DerivedStateRefreshProviderIdentityV1 where
  canonicalId : ByteString
  revision : UInt32
  deriving DecidableEq

/-- A semantic point that triggers a refresh: its program counter is all that
the service reads of it. -/
structure SemanticPointDescriptor where
  canonicalId : ByteString
  pc : UInt32
  deriving DecidableEq

structure DerivedStateRefreshGroupDescriptor where
  groupId : ByteString
  revision : UInt32
  triggers : List SemanticPointDescriptor
  acceptsCurrentPointInitialization : Bool := false
  deriving DecidableEq

structure DerivedStateBlockDescriptor where
  identity : DerivedStateBlockIdentityV1
  refreshProvider : DerivedStateRefreshProviderIdentityV1
  groups : List DerivedStateRefreshGroupDescriptor
  maximumConfigurationBytes : Nat
  deriving DecidableEq

/-- The blocks have different canonical ids. -/
structure DerivedStateRegistry where
  blocks : List DerivedStateBlockDescriptor
  distinct : (blocks.map (·.identity.canonicalId)).Nodup

namespace DerivedStateRegistry

def findBlock (registry : DerivedStateRegistry) (canonicalId : ByteString) :
    Option DerivedStateBlockDescriptor :=
  registry.blocks.find? fun block => block.identity.canonicalId = canonicalId

def findGroup (registry : DerivedStateRegistry) (blockId groupId : ByteString) :
    Option DerivedStateRefreshGroupDescriptor :=
  match registry.findBlock blockId with
  | none => none
  | some block => block.groups.find? fun group => group.groupId = groupId

end DerivedStateRegistry

def kBattleCoreBlockId : ByteString := text "soa.derived.battle.core"

def kBattleCoreRefreshProviderId : ByteString :=
  text "soa.derived.battle.core.refresh"

def kBattleTurnEntryGroupId : ByteString := text "turn_entry"

def kBattleTurnOrderGroupId : ByteString := text "turn_order"

def kBattleRewardsGroupId : ByteString := text "rewards"

def turnEntryGroup : DerivedStateRefreshGroupDescriptor where
  groupId := kBattleTurnEntryGroupId
  revision := 1
  triggers := [⟨text "soa.battle.point.TurnInputs", 0x80071740⟩]
  acceptsCurrentPointInitialization := true

def turnOrderGroup : DerivedStateRefreshGroupDescriptor where
  groupId := kBattleTurnOrderGroupId
  revision := 1
  triggers := [⟨text "soa.battle.point.TurnIsReady", 0x800715EC⟩]

def rewardsGroup : DerivedStateRefreshGroupDescriptor where
  groupId := kBattleRewardsGroupId
  revision := 1
  triggers :=
    [⟨text "soa.battle.point.EndTurn", 0x800702A0⟩,
      ⟨text "soa.battle.point.EndBattleVictory", 0x800706D8⟩]

/-- `BattleCoreDescriptor`, with the hash of the descriptor. -/
def battleCoreDescriptor (descriptorSha256 : ByteString) : DerivedStateBlockDescriptor where
  identity :=
    { canonicalId := kBattleCoreBlockId
      revision := 1
      descriptorSha256 }
  refreshProvider :=
    { canonicalId := kBattleCoreRefreshProviderId
      revision := 1 }
  groups := [turnEntryGroup, turnOrderGroup, rewardsGroup]
  maximumConfigurationBytes := 0

def productionDerivedStateRegistry (descriptorSha256 : ByteString) : DerivedStateRegistry where
  blocks := [battleCoreDescriptor descriptorSha256]
  distinct := List.nodup_singleton _

/-!
## Evidence of the battle groups

What the CPU thread reads of the guest at a native trigger hit, one record for
each group that the hit refreshes, and how the bytes that were read are parsed.
-/

section Evidence

def kEvidenceQueueCapacity : Nat := kStopPointNativeIngressCapacity

def kMaximumRefreshGroupsPerItem : Nat := 64

def kMaximumRefreshGroupsPerHit : Nat := 32

/-- The base of `addr::battle::CurrentTurn`. -/
def currentTurnAddress : UInt32 := 0x80347340

/-- The base of `addr::battle::TurnOrderTable`. -/
def turnOrderTableAddress : UInt32 := 0x803092f4

/-- The base of `addr::battle::MainInstancePtr`. -/
def mainInstancePtrAddress : UInt32 := 0x80347390

/-- `offsetof(soa::BattleState, useable_items)` -/
def useableItemsOffset : UInt32 := 0x38

/-- `sizeof(soa::BattleState::useable_items)` -/
def useableItemsSize : Nat := 320

/-- `offsetof(soa::BattleState, item_drops)` -/
def itemDropsOffset : UInt32 := 0xE

/-- `sizeof(soa::BattleState::item_drops)` -/
def itemDropsSize : Nat := 32

inductive BattleEvidenceKind
  | none
  | turnEntry
  | turnOrder
  | rewards
  deriving DecidableEq

inductive BattleEvidenceFailure
  | none
  | staleItem
  | unknownTrigger
  | currentTurnRead
  | mainPointerRead
  | mainPointerNull
  | payloadAddressOverflow
  | payloadRead
  deriving DecidableEq

inductive HitTimeGuestReadError
  | none
  | invalidArgument
  | backendUnavailable
  | unmappedRange

structure HitTimeGuestReadReceipt where
  ok : Bool := false
  error : HitTimeGuestReadError := .backendUnavailable
  address : UInt32 := 0
  size : Nat := 0

/-- What `ReadHitTimeBytes` answers for an address and a size, and the bytes
that it puts into the destination. -/
structure HitTimeMemory where
  receipt : UInt32 → Nat → HitTimeGuestReadReceipt
  bytes : UInt32 → Nat → UInt8

/-- The destination of a read. -/
def HitTimeMemory.destination (memory : HitTimeMemory) (address : UInt32)
    (size : Nat) : ByteString :=
  (List.range size).map (memory.bytes address)

structure CpuRefreshPlanEntry where
  triggerPc : UInt32
  block : DerivedStateBlockDescriptor
  group : DerivedStateRefreshGroupDescriptor
  kind : BattleEvidenceKind

/-- The payload is the used part of the array. -/
structure BattleGroupEvidenceRecord where
  block : DerivedStateBlockDescriptor
  group : DerivedStateRefreshGroupDescriptor
  kind : BattleEvidenceKind
  failure : BattleEvidenceFailure := .none
  backendError : HitTimeGuestReadError := .none
  failureAddress : UInt32 := 0
  failureSize : Nat := 0
  currentTurn : UInt8 := 0
  mainPointer : UInt32 := 0
  payload : ByteString := []
  payloadSize : Nat := 0

structure DerivedEventEvidenceRecord where
  routedStop : RoutedStopIdentity
  epoch : WorksetEpoch
  itemId : WorkerWorksetItemId
  triggerPc : UInt32
  groups : List BattleGroupEvidenceRecord := []

structure CpuItemPlan where
  epoch : WorksetEpoch
  itemId : WorkerWorksetItemId
  entries : List CpuRefreshPlanEntry := []

/-! ## Parsing -/

variable (bytes : ByteString)

def byteAt (position : Nat) : UInt8 := bytes.getD position 0

/-- `ReadBeU16` at an offset -/
def readBeU16 (offset : Nat) : UInt16 :=
  ((byteAt bytes offset).toUInt16 <<< 8) |||
    (byteAt bytes (offset + 1)).toUInt16

/-- `ReadBeI16` at an offset -/
def readBeI16 (offset : Nat) : Int16 := (readBeU16 bytes offset).toInt16

def readBeU32 : UInt32 :=
  ((byteAt bytes 0).toUInt32 <<< 24) ||| ((byteAt bytes 1).toUInt32 <<< 16) |||
    ((byteAt bytes 2).toUInt32 <<< 8) ||| (byteAt bytes 3).toUInt32

/-- `CheckedAdd`, on totals in the order of their item ids. -/
def checkedAdd (itemId : UInt16) (count : UInt32) :
    List BattleItemTotalV1 → Except ByteString (List BattleItemTotalV1)
  | [] => .ok [⟨itemId, count⟩]
  | total :: rest =>
    if itemId < total.itemId then .ok (⟨itemId, count⟩ :: total :: rest)
    else if itemId = total.itemId then
      if count > 0xffffffff - total.count then
        .error (text "Derived Battle item total overflowed u32")
      else .ok (⟨itemId, total.count + count⟩ :: rest)
    else do
      let added ← checkedAdd itemId count rest
      pure (total :: added)

def toSparseTotals (totals : List BattleItemTotalV1) : List BattleItemTotalV1 :=
  totals.filter fun total => total.count ≠ 0

def parseInventory : Except ByteString (List BattleItemTotalV1) :=
  if bytes.length ≠ useableItemsSize then
    .error (text "Battle inventory evidence has the wrong size")
  else do
    let totals ← (List.range 80).foldlM
      (fun totals index =>
        let itemId := readBeU16 bytes (index * 4)
        let count := (byteAt bytes (index * 4 + 2)).toUInt32
        if count ≠ 0 then checkedAdd itemId count totals else .ok totals)
      []
    pure (toSparseTotals totals)

/-- The loop of `ParseTurnOrder`, after the slots that were seen. -/
def activeSlots : List UInt8 → ByteString → Except ByteString (List UInt8)
  | seen, [] => .ok seen
  | seen, slot :: rest =>
    if slot = 0xFF then .ok seen
    else if slot > 11 || seen.contains slot then
      .error (text "Battle turn order contains an invalid active slot")
    else activeSlots (seen ++ [slot]) rest

def parseTurnOrder : Except ByteString (List UInt8) :=
  if bytes.length ≠ 12 then
    .error (text "Battle turn-order evidence has the wrong size")
  else activeSlots [] bytes

def parseRewards : Except ByteString (List BattleItemTotalV1) :=
  if bytes.length ≠ itemDropsSize then
    .error (text "Battle reward evidence has the wrong size")
  else do
    let totals ← (List.range 8).foldlM
      (fun totals index =>
        let count := readBeI16 bytes (index * 4)
        let itemId := readBeI16 bytes (index * 4 + 2)
        if count ≤ 0 then .ok totals
        else if itemId < 0 then
          .error (text "Battle rewards contain a negative item ID with a positive count")
        else
          checkedAdd itemId.toUInt16 count.toUInt16.toUInt32 totals)
      []
    pure (toSparseTotals totals)

/-! ## Names -/

def battleEvidenceKindFor (groupId : ByteString) : BattleEvidenceKind :=
  if groupId = kBattleTurnEntryGroupId then .turnEntry
  else if groupId = kBattleTurnOrderGroupId then .turnOrder
  else if groupId = kBattleRewardsGroupId then .rewards
  else .none

def failureName : BattleEvidenceFailure → ByteString
  | .none => text "none"
  | .staleItem => text "stale item"
  | .unknownTrigger => text "unknown trigger"
  | .currentTurnRead => text "current-turn read"
  | .mainPointerRead => text "BattleState pointer read"
  | .mainPointerNull => text "null BattleState pointer"
  | .payloadAddressOverflow => text "payload address overflow"
  | .payloadRead => text "BattleState payload read"

def hitTimeErrorName : HitTimeGuestReadError → ByteString
  | .none => text "none"
  | .invalidArgument => text "invalid argument"
  | .backendUnavailable => text "backend unavailable"
  | .unmappedRange => text "unmapped range"

/-! ## Capturing a group -/

namespace BattleGroupEvidenceRecord

variable (record : BattleGroupEvidenceRecord) (memory : HitTimeMemory)

/-- What the local `read` of `CaptureGroup` leaves of the record: nothing is
read after a failure. -/
def afterRead (address : UInt32) (size : Nat) (failure : BattleEvidenceFailure) :
    BattleGroupEvidenceRecord :=
  let receipt := memory.receipt address size
  if record.failure ≠ .none || receipt.ok then record
  else
    { record with
      failure
      backendError := receipt.error
      failureAddress := receipt.address
      failureSize := receipt.size }

/-- Read the payload. -/
def readPayload (address : UInt32) : BattleGroupEvidenceRecord :=
  if record.failure ≠ .none then record
  else
    { record.afterRead memory address record.payloadSize .payloadRead with
      payload := memory.destination address record.payloadSize }

/-- Read the pointer to the battle state. -/
def readMainPointer : BattleGroupEvidenceRecord :=
  let record := record.afterRead memory mainInstancePtrAddress 4 .mainPointerRead
  if record.failure ≠ .none then record
  else
    let pointer := readBeU32 (memory.destination mainInstancePtrAddress 4)
    { record with
      mainPointer := pointer
      failure := if pointer = 0 then .mainPointerNull else .none }

/-- The payload that the pointer to the battle state leads to. -/
def readIndirectPayload (offset : UInt32) : BattleGroupEvidenceRecord :=
  let record := record.readMainPointer memory
  if record.failure ≠ .none then record
  else if record.mainPointer > 0xffffffff - offset then
    { record with
      failure := .payloadAddressOverflow
      failureAddress := record.mainPointer
      failureSize := record.payloadSize }
  else record.readPayload memory (record.mainPointer + offset)

end BattleGroupEvidenceRecord

/-- The size of the payload of a group. -/
def BattleEvidenceKind.payloadSize : BattleEvidenceKind → Nat
  | .none => 0
  | .turnEntry => useableItemsSize
  | .turnOrder => 12
  | .rewards => itemDropsSize

def CpuRefreshPlanEntry.captureGroup (entry : CpuRefreshPlanEntry)
    (memory : HitTimeMemory) : BattleGroupEvidenceRecord :=
  let record : BattleGroupEvidenceRecord :=
    { block := entry.block
      group := entry.group
      kind := entry.kind
      payloadSize := entry.kind.payloadSize }
  let turned :=
    { record.afterRead memory currentTurnAddress 1 .currentTurnRead with
      currentTurn := byteAt (memory.destination currentTurnAddress 1) 0 }
  match entry.kind with
  | .none => { record with failure := .unknownTrigger }
  | .turnOrder => turned.readPayload memory turnOrderTableAddress
  | .turnEntry => turned.readIndirectPayload memory useableItemsOffset
  | .rewards => turned.readIndirectPayload memory itemDropsOffset

/-- The evidence of a group at a hit of another epoch. -/
def CpuRefreshPlanEntry.staleGroup (entry : CpuRefreshPlanEntry) : BattleGroupEvidenceRecord where
  block := entry.block
  group := entry.group
  kind := entry.kind
  failure := .staleItem

/-! ## Observing a hit -/

/-- The part of the service that the CPU thread works on. -/
structure CpuState where
  activePlan : Option CpuItemPlan := none
  queue : List DerivedEventEvidenceRecord := []
  overflowed : Bool := false

/-- The entries of the plan that a hit refreshes. -/
def CpuItemPlan.entriesAt (plan : CpuItemPlan) (triggerPc : UInt32) : List CpuRefreshPlanEntry :=
  plan.entries.filter fun entry => entry.triggerPc = triggerPc

/-- The record that a hit adds to the queue. -/
def CpuItemPlan.evidenceOf (plan : CpuItemPlan) (memory : HitTimeMemory)
    (event : RoutedStopEvent) : DerivedEventEvidenceRecord where
  routedStop := event.identity
  epoch := plan.epoch
  itemId := plan.itemId
  triggerPc := event.evidence.hitPc
  groups := (plan.entriesAt event.evidence.hitPc).map fun entry =>
    if event.identity.worksetEpoch = plan.epoch then entry.captureGroup memory
    else entry.staleGroup

/-- `CpuState::Observe` -/
def CpuState.observe (cpu : CpuState) (memory : HitTimeMemory)
    (event : RoutedStopEvent) : StopCpuObservationResult × CpuState :=
  match cpu.activePlan with
  | none => (.ignored, cpu)
  | some plan =>
    let record := plan.evidenceOf memory event
    if record.groups.length > kMaximumRefreshGroupsPerHit then
      (.failed, { cpu with overflowed := true })
    else if record.groups.length = 0 then (.failed, cpu)
    else if cpu.queue.length ≥ kEvidenceQueueCapacity then
      (.failed, { cpu with overflowed := true })
    else
      let captured := event.identity.worksetEpoch = plan.epoch &&
        record.groups.all fun group => group.failure = .none
      (if captured then .observed else .failed, { cpu with queue := cpu.queue ++ [record] })

end Evidence

end Savor.DerivedState

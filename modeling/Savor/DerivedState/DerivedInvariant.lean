import Savor.DerivedState.BattleDerivation

/-!
# The invariant of the derived-state service

What a retained point publishes, the runs of the service, and what holds of its
queue and its snapshots over every run.
-/

namespace Savor.DerivedState

open Library
open Program (ByteString WorksetEpoch text)
open StopPoints (RoutedStopIdentity RoutedStopEvent StopCpuObservationResult)
open Guest (GuestScalarWidth scalarValue)
open Worksets (WorkerWorksetItemId)
open PausedMemory DerivedStateService

/-!
## Retained points

Accepting a retained point replaces the group of its trigger with what the group
shows of the paused guest, or throws.
-/

section Retained

/-- The bytes of a scalar as the two paths read them. -/
theorem scalarValue_four (first second third fourth : UInt8) :
    (scalarValue [first, second, third, fourth]).toUInt32 =
      readBeU32 [first, second, third, fourth] := by
  have eight : (8 : UInt64) < 32 := by decide
  have sixteen : ∀ number : UInt32, number <<< 8 <<< 8 = number <<< 16 :=
    fun number => (UInt32.shiftLeft_add (by decide) (by decide) (by decide)).symm
  have twentyFour : ∀ number : UInt32, number <<< 16 <<< 8 = number <<< 24 :=
    fun number => (UInt32.shiftLeft_add (by decide) (by decide) (by decide)).symm
  simp only [scalarValue, List.foldl_cons, List.foldl_nil, readBeU32, byteAt,
    List.getD_cons_zero, List.getD_cons_succ, UInt64.toUInt32_or,
    UInt64.toUInt32_shiftLeft _ _ eight, UInt8.toUInt32_toUInt64, UInt32.shiftLeft_or]
  simp [sixteen, twentyFour]

variable {bytes : ByteString}

theorem scalarValue_toUInt32 (size : bytes.length = 4) :
    (scalarValue bytes).toUInt32 = readBeU32 bytes := by
  match bytes, size with
  | [first, second, third, fourth], _ => exact scalarValue_four first second third fourth

/-- A pointer is null for both paths or for neither. -/
theorem scalarValue_eq_zero_iff (size : bytes.length = 4) :
    scalarValue bytes = 0 ↔ readBeU32 bytes = 0 := by
  have short : bytes.length ≤ 8 := by omega
  have fits := Guest.scalarValue_fits short
  rw [size] at fits
  rw [← scalarValue_toUInt32 size, ← UInt64.toNat_inj, ← UInt32.toNat_inj, UInt64.toNat_toUInt32]
  have bounded : (scalarValue bytes).toNat < 2 ^ 32 := fits
  change _ = 0 ↔ _ = 0
  rw [Nat.mod_eq_of_lt bounded]

theorem scalarValue_one (size : bytes.length = 1) :
    (scalarValue bytes).toUInt32 = (byteAt bytes 0).toUInt32 := by
  match bytes, size with
  | [byte], _ => simp [scalarValue, byteAt]

namespace PausedMemory

variable {memory : PausedMemory} {epoch : WorksetEpoch} {address : UInt32}

theorem view_eq_some {size : Nat} {bytes : ByteString}
    (seen : memory.view epoch address size = some bytes) :
    (memory.readBytes address size epoch).result.ok = true ∧
      (memory.readBytes address size epoch).bytes = bytes ∧ bytes.length = size := by
  unfold view at seen
  dsimp only at seen
  split at seen
  · rename_i readable
    rw [Bool.and_eq_true, decide_eq_true_eq] at readable
    cases seen
    exact ⟨readable.1, rfl, readable.2⟩
  · cases seen

theorem view_eq_none {size : Nat} (unseen : memory.view epoch address size = none) :
    (!(memory.readBytes address size epoch).result.ok ||
      decide ((memory.readBytes address size epoch).bytes.length ≠ size)) = true := by
  unfold view at unseen
  dsimp only at unseen
  split at unseen
  · cases unseen
  rename_i unreadable
  rw [Bool.and_eq_true, decide_eq_true_eq, not_and_or] at unreadable
  simpa using unreadable

theorem readScalar_of_view (width : GuestScalarWidth) {bytes : ByteString}
    (seen : memory.view epoch address width.size = some bytes) :
    memory.readScalar address width epoch = { ok := true, value := scalarValue bytes } := by
  obtain ⟨readable, same, size⟩ := view_eq_some seen
  unfold readBytes Guest.readBytes at readable same
  unfold readScalar Guest.readScalar
  split
  · rename_i stale
    rw [if_pos stale] at readable
    cases readable
  rename_i opened
  rw [if_neg opened] at readable same
  split
  · rename_i running
    rw [if_pos running] at readable
    cases readable
  rename_i paused
  rw [if_neg paused] at readable same
  dsimp only
  rw [readable, same, size]
  simp

theorem readScalar_of_unseen (width : GuestScalarWidth)
    (unseen : memory.view epoch address width.size = none) :
    (memory.readScalar address width epoch).ok = false := by
  have unreadable := view_eq_none unseen
  unfold readBytes Guest.readBytes at unreadable
  unfold readScalar Guest.readScalar
  split
  · rfl
  rename_i opened
  rw [if_neg opened] at unreadable
  split
  · rfl
  rename_i paused
  rw [if_neg paused] at unreadable
  dsimp only
  rw [if_pos unreadable]

end PausedMemory

namespace BattleGroup

/-- The triggers of a group that a retained point can name. -/
def retainedPcs : BattleGroup → List UInt32
  | turnEntry => [0x80071740]
  | turnOrder => [0x800715EC]
  | rewards => [0x800702A0, 0x800706D8]

def groupId : BattleGroup → ByteString
  | turnEntry => kBattleTurnEntryGroupId
  | turnOrder => kBattleTurnOrderGroupId
  | rewards => kBattleRewardsGroupId

end BattleGroup

namespace DerivedStateService

variable {registry : DerivedStateRegistry} {service : DerivedStateService}
variable {memory : PausedMemory} {event : RoutedStopEvent}

variable {failed : String} {group : BattleGroup}
variable {refreshed : DerivedStateService}

theorem retainedBytes_eq_ok_iff {address : UInt32} {size : Nat} {bytes : ByteString} :
    service.retainedBytes memory address size failed = .ok bytes ↔
      memory.view service.epoch address size = some bytes := by
  cases seen : memory.view service.epoch address size with
  | none =>
    unfold retainedBytes
    dsimp only
    rw [if_pos (view_eq_none seen)]
    simp
  | some found =>
    obtain ⟨readable, same, length⟩ := view_eq_some seen
    unfold retainedBytes
    dsimp only
    rw [readable, same, length]
    simp

theorem retainedIndirectBytes_eq_ok_iff {offset : UInt32} {size : Nat}
    {overflows : String} {pointer bytes : ByteString}
    (seen : memory.view service.epoch mainInstancePtrAddress 4 = some pointer)
    (points : readBeU32 pointer ≠ 0) :
    service.retainedIndirectBytes memory (readBeU32 pointer) offset size
        overflows failed = .ok bytes ↔ (indirectAddress (memory.view service.epoch) offset).bind
          (fun address => memory.view service.epoch address size) =
        some bytes := by
  unfold retainedIndirectBytes indirectAddress
  rw [seen]
  dsimp only
  by_cases overflow : readBeU32 pointer > 0xffffffff - offset
  · rw [if_pos overflow, if_pos (Or.inr overflow)]
    simp
  rw [if_neg overflow, if_neg (not_or.mpr ⟨points, overflow⟩), retainedBytes_eq_ok_iff]
  rfl

/-- A retained snapshot has the value that was parsed, for the group of the
registry. -/
theorem retainedSnapshot_eq_ok_iff {turn : UInt64} {parsed : Except ByteString group.Value}
    {snapshot : BattleSnapshot group.Value} : service.retainedSnapshot registry event group.groupId
        (service.group group) turn parsed = .ok snapshot ↔ ∃ descriptor value,
        registry.findGroup kBattleCoreBlockId group.groupId = some descriptor ∧ parsed = .ok value ∧
        snapshot = service.nextSnapshot event descriptor group turn.toUInt32 value := by
  unfold retainedSnapshot requireGroup
  constructor
  · intro taken
    obtain ⟨descriptor, required, rest⟩ := exists_of_bind_ok taken
    obtain ⟨value, parsedTo, same⟩ := exists_of_bind_ok rest
    cases found : registry.findGroup kBattleCoreBlockId group.groupId with
    | none =>
      rw [found] at required
      cases required
    | some other =>
      rw [found] at required
      cases required
      cases same
      exact ⟨descriptor, value, rfl, parsedTo, rfl⟩
  · rintro ⟨descriptor, value, found, rfl, rfl⟩
    rw [found]
    rfl

/-- Publish the snapshot of one group. -/
def publishOne (service : DerivedStateService) (group : BattleGroup)
    (snapshot : BattleSnapshot group.Value) : DerivedStateService :=
  service.publish (({} : Replacements).set group snapshot)

/-- The service after the group of a retained point was refreshed. -/
def RefreshedAt (registry : DerivedStateRegistry)
    (service : DerivedStateService) (memory : PausedMemory)
    (event : RoutedStopEvent) (group : BattleGroup) (refreshed : DerivedStateService) : Prop :=
  ∃ descriptor turn value,
    registry.findGroup kBattleCoreBlockId group.groupId = some descriptor ∧
      group.derive (memory.view service.epoch) = some (turn, value) ∧
      refreshed = service.publishOne group (service.nextSnapshot event descriptor group turn value)

theorem refreshedAt_iff (group : BattleGroup) {turn : ByteString}
    {payload : Except ByteString ByteString}
    (turnSeen : memory.view service.epoch currentTurnAddress 1 = some turn)
    (seen : ∀ bytes, payload = .ok bytes ↔ (group.payloadAddress (memory.view service.epoch)).bind
          (fun address => memory.view service.epoch address group.kind.payloadSize) = some bytes) :
    (payload >>= fun bytes =>
      service.retainedSnapshot registry event group.groupId
          (service.group group) (scalarValue turn) (group.parse bytes) >>=
        fun snapshot => pure (service.publishOne group snapshot)) =
        .ok refreshed ↔ RefreshedAt registry service memory event group refreshed := by
  have size : turn.length = 1 := (view_eq_some turnSeen).2.2
  constructor
  · intro ended
    obtain ⟨bytes, read, rest⟩ := exists_of_bind_ok ended
    obtain ⟨snapshot, taken, same⟩ := exists_of_bind_ok rest
    obtain ⟨descriptor, value, found, parsed, rfl⟩ := retainedSnapshot_eq_ok_iff.mp taken
    cases same
    refine ⟨descriptor, _, value, found, ?_, rfl⟩
    rw [BattleGroup.derive_eq_some_iff]
    refine ⟨byteAt turn 0, bytes, ?_, parsed, (scalarValue_one size).symm⟩
    obtain ⟨address, at_, there⟩ := Option.bind_eq_some_iff.mp ((seen bytes).mp read)
    simp [BattleGroup.payload, turnSeen, at_, there]
  · rintro ⟨descriptor, current, value, found, derived, rfl⟩
    obtain ⟨byte, bytes, read, parsed, rfl⟩ := BattleGroup.derive_eq_some_iff.mp derived
    simp only [BattleGroup.payload, turnSeen, Option.bind_some,
      Option.bind_eq_some_iff, Option.map_eq_some_iff, Prod.mk.injEq] at read
    obtain ⟨address, at_, payloadBytes, there, rfl, rfl⟩ := read
    have paid := (seen payloadBytes).mpr (by rw [at_]; exact there)
    have taken : service.retainedSnapshot registry event group.groupId
        (service.group group) (scalarValue turn) (group.parse payloadBytes) =
          .ok (service.nextSnapshot event descriptor group (byteAt turn 0).toUInt32 value) :=
      retainedSnapshot_eq_ok_iff.mpr
        ⟨descriptor, value, found, parsed, by rw [scalarValue_one size]⟩
    rw [paid]
    change (service.retainedSnapshot registry event group.groupId
      (service.group group) (scalarValue turn) (group.parse payloadBytes) >>=
        fun snapshot => pure (service.publishOne group snapshot)) = _
    rw [taken]
    rfl

theorem not_refreshedAt (unaddressed : group.payloadAddress (memory.view service.epoch) = none) :
    ¬RefreshedAt registry service memory event group refreshed := by
  rintro ⟨descriptor, turn, value, -, derived, -⟩
  obtain ⟨byte, bytes, read, -⟩ := BattleGroup.derive_eq_some_iff.mp derived
  simp [BattleGroup.payload, unaddressed] at read

theorem refreshIndirect_iff (group : BattleGroup) {offset : UInt32}
    {turn : ByteString} {overflows : String} (indirect : group.offset = some offset)
    (turnSeen : memory.view service.epoch currentTurnAddress 1 = some turn) :
    (if !(memory.readScalar mainInstancePtrAddress .u32 service.epoch).ok then
        (.error (text "Could not read BattleState pointer at retained point: " ++
            (memory.readScalar mainInstancePtrAddress .u32
              service.epoch).message) : Except ByteString DerivedStateService)
      else if (memory.readScalar mainInstancePtrAddress .u32 service.epoch).value = 0 then
        .error (text "BattleState pointer is null at retained point")
      else
        service.retainedIndirectBytes memory
            (memory.readScalar mainInstancePtrAddress .u32 service.epoch).value.toUInt32
            offset group.kind.payloadSize overflows failed >>= fun bytes =>
          service.retainedSnapshot registry event group.groupId
              (service.group group) (scalarValue turn) (group.parse bytes) >>=
            fun snapshot => pure (service.publishOne group snapshot)) =
        .ok refreshed ↔ RefreshedAt registry service memory event group refreshed := by
  have address : ∀ view, group.payloadAddress view = indirectAddress view offset := by
    intro view
    rw [BattleGroup.payloadAddress, indirect]
  cases pointerSeen : memory.view service.epoch mainInstancePtrAddress 4 with
  | none =>
    have unread := readScalar_of_unseen .u32 pointerSeen
    have unaddressed : group.payloadAddress (memory.view service.epoch) = none := by
      rw [address, indirectAddress, pointerSeen]
    rw [unread]
    simp [not_refreshedAt unaddressed]
  | some pointer =>
    have read := readScalar_of_view .u32 pointerSeen
    have size : pointer.length = 4 := (view_eq_some pointerSeen).2.2
    rw [read]
    dsimp only
    rw [if_neg (by simp)]
    have nullIff := scalarValue_eq_zero_iff size
    by_cases null : scalarValue pointer = 0
    · have unaddressed : group.payloadAddress (memory.view service.epoch) =
          none := by
        rw [address, indirectAddress, pointerSeen]
        exact if_pos (Or.inl (nullIff.mp null))
      rw [if_pos null]
      simp [not_refreshedAt unaddressed]
    rw [if_neg null, scalarValue_toUInt32 size]
    apply refreshedAt_iff group turnSeen
    intro bytes
    rw [address, retainedIndirectBytes_eq_ok_iff pointerSeen (mt nullIff.mpr null)]

/-- A refresh at the trigger of a group succeeds exactly if the group shows
something, and publishes it. -/
theorem refresh_eq_ok_iff (known : event.evidence.hitPc ∈ group.retainedPcs) :
    service.refreshFromRetainedCurrentPoint registry memory event = .ok refreshed ↔
      RefreshedAt registry service memory event group refreshed := by
  cases turnSeen : memory.view service.epoch currentTurnAddress 1 with
  | none =>
    have unread := readScalar_of_unseen .u8 turnSeen
    unfold refreshFromRetainedCurrentPoint RefreshedAt
    simp [unread, BattleGroup.derive, BattleGroup.payload, turnSeen]
  | some turn =>
    have turnRead := readScalar_of_view .u8 turnSeen
    unfold refreshFromRetainedCurrentPoint
    dsimp only
    rw [turnRead]
    dsimp only
    rw [if_neg (by simp)]
    cases group with
    | turnOrder =>
      have here : event.evidence.hitPc = 0x800715EC := by
        simpa [BattleGroup.retainedPcs] using known
      rw [if_pos here]
      exact refreshedAt_iff .turnOrder turnSeen fun bytes => retainedBytes_eq_ok_iff
    | turnEntry =>
      have here : event.evidence.hitPc = 0x80071740 := by
        simpa [BattleGroup.retainedPcs] using known
      rw [here, if_neg (by decide), if_neg (by decide)]
      simp only [if_true]
      exact refreshIndirect_iff .turnEntry rfl turnSeen
    | rewards =>
      have here : event.evidence.hitPc = 0x800702A0 ∨
          event.evidence.hitPc = 0x800706D8 := by
        simpa [BattleGroup.retainedPcs] using known
      rcases here with here | here <;>
        rw [here, if_neg (by decide), if_neg (by decide),
          if_neg (by decide : ¬(_ : UInt32) = 0x80071740)] <;>
        exact refreshIndirect_iff .rewards rfl turnSeen

theorem exists_of_refresh (ended : service.refreshFromRetainedCurrentPoint registry memory event =
      .ok refreshed) :
    ∃ group, event.evidence.hitPc ∈ BattleGroup.retainedPcs group ∧
      RefreshedAt registry service memory event group refreshed := by
  have known : ∃ group,
      event.evidence.hitPc ∈ BattleGroup.retainedPcs group := by
    by_contra unknown
    push Not at unknown
    have entry := unknown .turnEntry
    have order := unknown .turnOrder
    have rewards := unknown .rewards
    simp only [BattleGroup.retainedPcs, List.mem_cons, List.not_mem_nil,
      or_false, not_or] at entry order rewards
    unfold refreshFromRetainedCurrentPoint at ended
    dsimp only at ended
    rw [if_neg order] at ended
    split at ended
    · cases ended
    · rw [if_pos (by simp [entry, rewards.1, rewards.2])] at ended
      cases ended
  obtain ⟨group, known⟩ := known
  exact ⟨group, known, (refresh_eq_ok_iff known).mp ended⟩

end DerivedStateService

end Retained

/-!
## Runs of the derived-state service

The CPU thread observes hits, the router delivers or drops the packets of hits,
and the session activates items, closes them and asks for snapshots, in any
order.
-/

inductive DerivedInput
  | bindRouter (routerEpoch epoch : WorksetEpoch)
  | activate
      (binding : WorksetDerivedStateBindingV1)
      (epoch : WorksetEpoch)
      (itemId : WorkerWorksetItemId)
      (answers : ActivationAnswers)
  | close (answers : CloseAnswers)
  | observe (descriptorId : UInt32) (hit : Hit)
  | deliver (event : RoutedStopEvent) (memory : PausedMemory)
  | discard (routedStop : RoutedStopIdentity)
  | query (group : BattleGroup) (query : DerivedStateQueryV1)

inductive DerivedEvent
  | receipt (receipt : DerivedStateReceipt)
  | observed (result : StopCpuObservationResult)
  | delivered (thrown : Option ByteString)
  | discarded
  | answered
      (group : BattleGroup)
      (receipt : DerivedStateReceipt)
      (snapshot : Option (BattleSnapshot group.Value))

section Steps

variable (sha256 : ByteString → ByteString) (registry : DerivedStateRegistry)

/-- Serve an input.  The router does not call the service for a packet that it
drops. -/
def serve (input : DerivedInput) (service : DerivedStateService) :
    DerivedEvent × DerivedStateService :=
  match input with
  | .bindRouter routerEpoch epoch => (service.bindRouter routerEpoch epoch).map .receipt id
  | .activate binding epoch itemId answers =>
    (service.activateItem sha256 registry binding epoch itemId answers).map .receipt id
  | .close answers => (service.closeItem answers).map .receipt id
  | .observe descriptorId hit =>
    (service.observeRoutedHit descriptorId hit.memory hit.event).map .observed id
  | .deliver event memory => (service.onStopPoint registry memory event).map .delivered id
  | .discard _ => (.discarded, service)
  | .query group query =>
    let answer := service.query (service.group group) query
    (.answered group answer.1 answer.2, service)

/-- Every input is served. -/
def step (input : DerivedInput) (service : DerivedStateService) :
    Option (DerivedEvent × DerivedStateService) :=
  some (serve sha256 registry input service)

/-- A recorded step. -/
abbrev DerivedTransition := Transition DerivedStateService DerivedInput DerivedEvent

/-- Runs of a new service. -/
abbrev DerivedRun (history : List DerivedTransition) (service : DerivedStateService) : Prop :=
  Run (step sha256 registry) (fun _ _ => True) {} history service

end Steps

/-! ## What has happened in an item -/

/-- The hits that the service was shown in the item, the retained point of its
activation, and the events whose packets were dropped. -/
structure ItemLedger where
  hits : List Hit := []
  retained : Option (RoutedStopEvent × PausedMemory) := none
  discarded : List RoutedStopIdentity := []

/-- An event and what was seen of the guest at it. -/
structure Capture where
  event : RoutedStopEvent
  view : GuestView

namespace ItemLedger

/-- What was seen of the guest at the events of an item. -/
def captures (ledger : ItemLedger) (epoch : WorksetEpoch) : List Capture :=
  (ledger.hits.map fun hit => ⟨hit.event, hit.memory.view⟩) ++
    (ledger.retained.map fun retained => ⟨retained.1, retained.2.view epoch⟩).toList

/-- The ledger of an item that was activated with these answers. -/
def ofAnswers (answers : ActivationAnswers) : ItemLedger where
  hits := answers.hits
  retained := answers.currentPoint.map fun event => (event, answers.memory)

/-- The ledger after another step: a new item starts an empty one.  A delivery
that the service refuses as stale is a dropped one. -/
def record (ledger : ItemLedger) (transition : DerivedTransition) : ItemLedger :=
  if transition.after.active = false then {}
  else
    match transition.input with
    | .activate _ _ _ answers => if transition.before.active then ledger else ofAnswers answers
    | .observe _ hit => { ledger with hits := ledger.hits ++ [hit] }
    | .discard routedStop => { ledger with discarded := ledger.discarded ++ [routedStop] }
    | .deliver event _ =>
      if event.identity.worksetEpoch = transition.before.epoch then ledger
      else { ledger with discarded := ledger.discarded ++ [event.identity] }
    | _ => ledger

/-- The ledger at the end of a history. -/
def ofHistory (history : List DerivedTransition) : ItemLedger := history.foldl record {}

@[simp] theorem ofHistory_snoc (history : List DerivedTransition) (transition : DerivedTransition) :
    ofHistory (history ++ [transition]) = (ofHistory history).record transition := by
  simp [ofHistory]

end ItemLedger

/-!
## The invariant of the derived-state service

The evidence in the queue is what the plan of the item made of hits of the item,
and every snapshot is what its group showed at an event of the item.
-/

section Invariant

/-- What holds of a snapshot of a group in an item. -/
structure Genuine (ledger : ItemLedger) (service : DerivedStateService)
    (group : BattleGroup) (snapshot : BattleSnapshot group.Value) : Prop where
  active : service.active = true
  battleCoreActive : service.battleCoreActive = true
  worksetEpoch : snapshot.provenance.worksetEpoch = service.epoch
  itemId : snapshot.provenance.itemId = service.itemId
  block : snapshot.provenance.block = service.battleCoreIdentity
  groupId : battleEvidenceKindFor snapshot.provenance.groupId = group.kind
  captured : ∃ capture ∈ ledger.captures service.epoch,
    capture.event.identity = snapshot.provenance.routedStop ∧
      capture.event.evidence.hitPc = snapshot.provenance.triggerPc ∧
      capture.event.identity.worksetEpoch = service.epoch ∧
      group.derive capture.view = some (snapshot.currentTurn, snapshot.value)

/-- The generation of a group is that of its snapshot, or zero. -/
def Numbered {Value : Type} (refreshed : RefreshedGroup Value) : Prop :=
  match refreshed.snapshot with
  | none => refreshed.generation = 0
  | some snapshot =>
    0 < refreshed.generation ∧ snapshot.provenance.generation = refreshed.generation

/-- The plan of the item. -/
structure Planned (service : DerivedStateService) (plan : CpuItemPlan) : Prop where
  active : service.active = true
  battleCoreActive : service.battleCoreActive = true
  epoch : plan.epoch = service.epoch
  itemId : plan.itemId = service.itemId
  kinds : ∀ entry ∈ plan.entries,
    entry.kind = battleEvidenceKindFor entry.group.groupId ∧ entry.kind ≠ .none

/-- The invariant, with what has happened in the item. -/
structure Valid (ledger : ItemLedger) (service : DerivedStateService) : Prop where
  idle : service.active = false → service.battleCoreActive = false
  plan : ∀ plan, service.cpu.activePlan = some plan → Planned service plan
  queue : ∀ record ∈ service.cpu.queue, ∃ plan,
    service.cpu.activePlan = some plan ∧
      ∃ hit ∈ ledger.hits, record = plan.evidenceOf hit.memory hit.event
  numbered : ∀ group, Numbered (service.group group)
  genuine : ∀ group snapshot, (service.group group).snapshot = some snapshot →
    Genuine ledger service group snapshot

/-! ## Changes that the invariant does not see -/

/-- Two services agree on everything but the handles and the flags of their
registrations. -/
structure SameItem (left right : DerivedStateService) : Prop where
  active : left.active = right.active
  battleCoreActive : left.battleCoreActive = right.battleCoreActive
  epoch : left.epoch = right.epoch
  itemId : left.itemId = right.itemId
  battleCoreIdentity : left.battleCoreIdentity = right.battleCoreIdentity

variable {after service : DerivedStateService} {ledger : ItemLedger}

theorem Genuine.transfer {other : ItemLedger} {group : BattleGroup}
    {snapshot : BattleSnapshot group.Value} (genuine : Genuine ledger service group snapshot)
    (same : SameItem after service) (kept : ∀ epoch, ledger.captures epoch ⊆ other.captures epoch) :
    Genuine other after group snapshot where
  active := same.active.trans genuine.active
  battleCoreActive := same.battleCoreActive.trans genuine.battleCoreActive
  worksetEpoch := genuine.worksetEpoch.trans same.epoch.symm
  itemId := genuine.itemId.trans same.itemId.symm
  block := genuine.block.trans same.battleCoreIdentity.symm
  groupId := genuine.groupId
  captured := by
    obtain ⟨capture, member, rest⟩ := genuine.captured
    rw [same.epoch]
    exact ⟨capture, kept _ member, rest⟩

theorem Planned.transfer {plan : CpuItemPlan} (planned : Planned service plan)
    (same : SameItem after service) : Planned after plan where
  active := same.active.trans planned.active
  battleCoreActive := same.battleCoreActive.trans planned.battleCoreActive
  epoch := planned.epoch.trans same.epoch.symm
  itemId := planned.itemId.trans same.itemId.symm
  kinds := planned.kinds

theorem Valid.transfer {other : ItemLedger} (valid : Valid ledger service)
    (same : SameItem after service) (plan : after.cpu.activePlan = service.cpu.activePlan)
    (queue : after.cpu.queue ⊆ service.cpu.queue)
    (groups : ∀ group, after.group group = service.group group) (hits : ledger.hits ⊆ other.hits)
    (kept : ∀ epoch, ledger.captures epoch ⊆ other.captures epoch) : Valid other after where
  idle inactive := by
    rw [same.battleCoreActive]
    exact valid.idle (same.active.symm.trans inactive)
  plan found active := by
    rw [plan] at active
    exact (valid.plan found active).transfer same
  queue record member := by
    obtain ⟨found, active, hit, shown, made⟩ := valid.queue record (queue member)
    exact ⟨found, plan.trans active, hit, hits shown, made⟩
  numbered group := by
    rw [groups group]
    exact valid.numbered group
  genuine group snapshot found := by
    rw [groups group] at found
    exact (valid.genuine group snapshot found).transfer same kept

/-- Nothing is queued or published. -/
structure Blank (service : DerivedStateService) : Prop where
  idle : service.active = false → service.battleCoreActive = false
  plan : service.cpu.activePlan = none
  queue : service.cpu.queue = []
  groups : ∀ group, service.group group = {}

theorem Blank.valid (blank : Blank service) (ledger : ItemLedger) : Valid ledger service where
  idle := blank.idle
  plan plan active := by
    rw [blank.plan] at active
    cases active
  queue record member := by
    rw [blank.queue] at member
    exact absurd member List.not_mem_nil
  numbered group := by
    rw [blank.groups group]
    rfl
  genuine group snapshot found := by
    rw [blank.groups group] at found
    cases found

/-- Between items nothing is queued or published. -/
theorem Valid.blank (valid : Valid ledger service) (idle : service.active = false) :
    Blank service := by
  have planless : service.cpu.activePlan = none := by
    cases active : service.cpu.activePlan with
    | none => rfl
    | some plan => exact absurd ((valid.plan plan active).active.symm.trans idle) Bool.noConfusion
  constructor
  case idle => exact valid.idle
  case plan => exact planless
  case queue =>
    apply List.eq_nil_iff_forall_not_mem.mpr
    intro record member
    obtain ⟨plan, active, -⟩ := valid.queue record member
    rw [planless] at active
    cases active
  case groups =>
    intro group
    have numbered := valid.numbered group
    have genuine := valid.genuine group
    revert numbered genuine
    generalize service.group group = refreshed
    intro numbered genuine
    obtain ⟨generation, snapshot⟩ := refreshed
    cases snapshot with
    | none =>
      obtain rfl : generation = 0 := numbered
      rfl
    | some snapshot => exact absurd ((genuine snapshot rfl).active.symm.trans idle) Bool.noConfusion

theorem blank_clearItem (service : DerivedStateService) : Blank service.clearItem where
  idle _ := rfl
  plan := rfl
  queue := rfl
  groups group := by cases group <;> rfl

theorem closeItem_cases (service : DerivedStateService) (answers : CloseAnswers) :
    ∃ initialization native, (service.closeItem answers).2 =
          { service with
            initializationSubscriptions := initialization
            nativeSubscriptions := native } ∨
        (service.closeItem answers).2 =
          { service with
            initializationSubscriptions := initialization
            nativeSubscriptions := native }.clearItem := by
  have initialized : ∀ service : DerivedStateService, ∃ initialization,
      (service.closeInitialization answers).2 =
          { service with initializationSubscriptions := initialization } ∨
        (service.closeInitialization answers).2 =
          { service with
            initializationSubscriptions := initialization }.clearItem := by
    intro service
    unfold closeInitialization
    split
    · split
      · exact ⟨_, Or.inl rfl⟩
      · exact ⟨_, Or.inr rfl⟩
    · exact ⟨_, Or.inr rfl⟩
  unfold closeItem
  split
  · split
    · exact ⟨_, _, Or.inl rfl⟩
    obtain ⟨initialization, kept | cleared⟩ :=
      initialized { service with nativeSubscriptions := false }
    · exact ⟨initialization, false, Or.inl kept⟩
    · exact ⟨initialization, false, Or.inr cleared⟩
  obtain ⟨initialization, kept | cleared⟩ := initialized service
  · exact ⟨initialization, _, Or.inl kept⟩
  · exact ⟨initialization, _, Or.inr cleared⟩

theorem Valid.flags (valid : Valid ledger service) (initialization native accepting : Bool) :
    Valid ledger
      { service with
        initializationSubscriptions := initialization
        nativeSubscriptions := native
        acceptingCurrentPoint := accepting } :=
  valid.transfer ⟨rfl, rfl, rfl, rfl, rfl⟩ rfl (List.Subset.refl _)
    (fun group => by cases group <;> rfl) (List.Subset.refl _)
    fun _ => List.Subset.refl _

theorem Valid.closeItem (valid : Valid ledger service) (answers : CloseAnswers) :
    Valid ledger (service.closeItem answers).2 := by
  obtain ⟨initialization, native, same | same⟩ := closeItem_cases service answers
  · rw [same]
    exact valid.flags initialization native service.acceptingCurrentPoint
  · rw [same]
    exact (blank_clearItem _).valid ledger

/-! ## Observing hits -/

theorem observeRoutedHit_cases (service : DerivedStateService)
    (descriptorId : UInt32) (memory : HitTimeMemory) (event : RoutedStopEvent) : ∃ added overflowed,
      (service.observeRoutedHit descriptorId memory event).2 =
        { service with
          cpu := { service.cpu with
            queue := service.cpu.queue ++ added
            overflowed } } ∧
      (added = [] ∨ ∃ plan, service.cpu.activePlan = some plan ∧
        added = [plan.evidenceOf memory event]) := by
  have unchanged : service = { service with
      cpu := { service.cpu with
        queue := service.cpu.queue ++ []
        overflowed := service.cpu.overflowed } } := by
    rw [List.append_nil]
  unfold observeRoutedHit
  split
  · exact ⟨[], _, unchanged, Or.inl rfl⟩
  unfold CpuState.observe
  dsimp only
  split
  · exact ⟨[], _, unchanged, Or.inl rfl⟩
  rename_i plan active
  split
  · refine ⟨[], true, ?_, Or.inl rfl⟩
    rw [List.append_nil]
  split
  · exact ⟨[], _, unchanged, Or.inl rfl⟩
  split
  · refine ⟨[], true, ?_, Or.inl rfl⟩
    rw [List.append_nil]
  · exact ⟨_, _, rfl, Or.inr ⟨plan, active, rfl⟩⟩

/-- The ledger after another hit was shown. -/
def ItemLedger.show (ledger : ItemLedger) (hits : List Hit) : ItemLedger :=
  { ledger with hits := ledger.hits ++ hits }

theorem ItemLedger.captures_show (ledger : ItemLedger) (hits : List Hit) (epoch : WorksetEpoch) :
    ledger.captures epoch ⊆ (ledger.show hits).captures epoch := by
  intro capture member
  unfold captures at member ⊢
  rcases List.mem_append.mp member with shown | retained
  · apply List.mem_append_left
    unfold ItemLedger.show
    rw [List.map_append]
    exact List.mem_append_left _ shown
  · exact List.mem_append_right _ retained

theorem Valid.observe (valid : Valid ledger service) (descriptorId : UInt32) (hit : Hit) :
    Valid (ledger.show [hit]) (service.observeRoutedHit descriptorId hit.memory hit.event).2 := by
  obtain ⟨added, overflowed, same, origin⟩ :=
    observeRoutedHit_cases service descriptorId hit.memory hit.event
  rw [same]
  have kept : Valid (ledger.show [hit]) service := valid.transfer
    ⟨rfl, rfl, rfl, rfl, rfl⟩ rfl (List.Subset.refl _) (fun _ => rfl)
    (List.subset_append_left _ _) (ledger.captures_show [hit])
  constructor
  case idle => exact kept.idle
  case plan =>
    intro plan active
    exact (kept.plan plan active).transfer ⟨rfl, rfl, rfl, rfl, rfl⟩
  case queue =>
    intro record member
    rcases List.mem_append.mp member with old | new
    · exact kept.queue record old
    rcases origin with rfl | ⟨plan, active, rfl⟩
    · exact absurd new List.not_mem_nil
    · rw [List.mem_singleton] at new
      exact ⟨plan, active, hit, by simp [ItemLedger.show], new⟩
  case numbered =>
    intro group
    cases group
    · exact kept.numbered .turnEntry
    · exact kept.numbered .turnOrder
    · exact kept.numbered .rewards
  case genuine =>
    intro group snapshot found
    have there : (service.group group).snapshot = some snapshot := by cases group <;> exact found
    exact (kept.genuine group snapshot there).transfer
      ⟨rfl, rfl, rfl, rfl, rfl⟩ fun _ => List.Subset.refl _

theorem Valid.observeHits (valid : Valid ledger service) (hits : List Hit) :
    Valid (ledger.show hits) (service.observeHits hits) := by
  induction hits generalizing ledger service with
  | nil =>
    refine valid.transfer ⟨rfl, rfl, rfl, rfl, rfl⟩ rfl (List.Subset.refl _)
      (fun _ => rfl) (List.subset_append_left _ _) (ledger.captures_show [])
  | cons hit hits ih =>
    have continued := ih (valid.observe derivedStateObserverId hit)
    have same : (ledger.show [hit]).show hits = ledger.show (hit :: hits) := by
      simp [ItemLedger.show]
    rw [same] at continued
    exact continued

end Invariant

end Savor.DerivedState

import Savor.DerivedState.DerivedStateService
import Savor.Library.Rounds

/-!
# What a snapshot is derived from

A view of the guest answers the bytes of a range, if the range can be read.  The
snapshot of a group is a function of a view: evidence that is captured at a hit
and parsed later holds what the function gives for the memory at the hit.
-/

namespace Savor.DerivedState

open Program (ByteString WorksetEpoch text decimal)
open HitTimeMemory
open StopPoints (RoutedStopEvent)
open Library

/-- The bytes of a range of the guest, if it can be read. -/
abbrev GuestView := UInt32 → Nat → Option ByteString

/-- What a hit sees of the guest. -/
def HitTimeMemory.view (memory : HitTimeMemory) : GuestView :=
  fun address size =>
    if (memory.receipt address size).ok then
      some (memory.destination address size)
    else none

/-- What a paused guest shows to the service in an epoch. -/
def PausedMemory.view (memory : PausedMemory) (epoch : WorksetEpoch) : GuestView :=
  fun address size =>
    let bytes := memory.readBytes address size epoch
    if bytes.result.ok && bytes.bytes.length = size then some bytes.bytes
    else none

/-- The address of a payload that the battle state holds. -/
def indirectAddress (view : GuestView) (offset : UInt32) : Option UInt32 :=
  match view mainInstancePtrAddress 4 with
  | none => none
  | some pointer =>
    if readBeU32 pointer = 0 ∨ readBeU32 pointer > 0xffffffff - offset then
      none
    else some (readBeU32 pointer + offset)

/-- A group that is refreshed by the battle provider. -/
inductive BattleGroup
  | turnEntry
  | turnOrder
  | rewards
  deriving DecidableEq

namespace BattleGroup

/-- What the snapshots of a group hold. -/
abbrev Value : BattleGroup → Type
  | turnEntry => List BattleItemTotalV1
  | turnOrder => List UInt8
  | rewards => List BattleItemTotalV1

def kind : BattleGroup → BattleEvidenceKind
  | turnEntry => .turnEntry
  | turnOrder => .turnOrder
  | rewards => .rewards

/-- How the payload of a group is parsed. -/
def parse : (group : BattleGroup) → ByteString → Except ByteString group.Value
  | turnEntry => parseInventory
  | turnOrder => parseTurnOrder
  | rewards => parseRewards

/-- The offset of the payload in the battle state, if it is there. -/
def offset : BattleGroup → Option UInt32
  | turnEntry => some useableItemsOffset
  | turnOrder => none
  | rewards => some itemDropsOffset

/-- The address of the payload of a group. -/
def payloadAddress (group : BattleGroup) (view : GuestView) : Option UInt32 :=
  match group.offset with
  | none => some turnOrderTableAddress
  | some offset => indirectAddress view offset

/-- The bytes of the current turn and of the payload of a group. -/
def payload (group : BattleGroup) (view : GuestView) : Option (UInt8 × ByteString) :=
  (view currentTurnAddress 1).bind fun turn =>
    (group.payloadAddress view).bind fun address =>
      (view address group.kind.payloadSize).map fun bytes => (byteAt turn 0, bytes)

/-- What a group shows of the guest: the current turn and its value. -/
def derive (group : BattleGroup) (view : GuestView) : Option (UInt32 × group.Value) :=
  match group.payload view with
  | none => none
  | some (turn, bytes) =>
    match group.parse bytes with
    | .error _ => none
    | .ok value => some (turn.toUInt32, value)

theorem kind_injective {left right : BattleGroup}
    (same : left.kind = right.kind) : left = right := by
  cases left <;> cases right <;> first | rfl | cases same

theorem exists_of_kind {kind : BattleEvidenceKind} (known : kind ≠ .none) :
    ∃ group : BattleGroup, kind = group.kind := by
  cases kind with
  | none => exact absurd rfl known
  | turnEntry => exact ⟨turnEntry, rfl⟩
  | turnOrder => exact ⟨turnOrder, rfl⟩
  | rewards => exact ⟨rewards, rfl⟩

theorem derive_eq_some_iff {group : BattleGroup} {view : GuestView}
    {turn : UInt32} {value : group.Value} : group.derive view = some (turn, value) ↔
      ∃ byte bytes, group.payload view = some (byte, bytes) ∧
        group.parse bytes = .ok value ∧ byte.toUInt32 = turn := by
  unfold derive
  constructor
  · intro derived
    split at derived
    · cases derived
    rename_i byte bytes read
    split at derived
    · cases derived
    rename_i parsed
    cases derived
    exact ⟨byte, bytes, read, parsed, rfl⟩
  · rintro ⟨byte, bytes, read, parsed, rfl⟩
    rw [read]
    dsimp only
    rw [parsed]

end BattleGroup

/-! ## Captured evidence -/

namespace BattleGroupEvidenceRecord

/-- The evidence has the turn and the payload that were read. -/
def Holds (record : BattleGroupEvidenceRecord) (read : Option (UInt8 × ByteString)) : Prop :=
  match read with
  | none => record.failure ≠ .none
  | some (turn, bytes) =>
    record.failure = .none ∧ record.currentTurn = turn ∧ record.payload = bytes

variable {record : BattleGroupEvidenceRecord}

theorem readPayload_of_failed (failed : record.failure ≠ .none) (memory : HitTimeMemory)
    (address : UInt32) : record.readPayload memory address = record :=
  if_pos failed

theorem readIndirectPayload_of_failed (failed : record.failure ≠ .none) (memory : HitTimeMemory)
    (offset : UInt32) : record.readIndirectPayload memory offset = record := by
  simp [readIndirectPayload, readMainPointer, afterRead, failed]

theorem holds_readPayload (clean : record.failure = .none) (memory : HitTimeMemory)
    (address : UInt32) : (record.readPayload memory address).Holds
      ((memory.view address record.payloadSize).map fun bytes =>
        (record.currentTurn, bytes)) := by
  cases readable : (memory.receipt address record.payloadSize).ok <;>
    simp [Holds, readPayload, afterRead, clean, view, readable]

theorem holds_readIndirectPayload (clean : record.failure = .none) (memory : HitTimeMemory)
    (offset : UInt32) : (record.readIndirectPayload memory offset).Holds
      ((indirectAddress memory.view offset).bind fun address =>
        (memory.view address record.payloadSize).map fun bytes => (record.currentTurn, bytes)) := by
  cases readable : (memory.receipt mainInstancePtrAddress 4).ok with
  | false =>
    simp [Holds, indirectAddress, readIndirectPayload, readMainPointer,
      afterRead, clean, view, readable]
  | true =>
    have seen : memory.view mainInstancePtrAddress 4 =
        some (memory.destination mainInstancePtrAddress 4) := by
      simp [view, readable]
    unfold indirectAddress
    rw [seen]
    dsimp only
    generalize pointerValue : readBeU32 (memory.destination mainInstancePtrAddress 4) = pointer
    by_cases null : pointer = 0
    · simp [Holds, readIndirectPayload, readMainPointer, afterRead, clean,
        readable, pointerValue, null]
    have pointed : record.readMainPointer memory =
        { record with mainPointer := pointer, failure := .none } := by
      simp [readMainPointer, afterRead, clean, readable, pointerValue, null]
    unfold readIndirectPayload
    rw [pointed]
    dsimp only
    rw [if_neg (not_not_intro rfl)]
    by_cases overflows : pointer > 0xffffffff - offset
    · rw [if_pos overflows, if_pos (Or.inr overflows)]
      simp [Holds]
    · rw [if_neg overflows, if_neg (not_or.mpr ⟨null, overflows⟩)]
      exact holds_readPayload rfl memory (pointer + offset)

end BattleGroupEvidenceRecord

namespace BattleGroupEvidenceRecord

/-- Two records are about the same group of the same block. -/
structure SameGroup (left right : BattleGroupEvidenceRecord) : Prop where
  block : left.block = right.block
  group : left.group = right.group
  kind : left.kind = right.kind

theorem SameGroup.trans {first second third : BattleGroupEvidenceRecord}
    (left : first.SameGroup second) (right : second.SameGroup third) : first.SameGroup third where
  block := left.block.trans right.block
  group := left.group.trans right.group
  kind := left.kind.trans right.kind

section

variable (record : BattleGroupEvidenceRecord) (memory : HitTimeMemory)
include record memory

theorem sameGroup_afterRead (address : UInt32) (size : Nat) (failure : BattleEvidenceFailure) :
    (record.afterRead memory address size failure).SameGroup record := by
  unfold afterRead
  dsimp only
  split <;> exact ⟨rfl, rfl, rfl⟩

theorem sameGroup_readPayload (address : UInt32) :
    (record.readPayload memory address).SameGroup record := by
  unfold readPayload
  split
  · exact ⟨rfl, rfl, rfl⟩
  have same := record.sameGroup_afterRead memory address record.payloadSize .payloadRead
  exact ⟨same.block, same.group, same.kind⟩

theorem sameGroup_readMainPointer : (record.readMainPointer memory).SameGroup record := by
  have same := record.sameGroup_afterRead memory mainInstancePtrAddress 4 .mainPointerRead
  unfold readMainPointer
  dsimp only
  split
  · exact same
  · exact ⟨same.block, same.group, same.kind⟩

theorem sameGroup_readIndirectPayload (offset : UInt32) :
    (record.readIndirectPayload memory offset).SameGroup record := by
  have same := record.sameGroup_readMainPointer memory
  unfold readIndirectPayload
  dsimp only
  split
  · exact same
  split
  · exact ⟨same.block, same.group, same.kind⟩
  · exact (sameGroup_readPayload _ _ _).trans same

end

end BattleGroupEvidenceRecord

namespace CpuRefreshPlanEntry

open BattleGroupEvidenceRecord

/-- The record of a group before anything is read. -/
def blankRecord (entry : CpuRefreshPlanEntry) : BattleGroupEvidenceRecord where
  block := entry.block
  group := entry.group
  kind := entry.kind
  payloadSize := entry.kind.payloadSize

/-- The record of a group after the current turn is read. -/
def turnRecord (entry : CpuRefreshPlanEntry) (memory : HitTimeMemory) : BattleGroupEvidenceRecord :=
  { entry.blankRecord.afterRead memory currentTurnAddress 1
      .currentTurnRead with
    currentTurn := byteAt (memory.destination currentTurnAddress 1) 0 }

theorem sameGroup_turnRecord (entry : CpuRefreshPlanEntry) (memory : HitTimeMemory) :
    (entry.turnRecord memory).SameGroup entry.blankRecord := by
  have same := entry.blankRecord.sameGroup_afterRead memory currentTurnAddress 1 .currentTurnRead
  exact ⟨same.block, same.group, same.kind⟩

variable {group : BattleGroup} {entry : CpuRefreshPlanEntry}

section

variable (known : entry.kind = group.kind) (memory : HitTimeMemory)
include known memory

theorem captureGroup_eq : entry.captureGroup memory =
      match group.offset with
      | none => (entry.turnRecord memory).readPayload memory turnOrderTableAddress
      | some offset => (entry.turnRecord memory).readIndirectPayload memory offset := by
  cases group <;> simp only [captureGroup, known, BattleGroup.kind] <;>
    simp only [BattleGroup.offset, turnRecord, blankRecord, known, BattleGroup.kind]

/-- Capturing a group keeps what the plan says about it. -/
theorem sameGroup_captureGroup : (entry.captureGroup memory).SameGroup entry.blankRecord := by
  have turned := entry.sameGroup_turnRecord memory
  rw [captureGroup_eq known]
  split
  · exact (sameGroup_readPayload _ _ _).trans turned
  · exact (sameGroup_readIndirectPayload _ _ _).trans turned

theorem holds_captureGroup : (entry.captureGroup memory).Holds (group.payload memory.view) := by
  rw [captureGroup_eq known]
  have size : (entry.turnRecord memory).payloadSize =
      group.kind.payloadSize := by
    unfold turnRecord afterRead
    dsimp only
    split <;> simp only [blankRecord, known]
  cases readable : (memory.receipt currentTurnAddress 1).ok with
  | false =>
    have unseen : memory.view currentTurnAddress 1 = none := by simp [view, readable]
    have failed : (entry.turnRecord memory).failure ≠ .none := by
      simp [turnRecord, afterRead, blankRecord, readable]
    unfold BattleGroup.payload
    rw [unseen]
    split
    · rw [readPayload_of_failed failed]
      exact failed
    · rw [readIndirectPayload_of_failed failed]
      exact failed
  | true =>
    have seen : memory.view currentTurnAddress 1 =
        some (memory.destination currentTurnAddress 1) := by
      simp [view, readable]
    have clean : (entry.turnRecord memory).failure = .none := by
      simp [turnRecord, afterRead, blankRecord, readable]
    unfold BattleGroup.payload BattleGroup.payloadAddress
    rw [seen, ← size]
    split
    · rename_i direct
      exact holds_readPayload clean memory turnOrderTableAddress
    · rename_i offset indirect
      exact holds_readIndirectPayload clean memory offset

end

end CpuRefreshPlanEntry

/-!
## What a commit publishes

A commit either changes no group, or it replaces each group that the evidence of
the event names once, and no other one.
-/

namespace DerivedStateService

/-- The generation and the snapshot of a group. -/
def group (service : DerivedStateService) : (group : BattleGroup) → RefreshedGroup group.Value
  | .turnEntry => service.turnEntry
  | .turnOrder => service.turnOrder
  | .rewards => service.rewards

namespace Replacements

variable (replacements : Replacements)

/-- The replacement of a group. -/
def of : (group : BattleGroup) → Option (BattleSnapshot group.Value)
  | .turnEntry => replacements.turnEntry
  | .turnOrder => replacements.turnOrder
  | .rewards => replacements.rewards

/-- Set the replacement of a group. -/
def set : (group : BattleGroup) → BattleSnapshot group.Value → Replacements
  | .turnEntry, snapshot => { replacements with turnEntry := some snapshot }
  | .turnOrder, snapshot => { replacements with turnOrder := some snapshot }
  | .rewards, snapshot => { replacements with rewards := some snapshot }

@[simp] theorem of_empty (group : BattleGroup) : ({} : Replacements).of group = none := by
  cases group <;> rfl

@[simp] theorem of_set (group : BattleGroup) (snapshot : BattleSnapshot group.Value) :
    (replacements.set group snapshot).of group = some snapshot := by
  cases group <;> rfl

theorem of_set_of_ne {group other : BattleGroup} (different : other ≠ group)
    (snapshot : BattleSnapshot group.Value) :
    (replacements.set group snapshot).of other = replacements.of other := by
  cases group <;> cases other <;> first | rfl | exact absurd rfl different

end Replacements

theorem group_publish (service : DerivedStateService)
    (replacements : Replacements) (group : BattleGroup) :
    (service.publish replacements).group group =
      (service.group group).publish (replacements.of group) := by
  cases group <;> rfl

/-- The snapshot of a group that is published next. -/
def nextSnapshot (service : DerivedStateService) (event : RoutedStopEvent)
    (descriptor : DerivedStateRefreshGroupDescriptor) (group : BattleGroup)
    (turn : UInt32) (value : group.Value) : BattleSnapshot group.Value where
  provenance := service.makeProvenance descriptor ((service.group group).generation + 1) event
  currentTurn := turn
  value

/-- The text when a group is refreshed twice. -/
def twice : BattleGroup → String
  | .turnEntry => "Battle turn-entry refreshed twice in one routed event"
  | .turnOrder => "Battle turn-order refreshed twice in one routed event"
  | .rewards => "Battle rewards refreshed twice in one routed event"

variable {registry : DerivedStateRegistry} {service : DerivedStateService}
variable {event : RoutedStopEvent}
variable {evidence : BattleGroupEvidenceRecord} {pending : Replacements}
variable {triggerPc : UInt32}

theorem replaceGroup_eq {group : BattleGroup}
    (names : namesGroup registry triggerPc evidence = true)
    (clean : evidence.failure = .none) (known : evidence.kind = group.kind) :
    service.replaceGroup registry event triggerPc pending evidence =
      if (pending.of group).isSome then .error (text (twice group))
      else
        (group.parse evidence.payload).map fun value =>
          pending.set group (service.nextSnapshot event evidence.group group
              evidence.currentTurn.toUInt32 value) := by
  obtain ⟨turnEntry, turnOrder, rewards⟩ := pending
  unfold replaceGroup
  rw [names, clean, known]
  cases group with
  | turnEntry =>
    cases turnEntry with
    | some pending => rfl
    | none =>
      cases parsed : parseInventory evidence.payload <;>
        simp [BattleGroup.kind, BattleGroup.parse, replacement, parsed, Replacements.of, Except.map]
      rfl
  | turnOrder =>
    cases turnOrder with
    | some pending => rfl
    | none =>
      cases parsed : parseTurnOrder evidence.payload <;>
        simp [BattleGroup.kind, BattleGroup.parse, replacement, parsed, Replacements.of, Except.map]
      rfl
  | rewards =>
    cases rewards with
    | some pending => rfl
    | none =>
      cases parsed : parseRewards evidence.payload <;>
        simp [BattleGroup.kind, BattleGroup.parse, replacement, parsed, Replacements.of, Except.map]
      rfl

/-- What a round of the loop that does not throw has done. -/
theorem replaceGroup_ok {next : Replacements}
    (replaced : service.replaceGroup registry event triggerPc pending evidence = .ok next) :
    namesGroup registry triggerPc evidence = true ∧ evidence.failure = .none ∧
      ∃ group value, evidence.kind = BattleGroup.kind group ∧
        pending.of group = none ∧ group.parse evidence.payload = .ok value ∧
        next = pending.set group (service.nextSnapshot event evidence.group group
            evidence.currentTurn.toUInt32 value) := by
  have names : namesGroup registry triggerPc evidence = true := by
    by_contra unnamed
    rw [Bool.not_eq_true] at unnamed
    simp [replaceGroup, unnamed] at replaced
  have clean : evidence.failure = .none := by
    by_contra failed
    simp [replaceGroup, names, failed] at replaced
  have known : evidence.kind ≠ .none := by
    intro unknown
    simp [replaceGroup, names, clean, unknown] at replaced
  obtain ⟨group, kind⟩ := BattleGroup.exists_of_kind known
  rw [replaceGroup_eq names clean kind] at replaced
  refine ⟨names, clean, group, ?_⟩
  split at replaced
  · cases replaced
  rename_i fresh
  obtain ⟨value, parsed, same⟩ := exists_of_bind_ok replaced
  refine ⟨value, kind, ?_, parsed, ?_⟩
  · simpa using fresh
  · cases same
    rfl

/-- The replacements that a loop has prepared after some evidence. -/
structure Prepared (registry : DerivedStateRegistry)
    (service : DerivedStateService) (event : RoutedStopEvent)
    (triggerPc : UInt32) (done : List BattleGroupEvidenceRecord)
    (pending : Replacements) : Prop where
  named : ∀ evidence ∈ done, ∃ group, evidence.kind = BattleGroup.kind group ∧
    (pending.of group).isSome
  origin : ∀ group snapshot, pending.of group = some snapshot →
    ∃ evidence ∈ done, evidence.kind = group.kind ∧
      evidence.failure = .none ∧ namesGroup registry triggerPc evidence = true ∧
      ∃ value, group.parse evidence.payload = .ok value ∧
        snapshot = service.nextSnapshot event evidence.group group
          evidence.currentTurn.toUInt32 value

theorem Prepared.nil (triggerPc : UInt32) : Prepared registry service event triggerPc [] {} where
  named _ member := absurd member List.not_mem_nil
  origin group snapshot found := by
    rw [Replacements.of_empty] at found
    cases found

theorem Prepared.snoc {done : List BattleGroupEvidenceRecord} {next : Replacements}
    (prepared : Prepared registry service event triggerPc done pending)
    (replaced : service.replaceGroup registry event triggerPc pending evidence = .ok next) :
    Prepared registry service event triggerPc (done ++ [evidence]) next := by
  obtain ⟨names, clean, group, value, kind, fresh, parsed, rfl⟩ := replaceGroup_ok replaced
  constructor
  case named =>
    intro other member
    rcases List.mem_append.mp member with old | new
    · obtain ⟨earlier, same, replacedEarlier⟩ := prepared.named other old
      refine ⟨earlier, same, ?_⟩
      rw [Replacements.of_set_of_ne]
      · exact replacedEarlier
      rintro rfl
      rw [fresh] at replacedEarlier
      cases replacedEarlier
    rw [List.mem_singleton] at new
    subst new
    exact ⟨group, kind, by rw [Replacements.of_set]; rfl⟩
  case origin =>
    intro other snapshot found
    by_cases same : other = group
    · subst same
      rw [Replacements.of_set, Option.some.injEq] at found
      exact ⟨evidence, by simp, kind, clean, names, value, parsed, found.symm⟩
    rw [Replacements.of_set_of_ne _ same] at found
    obtain ⟨earlier, inside, rest⟩ := prepared.origin other snapshot found
    exact ⟨earlier, List.mem_append_left _ inside, rest⟩

/-- What the record of an event has to agree with. -/
structure RecordMatches (event : RoutedStopEvent) (record : DerivedEventEvidenceRecord) :
    Prop where
  routedStop : record.routedStop = event.identity
  triggerPc : record.triggerPc = event.evidence.hitPc

theorem deriveRecord_ok {record : DerivedEventEvidenceRecord} {replacements : Replacements}
    (derived : service.deriveRecord registry event record = .ok replacements) :
    RecordMatches event record ∧
      Prepared registry service event record.triggerPc record.groups replacements := by
  unfold deriveRecord at derived
  split at derived
  · cases derived
  rename_i matching
  split at derived
  · cases derived
  simp only [ne_eq, Bool.or_eq_true, decide_eq_true_eq, not_or, not_not] at matching
  obtain ⟨⟨⟨routedStop, -⟩, -⟩, triggerPc⟩ := matching
  refine ⟨⟨routedStop, triggerPc⟩, ?_⟩
  exact foldlM_induction
    (Prepared registry service event record.triggerPc)
    (fun done item _ state next prepared replaced => prepared.snoc replaced)
    (Prepared.nil _) derived

theorem commitNativeEvidence_cases (registry : DerivedStateRegistry)
    (service : DerivedStateService) (event : RoutedStopEvent) :
    (service.cpu.queue = [] ∧ ∃ thrown overflowed,
      service.commitNativeEvidence registry event = (some thrown,
        { service with cpu := { service.cpu with overflowed } })) ∨
    ∃ record rest, service.cpu.queue = record :: rest ∧
      ((∃ thrown, service.commitNativeEvidence registry event = (some thrown,
          { service with cpu := { service.cpu with queue := rest } })) ∨ ∃ replacements,
          service.deriveRecord registry event record = .ok replacements ∧
          service.commitNativeEvidence registry event = (none,
            { service with
              cpu := { service.cpu with queue := rest } }.publish replacements)) := by
  unfold commitNativeEvidence
  split
  · rename_i empty
    refine Or.inl ⟨empty, ?_⟩
    split
    · exact ⟨_, _, rfl⟩
    · exact ⟨_, service.cpu.overflowed, rfl⟩
  rename_i record rest queued
  refine Or.inr ⟨record, rest, queued, ?_⟩
  dsimp only
  split
  · exact Or.inl ⟨_, rfl⟩
  · rename_i replacements derived
    exact Or.inr ⟨replacements, derived, rfl⟩

end DerivedStateService
end Savor.DerivedState


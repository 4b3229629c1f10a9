import Savor.Capture.SegmentRecords
import Savor.Probe.HitSamples

/-!
# Hits stay readable

The event of a hit has a field for every sample, one after the other, and the
reader of a capture takes it exactly when every sample is allowed.
-/

namespace Savor.Probe

open Capture (Event Field RoundTrips encodeEvents decodeEvents vectorBound)
open Program (ByteString text)
open SampleDefinition

/-! ## Profiles that are accepted -/

/-- How many fields a sample may take. -/
def SampleDefinition.fieldBound (sample : SampleDefinition) : Nat :=
  if sample.trace = .off then 1 else 2

/-- What the parser of a profile checks of a probe. -/
structure ProbeDefinition.Accepted (probe : ProbeDefinition) : Prop where
  samples : ∀ sample ∈ probe.samples, sample.Accepted
  capacity : (probe.samples.map fieldBound).sum ≤ maximumRawFields

/-- What the parser of a profile and the runtime check of a profile. -/
structure Profile.Accepted (profile : Profile) : Prop where
  count : profile.probes.length ≤ 4096
  probes : ∀ probe ∈ profile.probes, probe.Accepted

/-! ## The loop over the samples -/

variable {guest : Guest} {sample : SampleDefinition}
variable {fieldCount index : Nat} {payload : ByteString}

theorem AddressTracePolicy.asks_off (trace : RawAddressTrace) :
    AddressTracePolicy.off.asks trace = false := by
  simp [asks]

theorem sampleListAt_trace (root : UInt32) (sampled : Sampled) :
    (sampleListAt guest sample root sampled).trace = sampled.trace := by
  unfold sampleListAt
  dsimp only
  split <;> rfl

theorem sampleStack_trace (sampled : Sampled) :
    (sampleStack guest sample sampled).trace = sampled.trace := by
  unfold sampleStack
  dsimp only
  split <;> rfl

theorem sampleOne_fields (routed : Option (List ProbeRoutedHitSample)) :
    (sampleOne guest routed fieldCount index sample payload).trace.toList.length +
      1 ≤ sample.fieldBound := by
  unfold fieldBound
  split
  · rename_i off
    have none : (sampleOne guest routed fieldCount index sample payload).trace = none := by
      unfold sampleOne
      cases kind : sample.kind with
      | gpr | registerMemory => dsimp only; split <;> rfl
      | addressProgram =>
        unfold sampleAddressProgram
        simp [off, AddressTracePolicy.asks_off]
      | linkedList =>
        unfold sampleLinkedList
        simp only [off, AddressTracePolicy.asks_off, Bool.false_eq_true, and_false, if_false]
        split
        · rfl
        · rw [sampleListAt_trace]
      | stackTrace => exact sampleStack_trace _
      | _ => rfl
    rw [none]
    exact Nat.le_refl _
  · cases (sampleOne guest routed fieldCount index sample payload).trace <;> simp

/-- What a sample is to be recorded as. -/
def RecordedAs (guest : Guest) (routed : Option (List ProbeRoutedHitSample))
    (sample : SampleDefinition) (field : Field) : Prop :=
  field.name = sample.name ∧ (field.status = .present → ReadCompletely guest routed sample field)

/-- What the loop over samples has recorded: the fields, and the trace after
each. -/
structure SamplesRecorded (guest : Guest) (routed : Option (List ProbeRoutedHitSample))
    (all samples : List SampleDefinition) (index : Nat) (before after : List RawField × ByteString)
    (recorded : List (Field × Option Field)) : Prop where
  grows : ∃ added, after.2 = before.2 ++ added
  fields : ∃ raws, after.1 = before.1 ++ raws ∧
    raws.length ≤ (samples.map fieldBound).sum ∧
    ∀ later, raws.filterMap (decodeField all (after.2 ++ later)) =
      recorded.flatMap fun read => read.1 :: read.2.toList
  plain : ∀ read ∈ recorded, read.1.type ≠ .addressTrace ∧
    ∀ trace ∈ read.2, trace.type = .addressTrace ∧ trace.Readable
  recorded : (List.Forall₂ (RecordedAs guest routed) samples (recorded.map Prod.fst) ∧
      ∀ read ∈ recorded, read.1.Readable) ↔
    SamplesAllowed guest routed index samples before

/-- Every sample is recorded.  The induction is on the samples that are left. -/
theorem sampleEach_recorded {routed : Option (List ProbeRoutedHitSample)}
    {all before samples : List SampleDefinition} (split : all = before ++ samples)
    (accepted : ∀ sample ∈ samples, sample.Accepted) {fields : List RawField}
    (capacity : fields.length + (samples.map fieldBound).sum ≤ maximumRawFields)
    (payload : ByteString) : ∃ recorded, SamplesRecorded guest routed all samples before.length
      (fields, payload) (sampleEach guest routed before.length samples (fields, payload))
      recorded := by
  induction samples generalizing before fields payload with
  | nil =>
    refine ⟨[], ⟨[], (List.append_nil _).symm⟩,
      ⟨[], (List.append_nil _).symm, Nat.le_refl _, fun _ => rfl⟩, by simp, ?_⟩
    simp [SamplesAllowed]
  | cons sample samples ih =>
    obtain ⟨first, others⟩ := List.forall_mem_cons.mp accepted
    rw [List.map_cons, List.sum_cons] at capacity
    have room : ¬maximumRawFields ≤ fields.length := by
      have positive : 0 < sample.fieldBound := by
        unfold fieldBound
        split <;> decide
      omega
    have there : all[before.length]? = some sample := by
      rw [split]
      simp
    obtain ⟨field, trace, decoded, read⟩ := @sampleOne_records
      guest _ _ payload fields.length _ routed there first
    have bound := @sampleOne_fields guest sample fields.length before.length payload routed
    unfold sampleEach
    rw [if_neg room]
    dsimp only
    generalize sampledOne : sampleOne guest routed fields.length
      before.length sample payload = sampled at decoded bound ⊢
    have allowed : SamplesAllowed guest routed before.length
        (sample :: samples) (fields, payload) ↔
          SampleAllowed guest sample fields.length payload ∧
            SamplesAllowed guest routed (before.length + 1) samples
              (fields ++ sampled.field :: sampled.trace.toList, sampled.payload) := by
      rw [SamplesAllowed, sampledOne]
    have next : (before ++ [sample]).length = before.length + 1 := by simp
    obtain ⟨recorded, ⟨added, longer⟩, ⟨raws, appended, few, back⟩, plain,
      good⟩ := @ih (before ++ [sample])
        (by rw [split]; simp) others
        (fields ++ sampled.field :: sampled.trace.toList)
        (by rw [List.length_append, List.length_cons]; omega)
        sampled.payload
    rw [next] at longer appended back good
    generalize sampleEach guest routed (before.length + 1) samples _ = result
      at longer appended back ⊢
    obtain ⟨added', longer'⟩ := decoded.grows
    dsimp only at longer appended
    refine ⟨(field, trace) :: recorded, ⟨added' ++ added, ?_⟩,
      ⟨sampled.field :: sampled.trace.toList ++ raws, ?_, ?_, ?_⟩, ?_, ?_⟩
    · rw [longer, longer', List.append_assoc]
    · rw [appended]
      simp
    · rw [List.length_append, List.length_cons, List.map_cons, List.sum_cons]
      omega
    · intro later
      rw [List.cons_append, List.filterMap_cons_some, List.filterMap_append,
        back, longer, List.append_assoc, decoded.traces]
      · rfl
      · rw [longer, List.append_assoc]
        exact decoded.decoded _
    · intro read member
      rcases List.mem_cons.mp member with rfl | member
      · exact ⟨decoded.plain, decoded.traced⟩
      · exact plain read member
    rw [allowed, ← read.recorded, ← good, List.map_cons, List.forall₂_cons, List.forall_mem_cons]
    constructor
    · rintro ⟨⟨⟨-, complete⟩, rest⟩, readable, others⟩
      exact ⟨⟨readable, complete⟩, rest, others⟩
    · rintro ⟨⟨readable, complete⟩, rest, others⟩
      exact ⟨⟨⟨read.name, complete⟩, rest⟩, readable, others⟩

/-! ## The event of a hit -/

/-- The fields of the samples: those after the hit count that are no traces. -/
def sampleFields (event : Event) : List Field :=
  (event.fields.drop 1).filter fun field => field.type ≠ .addressTrace

/-- No chunk of events that the reader takes is spoiled by the event. -/
def StaysReadable (event : Event) : Prop :=
  ∀ before after : List Event, (∀ other ∈ before ++ after, other.Readable) →
    (encodeEvents {} (before ++ event :: after)).1.length < vectorBound →
    RoundTrips (before ++ event :: after)

/-- A hit is recorded: the event has a field for every sample, which is present
only if it was read completely, and the reader takes it. -/
structure HitRecorded (guest : Guest) (routed : Option (List ProbeRoutedHitSample))
    (samples : List SampleDefinition) (event : Event) : Prop where
  fields : List.Forall₂ (RecordedAs guest routed) samples (sampleFields event)
  readable : StaysReadable event

theorem staysReadable_iff {event : Event}
    (fits : (encodeEvents {} [event]).1.length < vectorBound) :
    StaysReadable event ↔ event.Readable := by
  constructor
  · intro stays
    have tripped : RoundTrips [event] := stays [] [] (by simp) fits
    exact tripped.readable fits event List.mem_cons_self
  intro readable before after others fits'
  refine .of_readable (fun other member => ?_) fits'
  rcases List.mem_append.mp member with earlier | later
  · exact others other (List.mem_append_left _ earlier)
  rcases List.mem_cons.mp later with rfl | later
  · exact readable
  · exact others other (List.mem_append_right _ later)

theorem filter_traces {recorded : List (Field × Option Field)}
    (plain : ∀ read ∈ recorded, read.1.type ≠ .addressTrace ∧
      ∀ trace ∈ read.2, trace.type = .addressTrace ∧ trace.Readable) :
    (recorded.flatMap fun read => read.1 :: read.2.toList).filter
        (fun field => field.type ≠ .addressTrace) =
      recorded.map Prod.fst := by
  induction recorded with
  | nil => rfl
  | cons read recorded ih =>
    obtain ⟨⟨own, traces⟩, others⟩ := List.forall_mem_cons.mp plain
    have dropped : read.2.toList.filter
        (fun field => field.type ≠ .addressTrace) = [] := by
      rw [List.filter_eq_nil_iff]
      intro trace member
      simp [(traces trace (Option.mem_toList.mp member)).1]
    rw [List.flatMap_cons, List.filter_append, ih others,
      List.filter_cons_of_pos (by simpa using own), dropped]
    rfl

/-- Every hit of a probe is recorded exactly when every list that it samples has
a root, every list and every stack has room for its header, and each of them can
be read unless it is cut off. -/
theorem hit_is_recorded {profile : Profile} (accepted : profile.Accepted)
    {probeIndex : Nat} {probe : ProbeDefinition}
    (there : profile.probes[probeIndex]? = some probe) (guest : Guest) (hit : ProbeHit)
    (fits : (encodeEvents {} [decodeEvent profile
      (sampleProbe profile probeIndex probe guest hit)]).1.length < vectorBound) :
    HitRecorded guest hit.routed probe.samples (decodeEvent profile
        (sampleProbe profile probeIndex probe guest hit)) ↔
      SamplesAllowed guest hit.routed 0 probe.samples ([], []) := by
  have own := accepted.probes probe (List.mem_of_getElem? there)
  obtain ⟨recorded, -, ⟨raws, appended, few, back⟩, plain, good⟩ :=
    @sampleEach_recorded guest hit.routed probe.samples [] _ rfl own.samples []
      (by simpa using own.capacity) []
  have few := Nat.le_trans few own.capacity
  have small : probeIndex < 4096 :=
    Nat.lt_of_lt_of_le (List.getElem?_eq_some_iff.mp there).1 accepted.count
  have index : (UInt32.ofNat probeIndex).toNat = probeIndex := Nat.mod_eq_of_lt (by omega)
  have decoded : (decodeEvent profile (sampleProbe profile probeIndex probe guest hit)).fields =
        { name := text "hit_count", value := hit.hitCount } ::
          recorded.flatMap fun read => read.1 :: read.2.toList := by
    have whole := back []
    rw [List.append_nil] at whole
    rw [List.nil_append] at appended
    rw [← whole, ← appended]
    have control : UInt32.ofNat probeIndex ≠ syntheticControlProbeIndex := by
      intro same
      have wrong := congrArg UInt32.toNat same
      have value : syntheticControlProbeIndex.toNat = 4294967295 := rfl
      rw [index, value] at wrong
      omega
    have marker : UInt32.ofNat probeIndex ≠ syntheticMarkerProbeIndex := by
      intro same
      have wrong := congrArg UInt32.toNat same
      have value : syntheticMarkerProbeIndex.toNat = 4294967294 := rfl
      rw [index, value] at wrong
      omega
    unfold decodeEvent sampleProbe
    dsimp only
    rw [if_neg control, if_neg marker, index, there]
    rfl
  generalize decodeEvent profile
    (sampleProbe profile probeIndex probe guest hit) = event at fits decoded ⊢
  have fields : sampleFields event = recorded.map Prod.fst := by
    rw [sampleFields, decoded, List.drop_one, List.tail_cons]
    exact filter_traces plain
  have count : event.fields.length ≤ Capture.maximumFields := by
    have shorter : (recorded.flatMap fun read =>
        read.1 :: read.2.toList).length ≤ raws.length := by
      rw [← back []]
      exact List.length_filterMap_le _ _
    rw [decoded, List.length_cons]
    unfold maximumRawFields at few
    change _ ≤ 65536
    omega
  have readable : event.Readable ↔ ∀ read ∈ recorded, read.1.Readable := by
    rw [Event.Readable, decoded, List.forall_mem_cons]
    constructor
    · rintro ⟨-, -, all⟩ read member
      exact all _ (List.mem_flatMap.mpr ⟨read, member, List.mem_cons_self⟩)
    intro all
    refine ⟨decoded ▸ count, trivial, fun field member => ?_⟩
    obtain ⟨read, there, inside⟩ := List.mem_flatMap.mp member
    rcases List.mem_cons.mp inside with rfl | inside
    · exact all read there
    · exact ((plain read there).2 field (Option.mem_toList.mp inside)).2
  refine Iff.trans ?_ good
  rw [← readable, ← fields, ← staysReadable_iff fits]
  exact ⟨fun recorded => ⟨recorded.fields, recorded.readable⟩, fun both => ⟨both.1, both.2⟩⟩

namespace Sample

/-- A list at an address, and the stack. -/
def listedProbe : ProbeDefinition where
  id := text "units"
  samples :=
    [{ name := text "list", kind := .linkedList, address := 0x1000
       addressProvided := true, maxNodes := 4
       linkedListFields := [{ name := text "health", offset := 4 }] },
      { name := text "stack", kind := .stackTrace, maxFrames := 8 }]

/-- The list has one node, and the stack one frame. -/
def listingGuest : Guest where
  gpr _ := 0x8000
  linkRegister := 0
  readGuestValue address _ := some (if address = 0x1000 then 0x2000 else 0)

/-- A list whose root is behind a pointer. -/
def pointedProbe : ProbeDefinition where
  id := text "units"
  samples :=
    [{ name := text "list", kind := .linkedList, addressProgram := [0x02, 0x00]
       maxNodes := 4
       linkedListFields := [{ name := text "health", offset := 4 }] }]

/-- Nothing can be read. -/
def blankGuest : Guest where
  gpr _ := 0
  linkRegister := 0
  readGuestValue _ _ := none

def hit : ProbeHit where
  captureSequence := 1
  monotonicNs := 0
  frameIndex := 0
  guestWorksetEpoch := 0
  snapshotId := 1
  hitCount := 1
  pc := 0x80001000

theorem listedProbe_accepted : Profile.Accepted { probes := [listedProbe] } where
  count := by decide
  probes := by
    intro probe member
    obtain rfl := List.mem_singleton.mp member
    refine ⟨?_, by decide⟩
    intro sample member
    simp only [listedProbe, List.mem_cons, List.not_mem_nil, or_false] at member
    rcases member with rfl | rfl
    · constructor <;> decide
    · constructor <;> decide

end Sample

open Sample in
/-- The list has a node, and the stack a frame. -/
theorem hit_is_recorded_sample : HitRecorded listingGuest none listedProbe.samples
      (decodeEvent { probes := [listedProbe] }
        (sampleProbe { probes := [listedProbe] } 0 listedProbe listingGuest hit)) := by
  refine (hit_is_recorded listedProbe_accepted rfl listingGuest hit
    (by decide +kernel)).mpr ⟨?_, ?_, trivial⟩
  · refine ⟨by decide +kernel, 0x1000, rfl, Or.inr (Or.inr ?_)⟩
    refine ⟨0x2000, rfl, _, .node (by decide) ?_ rfl (.null _)⟩
    intro definition _
    rfl
  · refine ⟨by decide +kernel, Or.inr ⟨_, .last (by decide) rfl ?_⟩⟩
    rfl

open Sample in
/-- A list whose root cannot be read spoils its chunk. -/
theorem unreadable_root_is_not_recorded : ¬HitRecorded blankGuest none pointedProbe.samples
      (decodeEvent { probes := [pointedProbe] }
        (sampleProbe { probes := [pointedProbe] } 0 pointedProbe blankGuest hit)) := by
  rintro ⟨-, stays⟩
  have tripped : RoundTrips [decodeEvent { probes := [pointedProbe] }
      (sampleProbe { probes := [pointedProbe] } 0 pointedProbe blankGuest hit)] :=
    stays [] [] (by simp) (by decide +kernel)
  obtain ⟨decoded, read, -, -⟩ := tripped
  have refused : (decodeEvents {} 1 () (encodeEvents {} [decodeEvent
      { probes := [pointedProbe] } (sampleProbe { probes := [pointedProbe] } 0
        pointedProbe blankGuest hit)]).1).isOk = false := by
    decide +kernel
  rw [show decodeEvents {} 1 () _ = _ from read] at refused
  cases refused

end Savor.Probe

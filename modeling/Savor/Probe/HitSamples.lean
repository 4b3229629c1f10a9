import Savor.Capture.FieldCoding
import Savor.Probe.ListSamples
import Savor.Probe.StackSamples

/-!
# What becomes of a sample

The field of a sample is read back under its name.  It is one that the reader of
a capture takes, and it is present only if it was read completely, exactly when
the sample is allowed.
-/

namespace Savor.Probe

open Capture (Field)
open Program (ByteString text)

/-- What the parser of a profile checks of a sample. -/
structure SampleDefinition.Accepted (sample : SampleDefinition) : Prop where
  root : sample.kind = .linkedList → (sample.addressProvided = true ↔ sample.addressProgram = [])
  nodes : sample.kind = .linkedList → sample.maxNodes.toNat ≤ 256
  frames : sample.kind = .stackTrace → sample.maxFrames ≠ 0 ∧ sample.maxFrames.toNat ≤ 64

variable {guest : Guest} {sample : SampleDefinition}
variable {samples : List SampleDefinition} {payload : ByteString}
variable {fieldCount index : Nat}

/-- What is read of the field of a sample, and of the trace after it. -/
structure SampleDecoded (samples : List SampleDefinition)
    (payload : ByteString) (sampled : Sampled) (field : Field) (trace : Option Field) : Prop where
  decoded : ∀ later, decodeField samples (sampled.payload ++ later) sampled.field = some field
  traces : ∀ later, sampled.trace.toList.filterMap
    (decodeField samples (sampled.payload ++ later)) = trace.toList
  grows : ∃ added, sampled.payload = payload ++ added
  plain : field.type ≠ .addressTrace
  traced : ∀ read ∈ trace, read.type = .addressTrace ∧ read.Readable

/-- The field of a sample is the one that the sample asks for, exactly when the
sample is allowed. -/
structure SampleRecorded (guest : Guest)
    (routed : Option (List ProbeRoutedHitSample)) (sample : SampleDefinition)
    (fieldCount : Nat) (payload : ByteString) (field : Field) : Prop where
  name : field.name = sample.name
  recorded : (field.Readable ∧
      (field.status = .present → ReadCompletely guest routed sample field)) ↔
    SampleAllowed guest sample fieldCount payload

theorem SampleKind.code_ne (kind : SampleKind) : kind.code ≠ rawFieldAddressTrace := by
  cases kind <;> decide

theorem RawFieldStatus.carried_eq_present (status : RawFieldStatus) :
    status.carried = .present ↔ status = .present := by
  cases status <;> simp [RawFieldStatus.carried]

/-- The field of a sample before its payload is looked at. -/
def plainField (sample : SampleDefinition) (raw : RawField) : Field where
  name := sample.name
  status := raw.status.carried
  value := raw.value

theorem decodeField_sample {raw : RawField} (there : samples[raw.sampleIndex]? = some sample)
    (kind : raw.kind = sample.kind.code) (payload : ByteString) :
    decodeField samples payload raw = some
      (match sample.kind with
        | .linkedList => decodeLinkedList sample raw (plainField sample raw)
            (payloadWindow payload raw)
        | .stackTrace => decodeStackTrace (plainField sample raw) (payloadWindow payload raw)
        | _ => plainField sample raw) := by
  unfold decodeField
  rw [there, if_neg (by rw [kind]; exact sample.kind.code_ne)]
  rfl

/-! ## Traces -/

/-- The trace of a sample comes back, or there was no room for it. -/
theorem Sampled.traced_cases (sampled : Sampled) (fieldCount : Nat)
    (there : samples[index]? = some sample) {trace : RawAddressTrace}
    (few : trace.operations.length ≤ maximumTraceOperations) :
    (TraceFits (fieldCount + 1) sampled.payload trace ∧
        let traced := sampled.traced fieldCount index trace
        traced.field = sampled.field ∧
          traced.payload = sampled.payload ++ (tracePieces trace).flatten ∧
          ∃ read : Field, read.type = .addressTrace ∧ read.Readable ∧
            ∀ later, traced.trace.toList.filterMap
              (decodeField samples (traced.payload ++ later)) = [read]) ∨
      (¬TraceFits (fieldCount + 1) sampled.payload trace ∧ sampled.traced fieldCount index trace =
          { sampled with
            field := { sampled.field with status := .truncated } }) := by
  unfold traced
  rcases appendAddressTrace_cases (fieldCount + 1) sampled.payload index trace
    with ⟨fits, appended⟩ | ⟨full, appended⟩
  · refine Or.inl ⟨fits, ?_⟩
    rw [appended]
    let read : Field :=
      { name := sample.name ++ text ".address_trace"
        type := .addressTrace
        status := (if trace.success then RawFieldStatus.present
          else .missing).carried
        value := trace.finalAddress.toUInt64
        addressTrace := some (traceValue trace) }
    refine ⟨rfl, rfl, read, rfl, ?_, fun later => ?_⟩
    · refine ⟨traceValue trace, rfl, ?_⟩
      unfold Capture.AddressTraceValue.Readable traceValue
      rw [List.length_map]
      exact few
    have window : payloadWindow
        (sampled.payload ++ (tracePieces trace).flatten ++ later)
        (traceField sampled.payload index trace) = (tracePieces trace).flatten :=
      payloadWindow_eq rfl rfl later
    have decoded : decodeField samples
        (sampled.payload ++ (tracePieces trace).flatten ++ later)
        (traceField sampled.payload index trace) = some read := by
      have kind : (traceField sampled.payload index trace).kind = rawFieldAddressTrace := rfl
      have position : samples[(traceField sampled.payload index
          trace).sampleIndex]? = some sample := there
      unfold decodeField
      rw [window, position]
      dsimp only
      rw [if_pos kind, decodeAddressTrace_eq few]
      rfl
    exact List.filterMap_cons_some decoded
  · refine Or.inr ⟨full, ?_⟩
    rw [appended]

/-! ## Samples without a payload -/

/-- Neither a list nor a stack. -/
def SampleKind.isScalar (kind : SampleKind) : Prop := kind ≠ .linkedList ∧ kind ≠ .stackTrace

theorem decodeField_scalar {raw : RawField} (there : samples[raw.sampleIndex]? = some sample)
    (kind : raw.kind = sample.kind.code) (scalar : sample.kind.isScalar) (payload : ByteString) :
    decodeField samples payload raw = some (plainField sample raw) := by
  rw [decodeField_sample there kind]
  obtain ⟨list, stack⟩ := scalar
  cases same : sample.kind <;> simp_all

theorem SampleRecorded.scalar {routed : Option (List ProbeRoutedHitSample)}
    (scalar : sample.kind.isScalar) {raw : RawField} (read : raw.status = .present →
      ReadCompletely guest routed sample (plainField sample raw)) :
    SampleRecorded guest routed sample fieldCount payload (plainField sample raw) where
  name := rfl
  recorded := by
    have allowed : SampleAllowed guest sample fieldCount payload := by
      obtain ⟨list, stack⟩ := scalar
      unfold SampleAllowed
      cases same : sample.kind <;> simp_all
    refine ⟨fun _ => allowed, fun _ => ⟨trivial, fun present => ?_⟩⟩
    exact read ((RawFieldStatus.carried_eq_present _).mp present)

theorem SampleDecoded.scalar {sampled : Sampled}
    (there : samples[sampled.field.sampleIndex]? = some sample)
    (kind : sampled.field.kind = sample.kind.code)
    (scalar : sample.kind.isScalar) (same : sampled.payload = payload)
    (trace : sampled.trace = none) :
    SampleDecoded samples payload sampled (plainField sample sampled.field) none where
  decoded := fun later => decodeField_scalar there kind scalar _
  traces := fun later => by
    rw [trace]
    rfl
  grows := ⟨[], by rw [same, List.append_nil]⟩
  plain := by
    unfold plainField
    simp
  traced := by simp

theorem withValue_sampleIndex (field : RawField) (value : Option UInt64) :
    (field.withValue value).sampleIndex = field.sampleIndex := by
  cases value <;> rfl

theorem withValue_kind (field : RawField) (value : Option UInt64) :
    (field.withValue value).kind = field.kind := by
  cases value <;> rfl

theorem withValue_present {field : RawField} {value : Option UInt64}
    (present : (field.withValue value).status = .present) :
    value = some (field.withValue value).value := by
  cases value with
  | none => cases present
  | some value => rfl

/-- What is decoded and recorded of a sample. -/
def Records (guest : Guest) (routed : Option (List ProbeRoutedHitSample))
    (samples : List SampleDefinition) (sample : SampleDefinition)
    (fieldCount : Nat) (payload : ByteString) (sampled : Sampled) : Prop :=
  ∃ field trace, SampleDecoded samples payload sampled field trace ∧
    SampleRecorded guest routed sample fieldCount payload field

/-- A sample that only sets a value. -/
theorem Records.scalar {routed : Option (List ProbeRoutedHitSample)}
    {raw : RawField} (there : samples[raw.sampleIndex]? = some sample)
    (kind : raw.kind = sample.kind.code) (scalar : sample.kind.isScalar)
    (read : raw.status = .present → ReadCompletely guest routed sample (plainField sample raw)) :
    Records guest routed samples sample fieldCount payload { field := raw, payload } :=
  ⟨_, none, .scalar there kind scalar rfl rfl, .scalar scalar read⟩

variable (routed : Option (List ProbeRoutedHitSample))

theorem sampleOne_scalar (there : samples[index]? = some sample)
    (scalar : sample.kind.isScalar) (direct : sample.kind ≠ .addressProgram) :
    Records guest routed samples sample fieldCount payload
      (sampleOne guest routed fieldCount index sample payload) := by
  unfold sampleOne
  cases kind : sample.kind with
  | gpr =>
    dsimp only
    split
    · refine .scalar there (by rw [kind]) scalar fun present => ?_
      cases present
    rename_i small
    refine .scalar there (by rw [kind]) scalar fun _ => ?_
    rw [ReadCompletely, kind]
    exact ⟨UInt8.not_le.mp small, rfl⟩
  | constant =>
    refine .scalar there (by rw [kind]) scalar fun _ => ?_
    rw [ReadCompletely, kind]
    rfl
  | registerMemory =>
    dsimp only
    split
    · refine .scalar there (by rw [kind]) scalar fun present => ?_
      cases present
    rename_i small
    refine .scalar ?_ ?_ scalar fun present => ?_
    · rw [RawField.withRead, withValue_sampleIndex]
      exact there
    · rw [RawField.withRead, withValue_kind, kind]
    · rw [ReadCompletely, kind]
      exact ⟨UInt8.not_le.mp small, withValue_present present⟩
  | memory =>
    refine .scalar ?_ ?_ scalar fun present => ?_
    · rw [RawField.withRead, withValue_sampleIndex]
      exact there
    · rw [RawField.withRead, withValue_kind, kind]
    · rw [ReadCompletely, kind]
      exact withValue_present present
  | routedSample =>
    refine .scalar ?_ ?_ scalar fun present => ?_
    · rw [withValue_sampleIndex]
      exact there
    · rw [withValue_kind, kind]
    · rw [ReadCompletely, kind]
      exact Option.bind_eq_some_iff.mp (withValue_present present)
  | addressProgram => exact absurd kind direct
  | linkedList => exact absurd kind scalar.1
  | stackTrace => exact absurd kind scalar.2

/-! ## Address programs -/

theorem sampleAddressProgram_records (there : samples[index]? = some sample)
    (kind : sample.kind = .addressProgram) : Records guest routed samples sample fieldCount payload
      (sampleOne guest routed fieldCount index sample payload) := by
  have scalar : sample.kind.isScalar := by
    rw [kind]
    exact ⟨by decide, by decide⟩
  have few := length_evaluateAddressProgram guest sample.addressProgram
  unfold sampleOne
  rw [kind]
  unfold sampleAddressProgram
  dsimp only
  generalize valued : RawField.withValue _ _ = raw
  have sampled : raw.sampleIndex = index ∧
      raw.kind = sample.kind.code ∧ (raw.status = .present →
        ReadCompletely guest routed sample (plainField sample raw)) := by
    rw [← valued, kind]
    refine ⟨withValue_sampleIndex _ _, withValue_kind _ _, fun present => ?_⟩
    rw [ReadCompletely, kind]
    exact Option.bind_eq_some_iff.mp (withValue_present present)
  obtain ⟨position, code, read⟩ := sampled
  split
  · rcases Sampled.traced_cases { field := raw, payload } fieldCount there few
      with ⟨-, same, longer, trace, type, readable, back⟩ | ⟨-, same⟩
    · refine ⟨plainField sample raw, some trace, ⟨?_, back, ⟨_, longer⟩, ?_, ?_⟩,
        .scalar scalar read⟩
      · intro later
        rw [same]
        exact decodeField_scalar (position ▸ there) code scalar _
      · unfold plainField
        simp
      · rintro field ⟨⟩
        exact ⟨type, readable⟩
    · rw [same]
      refine .scalar (position ▸ there) code scalar fun present => ?_
      cases present
  · exact .scalar (position ▸ there) code scalar read

/-! ## Lists -/

/-- A list once its root was computed, and the trace of that. -/
structure ListTraced (guest : Guest) (samples : List SampleDefinition)
    (sample : SampleDefinition) (fieldCount index : Nat) (payload : ByteString)
    (traced : Sampled) (trace : Option Field) : Prop where
  sampleIndex : traced.field.sampleIndex = index
  kind : traced.field.kind = sample.kind.code
  payloadSize : traced.field.payloadSize = 0
  status : traced.field.status =
    if (listPayload guest sample fieldCount payload).2 then .present
    else .truncated
  longer : traced.payload = (listPayload guest sample fieldCount payload).1
  grows : ∃ added, traced.payload = payload ++ added
  traces : ∀ later, traced.trace.toList.filterMap
    (decodeField samples (traced.payload ++ later)) = trace.toList
  traced : ∀ read ∈ trace, read.type = .addressTrace ∧ read.Readable

theorem sampleLinkedList_traced (there : samples[index]? = some sample)
    (kind : sample.kind = .linkedList) (accepted : sample.Accepted) : let sampled : Sampled :=
      { field := { sampleIndex := index, kind := sample.kind.code }, payload }
    ∃ traced trace,
      ListTraced guest samples sample fieldCount index payload traced trace ∧
        sampleLinkedList guest sample fieldCount index sampled =
          match listRoot guest sample with
          | none => { traced with field := { traced.field with
              status := .missing } }
          | some root => sampleListAt guest sample root traced := by
  intro sampled
  have root := accepted.root kind
  have few := length_evaluateAddressProgram guest sample.addressProgram
  unfold sampleLinkedList listRoot
  by_cases provided : sample.addressProvided = true
  · have empty := root.mp provided
    have same : listPayload guest sample fieldCount payload =
        (payload, true) := by
      simp [listPayload, provided]
    refine ⟨sampled, none, ⟨rfl, rfl, rfl, ?_, ?_, ⟨[], ?_⟩, ?_, ?_⟩, ?_⟩
    · rw [same]
      rfl
    · rw [same]
    · rw [List.append_nil]
    · intro later
      rfl
    · simp
    · simp [provided, empty]
  · have program : sample.addressProgram ≠ [] := fun empty =>
      provided (root.mpr empty)
    have computed : sample.addressProvided = false := Bool.not_eq_true _ ▸ provided
    simp only [computed, Bool.false_eq_true, if_false]
    by_cases asks : sample.trace.asks (evaluateAddressProgram guest sample.addressProgram).2 = true
    · have asked : sample.addressProgram ≠ [] ∧ sample.trace.asks
          (evaluateAddressProgram guest sample.addressProgram).2 = true :=
        ⟨program, asks⟩
      have payloads : listPayload guest sample fieldCount payload =
          (appendAddressTrace (fieldCount + 1) payload 0
            (evaluateAddressProgram guest sample.addressProgram).2).elim
              (payload, false) fun appended => (appended.2, true) := by
        simp [listPayload, computed, program, asks]
      rw [if_pos asked]
      refine ⟨sampled.traced fieldCount index
        (evaluateAddressProgram guest sample.addressProgram).2, ?_⟩
      have room := appendAddressTrace_cases (fieldCount + 1) payload 0
        (evaluateAddressProgram guest sample.addressProgram).2
      rcases Sampled.traced_cases sampled fieldCount there few with
        ⟨fits, same, longer, trace, type, readable, back⟩ | ⟨full, same⟩
      · rcases room with ⟨-, appended⟩ | ⟨full, -⟩
        · rw [appended] at payloads
          refine ⟨some trace, ⟨?_, ?_, ?_, ?_, ?_, ⟨_, longer⟩, back, ?_⟩, rfl⟩
          · rw [same]
          · rw [same]
          · rw [same]
          · rw [same, payloads]
            rfl
          · rw [longer, payloads]
            rfl
          · rintro field ⟨⟩
            exact ⟨type, readable⟩
        · exact absurd fits full
      · rcases room with ⟨fits, -⟩ | ⟨-, appended⟩
        · exact absurd fits full
        rw [appended] at payloads
        refine ⟨none, ⟨?_, ?_, ?_, ?_, ?_, ⟨[], ?_⟩, ?_, ?_⟩, rfl⟩
        · rw [same]
        · rw [same]
        · rw [same]
        · rw [same, payloads]
          rfl
        · rw [same, payloads]
          rfl
        · rw [same, List.append_nil]
        · intro later
          rw [same]
          rfl
        · simp
    · have same : listPayload guest sample fieldCount payload =
          (payload, true) := by
        simp [listPayload, asks]
      refine ⟨sampled, none, ⟨rfl, rfl, rfl, ?_, ?_, ⟨[], ?_⟩, ?_, ?_⟩, ?_⟩
      · rw [same]
        rfl
      · rw [same]
      · rw [List.append_nil]
      · intro later
        rfl
      · simp
      · cases (evaluateAddressProgram guest sample.addressProgram).1 with
        | none => simp [asks]
        | some root => simp [asks]

theorem payloadWindow_chunk {before chunk longer : ByteString} {raw : RawField}
    (offset : raw.payloadOffset = before.length)
    (size : raw.payloadSize = chunk.length) (same : longer = before ++ chunk)
    (later : ByteString) : payloadWindow (longer ++ later) raw = chunk := by
  rw [same]
  exact payloadWindow_eq offset size later

/-- A list that is read has few members in each node: there is room for them. -/
theorem ListDecoded.readable {root : UInt32} {used : Nat} {list : Capture.LinkedListValue}
    (decoded : ListDecoded guest sample root used list)
    (few : sample.maxNodes.toNat ≤ 256) : list.Readable := by
  refine ⟨Nat.le_trans decoded.few few, fun node member => ?_⟩
  obtain ⟨address, rfl⟩ := decoded.recorded node member
  have room := decoded.room (List.ne_nil_of_mem member)
  unfold nodeSize rawPayloadBytes at room
  unfold Capture.LinkedListNode.Readable listNode
  rw [List.length_map]
  change _ ≤ 4096
  omega

theorem sampleLinkedList_records (there : samples[index]? = some sample)
    (kind : sample.kind = .linkedList) (accepted : sample.Accepted) :
    Records guest routed samples sample fieldCount payload
      (sampleOne guest routed fieldCount index sample payload) := by
  have few := accepted.nodes kind
  obtain ⟨traced, trace, facts, result⟩ := @sampleLinkedList_traced
    guest _ _ payload fieldCount _ there kind accepted
  have sampledAs : sampleOne guest routed fieldCount index sample payload =
      sampleLinkedList guest sample fieldCount index
        { field := { sampleIndex := index, kind := sample.kind.code }
          payload } := by
    unfold sampleOne
    rw [kind]
  rw [sampledAs, result]
  have allowed : SampleAllowed guest sample fieldCount payload ↔
      ListAllowed guest sample fieldCount payload := by
    rw [SampleAllowed, kind]
  -- Without a header the list is not read back.
  have missing : ∀ sampled : Sampled, SampledAs traced sampled →
      sampled.field.payloadSize = 0 →
      (∃ added, sampled.payload = traced.payload ++ added) →
      ¬ListAllowed guest sample fieldCount payload →
      Records guest routed samples sample fieldCount payload sampled := by
    rintro sampled ⟨position, code, traceSame⟩ size ⟨added, longer⟩ refused
    have decoded : ∀ later, decodeField samples (sampled.payload ++ later)
        sampled.field = some { plainField sample sampled.field with
          type := .linkedList, status := .invalid } := by
      intro later
      rw [@decodeField_sample sample, kind]
      · dsimp only
        rw [payloadWindow_empty _ size]
        rfl
      · rw [position, facts.sampleIndex]
        exact there
      · rw [code, facts.kind]
    obtain ⟨added', longer'⟩ := facts.grows
    refine ⟨_, trace, ⟨decoded, ?_, ⟨added' ++ added, ?_⟩, by simp, facts.traced⟩, rfl, ?_⟩
    · intro later
      rw [traceSame, longer, List.append_assoc]
      exact facts.traces _
    · rw [longer, longer', List.append_assoc]
    rw [allowed]
    constructor
    · rintro ⟨⟨list, none, -⟩, -⟩
      cases none
    · exact fun wrong => absurd wrong refused
  cases rooted : listRoot guest sample with
  | none =>
    refine missing _ ⟨rfl, rfl, rfl⟩ facts.payloadSize ⟨[], (List.append_nil _).symm⟩ ?_
    rintro ⟨-, root, there, -⟩
    rw [rooted] at there
    cases there
  | some root =>
    dsimp only
    rcases Nat.lt_or_ge rawPayloadBytes
        (traced.payload.length + listHeaderSize) with overflows | fits
    · obtain ⟨same, -, size, junk, longer⟩ := @sampleListAt_overflows
        guest sample root _ overflows
      refine missing _ same (size.trans facts.payloadSize) ⟨junk, longer⟩ ?_
      rintro ⟨room, -⟩
      rw [← facts.longer] at room
      exact Nat.not_lt.mpr room overflows
    obtain ⟨⟨position, code, traceSame⟩, status, cut, offset, chunk, longer,
      size, list, decoded, back⟩ := @sampleListAt_fits guest
        sample root _ fits
        (Nat.lt_of_le_of_lt few (by decide))
    generalize sampleListAt guest sample root traced = sampled
      at position code traceSame status cut offset longer size back ⊢
    have read : ∀ later, decodeField samples (sampled.payload ++ later)
        sampled.field = some { plainField sample sampled.field with
          type := .linkedList, linkedList := some list } := by
      intro later
      rw [@decodeField_sample sample, kind]
      · dsimp only
        rw [payloadWindow_chunk offset size longer, back]
      · rw [position, facts.sampleIndex]
        exact there
      · rw [code, facts.kind]
    obtain ⟨added, longer'⟩ := facts.grows
    refine ⟨_, trace, ⟨read, ?_, ⟨added ++ chunk, ?_⟩, by simp, facts.traced⟩, rfl, ?_⟩
    · intro later
      rw [traceSame, longer, List.append_assoc]
      exact facts.traces _
    · rw [longer, longer', List.append_assoc]
    rw [allowed]
    have readable := decoded.readable few
    have used := facts.longer ▸ fits
    have heads := decoded.head
    constructor
    · rintro ⟨-, complete⟩
      refine ⟨used, root, rooted, ?_⟩
      by_cases traceFits : (listPayload guest sample fieldCount payload).2 = false
      · exact Or.inl traceFits
      by_cases isCut : ListCut guest sample sample.maxNodes.toNat
          (traced.payload.length + listHeaderSize) [] ((guest.readPointer root).getD 0)
      · exact Or.inr (Or.inl (facts.longer ▸ isCut))
      have present : sampled.field.status = .present := by
        rw [status isCut, facts.status, if_pos]
        exact Bool.not_eq_false _ ▸ traceFits
      have whole := complete ((RawFieldStatus.carried_eq_present _).mpr present)
      rw [ReadCompletely, kind] at whole
      obtain ⟨root', rooted', list', same, -, head, listed⟩ := whole
      rw [rooted] at rooted'
      cases rooted'
      cases same
      exact Or.inr (Or.inr ⟨list.head, head, list.nodes, listed⟩)
    · rintro ⟨-, root', rooted', reason⟩
      rw [rooted] at rooted'
      cases rooted'
      refine ⟨⟨list, rfl, readable⟩, fun present => ?_⟩
      have present := (RawFieldStatus.carried_eq_present _).mp present
      have notCut : ¬ListCut guest sample sample.maxNodes.toNat
          (traced.payload.length + listHeaderSize) []
          ((guest.readPointer root).getD 0) := by
        intro isCut
        rw [cut isCut] at present
        cases present
      rw [status notCut, facts.status] at present
      rcases reason with traceFull | isCut | ⟨head, there, nodes, listed⟩
      · rw [traceFull] at present
        cases present
      · exact absurd (facts.longer ▸ isCut) notCut
      have same : list.head = head := by
        rw [heads, there]
        rfl
      rw [ReadCompletely, kind]
      refine ⟨root, rooted, list, rfl, decoded.rootAddress, ?_, ?_⟩
      · rw [same]
        exact there
      rw [← heads] at notCut
      rw [← same] at listed
      rw [← decoded.complete notCut nodes listed]
      exact listed

/-! ## Stacks -/

theorem sampleStack_records (there : samples[index]? = some sample)
    (kind : sample.kind = .stackTrace) (accepted : sample.Accepted) :
    Records guest routed samples sample fieldCount payload
      (sampleOne guest routed fieldCount index sample payload) := by
  obtain ⟨positive, few⟩ := accepted.frames kind
  have sampledAs : sampleOne guest routed fieldCount index sample payload =
      sampleStack guest sample
        { field := { sampleIndex := index, kind := sample.kind.code }
          payload } := by
    unfold sampleOne
    rw [kind]
  have allowed : SampleAllowed guest sample fieldCount payload ↔
      StackAllowed guest sample payload := by
    rw [SampleAllowed, kind]
  rw [sampledAs, Records]
  rcases Nat.lt_or_ge rawPayloadBytes (payload.length + stackHeaderSize) with
    overflows | fits
  · obtain ⟨⟨position, code, traceSame⟩, -, size, junk, longer⟩ :=
      @sampleStack_overflows guest sample
        { field := { sampleIndex := index
                     kind := sample.kind.code }, payload }
        overflows
    generalize sampleStack guest sample _ = sampled at position code traceSame size longer ⊢
    have decoded : ∀ later, decodeField samples (sampled.payload ++ later)
        sampled.field = some { plainField sample sampled.field with
          type := .stackTrace, status := .invalid } := by
      intro later
      rw [@decodeField_sample sample _ _ (position ▸ there) code, kind]
      dsimp only
      rw [payloadWindow_empty _ size]
      rfl
    refine ⟨_, none, ⟨decoded, ?_, ⟨junk, longer⟩, by simp, by simp⟩, rfl, ?_⟩
    · intro later
      rw [traceSame]
      rfl
    rw [allowed]
    constructor
    · rintro ⟨⟨stack, none, -⟩, -⟩
      cases none
    · rintro ⟨room, -⟩
      exact absurd overflows (Nat.not_lt.mpr room)
  · obtain ⟨⟨position, code, traceSame⟩, status, cut, offset, chunk, longer,
      size, stack, few', complete, back⟩ := @sampleStack_fits guest sample
        { field := { sampleIndex := index
                     kind := sample.kind.code }, payload }
        fits positive few
    generalize sampleStack guest sample _ = sampled
      at position code traceSame status cut offset longer size ⊢
    have read : ∀ later, decodeField samples (sampled.payload ++ later)
        sampled.field = some { plainField sample sampled.field with
          type := .stackTrace, stackTrace := some stack } := by
      intro later
      rw [@decodeField_sample sample _ _ (position ▸ there) code, kind]
      dsimp only
      rw [payloadWindow_chunk offset size longer, back]
    refine ⟨_, none, ⟨read, ?_, ⟨chunk, longer⟩, by simp, by simp⟩, rfl, ?_⟩
    · intro later
      rw [traceSame]
      rfl
    rw [allowed]
    constructor
    · rintro ⟨-, whole⟩
      refine ⟨fits, ?_⟩
      by_cases isCut : StackIsCut guest sample.maxFrames.toNat (payload.length + stackHeaderSize)
      · exact Or.inl isCut
      have read := whole ((RawFieldStatus.carried_eq_present _).mpr (status isCut))
      rw [ReadCompletely, kind] at read
      obtain ⟨-, -, frames, stacked, -⟩ := read
      exact Or.inr ⟨frames, stacked⟩
    · rintro ⟨-, reason⟩
      refine ⟨⟨stack, rfl, Nat.le_trans few' few⟩, fun present => ?_⟩
      have notCut : ¬StackIsCut guest sample.maxFrames.toNat
          (payload.length + stackHeaderSize) := by
        intro isCut
        have present := (RawFieldStatus.carried_eq_present _).mp present
        rw [cut isCut] at present
        cases present
      obtain ⟨frames, stacked⟩ := reason.resolve_left notCut
      rw [ReadCompletely, kind]
      exact ⟨stack, rfl, frames, stacked, complete notCut frames stacked⟩

/-! ## Any sample -/

theorem sampleOne_records (there : samples[index]? = some sample) (accepted : sample.Accepted) :
    Records guest routed samples sample fieldCount payload
      (sampleOne guest routed fieldCount index sample payload) := by
  by_cases list : sample.kind = .linkedList
  · exact sampleLinkedList_records routed there list accepted
  by_cases stack : sample.kind = .stackTrace
  · exact sampleStack_records routed there stack accepted
  by_cases program : sample.kind = .addressProgram
  · exact sampleAddressProgram_records routed there program
  · exact sampleOne_scalar routed there ⟨list, stack⟩ program

end Savor.Probe

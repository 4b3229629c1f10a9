import Savor.Probe.ProbeDecoding

/-!
# What is in the payload

The pieces that are appended for a sample are read back from the window that its
field names, whatever is appended later.
-/

namespace Savor.Probe

open Capture (appendPod flag LinkedListMember LinkedListNode StackFrame)
open Library.Stream (Word)
open Program (ByteString)

/-! ## Appending -/

theorem payloadAppendAll_fits {payload : ByteString} {pieces : List ByteString}
    (fits : payload.length + pieces.flatten.length ≤ rawPayloadBytes) :
    payloadAppendAll payload pieces = (true, payload ++ pieces.flatten) := by
  induction pieces generalizing payload with
  | nil => simp [payloadAppendAll]
  | cons piece pieces ih =>
    rw [List.flatten_cons, List.length_append] at fits
    have room : payload.length + piece.length ≤ rawPayloadBytes := by omega
    unfold payloadAppendAll payloadAppend
    rw [if_pos room]
    dsimp only
    rw [ih (by rw [List.length_append]; omega)]
    rw [List.flatten_cons, List.append_assoc]

theorem payloadAppendAll_overflows {payload : ByteString}
    {pieces : List ByteString} (nonempty : pieces ≠ [])
    (overflows : rawPayloadBytes < payload.length + pieces.flatten.length) :
    ∃ junk, payloadAppendAll payload pieces = (false, payload ++ junk) := by
  induction pieces generalizing payload with
  | nil => exact absurd rfl nonempty
  | cons piece pieces ih =>
    rw [List.flatten_cons, List.length_append] at overflows
    unfold payloadAppendAll payloadAppend
    split
    · exact ⟨[], by rw [List.append_nil]⟩
    rename_i longer appended
    split at appended
    · rename_i room
      cases appended
      have more : pieces ≠ [] := by
        rintro rfl
        simp only [List.flatten_nil, List.length_nil] at overflows
        omega
      obtain ⟨junk, same⟩ := @ih (payload ++ piece) more (by rw [List.length_append]; omega)
      exact ⟨piece ++ junk, by rw [same, List.append_assoc]⟩
    · cases appended

/-- What is appended for a frame, a header or a trace either fits or not. -/
theorem payloadAppendAll_cases (payload : ByteString)
    {pieces : List ByteString} (nonempty : pieces ≠ []) :
    (payload.length + pieces.flatten.length ≤ rawPayloadBytes ∧
        payloadAppendAll payload pieces = (true, payload ++ pieces.flatten)) ∨
      (rawPayloadBytes < payload.length + pieces.flatten.length ∧
        ∃ junk, payloadAppendAll payload pieces = (false, payload ++ junk)) := by
  rcases Nat.lt_or_ge rawPayloadBytes (payload.length + pieces.flatten.length) with overflows | fits
  · exact Or.inr ⟨overflows, payloadAppendAll_overflows nonempty overflows⟩
  · exact Or.inl ⟨fits, payloadAppendAll_fits fits⟩

theorem payloadPatch_eq {before old new rest : ByteString} (length : old.length = new.length) :
    payloadPatch (before ++ (old ++ rest)) before.length new = before ++ (new ++ rest) := by
  unfold payloadPatch
  rw [List.take_left, ← length, ← List.drop_drop, List.drop_left, List.drop_left, List.append_assoc]

/-! ## Reading -/

theorem readPayload_encode {Value : Type} (word : Word Value) (value : Value) (rest : ByteString) :
    readPayload word (word.encode value ++ rest) = some (value, rest) := by
  have length := word.length_encode value
  unfold readPayload
  rw [if_neg (by rw [List.length_append]; omega), ← length, List.take_left,
    List.drop_left, word.decode_encode]

theorem readPayload_pod {Value : Type} (word : Word Value) (value : Value) (rest : ByteString) :
    readPayload word (appendPod word value ++ rest) = some (value, rest) :=
  readPayload_encode word value rest

theorem payloadWindow_eq {before chunk : ByteString} {field : RawField}
    (offset : field.payloadOffset = before.length)
    (size : field.payloadSize = chunk.length) (later : ByteString) :
    payloadWindow (before ++ chunk ++ later) field = chunk := by
  unfold payloadWindow
  rw [offset, size, ← List.length_append, List.take_left, List.drop_left]

theorem payloadWindow_empty (payload : ByteString) {field : RawField}
    (size : field.payloadSize = 0) : payloadWindow payload field = [] := by
  unfold payloadWindow
  rw [size, Nat.add_zero]
  apply List.drop_eq_nil_of_le
  rw [List.length_take]
  exact Nat.min_le_left _ _

theorem singleton_eq_pod (byte : UInt8) : [byte] = appendPod .u8 byte := by
  simp [appendPod, Word.u8, Word.map, Word.number, Library.Wire.littleEndian]

/-- What the sampling of a payload leaves of the field. -/
structure SampledAs (sampled result : Sampled) : Prop where
  sampleIndex : result.field.sampleIndex = sampled.field.sampleIndex
  kind : result.field.kind = sampled.field.kind
  trace : result.trace = sampled.trace

/-!
## Traces come back from the payload

A trace is appended whole or not at all.
-/

open Capture (Field AddressTraceOperation AddressTraceValue appendPod flag)

/-- A step as it is read back. -/
def traceOperation (step : RawAddressTraceStep) : AddressTraceOperation where
  index := step.index
  operation := step.operation
  addressBefore := step.addressBefore
  addressAfter := step.addressAfter
  dereferencedValue := step.dereferencedValue
  failure := failureText step.failure.code

/-- A trace as it is read back. -/
def traceValue (trace : RawAddressTrace) : AddressTraceValue where
  success := trace.success
  finalAddress := trace.finalAddress
  failureOperation :=
    if trace.failure.code = AddressProgramFailure.none.code then none
    else some trace.failureOperation
  failure := failureText trace.failure.code
  operations := trace.operations.map traceOperation

theorem readTraceOperation_eq (step : RawAddressTraceStep) (rest : ByteString) :
    readTraceOperation ((traceStepPieces step).flatten ++ rest) =
      some (traceOperation step, rest) := by
  unfold readTraceOperation traceStepPieces
  simp only [List.flatten_cons, List.flatten_nil, List.append_nil,
    List.append_assoc, Option.bind_eq_bind]
  iterate 6
    rw [readPayload_pod]
    simp only [Option.bind_some]
  rw [readPayload_pod]
  cases taken : step.dereferencedValue with
  | none | some => simp [traceOperation, taken, flag]

theorem readTraceOperations_eq (steps : List RawAddressTraceStep) (rest : ByteString) :
    readTraceOperations steps.length ((steps.flatMap traceStepPieces).flatten ++ rest) =
      ⟨steps.map traceOperation, true, rest⟩ := by
  induction steps with
  | nil => rfl
  | cons step steps ih =>
    rw [List.flatMap_cons, List.flatten_append, List.append_assoc, List.length_cons]
    unfold readTraceOperations
    rw [readTraceOperation_eq]
    dsimp only
    rw [ih]
    rfl

theorem readTraceHeader_eq (trace : RawAddressTrace) (rest : ByteString) :
    readTraceHeader ((traceHeaderPieces trace).flatten ++ rest) =
      some ((UInt8.ofNat trace.operations.length,
        { traceValue trace with operations := [] }), rest) := by
  unfold readTraceHeader traceHeaderPieces
  simp only [List.flatten_cons, List.flatten_nil, List.append_nil,
    List.append_assoc, Option.bind_eq_bind]
  iterate 4
    rw [readPayload_pod]
    simp only [Option.bind_some]
  rw [readPayload_pod]
  cases succeeded : trace.success <;> simp [traceValue, succeeded, flag]

/-- A trace is read back whole. -/
theorem decodeAddressTrace_eq {trace : RawAddressTrace}
    (few : trace.operations.length ≤ maximumTraceOperations) (field : Field) :
    decodeAddressTrace field (tracePieces trace).flatten =
      { field with
        type := .addressTrace, addressTrace := some (traceValue trace) } := by
  have small : trace.operations.length ≤ 64 := few
  have counted : (UInt8.ofNat trace.operations.length).toNat =
      trace.operations.length := Nat.mod_eq_of_lt (by omega)
  have within : ¬64 < UInt8.ofNat trace.operations.length := by
    rw [UInt8.lt_iff_toNat_lt, counted]
    exact Nat.not_lt.mpr small
  have operations := readTraceOperations_eq trace.operations []
  rw [List.append_nil] at operations
  unfold decodeAddressTrace tracePieces
  rw [List.flatten_append, readTraceHeader_eq]
  dsimp only
  rw [if_neg within, counted, operations]
  rfl

/-- The field of a trace after others. -/
def traceField (payload : ByteString) (sampleIndex : Nat) (trace : RawAddressTrace) : RawField where
  sampleIndex := sampleIndex
  kind := rawFieldAddressTrace
  status := if trace.success then .present else .missing
  value := trace.finalAddress.toUInt64
  payloadOffset := payload.length
  payloadSize := (tracePieces trace).flatten.length

/-- There is room for a trace and its field. -/
def TraceFits (fieldCount : Nat) (payload : ByteString) (trace : RawAddressTrace) : Prop :=
  fieldCount < maximumRawFields ∧
    payload.length + (tracePieces trace).flatten.length ≤ rawPayloadBytes

theorem appendAddressTrace_cases (fieldCount : Nat) (payload : ByteString)
    (sampleIndex : Nat) (trace : RawAddressTrace) : (TraceFits fieldCount payload trace ∧
        appendAddressTrace fieldCount payload sampleIndex trace =
          some (traceField payload sampleIndex trace, payload ++ (tracePieces trace).flatten)) ∨
      (¬TraceFits fieldCount payload trace ∧
        appendAddressTrace fieldCount payload sampleIndex trace = none) := by
  unfold appendAddressTrace TraceFits
  split
  · rename_i full
    exact Or.inr ⟨fun fits => absurd fits.1 (Nat.not_lt.mpr full), rfl⟩
  rename_i free
  rcases @payloadAppendAll_cases payload (tracePieces trace)
      (by simp [tracePieces, traceHeaderPieces]) with
    ⟨room, appended⟩ | ⟨overflows, junk, appended⟩
  · refine Or.inl ⟨⟨Nat.not_le.mp free, room⟩, ?_⟩
    rw [appended]
    simp [traceField]
  · refine Or.inr ⟨fun fits => absurd fits.2 (Nat.not_le.mpr overflows), ?_⟩
    rw [appended]

end Savor.Probe


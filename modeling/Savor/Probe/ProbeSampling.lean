import Savor.Probe.ProbeTypes

/-!
# Address programs

A program of a few operations that computes an address from base keys, registers
and pointers of the guest.  Every operation leaves a step in the trace.
-/

namespace Savor.Probe

open Program (ByteString text)

inductive AddressProgramFailure
  | none
  | missingTerminator
  | trailingBytes
  | unknownOperation
  | truncatedOperand
  | invalidRegister
  | missingBaseResolver
  | baseResolutionFailed
  | guestReadFailed
  | operationLimit

namespace AddressProgramFailure

/-- The underlying value. -/
def code : AddressProgramFailure → UInt8
  | .none => 0
  | .missingTerminator => 1
  | .trailingBytes => 2
  | .unknownOperation => 3
  | .truncatedOperand => 4
  | .invalidRegister => 5
  | .missingBaseResolver => 6
  | .baseResolutionFailed => 7
  | .guestReadFailed => 8
  | .operationLimit => 9

end AddressProgramFailure

/-- `address_program_failure_name` of the cast from the underlying value. -/
def addressProgramFailureName (code : UInt8) : ByteString :=
  match code with
  | 0 => text "none"
  | 1 => text "missing_terminator"
  | 2 => text "trailing_bytes"
  | 3 => text "unknown_operation"
  | 4 => text "truncated_operand"
  | 5 => text "invalid_register"
  | 6 => text "missing_base_resolver"
  | 7 => text "base_resolution_failed"
  | 8 => text "guest_read_failed"
  | 9 => text "operation_limit"
  | _ => text "unknown"

structure RawAddressTraceStep where
  (index operation : UInt8 := 0)
  dereferencedValue : Option UInt64 := none
  failure : AddressProgramFailure := .none
  (addressBefore addressAfter : UInt32 := 0)

/-- The trace of a program.  Its count is that of the operations. -/
structure RawAddressTrace where
  success : Bool := false
  failureOperation : UInt8 := 0
  failure : AddressProgramFailure := .none
  finalAddress : UInt32 := 0
  operations : List RawAddressTraceStep := []

/-- How many operations a trace holds. -/
def maximumTraceOperations : Nat := 64

/-- What an operation does: it sets the address, after it dereferenced the old
one or not, it ends the program, or it fails. -/
inductive OperationEffect
  | move (address : UInt32) (dereferenced : Option UInt64) (rest : ByteString)
  | finish
  | fail (failure : AddressProgramFailure)

/-- Take a number of bytes, least significant first. -/
def takeNumber (count : Nat) (bytes : ByteString) : Option (Nat × ByteString) :=
  if bytes.length < count then Option.none
  else some (Library.Wire.ofLittleEndian (bytes.take count), bytes.drop count)

/-- An operation that moves by a 32-bit operand. -/
def moveByWord (bytes : ByteString) (move : UInt32 → UInt32) : OperationEffect :=
  match takeNumber 4 bytes with
  | Option.none => .fail .truncatedOperand
  | some (value, rest) => .move (move (UInt32.ofNat value)) Option.none rest

variable (guest : Guest)

/-- An operation at an address.  The bytes are those after its code. -/
def operate (address : UInt32) (code : UInt8) (bytes : ByteString) : OperationEffect :=
  match code with
  | 0x00 => if bytes.isEmpty then .finish else .fail .trailingBytes
  | 0x01 =>
    match takeNumber 2 bytes with
    | Option.none => .fail .truncatedOperand
    | some (key, rest) =>
      match guest.baseKeyResolver with
      | Option.none => .fail .missingBaseResolver
      | some resolve =>
        match resolve (UInt16.ofNat key) with
        | Option.none => .fail .baseResolutionFailed
        | some base => .move base Option.none rest
  | 0x02 =>
    match guest.readGuestValue address .u32 with
    | Option.none => .fail .guestReadFailed
    | some value => .move value.toUInt32 (some value) bytes
  | 0x03 => moveByWord bytes (address + ·)
  | 0x04 =>
    match takeNumber 2 bytes with
    | Option.none => .fail .truncatedOperand
    | some (count, after) =>
      match takeNumber 2 after with
      | Option.none => .fail .truncatedOperand
      | some (stride, rest) =>
        .move (address + UInt32.ofNat count * UInt32.ofNat stride) Option.none rest
  | 0x05 => moveByWord bytes (address + ·)
  | 0x06 =>
    match bytes with
    | [] => .fail .truncatedOperand
    | register :: rest =>
      if 32 ≤ register then .fail .invalidRegister
      else .move (guest.gpr register.toNat) Option.none rest
  | 0x07 => moveByWord bytes id
  | 0x08 =>
    match bytes with
    | [] => .fail .truncatedOperand
    | register :: after =>
      if 32 ≤ register then .fail .invalidRegister
      else moveByWord after (address + guest.gpr register.toNat * ·)
  | _ => .fail .unknownOperation

/-- The trace of a program that failed, at an operation or between two. -/
def failedTrace (address : UInt32) (steps : List RawAddressTraceStep)
    (operation : Nat) (failure : AddressProgramFailure) : RawAddressTrace where
  failureOperation := UInt8.ofNat operation
  failure := failure
  finalAddress := address
  operations := steps

/-- The loop over the operations.  Every one takes a byte or more, so that the
fuel may be the size of the program. -/
def runAddressProgram (guest : Guest) : Nat → ByteString → UInt32 → List RawAddressTraceStep →
      Option UInt32 × RawAddressTrace
  | 0, _, address, steps => (Option.none, failedTrace address steps steps.length .missingTerminator)
  | _ + 1, [], address, steps =>
    (Option.none, failedTrace address steps steps.length .missingTerminator)
  | fuel + 1, code :: bytes, address, steps =>
    if maximumTraceOperations ≤ steps.length then
      (Option.none, failedTrace address steps steps.length .operationLimit)
    else
      let step : RawAddressTraceStep :=
        { index := UInt8.ofNat steps.length
          operation := code, addressBefore := address }
      match operate guest address code bytes with
      | .move next dereferencedValue rest =>
        runAddressProgram guest fuel rest next (steps ++
          [{ step with dereferencedValue, addressAfter := next }])
      | .finish =>
        (some address,
          { success := true
            finalAddress := address
            operations := steps ++ [{ step with addressAfter := address }] })
      | .fail failure =>
        (Option.none, failedTrace address (steps ++
          [{ step with
            failure := failure
            addressAfter := if code = 0 then address else 0 }]) steps.length failure)

/-- `evaluate_address_program`, with its trace. -/
def evaluateAddressProgram (program : ByteString) : Option UInt32 × RawAddressTrace :=
  runAddressProgram guest (program.length + 1) program 0 []

theorem length_runAddressProgram (fuel : Nat) (bytes : ByteString)
    (address : UInt32) (steps : List RawAddressTraceStep)
    (few : steps.length ≤ maximumTraceOperations) :
    (runAddressProgram guest fuel bytes address steps).2.operations.length ≤
      maximumTraceOperations := by
  induction fuel generalizing bytes address steps with
  | zero => exact few
  | succ fuel ih =>
    cases bytes with
    | nil => exact few
    | cons code bytes =>
      unfold runAddressProgram
      split
      · exact few
      rename_i room
      have longer : ∀ step : RawAddressTraceStep,
          (steps ++ [step]).length ≤ maximumTraceOperations := by
        intro step
        rw [List.length_append, List.length_singleton]
        omega
      dsimp only
      split
      · exact ih _ _ _ (longer _)
      · exact longer _
      · exact longer _

theorem length_evaluateAddressProgram (program : ByteString) :
    (evaluateAddressProgram guest program).2.operations.length ≤ maximumTraceOperations :=
  length_runAddressProgram guest _ _ _ _ (Nat.zero_le _)

/-!
## Sampling a hit

A hit is sampled into a raw event.  Lists, stacks and traces go into its payload
as far as there is room.
-/

variable (sample : SampleDefinition)

open Capture (appendPod flag)
open Library.Stream (Word)
open Program (ByteString)

/-! ## The payload -/

/-- `payload_append`: append bytes if there is room for all of them. -/
def payloadAppend (payload bytes : ByteString) : Option ByteString :=
  if payload.length + bytes.length ≤ rawPayloadBytes then
    some (payload ++ bytes)
  else none

/-- Append pieces until there is no room for one: whether there was room for
all, and the payload then. -/
def payloadAppendAll : ByteString → List ByteString → Bool × ByteString
  | payload, [] => (true, payload)
  | payload, piece :: pieces =>
    match payloadAppend payload piece with
    | none => (false, payload)
    | some longer => payloadAppendAll longer pieces

/-- `memcpy` into the payload. -/
def payloadPatch (payload : ByteString) (offset : Nat) (bytes : ByteString) : ByteString :=
  payload.take offset ++ bytes ++ payload.drop (offset + bytes.length)

/-! ## Address traces -/

def traceStepPieces (step : RawAddressTraceStep) : List ByteString :=
  [appendPod .u8 step.index, appendPod .u8 step.operation,
    appendPod .u8 (flag step.dereferencedValue.isSome), appendPod .u8 step.failure.code,
    appendPod .u32 step.addressBefore, appendPod .u32 step.addressAfter,
    appendPod .u64 (step.dereferencedValue.getD 0)]

def traceHeaderPieces (trace : RawAddressTrace) : List ByteString :=
  [appendPod .u8 (UInt8.ofNat trace.operations.length), appendPod .u8 (flag trace.success),
    appendPod .u8 trace.failureOperation, appendPod .u8 trace.failure.code,
    appendPod .u32 trace.finalAddress]

def tracePieces (trace : RawAddressTrace) : List ByteString :=
  traceHeaderPieces trace ++ trace.operations.flatMap traceStepPieces

/-- `append_address_trace`, where there are this many fields already: the field
of the trace and the longer payload, if there is room for both. -/
def appendAddressTrace (fieldCount : Nat) (payload : ByteString)
    (sampleIndex : Nat) (trace : RawAddressTrace) : Option (RawField × ByteString) :=
  if maximumRawFields ≤ fieldCount then none
  else
    match payloadAppendAll payload (tracePieces trace) with
    | (false, _) => none
    | (true, longer) =>
      some ({ sampleIndex
              kind := rawFieldAddressTrace
              status := if trace.success then .present else .missing
              value := trace.finalAddress.toUInt64
              payloadOffset := payload.length
              payloadSize := longer.length - payload.length }, longer)

/-- Whether a policy asks for a trace. -/
def AddressTracePolicy.asks (policy : AddressTracePolicy) (trace : RawAddressTrace) : Bool :=
  policy = .always ∨ (policy = .onFailure ∧ !trace.success)

/-! ## Flags -/

/-- What the flags of a list or a stack say. -/
structure SampleFlags where
  (truncated cycle unreadable : Bool := false)

def SampleFlags.byte (flags : SampleFlags) : UInt8 :=
  (if flags.truncated then 0x1 else 0) ||| (if flags.cycle then 0x2 else 0) |||
    if flags.unreadable then 0x4 else 0

/-! ## Lists -/

/-- Where the sampling of a list stands. -/
structure ListSampling where
  payload : ByteString
  node : UInt32
  seen : List UInt32 := []
  nodeCount : Nat := 0
  flags : SampleFlags := {}

namespace ListSampling

def truncate (sampling : ListSampling) : ListSampling :=
  { sampling with flags := { sampling.flags with truncated := true } }

def unreadable (sampling : ListSampling) : ListSampling :=
  { sampling with flags := { sampling.flags with unreadable := true } }

end ListSampling

/-- The members of a node, until there is no room for one. -/
def sampleListMembers (guest : Guest) (node : UInt32) :
    List LinkedListField → ListSampling → Bool × ListSampling
  | [], sampling => (true, sampling)
  | field :: fields, sampling =>
    let value := guest.readGuestValue (displaced node field.offset) field.width
    let marked := if value.isNone then sampling.unreadable else sampling
    match payloadAppendAll marked.payload
        [appendPod .u8 (flag value.isSome), appendPod .u64 (value.getD 0)] with
    | (false, payload) => (false, { marked with payload }.truncate)
    | (true, payload) => sampleListMembers guest node fields { marked with payload }

/-- The loop over the nodes, of which this many may follow. -/
def sampleListNodes (guest : Guest) (sample : SampleDefinition) : Nat → ListSampling → ListSampling
  | 0, sampling => sampling
  | remaining + 1, sampling =>
    if sampling.node = 0 then sampling
    else if sampling.node ∈ sampling.seen then
      { sampling with flags := { sampling.flags with cycle := true } }
    else
      let met := { sampling with seen := sampling.seen ++ [sampling.node] }
      match payloadAppend met.payload (appendPod .u32 met.node) with
      | none => met.truncate
      | some payload =>
        match sampleListMembers guest met.node sample.linkedListFields { met with payload } with
        | (false, stopped) => { stopped with node := 0 }
        | (true, whole) =>
          let counted := { whole with nodeCount := whole.nodeCount + 1 }
          match guest.readPointer (displaced counted.node sample.nextOffset) with
          | none => counted.unreadable
          | some next => sampleListNodes guest sample remaining { counted with node := next }

/-- A field that is sampled, the payload then, and the field of a trace that
comes after it. -/
structure Sampled where
  field : RawField
  payload : ByteString
  trace : Option RawField := none

/-- The nodes after the header of a list. -/
def sampleListFrom (begin : Nat) (started : ListSampling) : ListSampling :=
  let walked := sampleListNodes guest sample sample.maxNodes.toNat started
  let ended :=
    if walked.node ≠ 0 ∧ sample.maxNodes.toNat ≤ walked.nodeCount then
      walked.truncate
    else walked
  { ended with
    payload := payloadPatch ended.payload (begin + 4)
      (appendPod .u16 (UInt16.ofNat ended.nodeCount) ++ [ended.flags.byte]) }

/-- The list at an address. -/
def sampleListAt (root : UInt32) (sampled : Sampled) : Sampled :=
  let begin := sampled.payload.length
  let field := { sampled.field with
    value := root.toUInt64, payloadOffset := begin }
  let head := guest.readPointer root
  let flags : SampleFlags := { unreadable := head.isNone }
  match payloadAppendAll sampled.payload
      [appendPod .u32 (head.getD 0), appendPod .u16 0, [flags.byte]] with
  | (false, payload) =>
    { sampled with
      field := { field with status := .truncated }, payload }
  | (true, payload) =>
    let listed := sampleListFrom guest sample begin { payload, node := head.getD 0, flags }
    { sampled with
      field := { field with
        payloadSize := listed.payload.length - begin
        status := if listed.flags.truncated then .truncated
          else field.status }
      payload := listed.payload }

/-! ## Stacks -/

/-- Where the sampling of a stack stands. -/
structure StackSampling where
  payload : ByteString
  stackPointer : UInt32
  seen : List UInt32 := []
  frameCount : Nat := 0
  flags : SampleFlags := {}

namespace StackSampling

def truncate (sampling : StackSampling) : StackSampling :=
  { sampling with flags := { sampling.flags with truncated := true } }

def unreadable (sampling : StackSampling) : StackSampling :=
  { sampling with flags := { sampling.flags with unreadable := true } }

end StackSampling

/-- Where the call was that returns here. -/
def callsite (returnPc : UInt32) : UInt32 := if 4 ≤ returnPc then returnPc - 4 else 0

def stackFramePieces (frame : Capture.StackFrame) : List ByteString :=
  [appendPod .u32 frame.stackPointer, appendPod .u32 frame.nextStackPointer,
    appendPod .u32 frame.returnPc, appendPod .u32 frame.callsitePc]

/-- Append a frame: whether there was room. -/
def StackSampling.append (sampling : StackSampling)
    (frame : Capture.StackFrame) : Bool × StackSampling :=
  match payloadAppendAll sampling.payload (stackFramePieces frame) with
  | (false, payload) => (false, { sampling with payload }.truncate)
  | (true, payload) =>
    (true, { sampling with
      payload, frameCount := sampling.frameCount + 1 })

/-- The frame of the function that is running. -/
def sampleRegisterFrame (sampling : StackSampling) : StackSampling :=
  if sample.maxFrames ≠ 0 ∧ guest.linkRegister ≠ 0 then
    (sampling.append
      { stackPointer := 0
        nextStackPointer := sampling.stackPointer
        returnPc := guest.linkRegister
        callsitePc := callsite guest.linkRegister }).2
  else sampling

/-- The frame at a stack pointer. -/
def readStackFrame (stackPointer : UInt32) : Option Capture.StackFrame := do
  let next ← guest.readPointer stackPointer
  let returnPc ← guest.readPointer (stackPointer + 4)
  pure { stackPointer, nextStackPointer := next, returnPc
         callsitePc := callsite returnPc }

/-- The loop over the frames, of which this many may follow. -/
def sampleStackFrames (guest : Guest) : Nat → StackSampling → StackSampling
  | 0, sampling => sampling
  | remaining + 1, sampling =>
    if sampling.stackPointer = 0 then sampling
    else if sampling.stackPointer ∈ sampling.seen then
      { sampling with flags := { sampling.flags with cycle := true } }
    else
      let met := { sampling with
        seen := sampling.seen ++ [sampling.stackPointer] }
      match readStackFrame guest met.stackPointer with
      | none => met.unreadable
      | some frame =>
        match met.append frame with
        | (false, stopped) => stopped
        | (true, longer) =>
          let next := frame.nextStackPointer
          if next = 0 ∨ next = met.stackPointer ∨ next &&& 3 ≠ 0 then
            longer
          else
            sampleStackFrames guest remaining { longer with stackPointer := next }

/-- The frames after the header of a stack. -/
def sampleStackFrom (begin : Nat) (started : StackSampling) : StackSampling :=
  let first := sampleRegisterFrame guest sample started
  let walked := sampleStackFrames guest (sample.maxFrames.toNat - first.frameCount) first
  let ended :=
    if walked.stackPointer ≠ 0 ∧ sample.maxFrames.toNat ≤ walked.frameCount then
      walked.truncate
    else walked
  { ended with
    payload := payloadPatch ended.payload begin [UInt8.ofNat ended.frameCount, ended.flags.byte] }

/-- The stack of the guest. -/
def sampleStack (sampled : Sampled) : Sampled :=
  let begin := sampled.payload.length
  let field := { sampled.field with payloadOffset := begin }
  match payloadAppendAll sampled.payload [[0], [0]] with
  | (false, payload) =>
    { sampled with
      field := { field with status := .truncated }, payload }
  | (true, payload) =>
    let stacked := sampleStackFrom guest sample begin { payload, stackPointer := guest.gpr 1 }
    { sampled with
      field := { field with
        payloadSize := stacked.payload.length - begin
        status := if stacked.flags.truncated then .truncated
          else field.status }
      payload := stacked.payload }

/-! ## Samples -/

/-- A value that the stop router sampled. -/
structure ProbeRoutedHitSample where
  descriptorId : UInt32
  value : UInt64
  available : Bool

/-- What is known of a value that may be missing. -/
def RawField.withValue (field : RawField) : Option UInt64 → RawField
  | some value => { field with value }
  | none => { field with status := .missing }

/-- A value at an address. -/
def RawField.withRead (field : RawField) (guest : Guest)
    (sample : SampleDefinition) (address : UInt32) : RawField :=
  field.withValue (guest.readGuestValue address sample.width)

/-- The value that was sampled under an id, if it is there. -/
def routedValue (samples : List ProbeRoutedHitSample) (id : UInt32) : Option UInt64 :=
  match samples.find? (·.descriptorId == id) with
  | none => none
  | some found => if found.available then some found.value else none

/-- Add the trace of an address program to a field. -/
def Sampled.traced (sampled : Sampled) (fieldCount sampleIndex : Nat)
    (trace : RawAddressTrace) : Sampled :=
  match appendAddressTrace (fieldCount + 1) sampled.payload sampleIndex trace with
  | none => { sampled with field := { sampled.field with status := .truncated } }
  | some (field, payload) => { sampled with payload, trace := some field }

/-- A value at the address that a program computes. -/
def sampleAddressProgram (fieldCount sampleIndex : Nat) (sampled : Sampled) : Sampled :=
  let evaluated := evaluateAddressProgram guest sample.addressProgram
  let value := evaluated.1.bind fun address => guest.readGuestValue address sample.width
  let read := { sampled with field := sampled.field.withValue value }
  if sample.trace.asks evaluated.2 then
    read.traced fieldCount sampleIndex evaluated.2
  else read

/-- A list at an address that is given or computed. -/
def sampleLinkedList (fieldCount sampleIndex : Nat) (sampled : Sampled) : Sampled :=
  let evaluated : Option UInt32 × RawAddressTrace :=
    if sample.addressProvided then (some sample.address, {})
    else evaluateAddressProgram guest sample.addressProgram
  let traced :=
    if sample.addressProgram ≠ [] ∧ sample.trace.asks evaluated.2 then
      sampled.traced fieldCount sampleIndex evaluated.2
    else sampled
  match evaluated.1 with
  | none => { traced with field := { traced.field with status := .missing } }
  | some root => sampleListAt guest sample root traced

/-- A sample, after this many fields and this payload.  The samples of the stop
router are there for hits of a program counter. -/
def sampleOne (routed : Option (List ProbeRoutedHitSample))
    (fieldCount sampleIndex : Nat) (sample : SampleDefinition) (payload : ByteString) : Sampled :=
  let field : RawField := { sampleIndex, kind := sample.kind.code }
  let sampled : Sampled := { field, payload }
  let read (address : UInt32) : Sampled :=
    { sampled with field := field.withRead guest sample address }
  match sample.kind with
  | .gpr =>
    if 32 ≤ sample.baseRegister then
      { sampled with field := { field with status := .invalid } }
    else
      { sampled with field := { field with
          value := (guest.gpr sample.baseRegister.toNat).toUInt64 } }
  | .constant => { sampled with field := { field with value := sample.constant } }
  | .registerMemory =>
    if 32 ≤ sample.baseRegister then
      { sampled with field := { field with status := .invalid } }
    else
      read (displaced (guest.gpr sample.baseRegister.toNat) sample.offset)
  | .addressProgram => sampleAddressProgram guest sample fieldCount sampleIndex sampled
  | .memory => read sample.address
  | .routedSample =>
    let value := routed.bind fun samples => routedValue samples sample.routedSampleDescriptorId
    { sampled with field := field.withValue value }
  | .linkedList => sampleLinkedList guest sample fieldCount sampleIndex sampled
  | .stackTrace => sampleStack guest sample sampled

/-- The loop over the samples, from an index on. -/
def sampleEach (guest : Guest) (routed : Option (List ProbeRoutedHitSample)) :
    Nat → List SampleDefinition → List RawField × ByteString → List RawField × ByteString
  | _, [], recorded => recorded
  | index, sample :: samples, (fields, payload) =>
    if maximumRawFields ≤ fields.length then (fields, payload)
    else
      let sampled := sampleOne guest routed fields.length index sample payload
      sampleEach guest routed (index + 1) samples
        (fields ++ sampled.field :: sampled.trace.toList, sampled.payload)

/-- What a hit is stamped with. -/
structure ProbeHit where
  (captureSequence monotonicNs frameIndex guestWorksetEpoch snapshotId : UInt64)
  hitCount : UInt64
  pc : UInt32
  (address size : UInt32 := 0)
  value : UInt64 := 0
  controlPublished : Bool := false
  routed : Option (List ProbeRoutedHitSample) := none

/-- The raw event of a hit of the probe with an index: `sample_probe` and the
stamps after it. -/
def sampleProbe (profile : Profile) (probeIndex : Nat) (probe : ProbeDefinition)
    (guest : Guest) (hit : ProbeHit) : RawProbeEvent :=
  let recorded := sampleEach guest hit.routed 0 probe.samples ([], [])
  { captureSequence := hit.captureSequence
    monotonicNs := hit.monotonicNs
    frameIndex := hit.frameIndex
    guestWorksetEpoch := hit.guestWorksetEpoch
    profileRevision := profile.revision
    snapshotId := hit.snapshotId
    hitCount := hit.hitCount
    value := hit.value
    probeIndex := UInt32.ofNat probeIndex
    pc := hit.pc
    address := hit.address
    size := hit.size
    kind := probe.kind.code
    controlPublished := hit.controlPublished
    fields := recorded.1
    payload := recorded.2 }

end Savor.Probe


import Savor.Probe.ProbeSampling

/-!
# Lists and stacks of the guest

What there is to read of a list or a stack, whatever room the payload has, and
when the sampling of it is cut off.
-/

namespace Savor.Probe

open Capture (Field LinkedListMember LinkedListNode StackFrame)
open Program (ByteString)

variable (guest : Guest)

/-! ## Lists -/

/-- A member as it is recorded, whether it can be read or not. -/
def listMember (node : UInt32) (definition : LinkedListField) : LinkedListMember :=
  let value := guest.readGuestValue (displaced node definition.offset) definition.width
  { name := definition.name
    width := definition.width.code
    status := if value.isSome then .present else .missing
    value := value.getD 0 }

variable (sample : SampleDefinition)

/-- A node as it is recorded. -/
def listNode (node : UInt32) : LinkedListNode where
  address := node
  fields := sample.linkedListFields.map (listMember guest node)

/-- A node that can be read completely. -/
def NodeReadable (node : UInt32) : Prop :=
  ∀ definition ∈ sample.linkedListFields,
    (guest.readGuestValue (displaced node definition.offset) definition.width).isSome = true

/-- The pointer to the node after a node. -/
def nextNode (node : UInt32) : Option UInt32 := guest.readPointer (displaced node sample.nextOffset)

/-- The nodes from an address on, after those that were seen.  Everything can be
read, and the list ends with a null pointer or comes back to a node. -/
inductive ListFrom (sample : SampleDefinition) : List UInt32 → UInt32 → List LinkedListNode → Prop
  | null (seen : List UInt32) : ListFrom sample seen 0 []
  | cycle {seen : List UInt32} {node : UInt32} (again : node ∈ seen) : ListFrom sample seen node []
  | node {seen : List UInt32} {node next : UInt32}
      {nodes : List LinkedListNode} (new : node ≠ 0 ∧ node ∉ seen)
      (readable : NodeReadable guest sample node)
      (follows : nextNode guest sample node = some next)
      (rest : ListFrom sample (seen ++ [node]) next nodes) :
      ListFrom sample seen node (listNode guest sample node :: nodes)

/-- The bytes of a node in the payload. -/
def nodeSize : Nat := 4 + 9 * sample.linkedListFields.length

/-- A list has more nodes than may follow, or than there is room for. -/
def ListCut (sample : SampleDefinition) : Nat → Nat → List UInt32 → UInt32 → Prop
  | 0, _, _, node => node ≠ 0
  | remaining + 1, used, seen, node =>
    node ≠ 0 ∧ node ∉ seen ∧
      (rawPayloadBytes < used + nodeSize sample ∨ match nextNode guest sample node with
        | some next => ListCut sample remaining (used + nodeSize sample) (seen ++ [node]) next
        | none => remaining = 0)

/-! ## Stacks -/

/-- The stack ends with a frame. -/
def StackFrame.isLast (frame : StackFrame) : Bool :=
  frame.nextStackPointer = 0 ∨ frame.nextStackPointer = frame.stackPointer ∨
    frame.nextStackPointer &&& 3 ≠ 0

/-- The frames from a stack pointer on, after those that were seen.  Everything
can be read. -/
inductive StackFrom : List UInt32 → UInt32 → List StackFrame → Prop
  | null (seen : List UInt32) : StackFrom seen 0 []
  | cycle {seen : List UInt32} {stackPointer : UInt32}
      (again : stackPointer ∈ seen) : StackFrom seen stackPointer []
  | last {seen : List UInt32} {stackPointer : UInt32} {frame : StackFrame}
      (new : stackPointer ≠ 0 ∧ stackPointer ∉ seen)
      (read : readStackFrame guest stackPointer = some frame)
      (ends : StackFrame.isLast frame = true) :
      StackFrom seen stackPointer [frame]
  | frame {seen : List UInt32} {stackPointer : UInt32} {frame : StackFrame}
      {frames : List StackFrame} (new : stackPointer ≠ 0 ∧ stackPointer ∉ seen)
      (read : readStackFrame guest stackPointer = some frame)
      (goes : StackFrame.isLast frame = false)
      (rest : StackFrom (seen ++ [stackPointer]) frame.nextStackPointer frames) :
      StackFrom seen stackPointer (frame :: frames)

/-- The bytes of a frame in the payload. -/
def frameSize : Nat := 16

/-- A stack has more frames than may follow, or than there is room for. -/
def StackCut : Nat → Nat → List UInt32 → UInt32 → Prop
  | 0, _, _, stackPointer => stackPointer ≠ 0
  | remaining + 1, used, seen, stackPointer =>
    stackPointer ≠ 0 ∧ stackPointer ∉ seen ∧
      match readStackFrame guest stackPointer with
      | none => False
      | some frame =>
        rawPayloadBytes < used + frameSize ∨
          if StackFrame.isLast frame then remaining = 0
          else StackCut remaining (used + frameSize) (seen ++ [stackPointer]) frame.nextStackPointer

/-- The frame of the function that is running, if it was called. -/
def registerFrame : Option StackFrame :=
  if guest.linkRegister = 0 then none
  else some
    { stackPointer := 0
      nextStackPointer := guest.gpr 1
      returnPc := guest.linkRegister
      callsitePc := callsite guest.linkRegister }

/-- The stack of the guest has more frames than are asked for, or than there is
room for after this many bytes. -/
def StackIsCut (maxFrames used : Nat) : Prop :=
  match registerFrame guest with
  | none => StackCut guest maxFrames used [] (guest.gpr 1)
  | some _ =>
    rawPayloadBytes < used + frameSize ∨
      StackCut guest (maxFrames - 1) (used + frameSize) [] (guest.gpr 1)

/-! ## Values that were read completely -/

/-- A list that was read completely. -/
def ListRead (root : UInt32) (field : Field) : Prop :=
  ∃ list ∈ field.linkedList, list.rootAddress = root ∧ guest.readPointer root = some list.head ∧
    ListFrom guest sample [] list.head list.nodes

/-- A stack that was read completely. -/
def StackRead (field : Field) : Prop :=
  ∃ stack ∈ field.stackTrace, ∃ frames,
    StackFrom guest [] (guest.gpr 1) frames ∧ stack.frames = (registerFrame guest).toList ++ frames

/-- The root of a list. -/
def listRoot : Option UInt32 :=
  if sample.addressProvided then some sample.address
  else (evaluateAddressProgram guest sample.addressProgram).1

/-- The field of a sample has what the sample asks for, all of it. -/
def ReadCompletely (routed : Option (List ProbeRoutedHitSample))
    (sample : SampleDefinition) (field : Field) : Prop :=
  match sample.kind with
  | .gpr => sample.baseRegister < 32 ∧ field.value = (guest.gpr sample.baseRegister.toNat).toUInt64
  | .constant => field.value = sample.constant
  | .registerMemory =>
    sample.baseRegister < 32 ∧
      guest.readGuestValue (displaced (guest.gpr sample.baseRegister.toNat) sample.offset)
        sample.width = some field.value
  | .memory => guest.readGuestValue sample.address sample.width = some field.value
  | .addressProgram =>
    ∃ address ∈ (evaluateAddressProgram guest sample.addressProgram).1,
      guest.readGuestValue address sample.width = some field.value
  | .routedSample =>
    ∃ samples ∈ routed, routedValue samples sample.routedSampleDescriptorId = some field.value
  | .linkedList => ∃ root ∈ listRoot guest sample, ListRead guest sample root field
  | .stackTrace => StackRead guest field

/-! ## Samples that stay readable -/

/-- The payload after the trace of a list, and whether there was room for it. -/
def listPayload (fieldCount : Nat) (payload : ByteString) : ByteString × Bool :=
  let trace := (evaluateAddressProgram guest sample.addressProgram).2
  if !sample.addressProvided && sample.addressProgram ≠ [] && sample.trace.asks trace then
    (appendAddressTrace (fieldCount + 1) payload 0 trace).elim (payload, false)
      fun appended => (appended.2, true)
  else (payload, true)

/-- The header of a list or a stack. -/
def listHeaderSize : Nat := 7

def stackHeaderSize : Nat := 2

/-- After this many fields and this payload, a list has a root, there is room
for its header, and it can be read to its end unless it is cut off. -/
def ListAllowed (fieldCount : Nat) (payload : ByteString) : Prop :=
  let traced := listPayload guest sample fieldCount payload
  let used := traced.1.length + listHeaderSize
  used ≤ rawPayloadBytes ∧
    ∃ root ∈ listRoot guest sample, traced.2 = false ∨
      ListCut guest sample sample.maxNodes.toNat used [] ((guest.readPointer root).getD 0) ∨
      ∃ head ∈ guest.readPointer root, ∃ nodes, ListFrom guest sample [] head nodes

/-- After this payload there is room for the header of a stack, and the stack
can be read to its end unless it is cut off. -/
def StackAllowed (payload : ByteString) : Prop :=
  let used := payload.length + stackHeaderSize
  used ≤ rawPayloadBytes ∧
    (StackIsCut guest sample.maxFrames.toNat used ∨
      ∃ frames, StackFrom guest [] (guest.gpr 1) frames)

def SampleAllowed (fieldCount : Nat) (payload : ByteString) : Prop :=
  match sample.kind with
  | .linkedList => ListAllowed guest sample fieldCount payload
  | .stackTrace => StackAllowed guest sample payload
  | _ => True

/-- Every sample is allowed after those before it. -/
def SamplesAllowed (routed : Option (List ProbeRoutedHitSample)) :
    Nat → List SampleDefinition → List RawField × ByteString → Prop
  | _, [], _ => True
  | index, sample :: samples, (fields, payload) =>
    let sampled := sampleOne guest routed fields.length index sample payload
    SampleAllowed guest sample fields.length payload ∧
      SamplesAllowed routed (index + 1) samples
        (fields ++ sampled.field :: sampled.trace.toList, sampled.payload)

/-!
## Raw events become captured events

The recorder reads the fields of a raw event back from its payload.
-/

variable (window : ByteString)

open Capture (Event Field LinkedListMember LinkedListNode LinkedListValue
  StackFrame StackTraceValue AddressTraceOperation AddressTraceValue)
open Library.Stream (Word)
open Program (ByteString text)

/-- The part of the payload that a field names. -/
def payloadWindow (payload : ByteString) (field : RawField) : ByteString :=
  (payload.take (field.payloadOffset + field.payloadSize)).drop field.payloadOffset

/-- Read a number.  If it is not there, nothing is consumed. -/
def readPayload {Value : Type} (word : Word Value) (window : ByteString) :
    Option (Value × ByteString) :=
  if window.length < word.width then none
  else some (word.decode (window.take word.width), window.drop word.width)

/-- What is read of a payload until something is not there: the value so far,
whether all of it was there, and the bytes that are left. -/
structure PartlyRead (Value : Type) where
  value : Value
  whole : Bool
  rest : ByteString

/-! ## Address traces -/

/-- The failure of an operation, if there is one. -/
def failureText (failure : UInt8) : ByteString :=
  if failure = AddressProgramFailure.none.code then []
  else addressProgramFailureName failure

def readTraceOperation : Option (AddressTraceOperation × ByteString) := do
  let (index, window) ← readPayload .u8 window
  let (operation, window) ← readPayload .u8 window
  let (hasDereference, window) ← readPayload .u8 window
  let (failure, window) ← readPayload .u8 window
  let (addressBefore, window) ← readPayload .u32 window
  let (addressAfter, window) ← readPayload .u32 window
  let (dereferenced, window) ← readPayload .u64 window
  pure ({ index, operation, addressBefore, addressAfter
          dereferencedValue := if hasDereference = 0 then none else some dereferenced
          failure := failureText failure }, window)

def readTraceOperations : Nat → ByteString → PartlyRead (List AddressTraceOperation)
  | 0, window => ⟨[], true, window⟩
  | count + 1, window =>
    match readTraceOperation window with
    | none => ⟨[], false, window⟩
    | some (operation, rest) =>
      let others := readTraceOperations count rest
      ⟨operation :: others.value, others.whole, others.rest⟩

/-- The count of the operations, and the trace without them. -/
def readTraceHeader : Option ((UInt8 × AddressTraceValue) × ByteString) := do
  let (count, window) ← readPayload .u8 window
  let (success, window) ← readPayload .u8 window
  let (failureOperation, window) ← readPayload .u8 window
  let (failure, window) ← readPayload .u8 window
  let (finalAddress, window) ← readPayload .u32 window
  pure ((count, {
    success := success != 0
    finalAddress
    failureOperation :=
      if failure = AddressProgramFailure.none.code then none
      else some failureOperation
    failure := failureText failure }), window)

/-- A field whose payload is not what it should be. -/
def invalid (field : Field) : Field := { field with status := .invalid }

/-- Invalid, unless the payload was there. -/
def validIf (whole : Bool) (field : Field) : Field := if whole then field else invalid field

def decodeAddressTrace (field : Field) (window : ByteString) : Field :=
  let typed := { field with type := .addressTrace }
  match readTraceHeader window with
  | none => invalid typed
  | some ((count, trace), rest) =>
    if 64 < count then invalid typed
    else
      let operations := readTraceOperations count.toNat rest
      let whole := { trace with operations := operations.value }
      validIf (operations.whole && operations.rest.isEmpty)
        { typed with addressTrace := some whole }

/-! ## Lists -/

def readListMembers : List LinkedListField → ByteString → PartlyRead (List LinkedListMember)
  | [], window => ⟨[], true, window⟩
  | definition :: definitions, window =>
    match readPayload .u8 window with
    | none => ⟨[], false, window⟩
    | some (present, after) =>
      match readPayload .u64 after with
      | none => ⟨[], false, after⟩
      | some (value, rest) =>
        let others := readListMembers definitions rest
        ⟨{ name := definition.name
           width := definition.width.code
           status := if present = 0 then .missing else .present
           value } :: others.value, others.whole, others.rest⟩

/-- A node that lacks members is kept, and the reading goes on. -/
def readListNodes (definitions : List LinkedListField) :
    Nat → ByteString → PartlyRead (List LinkedListNode)
  | 0, window => ⟨[], true, window⟩
  | count + 1, window =>
    match readPayload .u32 window with
    | none => ⟨[], false, window⟩
    | some (address, after) =>
      let members := readListMembers definitions after
      let others := readListNodes definitions count members.rest
      ⟨{ address, fields := members.value } :: others.value,
        members.whole && others.whole, others.rest⟩

/-- The head of a list, the count of its nodes and the flags. -/
def readListHeader : Option ((UInt32 × UInt16 × UInt8) × ByteString) := do
  let (head, window) ← readPayload .u32 window
  let (count, window) ← readPayload .u16 window
  let (flags, window) ← readPayload .u8 window
  pure ((head, count, flags), window)

def decodeLinkedList (raw : RawField) (field : Field) (window : ByteString) : Field :=
  let typed := { field with type := .linkedList }
  match readListHeader window with
  | none => invalid typed
  | some ((head, count, flags), rest) =>
    let nodes := readListNodes sample.linkedListFields count.toNat rest
    let list : LinkedListValue :=
      { rootAddress := raw.value.toUInt32
        head
        readOk := flags &&& 0x4 = 0
        truncated := flags &&& 0x1 ≠ 0
        cycleDetected := flags &&& 0x2 ≠ 0
        nodes := nodes.value }
    validIf nodes.whole { typed with linkedList := some list }

/-! ## Stacks -/

def readFrame : Option (StackFrame × ByteString) := do
  let (stackPointer, window) ← readPayload .u32 window
  let (nextStackPointer, window) ← readPayload .u32 window
  let (returnPc, window) ← readPayload .u32 window
  let (callsitePc, window) ← readPayload .u32 window
  pure ({ stackPointer, nextStackPointer, returnPc, callsitePc }, window)

def readFrames : Nat → ByteString → PartlyRead (List StackFrame)
  | 0, window => ⟨[], true, window⟩
  | count + 1, window =>
    match readFrame window with
    | none => ⟨[], false, window⟩
    | some (frame, rest) =>
      let others := readFrames count rest
      ⟨frame :: others.value, others.whole, others.rest⟩

/-- The count of the frames, and the flags. -/
def readStackHeader : Option ((UInt8 × UInt8) × ByteString) := do
  let (count, window) ← readPayload .u8 window
  let (flags, window) ← readPayload .u8 window
  pure ((count, flags), window)

def decodeStackTrace (field : Field) (window : ByteString) : Field :=
  let typed := { field with type := .stackTrace }
  match readStackHeader window with
  | none => invalid typed
  | some ((count, flags), rest) =>
    if 64 < count then invalid typed
    else
      let frames := readFrames count.toNat rest
      let stack : StackTraceValue :=
        { readOk := flags &&& 0x4 = 0
          truncated := flags &&& 0x1 ≠ 0
          cycleDetected := flags &&& 0x2 ≠ 0
          frames := frames.value }
      validIf frames.whole { typed with stackTrace := some stack }

/-! ## Events -/

/-- A field of a probe.  A field without a sample is left out, unless it is an
address trace. -/
def decodeField (samples : List SampleDefinition) (payload : ByteString)
    (raw : RawField) : Option Field :=
  let sample := samples[raw.sampleIndex]?
  let window := payloadWindow payload raw
  let field (name : ByteString) : Field :=
    { name, status := raw.status.carried, value := raw.value }
  if raw.kind = rawFieldAddressTrace then
    let name := match sample with
      | some sample => sample.name ++ text ".address_trace"
      | none => text "address_root.trace"
    some (decodeAddressTrace (field name) window)
  else sample.map fun sample =>
    match sample.kind with
    | .linkedList => decodeLinkedList sample raw (field sample.name) window
    | .stackTrace => decodeStackTrace (field sample.name) window
    | _ => field sample.name

def decodeEvent (profile : Profile) (raw : RawProbeEvent) : Event :=
  let event : Event :=
    { captureSequence := raw.captureSequence
      monotonicNs := raw.monotonicNs
      frameIndex := raw.frameIndex
      guestWorksetEpoch := raw.guestWorksetEpoch
      profileRevision := raw.profileRevision
      snapshotId := raw.snapshotId
      pc := raw.pc
      address := raw.address
      size := raw.size
      value := raw.value }
  if raw.probeIndex = syntheticControlProbeIndex then
    { event with kind := .control, probeId := text "control.hit" }
  else if raw.probeIndex = syntheticMarkerProbeIndex then
    { event with kind := .marker, probeId := raw.payload }
  else
    match profile.probes[raw.probeIndex.toNat]? with
    | none => event
    | some probe =>
      { event with
        probeId :=
          if raw.addressResolution then
            probe.id ++ text ".address_resolution"
          else probe.id
        kind :=
          if raw.addressResolution then .marker
          else if probe.kind = .memory then .memory
          else if probe.subscriptions.progress && !probe.subscriptions.capture then .progress
          else .pc
        fields :=
          { name := text "hit_count", value := raw.hitCount } ::
            raw.fields.filterMap (decodeField probe.samples raw.payload) }

end Savor.Probe


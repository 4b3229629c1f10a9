import Savor.Library.Stream
import Savor.Library.Sorting
import Savor.Model.Identifiers
import Savor.Library.Deciding

/-!
# Capture events

What a capture records, events with their fields and the structured values that
a field may carry, and how it is coded.
-/

namespace Savor.Capture

open Library.Stream (Word)
open Library.Wire (Decoder)
open Program (ByteString text decimal)

section Coding

/-- What an event is about. -/
inductive EventKind
  | pc
  | memory
  | progress
  | marker
  | control
  | gap
  | metrics
  /-- A value of the underlying type without an enumerator. -/
  | unlisted (code : UInt8) (outside : code = 0 ∨ 7 < code)
  deriving DecidableEq

namespace EventKind

/-- The underlying value. -/
def code : EventKind → UInt8
  | .pc => 1
  | .memory => 2
  | .progress => 3
  | .marker => 4
  | .control => 5
  | .gap => 6
  | .metrics => 7
  | .unlisted code _ => code

/-- The cast from the underlying type. -/
def ofCode (code : UInt8) : EventKind :=
  if outside : code = 0 ∨ 7 < code then .unlisted code outside
  else
    match code with
    | 1 => .pc
    | 2 => .memory
    | 3 => .progress
    | 4 => .marker
    | 5 => .control
    | 6 => .gap
    | _ => .metrics

@[simp] theorem ofCode_code (kind : EventKind) : ofCode kind.code = kind := by
  cases kind with
  | unlisted code outside => exact dif_pos outside
  | _ => rfl

end EventKind

/-- What the value of a field is. -/
inductive FieldType
  | unsigned
  | signed
  | floatBits
  | bytes
  | text
  | linkedList
  | stackTrace
  | addressTrace
  /-- A value of the underlying type without an enumerator. -/
  | unlisted (code : UInt8) (outside : code = 0 ∨ 8 < code)
  deriving DecidableEq

namespace FieldType

/-- The underlying value. -/
def code : FieldType → UInt8
  | .unsigned => 1
  | .signed => 2
  | .floatBits => 3
  | .bytes => 4
  | .text => 5
  | .linkedList => 6
  | .stackTrace => 7
  | .addressTrace => 8
  | .unlisted code _ => code

/-- The cast from the underlying type. -/
def ofCode (code : UInt8) : FieldType :=
  if outside : code = 0 ∨ 8 < code then .unlisted code outside
  else
    match code with
    | 1 => .unsigned
    | 2 => .signed
    | 3 => .floatBits
    | 4 => .bytes
    | 5 => .text
    | 6 => .linkedList
    | 7 => .stackTrace
    | _ => .addressTrace

@[simp] theorem ofCode_code (type : FieldType) : ofCode type.code = type := by
  cases type with
  | unlisted code outside => exact dif_pos outside
  | _ => rfl

end FieldType

/-- Whether the value of a field was read. -/
inductive FieldStatus
  | present
  | missing
  | truncated
  | invalid
  /-- A value of the underlying type without an enumerator. -/
  | unlisted (code : UInt8) (outside : 3 < code)
  deriving DecidableEq

namespace FieldStatus

/-- The underlying value. -/
def code : FieldStatus → UInt8
  | .present => 0
  | .missing => 1
  | .truncated => 2
  | .invalid => 3
  | .unlisted code _ => code

/-- The cast from the underlying type. -/
def ofCode (code : UInt8) : FieldStatus :=
  if outside : 3 < code then .unlisted code outside
  else
    match code with
    | 0 => .present
    | 1 => .missing
    | 2 => .truncated
    | _ => .invalid

@[simp] theorem ofCode_code (status : FieldStatus) : ofCode status.code = status := by
  cases status with
  | unlisted code outside => exact dif_pos outside
  | _ => rfl

end FieldStatus

/-- A member of a list node. -/
structure LinkedListMember where
  name : ByteString := []
  width : UInt8 := 4
  status : FieldStatus := .present
  value : UInt64 := 0
  deriving DecidableEq

structure LinkedListNode where
  address : UInt32 := 0
  fields : List LinkedListMember := []
  deriving DecidableEq

structure LinkedListValue where
  (rootAddress head : UInt32 := 0)
  (readOk truncated cycleDetected : Bool := false)
  nodes : List LinkedListNode := []
  deriving DecidableEq

structure StackFrame where
  (stackPointer nextStackPointer returnPc callsitePc : UInt32 := 0)
  deriving DecidableEq

structure StackTraceValue where
  (readOk truncated cycleDetected : Bool := false)
  frames : List StackFrame := []
  deriving DecidableEq

structure AddressTraceOperation where
  (index operation : UInt8 := 0)
  (addressBefore addressAfter : UInt32 := 0)
  dereferencedValue : Option UInt64 := none
  failure : ByteString := []
  deriving DecidableEq

structure AddressTraceValue where
  success : Bool := false
  finalAddress : UInt32 := 0
  failureOperation : Option UInt8 := none
  failure : ByteString := []
  operations : List AddressTraceOperation := []
  deriving DecidableEq

/-- A field of an event.  Which payload it uses depends on its type; the others
may be there all the same. -/
structure Field where
  name : ByteString := []
  type : FieldType := .unsigned
  status : FieldStatus := .present
  value : UInt64 := 0
  bytes : ByteString := []
  linkedList : Option LinkedListValue := none
  stackTrace : Option StackTraceValue := none
  addressTrace : Option AddressTraceValue := none
  deriving DecidableEq

variable (field : Field) (bitmap : ByteString)

namespace Field

def sameShape (other : Field) : Bool := field.name == other.name && field.type == other.type

def sameValue (other : Field) : Bool :=
  field.sameShape other && field.status == other.status &&
    field.value == other.value && field.bytes == other.bytes &&
    field.linkedList == other.linkedList && field.stackTrace == other.stackTrace &&
    field.addressTrace == other.addressTrace

theorem sameValue_iff (other : Field) : field.sameValue other = true ↔ field = other := by
  cases field
  cases other
  simp [sameValue, sameShape, and_assoc]

end Field

/-- A captured event. -/
structure Event where
  (captureSequence recordSequence monotonicNs frameIndex : UInt64 := 0)
  (guestWorksetEpoch profileRevision snapshotId : UInt64 := 0)
  kind : EventKind := .pc
  (pc address size : UInt32 := 0)
  value : UInt64 := 0
  probeId : ByteString := []
  fields : List Field := []
  deriving DecidableEq

/-!
## The coding of capture events

Events are coded one after the other.  An event names its fields in full when
there is no baseline of its probe, epoch and revision with fields of the same
shape, and otherwise only sends the fields that changed.
-/

/-- A function that reads on from an offset, or returns false. -/
abbrev Reading : Type → Type := Decoder Unit Unit

def appendPod {Value : Type} (word : Word Value) (value : Value) : ByteString := word.encode value

def readPod {Value : Type} (word : Word Value) : Reading Value := do
  let bytes ← Decoder.take () word.width
  pure (word.decode bytes)

def appendVarint (value : UInt64) : ByteString :=
  if 0x80 ≤ value then (value.toUInt8 ||| 0x80) :: appendVarint (value >>> 7)
  else [value.toUInt8]
termination_by value.toNat
decreasing_by
  rename_i large
  rw [UInt64.le_iff_toNat_le] at large
  rw [UInt64.toNat_shiftRight]
  exact Nat.lt_of_le_of_lt
    (Nat.le_of_eq (Nat.shiftRight_eq_div_pow _ _))
    (Nat.div_lt_self (Nat.lt_of_lt_of_le (by decide) large) (by decide))

/-- The shifts of the loop: `shift = 0; shift < 64; shift += 7`. -/
def varintShifts : List UInt64 := [0, 7, 14, 21, 28, 35, 42, 49, 56, 63]

def readVarintFrom (value : UInt64) : List UInt64 → Reading UInt64
  | [] => Decoder.fail ()
  | shift :: shifts => do
      let byte ← Decoder.byte ()
      let value := value ||| ((byte &&& 0x7f).toUInt64 <<< shift)
      if byte &&& 0x80 = 0 then pure value else readVarintFrom value shifts

def readVarint : Reading UInt64 := readVarintFrom 0 varintShifts

/-- A size, which fits where the vector itself does. -/
def appendSize (size : Nat) : ByteString := appendVarint (UInt64.ofNat size)

def appendString (value : ByteString) : ByteString := appendSize value.length ++ value

def readString : Reading ByteString := do
  let size ← readVarint
  Decoder.take () size.toNat

/-- A list after its length. -/
def appendList {Value : Type} (append : Value → ByteString) (values : List Value) : ByteString :=
  appendSize values.length ++ values.flatMap append

/-- Read a count that may not exceed the maximum. -/
def readCount (maximum : Nat) : Reading Nat := do
  let count ← readVarint
  Decoder.check (count.toNat ≤ maximum) ()
  pure count.toNat

/-- Read a list that may not be longer than the maximum. -/
def readList {Value : Type} (maximum : Nat) (read : Reading Value) : Reading (List Value) := do
  let count ← readCount maximum
  Decoder.replicate read count

/-- `value ? 1 : 0`. -/
def flag (value : Bool) : UInt8 := if value then 1 else 0

def readFlag : Reading Bool := do
  let byte ← Decoder.byte ()
  pure (byte != 0)

def fieldUsesBlob : FieldType → Bool
  | .bytes | .text | .linkedList | .stackTrace | .addressTrace => true
  | _ => false

/-! ## Structured fields -/

def linkedListMemberBytes (member : LinkedListMember) : ByteString :=
  List.flatten
    [appendString member.name, [member.width], [member.status.code], appendPod .u64 member.value]

def linkedListNodeBytes (node : LinkedListNode) : ByteString :=
  List.flatten [appendPod .u32 node.address, appendList linkedListMemberBytes node.fields]

def linkedListBytes (list : LinkedListValue) : ByteString :=
  List.flatten
    [appendPod .u32 list.rootAddress, appendPod .u32 list.head, [flag list.readOk],
      [flag list.truncated], [flag list.cycleDetected], appendList linkedListNodeBytes list.nodes]

def stackFrameBytes (frame : StackFrame) : ByteString :=
  List.flatten
    [appendPod .u32 frame.stackPointer, appendPod .u32 frame.nextStackPointer,
      appendPod .u32 frame.returnPc, appendPod .u32 frame.callsitePc]

def stackTraceBytes (stack : StackTraceValue) : ByteString :=
  List.flatten
    [[flag stack.readOk], [flag stack.truncated], [flag stack.cycleDetected],
      appendList stackFrameBytes stack.frames]

def addressTraceOperationBytes (operation : AddressTraceOperation) : ByteString :=
  List.flatten
    [[operation.index], [operation.operation], appendPod .u32 operation.addressBefore,
      appendPod .u32 operation.addressAfter, [flag operation.dereferencedValue.isSome],
      appendPod .u64 (operation.dereferencedValue.getD 0), appendString operation.failure]

def addressTraceBytes (trace : AddressTraceValue) : ByteString :=
  List.flatten
    [[flag trace.success], appendPod .u32 trace.finalAddress, [flag trace.failureOperation.isSome],
      [trace.failureOperation.getD 0], appendString trace.failure,
      appendList addressTraceOperationBytes trace.operations]

/-- A structured field without its value has no bytes. -/
def structuredFieldBytes : ByteString :=
  match field.type with
  | .bytes | .text => field.bytes
  | .linkedList => (field.linkedList.map linkedListBytes).getD []
  | .stackTrace => (field.stackTrace.map stackTraceBytes).getD []
  | .addressTrace => (field.addressTrace.map addressTraceBytes).getD []
  | _ => []

/-- The most nodes, members of a node, frames and operations that are read. -/
def maximumNodes : Nat := 256

def maximumMembers : Nat := 4096

def maximumFrames : Nat := 64

def maximumOperations : Nat := 64

def readLinkedListMember : Reading LinkedListMember := do
  let name ← readString
  let width ← Decoder.byte ()
  let status ← Decoder.byte ()
  let value ← readPod .u64
  pure { name, width, status := .ofCode status, value }

def readLinkedListNode : Reading LinkedListNode := do
  let address ← readPod .u32
  let fields ← readList maximumMembers readLinkedListMember
  pure { address, fields }

def readLinkedList : Reading LinkedListValue := do
  let rootAddress ← readPod .u32
  let head ← readPod .u32
  let readOk ← readFlag
  let truncated ← readFlag
  let cycleDetected ← readFlag
  let nodes ← readList maximumNodes readLinkedListNode
  pure { rootAddress, head, readOk, truncated, cycleDetected, nodes }

def readStackFrame : Reading StackFrame := do
  let stackPointer ← readPod .u32
  let nextStackPointer ← readPod .u32
  let returnPc ← readPod .u32
  let callsitePc ← readPod .u32
  pure { stackPointer, nextStackPointer, returnPc, callsitePc }

def readStackTrace : Reading StackTraceValue := do
  let readOk ← readFlag
  let truncated ← readFlag
  let cycleDetected ← readFlag
  let frames ← readList maximumFrames readStackFrame
  pure { readOk, truncated, cycleDetected, frames }

def readAddressTraceOperation : Reading AddressTraceOperation := do
  let index ← Decoder.byte ()
  let operation ← Decoder.byte ()
  let addressBefore ← readPod .u32
  let addressAfter ← readPod .u32
  let hasDereference ← readFlag
  let dereferenced ← readPod .u64
  let failure ← readString
  let dereferencedValue := if hasDereference then some dereferenced else none
  pure { index, operation, addressBefore, addressAfter, dereferencedValue, failure }

def readAddressTrace : Reading AddressTraceValue := do
  let success ← readFlag
  let finalAddress ← readPod .u32
  let hasFailureOperation ← readFlag
  let failedOperation ← Decoder.byte ()
  let failure ← readString
  let operations ← readList maximumOperations readAddressTraceOperation
  let failureOperation := if hasFailureOperation then some failedOperation else none
  pure { success, finalAddress, failureOperation, failure, operations }

/-- The bytes have to be used up, except where they are the payload. -/
def decodeStructuredField (bytes : ByteString) : Reading Field :=
  match field.type with
  | .bytes | .text => pure { field with bytes }
  | .linkedList => do
      let list ← Decoder.whole readLinkedList () bytes
      pure { field with linkedList := some list }
  | .stackTrace => do
      let stack ← Decoder.whole readStackTrace () bytes
      pure { field with stackTrace := some stack }
  | .addressTrace => do
      let trace ← Decoder.whole readAddressTrace () bytes
      pure { field with addressTrace := some trace }
  | _ => Decoder.fail ()

/-! ## Fields -/

def appendFieldValue : ByteString :=
  List.flatten
    [[field.status.code], appendPod .u64 field.value, if fieldUsesBlob field.type then
        appendString (structuredFieldBytes field)
      else []]

/-- Read the payload of a field into it. -/
def readFieldPayload : Reading Field :=
  if fieldUsesBlob field.type then do
    let bytes ← readString
    decodeStructuredField field bytes
  else
    pure { field with
      bytes := []
      linkedList := none
      stackTrace := none
      addressTrace := none }

def readFieldValue : Reading Field := do
  let status ← Decoder.byte ()
  let value ← readPod .u64
  readFieldPayload { field with status := .ofCode status, value }

def sameShape (fields others : List Field) : Bool :=
  fields.length == others.length && (fields.zip others).all fun pair => pair.1.sameShape pair.2

/-- The fields that the events of a key were last sent with. -/
abbrev DeltaMap := ByteString → Option (List Field)

namespace DeltaMap

def empty : DeltaMap := fun _ => none

def insert (baselines : DeltaMap) (key : ByteString) (fields : List Field) : DeltaMap :=
  Function.update baselines key (some fields)

end DeltaMap

def baselineKey (event : Event) : ByteString :=
  event.probeId ++ 0x1f :: decimal event.guestWorksetEpoch.toNat ++
    0x1f :: decimal event.profileRevision.toNat

/-- What either side remembers from event to event. -/
structure DeltaCoding where
  priorRecordSequence : UInt64 := 0
  baselines : DeltaMap := .empty

/-- What is remembered after an event.  A gap forgets the baselines. -/
def DeltaCoding.after (event : Event) (baselines : DeltaMap) : DeltaCoding where
  priorRecordSequence := event.recordSequence
  baselines :=
    if event.kind = .gap then .empty
    else baselines.insert (baselineKey event) event.fields

/-! ## Bitmaps -/

/-- `bitmap[i / 8] |= 1 << (i % 8)`. -/
def setBit (index : Nat) : ByteString :=
  bitmap.modify (index / 8) fun byte => byte ||| (1 <<< UInt8.ofNat (index % 8))

/-- `(bitmap[i / 8] & (1 << (i % 8))) != 0`. -/
def hasBit (index : Nat) : Bool :=
  (bitmap.getD (index / 8) 0 &&& (1 <<< UInt8.ofNat (index % 8))) != 0

def bitmapSize (count : Nat) : Nat := (count + 7) / 8

/-- Whether a field is sent again: its payload is not compared. -/
def isSent (baseline : Field) : Bool := fieldUsesBlob field.type || !field.sameValue baseline

/-- The bitmap of the fields that are sent again. -/
def changedFields (fields baseline : List Field) : ByteString :=
  (fields.zip baseline).zipIdx.foldl
    (fun bitmap entry => if isSent entry.1.1 entry.1.2 then setBit bitmap entry.2 else bitmap)
    (List.replicate (bitmapSize fields.length) 0)

/-! ## Events -/

/-- What every event starts with. -/
def appendEventHeader (priorRecordSequence : UInt64) (event : Event) : ByteString :=
  List.flatten
    [appendVarint (event.recordSequence - priorRecordSequence), appendVarint event.captureSequence,
      appendVarint event.monotonicNs, appendVarint event.frameIndex,
      appendVarint event.guestWorksetEpoch, appendVarint event.profileRevision,
      appendVarint event.snapshotId, [event.kind.code], appendPod .u32 event.pc,
      appendPod .u32 event.address, appendPod .u32 event.size, appendPod .u64 event.value,
      appendString event.probeId]

/-- A field with its name and type. -/
def appendField : ByteString :=
  List.flatten [appendString field.name, [field.type.code], appendFieldValue field]

/-- The value of the field if its bit is set. -/
def appendChangedField (entry : Field × Nat) : ByteString :=
  if hasBit bitmap entry.2 then appendFieldValue entry.1 else []

def appendChangedFields (fields : List Field) : ByteString :=
  fields.zipIdx.flatMap (appendChangedField bitmap)

/-- The baseline that an event is sent as a change of, if it is no keyframe. -/
def deltaBaseline (baselines : DeltaMap) (event : Event) : Option (List Field) :=
  (baselines (baselineKey event)).filter fun fields => sameShape fields event.fields

def appendFields (baselines : DeltaMap) (event : Event) : ByteString :=
  match deltaBaseline baselines event with
  | none => List.flatten [[1], appendList appendField event.fields]
  | some baseline =>
    let bitmap := changedFields event.fields baseline
    List.flatten
      [[0], appendSize event.fields.length, appendString bitmap,
        appendChangedFields bitmap event.fields]

def encodeEvent (coding : DeltaCoding) (event : Event) : ByteString × DeltaCoding :=
  (appendEventHeader coding.priorRecordSequence event ++ appendFields coding.baselines event,
    .after event coding.baselines)

/-- The event without its fields. -/
def readEventHeader (priorRecordSequence : UInt64) : Reading Event := do
  let recordSequenceDelta ← readVarint
  let captureSequence ← readVarint
  let monotonicNs ← readVarint
  let frameIndex ← readVarint
  let guestWorksetEpoch ← readVarint
  let profileRevision ← readVarint
  let snapshotId ← readVarint
  let kind ← Decoder.byte ()
  let pc ← readPod .u32
  let address ← readPod .u32
  let size ← readPod .u32
  let value ← readPod .u64
  let probeId ← readString
  pure {
    captureSequence
    recordSequence := priorRecordSequence + recordSequenceDelta
    monotonicNs, frameIndex, guestWorksetEpoch, profileRevision, snapshotId
    kind := .ofCode kind
    pc, address, size, value, probeId }

def readField : Reading Field := do
  let name ← readString
  let type ← Decoder.byte ()
  readFieldValue { name, type := .ofCode type }

/-- The field of the baseline, read anew if its bit is set. -/
def readChangedField (entry : Field × Nat) : Reading Field :=
  if hasBit bitmap entry.2 then readFieldValue entry.1 else pure entry.1

def readChangedFields (bitmap : ByteString) : List (Field × Nat) → Reading (List Field)
  | [] => pure []
  | entry :: entries => do
      let field ← readChangedField bitmap entry
      let fields ← readChangedFields bitmap entries
      pure (field :: fields)

/-- Read a bitmap, which must have the size for the fields. -/
def readBitmap (count : Nat) : Reading ByteString := do
  let size ← readVarint
  Decoder.check (size.toNat = bitmapSize count) ()
  Decoder.take () size.toNat

/-- The most fields of an event that are read. -/
def maximumFields : Nat := 65536

def readFields (baselines : DeltaMap) (key : ByteString) : Reading (List Field) := do
  let keyframe ← readFlag
  let count ← readCount maximumFields
  if keyframe then Decoder.replicate readField count
  else
    match baselines key with
    | none => Decoder.fail ()
    | some baseline => do
        Decoder.check (baseline.length = count) ()
        let bitmap ← readBitmap baseline.length
        readChangedFields bitmap baseline.zipIdx

def decodeEvent (coding : DeltaCoding) : Reading (Event × DeltaCoding) := do
  let header ← readEventHeader coding.priorRecordSequence
  let fields ← readFields coding.baselines (baselineKey header)
  let event := { header with fields }
  pure (event, .after event coding.baselines)

/-- The events of a chunk, and what the writer remembers after each of them. -/
def encodeEvents (coding : DeltaCoding) : List Event → ByteString × List DeltaCoding
  | [] => ([], [])
  | event :: events =>
    let (bytes, next) := encodeEvent coding event
    let (more, later) := encodeEvents next events
    (bytes ++ more, next :: later)

/-- As many events, and what the reader remembers after each of them. -/
def decodeEvents (coding : DeltaCoding) : Nat → Reading (List (Event × DeltaCoding))
  | 0 => pure []
  | count + 1 => do
      let (event, next) ← decodeEvent coding
      let events ← decodeEvents next count
      pure ((event, next) :: events)

end Coding

/-!
## Capture files
A capture is a row of segments.  A segment is a file with a header, chunks of
events, index checkpoints and a footer.
-/

structure FileMetadata where
  (sessionId sourceIdentity executableSha256 : ByteString := [])
  (dolphinSourceCommit profileJson : ByteString := [])
  createdUtcNs : UInt64 := 0

structure WriterOptions where
  eventsPerChunk : UInt64 := 1024
  bytesPerChunk : UInt64 := 4 * 1024 * 1024
  chunkIntervalNs : UInt64 := 1000000000
  rotateBytes : UInt64 := 1024 * 1024 * 1024
  indexIntervalChunks : UInt64 := 64
  compressionLevel : Int := 3

structure ChunkInfo where
  (index fileOffset firstSequence lastSequence : UInt64 := 0)
  (eventCount compressedBytes uncompressedBytes : UInt32 := 0)
  checksum : UInt64 := 0

/-- What is not under the control of the capture: the sizes of the records in
memory, the compression and the checksum, and how the file operations end.
Every compression and every write has its own number. -/
structure CaptureHost where
  (sizeofEvent sizeofField : Nat)
  /-- The compressed bytes at a level, or the name of the error. -/
  compress : Nat → Int → ByteString → Except ByteString ByteString
  /-- The bytes, if they have the size. -/
  decompress : Nat → ByteString → Option ByteString
  checksum : ByteString → UInt64
  /-- Whether the directory is there and a file of the name can be opened for
  writing. -/
  opens : ByteString → Bool
  /-- When a write fails, how many bytes the file has then, of all that were
  written to it.  They are fewer than that: see `kept`. -/
  keeps : Nat → Option Nat
  /-- `std::ranges::sort`. -/
  sorting : Library.UnstableSort

/-- What is compressed comes back. -/
def CaptureHost.Faithful (host : CaptureHost) : Prop :=
  ∀ call level bytes packed, host.compress call level bytes = .ok packed →
    host.decompress bytes.length packed = some bytes

/-- What a failed write leaves of the bytes of a file. -/
def kept (count : Nat) (bytes : ByteString) : ByteString := bytes.take (count % bytes.length)

/-! ## Names -/

/-- The path of a capture, without its directory. -/
structure CapturePath where
  (stem extension : ByteString := [])

/-- `std::setw(4) << std::setfill('0')`. -/
def paddedIndex (index : Nat) : ByteString :=
  List.replicate (4 - (decimal index).length) 0x30 ++ decimal index

def segmentPath (base : CapturePath) (index : Nat) : ByteString :=
  if index = 0 then base.stem ++ base.extension
  else base.stem ++ (text "." ++ paddedIndex index) ++ base.extension

/-- The files of a directory. -/
abbrev Files : Type := ByteString → Option ByteString

/-! ## Records -/

def fileMagic : ByteString := text "SAVORSC" ++ [0]

def chunkTag : ByteString := text "CHNK"

def indexTag : ByteString := text "INDX"

def footerTag : ByteString := text "FOOT"

def formatVersion : UInt32 := 1

/-- Unlike `appendSize`, the size is cut to 32 bits. -/
def streamSize (size : Nat) : ByteString := appendPod .u32 (UInt32.ofNat size)

def encodeMetadata (metadata : FileMetadata) : ByteString :=
  List.flatten
    [appendPod .u64 metadata.createdUtcNs, appendString metadata.sessionId,
      appendString metadata.sourceIdentity, appendString metadata.executableSha256,
      appendString metadata.dolphinSourceCommit, appendString metadata.profileJson]

def fileHeaderBytes (metadata : FileMetadata) : ByteString :=
  List.flatten
    [fileMagic, appendPod .u32 formatVersion, streamSize (encodeMetadata metadata).length,
      encodeMetadata metadata]

def chunkHeaderBytes (chunk : ChunkInfo) : ByteString :=
  List.flatten
    [appendPod .u64 chunk.index, appendPod .u64 chunk.firstSequence,
      appendPod .u64 chunk.lastSequence, appendPod .u32 chunk.eventCount,
      appendPod .u32 chunk.uncompressedBytes, appendPod .u32 chunk.compressedBytes,
      appendPod .u64 chunk.checksum]

def chunkBytes (chunk : ChunkInfo) (compressed : ByteString) : ByteString :=
  List.flatten [chunkTag, chunkHeaderBytes chunk, compressed]

def indexEntryBytes (chunk : ChunkInfo) : ByteString :=
  List.flatten
    [appendPod .u64 chunk.index, appendPod .u64 chunk.fileOffset,
      appendPod .u64 chunk.firstSequence, appendPod .u64 chunk.lastSequence]

def indexBytes (entries : List ChunkInfo) : ByteString :=
  List.flatten [indexTag, streamSize entries.length, entries.flatMap indexEntryBytes]

/-- What a footer says of its segment. -/
structure SegmentFooter where
  (chunks events lastIndexOffset : UInt64)
  complete : Bool
  reason : ByteString

def footerHeaderBytes (footer : SegmentFooter) : ByteString :=
  List.flatten
    [appendPod .u64 footer.chunks, appendPod .u64 footer.events,
      appendPod .u64 footer.lastIndexOffset, [flag footer.complete],
      streamSize footer.reason.length]

def footerBytes (footer : SegmentFooter) : ByteString :=
  List.flatten [footerTag, footerHeaderBytes footer, footer.reason]

end Savor.Capture

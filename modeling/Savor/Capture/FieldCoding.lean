import Mathlib.Tactic.IntervalCases
import Mathlib.Data.Nat.Bitwise
import Savor.Capture.EventCoding

/-!
# Fields are read as they are written

What the reader makes of the numbers, strings and counts of the writer, and of
fields sent in full or as changes.  The bytes are those of a vector, so that its
sizes fit into 64 bits.
-/

namespace Savor.Capture

open Library.Stream (Word)
open Library.Wire (Decoder Decides)
open Program (ByteString)

section Primitives

/-- No vector has this many elements. -/
abbrev vectorBound : Nat := 2 ^ 64

/-! ## Variable length numbers -/

theorem and_lowBits (value : Nat) : value &&& 127 = value % 128 :=
  Nat.and_two_pow_sub_one_eq_mod value 7

theorem marked_ne_zero (byte : UInt8) : (byte ||| 0x80) &&& (0x80 : UInt8) ≠ 0 := by
  intro zero
  have bit := congrArg (fun byte : UInt8 => byte.toBitVec.getLsbD 7) zero
  simp at bit

variable {value : UInt64} {index : Nat}

/-- The last byte is not marked. -/
theorem unmarked (small : ¬0x80 ≤ value) : value.toUInt8 &&& (0x80 : UInt8) = 0 := by
  rw [UInt64.le_iff_toNat_le, Nat.not_le] at small
  have less : value.toNat < 2 ^ 7 := small
  have fits : value.toUInt8.toNat = value.toNat := by
    rw [UInt64.toNat_toUInt8]
    omega
  have marker : (0x80 : UInt8).toNat = 2 ^ 7 := rfl
  apply UInt8.toNat.inj
  rw [UInt8.toNat_and, fits, marker]
  apply Nat.eq_of_testBit_eq
  intro bit
  rw [Nat.testBit_and, Nat.testBit_two_pow]
  by_cases marks : 7 = bit
  · subst bit
    simp [Nat.testBit_lt_two_pow less]
  · simp [marks]

/-- The last byte is the number. -/
theorem payload_last (small : ¬0x80 ≤ value) :
    (value.toUInt8 &&& (0x7f : UInt8)).toUInt64 = value := by
  rw [UInt64.le_iff_toNat_le, Nat.not_le] at small
  have less : value.toNat < 128 := small
  apply UInt64.toNat.inj
  rw [UInt8.toNat_toUInt64, UInt8.toNat_and, UInt64.toNat_toUInt8]
  have mask : (0x7f : UInt8).toNat = 127 := rfl
  rw [mask, and_lowBits]
  omega

/-- A marked byte carries the low seven bits, and the rest follows. -/
theorem payload_marked (value : UInt64) : ((value.toUInt8 ||| 0x80) &&& (0x7f : UInt8)).toUInt64 |||
      ((value >>> 7) <<< 7) = value := by
  have bound := value.toNat_lt
  have high : ((value >>> 7) <<< 7).toNat = 2 ^ 7 * (value.toNat / 128) := by
    rw [UInt64.toNat_shiftLeft, UInt64.toNat_shiftRight]
    simp only [UInt64.reduceToNat, Nat.reduceMod, Nat.shiftRight_eq_div_pow, Nat.shiftLeft_eq]
    omega
  have low : ((value.toUInt8 ||| 0x80) &&& (0x7f : UInt8)).toUInt64.toNat = value.toNat % 128 := by
    rw [UInt8.toNat_toUInt64, UInt8.toNat_and, UInt8.toNat_or, UInt64.toNat_toUInt8]
    simp only [UInt8.reduceToNat, Nat.and_or_distrib_right]
    rw [and_lowBits]
    have marker : 128 &&& 127 = 0 := by decide
    rw [marker, Nat.or_zero]
    omega
  apply UInt64.toNat.inj
  rw [UInt64.toNat_or, high, low, Nat.or_comm, ← Nat.two_pow_add_eq_or_of_lt (by omega)]
  omega

theorem appendVarint_last (small : ¬0x80 ≤ value) : appendVarint value = [value.toUInt8] := by
  rw [appendVarint, if_neg small]

theorem appendVarint_marked (large : 0x80 ≤ value) : appendVarint value =
      (value.toUInt8 ||| 0x80) :: appendVarint (value >>> 7) := by
  rw [appendVarint, if_pos large]

theorem drop_varintShifts (inside : index ≤ 9) : varintShifts.drop index =
      UInt64.ofNat (7 * index) :: varintShifts.drop (index + 1) := by
  interval_cases index <;> rfl

/-- A bound on a number that is shifted bounds what remains of it. -/
theorem shifted_lt (fits : value.toNat * 2 ^ (7 * index) < 2 ^ 64) :
    (value >>> 7).toNat * 2 ^ (7 * (index + 1)) < 2 ^ 64 := by
  have part : (value >>> 7).toNat = value.toNat / 128 := by
    rw [UInt64.toNat_shiftRight]
    exact Nat.shiftRight_eq_div_pow _ _
  have power : 2 ^ (7 * (index + 1)) = 128 * 2 ^ (7 * index) := by
    rw [Nat.mul_add, Nat.pow_add, Nat.mul_comm]
  rw [part, power, ← Nat.mul_assoc]
  exact Nat.lt_of_le_of_lt (Nat.mul_le_mul_right _ (Nat.div_mul_le_self _ _)) fits

/-- One round of the loop. -/
theorem readVarintFrom_cons (inside : index ≤ 9) (read : UInt64)
    (byte : UInt8) (rest : ByteString) :
    readVarintFrom read (varintShifts.drop index) () (byte :: rest) =
      if byte &&& 0x80 = 0 then
        .ok (read ||| (byte &&& 0x7f).toUInt64 <<< UInt64.ofNat (7 * index), rest)
      else
        readVarintFrom
          (read ||| (byte &&& 0x7f).toUInt64 <<< UInt64.ofNat (7 * index))
          (varintShifts.drop (index + 1)) () rest := by
  rw [drop_varintShifts inside]
  simp only [readVarintFrom, Bind.bind, Decoder.byte]
  split <;> rfl

/-- The loop of the reader adds the bytes of a number to what it has, from the
bit where it stands.  The induction is on the shifts that remain. -/
theorem readVarintFrom_appendVarint (remaining index : Nat)
    (inside : index + remaining = 9) (read value : UInt64)
    (fits : value.toNat * 2 ^ (7 * index) < 2 ^ 64) (rest : ByteString) :
    readVarintFrom read (varintShifts.drop index) () (appendVarint value ++ rest) =
      .ok (read ||| value <<< UInt64.ofNat (7 * index), rest) := by
  induction remaining generalizing index read value with
  | zero =>
    have last : index = 9 := by omega
    subst last
    have small : ¬0x80 ≤ value := by
      rw [UInt64.le_iff_toNat_le]
      intro large
      have large' : 128 ≤ value.toNat := large
      omega
    rw [appendVarint_last small, List.singleton_append, readVarintFrom_cons (by omega),
      if_pos (unmarked small), payload_last small]
  | succ remaining ih =>
    by_cases large : 0x80 ≤ value
    · have start : (UInt64.ofNat (7 * index)).toNat = 7 * index := by
        rw [UInt64.toNat_ofNat']
        omega
      have seven : (7 : UInt64).toNat = 7 := rfl
      have shift : (7 : UInt64).toNat + (UInt64.ofNat (7 * index)).toNat < 64 := by
        omega
      have next : UInt64.ofNat (7 * (index + 1)) = 7 + UInt64.ofNat (7 * index) := by
        rw [Nat.mul_add, Nat.add_comm, UInt64.ofNat_add]
        rfl
      rw [appendVarint_marked large, List.cons_append, readVarintFrom_cons (by omega),
        if_neg (marked_ne_zero _), ih (index + 1) (by omega) _ _ (shifted_lt fits),
        next, UInt64.shiftLeft_add_of_toNat_lt shift, UInt64.or_assoc,
        ← UInt64.shiftLeft_or, payload_marked]
    · rw [appendVarint_last large, List.singleton_append, readVarintFrom_cons (by omega),
        if_pos (unmarked large), payload_last large]

/-- A number is read as it was written. -/
theorem readVarint_decides (value : UInt64) :
    Decides () vectorBound readVarint (appendVarint value) True value := by
  refine .of_reads fun _ rest => ?_
  have read := readVarintFrom_appendVarint 9 0 rfl 0 value (by have := value.toNat_lt; omega) rest
  rw [readVarint]
  simpa using read

/-! ## Numbers, strings and counts -/

variable {Value : Type}

theorem readPod_decides (word : Word Value) (value : Value) :
    Decides () vectorBound (readPod word) (appendPod word value) True value := by
  have taken : Decides () vectorBound (Decoder.take () _) (word.encode value)
      True (word.encode value) :=
    .take () (word.encode value)
  rw [word.length_encode] at taken
  have read := taken.map word.decode
  rw [word.decode_encode] at read
  exact read

theorem appendPod_ne_nil {word : Word Value}
    (positive : 0 < word.width) (value : Value) : appendPod word value ≠ [] := by
  rw [← List.length_pos_iff]
  unfold appendPod
  rwa [word.length_encode]

theorem readFlag_decides (value : Bool) :
    Decides () vectorBound readFlag [flag value] True value := by
  have read : Decides () vectorBound readFlag [flag value] True
      (flag value != 0) :=
    (Decides.byte () (flag value)).map (· != 0)
  have same : (flag value != 0) = value := by cases value <;> rfl
  rw [same] at read
  exact read

theorem toNat_ofSize {size : Nat} (fits : size < vectorBound) :
    (UInt64.ofNat size).toNat = size := by
  rw [UInt64.toNat_ofNat']
  exact Nat.mod_eq_of_lt fits

theorem readString_decides (value : ByteString) :
    Decides () vectorBound readString (appendString value) True value := by
  intro short
  have fits : value.length < vectorBound := by
    unfold appendString at short
    rw [List.length_append] at short
    omega
  refine Decides.step (readVarint_decides _) ?_ short
  rw [toNat_ofSize fits]
  exact .take () value

theorem readCount_decides (maximum : Nat) {count : Nat} (fits : count < vectorBound) :
    Decides () vectorBound (readCount maximum) (appendSize count) (count ≤ maximum) count := by
  have read : Decides () vectorBound (readCount maximum)
      (appendSize count ++ []) ((UInt64.ofNat count).toNat ≤ maximum)
      (UInt64.ofNat count).toNat :=
    (readVarint_decides (UInt64.ofNat count)).step
      ((Decides.check _ ()).map fun _ => (UInt64.ofNat count).toNat)
  rw [List.append_nil, toNat_ofSize fits] at read
  exact read

theorem readList_decides {Read : Type} (maximum : Nat)
    {append : Value → ByteString} {read : Reading Read}
    {admitted : Value → Prop} {view : Value → Read} (nonempty : ∀ value, append value ≠ [])
    (element : ∀ value, Decides () vectorBound read (append value) (admitted value) (view value))
    (values : List Value) :
    Decides () vectorBound (readList maximum read) (appendList append values)
      (values.length ≤ maximum ∧ ∀ value ∈ values, admitted value) (values.map view) := by
  intro short
  have fits : values.length < vectorBound := by
    have fewer := Decides.length_le_flatMap nonempty values
    unfold appendList at short
    rw [List.length_append] at short
    omega
  exact (readCount_decides maximum fits).bind (fun _ => .each fun value _ => element value) short

end Primitives

/-!
## Which fields are read as they are written

A field is read back where its value is there, if its type has a structured one,
and stays within the bounds of the reader.  What is read back is the field with
the payload that its type uses.
-/

section Values

/-- Within the bounds of the reader. -/
def LinkedListNode.Readable (node : LinkedListNode) : Prop := node.fields.length ≤ maximumMembers

def LinkedListValue.Readable (list : LinkedListValue) : Prop :=
  list.nodes.length ≤ maximumNodes ∧ ∀ node ∈ list.nodes, node.Readable

def StackTraceValue.Readable (stack : StackTraceValue) : Prop := stack.frames.length ≤ maximumFrames

def AddressTraceValue.Readable (trace : AddressTraceValue) : Prop :=
  trace.operations.length ≤ maximumOperations

/-- A structured field has its value, and the value is within the bounds. -/
def Field.Readable (field : Field) : Prop :=
  match field.type with
  | .linkedList => ∃ list ∈ field.linkedList, list.Readable
  | .stackTrace => ∃ stack ∈ field.stackTrace, stack.Readable
  | .addressTrace => ∃ trace ∈ field.addressTrace, trace.Readable
  | _ => True

/-- The field with no other payload than the one its type uses. -/
def Field.carried (field : Field) : Field where
  name := field.name
  type := field.type
  status := field.status
  value := field.value
  bytes :=
    match field.type with
    | .bytes | .text => field.bytes
    | _ => []
  linkedList :=
    match field.type with
    | .linkedList => field.linkedList
    | _ => none
  stackTrace :=
    match field.type with
    | .stackTrace => field.stackTrace
    | _ => none
  addressTrace :=
    match field.type with
    | .addressTrace => field.addressTrace
    | _ => none

@[simp] theorem Field.carried_carried (field : Field) : field.carried.carried = field.carried := by
  unfold carried
  cases field.type <;> rfl

variable {field base : Field}

theorem Field.readable_of_plain (plain : fieldUsesBlob field.type = false) : field.Readable := by
  unfold Readable
  cases type : field.type <;> simp_all [fieldUsesBlob]

/-! ## Structured values -/

theorem readLinkedListMember_decides (member : LinkedListMember) :
    Decides () vectorBound readLinkedListMember (linkedListMemberBytes member) True member := by
  have written := FieldStatus.ofCode_code member.status
  refine .step (readString_decides _) ?_
  refine .step (.byte () _) ?_
  refine .step (.byte () _) ?_
  refine .step (readPod_decides .u64 _) ?_
  rw [written]
  exact .pure _

theorem linkedListMemberBytes_ne_nil (member : LinkedListMember) :
    linkedListMemberBytes member ≠ [] := by
  simp [linkedListMemberBytes]

theorem readLinkedListNode_decides (node : LinkedListNode) :
    Decides () vectorBound readLinkedListNode (linkedListNodeBytes node) node.Readable node := by
  refine .step (readPod_decides .u32 _) ?_
  have fields := readList_decides maximumMembers linkedListMemberBytes_ne_nil
    readLinkedListMember_decides node.fields
  have read := fields.last fun fields => { node with fields : LinkedListNode }
  rw [List.map_id'] at read
  refine read.congr ?_
  simp [LinkedListNode.Readable]

theorem linkedListNodeBytes_ne_nil (node : LinkedListNode) : linkedListNodeBytes node ≠ [] :=
  List.append_ne_nil_of_left_ne_nil (appendPod_ne_nil (by decide) _) _

theorem readLinkedList_decides (list : LinkedListValue) :
    Decides () vectorBound readLinkedList (linkedListBytes list) list.Readable list := by
  refine .step (readPod_decides .u32 _) ?_
  refine .step (readPod_decides .u32 _) ?_
  refine .step (readFlag_decides _) ?_
  refine .step (readFlag_decides _) ?_
  refine .step (readFlag_decides _) ?_
  have nodes := readList_decides maximumNodes linkedListNodeBytes_ne_nil
    readLinkedListNode_decides list.nodes
  have read := nodes.last fun nodes => { list with nodes : LinkedListValue }
  rwa [List.map_id'] at read

theorem readStackFrame_decides (frame : StackFrame) :
    Decides () vectorBound readStackFrame (stackFrameBytes frame) True frame := by
  refine .step (readPod_decides .u32 _) ?_
  refine .step (readPod_decides .u32 _) ?_
  refine .step (readPod_decides .u32 _) ?_
  refine .step (readPod_decides .u32 _) ?_
  exact .pure _

theorem stackFrameBytes_ne_nil (frame : StackFrame) : stackFrameBytes frame ≠ [] :=
  List.append_ne_nil_of_left_ne_nil (appendPod_ne_nil (by decide) _) _

theorem readStackTrace_decides (stack : StackTraceValue) :
    Decides () vectorBound readStackTrace (stackTraceBytes stack) stack.Readable stack := by
  refine .step (readFlag_decides _) ?_
  refine .step (readFlag_decides _) ?_
  refine .step (readFlag_decides _) ?_
  have frames := readList_decides maximumFrames stackFrameBytes_ne_nil
    readStackFrame_decides stack.frames
  have read := frames.last fun frames => { stack with frames : StackTraceValue }
  rw [List.map_id'] at read
  refine read.congr ?_
  simp [StackTraceValue.Readable]

theorem optional_eq {Value : Type} (value : Option Value) (default : Value) :
    (if value.isSome then some (value.getD default) else none) = value := by
  cases value <;> rfl

theorem readAddressTraceOperation_decides (operation : AddressTraceOperation) :
    Decides () vectorBound readAddressTraceOperation
      (addressTraceOperationBytes operation) True operation := by
  have dereferenced := optional_eq operation.dereferencedValue 0
  refine .step (.byte () _) ?_
  refine .step (.byte () _) ?_
  refine .step (readPod_decides .u32 _) ?_
  refine .step (readPod_decides .u32 _) ?_
  refine .step (readFlag_decides _) ?_
  refine .step (readPod_decides .u64 _) ?_
  refine .step (readString_decides _) ?_
  rw [dereferenced]
  exact .pure _

theorem addressTraceOperationBytes_ne_nil (operation : AddressTraceOperation) :
    addressTraceOperationBytes operation ≠ [] := by
  simp [addressTraceOperationBytes]

theorem readAddressTrace_decides (trace : AddressTraceValue) :
    Decides () vectorBound readAddressTrace (addressTraceBytes trace) trace.Readable trace := by
  have failed := optional_eq trace.failureOperation 0
  refine .step (readFlag_decides _) ?_
  refine .step (readPod_decides .u32 _) ?_
  refine .step (readFlag_decides _) ?_
  refine .step (.byte () _) ?_
  refine .step (readString_decides _) ?_
  have operations := readList_decides maximumOperations
    addressTraceOperationBytes_ne_nil readAddressTraceOperation_decides trace.operations
  have read := operations.last fun operations => { trace with operations : AddressTraceValue }
  rw [List.map_id'] at read
  rw [failed]
  refine read.congr ?_
  simp [AddressTraceValue.Readable]

/-! ## Fields -/

/-- A structured value is read from its own bytes if it is there at all: without
bytes there is nothing to read. -/
theorem readStructured_decides {Value : Type} {read : Reading Value}
    {bytesOf : Value → ByteString} {readable : Value → Prop} (decides : ∀ value,
      Decides () vectorBound read (bytesOf value) (readable value) value)
    (fails : read () [] = .error ()) {held : Option Value}
    (short : ((held.map bytesOf).getD []).length < vectorBound)
    {store : Value → Field} {stored : Field} (stores : ∀ value ∈ held, store value = stored) :
    Decides () vectorBound
      (Decoder.whole read () ((held.map bytesOf).getD []) >>= fun value => pure (store value))
      [] (∃ value ∈ held, readable value) stored := by
  cases held with
  | none =>
    intro _ rest
    constructor
    · rintro ⟨_, ⟨⟩, _⟩
    intro _
    refine ⟨(), ?_⟩
    simp [Bind.bind, Decoder.whole, fails]
  | some value =>
    rw [← stores value rfl]
    have read := Decides.whole () short (decides value)
    refine (read.map store).congr ?_
    simp

/-- A field into which another one is read: what was read before agrees, and no
payload is there that the type does not use. -/
structure Field.Prepares (base field : Field) : Prop where
  name : base.name = field.name
  type : base.type = field.type
  status : base.status = field.status
  value : base.value = field.value
  carried : base.carried = base

theorem decodeStructuredField_decides
    (prepares : base.Prepares field) (blob : fieldUsesBlob field.type = true)
    (short : (structuredFieldBytes field).length < vectorBound) : Decides () vectorBound
      (decodeStructuredField base (structuredFieldBytes field)) []
      field.Readable field.carried := by
  obtain ⟨name, type, status, value, bytes, linkedList, stackTrace, addressTrace⟩ := base
  obtain ⟨rfl, rfl, rfl, rfl, carried⟩ := prepares
  unfold structuredFieldBytes at short ⊢
  unfold decodeStructuredField Field.Readable
  unfold Field.carried at carried ⊢
  cases type : field.type with
  | bytes | text =>
    simp only [type, Field.mk.injEq, true_and] at carried ⊢
    obtain ⟨rfl, rfl, rfl⟩ := carried
    exact .pure _
  | linkedList =>
    simp only [type, Field.mk.injEq, true_and] at carried short ⊢
    obtain ⟨rfl, rfl, rfl⟩ := carried
    refine readStructured_decides readLinkedList_decides rfl short ?_
    intro list held
    rw [held]
  | stackTrace =>
    simp only [type, Field.mk.injEq, true_and] at carried short ⊢
    obtain ⟨rfl, rfl, rfl⟩ := carried
    refine readStructured_decides readStackTrace_decides rfl short ?_
    intro stack held
    rw [held]
  | addressTrace =>
    simp only [type, Field.mk.injEq, true_and, and_true] at carried short ⊢
    obtain ⟨rfl, rfl, rfl⟩ := carried
    refine readStructured_decides readAddressTrace_decides rfl short ?_
    intro trace held
    rw [held]
  | _ => simp [type, fieldUsesBlob] at blob

theorem readFieldPayload_decides (prepares : base.Prepares field) :
    Decides () vectorBound (readFieldPayload base)
      (if fieldUsesBlob field.type then
        appendString (structuredFieldBytes field) else [])
      field.Readable field.carried := by
  have uses : fieldUsesBlob base.type = fieldUsesBlob field.type := by rw [prepares.type]
  unfold readFieldPayload
  rw [uses]
  cases blob : fieldUsesBlob field.type with
  | true =>
    simp only [if_true]
    intro short
    have fits : (structuredFieldBytes field).length < vectorBound := by
      unfold appendString at short
      rw [List.length_append] at short
      omega
    have decides := (readString_decides (structuredFieldBytes field)).step
      (decodeStructuredField_decides prepares blob fits)
    rw [List.append_nil] at decides
    exact decides short
  | false =>
    have plain := Field.readable_of_plain blob
    simp only [Bool.false_eq_true, if_false]
    have same : { base with
        bytes := []
        linkedList := none
        stackTrace := none
        addressTrace := none } = field.carried := by
      rw [prepares.name, prepares.type, prepares.status, prepares.value]
      unfold Field.carried
      cases type : field.type <;> simp_all [fieldUsesBlob]
    rw [same]
    exact (Decides.pure _).congr (by simp [plain])

theorem readFieldValue_decides (name : base.name = field.name) (type : base.type = field.type)
    (carried : base.carried = base) :
    Decides () vectorBound (readFieldValue base) (appendFieldValue field)
      field.Readable field.carried := by
  have written := FieldStatus.ofCode_code field.status
  have prepares : Field.Prepares
      { base with status := field.status, value := field.value } field := by
    refine ⟨name, type, rfl, rfl, ?_⟩
    rw [← carried]
    unfold Field.carried
    cases base.type <;> rfl
  refine .step (.byte () _) ?_
  refine .step (readPod_decides .u64 _) ?_
  rw [written]
  exact (readFieldPayload_decides prepares).only

theorem readField_decides (field : Field) :
    Decides () vectorBound readField (appendField field) field.Readable field.carried := by
  have written := FieldType.ofCode_code field.type
  refine .step (readString_decides _) ?_
  refine .step (.byte () _) ?_
  rw [written]
  have bare : Field.carried { name := field.name, type := field.type } =
      { name := field.name, type := field.type } := by
    unfold Field.carried
    cases field.type <;> rfl
  have value : Decides () vectorBound
      (readFieldValue { name := field.name, type := field.type })
      (appendFieldValue field) field.Readable field.carried :=
    readFieldValue_decides rfl rfl bare
  exact value.only

theorem appendField_ne_nil (field : Field) : appendField field ≠ [] := by simp [appendField]

end Values

/-!
## Fields sent as changes

The bitmap of an event has the bits of the fields that are sent, and the reader
takes the other ones from its baseline.
-/

/-! ## Bitmaps -/

theorem shifted_one {bit : Nat} (inside : bit < 8) :
    ((1 : UInt8) <<< UInt8.ofNat bit).toNat = 2 ^ bit := by
  interval_cases bit <;> rfl

theorem masked_eq_testBit (byte : UInt8) {bit : Nat} (inside : bit < 8) :
    ((byte &&& (1 <<< UInt8.ofNat bit)) != 0) = byte.toNat.testBit bit := by
  rw [Bool.eq_iff_iff, bne_iff_ne, ne_eq, ← UInt8.toNat_inj, UInt8.toNat_and,
    shifted_one inside, Nat.and_two_pow]
  cases byte.toNat.testBit bit <;> simp

theorem length_setBit (bitmap : ByteString) (index : Nat) :
    (setBit bitmap index).length = bitmap.length :=
  List.length_modify _ _ _

theorem hasBit_setBit {bitmap : ByteString} {index : Nat}
    (inside : index / 8 < bitmap.length) (other : Nat) : hasBit (setBit bitmap index) other =
      (decide (index = other) || hasBit bitmap other) := by
  unfold hasBit setBit
  rw [masked_eq_testBit _ (Nat.mod_lt other (by decide)),
    masked_eq_testBit _ (Nat.mod_lt other (by decide)),
    List.getD_eq_getElem?_getD, List.getD_eq_getElem?_getD, List.getElem?_modify]
  by_cases same : index / 8 = other / 8
  · have within : other / 8 < bitmap.length := by omega
    have there : bitmap[other / 8]? = some bitmap[other / 8] := List.getElem?_eq_getElem within
    rw [there]
    simp only [same, if_true, Option.map_eq_map, Option.map_some, Option.getD_some]
    rw [UInt8.toNat_or, shifted_one (Nat.mod_lt index (by decide)),
      Nat.testBit_or, Nat.testBit_two_pow, Bool.or_comm]
    congr 1
    apply decide_eq_decide.mpr
    omega
  · have different : index ≠ other := by
      rintro rfl
      exact same rfl
    simp [same, different]

theorem hasBit_empty (count index : Nat) : hasBit (List.replicate count 0) index = false := by
  unfold hasBit
  rw [List.getD_eq_getElem?_getD, List.getElem?_replicate]
  split <;> simp

/-- The loop that sets the bits of the fields that are sent, from an index on.
The induction is on the fields that remain. -/
theorem setBits_spec (pairs : List (Field × Field)) (start : Nat) (bitmap : ByteString)
    (inside : ∀ offset < pairs.length, (start + offset) / 8 < bitmap.length) :
    let final := (pairs.zipIdx start).foldl
      (fun bitmap entry => if isSent entry.1.1 entry.1.2 then setBit bitmap entry.2 else bitmap)
      bitmap
    final.length = bitmap.length ∧
      (∀ index < start, hasBit final index = hasBit bitmap index) ∧
      ∀ offset (there : offset < pairs.length),
        hasBit final (start + offset) =
          (isSent pairs[offset].1 pairs[offset].2 || hasBit bitmap (start + offset)) := by
  induction pairs generalizing start bitmap with
  | nil => exact ⟨rfl, fun _ _ => rfl, fun _ there => absurd there (by simp)⟩
  | cons pair pairs ih =>
    have here : start / 8 < bitmap.length := inside 0 (by simp)
    rw [List.zipIdx_cons, List.foldl_cons]
    generalize taken : (if isSent pair.1 pair.2 then setBit bitmap start
      else bitmap) = next
    have length : next.length = bitmap.length := by
      rw [← taken]
      split
      · exact length_setBit bitmap start
      · rfl
    have bits (index : Nat) : hasBit next index =
        ((isSent pair.1 pair.2 && decide (start = index)) || hasBit bitmap index) := by
      rw [← taken]
      split
      · rename_i sent
        rw [hasBit_setBit here, sent, Bool.true_and]
      rename_i kept
      rw [Bool.not_eq_true] at kept
      rw [kept, Bool.false_and, Bool.false_or]
    obtain ⟨finalLength, below, above⟩ := ih (start + 1) next
      (by
        intro offset there
        rw [length]
        have := inside (offset + 1) (by simpa using there)
        rwa [Nat.add_right_comm, Nat.add_assoc])
    refine ⟨finalLength.trans length, ?_, ?_⟩
    · intro index before
      rw [below index (by omega), bits]
      have other : start ≠ index := by omega
      simp [other]
    intro offset there
    cases offset with
    | zero =>
      have first := below start (by omega)
      rw [bits] at first
      simpa using first
    | succ offset =>
      have later := above offset (by simpa using there)
      have moved : start + 1 + offset = start + (offset + 1) := by omega
      have other : start ≠ start + (offset + 1) := by omega
      rw [moved, bits] at later
      simpa [other] using later

theorem bit_inside {index count : Nat} (inside : index < count) : index / 8 < bitmapSize count := by
  unfold bitmapSize
  omega

/-- The bitmap has the size that the reader expects, and the bits of the fields
that are sent. -/
theorem changedFields_spec {fields baseline : List Field}
    (sameLength : baseline.length = fields.length) :
    (changedFields fields baseline).length = bitmapSize fields.length ∧
      ∀ index (there : index < fields.length),
        hasBit (changedFields fields baseline) index = isSent fields[index] baseline[index] := by
  have zipped : (fields.zip baseline).length = fields.length := by
    rw [List.length_zip, sameLength, Nat.min_self]
  obtain ⟨length, -, bits⟩ := setBits_spec (fields.zip baseline) 0
    (List.replicate (bitmapSize fields.length) 0) (by
      intro offset there
      rw [zipped] at there
      rw [List.length_replicate, Nat.zero_add]
      exact bit_inside there)
  refine ⟨length.trans (List.length_replicate ..), fun index there => ?_⟩
  have bit := bits index (by rwa [zipped])
  rw [hasBit_empty, Bool.or_false, Nat.zero_add, List.getElem_zip] at bit
  exact bit

/-! ## Reading changes -/

theorem kept_of_not_sent {field baseline : Field} (kept : isSent field baseline = false) :
    field = baseline ∧ field.Readable := by
  unfold isSent at kept
  rw [Bool.or_eq_false_iff, Bool.not_eq_false', Field.sameValue_iff] at kept
  exact ⟨kept.2, Field.readable_of_plain kept.1⟩

/-- The fields that are sent are read into the baseline of the reader, and the
others stay as they are there.  The induction is on the fields from an index
on. -/
theorem readChangedFields_decides (bitmap : ByteString)
    {fields baseline : List Field} (sameLength : baseline.length = fields.length)
    (shapes : ∀ pair ∈ fields.zip baseline, pair.2.sameShape pair.1 = true) (start : Nat)
    (bits : ∀ index (there : index < fields.length),
      hasBit bitmap (start + index) = isSent fields[index] baseline[index]) :
    Decides () vectorBound (readChangedFields bitmap ((baseline.map Field.carried).zipIdx start))
      ((fields.zipIdx start).flatMap (appendChangedField bitmap))
      (∀ field ∈ fields, field.Readable) (fields.map Field.carried) := by
  induction fields generalizing baseline start with
  | nil =>
    rw [List.length_nil, List.length_eq_zero_iff] at sameLength
    subst sameLength
    exact (Decides.pure []).congr (by simp)
  | cons field fields ih =>
    cases baseline with
    | nil => cases sameLength
    | cons base baseline =>
      have shape : base.sameShape field = true := shapes (field, base) List.mem_cons_self
      have bit : hasBit bitmap start = isSent field base := bits 0 (by simp)
      have rest := ih (Nat.succ.inj sameLength)
        (fun pair member => shapes pair (List.mem_cons_of_mem _ member))
        (start + 1) (by
          intro index there
          have later := bits (index + 1) (by simpa using there)
          rw [← Nat.add_assoc, Nat.add_right_comm] at later
          simpa using later)
      have first : Decides () vectorBound
          (readChangedField bitmap (base.carried, start))
          (appendChangedField bitmap (field, start))
          field.Readable field.carried := by
        unfold readChangedField appendChangedField
        simp only [bit]
        cases sent : isSent field base with
        | true =>
          unfold Field.sameShape at shape
          rw [Bool.and_eq_true, beq_iff_eq, beq_iff_eq] at shape
          exact readFieldValue_decides shape.1 shape.2 (Field.carried_carried base)
        | false =>
          obtain ⟨rfl, readable⟩ := kept_of_not_sent sent
          exact (Decides.pure _).congr (by simp [readable])
      refine Decides.congr (.bind first fun _ => .map (field.carried :: ·) rest) ?_
      rw [List.forall_mem_cons]

end Savor.Capture

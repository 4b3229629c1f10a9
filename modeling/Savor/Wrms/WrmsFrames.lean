import Savor.Wrms.WrmsPayloads

/-!
# WRMS frames

A frame is a header of twenty bytes and a payload.  A receiver decodes the bytes
that have arrived so far, and drops a frame when it is complete.
-/

namespace Savor.Wrms

open Library.Stream
open Program (ByteString)

def magic : ByteString := [0x57, 0x52, 0x4D, 0x53]

def protocolVersion : UInt16 := 6

def headerSize : Nat := 20

structure FrameHeader where
  version : UInt16 := protocolVersion
  kind : MessageKind := .processHello
  payloadSize : UInt32 := 0
  requestId : UInt64 := 0

structure FrameView where
  header : FrameHeader := {}
  payload : ByteString := []

inductive FrameError
  | none
  | truncatedHeader
  | wrongMagic
  | unsupportedVersion
  | unknownMessageKind
  | payloadTooLarge
  | truncatedPayload

inductive FrameDecodeStatus
  | complete
  | needMoreData
  | error
  deriving DecidableEq

structure FrameDecodeResult where
  status : FrameDecodeStatus := .needMoreData
  error : FrameError := .none
  requiredSize : Nat := headerSize
  consumedSize : Nat := 0
  frame : FrameView := {}

namespace FrameDecodeResult

/-- A frame that no further bytes make good. -/
def refused (error : FrameError) : FrameDecodeResult :=
  { status := .error, error, requiredSize := 0 }

/-- More bytes are needed, which is an error where none can come. -/
def awaiting (endOfStream : Bool) (error : FrameError) (requiredSize : Nat) : FrameDecodeResult :=
  if endOfStream then { status := .error, error, requiredSize }
  else { requiredSize }

theorem awaiting_false (error : FrameError) (requiredSize : Nat) :
    awaiting false error requiredSize = { requiredSize } := rfl

end FrameDecodeResult

/-- `ReadU16Unchecked`, `ReadU32Unchecked` and `ReadU64Unchecked` -/
def readUnchecked {α : Type} (word : Word α) (input : ByteString) (offset : Nat) : α :=
  word.decode ((input.drop offset).take word.width)

def decodeFrame (input : ByteString) (endOfStream : Bool := false) :
    FrameDecodeResult :=
  let magicPrefixSize := min input.length magic.length
  if input.take magicPrefixSize ≠ magic.take magicPrefixSize then
    .refused .wrongMagic
  else if input.length < headerSize then
    .awaiting endOfStream .truncatedHeader headerSize
  else
    let version := readUnchecked .u16 input 4
    let kind : MessageKind := ⟨readUnchecked .u16 input 6⟩
    let payloadSize := readUnchecked .u32 input 8
    let frameSize := headerSize + payloadSize.toNat
    if version ≠ protocolVersion then .refused .unsupportedVersion
    else if !kind.isKnown then .refused .unknownMessageKind
    else if payloadSize.toNat > maximumPayloadSize then
      .refused .payloadTooLarge
    else if input.length < frameSize then
      .awaiting endOfStream .truncatedPayload frameSize
    else
      { status := .complete, requiredSize := frameSize
        consumedSize := frameSize
        frame.header :=
          { version, kind, payloadSize
            requestId := readUnchecked .u64 input 12 }
        frame.payload := (input.drop headerSize).take payloadSize.toNat }

structure FrameEncodeResult where
  error : FrameError := .none
  bytes : ByteString := []

def encodeFrame (kind : MessageKind) (requestId : UInt64)
    (payload : ByteString) : FrameEncodeResult :=
  if !kind.isKnown then { error := .unknownMessageKind }
  else if payload.length > maximumPayloadSize ∨ payload.length > 2 ^ 32 - 1 then
    { error := .payloadTooLarge }
  else
    { bytes := magic ++ (Word.u16.encode protocolVersion ++ (Word.u16.encode kind.code ++
          (Word.u32.encode (UInt32.ofNat payload.length) ++
            (Word.u64.encode requestId ++ payload)))) }

/-- What a receiver has made of the bytes that arrived. -/
structure Received where
  frames : List FrameView
  rest : ByteString
  result : FrameDecodeResult

/-- Decode and drop complete frames, at most as many as the fuel. -/
def receiveFrames : Nat → ByteString → Received
  | 0, input => ⟨[], input, decodeFrame input⟩
  | fuel + 1, input =>
    let result := decodeFrame input
    if result.status = .complete then
      let received := receiveFrames fuel (input.drop result.consumedSize)
      { received with frames := result.frame :: received.frames }
    else ⟨[], input, result⟩

/-- Decode and drop complete frames: each of them takes bytes. -/
def receive (input : ByteString) : Received := receiveFrames input.length input

/-- A frame that `EncodeFrame` produces. -/
structure SentFrame where
  kind : MessageKind
  requestId : UInt64
  payload : ByteString
  encoded : (encodeFrame kind requestId payload).error = .none

namespace SentFrame

def bytes (frame : SentFrame) : ByteString :=
  (encodeFrame frame.kind frame.requestId frame.payload).bytes

/-- What the receiver is to see. -/
def view (frame : SentFrame) : FrameView where
  header :=
    { kind := frame.kind
      payloadSize := UInt32.ofNat frame.payload.length
      requestId := frame.requestId }
  payload := frame.payload

/-- The frames that end within this many bytes. -/
def within : List SentFrame → Nat → List SentFrame
  | [], _ => []
  | frame :: frames, count =>
    if frame.bytes.length ≤ count then
      frame :: within frames (count - frame.bytes.length)
    else []

end SentFrame

variable {input more : ByteString}

theorem readUnchecked_append {α : Type} {word : Word α} {offset : Nat}
    (arrived : headerSize ≤ input.length) (inside : offset + word.width ≤ headerSize) :
    readUnchecked word (input ++ more) offset = readUnchecked word input offset := by
  unfold readUnchecked
  rw [List.drop_append_of_le_length (by omega),
    List.take_append_of_le_length (by rw [List.length_drop]; omega)]

theorem magic_of_append (more : ByteString)
    (same : (input ++ more).take (min (input ++ more).length magic.length) =
      magic.take (min (input ++ more).length magic.length)) :
    input.take (min input.length magic.length) = magic.take (min input.length magic.length) := by
  have shorter : min input.length magic.length ≤ min (input ++ more).length magic.length := by
    rw [List.length_append]
    omega
  have first := congrArg (List.take (min input.length magic.length)) same
  rwa [List.take_take, List.take_take, Nat.min_eq_left shorter,
    List.take_append_of_le_length (Nat.min_le_left _ _)] at first

theorem decodeFrame_append (decided : (decodeFrame input).status ≠ .needMoreData) :
    decodeFrame (input ++ more) = decodeFrame input := by
  by_cases same : input.take (min input.length magic.length) =
      magic.take (min input.length magic.length)
  case neg =>
    have longer := mt (magic_of_append more) same
    unfold decodeFrame
    simp only [ne_eq, same, longer, not_false_eq_true, if_true]
  by_cases short : input.length < headerSize
  · unfold decodeFrame at decided
    simp [same, short, FrameDecodeResult.awaiting] at decided
  have header : 20 ≤ input.length := Nat.not_lt.mp short
  have whole : magic.length ≤ input.length := Nat.le_trans (by decide) header
  have start : (input ++ more).take (min (input ++ more).length magic.length) =
      magic.take (min (input ++ more).length magic.length) := by
    rw [Nat.min_eq_right whole] at same
    rw [Nat.min_eq_right (Nat.le_trans whole (by simp)), List.take_append_of_le_length whole, same]
  have longer : ¬(input ++ more).length < headerSize := by
    rw [List.length_append]
    omega
  unfold decodeFrame at decided ⊢
  simp (disch := decide) only [same, start, short, longer, ne_eq,
    not_true_eq_false, if_false, readUnchecked_append header,
    FrameDecodeResult.awaiting_false] at decided ⊢
  split_ifs at decided ⊢ with version known large later arrived arrived
  · rfl
  · rfl
  · rfl
  · rw [List.length_append] at later
    omega
  · exact absurd rfl decided
  · have payload : headerSize + (readUnchecked .u32 input 8).toNat ≤
        input.length := Nat.not_lt.mp arrived
    congr 2
    rw [List.drop_append_of_le_length (Nat.not_lt.mp short),
      List.take_append_of_le_length (by rw [List.length_drop]; omega)]
  · rfl

theorem consumedSize_eq (complete : (decodeFrame input).status = .complete) :
    (decodeFrame input).consumedSize = headerSize + (readUnchecked .u32 input 8).toNat ∧
      (decodeFrame input).consumedSize ≤ input.length := by
  unfold decodeFrame at complete ⊢
  simp only [FrameDecodeResult.awaiting_false] at complete ⊢
  split_ifs at complete ⊢
  any_goals cases complete
  rename_i arrived
  exact ⟨rfl, Nat.not_lt.mp arrived⟩

/-- What is required has not arrived, and no frame that begins so is shorter. -/
theorem lt_requiredSize (more : ByteString)
    (undecided : (decodeFrame input).status = .needMoreData) :
    input.length < (decodeFrame input).requiredSize ∧
      ((decodeFrame (input ++ more)).status = .complete →
        (decodeFrame input).requiredSize ≤ (decodeFrame (input ++ more)).consumedSize) := by
  suffices required : (input.length < headerSize ∧ (decodeFrame input).requiredSize = headerSize) ∨
        (headerSize ≤ input.length ∧ input.length < (decodeFrame input).requiredSize ∧
          (decodeFrame input).requiredSize = headerSize + (readUnchecked .u32 input 8).toNat) by
    rcases required with ⟨short, required⟩ | ⟨header, missing, required⟩
    · refine ⟨required ▸ short, fun complete => ?_⟩
      rw [required, (consumedSize_eq complete).1]
      exact Nat.le_add_right _ _
    refine ⟨missing, fun complete => ?_⟩
    exact Nat.le_of_eq (by rw [required, (consumedSize_eq complete).1,
      readUnchecked_append header (by decide)])
  unfold decodeFrame at undecided ⊢
  simp only [FrameDecodeResult.awaiting_false] at undecided ⊢
  split_ifs at undecided ⊢ with wrong short
  any_goals cases undecided
  · exact .inl ⟨short, rfl⟩
  · rename_i missing
    exact .inr ⟨Nat.not_lt.mp short, missing, rfl⟩

namespace SentFrame

theorem bytes_eq (frame : SentFrame) :
    frame.kind.isKnown = true ∧ frame.payload.length ≤ maximumPayloadSize ∧
      frame.bytes = magic ++ (Word.u16.encode protocolVersion ++ (Word.u16.encode frame.kind.code ++
          (Word.u32.encode (UInt32.ofNat frame.payload.length) ++
            (Word.u64.encode frame.requestId ++ frame.payload)))) := by
  have encoded := frame.encoded
  unfold SentFrame.bytes
  unfold encodeFrame at encoded ⊢
  split_ifs at encoded ⊢ with unknown long
  exact ⟨by simpa using unknown, by omega, rfl⟩

theorem decodeFrame_bytes (frame : SentFrame) (rest : ByteString) :
    decodeFrame (frame.bytes ++ rest) =
      { status := .complete, requiredSize := frame.bytes.length
        consumedSize := frame.bytes.length, frame := frame.view } := by
  obtain ⟨known, fits, bytes⟩ := frame.bytes_eq
  have size : (UInt32.ofNat frame.payload.length).toNat = frame.payload.length :=
    UInt32.toNat_ofNat_of_lt' (Nat.lt_of_le_of_lt fits (by decide))
  have length : frame.bytes.length = headerSize + frame.payload.length := by
    rw [bytes, Nat.add_comm]
    rfl
  have whole : decodeFrame frame.bytes =
      { status := .complete, requiredSize := frame.bytes.length
        consumedSize := frame.bytes.length, frame := frame.view } := by
    have version : readUnchecked .u16 frame.bytes 4 = protocolVersion := by
      rw [bytes]
      exact Word.u16.decode_encode protocolVersion
    have kind : readUnchecked .u16 frame.bytes 6 = frame.kind.code := by
      rw [bytes]
      exact Word.u16.decode_encode frame.kind.code
    have payloadSize : readUnchecked .u32 frame.bytes 8 = UInt32.ofNat frame.payload.length := by
      rw [bytes]
      exact Word.u32.decode_encode _
    have request : readUnchecked .u64 frame.bytes 12 = frame.requestId := by
      rw [bytes]
      exact Word.u64.decode_encode frame.requestId
    have payload : frame.bytes.drop headerSize = frame.payload := by
      rw [bytes]
      rfl
    have start : frame.bytes.take (min frame.bytes.length magic.length) =
        magic.take (min frame.bytes.length magic.length) := by
      have whole : magic.length ≤ frame.bytes.length := by
        rw [length]
        exact Nat.le_trans (by decide) (Nat.le_add_right headerSize _)
      rw [Nat.min_eq_right whole, bytes]
      rfl
    have short : ¬frame.bytes.length < headerSize := by omega
    have arrived : ¬frame.bytes.length < headerSize + frame.payload.length := by omega
    unfold decodeFrame
    simp only [start, short, version, kind, payloadSize, request, payload, size,
      known, Nat.not_lt.mpr fits, arrived, ne_eq, not_true_eq_false, if_false,
      Bool.not_true, Bool.false_eq_true, List.take_length]
    rw [length]
    rfl
  rw [decodeFrame_append (by rw [whole]; nofun), whole]

end SentFrame

/-- What a receiver makes of the first bytes of a stream of frames. -/
structure Receives (frames : List SentFrame) (input : ByteString)
    (complete : List SentFrame) (received : Received) : Prop where
  decoded : received.frames = complete.map SentFrame.view
  rest : input = complete.flatMap SentFrame.bytes ++ received.rest
  undecided : received.result.status = .needMoreData
  missing : received.rest.length < received.result.requiredSize
  required : ∀ next ∈ (frames.drop complete.length).head?,
    received.result.requiredSize ≤ next.bytes.length

theorem receiveFrames_of_needMoreData {frames : List SentFrame}
    (undecided : (decodeFrame input).status = .needMoreData)
    (begins : ∀ next ∈ frames.head?, ∃ more, next.bytes = input ++ more)
    (fuel : Nat) : Receives frames input [] (receiveFrames fuel input) := by
  have received : receiveFrames fuel input = ⟨[], input, decodeFrame input⟩ := by
    cases fuel with
    | zero => rfl
    | succ fuel => simp [receiveFrames, undecided]
  rw [received]
  refine ⟨rfl, rfl, undecided, (lt_requiredSize [] undecided).1, fun next first => ?_⟩
  obtain ⟨more, bytes⟩ := begins next first
  have decoded := next.decodeFrame_bytes []
  rw [List.append_nil, bytes] at decoded
  have required := (lt_requiredSize more undecided).2 (by rw [decoded])
  rwa [decoded, ← bytes] at required

theorem receiveFrames_receives (frames : List SentFrame) (count fuel : Nat)
    (enough : ((frames.flatMap SentFrame.bytes).take count).length ≤ fuel) :
    Receives frames ((frames.flatMap SentFrame.bytes).take count) (SentFrame.within frames count)
      (receiveFrames fuel ((frames.flatMap SentFrame.bytes).take count)) := by
  induction frames generalizing count fuel with
  | nil =>
    rw [List.flatMap_nil, List.take_nil]
    exact receiveFrames_of_needMoreData rfl (by simp) fuel
  | cons frame frames ih =>
    rw [List.flatMap_cons] at enough ⊢
    unfold SentFrame.within
    by_cases whole : frame.bytes.length ≤ count
    · rw [if_pos whole]
      rw [List.take_append, List.take_of_length_le whole] at enough ⊢
      have decoded := frame.decodeFrame_bytes
        ((frames.flatMap SentFrame.bytes).take (count - frame.bytes.length))
      have size := (consumedSize_eq (congrArg (·.status) decoded)).1
      rw [decoded, headerSize] at size
      dsimp only at size
      rw [List.length_append] at enough
      obtain ⟨fuel, rfl⟩ : ∃ less, fuel = less + 1 := ⟨fuel - 1, by omega⟩
      have received := ih (count - frame.bytes.length) fuel (by omega)
      simp only [receiveFrames, decoded, if_true, List.drop_left]
      refine ⟨congrArg _ received.decoded, ?_, received.undecided,
        received.missing, received.required⟩
      rw [List.flatMap_cons, List.append_assoc, ← received.rest]
    · rw [if_neg whole]
      rw [List.take_append_of_le_length (Nat.le_of_not_le whole)] at enough ⊢
      have split := List.take_append_drop count frame.bytes
      refine receiveFrames_of_needMoreData ?_ ?_ fuel
      · by_contra decided
        have decoded := frame.decodeFrame_bytes []
        rw [List.append_nil, ← split, decodeFrame_append decided, split] at decoded
        have arrived := (consumedSize_eq (congrArg (·.status) decoded)).2
        rw [decoded, List.length_take] at arrived
        dsimp only at arrived
        omega
      · rintro _ ⟨⟩
        exact ⟨_, split.symm⟩

/-- Whatever prefix of a stream of frames has arrived, the receiver sees the
frames that end in it and needs more bytes, but no more than the next frame has;
and an error or a complete frame stays what it is when more bytes arrive. -/
theorem frames_are_unambiguous : (∀ (frames : List SentFrame) (count : Nat),
      let arrived := (frames.flatMap SentFrame.bytes).take count
      Receives frames arrived (SentFrame.within frames count) (receive arrived)) ∧
      ∀ input more : ByteString,
        (decodeFrame input).status ≠ .needMoreData →
          decodeFrame (input ++ more) = decodeFrame input :=
  ⟨fun frames count => receiveFrames_receives frames count _ (Nat.le_refl _),
    fun _ _ => decodeFrame_append⟩

namespace Sample

/-- A host event without a payload. -/
def event : SentFrame := ⟨.hostEvent, 7, [], rfl⟩

/-- The state of a workset in two bytes. -/
def state : SentFrame := ⟨.worksetState, 8, [1, 2], rfl⟩

end Sample

/-- The header of the second frame has arrived, but not its payload; and a
wrong first byte is an error whatever follows. -/
theorem frames_are_unambiguous_sample :
    (let arrived := (Sample.event.bytes ++ Sample.state.bytes).take 41
    Receives [Sample.event, Sample.state] arrived [Sample.event] (receive arrived) ∧
      (receive arrived).result.requiredSize = 22) ∧
    decodeFrame [0, 1] = decodeFrame [0] := by
  have received := frames_are_unambiguous.1 [Sample.event, Sample.state] 41
  have ends : SentFrame.within [Sample.event, Sample.state] 41 = [Sample.event] := by rfl
  rw [ends, List.flatMap_cons, List.flatMap_singleton] at received
  exact ⟨⟨received, by decide +kernel⟩, frames_are_unambiguous.2 [0] [1] (by decide +kernel)⟩

end Savor.Wrms

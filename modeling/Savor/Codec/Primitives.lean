import Savor.Library.Wire
import Savor.Model.Program
import Savor.Model.TextForms

/-!
# The primitives of the canonical codec

The writer and the reader of the first codec version: little-endian numbers,
flags, enumerations, hashes, strings and collections, with the limits that both
enforce.
-/

namespace Savor.Program
namespace Codec

open Library.Wire
open Decoder

structure CodecLimits where
  maximumPayloadBytes : UInt64 := 64 * 1024 * 1024
  maximumStringBytes : UInt64 := 4 * 1024 * 1024
  maximumCollectionElements : UInt64 := 1024 * 1024

/-- `CodecError`; success is no error. -/
inductive CodecError
  | invalidMagic
  | unsupportedVersion
  | truncated
  | oversized
  | invalidValue
  | nonCanonical
  | trailingBytes
  | hashMismatch
  | hashFailure
  deriving DecidableEq

/-- The status of a failure.  The first failure of a writer or a reader stays. -/
structure CodecStatus where
  error : CodecError
  message : ByteString
  deriving DecidableEq

abbrev Writer := Encoder CodecLimits CodecStatus Unit

abbrev Reader (α : Type) := Decoder CodecLimits CodecStatus α

/-- The largest number a `uint32_t` holds. -/
def maximumUInt32 : Nat := 0xffffffff

/-- `Writer::Fail`. -/
def failWrite (error : CodecError) (message : String) : Writer := Encoder.fail ⟨error, text message⟩

/-- `Reader::Fail`. -/
def failRead {α : Type} (error : CodecError) (message : String) : Reader α :=
  fail ⟨error, text message⟩

/-- `Writer::Append`. -/
def append (byte : Byte) : Writer := do
  let limits ← Encoder.limits
  let size ← Encoder.size
  if size = limits.maximumPayloadBytes.toNat then
    failWrite .oversized "encoded payload exceeds configured limit"
  else Encoder.emit [byte]

/-- `Writer::Raw`. -/
def writeRaw (bytes : ByteString) : Writer := do
  let limits ← Encoder.limits
  let size ← Encoder.size
  if bytes.length > limits.maximumPayloadBytes.toNat ∨
      size > limits.maximumPayloadBytes.toNat - bytes.length then
    failWrite .oversized "encoded payload exceeds configured limit"
  else Encoder.emit bytes

/-- `Reader::Require`, and the bytes it admits. -/
def require (count : Nat) : Reader ByteString :=
  take ⟨.truncated, text "payload ended before the declared value"⟩ count

/-- A little-endian number of the given width, byte by byte. -/
def writeNumber (width number : Nat) : Writer := Encoder.each append (littleEndian width number)

def readNumber (width : Nat) : Reader Nat := do
  let bytes ← require width
  pure (ofLittleEndian bytes)

def writeU8 (value : UInt8) : Writer := writeNumber 1 value.toNat

def readU8 : Reader UInt8 := do
  let value ← readNumber 1
  pure (UInt8.ofNat value)

def writeU16 (value : UInt16) : Writer := writeNumber 2 value.toNat

def readU16 : Reader UInt16 := do
  let value ← readNumber 2
  pure (UInt16.ofNat value)

def writeU32 (value : UInt32) : Writer := writeNumber 4 value.toNat

def readU32 : Reader UInt32 := do
  let value ← readNumber 4
  pure (UInt32.ofNat value)

def writeU64 (value : UInt64) : Writer := writeNumber 8 value.toNat

def readU64 : Reader UInt64 := do
  let value ← readNumber 8
  pure (UInt64.ofNat value)

/-- Signed numbers are written as their bit pattern. -/
def writeI32 (value : Int32) : Writer := writeU32 value.toUInt32

def readI32 : Reader Int32 := do
  let value ← readU32
  pure value.toInt32

def writeI64 (value : Int64) : Writer := writeU64 value.toUInt64

def readI64 : Reader Int64 := do
  let value ← readU64
  pure value.toInt64

def writeF32 (value : Float32Bits) : Writer :=
  if !value.isFinite then
    failWrite .invalidValue "non-finite f32 is not canonical"
  else writeU32 value.bits

def readF32 : Reader Float32Bits := do
  let bits ← readU32
  if !(Float32Bits.mk bits).isFinite then
    failRead .invalidValue "non-finite f32 is not canonical"
  else pure ⟨bits⟩

def writeF64 (value : Float64Bits) : Writer :=
  if !value.isFinite then
    failWrite .invalidValue "non-finite f64 is not canonical"
  else writeU64 value.bits

def readF64 : Reader Float64Bits := do
  let bits ← readU64
  if !(Float64Bits.mk bits).isFinite then
    failRead .invalidValue "non-finite f64 is not canonical"
  else pure ⟨bits⟩

def writeBool (value : Bool) : Writer := writeU8 (if value then 1 else 0)

def readBool : Reader Bool := do
  let raw ← readU8
  if raw > 1 then
    failRead .nonCanonical "boolean must be encoded as zero or one"
  else pure (raw != 0)

def writeHash (hash : ContentHash256) : Writer := writeRaw hash.bytes

def readHash : Reader ContentHash256 := do
  let bytes ← require 32
  if fits : bytes.length = 32 then pure ⟨bytes, fits⟩
  else failRead .truncated "payload ended before the declared value"

def writeString (string : ByteString) : Writer := do
  let limits ← Encoder.limits
  if !isValidUtf8 string then
    failWrite .invalidValue "string is not canonical UTF-8"
  else if string.length > limits.maximumStringBytes.toNat ∨ string.length > maximumUInt32 then
    failWrite .oversized "string exceeds configured limit"
  else do
    writeU32 (UInt32.ofNat string.length)
    writeRaw string

def readString : Reader ByteString := do
  let size ← readU32
  let limits ← limits
  if size.toNat > limits.maximumStringBytes.toNat then
    failRead .oversized "string exceeds configured limit"
  else do
    let string ← require size.toNat
    if !isValidUtf8 string then
      failRead .invalidValue "string is not canonical UTF-8"
    else pure string

def writeBytes (bytes : ByteString) : Writer := do
  let limits ← Encoder.limits
  if bytes.length > limits.maximumStringBytes.toNat ∨ bytes.length > maximumUInt32 then
    failWrite .oversized "byte string exceeds configured limit"
  else do
    writeU32 (UInt32.ofNat bytes.length)
    writeRaw bytes

def readBytes : Reader ByteString := do
  let size ← readU32
  let limits ← limits
  if size.toNat > limits.maximumStringBytes.toNat then
    failRead .oversized "byte string exceeds configured limit"
  else require size.toNat

/-- The enumerators of a type, in the order of their values. -/
class Enumeration (α : Type) where
  enumerators : List α
  index : α → Nat
  indexed : ∀ value, enumerators[index value]? = some value

/-- `Writer::Enum`, for an underlying type of `width` bytes. -/
def writeEnum {α : Type} [Enumeration α] (width : Nat) (value : α) : Writer :=
  writeNumber width (Enumeration.index value)

/-- `Reader::EnumValue`, up to the last enumerator. -/
def readEnum {α : Type} [Enumeration α] (width : Nat) : Reader α := do
  let raw ← readNumber width
  match (Enumeration.enumerators : List α)[raw]? with
  | some value => pure value
  | none => failRead .invalidValue "enum value is outside its contract"

/-- `Writer::Vector`. -/
def writeVector {α : Type} (write : α → Writer) (values : List α) : Writer := do
  let limits ← Encoder.limits
  if values.length > limits.maximumCollectionElements.toNat ∨ values.length > maximumUInt32 then
    failWrite .oversized "collection exceeds configured limit"
  else do
    writeU32 (UInt32.ofNat values.length)
    Encoder.each write values

/-- `Reader::Vector`. -/
def readVector {α : Type} (read : Reader α) : Reader (List α) := do
  let count ← readU32
  let limits ← limits
  if count.toNat > limits.maximumCollectionElements.toNat then
    failRead .oversized "collection exceeds configured limit"
  else replicate read count.toNat

/-- `Writer::Optional`. -/
def writeOptional {α : Type} (write : α → Writer) (value : Option α) : Writer := do
  writeBool value.isSome
  match value with
  | some value => write value
  | none => pure ()

/-- `Reader::Optional`. -/
def readOptional {α : Type} (read : Reader α) : Reader (Option α) := do
  let isPresent ← readBool
  if isPresent then do
    let value ← read
    pure (some value)
  else pure none

def writeId {Tag : Type} (id : StrongId Tag) : Writer := writeU64 id.value

def readId {Tag : Type} : Reader (StrongId Tag) := do
  let value ← readU64
  pure ⟨value⟩

section RoundTrips

variable {limits : CodecLimits} {bytes : ByteString} {size : Nat}

theorem append_ok {byte : Byte} : append byte limits size = .ok ((), bytes) ↔
      size ≠ limits.maximumPayloadBytes.toNat ∧ bytes = [byte] := by
  unfold append
  rw [Encoder.limits_bind, Encoder.size_bind]
  split
  · rename_i full
    exact ⟨nofun, fun ⟨room, _⟩ => absurd full room⟩
  rename_i room
  constructor
  · intro appended
    cases appended
    exact ⟨room, rfl⟩
  · rintro ⟨_, rfl⟩
    rfl

theorem writeRaw_ok {raw : ByteString} : writeRaw raw limits size = .ok ((), bytes) ↔
      size + raw.length ≤ limits.maximumPayloadBytes.toNat ∧ bytes = raw := by
  unfold writeRaw
  rw [Encoder.limits_bind, Encoder.size_bind]
  split
  · rename_i full
    exact ⟨nofun, fun ⟨room, _⟩ => by omega⟩
  rename_i room
  constructor
  · intro written
    cases written
    exact ⟨by omega, rfl⟩
  · rintro ⟨_, rfl⟩
    rfl

theorem each_append_ok {appended : ByteString}
    (written : Encoder.each append bytes limits size = .ok ((), appended)) : appended = bytes := by
  induction bytes generalizing size appended with
  | nil =>
    cases written
    rfl
  | cons byte bytes ih =>
    obtain ⟨start, rest, first, follows, rfl⟩ := Encoder.bind_eq_ok_iff.mp written
    rw [(append_ok.mp first).2, ih follows]
    rfl

theorem each_append_matches (bytes : ByteString) :
    Matches limits (Encoder.each append bytes) (require bytes.length) bytes := by
  intro size appended written rest
  rw [each_append_ok written]
  simp [require, take]

theorem writeRaw_matches (bytes : ByteString) :
    Matches limits (writeRaw bytes) (require bytes.length) bytes :=
  .encoderLimits (.encoderSize fun _ => .guard fun _ => .take _ bytes)

theorem writeNumber_matches {width number : Nat} (fits : number < 256 ^ width) :
    Matches limits (writeNumber width number) (readNumber width) number := by
  have appended : Matches limits (writeNumber width number) (require width)
      (littleEndian width number) := by
    have bytes : Matches limits _ _ _ := each_append_matches (littleEndian width number)
    rw [length_littleEndian] at bytes
    exact bytes
  exact .map _ appended (ofLittleEndian_littleEndian fits)

instance codedU8 (value : UInt8) : Coded limits (writeU8 value) readU8 value :=
  ⟨.map _ (writeNumber_matches value.toNat_lt) UInt8.ofNat_toNat⟩

instance (value : UInt16) : Coded limits (writeU16 value) readU16 value :=
  ⟨.map _ (writeNumber_matches value.toNat_lt) UInt16.ofNat_toNat⟩

instance codedU32 (value : UInt32) : Coded limits (writeU32 value) readU32 value :=
  ⟨.map _ (writeNumber_matches value.toNat_lt) UInt32.ofNat_toNat⟩

instance codedU64 (value : UInt64) : Coded limits (writeU64 value) readU64 value :=
  ⟨.map _ (writeNumber_matches value.toNat_lt) UInt64.ofNat_toNat⟩

instance (value : Int32) : Coded limits (writeI32 value) readI32 value :=
  ⟨.map _ (codedU32 _).agrees (Int32.toInt32_toUInt32 value)⟩

instance (value : Int64) : Coded limits (writeI64 value) readI64 value :=
  ⟨.map _ (codedU64 _).agrees (Int64.toInt64_toUInt64 value)⟩

instance (value : Float32Bits) : Coded limits (writeF32 value) readF32 value := by
  constructor
  refine .guard fun finite => .finish Coded.agrees fun rest => ?_
  rw [if_neg finite]
  rfl

instance (value : Float64Bits) : Coded limits (writeF64 value) readF64 value := by
  constructor
  refine .guard fun finite => .finish Coded.agrees fun rest => ?_
  rw [if_neg finite]
  rfl

instance (value : Bool) : Coded limits (writeBool value) readBool value := by
  constructor
  refine .finish (codedU8 _).agrees fun rest => ?_
  cases value <;> rfl

instance (hash : ContentHash256) : Coded limits (writeHash hash) readHash hash := by
  constructor
  have read : Matches limits _ _ _ := writeRaw_matches hash.bytes
  rw [hash.length_bytes] at read
  refine .finish read fun rest => ?_
  rw [dif_pos hash.length_bytes]
  rfl

theorem toNat_ofNat_length {length : Nat} (fits : ¬length > maximumUInt32) :
    (UInt32.ofNat length).toNat = length := by
  rw [UInt32.toNat_ofNat']
  unfold maximumUInt32 at fits
  omega

instance (string : ByteString) : Coded limits (writeString string) readString string := by
  constructor
  refine .encoderLimits (.guard fun valid => .guard fun short => ?_)
  rw [not_or] at short
  have length := toNat_ofNat_length short.2
  refine .bind Coded.agrees (.decoderLimits (.check ?_ ?_))
  · rw [length]
    exact short.1
  rw [length]
  refine .finish (writeRaw_matches string) fun rest => ?_
  rw [if_neg valid]
  rfl

instance (bytes : ByteString) : Coded limits (writeBytes bytes) readBytes bytes := by
  constructor
  refine .encoderLimits (.guard fun short => ?_)
  rw [not_or] at short
  have length := toNat_ofNat_length short.2
  refine .bind Coded.agrees (.decoderLimits (.check ?_ ?_))
  · rw [length]
    exact short.1
  · rw [length]
    exact writeRaw_matches bytes

variable {α : Type}

/-- An enumerator whose index fits the underlying type. -/
theorem writeEnum_matches [Enumeration α] {width : Nat} (value : α)
    (fits : (Enumeration.enumerators : List α).length ≤ 256 ^ width) :
    Matches limits (writeEnum width value) (readEnum width) value := by
  have listed := Enumeration.indexed value
  obtain ⟨inside, _⟩ := List.getElem?_eq_some_iff.mp listed
  refine .finish (writeNumber_matches (by omega)) fun rest => ?_
  rw [listed]
  rfl

variable {write : α → Writer}

theorem writeVector_matches {β : Type} {read : Reader β} {view : α → β} {values : List α}
    (element : ∀ value ∈ values, Matches limits (write value) read (view value)) :
    Matches limits (writeVector write values) (readVector read) (values.map view) := by
  refine .encoderLimits (.guard fun short => ?_)
  rw [not_or] at short
  have length := toNat_ofNat_length short.2
  refine .bind Coded.agrees (.decoderLimits (.check ?_ ?_))
  · rw [length]
    exact short.1
  · rw [length]
    exact .each element

theorem writeOptional_matches {β : Type} {read : Reader β} {view : α → β} {value : Option α}
    (element : ∀ some ∈ value, Matches limits (write some) read (view some)) :
    Matches limits (writeOptional write value) (readOptional read) (value.map view) := by
  refine .bind Coded.agrees ?_
  cases value with
  | none => exact .pure none
  | some value => exact .map _ (element value rfl) rfl

theorem writeVector_rewrites {view : α → α} {values : List α} (element : ∀ value ∈ values,
      Rewrites limits (write value) (write (view value))) :
    Rewrites limits (writeVector write values) (writeVector write (values.map view)) := by
  refine .encoderLimits ?_
  rw [List.length_map]
  exact .guard id fun _ => .bind (.refl _) (.each element)

theorem writeOptional_rewrites {view : α → α} {value : Option α} (element : ∀ some ∈ value,
      Rewrites limits (write some) (write (view some))) :
    Rewrites limits (writeOptional write value) (writeOptional write (value.map view)) := by
  cases value with
  | none => exact .refl _
  | some value => exact .bind (.refl _) (element value rfl)

instance {Tag : Type} (id : StrongId Tag) : Coded limits (writeId id) readId id :=
  ⟨.map _ (codedU64 _).agrees rfl⟩

end RoundTrips

section Moving

variable {limits : CodecLimits}

theorem append_movable (byte : Byte) :
    Movable limits limits.maximumPayloadBytes.toNat (append byte) := by
  intro size bytes _ appended size' fits
  obtain ⟨_, rfl⟩ := append_ok.mp appended
  rw [List.length_singleton] at fits
  exact append_ok.mpr ⟨by omega, rfl⟩

theorem writeNumber_movable (width number : Nat) : Movable limits limits.maximumPayloadBytes.toNat
      (writeNumber width number) :=
  .each append_movable _

theorem writeVector_movable {α : Type} {write : α → Writer} (element : ∀ value,
      Movable limits limits.maximumPayloadBytes.toNat (write value))
    (values : List α) : Movable limits limits.maximumPayloadBytes.toNat
      (writeVector write values) :=
  .encoderLimits (.guard (.bind (writeNumber_movable _ _) (.each element values)))

theorem writeVector_resembles_perm {α : Type} {write : α → Writer}
    {left right : List α} (permutes : left.Perm right) (element : ∀ value,
      Movable limits limits.maximumPayloadBytes.toNat (write value)) :
    Resembles limits limits.maximumPayloadBytes.toNat
      (writeVector write left) (writeVector write right) := by
  refine .encoderLimits ?_
  rw [permutes.length_eq]
  exact .guard fun _ => .bind (.refl _) (Movable.resembles_perm element permutes)

theorem writeVector_resembles {α β : Type} {write : β → Writer}
    {view view' : α → β} {values : List α} (element : ∀ value ∈ values,
      Resembles limits limits.maximumPayloadBytes.toNat
        (write (view value)) (write (view' value))) :
    Resembles limits limits.maximumPayloadBytes.toNat (writeVector write (values.map view))
      (writeVector write (values.map view')) := by
  refine .encoderLimits ?_
  rw [List.length_map, List.length_map]
  exact .guard fun _ => .bind (.refl _) (.each element)

end Moving

/-!
## Canonical envelopes

A payload with its magic, version and length, and the decoder that accepts a
payload only when encoding what it read gives the same bytes.
-/

/-- `kProgramCodecVersionV1`. -/
def programCodecVersionV1 : UInt16 := 1

/-- `kProgramCodecHeaderSizeV1`. -/
def programCodecHeaderSizeV1 : Nat := 10

/-- The largest number a `uint64_t` holds. -/
def maximumUInt64 : UInt64 := 0xffffffffffffffff

/-- `EncodeResult`: the bytes, or the status of the failure. -/
abbrev EncodeResult := Except CodecStatus ByteString

/-- The bytes a writer produces from nothing. -/
def runWriter (limits : CodecLimits) (writer : Writer) : EncodeResult :=
  (writer limits 0).map Prod.snd

/-- The limits of the envelope leave room for the header. -/
def envelopeLimits (limits : CodecLimits) : CodecLimits :=
  if limits.maximumPayloadBytes ≤ maximumUInt64 - UInt64.ofNat programCodecHeaderSizeV1 then
    { limits with
      maximumPayloadBytes := limits.maximumPayloadBytes + UInt64.ofNat programCodecHeaderSizeV1 }
  else limits

/-- The envelope around a payload. -/
def writeEnvelope (magic payload : ByteString) : Writer := do
  writeRaw magic
  writeU16 programCodecVersionV1
  writeU32 (UInt32.ofNat payload.length)
  writeRaw payload

def encodeEnvelope (magic : ByteString) (limits : CodecLimits) (body : Writer) : EncodeResult := do
  let payload ← runWriter limits body
  if payload.length > limits.maximumPayloadBytes.toNat ∨ payload.length > maximumUInt32 then
    .error ⟨.oversized, text "payload exceeds canonical envelope limit"⟩
  else runWriter (envelopeLimits limits) (writeEnvelope magic payload)

structure DecodeResult (α : Type) where
  status : Option CodecStatus
  value : Option α
  consumed : Nat

namespace DecodeResult

variable {α : Type}

/-- A failure after a number of bytes. -/
def failed (error : CodecError) (message : String) (consumed : Nat) : DecodeResult α :=
  ⟨some ⟨error, text message⟩, none, consumed⟩

/-- A value read from a number of bytes. -/
def decoded (value : α) (consumed : Nat) : DecodeResult α := ⟨none, some value, consumed⟩

end DecodeResult

/-- `DecodeEnvelope`: the payload of the envelope. -/
def decodeEnvelope (bytes expectedMagic : ByteString) (limits : CodecLimits) :
    DecodeResult ByteString :=
  if bytes.length < programCodecHeaderSizeV1 then
    .failed .truncated "canonical envelope header is truncated" 0
  else if bytes.take 4 ≠ expectedMagic then
    .failed .invalidMagic "canonical envelope magic is invalid" 0
  else if ofLittleEndian ((bytes.drop 4).take 2) ≠
      programCodecVersionV1.toNat then
    .failed .unsupportedVersion "canonical envelope version is unsupported" 0
  else
    let length := ofLittleEndian ((bytes.drop 6).take 4)
    if length > limits.maximumPayloadBytes.toNat then
      .failed .oversized
        "canonical envelope payload exceeds configured limit" 0
    else
      let required := programCodecHeaderSizeV1 + length
      if bytes.length < required then
        .failed .truncated "canonical envelope payload is truncated" 0
      else if bytes.length > required then
        .failed .trailingBytes "canonical envelope has trailing bytes" required
      else
        .decoded ((bytes.drop programCodecHeaderSizeV1).take length) required

def decodeCanonical {α : Type} (bytes magic : ByteString)
    (limits : CodecLimits) (bodyReader : Reader α)
    (encoder : α → CodecLimits → EncodeResult) : DecodeResult α :=
  let envelope := decodeEnvelope bytes magic limits
  match envelope.status, envelope.value with
  | none, some body =>
    match bodyReader limits body with
    | .error status => ⟨some status, none, envelope.consumed⟩
    | .ok (value, rest) =>
      if rest ≠ [] then
        .failed .trailingBytes "canonical payload has trailing body bytes"
          envelope.consumed
      else
        match encoder value limits with
        | .error status => ⟨some status, none, envelope.consumed⟩
        | .ok canonical =>
          if canonical ≠ bytes then
            .failed .nonCanonical
              "payload does not use canonical ordering" envelope.consumed
          else .decoded value envelope.consumed
  | status, _ => ⟨status, none, envelope.consumed⟩

/-- The bytes of an envelope. -/
def envelopeBytes (magic payload : ByteString) : ByteString :=
  magic ++ (littleEndian 2 programCodecVersionV1.toNat ++
    (littleEndian 4 payload.length ++ payload))

section Envelopes

variable {magic payload bytes : ByteString} {limits : CodecLimits}

theorem writeEnvelope_ok {size : Nat} (short : payload.length ≤ maximumUInt32)
    (written : writeEnvelope magic payload limits size = .ok ((), bytes)) :
    bytes = envelopeBytes magic payload := by
  unfold writeEnvelope at written
  obtain ⟨_, _, raw, follows, rfl⟩ := Encoder.bind_eq_ok_iff.mp written
  obtain ⟨_, _, version, follows', rfl⟩ := Encoder.bind_eq_ok_iff.mp follows
  obtain ⟨_, _, length, rest, rfl⟩ := Encoder.bind_eq_ok_iff.mp follows'
  rw [(writeRaw_ok.mp raw).2, each_append_ok version, each_append_ok length,
    (writeRaw_ok.mp rest).2, toNat_ofNat_length (by omega)]
  rfl

variable {body : Writer}

/-- What an encoder of envelopes produces. -/
theorem encodeEnvelope_ok (encoded : encodeEnvelope magic limits body = .ok bytes) :
    ∃ payload, body limits 0 = .ok ((), payload) ∧
      payload.length ≤ limits.maximumPayloadBytes.toNat ∧ payload.length ≤ maximumUInt32 ∧
      bytes = envelopeBytes magic payload := by
  unfold encodeEnvelope runWriter at encoded
  cases written : body limits 0 with
  | error status =>
    rw [written] at encoded
    cases encoded
  | ok result =>
    obtain ⟨⟨⟩, payload⟩ := result
    rw [written] at encoded
    simp only [Except.map, Bind.bind, Except.bind] at encoded
    split at encoded
    · cases encoded
    rename_i fits
    rw [not_or, Nat.not_lt, Nat.not_lt] at fits
    refine ⟨payload, rfl, fits.1, fits.2, ?_⟩
    cases enveloped : writeEnvelope magic payload (envelopeLimits limits) 0 with
    | error status =>
      rw [enveloped] at encoded
      cases encoded
    | ok result =>
      obtain ⟨⟨⟩, produced⟩ := result
      rw [enveloped] at encoded
      cases encoded
      exact writeEnvelope_ok fits.2 enveloped

theorem decodeEnvelope_envelopeBytes (magicLength : magic.length = 4)
    (fits : payload.length ≤ limits.maximumPayloadBytes.toNat)
    (short : payload.length ≤ maximumUInt32) :
    decodeEnvelope (envelopeBytes magic payload) magic limits =
      .decoded payload (envelopeBytes magic payload).length := by
  obtain ⟨first, second, third, fourth, rfl⟩ := List.length_eq_four.mp magicLength
  have length : ofLittleEndian (littleEndian 4 payload.length) =
      payload.length := by
    refine ofLittleEndian_littleEndian ?_
    unfold maximumUInt32 at short
    omega
  have version : ofLittleEndian (littleEndian 2 programCodecVersionV1.toNat) = 1 := rfl
  have total :
      (envelopeBytes [first, second, third, fourth] payload).length = 10 + payload.length := by
    simp [envelopeBytes]
    omega
  unfold decodeEnvelope
  rw [total]
  simp only [envelopeBytes, littleEndian, List.cons_append, List.nil_append,
    List.take_succ_cons, List.drop_succ_cons, List.take_zero, List.drop_zero,
    programCodecHeaderSizeV1] at length version ⊢
  rw [length, version]
  have fits' : ¬payload.length > limits.maximumPayloadBytes.toNat := by omega
  have room : ¬10 + payload.length < 10 := by omega
  simp [fits', room, programCodecVersionV1]

theorem envelopeBytes_injective {payload' : ByteString}
    (same : envelopeBytes magic payload = envelopeBytes magic payload') : payload = payload' := by
  unfold envelopeBytes at same
  have tails := List.append_cancel_left (List.append_cancel_left same)
  have lengths : (littleEndian 4 payload.length).length =
      (littleEndian 4 payload'.length).length := by simp
  exact (List.append_inj tails lengths).2

variable {α : Type} {reader : Reader α}
variable {encoder : α → CodecLimits → EncodeResult} {value : α}

/-- A decoder that matches the writer of the payload, and whose re-encoding
gives the same bytes, reads the value back from an envelope. -/
theorem decodeCanonical_eq (magicLength : magic.length = 4)
    (matched : Matches limits body reader value)
    (encoded : encodeEnvelope magic limits body = .ok bytes)
    (again : encoder value limits = .ok bytes) : decodeCanonical bytes magic limits reader encoder =
      .decoded value bytes.length := by
  obtain ⟨payload, written, fits, short, rfl⟩ := encodeEnvelope_ok encoded
  have read := matched 0 payload written []
  rw [List.append_nil] at read
  unfold decodeCanonical
  rw [decodeEnvelope_envelopeBytes magicLength fits short]
  simp only [DecodeResult.decoded, read, again]
  simp

theorem decodeCanonical_value {other : α} {consumed : Nat} (magicLength : magic.length = 4)
    (matched : Matches limits body reader value)
    (encoded : encodeEnvelope magic limits body = .ok bytes)
    (decodes : decodeCanonical bytes magic limits reader encoder = .decoded other consumed) :
    other = value := by
  obtain ⟨payload, written, fits, short, rfl⟩ := encodeEnvelope_ok encoded
  have read := matched 0 payload written []
  rw [List.append_nil] at read
  unfold decodeCanonical at decodes
  rw [decodeEnvelope_envelopeBytes magicLength fits short] at decodes
  simp only [DecodeResult.decoded, read] at decodes
  iterate 3 (split at decodes; · cases decodes)
  · cases decodes
    rfl

theorem decodeCanonical_reencodes {consumed : Nat} (encoder : α → CodecLimits → EncodeResult)
    (decodes : decodeCanonical bytes magic limits reader encoder = .decoded value consumed) :
    encoder value limits = .ok bytes := by
  unfold decodeCanonical at decodes
  simp only at decodes
  split at decodes
  · split at decodes
    · cases decodes
    split at decodes
    · cases decodes
    split at decodes
    · cases decodes
    rename_i canonical encoded
    split at decodes
    · cases decodes
    rename_i same
    cases decodes
    rw [encoded, not_not.mp same]
  · simp [DecodeResult.decoded] at decodes

/-- Values whose encodings agree are read back alike. -/
theorem encodeEnvelope_injective {body' : Writer} {value' : α}
    (matched : Matches limits body reader value) (matched' : Matches limits body' reader value')
    (encoded : encodeEnvelope magic limits body = .ok bytes)
    (encoded' : encodeEnvelope magic limits body' = .ok bytes) : value = value' := by
  obtain ⟨payload, written, _, _, rfl⟩ := encodeEnvelope_ok encoded
  obtain ⟨payload', written', _, _, same⟩ := encodeEnvelope_ok encoded'
  rw [← envelopeBytes_injective same] at written'
  exact matched.unique matched' written written'

end Envelopes

end Codec
end Savor.Program

import Savor.Capture.EventCoding

/-!
# The capture reader

The reader goes through the records of each segment until the footer, the end of
the file or an error.
-/

namespace Savor.Capture

open Library.Stream (Word)
open Library.Wire (Decoder)
open Program (ByteString text decimal)

/-- `read_stream_pod`, with what is reported if the file ends. -/
def readStreamPod {Failure Value : Type} (failure : Failure)
    (word : Word Value) : Decoder Unit Failure Value := do
  let bytes ← Decoder.take failure word.width
  pure (word.decode bytes)

/-! ## The header -/

/-- The bytes have to be used up. -/
def decodeMetadata : Reading FileMetadata := do
  let createdUtcNs ← readPod .u64
  let sessionId ← readString
  let sourceIdentity ← readString
  let executableSha256 ← readString
  let dolphinSourceCommit ← readString
  let profileJson ← readString
  pure { createdUtcNs, sessionId, sourceIdentity, executableSha256,
         dolphinSourceCommit, profileJson }

def maximumMetadataSize : Nat := 64 * 1024 * 1024

def readFileHeader : Decoder Unit ByteString FileMetadata := do
  let truncated := text "truncated capture header"
  let magic ← Decoder.take truncated fileMagic.length
  let version ← readStreamPod truncated .u32
  let size ← readStreamPod truncated .u32
  Decoder.check (magic = fileMagic) (text "invalid capture magic")
  Decoder.check (version = formatVersion)
    (text "unsupported capture version " ++ decimal version.toNat)
  Decoder.check (size.toNat ≤ maximumMetadataSize)
    (text "capture metadata is unreasonably large")
  let bytes ← Decoder.take (text "truncated capture metadata") size.toNat
  match decodeMetadata () bytes with
  | .ok (metadata, []) => pure metadata
  | _ => Decoder.fail (text "invalid capture metadata")

/-! ## Records -/

/-- Why the reader stops before a footer. -/
inductive ReadStop
  /-- The file ended between two records, or within a tag. -/
  | ended
  /-- An error that keeps the segment. -/
  | failed (error : ByteString)
  /-- An event of a chunk could not be decoded: the events before it, and the
  error. -/
  | undecodable (events : List Event) (error : ByteString)

/-- A record that was read. -/
inductive ReadRecord
  | chunk (chunk : ChunkInfo) (events : List Event) (trailing : Bool)
  | index
  | footer (footer : SegmentFooter)

def maximumCompressedBytes : Nat := 256 * 1024 * 1024

def maximumUncompressedBytes : Nat := 512 * 1024 * 1024

/-- Decode events one by one: those before an error, and the bytes that are left
if there was none. -/
def decodeEach (coding : DeltaCoding) : Nat → ByteString → List Event × Option ByteString
  | 0, bytes => ([], some bytes)
  | count + 1, bytes =>
    match decodeEvent coding () bytes with
    | .error _ => ([], none)
    | .ok ((event, next), rest) =>
      let others := decodeEach next count rest
      (event :: others.1, others.2)

/-- The fields of a chunk record. -/
def readChunkHeader (offset : UInt64) : Decoder Unit ReadStop ChunkInfo := do
  let truncated := ReadStop.failed (text "truncated chunk header")
  let index ← readStreamPod truncated .u64
  let firstSequence ← readStreamPod truncated .u64
  let lastSequence ← readStreamPod truncated .u64
  let eventCount ← readStreamPod truncated .u32
  let uncompressedBytes ← readStreamPod truncated .u32
  let compressedBytes ← readStreamPod truncated .u32
  let checksum ← readStreamPod truncated .u64
  pure { index, fileOffset := offset, firstSequence, lastSequence, eventCount,
         compressedBytes, uncompressedBytes, checksum }

variable (host : CaptureHost)

/-- The events of a chunk. -/
def unpackChunk (chunk : ChunkInfo) (compressed : ByteString) : Except ReadStop ReadRecord :=
  if host.checksum compressed ≠ chunk.checksum then
    .error (.failed (text "chunk checksum mismatch at index " ++ decimal chunk.index.toNat))
  else
    match host.decompress chunk.uncompressedBytes.toNat compressed with
    | none =>
      .error (.failed (text "chunk decompression failed at index " ++ decimal chunk.index.toNat))
    | some uncompressed =>
      match decodeEach {} chunk.eventCount.toNat uncompressed with
      | (events, none) =>
        .error (.undecodable events (text "event decode failed in chunk " ++
          decimal chunk.index.toNat))
      | (events, some rest) => .ok (.chunk chunk events !rest.isEmpty)

def readChunk (offset : UInt64) : Decoder Unit ReadStop ReadRecord := do
  let chunk ← readChunkHeader offset
  Decoder.check (chunk.compressedBytes.toNat ≤ maximumCompressedBytes ∧
      chunk.uncompressedBytes.toNat ≤ maximumUncompressedBytes)
    (.failed (text "unreasonable chunk size"))
  let compressed ← Decoder.take (.failed (text "truncated chunk payload"))
    chunk.compressedBytes.toNat
  fun _ rest => (unpackChunk host chunk compressed).map fun read => (read, rest)

/-- An index is skipped.  It may be skipped past the end of the file. -/
def readIndex : Decoder Unit ReadStop ReadRecord := do
  let count ← readStreamPod (.failed (text "truncated index header")) .u32
  fun _ rest => .ok (.index, rest.drop (count.toNat * 32))

/-- The footer without its reason, and the size of the reason. -/
def readFooterHeader : Decoder Unit ReadStop (SegmentFooter × UInt32) := do
  let truncated := ReadStop.failed (text "truncated footer")
  let chunks ← readStreamPod truncated .u64
  let events ← readStreamPod truncated .u64
  let lastIndexOffset ← readStreamPod truncated .u64
  let complete ← Decoder.byte truncated
  let size ← readStreamPod truncated .u32
  pure ({ chunks, events, lastIndexOffset
          complete := complete != 0, reason := [] }, size)

def readFooter : Decoder Unit ReadStop ReadRecord := do
  let header ← readFooterHeader
  let reason ← Decoder.take (.failed (text "truncated footer reason"))
    header.2.toNat
  pure (.footer { header.1 with reason })

def readRecord (offset : UInt64) : Decoder Unit ReadStop ReadRecord := do
  let tag ← Decoder.take .ended 4
  if tag = chunkTag then readChunk host offset
  else if tag = indexTag then readIndex
  else if tag = footerTag then readFooter
  else
    Decoder.fail (.failed (text "unknown record tag at offset " ++ decimal offset.toNat))

/-! ## Segments -/

/-- A segment as far as it was read. -/
structure SegmentInfo where
  metadata : FileMetadata := {}
  chunks : List ChunkInfo := []
  eventCount : UInt64 := 0
  events : List Event := []
  (hasFooter complete : Bool := false)
  incompleteReason : ByteString := []
  (errors warnings : List ByteString := [])

namespace SegmentInfo

/-- The footer is missing. -/
def withoutFooter (info : SegmentInfo) : SegmentInfo :=
  { info with
    warnings := info.warnings ++ [text "missing footer; valid chunks are recoverable"] }

/-- What a stop leaves of the segment. -/
def stopped (info : SegmentInfo) : ReadStop → SegmentInfo
  | .ended => info.withoutFooter
  | .failed error => { info with errors := info.errors ++ [error] }.withoutFooter
  | .undecodable events error =>
    { info with
      events := info.events ++ events
      errors := info.errors ++ [error] }

/-- Add a chunk. -/
def withChunk (info : SegmentInfo) (chunk : ChunkInfo) (events : List Event)
    (trailing : Bool) : SegmentInfo :=
  { info with
    chunks := info.chunks ++ [chunk]
    eventCount := info.eventCount + chunk.eventCount.toUInt64
    events := info.events ++ events
    warnings := info.warnings ++
      if trailing then
        [text "chunk has trailing bytes at index " ++ decimal chunk.index.toNat]
      else [] }

/-- End with a footer. -/
def withFooter (info : SegmentInfo) (footer : SegmentFooter) : SegmentInfo :=
  { info with
    hasFooter := true
    complete := footer.complete
    incompleteReason := footer.reason
    warnings := info.warnings ++
      (if footer.chunks ≠ UInt64.ofNat info.chunks.length ∨ footer.events ≠ info.eventCount then
        [text "footer counts do not match decoded records"]
      else []) ++
      if footer.complete = false ∧ footer.reason ≠ [] then
        [text "capture marked incomplete: " ++ footer.reason]
      else [] }

end SegmentInfo

/-- The loop over the records that are left of a file of this size.  Every
record takes four bytes or more, so that the fuel may be the size. -/
def readRecords (host : CaptureHost) (size : Nat) : Nat → SegmentInfo → ByteString → SegmentInfo
  | 0, info, _ => info.withoutFooter
  | fuel + 1, info, bytes =>
    match readRecord host (UInt64.ofNat (size - bytes.length)) () bytes with
    | .error stop => info.stopped stop
    | .ok (.chunk chunk events trailing, rest) =>
      readRecords host size fuel (info.withChunk chunk events trailing) rest
    | .ok (.index, rest) => readRecords host size fuel info rest
    | .ok (.footer footer, _) => info.withFooter footer

/-- The texts do not name the file here. -/
def readSegment (content : ByteString) : SegmentInfo :=
  match readFileHeader () content with
  | .error error => { errors := [error] }
  | .ok (metadata, rest) => readRecords host content.length (content.length + 1) { metadata } rest

/-! ## Captures -/

/-- The indexes of the segments from one on that are there, one after the
other. -/
def discoverFrom (files : Files) (base : CapturePath) : Nat → Nat → List Nat
  | 0, _ => []
  | fuel + 1, index =>
    if (files (segmentPath base index)).isNone then []
    else index :: discoverFrom files base fuel (index + 1)

/-- The highest index that 32 bits hold. -/
def maximumSegmentIndex : Nat := 2 ^ 32 - 1

def discoverSegments (files : Files) (base : CapturePath) : List Nat :=
  (if (files (segmentPath base 0)).isSome then [0] else []) ++
    discoverFrom files base maximumSegmentIndex 1

/-- The segments of a capture as they are read. -/
def readSegments (files : Files) (base : CapturePath) : List SegmentInfo :=
  (discoverSegments files base).map fun index =>
    readSegment host ((files (segmentPath base index)).getD [])

structure VerificationReport where
  (ok recoverable : Bool := false)
  segments : List SegmentInfo := []
  (errors warnings : List ByteString := [])

def verify (files : Files) (base : CapturePath) : VerificationReport :=
  let segments := readSegments host files base
  if segments.isEmpty then
    { errors := [text "capture file does not exist: "] }
  else
    let errors := segments.flatMap SegmentInfo.errors
    { recoverable := segments.any fun segment => !segment.chunks.isEmpty
      ok := errors.isEmpty && segments.all fun segment => segment.hasFooter && segment.complete
      segments, errors
      warnings := segments.flatMap SegmentInfo.warnings }

/-- The events of a capture, and the report.  There is no report if no file
exists. -/
structure ReadCapture where
  ok : Bool
  events : List Event := []
  report : Option VerificationReport := none
  error : Option ByteString := none

def readAll (files : Files) (base : CapturePath) : ReadCapture :=
  let segments := readSegments host files base
  if segments.isEmpty then
    { ok := false, error := some (text "capture file does not exist: ") }
  else
    let events := segments.flatMap SegmentInfo.events
    let errors := segments.flatMap SegmentInfo.errors
    { ok := errors.isEmpty
      events
      report := some {
        recoverable := !events.isEmpty
        ok := errors.isEmpty
        segments, errors
        warnings := segments.flatMap SegmentInfo.warnings }
      error := errors.head? }

end Savor.Capture

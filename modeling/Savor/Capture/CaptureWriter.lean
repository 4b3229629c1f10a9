import Savor.Capture.EventCoding

/-!
# The capture writer

Events wait until there are enough of them for a chunk.  A chunk may be followed
by an index checkpoint, and a segment that has grown too large by the next one.
-/

namespace Savor.Capture

open Program (ByteString text)

/-- A writer, and the directory it writes to. -/
structure CaptureWriter where
  isOpen : Bool := false
  complete : Bool := true
  incompleteReason : ByteString := []
  basePath : CapturePath := {}
  metadata : FileMetadata := {}
  options : WriterOptions := {}
  /-- The name of the file that is open, as long as nothing failed. -/
  stream : Option ByteString := none
  segmentIndex : Nat := 0
  (segmentBytes segmentEventCount segmentChunkCount eventCount : UInt64 := 0)
  (chunkIndex lastIndexOffset : UInt64 := 0)
  pending : List Event := []
  pendingEstimatedBytes : Nat := 0
  pendingStartedNs : UInt64 := 0
  pendingIndex : List ChunkInfo := []
  segmentPaths : List ByteString := []
  files : Files
  /-- How many writes and compressions there were. -/
  (writes compressions : Nat := 0)

/-- The error text of an operation that returned false, and the writer after
it. -/
abbrev Written : Type := Option ByteString × CaptureWriter

/-- Go on if the operation returned true. -/
def Written.andThen (written : Written) (next : CaptureWriter → Written) : Written :=
  match written.1 with
  | some error => (some error, written.2)
  | none => next written.2

namespace CaptureWriter

variable (host : CaptureHost)

/-! ## The stream -/

variable (writer : CaptureWriter)

/-- The bytes of the file that is open. -/
def content : ByteString := (writer.stream.bind writer.files).getD []

/-- `stream_.tellp()`, which is -1 once the stream has failed. -/
def tell : UInt64 := if writer.stream.isSome then UInt64.ofNat writer.content.length else -1

/-- Write a record.  A stream that has failed writes no more. -/
def put (bytes : ByteString) : CaptureWriter :=
  match writer.stream with
  | none => writer
  | some name =>
    let whole := writer.content ++ bytes
    match host.keeps writer.writes with
    | none =>
      { writer with
        files := Function.update writer.files name (some whole)
        writes := writer.writes + 1 }
    | some count =>
      { writer with
        files := Function.update writer.files name (some (kept count whole))
        writes := writer.writes + 1
        stream := none }

/-- Write a record, and see whether the stream is still good. -/
def putRecord (bytes error : ByteString) (failed : CaptureWriter → CaptureWriter) : Written :=
  let after := writer.put host bytes
  if after.stream.isNone then (some error, failed after) else (none, after)

/-- Open a file and forget what it held. -/
def truncate (name : ByteString) : CaptureWriter :=
  if host.opens name then
    { writer with
      files := Function.update writer.files name (some [])
      stream := some name }
  else { writer with stream := none }

/-! ## Segments -/

def markIncomplete (reason : ByteString) (writer : CaptureWriter) : CaptureWriter :=
  { writer with complete := false, incompleteReason := reason }

def openSegment : Written :=
  let path := segmentPath writer.basePath writer.segmentIndex
  let opened := writer.truncate host path
  if opened.stream.isNone then
    (some (text "failed opening capture segment " ++ path), opened)
  else
    (opened.putRecord host (fileHeaderBytes opened.metadata)
      (text "failed writing capture header") id).andThen fun started =>
        (none, { started with
          segmentPaths := started.segmentPaths ++ [path]
          segmentBytes := started.tell
          segmentEventCount := 0
          segmentChunkCount := 0
          lastIndexOffset := 0
          pendingIndex := [] })

def writeIndexCheckpoint : Written :=
  let located := { writer with lastIndexOffset := writer.tell }
  (located.putRecord host (indexBytes located.pendingIndex) (text "failed writing capture index")
    (markIncomplete (text "capture index write failure"))).andThen
      fun indexed =>
        (none, { indexed with
          pendingIndex := []
          segmentBytes := indexed.tell })

/-- What the footer says when it is written now. -/
def footer : SegmentFooter where
  chunks := writer.segmentChunkCount
  events := writer.segmentEventCount
  lastIndexOffset := writer.lastIndexOffset
  complete := writer.complete
  reason := writer.incompleteReason

def putFooter : Written :=
  writer.putRecord host (footerBytes writer.footer)
    (text "failed writing capture footer") id

def writeFooter : Written :=
  if writer.pendingIndex.isEmpty then writer.putFooter host
  else (writer.writeIndexCheckpoint host).andThen fun indexed => indexed.putFooter host

def rotateIfNeeded : Written :=
  if writer.segmentBytes < writer.options.rotateBytes then (none, writer)
  else (writer.writeFooter host).andThen fun finished =>
    { finished with
      stream := none
      segmentIndex := finished.segmentIndex + 1 }.openSegment host

/-! ## Chunks -/

/-- The bytes of the events that wait. -/
def pendingBytes : ByteString := (encodeEvents {} writer.pending).1

/-- The chunk of the events that wait. -/
def pendingChunk (compressed : ByteString) : ChunkInfo where
  index := writer.chunkIndex
  fileOffset := writer.tell
  firstSequence := (writer.pending.head?.map Event.recordSequence).getD 0
  lastSequence := (writer.pending.getLast?.map Event.recordSequence).getD 0
  eventCount := UInt32.ofNat writer.pending.length
  compressedBytes := UInt32.ofNat compressed.length
  uncompressedBytes := UInt32.ofNat writer.pendingBytes.length
  checksum := host.checksum compressed

/-- Count a chunk that was written, and write an index if it is time. -/
def countChunk (chunk : ChunkInfo) : Written :=
  let counted := { writer with
    segmentChunkCount := writer.segmentChunkCount + 1
    pendingIndex := writer.pendingIndex ++ [chunk]
    pending := []
    pendingEstimatedBytes := 0
    pendingStartedNs := 0
    segmentBytes := writer.tell }
  if counted.segmentChunkCount % counted.options.indexIntervalChunks = 0 then
    counted.writeIndexCheckpoint host
  else (none, counted)

/-- Write the events that wait as a chunk. -/
def writeChunk : Written :=
  let called := { writer with compressions := writer.compressions + 1 }
  match host.compress writer.compressions writer.options.compressionLevel writer.pendingBytes with
  | .error name =>
    (some (text "zstd compression failed: " ++ name),
      markIncomplete (text "compression failure") called)
  | .ok compressed =>
    let chunk := called.pendingChunk host compressed
    let numbered := { called with chunkIndex := called.chunkIndex + 1 }
    (numbered.putRecord host (chunkBytes chunk compressed) (text "failed writing capture chunk")
      (markIncomplete (text "capture file write failure"))).andThen
        fun written => written.countChunk host chunk

def flushChunk : Written :=
  if writer.pending.isEmpty then (none, writer)
  else (writer.writeChunk host).andThen fun written => written.rotateIfNeeded host

/-! ## Operations -/

/-- The writer before its first segment. -/
def prepare (path : CapturePath) (metadata : FileMetadata)
    (options : WriterOptions) : CaptureWriter :=
  { writer with
    basePath := path
    metadata, options
    complete := true
    incompleteReason := []
    segmentIndex := 0
    segmentBytes := 0
    segmentEventCount := 0
    segmentChunkCount := 0
    eventCount := 0
    chunkIndex := 0
    lastIndexOffset := 0
    pending := []
    pendingIndex := []
    segmentPaths := []
    isOpen := true }

/-- The writer is open if its first segment is. -/
def finishOpen (written : Written) : Written :=
  match written.1 with
  | none => written
  | some error => (some error, { written.2 with isOpen := false })

def «open» (path : CapturePath) (metadata : FileMetadata) (options : WriterOptions) : Written :=
  if writer.isOpen then (some (text "capture writer is already open"), writer)
  else if options.eventsPerChunk = 0 ∨ options.bytesPerChunk = 0 ∨
      options.indexIntervalChunks = 0 ∨ options.rotateBytes = 0 then
    (some (text "capture writer limits must be positive"), writer)
  else finishOpen ((writer.prepare path metadata options).openSegment host)

/-- How many bytes an event is estimated to take. -/
def estimatedBytes (event : Event) : Nat :=
  host.sizeofEvent + event.probeId.length +
    event.fields.length * host.sizeofField +
    (event.fields.map fun field => field.name.length + (structuredFieldBytes field).length).sum

/-- The event waits with the others. -/
def addPending (event : Event) : CaptureWriter :=
  { writer with
    pendingStartedNs :=
      if writer.pending.isEmpty then event.monotonicNs
      else writer.pendingStartedNs
    pendingEstimatedBytes := writer.pendingEstimatedBytes + estimatedBytes host event
    pending := writer.pending ++ [event]
    eventCount := writer.eventCount + 1
    segmentEventCount := writer.segmentEventCount + 1 }

/-- Whether the events that wait become a chunk, the last of them being this
one. -/
def isChunkDue (event : Event) : Bool :=
  let elapsed := writer.pendingStartedNs ≤ event.monotonicNs ∧
    writer.options.chunkIntervalNs ≤ event.monotonicNs - writer.pendingStartedNs
  writer.options.eventsPerChunk.toNat ≤ writer.pending.length ∨
    writer.options.bytesPerChunk.toNat ≤ writer.pendingEstimatedBytes ∨ elapsed

/-- Whether the event comes before the last one that waits. -/
def movesBackwards (event : Event) : Bool :=
  writer.pending.getLast?.any fun last => decide (event.recordSequence < last.recordSequence)

def append (event : Event) : Written :=
  if !writer.isOpen then (some (text "capture writer is not open"), writer)
  else if writer.movesBackwards event then
    (some (text "capture record sequence moved backwards"), writer)
  else
    let added := writer.addPending host event
    if added.isChunkDue event then added.flushChunk host else (none, added)

def close : Written :=
  if !writer.isOpen then (none, writer)
  else
    let finished := (writer.flushChunk host).andThen fun flushed => flushed.writeFooter host
    (finished.1, { finished.2 with stream := none, isOpen := false })

end CaptureWriter

/-! ## A whole capture -/

/-- A call between opening and closing a capture. -/
inductive WriterCall
  | append (event : Event)
  | markIncomplete (reason : ByteString)

namespace CaptureWriter

variable (host : CaptureHost)

def call (writer : CaptureWriter) : WriterCall → Written
  | .append event => writer.append host event
  | .markIncomplete reason => (none, writer.markIncomplete reason)

/-- Make the calls, whatever they return. -/
def callAll (writer : CaptureWriter) : List WriterCall → List (Option ByteString) × CaptureWriter
  | [] => ([], writer)
  | call :: calls =>
    let called := writer.call host call
    let rest := called.2.callAll calls
    (called.1 :: rest.1, rest.2)

end CaptureWriter

/-- The calls of a capture. -/
structure CapturePlan where
  path : CapturePath
  metadata : FileMetadata
  options : WriterOptions
  calls : List WriterCall

/-- What the calls of a capture returned, and the directory afterwards. -/
structure CaptureOutcome where
  opened : Option ByteString
  called : List (Option ByteString)
  closed : Option ByteString
  files : Files

/-- Whether everything returned true. -/
def CaptureOutcome.succeeded (outcome : CaptureOutcome) : Bool :=
  outcome.opened.isNone && outcome.called.all Option.isNone && outcome.closed.isNone

/-- Open a new writer, make the calls and close it. -/
def CapturePlan.capture (plan : CapturePlan) (host : CaptureHost)
    (files : Files) : CaptureOutcome :=
  let opened := CaptureWriter.open host { files } plan.path plan.metadata plan.options
  let called := opened.2.callAll host plan.calls
  let closed := called.2.close host
  { opened := opened.1, called := called.1, closed := closed.1
    files := closed.2.files }

/-!
## What a writer keeps

No operation between opening and closing closes the writer, and none makes an
incomplete capture complete again.
-/

/-- A writer that goes on: it is open as before, and incomplete if it was. -/
structure Continues (before after : CaptureWriter) : Prop where
  isOpen : after.isOpen = before.isOpen
  incomplete : before.complete = false → after.complete = false

namespace Continues

variable {first second third : CaptureWriter}

theorem refl (writer : CaptureWriter) : Continues writer writer := ⟨rfl, id⟩

theorem trans (earlier : Continues first second)
    (later : Continues second third) : Continues first third where
  isOpen := later.isOpen.trans earlier.isOpen
  incomplete := later.incomplete ∘ earlier.incomplete

end Continues

/-- Going on after an operation. -/
theorem Written.andThen_continues {before : CaptureWriter} {written : Written}
    {next : CaptureWriter → Written} (first : Continues before written.2)
    (later : ∀ writer, Continues writer (next writer).2) :
    Continues before (written.andThen next).2 := by
  unfold Written.andThen
  split
  · exact first
  · exact first.trans (later written.2)

namespace CaptureWriter

variable (host : CaptureHost) (writer : CaptureWriter)

theorem put_continues (bytes : ByteString) : Continues writer (writer.put host bytes) := by
  unfold put
  split
  · exact .refl writer
  · dsimp only
    split <;> exact ⟨rfl, id⟩

theorem truncate_continues (name : ByteString) : Continues writer (writer.truncate host name) := by
  unfold truncate
  split <;> exact ⟨rfl, id⟩

theorem markIncomplete_continues (reason : ByteString) :
    Continues writer (writer.markIncomplete reason) :=
  ⟨rfl, fun _ => rfl⟩

/-- What is done after a failure must keep the writer as well. -/
theorem putRecord_continues (bytes error : ByteString) {failed : CaptureWriter → CaptureWriter}
    (kept : ∀ writer, Continues writer (failed writer)) :
    Continues writer (writer.putRecord host bytes error failed).2 := by
  have wrote := writer.put_continues host bytes
  unfold putRecord
  dsimp only
  split
  · exact wrote.trans (kept _)
  · exact wrote

theorem writeIndexCheckpoint_continues : Continues writer (writer.writeIndexCheckpoint host).2 := by
  unfold writeIndexCheckpoint
  refine Written.andThen_continues ?_ fun _ => ⟨rfl, id⟩
  have located : Continues writer { writer with
      lastIndexOffset := writer.tell } := ⟨rfl, id⟩
  exact located.trans (putRecord_continues host _ _ _ fun _ => markIncomplete_continues _ _)

theorem putFooter_continues : Continues writer (writer.putFooter host).2 :=
  writer.putRecord_continues host _ _ Continues.refl

theorem writeFooter_continues : Continues writer (writer.writeFooter host).2 := by
  unfold writeFooter
  split
  · exact writer.putFooter_continues host
  · exact Written.andThen_continues (writer.writeIndexCheckpoint_continues host)
      fun indexed => indexed.putFooter_continues host

theorem openSegment_continues : Continues writer (writer.openSegment host).2 := by
  have opened := writer.truncate_continues host (segmentPath writer.basePath writer.segmentIndex)
  unfold openSegment
  dsimp only
  split
  · exact opened
  · refine Written.andThen_continues ?_ fun _ => ⟨rfl, id⟩
    exact opened.trans (putRecord_continues host _ _ _ Continues.refl)

theorem rotateIfNeeded_continues : Continues writer (writer.rotateIfNeeded host).2 := by
  unfold rotateIfNeeded
  split
  · exact .refl writer
  refine Written.andThen_continues (writer.writeFooter_continues host) ?_
  intro finished
  have next : Continues finished { finished with
      stream := none, segmentIndex := finished.segmentIndex + 1 } := ⟨rfl, id⟩
  exact next.trans (openSegment_continues host _)

theorem countChunk_continues (chunk : ChunkInfo) :
    Continues writer (writer.countChunk host chunk).2 := by
  unfold countChunk
  dsimp only
  split
  · refine .trans ?_ (writeIndexCheckpoint_continues host _)
    exact ⟨rfl, id⟩
  · exact ⟨rfl, id⟩

theorem writeChunk_continues : Continues writer (writer.writeChunk host).2 := by
  unfold writeChunk
  split
  · exact ⟨rfl, fun _ => rfl⟩
  refine Written.andThen_continues ?_ fun written => written.countChunk_continues host _
  refine .trans ?_ (putRecord_continues host _ _ _ fun _ => markIncomplete_continues _ _)
  exact ⟨rfl, id⟩

theorem flushChunk_continues : Continues writer (writer.flushChunk host).2 := by
  unfold flushChunk
  split
  · exact .refl writer
  · exact Written.andThen_continues (writer.writeChunk_continues host)
      fun written => written.rotateIfNeeded_continues host

theorem append_continues (event : Event) : Continues writer (writer.append host event).2 := by
  unfold append
  split
  · exact .refl writer
  split
  · exact .refl writer
  have added : Continues writer (writer.addPending host event) := ⟨rfl, id⟩
  dsimp only
  split
  · exact added.trans (flushChunk_continues host _)
  · exact added

theorem close_isOpen : (writer.close host).2.isOpen = false := by
  unfold close
  split
  · rename_i closed
    simpa using closed
  · rfl

theorem close_incomplete (incomplete : writer.complete = false) :
    (writer.close host).2.complete = false := by
  unfold close
  split
  · exact incomplete
  have finished : Continues writer ((writer.flushChunk host).andThen
      fun flushed => flushed.writeFooter host).2 :=
    Written.andThen_continues (writer.flushChunk_continues host)
      fun flushed => flushed.writeFooter_continues host
  exact finished.incomplete incomplete

theorem open_isOpen {path : CapturePath} {metadata : FileMetadata} {options : WriterOptions}
    (opened : (writer.open host path metadata options).1 = none) :
    (writer.open host path metadata options).2.isOpen = true := by
  unfold CaptureWriter.open at opened ⊢
  split at opened
  · cases opened
  rename_i closed
  rw [if_neg closed]
  split at opened
  · cases opened
  rename_i positive
  rw [if_neg positive]
  have kept := openSegment_continues host (writer.prepare path metadata options)
  unfold finishOpen at opened ⊢
  split at opened
  · exact kept.isOpen
  · cases opened

end CaptureWriter
end Savor.Capture


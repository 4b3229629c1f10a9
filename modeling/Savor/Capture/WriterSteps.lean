import Savor.Capture.CaptureWriter
import Savor.Capture.SegmentReading

/-!
# What a capture has written

While nothing fails, the files of a capture are sealed segments and one segment
that is open.  Once a write has failed, one of the files is no complete segment,
and it stays so.
-/

namespace Savor.Capture

open Program (ByteString text)

variable {host : CaptureHost}

/-- What was written: the segments that are sealed, and the records of the one
that is open. -/
structure CaptureLog where
  closed : List SealedSegment := []
  records : List SegmentRecord := []

/-- The events that were written. -/
def CaptureLog.events (log : CaptureLog) : List Event :=
  log.closed.flatMap (fun segment => recordEvents segment.records) ++ recordEvents log.records

theorem CaptureLog.events_seal (log : CaptureLog) {segment : SealedSegment}
    (same : recordEvents segment.records = recordEvents log.records) :
    CaptureLog.events { closed := log.closed ++ [segment] } = log.events := by
  simp [CaptureLog.events, recordEvents] at same ⊢
  exact same

theorem CaptureLog.events_chunk (log : CaptureLog) (chunk : ChunkInfo)
    (compressed : ByteString) (events : List Event) : CaptureLog.events
        { log with records := log.records ++ [.chunk chunk compressed events] } =
      log.events ++ events := by
  simp [CaptureLog.events, recordEvents, SegmentRecord.events]

theorem CaptureLog.events_index (log : CaptureLog) (entries : List ChunkInfo) :
    CaptureLog.events { log with records := log.records ++ [.index entries] } = log.events := by
  simp [CaptureLog.events, recordEvents, SegmentRecord.events]

namespace CaptureWriter

/-- The path of a segment of this capture. -/
def path (writer : CaptureWriter) (index : Nat) : ByteString := segmentPath writer.basePath index

/-- What no operation between opening and closing changes, but marking the
capture as incomplete. -/
structure Keeps (writer after : CaptureWriter) : Prop where
  isOpen : after.isOpen = writer.isOpen
  basePath : after.basePath = writer.basePath
  metadata : after.metadata = writer.metadata
  options : after.options = writer.options
  complete : after.complete = writer.complete
  reason : after.incompleteReason = writer.incompleteReason

theorem Keeps.refl (writer : CaptureWriter) : writer.Keeps writer := ⟨rfl, rfl, rfl, rfl, rfl, rfl⟩

theorem Keeps.trans {writer middle after : CaptureWriter}
    (first : writer.Keeps middle) (second : middle.Keeps after) : writer.Keeps after where
  isOpen := second.isOpen.trans first.isOpen
  basePath := second.basePath.trans first.basePath
  metadata := second.metadata.trans first.metadata
  options := second.options.trans first.options
  complete := second.complete.trans first.complete
  reason := second.reason.trans first.reason

/-- The sealed segments are in their files, their footers say what the capture
is, and no later segment is there. -/
structure Sealed (host : CaptureHost) (closed : List SealedSegment)
    (writer : CaptureWriter) : Prop where
  fits : (encodeMetadata writer.metadata).length ≤ maximumMetadataSize
  few : closed.length < maximumSegmentIndex
  segments : ∀ index (there : index < closed.length),
    writer.files (writer.path index) = some (closed[index].bytes writer.metadata)
  absent : ∀ index, closed.length < index → writer.files (writer.path index) = none
  formed : ∀ segment ∈ closed, segment.Formed host
  complete : writer.complete = true → ∀ segment ∈ closed, segment.footer.complete = true
  reason : writer.complete = true → writer.incompleteReason = []

/-- All segments are sealed, and no other one is there. -/
structure Finished (host : CaptureHost) (closed : List SealedSegment)
    (writer : CaptureWriter) : Prop where
  fits : (encodeMetadata writer.metadata).length ≤ maximumMetadataSize
  few : closed.length ≤ maximumSegmentIndex
  segments : ∀ index (there : index < closed.length),
    writer.files (writer.path index) = some (closed[index].bytes writer.metadata)
  absent : ∀ index, closed.length ≤ index → writer.files (writer.path index) = none
  formed : ∀ segment ∈ closed, segment.Formed host
  complete : writer.complete = true → ∀ segment ∈ closed, segment.footer.complete = true
  reason : writer.complete = true → writer.incompleteReason = []

/-- A capture that goes on: the records of the segment that is open are in its
file. -/
structure Recording (host : CaptureHost) (log : CaptureLog) (writer : CaptureWriter) : Prop where
  done : Sealed host log.closed writer
  stream : writer.stream = some (writer.path log.closed.length)
  index : writer.segmentIndex = log.closed.length
  content : writer.files (writer.path log.closed.length) =
    some (fileHeaderBytes writer.metadata ++ recordBytes log.records)
  formed : ∀ record ∈ log.records, record.Formed host
  chunks : writer.segmentChunkCount = UInt64.ofNat (recordChunks log.records)
  events : writer.segmentEventCount =
    UInt64.ofNat (recordEvents log.records).length + UInt64.ofNat writer.pending.length
  indexed : writer.pendingIndex.length < 2 ^ 32

/-- No reader takes the file for a complete segment. -/
def Unfinished (host : CaptureHost) (content : ByteString) : Prop :=
  ((readSegment host content).hasFooter && (readSegment host content).complete) = false

/-- A capture that failed: no file is open any more, and one that will be found
is not complete. -/
structure Abandoned (host : CaptureHost) (base : CapturePath) (writer : CaptureWriter) : Prop where
  basePath : writer.basePath = base
  stream : writer.stream = none
  broken : ∃ index ≤ maximumSegmentIndex,
    (∀ before ≤ index, (writer.files (segmentPath base before)).isSome = true) ∧
      ∃ content, writer.files (segmentPath base index) = some content ∧ Unfinished host content

theorem Abandoned.congr {base : CapturePath} {writer after : CaptureWriter}
    (abandoned : Abandoned host base writer) (basePath : after.basePath = writer.basePath)
    (stream : after.stream = none) (files : after.files = writer.files) :
    Abandoned host base after where
  basePath := basePath.trans abandoned.basePath
  stream := stream
  broken := by
    rw [files]
    exact abandoned.broken

end CaptureWriter

/-! ## Files that end early -/

/-- A file that ends within its header, its records or after them, if what comes
after them is taken for no complete segment. -/
theorem unfinished_of_start {metadata : FileMetadata}
    (fits : (encodeMetadata metadata).length ≤ maximumMetadataSize) {records : List SegmentRecord}
    (formed : ∀ record ∈ records, record.Formed host) {last part : ByteString} (starts : part <+:
      fileHeaderBytes metadata ++ (recordBytes records ++ last)) (ends : ∀ other, other <+: last →
      part = fileHeaderBytes metadata ++ (recordBytes records ++ other) → Unsealed host other) :
    CaptureWriter.Unfinished host part := by
  unfold CaptureWriter.Unfinished readSegment
  rcases Library.Wire.prefix_append_cases starts with
    ⟨within, cut⟩ | ⟨rest, rfl, within⟩
  · obtain ⟨error, failed⟩ := readFileHeader_truncates fits part within cut
    rw [failed]
    rfl
  have header := (readFileHeader_decides fits _ (Nat.lt_succ_self _) rest).1 True.intro
  rw [header]
  refine unsealed_of_start formed within ?_ _ _ _ rfl
  intro other otherStarts same
  exact ends other otherStarts (by rw [same])

/-- What a failed write leaves is not all of it. -/
theorem kept_starts (count : Nat) {bytes : ByteString} (nonempty : bytes ≠ []) :
    kept count bytes <+: bytes ∧ kept count bytes ≠ bytes := by
  have positive := List.length_pos_iff.mpr nonempty
  have less := Nat.mod_lt count positive
  refine ⟨by exact List.take_prefix _ _, fun same => ?_⟩
  have lengths := congrArg List.length same
  unfold kept at lengths
  rw [List.length_take] at lengths
  omega

namespace CaptureWriter

/-! ## Writing a record -/

variable {writer : CaptureWriter}

theorem put_cases (host : CaptureHost)
    {name : ByteString} (stream : writer.stream = some name) (bytes : ByteString) :
    (writer.put host bytes = { writer with
        files := Function.update writer.files name (some (writer.content ++ bytes))
        writes := writer.writes + 1 }) ∨
      ∃ count, writer.put host bytes = { writer with
        files := Function.update writer.files name (some (kept count (writer.content ++ bytes)))
        writes := writer.writes + 1
        stream := none } := by
  unfold put
  rw [stream]
  simp only
  cases host.keeps writer.writes with
  | none => exact Or.inl rfl
  | some count => exact Or.inr ⟨count, rfl⟩

theorem Recording.content_eq {log : CaptureLog} (recording : Recording host log writer) :
    writer.content = fileHeaderBytes writer.metadata ++ recordBytes log.records := by
  unfold CaptureWriter.content
  rw [recording.stream, Option.bind_some, recording.content]
  rfl

variable {closed : List SealedSegment}

theorem Sealed.update (done : Sealed host closed writer) {content : Option ByteString}
    {after : CaptureWriter} (keeps : writer.Keeps after)
    (files : after.files = Function.update writer.files (writer.path closed.length) content) :
    Sealed host closed after := by
  have paths (index : Nat) : after.path index = writer.path index := by
    unfold path
    rw [keeps.basePath]
  refine ⟨?_, done.few, ?_, ?_, done.formed, ?_, ?_⟩
  · rw [keeps.metadata]
    exact done.fits
  · intro index there
    have other : writer.path index ≠ writer.path closed.length :=
      fun same => Nat.ne_of_lt there (segmentPath_injective _ same)
    rw [files, paths, keeps.metadata, Function.update_of_ne other]
    exact done.segments index there
  · intro index later
    have other : writer.path index ≠ writer.path closed.length :=
      fun same => Nat.ne_of_gt later (segmentPath_injective _ same)
    rw [files, paths, Function.update_of_ne other]
    exact done.absent index later
  · rw [keeps.complete]
    exact done.complete
  · rw [keeps.complete, keeps.reason]
    exact done.reason

theorem Sealed.abandoned (done : Sealed host closed writer) {after : CaptureWriter}
    {content : ByteString} (basePath : after.basePath = writer.basePath)
    (stream : after.stream = none) (files : after.files = Function.update writer.files
      (writer.path closed.length) (some content))
    (unfinished : Unfinished host content) : Abandoned host writer.basePath after := by
  refine ⟨basePath, stream, closed.length, Nat.le_of_lt done.few, ?_, content, ?_, unfinished⟩
  · intro before within
    rw [files]
    rcases Nat.eq_or_lt_of_le within with rfl | less
    · rw [path, Function.update_self]
      rfl
    have other : writer.path before ≠ writer.path closed.length :=
      fun same => Nat.ne_of_lt less (segmentPath_injective _ same)
    have segment := done.segments before less
    unfold path at other segment ⊢
    rw [Function.update_of_ne other, segment]
    rfl
  · rw [files, path, Function.update_self]

/-!
## The steps of the writer

Each step of a capture that goes on either succeeds, and the capture goes on, or
fails for good.
-/

variable {log : CaptureLog} {base : CapturePath}

/-- A step succeeds and leaves the writer in order, or fails for good. -/
def Ends (host : CaptureHost) (base : CapturePath)
    (good : CaptureWriter → Prop) (written : Written) : Prop :=
  (written.1 = none ∧ good written.2) ∨ (written.1.isSome = true ∧ Abandoned host base written.2)

variable {written : Written}

theorem Ends.andThen {good better : CaptureWriter → Prop}
    {next : CaptureWriter → Written} (ends : Ends host base good written)
    (follows : ∀ after, good after → Ends host base better (next after)) :
    Ends host base better (written.andThen next) := by
  obtain ⟨error, after⟩ := written
  rcases ends with ⟨rfl, holds⟩ | ⟨failed, abandoned⟩
  · exact follows after holds
  · obtain ⟨message, rfl⟩ := Option.isSome_iff_exists.mp failed
    exact Or.inr ⟨rfl, abandoned⟩

/-- A weaker goal. -/
theorem Ends.imp {good better : CaptureWriter → Prop} (ends : Ends host base good written)
    (implies : ∀ after, good after → better after) : Ends host base better written :=
  Or.imp (And.imp_right (implies _)) id ends

/-! ## Records -/

theorem recordBytes_append (records : List SegmentRecord) (record : SegmentRecord) :
    recordBytes (records ++ [record]) = recordBytes records ++ record.bytes := by
  simp [recordBytes]

/-- What is done when a write fails leaves the files alone. -/
def Harmless (failed : CaptureWriter → CaptureWriter) : Prop :=
  ∀ writer, (failed writer).basePath = writer.basePath ∧
    (failed writer).stream = writer.stream ∧ (failed writer).files = writer.files

theorem harmless_id : Harmless id := fun _ => ⟨rfl, rfl, rfl⟩

theorem harmless_markIncomplete (reason : ByteString) : Harmless (markIncomplete reason) :=
  fun _ => ⟨rfl, rfl, rfl⟩

variable {failed : CaptureWriter → CaptureWriter} {error : ByteString}

theorem putRecord_ends {name : ByteString} (stream : writer.stream = some name)
    {bytes : ByteString} (harmless : Harmless failed)
    (breaks : ∀ count after, after.basePath = writer.basePath → after.stream = none →
      after.files = Function.update writer.files name
        (some (kept count (writer.content ++ bytes))) → Abandoned host base after) :
    Ends host base
      (fun after => ∃ files writes, after = { writer with files, writes } ∧
        files = Function.update writer.files name (some (writer.content ++ bytes)))
      (writer.putRecord host bytes error failed) := by
  unfold putRecord
  rcases put_cases host stream bytes with put | ⟨count, put⟩
  · rw [put]
    simp only [stream, Option.isNone_some, Bool.false_eq_true, if_false]
    exact Or.inl ⟨rfl, _, _, rfl, rfl⟩
  rw [put]
  simp only [Option.isNone_none, if_true]
  obtain ⟨basePath, noStream, files⟩ := harmless { writer with
    files := Function.update writer.files name (some (kept count (writer.content ++ bytes)))
    writes := writer.writes + 1
    stream := none }
  exact Or.inr ⟨rfl, breaks count _ basePath noStream files⟩

variable {record : SegmentRecord}

theorem Recording.putRecord (recording : Recording host log writer)
    (formed : record.Formed host) (harmless : Harmless failed) : Ends host writer.basePath
      (fun after => ∃ files writes, after = { writer with files, writes } ∧
        files = Function.update writer.files (writer.path log.closed.length)
          (some (fileHeaderBytes writer.metadata ++ recordBytes (log.records ++ [record]))))
      (writer.putRecord host record.bytes error failed) := by
  have whole : writer.content ++ record.bytes =
      fileHeaderBytes writer.metadata ++ recordBytes (log.records ++ [record]) := by
    rw [recording.content_eq, recordBytes_append, List.append_assoc]
  have allFormed : ∀ other ∈ log.records ++ [record], other.Formed host := by
    intro other member
    rcases List.mem_append.mp member with earlier | same
    · exact recording.formed other earlier
    · rw [List.mem_singleton.mp same]
      exact formed
  have nonempty : writer.content ++ record.bytes ≠ [] :=
    List.append_ne_nil_of_right_ne_nil _ record.bytes_ne_nil
  rw [← whole]
  refine putRecord_ends recording.stream harmless ?_
  intro count after basePath noStream files
  have within : kept count (writer.content ++ record.bytes) <+:
      fileHeaderBytes writer.metadata ++ (recordBytes (log.records ++ [record]) ++ []) := by
    rw [List.append_nil, ← whole]
    exact (kept_starts count nonempty).1
  refine recording.done.abandoned basePath noStream files
    (unfinished_of_start recording.done.fits allFormed within ?_)
  intro other rest _
  rw [List.prefix_nil.mp rest]
  exact .nil

theorem Recording.extend (recording : Recording host log writer) (formed : record.Formed host)
    {after : CaptureWriter} (keeps : writer.Keeps after)
    (files : after.files = Function.update writer.files (writer.path log.closed.length)
      (some (fileHeaderBytes writer.metadata ++ recordBytes (log.records ++ [record]))))
    (stream : after.stream = writer.stream) (index : after.segmentIndex = writer.segmentIndex)
    (chunks : after.segmentChunkCount = writer.segmentChunkCount + UInt64.ofNat record.chunks)
    (events : after.segmentEventCount = writer.segmentEventCount)
    (pending : record.events ++ after.pending = writer.pending)
    (indexed : after.pendingIndex.length < 2 ^ 32) :
    Recording host { log with records := log.records ++ [record] } after where
  done := recording.done.update keeps files
  stream := by
    rw [stream, recording.stream]
    unfold path
    rw [keeps.basePath]
  index := index.trans recording.index
  content := by
    have same : after.path log.closed.length = writer.path log.closed.length := by
      unfold path
      rw [keeps.basePath]
    rw [files, same, Function.update_self, keeps.metadata]
  formed := by
    intro other member
    rcases List.mem_append.mp member with earlier | same
    · exact recording.formed other earlier
    · rw [List.mem_singleton.mp same]
      exact formed
  chunks := by
    rw [chunks, recording.chunks]
    simp [recordChunks]
  events := by
    rw [events, recording.events, ← pending]
    simp [recordEvents, UInt64.add_assoc]
  indexed := indexed

theorem Recording.writeIndexCheckpoint (recording : Recording host log writer) :
    Ends host writer.basePath
      (fun after => writer.Keeps after ∧
        Recording host
          { log with
            records := log.records ++ [.index writer.pendingIndex] } after ∧
        after.pending = writer.pending ∧ after.pendingIndex = [] ∧
        after.segmentIndex = writer.segmentIndex)
      (writer.writeIndexCheckpoint host) := by
  have formed : SegmentRecord.Formed host (.index writer.pendingIndex) := recording.indexed
  have located : Recording host log
      { writer with lastIndexOffset := writer.tell } :=
    { recording with done := { recording.done with } }
  unfold CaptureWriter.writeIndexCheckpoint
  refine Ends.andThen (located.putRecord formed (harmless_markIncomplete _)) ?_
  rintro _ ⟨files, writes, rfl, written⟩
  refine Or.inl ⟨rfl, ⟨rfl, rfl, rfl, rfl, rfl, rfl⟩, ?_, rfl, rfl, rfl⟩
  exact recording.extend formed ⟨rfl, rfl, rfl, rfl, rfl, rfl⟩ written rfl rfl
    (UInt64.add_zero _).symm rfl rfl (by simp)

/-! ## Footers -/

theorem Sealed.seal (done : Sealed host closed writer) {segment : SealedSegment}
    (formed : segment.Formed host)
    (complete : writer.complete = true → segment.footer.complete = true)
    {after : CaptureWriter} (keeps : writer.Keeps after)
    (files : after.files = Function.update writer.files
      (writer.path closed.length) (some (segment.bytes writer.metadata))) :
    Finished host (closed ++ [segment]) after := by
  have updated := done.update keeps files
  have paths (index : Nat) : after.path index = writer.path index := by
    unfold path
    rw [keeps.basePath]
  refine ⟨updated.fits, ?_, ?_, ?_, ?_, ?_, updated.reason⟩
  · rw [List.length_append, List.length_singleton]
    exact done.few
  · intro index there
    rw [List.length_append, List.length_singleton] at there
    rcases Nat.lt_or_eq_of_le (Nat.le_of_lt_succ there) with earlier | rfl
    · rw [List.getElem_append_left earlier]
      exact updated.segments index earlier
    · rw [List.getElem_concat_length rfl, files, paths, Function.update_self, keeps.metadata]
  · intro index later
    rw [List.length_append, List.length_singleton] at later
    exact updated.absent index later
  · intro other member
    rcases List.mem_append.mp member with earlier | same
    · exact done.formed other earlier
    · rw [List.mem_singleton.mp same]
      exact formed
  intro stillComplete other member
  rw [keeps.complete] at stillComplete
  rcases List.mem_append.mp member with earlier | same
  · exact done.complete stillComplete other earlier
  · rw [List.mem_singleton.mp same]
    exact complete stillComplete

theorem Recording.putFooter (recording : Recording host log writer)
    (flushed : writer.pending = []) : Ends host writer.basePath
      (fun after => ∃ files writes, after = { writer with files, writes } ∧
        Finished host (log.closed ++ [⟨log.records, writer.footer⟩]) after)
      (writer.putFooter host) := by
  have done := recording.done
  have whole : writer.content ++ footerBytes writer.footer =
      SealedSegment.bytes writer.metadata ⟨log.records, writer.footer⟩ := by
    rw [recording.content_eq, List.append_assoc]
    rfl
  have nonempty : writer.content ++ footerBytes writer.footer ≠ [] :=
    List.append_ne_nil_of_right_ne_nil _ (List.append_ne_nil_of_left_ne_nil (by decide) _)
  have put : Ends host writer.basePath _ (writer.putFooter host) :=
    putRecord_ends recording.stream harmless_id (by
      intro count after basePath noStream files
      obtain ⟨within, cut⟩ := kept_starts count nonempty
      rw [whole] at within cut
      refine done.abandoned basePath noStream files ?_
      rw [whole]
      refine unfinished_of_start done.fits recording.formed within ?_
      intro other rest same
      refine .of_footer_start done.reason rest fun _ all => ?_
      rw [all] at same
      exact cut same)
  refine put.imp ?_
  rintro _ ⟨files, writes, rfl, written⟩
  refine ⟨files, writes, rfl, ?_⟩
  rw [whole] at written
  refine done.seal ⟨recording.formed, recording.chunks, ?_, done.reason⟩ id
    ⟨rfl, rfl, rfl, rfl, rfl, rfl⟩ written
  have events := recording.events
  rw [flushed] at events
  exact events.trans (UInt64.add_zero _)

/-- The segment that was open is sealed, and nothing waits. -/
structure Sealing (host : CaptureHost) (log : CaptureLog)
    (writer after : CaptureWriter) : Prop where
  keeps : writer.Keeps after
  index : after.segmentIndex = writer.segmentIndex
  pending : after.pending = []
  finished : ∃ segment : SealedSegment,
    recordEvents segment.records = recordEvents log.records ∧
      segment.footer.complete = writer.complete ∧ Finished host (log.closed ++ [segment]) after

/-- Writing the footer, and the index before it if chunks wait for one. -/
theorem Recording.writeFooter (recording : Recording host log writer)
    (flushed : writer.pending = []) : Ends host writer.basePath (Sealing host log writer)
      (writer.writeFooter host) := by
  unfold CaptureWriter.writeFooter
  cases writer.pendingIndex.isEmpty with
  | true =>
    rw [if_pos rfl]
    refine (recording.putFooter flushed).imp ?_
    rintro _ ⟨files, writes, rfl, finished⟩
    exact ⟨⟨rfl, rfl, rfl, rfl, rfl, rfl⟩, rfl, flushed, _, rfl, rfl, finished⟩
  | false =>
    rw [if_neg Bool.false_ne_true]
    refine recording.writeIndexCheckpoint.andThen ?_
    rintro indexed ⟨keeps, recordingIndexed, pending, _, index⟩
    rw [← keeps.basePath]
    refine (recordingIndexed.putFooter (pending.trans flushed)).imp ?_
    rintro _ ⟨files, writes, rfl, finished⟩
    refine ⟨keeps.trans ⟨rfl, rfl, rfl, rfl, rfl, rfl⟩, index,
      pending.trans flushed, _, ?_, keeps.complete, finished⟩
    simp [recordEvents, SegmentRecord.events]

/-! ## Opening a segment -/

theorem Finished.openSegment (finished : Finished host closed writer)
    (index : writer.segmentIndex = closed.length) (few : closed.length < maximumSegmentIndex)
    (opens : host.opens (writer.path closed.length) = true) (pending : writer.pending = []) :
    Ends host writer.basePath
      (fun after => writer.Keeps after ∧ after.pending = [] ∧ Recording host { closed } after)
      (writer.openSegment host) := by
  have name : segmentPath writer.basePath writer.segmentIndex =
      writer.path closed.length := by
    rw [index]
    rfl
  let opened : CaptureWriter := { writer with
    files := Function.update writer.files (writer.path closed.length) (some [])
    stream := some (writer.path closed.length) }
  have truncated : writer.truncate host (writer.path closed.length) = opened := by
    unfold truncate
    rw [opens, if_pos rfl]
  have before : Sealed host closed writer :=
    { finished with
      few := few
      absent := fun index later => finished.absent index (Nat.le_of_lt later) }
  have done : Sealed host closed opened := before.update ⟨rfl, rfl, rfl, rfl, rfl, rfl⟩ rfl
  have empty : opened.content = [] := by simp [opened, CaptureWriter.content]
  have nonempty : opened.content ++ fileHeaderBytes writer.metadata ≠ [] :=
    List.append_ne_nil_of_right_ne_nil _ (List.append_ne_nil_of_left_ne_nil (by decide) _)
  have put : Ends host writer.basePath _
      (opened.putRecord host (fileHeaderBytes writer.metadata)
        (text "failed writing capture header") id) :=
    putRecord_ends rfl harmless_id (by
      intro count after basePath noStream files
      have within : kept count
          (opened.content ++ fileHeaderBytes writer.metadata) <+:
          fileHeaderBytes writer.metadata ++ (recordBytes [] ++ []) := by
        have all := (kept_starts count nonempty).1
        simpa [empty, recordBytes] using all
      refine done.abandoned basePath noStream files
        (unfinished_of_start done.fits (by simp) within ?_)
      intro other rest _
      rw [List.prefix_nil.mp rest]
      exact .nil)
  unfold CaptureWriter.openSegment
  simp only [name, truncated]
  have good : opened.stream.isNone = false := rfl
  rw [if_neg (by rw [good]; exact Bool.false_ne_true)]
  refine Ends.andThen put ?_
  rintro _ ⟨files, writes, rfl, written⟩
  refine Or.inl ⟨rfl, ⟨rfl, rfl, rfl, rfl, rfl, rfl⟩, pending, ?_⟩
  rw [empty, List.nil_append] at written
  refine ⟨done.update ⟨rfl, rfl, rfl, rfl, rfl, rfl⟩ written, rfl, index, ?_,
    by simp, rfl, ?_, Nat.two_pow_pos 32⟩
  · rw [written]
    change Function.update _ (writer.path closed.length) _ (writer.path closed.length) = _
    rw [Function.update_self]
    simp [recordBytes, opened]
  · simp [pending, recordEvents, opened]

/-! ## Rotation -/

/-- If the segment that is open has grown too large, the next one can be
opened. -/
def RotationAllowed (host : CaptureHost) (writer : CaptureWriter) : Prop :=
  writer.options.rotateBytes ≤ writer.segmentBytes →
    host.opens (writer.path (writer.segmentIndex + 1)) = true ∧
      writer.segmentIndex + 1 < maximumSegmentIndex

/-- Nothing waits any more: these events were written. -/
structure Flushed (host : CaptureHost) (events : List Event)
    (writer after : CaptureWriter) : Prop where
  keeps : writer.Keeps after
  pending : after.pending = []
  recording : ∃ log, Recording host log after ∧ log.events = events

theorem Recording.rotateIfNeeded (recording : Recording host log writer)
    (flushed : writer.pending = []) (allowed : RotationAllowed host writer) :
    Ends host writer.basePath (Flushed host log.events writer) (writer.rotateIfNeeded host) := by
  unfold CaptureWriter.rotateIfNeeded
  by_cases small : writer.segmentBytes < writer.options.rotateBytes
  · rw [if_pos small]
    exact Or.inl ⟨rfl, .refl writer, flushed, log, recording, rfl⟩
  rw [if_neg small]
  obtain ⟨opens, few⟩ := allowed (UInt64.not_lt.mp small)
  refine (recording.writeFooter flushed).andThen ?_
  intro sealing footed
  obtain ⟨segment, sameEvents, -, finished⟩ := footed.finished
  have length : (log.closed ++ [segment]).length =
      sealing.segmentIndex + 1 := by
    rw [List.length_append, footed.index, recording.index]
    rfl
  have path : sealing.path (sealing.segmentIndex + 1) =
      writer.path (writer.segmentIndex + 1) := by
    unfold CaptureWriter.path
    rw [footed.keeps.basePath, footed.index]
  have next : Finished host (log.closed ++ [segment])
      { sealing with
        stream := none
        segmentIndex := sealing.segmentIndex + 1 } :=
    { finished with }
  rw [← footed.keeps.basePath]
  refine (next.openSegment length.symm ?_ ?_ footed.pending).imp ?_
  · rw [length, footed.index]
    exact few
  · rw [length]
    exact (congrArg host.opens path).trans opens
  rintro opened ⟨keeps, pending, reopened⟩
  refine ⟨footed.keeps.trans ⟨keeps.isOpen, keeps.basePath, keeps.metadata,
    keeps.options, keeps.complete, keeps.reason⟩, pending, _, reopened, ?_⟩
  exact log.events_seal sameEvents

/-! ## Chunks -/

/-- The events that wait can be written as a chunk that the reader takes. -/
structure ChunkAllowed (host : CaptureHost) (writer : CaptureWriter) : Prop where
  count : writer.pending.length < 2 ^ 32
  readable : ∀ event ∈ writer.pending, event.Readable
  uncompressed : writer.pendingBytes.length ≤ maximumUncompressedBytes
  compressed : ∀ compressed,
    host.compress writer.compressions writer.options.compressionLevel
        writer.pendingBytes = .ok compressed →
      compressed.length ≤ maximumCompressedBytes
  index : writer.pendingIndex.length + 1 < 2 ^ 32
  rotation : ∀ written, writer.writeChunk host = (none, written) → RotationAllowed host written

/-- The compression failed: the capture goes on, but is not complete. -/
structure Interrupted (host : CaptureHost) (writer : CaptureWriter) (written : Written) : Prop where
  failed : written.1.isSome = true
  isOpen : written.2.isOpen = writer.isOpen
  basePath : written.2.basePath = writer.basePath
  complete : written.2.complete = false
  recording : ∃ log, Recording host log written.2

theorem Recording.markIncomplete (recording : Recording host log writer) (reason : ByteString) :
    Recording host log (writer.markIncomplete reason) :=
  { recording with
    done := { recording.done with
      complete := fun complete => by cases complete
      reason := fun complete => by cases complete } }

/-- The chunk of the events that wait is one that the reader takes. -/
theorem ChunkAllowed.formed (allowed : ChunkAllowed host writer)
    (faithful : host.Faithful) {compressed : ByteString} (packed : host.compress writer.compressions
      writer.options.compressionLevel writer.pendingBytes = .ok compressed) :
    ChunkFormed host (writer.pendingChunk host compressed) compressed writer.pending where
  checksum := rfl
  compressedSize := by
    have small := allowed.compressed compressed packed
    apply toNat_ofStreamSize
    unfold maximumCompressedBytes at small
    omega
  compressedSmall := allowed.compressed compressed packed
  uncompressedSize := by
    have small := allowed.uncompressed
    apply toNat_ofStreamSize
    unfold maximumUncompressedBytes at small
    omega
  uncompressedSmall := allowed.uncompressed
  count := toNat_ofStreamSize allowed.count
  unpacks := faithful _ _ _ _ packed
  readable := allowed.readable

theorem Recording.countChunk {chunk : ChunkInfo} (recording : Recording host log
      { writer with
        segmentChunkCount := writer.segmentChunkCount + 1
        pendingIndex := writer.pendingIndex ++ [chunk]
        pending := []
        pendingEstimatedBytes := 0
        pendingStartedNs := 0
        segmentBytes := writer.tell }) :
    Ends host writer.basePath (Flushed host log.events writer) (writer.countChunk host chunk) := by
  unfold CaptureWriter.countChunk
  dsimp only
  split
  · refine recording.writeIndexCheckpoint.imp ?_
    rintro after ⟨keeps, indexed, pending, -, -⟩
    exact ⟨⟨keeps.isOpen, keeps.basePath, keeps.metadata, keeps.options,
      keeps.complete, keeps.reason⟩, pending, _, indexed, log.events_index _⟩
  · exact Or.inl ⟨rfl, ⟨rfl, rfl, rfl, rfl, rfl, rfl⟩, rfl, log, recording, rfl⟩

theorem Recording.writeChunk (faithful : host.Faithful) (recording : Recording host log writer)
    (allowed : ChunkAllowed host writer) : Interrupted host writer (writer.writeChunk host) ∨
      Ends host writer.basePath (Flushed host (log.events ++ writer.pending) writer)
        (writer.writeChunk host) := by
  unfold CaptureWriter.writeChunk
  split
  · rename_i name failed
    refine Or.inl ⟨rfl, rfl, rfl, rfl, log, ?_⟩
    have called : Recording host log
        { writer with compressions := writer.compressions + 1 } :=
      { recording with done := { recording.done with } }
    exact called.markIncomplete _
  rename_i compressed packed
  refine Or.inr ?_
  have formed : SegmentRecord.Formed host
      (.chunk (writer.pendingChunk host compressed) compressed writer.pending) :=
    allowed.formed faithful packed
  have numbered : Recording host log
      { writer with
        compressions := writer.compressions + 1
        chunkIndex := writer.chunkIndex + 1 } :=
    { recording with done := { recording.done with } }
  refine Ends.andThen (numbered.putRecord formed (harmless_markIncomplete _)) ?_
  rintro _ ⟨files, writes, rfl, written⟩
  have short : (writer.pendingIndex ++ [writer.pendingChunk host compressed]).length < 2 ^ 32 := by
    rw [List.length_append]
    exact allowed.index
  let put : CaptureWriter := { writer with
    compressions := writer.compressions + 1
    chunkIndex := writer.chunkIndex + 1
    files, writes }
  have counted : Recording host _ { put with
      segmentChunkCount := put.segmentChunkCount + 1
      pendingIndex := put.pendingIndex ++ [writer.pendingChunk host compressed]
      pending := []
      pendingEstimatedBytes := 0
      pendingStartedNs := 0
      segmentBytes := put.tell } :=
    recording.extend formed ⟨rfl, rfl, rfl, rfl, rfl, rfl⟩ written rfl rfl rfl
      rfl (List.append_nil _) short
  refine counted.countChunk.imp ?_
  rintro after ⟨keeps, pending, last, recorded, events⟩
  refine ⟨⟨keeps.isOpen, keeps.basePath, keeps.metadata, keeps.options,
    keeps.complete, keeps.reason⟩, pending, last, recorded, ?_⟩
  rw [events, log.events_chunk]

/-- Writing the events that wait, if there are any, and closing the segment if
it has grown too large. -/
theorem Recording.flushChunk (faithful : host.Faithful) (recording : Recording host log writer)
    (allowed : writer.pending ≠ [] → ChunkAllowed host writer) :
    Interrupted host writer (writer.flushChunk host) ∨ Ends host writer.basePath
        (Flushed host (log.events ++ writer.pending) writer) (writer.flushChunk host) := by
  unfold CaptureWriter.flushChunk
  by_cases empty : writer.pending = []
  · rw [if_pos (List.isEmpty_iff.mpr empty)]
    refine Or.inr (Or.inl ⟨rfl, .refl writer, empty, log, recording, ?_⟩)
    rw [empty, List.append_nil]
  rw [if_neg (mt List.isEmpty_iff.mp empty)]
  have chunk := allowed empty
  rcases recording.writeChunk faithful chunk with interrupted | ends
  · obtain ⟨error, failed⟩ := Option.isSome_iff_exists.mp interrupted.failed
    refine Or.inl ?_
    unfold Written.andThen
    rw [failed]
    exact { interrupted with failed := rfl }
  refine Or.inr ?_
  cases written : writer.writeChunk host with
  | mk error after =>
    rw [written] at ends
    rcases ends with ⟨rfl, flushed⟩ | ⟨failed, abandoned⟩
    · obtain ⟨next, recorded, events⟩ := flushed.recording
      have rotation := chunk.rotation after written
      rw [← flushed.keeps.basePath]
      refine (recorded.rotateIfNeeded flushed.pending rotation).imp ?_
      rintro rotated ⟨keeps, pending, last, recordedLast, sameEvents⟩
      exact ⟨flushed.keeps.trans keeps, pending, last, recordedLast, sameEvents.trans events⟩
    · obtain ⟨message, rfl⟩ := Option.isSome_iff_exists.mp failed
      exact Or.inr ⟨rfl, abandoned⟩

/-! ## Writers that write no more -/

/-- The writer leaves the files alone, and fails. -/
def Idles (writer : CaptureWriter) (after : CaptureWriter) : Prop :=
  after.basePath = writer.basePath ∧ after.stream = none ∧ after.files = writer.files

theorem putRecord_of_failed (host : CaptureHost)
    (failed : writer.stream = none) (bytes error : ByteString) {wrongs : CaptureWriter → CaptureWriter}
    (harmless : Harmless wrongs) : (writer.putRecord host bytes error wrongs).1 = some error ∧
      Idles writer (writer.putRecord host bytes error wrongs).2 := by
  have put : writer.put host bytes = writer := by
    unfold CaptureWriter.put
    rw [failed]
  have none : writer.stream.isNone = true := by
    rw [failed]
    rfl
  unfold putRecord
  rw [put]
  rw [if_pos none]
  obtain ⟨basePath, stream, files⟩ := harmless writer
  exact ⟨rfl, basePath, stream.trans failed, files⟩

/-- A step that fails stops the following ones. -/
theorem andThen_of_failed (failed : written.1 = some error) (next : CaptureWriter → Written) :
    written.andThen next = (some error, written.2) := by
  unfold Written.andThen
  rw [failed]

theorem flushChunk_of_failed (host : CaptureHost) (failed : writer.stream = none) :
    Idles writer (writer.flushChunk host).2 := by
  unfold CaptureWriter.flushChunk
  split
  · exact ⟨rfl, failed, rfl⟩
  unfold CaptureWriter.writeChunk
  split
  · exact ⟨rfl, failed, rfl⟩
  rename_i compressed _
  let numbered : CaptureWriter := { writer with
    compressions := writer.compressions + 1
    chunkIndex := writer.chunkIndex + 1 }
  have stopped : numbered.stream = none := failed
  obtain ⟨error, idles⟩ := putRecord_of_failed host stopped
    (chunkBytes (pendingChunk host
      { writer with compressions := writer.compressions + 1 } compressed) compressed)
    (text "failed writing capture chunk")
    (harmless_markIncomplete (text "capture file write failure"))
  rw [andThen_of_failed error, andThen_of_failed rfl]
  exact idles

theorem writeIndexCheckpoint_of_failed (host : CaptureHost) (failed : writer.stream = none) :
    (writer.writeIndexCheckpoint host).1.isSome = true ∧
      Idles writer (writer.writeIndexCheckpoint host).2 := by
  let located : CaptureWriter := { writer with lastIndexOffset := writer.tell }
  have stopped : located.stream = none := failed
  obtain ⟨error, idles⟩ := putRecord_of_failed host stopped
    (indexBytes writer.pendingIndex) (text "failed writing capture index")
    (harmless_markIncomplete (text "capture index write failure"))
  unfold CaptureWriter.writeIndexCheckpoint
  rw [andThen_of_failed error]
  exact ⟨rfl, idles⟩

theorem writeFooter_of_failed (host : CaptureHost) (failed : writer.stream = none) :
    Idles writer (writer.writeFooter host).2 := by
  unfold CaptureWriter.writeFooter
  split
  · exact (putRecord_of_failed host failed _ _ harmless_id).2
  obtain ⟨error, idles⟩ := writeIndexCheckpoint_of_failed host failed
  obtain ⟨message, failed⟩ := Option.isSome_iff_exists.mp error
  rw [andThen_of_failed failed]
  exact idles

end CaptureWriter
end Savor.Capture

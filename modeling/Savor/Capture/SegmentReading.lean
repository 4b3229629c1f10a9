import Savor.Capture.SegmentRecords
import Savor.Model.TextForms

/-!
# Segments are read as they are written

A segment with its footer is read back in full.  A segment that ends early, or
whose footer says so, is not taken for a complete one.
-/

namespace Savor.Capture

open Library.Wire (Decoder Decides Truncates)
open Program (ByteString text)

variable {host : CaptureHost}

/-! ## Complete segments -/

/-- The events that the chunks of a segment hold. -/
def recordEvents (records : List SegmentRecord) : List Event := records.flatMap SegmentRecord.events

/-- How many chunks a segment has. -/
def recordChunks (records : List SegmentRecord) : Nat := (records.map SegmentRecord.chunks).sum

def recordBytes (records : List SegmentRecord) : ByteString := records.flatMap SegmentRecord.bytes

@[simp] theorem recordBytes_cons (record : SegmentRecord) (records : List SegmentRecord) :
    recordBytes (record :: records) = record.bytes ++ recordBytes records :=
  List.flatMap_cons

/-- What the reader has after records that were written in full. -/
structure SegmentInfo.Advances (info : SegmentInfo)
    (records : List SegmentRecord) (after : SegmentInfo) : Prop where
  events : after.events = info.events ++ (recordEvents records).map Event.carried
  chunks : after.chunks.length = info.chunks.length + recordChunks records
  eventCount : after.eventCount = info.eventCount + UInt64.ofNat (recordEvents records).length
  errors : after.errors = info.errors
  warnings : after.warnings = info.warnings

theorem SegmentInfo.Advances.refl (info : SegmentInfo) : info.Advances [] info where
  events := (List.append_nil _).symm
  chunks := rfl
  eventCount := (UInt64.add_zero _).symm
  errors := rfl
  warnings := rfl

variable {records : List SegmentRecord} {compressed : ByteString}
variable {events : List Event}

/-- One round of the loop over a chunk. -/
theorem SegmentInfo.Advances.chunk {info after : SegmentInfo} {chunk : ChunkInfo}
    (formed : ChunkFormed host chunk compressed events) (offset : UInt64)
    (rest : (info.withChunk (chunk.at offset) (events.map Event.carried)
      false).Advances records after) :
    info.Advances (.chunk chunk compressed events :: records) after where
  events := by
    rw [rest.events]
    simp [SegmentInfo.withChunk, recordEvents, SegmentRecord.events]
  chunks := by
    rw [rest.chunks]
    simp [SegmentInfo.withChunk, recordChunks, SegmentRecord.chunks]
    omega
  eventCount := by
    have count : chunk.eventCount.toUInt64 = UInt64.ofNat events.length := by
      rw [← formed.count]
      exact (UInt64.ofNat_uInt32ToNat _).symm
    rw [rest.eventCount]
    simp only [SegmentInfo.withChunk, ChunkInfo.at, count, recordEvents,
      List.flatMap_cons, SegmentRecord.events, List.length_append,
      UInt64.ofNat_add, UInt64.add_assoc]
  errors := rest.errors
  warnings := by
    rw [rest.warnings]
    simp [SegmentInfo.withChunk]

/-- One round of the loop over an index. -/
theorem SegmentInfo.Advances.index {info after : SegmentInfo}
    (rest : info.Advances records after) (entries : List ChunkInfo) :
    info.Advances (.index entries :: records) after where
  events := rest.events
  chunks := by
    rw [rest.chunks]
    simp [recordChunks, SegmentRecord.chunks]
  eventCount := rest.eventCount
  errors := rest.errors
  warnings := rest.warnings

theorem readRecord_chunk {chunk : ChunkInfo} (formed : ChunkFormed host chunk compressed events)
    (offset : UInt64) (rest : ByteString) :
    readRecord host offset () (chunkBytes chunk compressed ++ rest) =
      .ok (.chunk (chunk.at offset) (events.map Event.carried) false, rest) :=
  (readRecord_chunk_decides formed offset _ (Nat.lt_succ_self _) rest).1 True.intro

theorem indexBytes_eq (entries : List ChunkInfo) : indexBytes entries = indexTag ++
      (streamSize entries.length ++ entries.flatMap indexEntryBytes) := by
  simp [indexBytes]

variable {entries : List ChunkInfo}

theorem readRecord_indexBytes
    (formed : entries.length < 2 ^ 32) (offset : UInt64) (rest : ByteString) :
    readRecord host offset () (indexBytes entries ++ rest) = .ok (.index, rest) := by
  rw [indexBytes_eq, List.append_assoc, List.append_assoc, readRecord_index,
    toNat_ofStreamSize formed, List.drop_left' (length_indexEntries entries)]

/-- The loop goes through records that were written in full.  The induction is on
the records. -/
theorem readRecords_advances (formed : ∀ record ∈ records, record.Formed host) (size fuel : Nat)
    (info : SegmentInfo) (rest : ByteString) : ∃ after, info.Advances records after ∧
      readRecords host size (records.length + fuel) info (recordBytes records ++ rest) =
        readRecords host size fuel after rest := by
  induction records generalizing info with
  | nil =>
    refine ⟨info, .refl info, ?_⟩
    simp [recordBytes]
  | cons record records ih =>
    have formedRest : ∀ record ∈ records, record.Formed host :=
      fun other member => formed other (List.mem_cons_of_mem _ member)
    have formedFirst := formed record List.mem_cons_self
    have more : (record :: records).length + fuel =
        records.length + fuel + 1 := by
      rw [List.length_cons]
      omega
    rw [more, recordBytes_cons, List.append_assoc, readRecords]
    cases record with
    | chunk chunk compressed events =>
      simp only [SegmentRecord.bytes, readRecord_chunk formedFirst]
      obtain ⟨after, advances, reads⟩ := ih formedRest
        (info.withChunk (chunk.at _) (events.map Event.carried) false)
      exact ⟨after, .chunk formedFirst _ advances, reads⟩
    | index entries =>
      simp only [SegmentRecord.bytes, readRecord_indexBytes formedFirst]
      obtain ⟨after, advances, reads⟩ := ih formedRest info
      exact ⟨after, advances.index entries, reads⟩

/-! ## The whole segment -/

/-- A segment with all its records and a footer that counts them. -/
structure SealedSegment where
  records : List SegmentRecord
  footer : SegmentFooter

namespace SealedSegment

def bytes (metadata : FileMetadata) (segment : SealedSegment) : ByteString :=
  fileHeaderBytes metadata ++ (recordBytes segment.records ++ footerBytes segment.footer)

structure Formed (host : CaptureHost) (segment : SealedSegment) : Prop where
  records : ∀ record ∈ segment.records, record.Formed host
  chunks : segment.footer.chunks = UInt64.ofNat (recordChunks segment.records)
  events : segment.footer.events = UInt64.ofNat (recordEvents segment.records).length
  /-- A reason is only given for what is not complete. -/
  reason : segment.footer.complete = true → segment.footer.reason = []

end SealedSegment

theorem footerBytes_eq (footer : SegmentFooter) : footerBytes footer =
      footerTag ++ (footerHeaderBytes footer ++ footer.reason) := by
  simp [footerBytes]

theorem SegmentRecord.bytes_ne_nil (record : SegmentRecord) : record.bytes ≠ [] := by
  cases record with
  | chunk | index => exact List.append_ne_nil_of_left_ne_nil (by decide) _

theorem readRecord_footerBytes (offset : UInt64) (footer : SegmentFooter) :
    ∃ reason rest, readRecord host offset () (footerBytes footer) =
      .ok (.footer { footer with reason }, rest) := by
  have cut : (UInt32.ofNat footer.reason.length).toNat ≤
      footer.reason.length := by
    rw [UInt32.toNat_ofNat']
    exact Nat.mod_le _ _
  rw [footerBytes_eq, readRecord_footer, if_neg (Nat.not_lt.mpr cut)]
  exact ⟨_, _, rfl⟩

variable {metadata : FileMetadata}

/-- A sealed segment is read back without an error, and is complete if its
footer says so. -/
theorem readSegment_sealed (fits : (encodeMetadata metadata).length ≤ maximumMetadataSize)
    {segment : SealedSegment} (formed : segment.Formed host) :
    let read := readSegment host (segment.bytes metadata)
    read.events = (recordEvents segment.records).map Event.carried ∧
      read.errors = [] ∧ read.hasFooter = true ∧
      read.complete = segment.footer.complete ∧
      (segment.footer.complete = true → read.warnings = []) := by
  have header := (readFileHeader_decides fits _ (Nat.lt_succ_self _)
    (recordBytes segment.records ++ footerBytes segment.footer)).1 True.intro
  have few : segment.records.length ≤ (recordBytes segment.records).length :=
    Decides.length_le_flatMap SegmentRecord.bytes_ne_nil _
  have size : (segment.bytes metadata).length =
      (fileHeaderBytes metadata).length +
        ((recordBytes segment.records).length + (footerBytes segment.footer).length) := by
    simp only [SealedSegment.bytes, List.length_append]
  obtain ⟨more, enough⟩ : ∃ more, (segment.bytes metadata).length + 1 =
      segment.records.length + (more + 1) :=
    ⟨(segment.bytes metadata).length - segment.records.length, by omega⟩
  obtain ⟨after, advances, reads⟩ := readRecords_advances formed.records
    (segment.bytes metadata).length (more + 1) { metadata } (footerBytes segment.footer)
  obtain ⟨reason, rest, footer⟩ : ∃ reason rest,
      readRecord host (UInt64.ofNat ((segment.bytes metadata).length -
          (footerBytes segment.footer).length)) ()
          (footerBytes segment.footer) =
        .ok (.footer { segment.footer with reason }, rest) :=
    readRecord_footerBytes _ _
  have result : readSegment host (segment.bytes metadata) =
      after.withFooter { segment.footer with reason } := by
    unfold readSegment
    rw [show readFileHeader () (segment.bytes metadata) = _ from header]
    simp only
    rw [enough, reads, readRecords, footer]
  have chunks := advances.chunks
  have count := advances.eventCount
  have warnings := advances.warnings
  have events := advances.events
  have counted : UInt64.ofNat after.chunks.length = segment.footer.chunks := by
    rw [chunks, formed.chunks]
    simp
  have totalled : after.eventCount = segment.footer.events := by
    rw [count, formed.events]
    simp
  rw [result]
  refine ⟨?_, advances.errors, rfl, rfl, ?_⟩
  · exact events
  · intro complete
    simp [SegmentInfo.withFooter, counted, totalled, warnings, complete]

/-! ## Segments that are not complete -/

/-- Whatever the reader does with these bytes, it does not take the segment for
a complete one. -/
def Unsealed (host : CaptureHost) (bytes : ByteString) : Prop :=
  ∀ size fuel info, info.hasFooter = false →
    ((readRecords host size fuel info bytes).hasFooter &&
      (readRecords host size fuel info bytes).complete) = false

/-- Without fuel the reader gives up before any footer. -/
theorem Unsealed.of_succ {bytes : ByteString} (unsealed : ∀ size fuel info, info.hasFooter = false →
      ((readRecords host size (fuel + 1) info bytes).hasFooter &&
        (readRecords host size (fuel + 1) info bytes).complete) = false) :
    Unsealed host bytes := by
  intro size fuel info unfooted
  cases fuel with
  | zero => simp [readRecords, SegmentInfo.withoutFooter, unfooted]
  | succ fuel => exact unsealed size fuel info unfooted

theorem Unsealed.of_stop {bytes : ByteString}
    (stops : ∀ offset, ∃ stop, readRecord host offset () bytes = .error stop) :
    Unsealed host bytes := by
  refine .of_succ fun size fuel info unfooted => ?_
  obtain ⟨stop, stopped⟩ := stops (UInt64.ofNat (size - bytes.length))
  rw [readRecords, stopped]
  cases stop <;> simp [SegmentInfo.stopped, SegmentInfo.withoutFooter, unfooted]

/-- The file ends between two records. -/
theorem Unsealed.nil : Unsealed host [] := .of_stop fun _ => ⟨.ended, rfl⟩

theorem Unsealed.of_footer {bytes : ByteString} (footed : ∀ offset, ∃ footer rest,
      readRecord host offset () bytes = .ok (.footer footer, rest) ∧ footer.complete = false) :
    Unsealed host bytes := by
  refine .of_succ fun size fuel info _ => ?_
  obtain ⟨footer, rest, read, incomplete⟩ := footed (UInt64.ofNat (size - bytes.length))
  rw [readRecords, read]
  simp [SegmentInfo.withFooter, incomplete]

variable {rest : ByteString}

theorem Unsealed.chunk {chunk : ChunkInfo} (formed : ChunkFormed host chunk compressed events)
    (unsealed : Unsealed host rest) : Unsealed host (chunkBytes chunk compressed ++ rest) := by
  refine .of_succ fun size fuel info unfooted => ?_
  rw [readRecords, readRecord_chunk formed]
  exact unsealed size fuel _ unfooted

theorem Unsealed.index (formed : entries.length < 2 ^ 32) (unsealed : Unsealed host rest) :
    Unsealed host (indexBytes entries ++ rest) := by
  refine .of_succ fun size fuel info unfooted => ?_
  rw [readRecords, readRecord_indexBytes formed]
  exact unsealed size fuel _ unfooted

variable {record : SegmentRecord}

theorem SegmentRecord.unsealed (formed : record.Formed host)
    (unsealed : Unsealed host rest) : Unsealed host (record.bytes ++ rest) := by
  cases record with
  | chunk chunk compressed events => exact .chunk formed unsealed
  | index entries => exact .index formed unsealed

theorem readRecord_indexHeader_truncates (offset : UInt64) (count : Nat) :
    Truncates () (readRecord host offset) (indexTag ++ (streamSize count ++ [])) := by
  have different : indexTag ≠ chunkTag := by decide
  refine Truncates.bind (fun _ => .take _ indexTag) (.take _ indexTag) ?_
  rw [if_neg different, if_pos rfl]
  refine pod_truncates ?_
  exact .nil

variable {part : ByteString}

/-- The file ends within an index.  The reader skips what is missing. -/
theorem Unsealed.of_index_start (formed : entries.length < 2 ^ 32)
    (starts : part <+: indexBytes entries) : Unsealed host part := by
  rw [indexBytes_eq, ← List.append_assoc] at starts
  rcases Library.Wire.prefix_append_cases starts with
    ⟨within, cut⟩ | ⟨last, rfl, within⟩
  · rw [← List.append_nil (streamSize entries.length)] at within cut
    exact .of_stop fun offset =>
      readRecord_indexHeader_truncates offset entries.length part within cut
  have skipped : last.drop (entries.length * 32) = [] := by
    rw [List.drop_eq_nil_iff, ← length_indexEntries]
    exact within.length_le
  refine .of_succ fun size fuel info unfooted => ?_
  rw [List.append_assoc, readRecords, readRecord_index, toNat_ofStreamSize formed, skipped]
  exact Unsealed.nil size fuel info unfooted

/-- The file ends within a record. -/
theorem SegmentRecord.unsealed_of_start (formed : record.Formed host)
    (starts : part <+: record.bytes) (cut : part ≠ record.bytes) : Unsealed host part := by
  cases record with
  | chunk chunk compressed events =>
    exact .of_stop fun offset => readRecord_chunk_truncates formed offset part starts cut
  | index entries => exact .of_index_start formed starts

theorem readRecord_footerHeader_truncates (offset : UInt64) (footer : SegmentFooter) :
    Truncates () (readRecord host offset) (footerTag ++ (footerHeaderBytes footer ++ [])) := by
  have notChunk : footerTag ≠ chunkTag := by decide
  have notIndex : footerTag ≠ indexTag := by decide
  refine Truncates.bind (fun _ => .take _ footerTag) (.take _ footerTag) ?_
  rw [if_neg notChunk, if_neg notIndex, if_pos rfl]
  have header : Truncates () readFooter (footerHeaderBytes footer ++ []) :=
    .bind (fun bound => readFooterHeader_decides bound footer)
      (readFooterHeader_truncates footer) .nil
  exact header

/-- The file ends within a footer, or the footer says that the segment is not
complete. -/
theorem Unsealed.of_footer_start {footer : SegmentFooter}
    (reasoned : footer.complete = true → footer.reason = []) (starts : part <+: footerBytes footer)
    (ends : footer.complete = true → part ≠ footerBytes footer) : Unsealed host part := by
  have split : footerBytes footer =
      (footerTag ++ (footerHeaderBytes footer ++ [])) ++ footer.reason := by
    simp [footerBytes]
  rw [split] at starts
  rcases Library.Wire.prefix_append_cases starts with
    ⟨within, cut⟩ | ⟨last, same, within⟩
  · exact .of_stop fun offset => readRecord_footerHeader_truncates offset footer part within cut
  rw [List.append_nil, List.append_assoc] at same
  by_cases short : (UInt32.ofNat footer.reason.length).toNat > last.length
  · refine .of_stop fun offset => ?_
    rw [same, readRecord_footer, if_pos short]
    exact ⟨_, rfl⟩
  cases complete : footer.complete with
  | false =>
    refine .of_footer fun offset => ?_
    rw [same, readRecord_footer, if_neg short]
    exact ⟨_, _, rfl, complete⟩
  | true =>
    have empty := reasoned complete
    rw [empty] at within
    rw [List.prefix_nil.mp within] at same
    refine absurd ?_ (ends complete)
    rw [same, footerBytes_eq, empty]

/-- Bytes that end within the records of a segment or after them, if what comes
after them is taken for no complete segment.  The induction is on the records. -/
theorem unsealed_of_start (formed : ∀ record ∈ records, record.Formed host) {last : ByteString}
    (starts : part <+: recordBytes records ++ last)
    (ends : ∀ other, other <+: last → part = recordBytes records ++ other → Unsealed host other) :
    Unsealed host part := by
  induction records generalizing part with
  | nil => exact ends part starts rfl
  | cons record records ih =>
    have first := formed record List.mem_cons_self
    rw [recordBytes_cons, List.append_assoc] at starts
    rcases Library.Wire.prefix_append_cases starts with
      ⟨within, cut⟩ | ⟨other, rfl, within⟩
    · exact record.unsealed_of_start first within cut
    refine record.unsealed first (ih
      (fun other member => formed other (List.mem_cons_of_mem _ member)) within ?_)
    intro final finalStarts same
    apply ends final finalStarts
    rw [same, recordBytes_cons, List.append_assoc]

/-!
## Segment paths

The segments of a capture have different names, and the reader finds as many of
them as there are.
-/

open Program (ByteString text decimal digitsValue digitsValue_decimal)

/-! ## Names -/

theorem digitsValue_zeros (count : Nat) (digits : ByteString) :
    digitsValue (List.replicate count 0x30 ++ digits) = digitsValue digits := by
  induction count with
  | zero => rfl
  | succ count ih =>
    rw [List.replicate_succ, List.cons_append]
    exact ih

theorem paddedIndex_injective : Function.Injective paddedIndex := by
  intro index other same
  have values := congrArg digitsValue same
  unfold paddedIndex at values
  rwa [digitsValue_zeros, digitsValue_zeros, digitsValue_decimal, digitsValue_decimal] at values

/-- Different segments have different names. -/
theorem segmentPath_injective (base : CapturePath) : Function.Injective (segmentPath base) := by
  intro index other same
  unfold segmentPath at same
  by_cases first : index = 0
  · by_cases second : other = 0
    · rw [first, second]
    rw [if_pos first, if_neg second] at same
    have lengths := congrArg List.length same
    have dot : (text ".").length = 1 := by decide
    simp only [List.length_append, dot] at lengths
    omega
  by_cases second : other = 0
  · rw [if_neg first, if_pos second] at same
    have lengths := congrArg List.length same
    have dot : (text ".").length = 1 := by decide
    simp only [List.length_append, dot] at lengths
    omega
  rw [if_neg first, if_neg second, List.append_cancel_right_eq,
    List.append_cancel_left_eq, List.append_cancel_left_eq] at same
  exact paddedIndex_injective same

/-! ## Discovery -/

variable {files : Files} {base : CapturePath}

theorem discoverFrom_eq {start count fuel : Nat}
    (there : ∀ index, start ≤ index → index < start + count →
      (files (segmentPath base index)).isSome = true)
    (missing : files (segmentPath base (start + count)) = none) (enough : count < fuel) :
    discoverFrom files base fuel start = List.range' start count := by
  induction count generalizing start fuel with
  | zero =>
    obtain ⟨more, rfl⟩ := Nat.exists_eq_add_one.mpr enough
    rw [Nat.add_zero] at missing
    simp [discoverFrom, missing]
  | succ count ih =>
    obtain ⟨more, rfl⟩ := Nat.exists_eq_add_one.mpr (Nat.lt_of_le_of_lt (Nat.zero_le _) enough)
    have first := there start (Nat.le_refl _) (by omega)
    have present : (files (segmentPath base start)).isNone = false := by
      rw [Option.isNone_eq_false_iff]
      exact first
    rw [discoverFrom, present, if_neg Bool.false_ne_true, ih
        (fun index after before => there index (by omega) (by omega))
        (by rwa [Nat.add_assoc, Nat.add_comm 1]) (by omega)]
    rfl

/-- Segments that are there, one after the other, are found, and others are
found after them at most. -/
theorem mem_discoverFrom {start index fuel : Nat} (after : start ≤ index)
    (there : ∀ before, start ≤ before → before ≤ index →
      (files (segmentPath base before)).isSome = true)
    (enough : index < start + fuel) : index ∈ discoverFrom files base fuel start := by
  induction fuel generalizing start with
  | zero => omega
  | succ fuel ih =>
    have first := there start (Nat.le_refl _) after
    have present : (files (segmentPath base start)).isNone = false := by
      rw [Option.isNone_eq_false_iff]
      exact first
    rw [discoverFrom, present, if_neg Bool.false_ne_true, List.mem_cons]
    rcases Nat.eq_or_lt_of_le after with same | later
    · exact Or.inl same.symm
    · exact Or.inr (ih later (fun before after => there before (by omega)) (by omega))

theorem discoverSegments_eq {last : Nat}
    (there : ∀ index ≤ last, (files (segmentPath base index)).isSome = true)
    (missing : files (segmentPath base (last + 1)) = none) (few : last < maximumSegmentIndex) :
    discoverSegments files base = List.range (last + 1) := by
  have later : discoverFrom files base maximumSegmentIndex 1 =
      List.range' 1 last :=
    discoverFrom_eq (fun index _ before => there index (by omega)) (by rwa [Nat.add_comm]) few
  unfold discoverSegments
  rw [there 0 (Nat.zero_le _), if_pos rfl, later, List.range_eq_range', List.range'_succ]
  rfl

theorem mem_discoverSegments {index : Nat}
    (there : ∀ before ≤ index, (files (segmentPath base before)).isSome = true)
    (few : index ≤ maximumSegmentIndex) : index ∈ discoverSegments files base := by
  unfold discoverSegments
  rw [List.mem_append]
  rcases Nat.eq_zero_or_pos index with rfl | positive
  · rw [there 0 (Nat.le_refl _)]
    exact Or.inl (List.mem_singleton_self _)
  · exact Or.inr (mem_discoverFrom positive (fun before _ within => there before within) (by omega))

end Savor.Capture


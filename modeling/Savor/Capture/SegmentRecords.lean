import Mathlib.Data.List.Zip
import Savor.Capture.FieldCoding
import Savor.Capture.CaptureReader

/-!
# The round trip of a chunk

The reader follows the writer through a chunk: what it remembers after an event
is what the writer remembers, up to payloads that no type uses.  It gets through
exactly when every event is within its bounds.
-/

namespace Savor.Capture

open Library.Wire (Decoder Decides)
open Program (ByteString)

/-- The event as it is read back. -/
def Event.carried (event : Event) : Event := { event with fields := event.fields.map Field.carried }

/-- Within the bounds of the reader. -/
def Event.Readable (event : Event) : Prop :=
  event.fields.length ≤ maximumFields ∧ ∀ field ∈ event.fields, field.Readable

/-- The baselines without the payloads that no type uses. -/
def DeltaMap.carried (baselines : DeltaMap) : DeltaMap :=
  fun key => (baselines key).map (List.map Field.carried)

def DeltaCoding.carried (coding : DeltaCoding) : DeltaCoding where
  priorRecordSequence := coding.priorRecordSequence
  baselines := coding.baselines.carried

/-- No baseline has more fields than an event may have. -/
def DeltaMap.Bounded (baselines : DeltaMap) : Prop :=
  ∀ key, ∀ fields ∈ baselines key, fields.length ≤ maximumFields

theorem DeltaMap.bounded_empty : DeltaMap.empty.Bounded := by rintro key fields ⟨⟩

variable {baselines : DeltaMap}

theorem DeltaMap.Bounded.after {event : Event}
    (bounded : baselines.Bounded) (readable : event.Readable) :
    (DeltaCoding.after event baselines).baselines.Bounded := by
  unfold DeltaCoding.after
  dsimp only
  split
  · exact bounded_empty
  intro key fields held
  by_cases same : key = baselineKey event
  · subst same
    rw [DeltaMap.insert, Function.update_self] at held
    cases held
    exact readable.1
  · rw [DeltaMap.insert, Function.update_of_ne same] at held
    exact bounded key fields held

/-- The reader remembers what it read the way the writer remembers what it
wrote. -/
theorem DeltaCoding.carried_after (event : Event) (baselines : DeltaMap) :
    (DeltaCoding.after event baselines).carried = .after event.carried baselines.carried := by
  unfold after carried
  have baselinesSame :
      (if event.kind = .gap then DeltaMap.empty
        else baselines.insert (baselineKey event) event.fields).carried =
      if event.carried.kind = .gap then DeltaMap.empty
        else baselines.carried.insert (baselineKey event.carried) event.carried.fields := by
    have sameKind : event.carried.kind = event.kind := rfl
    have sameKey : baselineKey event.carried = baselineKey event := rfl
    rw [sameKind, sameKey]
    split
    · rfl
    funext key
    unfold DeltaMap.carried DeltaMap.insert
    by_cases same : key = baselineKey event
    · subst same
      rw [Function.update_self, Function.update_self]
      rfl
    · rw [Function.update_of_ne same, Function.update_of_ne same]
  rw [baselinesSame]
  rfl

/-! ## One event -/

/-- The header is read as it was written, and the difference of the record
sequences is undone. -/
theorem readEventHeader_decides (prior : UInt64) (event : Event) :
    Decides () vectorBound (readEventHeader prior)
      (appendEventHeader prior event) True { event with fields := [] } := by
  have written := EventKind.ofCode_code event.kind
  have sequence : prior + (event.recordSequence - prior) =
      event.recordSequence := by
    rw [UInt64.add_comm, UInt64.sub_add_cancel]
  refine .step (readVarint_decides _) ?_
  refine .step (readVarint_decides _) ?_
  refine .step (readVarint_decides _) ?_
  refine .step (readVarint_decides _) ?_
  refine .step (readVarint_decides _) ?_
  refine .step (readVarint_decides _) ?_
  refine .step (readVarint_decides _) ?_
  refine .step (.byte () _) ?_
  refine .step (readPod_decides .u32 _) ?_
  refine .step (readPod_decides .u32 _) ?_
  refine .step (readPod_decides .u32 _) ?_
  refine .step (readPod_decides .u64 _) ?_
  refine .step (readString_decides _) ?_
  rw [written, sequence]
  exact .pure _

theorem readBitmap_decides {bitmap : ByteString} {count : Nat}
    (size : bitmap.length = bitmapSize count) :
    Decides () vectorBound (readBitmap count) (appendString bitmap) True bitmap := by
  intro short
  have fits : bitmap.length < vectorBound := by
    unfold appendString at short
    rw [List.length_append] at short
    omega
  have length := toNat_ofSize fits
  refine Decides.step (readVarint_decides _) ?_ short
  refine .passes (length.trans size) ?_
  rw [length]
  exact .take () bitmap

theorem sameShape_spec {baseline fields : List Field} (same : sameShape baseline fields = true) :
    baseline.length = fields.length ∧
      ∀ pair ∈ fields.zip baseline, pair.2.sameShape pair.1 = true := by
  unfold sameShape at same
  rw [Bool.and_eq_true, beq_iff_eq, List.all_eq_true] at same
  refine ⟨same.1, ?_⟩
  rintro ⟨field, base⟩ member
  have swapped : (base, field) ∈ baseline.zip fields := by
    rw [← List.zip_swap]
    exact List.mem_map_of_mem member
  exact same.2 (base, field) swapped

theorem readKeyframe_decides (baselines : DeltaMap) (key : ByteString) (fields : List Field) :
    Decides () vectorBound (readFields baselines key)
      (List.flatten [[1], appendList appendField fields])
      (fields.length ≤ maximumFields ∧ ∀ field ∈ fields, field.Readable)
      (fields.map Field.carried) := by
  refine .step (readFlag_decides true) ?_
  have list := readList_decides maximumFields appendField_ne_nil readField_decides fields
  exact list.only

theorem readChange_decides {key : ByteString}
    {baseline fields : List Field} (held : baselines key = some baseline)
    (bounded : baseline.length ≤ maximumFields) (same : sameShape baseline fields = true) :
    Decides () vectorBound (readFields baselines.carried key)
      (List.flatten [[0], appendSize fields.length, appendString (changedFields fields baseline),
          appendChangedFields (changedFields fields baseline) fields])
      (∀ field ∈ fields, field.Readable) (fields.map Field.carried) := by
  obtain ⟨length, shapes⟩ := sameShape_spec same
  obtain ⟨size, bits⟩ := changedFields_spec length
  have few : fields.length ≤ maximumFields := by omega
  have fits : fields.length < vectorBound := by
    unfold maximumFields at few
    unfold vectorBound
    omega
  have found : baselines.carried key = some (baseline.map Field.carried) := by
    rw [DeltaMap.carried, held]
    rfl
  have sameLength : (baseline.map Field.carried).length = fields.length := by
    rw [List.length_map, length]
  refine .step (readFlag_decides false) ?_
  refine .step ((readCount_decides maximumFields fits).congr (iff_of_true few True.intro)) ?_
  simp only [Bool.false_eq_true, if_false, found]
  refine .passes sameLength ?_
  rw [sameLength]
  refine .step (readBitmap_decides size) ?_
  have changed := readChangedFields_decides (changedFields fields baseline)
    length shapes 0 (by
      intro index there
      rw [Nat.zero_add]
      exact bits index there)
  exact changed.only

theorem readFields_decides (bounded : baselines.Bounded) (event : Event) :
    Decides () vectorBound (readFields baselines.carried (baselineKey event))
      (appendFields baselines event) event.Readable (event.fields.map Field.carried) := by
  unfold appendFields
  cases delta : deltaBaseline baselines event with
  | none => exact readKeyframe_decides _ _ _
  | some baseline =>
    obtain ⟨held, same⟩ := Option.filter_eq_some_iff.mp delta
    have few := bounded _ baseline held
    obtain ⟨length, -⟩ := sameShape_spec same
    refine (readChange_decides held few same).congr ?_
    unfold Event.Readable
    rw [← length]
    simp [few]

variable {coding : DeltaCoding}

/-- An event is read back, and the reader remembers it as the writer does,
exactly when it is within the bounds. -/
theorem decodeEvent_decides (bounded : coding.baselines.Bounded) (event : Event) :
    Decides () vectorBound (decodeEvent coding.carried) (encodeEvent coding event).1 event.Readable
      (event.carried, (encodeEvent coding event).2.carried) := by
  refine .step (readEventHeader_decides coding.priorRecordSequence event) ?_
  have remembered := DeltaCoding.carried_after event coding.baselines
  have fields := readFields_decides bounded event
  have read := fields.map fun fields =>
    ({ event with fields }, DeltaCoding.after { event with fields } coding.baselines.carried)
  unfold encodeEvent
  rw [remembered]
  exact read

/-! ## All events of a chunk -/

theorem decodeEvents_decides (bounded : coding.baselines.Bounded) (events : List Event) :
    Decides () vectorBound (decodeEvents coding.carried events.length)
      (encodeEvents coding events).1 (∀ event ∈ events, event.Readable)
      ((events.map Event.carried).zip
        ((encodeEvents coding events).2.map DeltaCoding.carried)) := by
  induction events generalizing coding with
  | nil => exact (Decides.pure []).congr (by simp)
  | cons event events ih =>
    have first := decodeEvent_decides bounded event
    refine Decides.congr (.bind first fun readable => .map
      ((event.carried, (encodeEvent coding event).2.carried) :: ·)
      (ih (bounded.after readable))) ?_
    rw [List.forall_mem_cons]

theorem length_encodeEvents (coding : DeltaCoding) (events : List Event) :
    (encodeEvents coding events).2.length = events.length := by
  induction events generalizing coding with
  | nil => rfl
  | cons event events ih => exact congrArg Nat.succ (ih _)

theorem Event.carried_carried (event : Event) : event.carried.carried = event.carried := by
  unfold carried
  simp

theorem DeltaCoding.carried_carried (coding : DeltaCoding) :
    coding.carried.carried = coding.carried := by
  have same : coding.baselines.carried.carried = coding.baselines.carried := by
    funext key
    unfold DeltaMap.carried
    simp [Function.comp_def]
  unfold carried
  rw [same]

/-- The reader consumes the bytes of the chunk exactly.  What it reads are the
events, and what it remembers after each of them is what the writer remembers,
both up to payloads that no type uses. -/
def RoundTrips (events : List Event) : Prop :=
  ∃ decoded,
    decodeEvents {} events.length () (encodeEvents {} events).1 = .ok (decoded, []) ∧
      (decoded.map Prod.fst).map Event.carried = events.map Event.carried ∧
      (decoded.map Prod.snd).map DeltaCoding.carried =
        (encodeEvents {} events).2.map DeltaCoding.carried

/-- A chunk that is read back stays within the bounds. -/
theorem RoundTrips.readable {events : List Event} (tripped : RoundTrips events)
    (fits : (encodeEvents {} events).1.length < vectorBound) :
    ∀ event ∈ events, event.Readable := by
  have decides : Decides () vectorBound (decodeEvents {} events.length)
      (encodeEvents {} events).1 (∀ event ∈ events, event.Readable) _ :=
    decodeEvents_decides DeltaMap.bounded_empty events
  obtain ⟨decoded, read, -, -⟩ := tripped
  exact (decides.reads_iff fits).mp ⟨decoded, [], read⟩

/-- A chunk within the bounds is read back. -/
theorem RoundTrips.of_readable {events : List Event} (readable : ∀ event ∈ events, event.Readable)
    (fits : (encodeEvents {} events).1.length < vectorBound) : RoundTrips events := by
  have decides : Decides () vectorBound (decodeEvents {} events.length)
      (encodeEvents {} events).1 (∀ event ∈ events, event.Readable) _ :=
    decodeEvents_decides DeltaMap.bounded_empty events
  have read := (decides fits []).1 readable
  rw [List.append_nil] at read
  have length := length_encodeEvents {} events
  refine ⟨_, read, ?_, ?_⟩
  · rw [List.map_fst_zip (by simp [length]), List.map_map]
    apply List.map_congr_left
    intro event _
    exact event.carried_carried
  rw [List.map_snd_zip (by simp [length]), List.map_map]
  apply List.map_congr_left
  intro coding _
  exact coding.carried_carried

/-- A chunk is read back exactly when every structured field has its value and
no event exceeds the bounds of the reader. -/
theorem chunk_round_trips (events : List Event)
    (fits : (encodeEvents {} events).1.length < vectorBound) :
    RoundTrips events ↔ ∀ event ∈ events, event.Readable :=
  ⟨fun tripped => tripped.readable fits, fun readable => .of_readable readable fits⟩

/-- Fields of the same shape are sent as changes, and a gap starts over. -/
theorem chunk_round_trips_sample : RoundTrips
      [{ probeId := [112]
         fields := [{ type := .stackTrace, stackTrace := some {} }, {}] },
        { probeId := [112]
          fields := [{ type := .stackTrace, stackTrace := some {} }, {}] },
        { recordSequence := 7, kind := .gap },
        { recordSequence := 300
          fields := [{ type := .text, bytes := [1, 2] }] }] := by
  refine (chunk_round_trips _ (by decide +kernel)).mpr ?_
  simp [Event.Readable, Field.Readable, StackTraceValue.Readable, maximumFields]

/-- A list that could not be sampled is written without bytes, and not read. -/
theorem missing_list_is_not_read : ¬RoundTrips [{ fields := [{ type := .linkedList }] }] := by
  rintro ⟨decoded, read, -, -⟩
  have refused : (decodeEvents {} 1 ()
      (encodeEvents {} [{ fields := [{ type := .linkedList }] }]).1).isOk = false := by
    decide +kernel
  rw [show decodeEvents {} 1 () _ = _ from read] at refused
  cases refused

/-!
## Records are read as they are written

Each record of a segment is read back, and where the file ends within a record
the reader finds no footer.
-/

open Library.Stream (Word)
open Library.Wire (Decoder Decides Truncates)

/-! ## Fields of records -/

section StreamFields

variable {Failure Value : Type}

theorem readStreamPod_decides (bound : Nat) (failure : Failure)
    (word : Word Value) (value : Value) :
    Decides () bound (readStreamPod failure word) (appendPod word value) True value := by
  have taken : Decides () bound (Decoder.take failure _) (word.encode value)
      True (word.encode value) :=
    .take failure (word.encode value)
  rw [word.length_encode] at taken
  have read := taken.map word.decode
  rw [word.decode_encode] at read
  exact read

theorem readStreamPod_truncates (failure : Failure) (word : Word Value) (value : Value) :
    Truncates () (readStreamPod failure word) (appendPod word value) := by
  have read : Truncates ()
      (Decoder.take failure (word.encode value).length >>= fun bytes => pure (word.decode bytes))
      (word.encode value ++ []) :=
    .taken .nil
  rw [List.append_nil, word.length_encode] at read
  exact read

/-- The next field of a record. -/
theorem pod_truncates {Read : Type} {failure : Failure} {word : Word Value}
    {value : Value} {next : Value → Decoder Unit Failure Read}
    {more : ByteString} (rest : Truncates () (next value) more) :
    Truncates () (readStreamPod failure word >>= next) (appendPod word value ++ more) :=
  .bind (fun bound => readStreamPod_decides bound failure word value)
    (readStreamPod_truncates failure word value) rest

end StreamFields

/-- A size of less than 32 bits is not cut. -/
theorem toNat_ofStreamSize {size : Nat} (fits : size < 2 ^ 32) :
    (UInt32.ofNat size).toNat = size := by
  rw [UInt32.toNat_ofNat']
  exact Nat.mod_eq_of_lt fits

/-! ## The header -/

theorem decodeMetadata_decides (metadata : FileMetadata) :
    Decides () vectorBound decodeMetadata (encodeMetadata metadata) True metadata := by
  refine .step (readPod_decides .u64 _) ?_
  refine .step (readString_decides _) ?_
  refine .step (readString_decides _) ?_
  refine .step (readString_decides _) ?_
  refine .step (readString_decides _) ?_
  refine .step (readString_decides _) ?_
  exact .pure _

section Header

variable {metadata : FileMetadata}
variable (fits : (encodeMetadata metadata).length ≤ maximumMetadataSize)
include fits

theorem toNat_metadataSize : (UInt32.ofNat (encodeMetadata metadata).length).toNat =
      (encodeMetadata metadata).length := by
  apply toNat_ofStreamSize
  unfold maximumMetadataSize at fits
  omega

theorem readFileHeader_decides (bound : Nat) :
    Decides () bound readFileHeader (fileHeaderBytes metadata) True metadata := by
  have size := toNat_metadataSize fits
  have decoded : decodeMetadata () (encodeMetadata metadata) =
      .ok (metadata, []) := by
    have short : (encodeMetadata metadata).length < vectorBound := by
      unfold maximumMetadataSize at fits
      unfold vectorBound
      omega
    have read := ((decodeMetadata_decides metadata) short []).1 True.intro
    rwa [List.append_nil] at read
  refine .step (.take _ fileMagic) ?_
  refine .step (readStreamPod_decides bound _ .u32 _) ?_
  refine .step (readStreamPod_decides bound _ .u32 _) ?_
  refine .passes rfl ?_
  refine .passes rfl ?_
  refine .passes (by rwa [size]) ?_
  rw [size]
  refine .step (.take _ (encodeMetadata metadata)) ?_
  rw [decoded]
  exact .pure _

theorem readFileHeader_truncates : Truncates () readFileHeader (fileHeaderBytes metadata) := by
  have size := toNat_metadataSize fits
  refine .taken ?_
  refine pod_truncates ?_
  refine pod_truncates ?_
  refine .passes rfl ?_
  refine .passes rfl ?_
  refine .passes (by rwa [size]) ?_
  rw [size]
  exact .taken .nil

end Header

/-! ## Records -/

/-- A chunk that the reader takes: what its fields say is true, and its sizes are
within the bounds. -/
structure ChunkFormed (host : CaptureHost) (chunk : ChunkInfo)
    (compressed : ByteString) (events : List Event) : Prop where
  checksum : host.checksum compressed = chunk.checksum
  compressedSize : chunk.compressedBytes.toNat = compressed.length
  compressedSmall : compressed.length ≤ maximumCompressedBytes
  uncompressedSize : chunk.uncompressedBytes.toNat = (encodeEvents {} events).1.length
  uncompressedSmall : (encodeEvents {} events).1.length ≤ maximumUncompressedBytes
  count : chunk.eventCount.toNat = events.length
  unpacks : host.decompress (encodeEvents {} events).1.length compressed =
    some (encodeEvents {} events).1
  readable : ∀ event ∈ events, event.Readable

/-- A record that the writer wrote. -/
inductive SegmentRecord
  | chunk (info : ChunkInfo) (compressed : ByteString) (events : List Event)
  | index (entries : List ChunkInfo)

namespace SegmentRecord

def bytes : SegmentRecord → ByteString
  | .chunk info compressed _ => chunkBytes info compressed
  | .index entries => indexBytes entries

def events : SegmentRecord → List Event
  | .chunk _ _ events => events
  | .index _ => []

/-- One for a chunk. -/
def chunks : SegmentRecord → Nat
  | .chunk .. => 1
  | .index _ => 0

def Formed (host : CaptureHost) : SegmentRecord → Prop
  | .chunk info compressed events => ChunkFormed host info compressed events
  | .index entries => entries.length < 2 ^ 32

end SegmentRecord

theorem decodeEach_of_decodeEvents {count : Nat}
    {bytes rest : ByteString} {decoded : List (Event × DeltaCoding)}
    (reads : decodeEvents coding count () bytes = .ok (decoded, rest)) :
    decodeEach coding count bytes = (decoded.map Prod.fst, some rest) := by
  induction count generalizing coding bytes decoded with
  | zero =>
    cases reads
    rfl
  | succ count ih =>
    simp only [decodeEvents, Bind.bind] at reads
    unfold decodeEach
    split at reads
    · cases reads
    rename_i read remaining first
    rw [first]
    split at reads
    · cases reads
    rename_i others last follows
    cases reads
    simp only [ih follows]
    rfl

theorem unpackChunk_eq {host : CaptureHost} {chunk : ChunkInfo}
    {compressed : ByteString} {events : List Event}
    (formed : ChunkFormed host chunk compressed events) : unpackChunk host chunk compressed =
      .ok (.chunk chunk (events.map Event.carried) false) := by
  have short : (encodeEvents {} events).1.length < vectorBound := by
    have small := formed.uncompressedSmall
    unfold maximumUncompressedBytes at small
    unfold vectorBound
    omega
  have decides : Decides () vectorBound (decodeEvents {} events.length)
      (encodeEvents {} events).1 (∀ event ∈ events, event.Readable) _ :=
    decodeEvents_decides DeltaMap.bounded_empty events
  have read := (decides short []).1 formed.readable
  rw [List.append_nil] at read
  have decoded := decodeEach_of_decodeEvents read
  rw [List.map_fst_zip (by simp [length_encodeEvents])] at decoded
  unfold unpackChunk
  rw [if_neg (not_not.mpr formed.checksum), formed.uncompressedSize, formed.unpacks, formed.count]
  simp only [decoded]
  rfl

section Chunks

variable {host : CaptureHost} {chunk : ChunkInfo} {compressed : ByteString}
variable {events : List Event}
variable (formed : ChunkFormed host chunk compressed events)
variable (offset : UInt64)

/-- The offset that the reader notes is its own. -/
def ChunkInfo.at (chunk : ChunkInfo) (offset : UInt64) : ChunkInfo :=
  { chunk with fileOffset := offset }
include formed

theorem ChunkFormed.at : ChunkFormed host (chunk.at offset) compressed events := { formed with }

end Chunks

theorem readChunkHeader_decides (bound : Nat) (chunk : ChunkInfo) (offset : UInt64) :
    Decides () bound (readChunkHeader offset) (chunkHeaderBytes chunk) True (chunk.at offset) := by
  refine .step (readStreamPod_decides bound _ .u64 _) ?_
  refine .step (readStreamPod_decides bound _ .u64 _) ?_
  refine .step (readStreamPod_decides bound _ .u64 _) ?_
  refine .step (readStreamPod_decides bound _ .u32 _) ?_
  refine .step (readStreamPod_decides bound _ .u32 _) ?_
  refine .step (readStreamPod_decides bound _ .u32 _) ?_
  refine .step (readStreamPod_decides bound _ .u64 _) ?_
  exact .pure _

theorem readChunkHeader_truncates (chunk : ChunkInfo) (offset : UInt64) :
    Truncates () (readChunkHeader offset) (chunkHeaderBytes chunk) := by
  refine pod_truncates ?_
  refine pod_truncates ?_
  refine pod_truncates ?_
  refine pod_truncates ?_
  refine pod_truncates ?_
  refine pod_truncates ?_
  refine pod_truncates ?_
  exact .nil

section ReadChunk

variable {host : CaptureHost} {chunk : ChunkInfo} {compressed : ByteString}
variable {events : List Event}
variable (formed : ChunkFormed host chunk compressed events)
variable (offset : UInt64)
include formed

/-- The bounds of the reader hold. -/
theorem ChunkFormed.sizes : (chunk.at offset).compressedBytes.toNat ≤ maximumCompressedBytes ∧
      (chunk.at offset).uncompressedBytes.toNat ≤ maximumUncompressedBytes := by
  have compressedSize := formed.compressedSize
  have uncompressedSize := formed.uncompressedSize
  refine ⟨?_, ?_⟩
  · exact Nat.le_trans (Nat.le_of_eq compressedSize) formed.compressedSmall
  · exact Nat.le_trans (Nat.le_of_eq uncompressedSize) formed.uncompressedSmall

theorem readRecord_chunk_decides (bound : Nat) :
    Decides () bound (readRecord host offset) (chunkBytes chunk compressed) True
      (.chunk (chunk.at offset) (events.map Event.carried) false) := by
  refine .step (.take _ chunkTag) ?_
  rw [if_pos rfl]
  refine .step (readChunkHeader_decides bound chunk offset) ?_
  refine .passes (formed.sizes offset) ?_
  have size : (chunk.at offset).compressedBytes.toNat = compressed.length := formed.compressedSize
  rw [size]
  refine .step (.take _ compressed) ?_
  refine .of_reads fun _ rest => ?_
  rw [unpackChunk_eq (formed.at offset)]
  rfl

theorem readRecord_chunk_truncates :
    Truncates () (readRecord host offset) (chunkBytes chunk compressed) := by
  refine Truncates.bind (fun _ => .take _ chunkTag) (.take _ chunkTag) ?_
  rw [if_pos rfl]
  refine .bind (fun bound => readChunkHeader_decides bound chunk offset)
    (readChunkHeader_truncates chunk offset) ?_
  refine .passes (formed.sizes offset) ?_
  have size : (chunk.at offset).compressedBytes.toNat = compressed.length := formed.compressedSize
  rw [size]
  exact .taken .nil

end ReadChunk

section ReadIndex

variable (host : CaptureHost) (offset : UInt64) (entries : List ChunkInfo)

theorem readRecord_tag {tag rest : ByteString} (four : tag.length = 4) :
    readRecord host offset () (tag ++ rest) =
      (if tag = chunkTag then readChunk host offset
      else if tag = indexTag then readIndex
      else if tag = footerTag then readFooter
      else Decoder.fail (.failed (Program.text "unknown record tag at offset " ++
        Program.decimal offset.toNat))) () rest := by
  have taken : Decoder.take ReadStop.ended 4 () (tag ++ rest) =
      .ok (tag, rest) := by
    simp [Decoder.take, ← four]
  simp only [readRecord, Bind.bind, taken]

/-- An index is read as soon as its count is there, and the rest is skipped as
far as it goes. -/
theorem readRecord_index (part : ByteString) : readRecord host offset ()
        (indexTag ++ (streamSize entries.length ++ part)) =
      .ok (.index, part.drop ((UInt32.ofNat entries.length).toNat * 32)) := by
  have different : indexTag ≠ chunkTag := by decide
  have count := (readStreamPod_decides _
    (ReadStop.failed (Program.text "truncated index header")) .u32
    (UInt32.ofNat entries.length) (Nat.lt_succ_self _) part).1 True.intro
  rw [readRecord_tag host offset rfl, if_neg different, if_pos rfl]
  simp only [readIndex, Bind.bind]
  unfold streamSize
  rw [count]

theorem length_indexEntries : (entries.flatMap indexEntryBytes).length = entries.length * 32 := by
  induction entries with
  | nil => rfl
  | cons entry entries ih =>
    have one : (indexEntryBytes entry).length = 32 := by
      unfold indexEntryBytes appendPod
      simp only [List.length_flatten, List.map_cons, List.map_nil, Word.length_encode]
      rfl
    rw [List.flatMap_cons, List.length_append, one, ih, List.length_cons]
    omega

end ReadIndex

theorem readFooterHeader_decides (bound : Nat) (footer : SegmentFooter) :
    Decides () bound readFooterHeader (footerHeaderBytes footer) True
      ({ footer with reason := [] }, UInt32.ofNat footer.reason.length) := by
  have written : (flag footer.complete != 0) = footer.complete := by cases footer.complete <;> rfl
  refine .step (readStreamPod_decides bound _ .u64 _) ?_
  refine .step (readStreamPod_decides bound _ .u64 _) ?_
  refine .step (readStreamPod_decides bound _ .u64 _) ?_
  refine .step (.byte _ _) ?_
  refine .step (readStreamPod_decides bound _ .u32 _) ?_
  rw [written]
  exact .pure _

theorem readFooterHeader_truncates (footer : SegmentFooter) :
    Truncates () readFooterHeader (footerHeaderBytes footer) := by
  refine pod_truncates ?_
  refine pod_truncates ?_
  refine pod_truncates ?_
  refine .bind (fun _ => .byte _ _) (.byte _ _) ?_
  refine pod_truncates ?_
  exact .nil

theorem readRecord_footer (host : CaptureHost) (offset : UInt64)
    (footer : SegmentFooter) (part : ByteString) : readRecord host offset ()
        (footerTag ++ (footerHeaderBytes footer ++ part)) =
      if (UInt32.ofNat footer.reason.length).toNat > part.length then
        .error (.failed (Program.text "truncated footer reason"))
      else
        .ok (.footer { footer with
            reason := part.take (UInt32.ofNat footer.reason.length).toNat },
          part.drop (UInt32.ofNat footer.reason.length).toNat) := by
  have notChunk : footerTag ≠ chunkTag := by decide
  have notIndex : footerTag ≠ indexTag := by decide
  have header := (readFooterHeader_decides _ footer (Nat.lt_succ_self _) part).1 True.intro
  rw [readRecord_tag host offset rfl, if_neg notChunk, if_neg notIndex, if_pos rfl]
  simp only [readFooter, Bind.bind]
  rw [header]
  simp only [Decoder.take]
  by_cases short : (UInt32.ofNat footer.reason.length).toNat > part.length
  · simp only [if_pos short]
  · simp only [if_neg short]
    rfl

end Savor.Capture


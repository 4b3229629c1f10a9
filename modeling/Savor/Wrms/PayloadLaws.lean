import Savor.Wrms.WrmsProtocol

/-!
# The WRMS codec agrees with itself

Every field is read as it is written, and so is every payload: what is written
within the bounds of the reader is read back, and what is read is written again
byte for byte.
-/

namespace Savor.Wrms

open Library.Stream
open Program (ByteString)
open Writer

/-- What is read of a payload and what is written of it agree. -/
abbrev PayloadAgrees {α : Type} (admitted : α → Prop) (read : PayloadRead α)
    (write : α → PayloadWriter → PayloadWriter) : Prop :=
  Agrees maximumPayloadSize admitted id read write

section Fields

variable {α : Type}

instance (word : Word α) (initial : α) : Coded maximumPayloadSize (PayloadReader.word word initial)
      (PayloadWriter.word word) :=
  ⟨.word _ word _ initial⟩

instance (initial : UInt8) : Coded maximumPayloadSize (PayloadReader.u8 initial) PayloadWriter.u8 :=
  ⟨.word _ .u8 _ initial⟩

instance (initial : UInt32) :
    Coded maximumPayloadSize (PayloadReader.u32 initial) PayloadWriter.u32 :=
  ⟨.word _ .u32 _ initial⟩

instance (initial : UInt64) :
    Coded maximumPayloadSize (PayloadReader.u64 initial) PayloadWriter.u64 :=
  ⟨.word _ .u64 _ initial⟩

instance (initial : Bool) : Coded maximumPayloadSize (PayloadReader.boolean initial)
      PayloadWriter.boolean where
  agrees := by
    refine .step PayloadWriter.toByte Coded.agrees fun encoded => ?_
    refine .guarded ((Refuses.fail _).bind fun _ => .pure initial) ?_ fun small => ?_
    · rintro value ⟨rfl, -⟩
      cases value <;> decide
    have bit : encoded = 0 ∨ encoded = 1 := by
      have := UInt8.not_lt.mp small
      rcases Nat.le_one_iff_eq_zero_or_eq_one.mp (UInt8.le_iff_toNat_le.mp this)
        with zero | one
      · exact .inl (UInt8.toNat_inj.mp zero)
      · exact .inr (UInt8.toNat_inj.mp one)
    rcases bit with rfl | rfl
    · exact .pure ⟨rfl, True.intro⟩
        (fun value passed => by cases value <;> simp_all [PayloadWriter.toByte])
        rfl
    exact .pure ⟨rfl, True.intro⟩
      (fun value passed => by cases value <;> simp_all [PayloadWriter.toByte])
      rfl

instance [Enumeration α] (initial : α) :
    Coded maximumPayloadSize (PayloadReader.code initial) PayloadWriter.code :=
  ⟨.checked (fun value => ¬Enumeration.isKnown value) _ _ (.word _ Enumeration.word _ initial)⟩

/-- A number of values that a count can hold is counted exactly. -/
theorem count_eq_iff {length : Nat} {count : UInt32} (fits : length < 2 ^ 32) :
    UInt32.ofNat length = count ↔ length = count.toNat := by
  constructor
  · rintro rfl
    exact (UInt32.toNat_ofNat_of_lt' fits).symm
  · rintro rfl
    exact UInt32.ofNat_toNat

/-- What an accepted byte string appends. -/
def prefixed (value : ByteString) (writer : PayloadWriter) : PayloadWriter :=
  (PayloadWriter.u32 (UInt32.ofNat value.length) writer).emit value

theorem prefixed_bytes_length (value : ByteString) (writer : PayloadWriter) :
    (prefixed value writer).bytes.length = writer.bytes.length + 4 + value.length := by
  have width := Word.u32.length_encode (UInt32.ofNat value.length)
  simp only [prefixed, PayloadWriter.u32, PayloadWriter.word, emit, List.length_append, width]
  rfl

theorem prefixed_agrees (initial : ByteString) :
    PayloadAgrees (fun value => value.length ≤ maximumPayloadSize)
      (PayloadReader.byteString initial) prefixed := by
  refine .step (fun value => UInt32.ofNat value.length) Coded.agrees fun size => ?_
  refine .guarded ((Refuses.fail _).bind fun _ => .pure initial) ?_ fun small => ?_
  · rintro value ⟨rfl, fits⟩
    rw [UInt32.toNat_ofNat_of_lt' (Nat.lt_of_le_of_lt fits (by decide))]
    exact Nat.not_lt.mpr fits
  refine .last (.bytes _ size.toNat _ initial) (fun value => ?_) fun value length => ?_
  · constructor
    · rintro ⟨counted, fits⟩
      exact (count_eq_iff (Nat.lt_of_le_of_lt fits (by decide))).mp counted
    intro length
    have fits : value.length ≤ maximumPayloadSize := by omega
    exact ⟨(count_eq_iff (Nat.lt_of_le_of_lt fits (by decide))).mpr length, fits⟩
  funext writer
  rw [prefixed, length, UInt32.ofNat_toNat]
  rfl

variable {writer : PayloadWriter}

theorem byteString_of_clean {value : ByteString}
    (clean : (PayloadWriter.byteString value writer).error = none) :
    value.length ≤ maximumPayloadSize ∧
      PayloadWriter.byteString value writer = prefixed value writer := by
  unfold PayloadWriter.byteString at clean ⊢
  split at clean
  · rename_i failed
    rw [clean] at failed
    cases failed
  iterate 2 (split at clean; · cases clean)
  rename_i ok small fits
  rw [if_neg ok, if_neg small, if_neg fits]
  exact ⟨by omega, rfl⟩

theorem byteString_eq_prefixed {value : ByteString} (clean : writer.error = none)
    (fits : writer.bytes.length + 4 + value.length ≤ maximumPayloadSize) :
    PayloadWriter.byteString value writer = prefixed value writer := by
  have bounded : maximumPayloadSize ≤ 2 ^ 32 - 1 := by decide
  unfold PayloadWriter.byteString
  rw [if_neg (by simp [clean]), if_neg (by omega), if_neg (by omega)]
  rfl

theorem byteString_agrees (initial : ByteString) :
    PayloadAgrees Any (PayloadReader.byteString initial) PayloadWriter.byteString := by
  refine .rewrite (prefixed_agrees initial) (fun _ _ => True.intro)
    (fun value writer clean => byteString_of_clean clean) ?_
  intro value writer _ fits _ clean
  rw [prefixed_bytes_length] at fits
  exact byteString_eq_prefixed clean fits

instance (initial : ByteString) : Coded maximumPayloadSize (PayloadReader.string initial)
      PayloadWriter.string :=
  ⟨byteString_agrees initial⟩

instance (initial : ByteString) :
    Coded maximumPayloadSize (PayloadReader.blob initial) PayloadWriter.blob :=
  ⟨byteString_agrees initial⟩

theorem counted_agrees {write : α → PayloadWriter → PayloadWriter}
    {read : PayloadRead α} (maximum : UInt32) (element : PayloadAgrees Any read write) :
    PayloadAgrees (fun values : List α => values.length ≤ maximum.toNat)
      (PayloadReader.counted maximum read)
      (fun values writer => writer
        |>.u32 (UInt32.ofNat values.length)
        |>.each write values) := by
  have counts (values : List α) (fits : values.length ≤ maximum.toNat) :
      values.length < 2 ^ 32 := Nat.lt_of_le_of_lt fits maximum.toNat_lt
  refine .step (fun values => UInt32.ofNat values.length) Coded.agrees fun count => ?_
  refine .guarded ((Refuses.fail _).bind fun _ => .pure []) ?_ fun small => ?_
  · rintro values ⟨rfl, fits⟩ exceeds
    have := UInt32.lt_iff_toNat_lt.mp exceeds
    rw [UInt32.toNat_ofNat_of_lt' (counts values fits)] at this
    omega
  have bounded : count.toNat ≤ maximum.toNat := UInt32.le_iff_toNat_le.mp (UInt32.not_lt.mp small)
  refine .last (.each element count.toNat) (fun values => ?_) fun values length => ?_
  · constructor
    · rintro ⟨counted, fits⟩
      exact (count_eq_iff (counts values fits)).mp counted
    intro length
    have fits : values.length ≤ maximum.toNat := by omega
    exact ⟨(count_eq_iff (counts values fits)).mpr length, fits⟩
  funext writer
  rw [length, UInt32.ofNat_toNat]
  rfl

end Fields

/-! ## The payloads -/

theorem processHello_agrees (payload : ProcessHelloPayload) :
    PayloadAgrees Any (readProcessHello payload) writeProcessHello :=
  .coded (·.workerId) <|
  .coded (·.processId) <|
  .coded (·.encodedRuntimeContract) <|
  .exactly (by rintro ⟨⟩; grind [Any]) rfl

theorem openSession_agrees (payload : OpenSessionPayload) :
    PayloadAgrees Any (readOpenSession payload) writeOpenSession :=
  .coded (·.runtimeRoot) <|
  .coded (·.userDirectory) <|
  .coded (·.isoPath) <|
  .coded (·.workerMode) <|
  .coded (·.renderWindowHandle) <|
  .coded (·.runtimeArtifactRoot) <|
  .coded (·.sessionFilesystemPreparationId) <|
  .coded (·.processGeneration) <|
  .exactly (by rintro ⟨⟩; grind [Any]) rfl

theorem submitWorkset_agrees (maximum : UInt32) (payload : SubmitWorksetPayload) : PayloadAgrees
      (fun value => value.initiallyCancelledItemIds.length ≤ maximum.toNat)
      (readSubmitWorksetUpTo maximum payload) writeSubmitWorkset := by
  have counts (value : SubmitWorksetPayload)
      (fits : value.initiallyCancelledItemIds.length ≤ maximum.toNat) :
      value.initiallyCancelledItemIds.length < 2 ^ 32 :=
    Nat.lt_of_le_of_lt fits maximum.toNat_lt
  refine .coded (·.encodedWorkset) ?_
  refine .coded (·.worksetSha256) ?_
  refine .coded (·.cancellationSidecarVersion) ?_
  refine .step (fun value => UInt32.ofNat value.initiallyCancelledItemIds.length)
    Coded.agrees fun count => ?_
  refine .guarded ((Refuses.fail _).bind fun _ => .pure _) ?_ fun small => ?_
  · rintro value ⟨rfl, -, -, -, fits⟩ exceeds
    have := UInt32.lt_iff_toNat_lt.mp exceeds
    rw [UInt32.toNat_ofNat_of_lt' (counts value fits)] at this
    omega
  have bounded : count.toNat ≤ maximum.toNat := UInt32.le_iff_toNat_le.mp (UInt32.not_lt.mp small)
  refine .bind (·.initiallyCancelledItemIds) (.each Coded.agrees count.toNat)
    ?_ ?_ fun ids length => ?_
  · rintro value ⟨counted, -, -, -, fits⟩
    exact (count_eq_iff (counts value fits)).mp counted
  · intro ids
    exact (byteString_agrees _).sticky.bind fun _ => .pure _
  refine .step (·.cancellationSidecarSha256) Coded.agrees fun _ => ?_
  have countIds : UInt32.ofNat ids.length = count := by rw [length, UInt32.ofNat_toNat]
  refine .pure ⟨rfl, rfl, countIds, rfl, rfl, rfl, length ▸ bounded⟩ ?_ ?_
  · rintro value ⟨rfl, rfl, -, rfl, rfl, rfl, -⟩
    rfl
  funext writer
  have small : ¬ids.length > 2 ^ 32 - 1 := by
    have := count.toNat_lt
    omega
  simp only [writeSubmitWorkset, if_neg small, countIds]
  rfl

theorem submitWorksetResult_fields (payload : SubmitWorksetResultPayload) :
    PayloadAgrees Any (readSubmitWorksetResult.fields payload) writeSubmitWorksetResult.fields :=
  .coded (·.formatVersion) <|
  .coded (·.worksetId) <|
  .coded (·.sidecarVersion) <|
  .coded (·.appliedItemCount) <|
  .coded (·.appliedSidecarSha256) <|
  .coded (·.alreadyAdmitted) <|
  .exactly (by rintro ⟨⟩; grind [Any]) rfl

theorem submitWorksetResult_agrees (payload : SubmitWorksetResultPayload) :
    PayloadAgrees Any (readSubmitWorksetResult payload) writeSubmitWorksetResult :=
  .checked SubmitWorksetResultPayload.Invalid PayloadError.invalidValue
    PayloadError.invalidValue (submitWorksetResult_fields payload)

theorem cancelWorksetItem_agrees (payload : CancelWorksetItemPayload) :
    PayloadAgrees Any (readCancelWorksetItem payload) writeCancelWorksetItem :=
  .coded (·.worksetId) <|
  .coded (·.itemId) <|
  .coded (·.reason) <|
  .exactly (by rintro ⟨⟩; grind [Any]) rfl

theorem cancelWorkset_agrees (payload : CancelWorksetPayload) :
    PayloadAgrees Any (readCancelWorkset payload) writeCancelWorkset :=
  .coded (·.worksetId) <|
  .coded (·.reason) <|
  .exactly (by rintro ⟨⟩; grind [Any]) rfl

theorem acknowledgeTerminal_agrees (payload : AcknowledgeTerminalPayload) :
    PayloadAgrees Any (readAcknowledgeTerminal payload) writeAcknowledgeTerminal :=
  .coded (·.worksetId) <|
  .coded (·.itemId) <|
  .coded (·.itemOrdinal) <|
  .coded (·.invocationId) <|
  .coded (·.attemptId) <|
  .coded (·.terminalId) <|
  .coded (·.terminalOrder) <|
  .exactly (by rintro ⟨⟩; grind [Any]) rfl

theorem cancelInvocation_agrees (payload : CancelInvocationPayload) :
    PayloadAgrees Any (readCancelInvocation payload) writeCancelInvocation :=
  .coded (·.invocationId) <|
  .coded (·.reason) <|
  .exactly (by rintro ⟨⟩; grind [Any]) rfl

theorem shutdown_agrees (payload : ShutdownPayload) :
    PayloadAgrees Any (readShutdown payload) writeShutdown :=
  .coded (·.gracePeriodMs) <|
  .exactly (by rintro ⟨⟩; grind [Any]) rfl

theorem controlExecution_agrees (payload : ControlExecutionPayload) :
    PayloadAgrees Any (readControlExecution payload) writeControlExecution :=
  .coded (·.control) <|
  .coded (·.worksetId) <|
  .coded (·.itemId) <|
  .coded (·.count) <|
  .coded (·.timeoutMs) <|
  .exactly (by rintro ⟨⟩; grind [Any]) rfl

theorem commandResult_agrees (payload : CommandResultPayload) :
    PayloadAgrees Any (readCommandResult payload) writeCommandResult :=
  .coded (·.commandSequence) <|
  .coded (·.commandKind) <|
  .coded (·.status) <|
  .coded (·.rejectionCode) <|
  .coded (·.errorCode) <|
  .coded (·.message) <|
  .coded (·.result) <|
  .exactly (by rintro ⟨⟩; grind [Any]) rfl

theorem openSessionResult_agrees (payload : OpenSessionResultPayload) :
    PayloadAgrees Any (readOpenSessionResult payload) writeOpenSessionResult :=
  .coded (·.success) <|
  .coded (·.sessionId) <|
  .coded (·.worksetEpoch) <|
  .coded (·.workerMode) <|
  .coded (·.workerState) <|
  .coded (·.sessionDisposition) <|
  .coded (·.rejectionCode) <|
  .coded (·.errorCode) <|
  .coded (·.message) <|
  .exactly (by rintro ⟨⟩; grind [Any]) rfl

theorem shutdownResult_agrees (payload : ShutdownResultPayload) :
    PayloadAgrees Any (readShutdownResult payload) writeShutdownResult :=
  .coded (·.status) <|
  .coded (·.finalDisposition) <|
  .coded (·.rejectionCode) <|
  .coded (·.errorCode) <|
  .coded (·.message) <|
  .exactly (by rintro ⟨⟩; grind [Any]) rfl

theorem sessionEvent_agrees (payload : SessionEventPayload) :
    PayloadAgrees Any (readSessionEvent payload) writeSessionEvent :=
  .coded (·.eventType) <|
  .coded (·.sessionId) <|
  .coded (·.worksetEpoch) <|
  .coded (·.workerMode) <|
  .coded (·.workerState) <|
  .coded (·.sessionDisposition) <|
  .coded (·.rejectionCode) <|
  .coded (·.code) <|
  .coded (·.message) <|
  .exactly (by rintro ⟨⟩; grind [Any]) rfl

theorem invocationProgress_agrees (payload : InvocationProgressPayload) :
    PayloadAgrees Any (readInvocationProgress payload) writeInvocationProgress :=
  .coded (·.invocationId) <|
  .coded (·.attemptId) <|
  .coded (·.worksetId) <|
  .coded (·.itemId) <|
  .coded (·.itemOrdinal) <|
  .coded (·.ordinal) <|
  .coded (·.durableJobId) <|
  .coded (·.libraryId) <|
  .coded (·.libraryRevision) <|
  .coded (·.progressPointId) <|
  .coded (·.hasRoutedProvenance) <|
  .coded (·.routedSequence) <|
  .coded (·.sampleSnapshotId) <|
  .coded (·.triggerEpoch) <|
  .coded (·.schemaId) <|
  .coded (·.schemaRevision) <|
  .coded (·.schemaSha256) <|
  .coded (·.typedPayload) <|
  .coded (·.displayText) <|
  .exactly (by rintro ⟨⟩; grind [Any]) rfl

theorem worksetState_agrees (payload : WorksetStatePayload) :
    PayloadAgrees Any (readWorksetState payload) writeWorksetState :=
  .coded (·.outboundSequence) <|
  .coded (·.worksetId) <|
  .coded (·.state) <|
  .coded (·.nextItemOrdinal) <|
  .coded (·.rejectionCode) <|
  .coded (·.message) <|
  .exactly (by rintro ⟨⟩; grind [Any]) rfl

theorem worksetResidenceSnapshotV1_fields (payload : WorksetResidenceSnapshotV1) :
    PayloadAgrees Any (readWorksetResidenceSnapshotV1.fields payload)
      writeWorksetResidenceSnapshotV1.fields :=
  .coded (·.formatVersion) <|
  .coded (·.hasResidentWorkset) <|
  .coded (·.worksetId) <|
  .coded (·.state) <|
  .coded (·.cancellationSidecarSha256) <|
  .exactly (by rintro ⟨⟩; grind [Any]) rfl

theorem worksetResidenceSnapshotV1_agrees (payload : WorksetResidenceSnapshotV1) :
    PayloadAgrees Any (readWorksetResidenceSnapshotV1 payload) writeWorksetResidenceSnapshotV1 :=
  .checked WorksetResidenceSnapshotV1.Invalid PayloadError.invalidValue
    PayloadError.invalidValue (worksetResidenceSnapshotV1_fields payload)

theorem worksetItemStarted_agrees (payload : WorksetItemStartedPayload) :
    PayloadAgrees Any (readWorksetItemStarted payload) writeWorksetItemStarted :=
  .coded (·.outboundSequence) <|
  .coded (·.worksetId) <|
  .coded (·.itemId) <|
  .coded (·.itemOrdinal) <|
  .coded (·.invocationId) <|
  .coded (·.attemptId) <|
  .coded (·.sessionId) <|
  .coded (·.worksetEpoch) <|
  .coded (·.baselineSha256) <|
  .coded (·.baselineLineage) <|
  .coded (·.baselineStateEstablished) <|
  .exactly (by rintro ⟨⟩; grind [Any]) rfl

theorem worksetArtifact_agrees (payload : WorksetArtifactPayload) :
    PayloadAgrees Any (readWorksetArtifact payload) writeWorksetArtifact :=
  .coded (·.artifactId) <|
  .coded (·.schemaId) <|
  .coded (·.schemaVersion) <|
  .coded (·.schemaSha256) <|
  .coded (·.contentSha256) <|
  .coded (·.storageReference) <|
  .coded (·.complete) <|
  .exactly (by rintro ⟨⟩; grind [Any]) rfl

theorem worksetItemTerminal_agrees (maximum : UInt32) (payload : WorksetItemTerminalPayload) :
    PayloadAgrees
      (fun value => value.worksetArtifacts.length ≤ maximum.toNat ∧
        value.diagnostics.length ≤ maximum.toNat) (readWorksetItemTerminalUpTo maximum payload)
      writeWorksetItemTerminal := by
  refine .coded (·.outboundSequence) ?_
  refine .coded (·.worksetId) ?_
  refine .coded (·.itemId) ?_
  refine .coded (·.itemOrdinal) ?_
  refine .coded (·.invocationId) ?_
  refine .coded (·.attemptId) ?_
  refine .coded (·.terminalId) ?_
  refine .coded (·.terminalOrder) ?_
  refine .coded (·.status) ?_
  refine .coded (·.sessionDisposition) ?_
  refine .coded (·.worksetEpoch) ?_
  refine .coded (·.unstarted) ?_
  refine .coded (·.cancellationReason) ?_
  refine .coded (·.rejectionCode) ?_
  refine .coded (·.errorCode) ?_
  refine .coded (·.message) ?_
  refine .coded (·.result) ?_
  refine .bind (·.worksetArtifacts)
    (counted_agrees maximum (worksetArtifact_agrees {})) ?_ ?_
    fun artifacts fewArtifacts => ?_
  · rintro value ⟨-, -, -, -, -, -, -, -, -, -, -, -, -, -, -, -, -, few, -⟩
    exact few
  · intro artifacts
    exact (counted_agrees maximum Coded.agrees).sticky.bind fun _ => .pure _
  refine .bind (·.diagnostics) (counted_agrees maximum Coded.agrees) ?_ ?_
    fun diagnostics fewDiagnostics => ?_
  · rintro value ⟨-, -, -, -, -, -, -, -, -, -, -, -, -, -, -, -, -, -, -, few⟩
    exact few
  · exact fun _ => .pure _
  refine .pure ⟨rfl, rfl, rfl, rfl, rfl, rfl, rfl, rfl, rfl, rfl, rfl, rfl, rfl,
    rfl, rfl, rfl, rfl, rfl, rfl, fewArtifacts, fewDiagnostics⟩ ?_ rfl
  rintro _ ⟨rfl, rfl, rfl, rfl, rfl, rfl, rfl, rfl, rfl, rfl, rfl, rfl, rfl,
    rfl, rfl, rfl, rfl, rfl, rfl, -⟩
  rfl

theorem worksetCredits_agrees (payload : WorksetCreditsPayload) :
    PayloadAgrees Any (readWorksetCredits payload) writeWorksetCredits :=
  .coded (·.outboundSequence) <|
  .coded (·.availableItemCredits) <|
  .coded (·.activeAndStagedItems) <|
  .coded (·.retainedTerminals) <|
  .exactly (by rintro ⟨⟩; grind [Any]) rfl

theorem worksetSummary_agrees (payload : WorksetSummaryPayload) :
    PayloadAgrees Any (readWorksetSummary payload) writeWorksetSummary :=
  .coded (·.outboundSequence) <|
  .coded (·.worksetId) <|
  .coded (·.itemCount) <|
  .coded (·.completedCount) <|
  .coded (·.unstartedCount) <|
  .coded (·.initiallySuppressedCount) <|
  .exactly (by rintro ⟨⟩; grind [Any]) rfl

theorem hostEvent_agrees (payload : HostEventPayload) :
    PayloadAgrees Any (readHostEvent payload) writeHostEvent :=
  .coded (·.sessionId) <|
  .coded (·.worksetEpoch) <|
  .coded (·.sequence) <|
  .coded (·.name) <|
  .coded (·.eventData) <|
  .exactly (by rintro ⟨⟩; grind [Any]) rfl

theorem runtimeDiagnostic_agrees (payload : RuntimeDiagnosticPayload) :
    PayloadAgrees Any (readRuntimeDiagnostic payload) writeRuntimeDiagnostic :=
  .coded (·.rejectionCode) <|
  .coded (·.commandSequence) <|
  .coded (·.invocationId) <|
  .coded (·.message) <|
  .exactly (by rintro ⟨⟩; grind [Any]) rfl

theorem executionResult_agrees (payload : ExecutionResultPayload) :
    PayloadAgrees Any (readExecutionResult payload) writeExecutionResult :=
  .coded (·.commandSequence) <|
  .coded (·.control) <|
  .coded (·.status) <|
  .coded (·.sessionId) <|
  .coded (·.worksetEpoch) <|
  .coded (·.operationId) <|
  .coded (·.hasExecutionState) <|
  .coded (·.activity) <|
  .coded (·.hasTerminalStatus) <|
  .coded (·.terminalStatus) <|
  .coded (·.completedCount) <|
  .coded (·.programCounter) <|
  .coded (·.rejectionCode) <|
  .coded (·.errorCode) <|
  .coded (·.message) <|
  .exactly (by rintro ⟨⟩; grind [Any]) rfl

theorem executionState_agrees (payload : ExecutionStatePayload) :
    PayloadAgrees Any (readExecutionState payload) writeExecutionState :=
  .coded (·.sessionId) <|
  .coded (·.worksetEpoch) <|
  .coded (·.operationId) <|
  .coded (·.activity) <|
  .coded (·.hasActiveControl) <|
  .coded (·.activeControl) <|
  .coded (·.completedCount) <|
  .coded (·.programCounter) <|
  .coded (·.rejectionCode) <|
  .coded (·.code) <|
  .coded (·.message) <|
  .exactly (by rintro ⟨⟩; grind [Any]) rfl

/-!
## Round trips of WRMS payloads

Whatever is written within the bounds of the reader is read back, whatever is
read is written again byte for byte, and a decode that fails leaves its output
alone.  Only the reader bounds the cancelled items of a submission and the
artifacts and diagnostics of a terminal, so longer ones are written and refused.
-/

variable {result : PayloadCodecResult} {value : WorksetItemTerminalPayload}

section Codec

variable {Payload : Type} {admitted admitted' : Payload → Prop}
variable {read read' : PayloadRead Payload}
variable {write : Payload → PayloadWriter → PayloadWriter}
variable {payload value : Payload} {input output : ByteString}
variable {bytes : ByteString}

theorem encodePayloadImpl_eq_iff (succeeds : result.error = none) :
    encodePayloadImpl write payload output = (result, bytes) ↔
      result = {} ∧ write payload {} = ⟨bytes, none⟩ ∧ bytes.length ≤ maximumPayloadSize := by
  unfold encodePayloadImpl PayloadWriter.finish
  cases written : write payload {} with
  | mk buffer error =>
    cases error with
    | some failure =>
      constructor
      · intro same
        cases same
        cases succeeds
      · rintro ⟨-, same, -⟩
        cases same
    | none =>
      by_cases fits : buffer.length > maximumPayloadSize
      · simp only [if_pos fits]
        constructor
        · intro same
          cases same
          cases succeeds
        rintro ⟨-, same, small⟩
        cases same
        omega
      simp only [if_neg fits]
      constructor
      · intro same
        cases same
        exact ⟨rfl, rfl, by omega⟩
      rintro ⟨rfl, same, -⟩
      cases same
      rfl

theorem decodePayloadImpl_written
    (agrees : PayloadAgrees admitted read write) (admits : admitted value)
    (written : write value {} = ⟨bytes, none⟩) (fits : bytes.length ≤ maximumPayloadSize) :
    decodePayloadImpl read bytes payload = (⟨none, bytes.length⟩, value) := by
  obtain ⟨-, -, reads⟩ := agrees.traces value admits {} (by rw [written])
  have reading := reads []
  rw [written, List.append_nil] at reading
  change read ⟨bytes, 0, none⟩ = _ at reading
  have start : PayloadReader.start bytes = ⟨bytes, 0, none⟩ := if_neg (Nat.not_lt.mpr fits)
  simp [decodePayloadImpl, start, reading, PayloadReader.finish]

theorem written_of_decodePayloadImpl (agrees : PayloadAgrees admitted read write)
    (decoded : decodePayloadImpl read input payload = (result, value))
    (succeeds : result.error = none) : admitted value ∧ input.length ≤ maximumPayloadSize ∧
      write value {} = ⟨input, none⟩ := by
  unfold decodePayloadImpl at decoded
  cases reading : read (PayloadReader.start input) with
  | mk candidate reader =>
    simp only [reading, Prod.mk.injEq] at decoded
    obtain ⟨rfl, chosen⟩ := decoded
    rw [if_pos succeeds] at chosen
    subst chosen
    have clean : reader.error = none := by
      cases cause : reader.error with
      | none => rfl
      | some failure => simp [PayloadReader.finish, cause] at succeeds
    have fits : input.length ≤ maximumPayloadSize := by
      by_contra exceeds
      have start : PayloadReader.start input =
          ⟨input, 0, some .payloadTooLarge⟩ := if_pos (Nat.not_le.mp exceeds)
      have failed := agrees.sticky (PayloadReader.start input) (by simp [start])
      rw [reading] at failed
      exact failed clean
    have start : PayloadReader.start input = ⟨[] ++ input, 0, none⟩ := if_neg (Nat.not_lt.mpr fits)
    rw [start] at reading
    obtain ⟨admits, chunk, rest, rfl, rfl, writes⟩ :=
      agrees.restores [] input candidate reader reading clean
    have consumed : rest = [] := by
      by_contra more
      simp [PayloadReader.finish, more] at succeeds
    subst consumed
    rw [List.append_nil] at fits ⊢
    exact ⟨admits, fits, writes {} rfl (by simpa using fits)⟩

theorem decodePayloadImpl_refused {other : Payload} (agrees : PayloadAgrees admitted read write)
    (generous : PayloadAgrees admitted' read' write)
    (included : ∀ value, admitted value → admitted' value)
    (excess : ¬admitted value) (admits : admitted' value) (written : write value {} = ⟨bytes, none⟩)
    (decoded : decodePayloadImpl read bytes payload = (result, other)) : result.error ≠ none := by
  intro succeeds
  obtain ⟨admittedOther, -, writtenOther⟩ := written_of_decodePayloadImpl agrees decoded succeeds
  have same := generous.unique admits (included other admittedOther)
    (by rw [written]) (writtenOther.trans written.symm)
  rw [← same] at admittedOther
  exact excess admittedOther

theorem decodePayloadImpl_failed (decoded : decodePayloadImpl read input payload = (result, value))
    (fails : result.error ≠ none) : value = payload := by
  unfold decodePayloadImpl at decoded
  obtain ⟨rfl, rfl⟩ := Prod.mk.inj decoded
  rw [if_neg fails]

end Codec

/-! ## Bounds of the reader -/

namespace PayloadType

/-- The values that the reader admits: it bounds the cancelled items of a
submission and the artifacts and diagnostics of a terminal. -/
def Within : (type : PayloadType) → type.Payload → Prop
  | .submitWorkset => fun value => value.initiallyCancelledItemIds.length ≤ 1024
  | .worksetItemTerminal => fun value =>
    value.worksetArtifacts.length ≤ 256 ∧ value.diagnostics.length ≤ 256
  | _ => Any

theorem agrees : (type : PayloadType) → PayloadAgrees type.Within (type.read type.fresh) type.write
  | .processHello => processHello_agrees {}
  | .openSession => openSession_agrees {}
  | .submitWorkset => submitWorkset_agrees 1024 {}
  | .submitWorksetResult => submitWorksetResult_agrees {}
  | .cancelWorksetItem => cancelWorksetItem_agrees {}
  | .cancelWorkset => cancelWorkset_agrees {}
  | .acknowledgeTerminal => acknowledgeTerminal_agrees {}
  | .cancelInvocation => cancelInvocation_agrees {}
  | .shutdown => shutdown_agrees {}
  | .controlExecution => controlExecution_agrees {}
  | .commandResult => commandResult_agrees {}
  | .openSessionResult => openSessionResult_agrees {}
  | .shutdownResult => shutdownResult_agrees {}
  | .sessionEvent => sessionEvent_agrees {}
  | .invocationProgress => invocationProgress_agrees {}
  | .worksetState => worksetState_agrees {}
  | .worksetResidenceSnapshotV1 => worksetResidenceSnapshotV1_agrees {}
  | .worksetItemStarted => worksetItemStarted_agrees {}
  | .worksetItemTerminal => worksetItemTerminal_agrees 256 {}
  | .worksetCredits => worksetCredits_agrees {}
  | .worksetSummary => worksetSummary_agrees {}
  | .hostEvent => hostEvent_agrees {}
  | .runtimeDiagnostic => runtimeDiagnostic_agrees {}
  | .executionResult => executionResult_agrees {}
  | .executionState => executionState_agrees {}

end PayloadType

/-! ## Beyond the bounds -/

theorem byteString_grows (value : ByteString) (writer : PayloadWriter)
    (clean : (PayloadWriter.byteString value writer).error = none) : writer.error = none ∧
      writer.bytes.length < (PayloadWriter.byteString value writer).bytes.length
    := by
  obtain ⟨-, same⟩ := byteString_of_clean clean
  rw [same] at clean ⊢
  refine ⟨clean, ?_⟩
  rw [prefixed_bytes_length]
  omega

/-- An artifact takes at least its strings. -/
theorem writeWorksetArtifact_grows (artifact : WorksetArtifactPayload) (writer : PayloadWriter)
    (clean : (writeWorksetArtifact artifact writer).error = none) : writer.error = none ∧
      writer.bytes.length < (writeWorksetArtifact artifact writer).bytes.length
    := by
  obtain ⟨clean, reference⟩ := byteString_grows _ _ clean
  obtain ⟨clean, content⟩ := byteString_grows _ _ clean
  obtain ⟨clean, schema⟩ := byteString_grows _ _ clean
  obtain ⟨clean, schemaId⟩ := byteString_grows _ _ clean
  obtain ⟨clean, artifactId⟩ := byteString_grows _ _ clean
  refine ⟨clean, Nat.lt_trans artifactId (Nat.lt_trans schemaId ?_)⟩
  refine Nat.lt_of_le_of_lt (length_le_emit _ _) (Nat.lt_trans schema (Nat.lt_trans content ?_))
  exact Nat.lt_of_lt_of_le reference (length_le_emit _ _)

variable {bytes : ByteString}

/-- A terminal that was written within the payload size has as many artifacts
and as many diagnostics as a count can hold. -/
theorem worksetItemTerminal_countable (written : writeWorksetItemTerminal value {} = ⟨bytes, none⟩)
    (fits : bytes.length ≤ maximumPayloadSize) : value.worksetArtifacts.length ≤ 2 ^ 32 - 1 ∧
      value.diagnostics.length ≤ 2 ^ 32 - 1 := by
  have bounded : maximumPayloadSize ≤ 2 ^ 32 - 1 := by decide
  have clean : (writeWorksetItemTerminal value {}).error = none := by rw [written]
  have length : (writeWorksetItemTerminal value {}).bytes.length = bytes.length := by rw [written]
  obtain ⟨clean, diagnostics⟩ := add_length_le_each byteString_grows clean
  obtain ⟨clean, artifacts⟩ := add_length_le_each writeWorksetArtifact_grows clean
  have small := Nat.le_trans diagnostics (Nat.le_trans (Nat.le_of_eq length)
    (Nat.le_trans fits bounded))
  constructor
  · refine Nat.le_trans (Nat.le_add_left _ _) (Nat.le_trans artifacts ?_)
    exact Nat.le_trans (length_le_emit _ _) (Nat.le_trans (Nat.le_add_right _ _) small)
  · exact Nat.le_trans (Nat.le_add_left _ _) small

/-- A submission that was written cancels as many items as a count can hold. -/
theorem submitWorkset_countable {value : SubmitWorksetPayload}
    (written : writeSubmitWorkset value {} = ⟨bytes, none⟩) :
    value.initiallyCancelledItemIds.length ≤ 2 ^ 32 - 1 := by
  by_contra exceeds
  have clean : (writeSubmitWorkset value {}).error = none := by rw [written]
  unfold writeSubmitWorkset at clean
  rw [if_pos (Nat.not_le.mp exceeds)] at clean
  exact fail_error_ne_none _ _ clean

/-- A submission that cancels more items than its reader admits is refused. -/
theorem submitWorkset_refused {value old other : SubmitWorksetPayload}
    (written : writeSubmitWorkset value {} = ⟨bytes, none⟩)
    (excess : ¬value.initiallyCancelledItemIds.length ≤ 1024)
    (decoded : decodePayload .submitWorkset bytes old = (result, other)) : result.error ≠ none :=
  decodePayloadImpl_refused (submitWorkset_agrees 1024 {})
    (submitWorkset_agrees 0xFFFFFFFF {})
    (fun _ few => Nat.le_trans few (by decide)) excess
    (submitWorkset_countable written) written decoded

/-- A terminal with more artifacts or more diagnostics than its reader admits is
refused. -/
theorem worksetItemTerminal_refused {old other : WorksetItemTerminalPayload}
    (written : writeWorksetItemTerminal value {} = ⟨bytes, none⟩)
    (fits : bytes.length ≤ maximumPayloadSize) (excess : ¬(value.worksetArtifacts.length ≤ 256 ∧
      value.diagnostics.length ≤ 256))
    (decoded : decodePayload .worksetItemTerminal bytes old = (result, other)) :
    result.error ≠ none := by
  have countable := worksetItemTerminal_countable written fits
  have included (value : WorksetItemTerminalPayload)
      (few : value.worksetArtifacts.length ≤ 256 ∧ value.diagnostics.length ≤ 256) :
      value.worksetArtifacts.length ≤ (0xFFFFFFFF : UInt32).toNat ∧
        value.diagnostics.length ≤ (0xFFFFFFFF : UInt32).toNat :=
    ⟨Nat.le_trans few.1 (by decide), Nat.le_trans few.2 (by decide)⟩
  exact decodePayloadImpl_refused (worksetItemTerminal_agrees 256 {})
    (worksetItemTerminal_agrees 0xFFFFFFFF {}) included excess countable written decoded

theorem decodePayload_refused (type : PayloadType) {value old other : type.Payload}
    (written : type.write value {} = ⟨bytes, none⟩)
    (fits : bytes.length ≤ maximumPayloadSize) (excess : ¬type.Within value)
    (decoded : decodePayload type bytes old = (result, other)) : result.error ≠ none := by
  cases type
  case submitWorkset => exact submitWorkset_refused written excess decoded
  case worksetItemTerminal => exact worksetItemTerminal_refused written fits excess decoded
  all_goals exact absurd True.intro excess

/-! ## The round trip -/

/-- The round trip of a payload.  Encoding without error and decoding the bytes
yields the value exactly where the value is within the bounds of the reader, and
beyond them the bytes are refused; decoded bytes are encoded again as they were;
and a failed decode leaves its output alone. -/
structure RoundTrips (type : PayloadType) : Prop where
  read_back : ∀ value output bytes result,
    encodePayload type value output = (result, bytes) → result.error = none →
    ∀ old, decodePayload type bytes old = (⟨none, bytes.length⟩, value) ↔ type.Within value
  refused : ∀ value output bytes result,
    encodePayload type value output = (result, bytes) → result.error = none →
    ¬type.Within value → ∀ old other result',
      decodePayload type bytes old = (result', other) → result'.error ≠ none
  written_again : ∀ input old value result,
    decodePayload type input old = (result, value) → result.error = none →
    ∀ output, encodePayload type value output = ({}, input)
  unchanged : ∀ input old value result,
    decodePayload type input old = (result, value) → result.error ≠ none → value = old

/-- Every WRMS payload makes the round trip exactly within the bounds that its
reader puts on the lists it carries. -/
theorem payloads_round_trip (type : PayloadType) : RoundTrips type where
  read_back value output bytes result encoded succeeds old := by
    obtain ⟨-, written, fits⟩ := (encodePayloadImpl_eq_iff succeeds).mp encoded
    constructor
    · intro decoded
      exact (written_of_decodePayloadImpl type.agrees decoded rfl).1
    · intro within
      exact decodePayloadImpl_written type.agrees within written fits
  refused value output bytes result encoded succeeds excess _ _ _ decoded := by
    obtain ⟨-, written, fits⟩ := (encodePayloadImpl_eq_iff succeeds).mp encoded
    exact decodePayload_refused type written fits excess decoded
  written_again input old value result decoded succeeds output := by
    obtain ⟨-, fits, written⟩ := written_of_decodePayloadImpl type.agrees decoded succeeds
    exact (encodePayloadImpl_eq_iff rfl).mpr ⟨rfl, written, fits⟩
  unchanged input old value result decoded fails := decodePayloadImpl_failed decoded fails

theorem each_string_written {values : List ByteString} {writer : PayloadWriter}
    (clean : writer.error = none) (fits : writer.bytes.length +
      (values.map fun value => 4 + value.length).sum ≤ maximumPayloadSize) :
    (writer.each PayloadWriter.string values).error = none ∧
      (writer.each PayloadWriter.string values).bytes.length ≤ maximumPayloadSize := by
  induction values generalizing writer with
  | nil => exact ⟨clean, Nat.le_trans (Nat.le_add_right _ _) fits⟩
  | cons value values ih =>
    rw [List.map_cons, List.sum_cons] at fits
    have written : PayloadWriter.string value writer = prefixed value writer :=
      byteString_eq_prefixed clean (by omega)
    have grown := prefixed_bytes_length value writer
    have rest := ih (show (prefixed value writer).error = none from clean) (by omega)
    rw [← written] at rest
    exact rest

/-- A terminal with 257 empty diagnostics. -/
def Sample.terminal : WorksetItemTerminalPayload := { diagnostics := List.replicate 257 [] }

/-- The encoder admits a terminal with 257 diagnostics, and the decoder refuses
what it wrote. -/
theorem terminal_is_refused : ∃ bytes, encodePayload .worksetItemTerminal Sample.terminal [] =
        ({}, bytes) ∧ ∀ old other result,
        decodePayload .worksetItemTerminal bytes old = (result, other) → result.error ≠ none := by
  have written :
      (writeWorksetItemTerminal Sample.terminal {}).error = none ∧
        (writeWorksetItemTerminal Sample.terminal {}).bytes.length ≤ maximumPayloadSize :=
    each_string_written (by decide +kernel) (by decide +kernel)
  have same : writeWorksetItemTerminal Sample.terminal {} =
      ⟨(writeWorksetItemTerminal Sample.terminal {}).bytes, none⟩ :=
    eq_of_clean written.1
  have many : ¬Sample.terminal.diagnostics.length ≤ 256 := by decide +kernel
  refine ⟨(writeWorksetItemTerminal Sample.terminal {}).bytes, ?_,
    fun old other result decoded => ?_⟩
  · exact (encodePayloadImpl_eq_iff rfl).mpr ⟨rfl, same, written.2⟩
  · exact worksetItemTerminal_refused same written.2 (fun few => many few.2) decoded

end Savor.Wrms


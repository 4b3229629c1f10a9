import Savor.Wrms.WrmsPayloads

/-!
# The WRMS payload codec

`EncodePayload` and `DecodePayload` for every payload.  A payload is written
field by field into a buffer and read field by field into a fresh candidate;
the first error is kept, and only a candidate that was read to the last byte of
the input reaches the caller.
-/

namespace Savor.Wrms

open Library.Stream
open Program (ByteString)
open Reader

/-- The payload so far, or the first error. -/
abbrev PayloadWriter : Type := Writer PayloadError

namespace PayloadWriter

variable {α : Type}

def fail (error : PayloadError) (writer : PayloadWriter) : PayloadWriter := Writer.fail error writer

def failIf (condition : Prop) [Decidable condition] (error : PayloadError)
    (writer : PayloadWriter) : PayloadWriter :=
  Writer.failIf condition error writer

def each (write : α → PayloadWriter → PayloadWriter) (values : List α)
    (writer : PayloadWriter) : PayloadWriter :=
  Writer.each write values writer

def word (word : Word α) (value : α) (writer : PayloadWriter) : PayloadWriter :=
  writer.emit (word.encode value)

def u8 (value : UInt8) (writer : PayloadWriter) : PayloadWriter := writer.word .u8 value

def u32 (value : UInt32) (writer : PayloadWriter) : PayloadWriter := writer.word .u32 value

def u64 (value : UInt64) (writer : PayloadWriter) : PayloadWriter := writer.word .u64 value

def toByte (value : Bool) : UInt8 := if value then 1 else 0

def boolean (value : Bool) (writer : PayloadWriter) : PayloadWriter := writer.u8 (toByte value)

/-- A length and as many bytes. -/
def byteString (value : ByteString) (writer : PayloadWriter) : PayloadWriter :=
  if writer.error.isSome then writer
  else if value.length > maximumPayloadSize ∨ value.length > 2 ^ 32 - 1 then
    { writer with error := some .fieldTooLarge }
  else if writer.bytes.length + 4 + value.length > maximumPayloadSize then
    { writer with error := some .payloadTooLarge }
  else (writer.u32 (UInt32.ofNat value.length)).emit value

def string (value : ByteString) (writer : PayloadWriter) : PayloadWriter := writer.byteString value

def blob (value : ByteString) (writer : PayloadWriter) : PayloadWriter := writer.byteString value

/-- An enumeration is checked and written as its underlying word. -/
def code [Enumeration α] (value : α) (writer : PayloadWriter) : PayloadWriter :=
  writer
    |>.failIf (¬Enumeration.isKnown value) (Enumeration.error α)
    |>.word Enumeration.word value

/-- The bytes replace the output unless there was an error. -/
def finish (writer : PayloadWriter) (output : ByteString) : PayloadCodecResult × ByteString :=
  match writer.error with
  | some error => (⟨some error, writer.bytes.length⟩, output)
  | none =>
    if writer.bytes.length > maximumPayloadSize then
      (⟨some .payloadTooLarge, writer.bytes.length⟩, output)
    else ({}, writer.bytes)

end PayloadWriter

/-- What is left to read, or the first error. -/
abbrev PayloadReader : Type := Reader PayloadError

/-- A step of reading.  A field is read into a variable, which keeps its initial
value where the field cannot be read. -/
abbrev PayloadRead (α : Type) : Type := Read PayloadError α

namespace PayloadReader

variable {α : Type}

/-- A reader of the input. -/
def start (input : ByteString) : PayloadReader :=
  if input.length > maximumPayloadSize then
    { input, error := some .payloadTooLarge }
  else { input }

def word (word : Word α) (initial : α) : PayloadRead α :=
  take .truncated word.width word.decode initial

def u8 (initial : UInt8) : PayloadRead UInt8 := word .u8 initial

def u32 (initial : UInt32) : PayloadRead UInt32 := word .u32 initial

def u64 (initial : UInt64) : PayloadRead UInt64 := word .u64 initial

def boolean (initial : Bool) : PayloadRead Bool := do
  let encoded ← u8 (PayloadWriter.toByte initial)
  if encoded > 1 then do
    fail .invalidBoolean
    pure initial
  else pure (encoded ≠ 0)

/-- A length and as many bytes. -/
def byteString (initial : ByteString) : PayloadRead ByteString := do
  let size ← u32 0
  if size.toNat > maximumPayloadSize then do
    fail .fieldTooLarge
    pure initial
  else take .truncated size.toNat id initial

def string (initial : ByteString) : PayloadRead ByteString := byteString initial

def blob (initial : ByteString) : PayloadRead ByteString := byteString initial

/-- An enumeration is read as its underlying word and checked. -/
def code [Enumeration α] (initial : α) : PayloadRead α := do
  let value ← word Enumeration.word initial
  failIf (¬Enumeration.isKnown value) (Enumeration.error α)
  pure value

/-- A count, which is bounded, and as many values. -/
def counted (maximum : UInt32) (read : PayloadRead α) : PayloadRead (List α) := do
  let count ← u32 0
  if count > maximum then do
    fail .fieldTooLarge
    pure []
  else replicate read count.toNat

/-- The whole input must have been read. -/
def finish (reader : PayloadReader) : PayloadCodecResult :=
  match reader.error with
  | some error => ⟨some error, reader.offset⟩
  | none =>
    if reader.offset ≠ reader.input.length then
      ⟨some .trailingBytes, reader.offset⟩
    else ⟨none, reader.offset⟩

end PayloadReader

def encodePayloadImpl {Payload : Type}
    (write : Payload → PayloadWriter → PayloadWriter) (payload : Payload)
    (output : ByteString) : PayloadCodecResult × ByteString :=
  PayloadWriter.finish (write payload {}) output

/-- `DecodePayloadImpl`: the output is assigned only where reading succeeded. -/
def decodePayloadImpl {Payload : Type} (read : PayloadRead Payload)
    (input : ByteString) (output : Payload) : PayloadCodecResult × Payload :=
  let (candidate, reader) := read (PayloadReader.start input)
  let result := PayloadReader.finish reader
  (result, if result.error = none then candidate else output)

/-! ## The payloads

What `EncodePayload` writes and what `DecodePayload` reads, in the order of the
fields. -/

section Payloads

open PayloadReader

def writeProcessHello (payload : ProcessHelloPayload) (writer : PayloadWriter) : PayloadWriter :=
  writer
    |>.u64 payload.workerId
    |>.u32 payload.processId
    |>.blob payload.encodedRuntimeContract

def readProcessHello (payload : ProcessHelloPayload) : PayloadRead ProcessHelloPayload := do
  let workerId ← u64 payload.workerId
  let processId ← u32 payload.processId
  let encodedRuntimeContract ← blob payload.encodedRuntimeContract
  pure { workerId, processId, encodedRuntimeContract }

def writeOpenSession (payload : OpenSessionPayload) (writer : PayloadWriter) : PayloadWriter :=
  writer
    |>.string payload.runtimeRoot
    |>.string payload.userDirectory
    |>.string payload.isoPath
    |>.code payload.workerMode
    |>.u64 payload.renderWindowHandle
    |>.string payload.runtimeArtifactRoot
    |>.string payload.sessionFilesystemPreparationId
    |>.u64 payload.processGeneration

def readOpenSession (payload : OpenSessionPayload) : PayloadRead OpenSessionPayload := do
  let runtimeRoot ← string payload.runtimeRoot
  let userDirectory ← string payload.userDirectory
  let isoPath ← string payload.isoPath
  let workerMode ← code payload.workerMode
  let renderWindowHandle ← u64 payload.renderWindowHandle
  let runtimeArtifactRoot ← string payload.runtimeArtifactRoot
  let sessionFilesystemPreparationId ← string payload.sessionFilesystemPreparationId
  let processGeneration ← u64 payload.processGeneration
  pure { runtimeRoot, userDirectory, isoPath, workerMode, renderWindowHandle,
         runtimeArtifactRoot, sessionFilesystemPreparationId,
         processGeneration }

def writeSubmitWorkset (payload : SubmitWorksetPayload) (writer : PayloadWriter) : PayloadWriter :=
  let start := writer
    |>.blob payload.encodedWorkset
    |>.string payload.worksetSha256
    |>.u32 payload.cancellationSidecarVersion
  if payload.initiallyCancelledItemIds.length > 2 ^ 32 - 1 then
    start.fail .fieldTooLarge
  else
    start
      |>.u32 (UInt32.ofNat payload.initiallyCancelledItemIds.length)
      |>.each PayloadWriter.u64 payload.initiallyCancelledItemIds
      |>.string payload.cancellationSidecarSha256

/-- Reading a submission that cancels no more items than a maximum. -/
def readSubmitWorksetUpTo (maximum : UInt32) (payload : SubmitWorksetPayload) :
    PayloadRead SubmitWorksetPayload := do
  let encodedWorkset ← blob payload.encodedWorkset
  let worksetSha256 ← string payload.worksetSha256
  let cancellationSidecarVersion ← u32 payload.cancellationSidecarVersion
  let count ← u32 0
  if count > maximum then do
    fail .fieldTooLarge
    pure { payload with
      encodedWorkset, worksetSha256, cancellationSidecarVersion }
  else do
    let initiallyCancelledItemIds ← replicate (u64 0) count.toNat
    let cancellationSidecarSha256 ← string payload.cancellationSidecarSha256
    pure { encodedWorkset, worksetSha256, cancellationSidecarVersion,
           initiallyCancelledItemIds, cancellationSidecarSha256 }

def readSubmitWorkset : SubmitWorksetPayload → PayloadRead SubmitWorksetPayload :=
  readSubmitWorksetUpTo 1024

/-- What both sides check of the result of a submission. -/
def SubmitWorksetResultPayload.Invalid (payload : SubmitWorksetResultPayload) : Prop :=
  payload.formatVersion ≠ 1 ∨ payload.worksetId = 0 ∨
    payload.sidecarVersion ≠ 1 ∨ payload.appliedSidecarSha256.length ≠ 64

instance : DecidablePred SubmitWorksetResultPayload.Invalid := fun _ =>
  inferInstanceAs (Decidable (_ ∨ _ ∨ _ ∨ _))

def writeSubmitWorksetResult (payload : SubmitWorksetResultPayload)
    (writer : PayloadWriter) : PayloadWriter :=
  fields (writer.failIf payload.Invalid .invalidValue)
where
  fields (writer : PayloadWriter) : PayloadWriter :=
    writer
      |>.u32 payload.formatVersion
      |>.u64 payload.worksetId
      |>.u32 payload.sidecarVersion
      |>.u32 payload.appliedItemCount
      |>.string payload.appliedSidecarSha256
      |>.boolean payload.alreadyAdmitted

def readSubmitWorksetResult (payload : SubmitWorksetResultPayload) :
    PayloadRead SubmitWorksetResultPayload := do
  let payload ← fields
  failIf payload.Invalid .invalidValue
  pure payload
where
  fields : PayloadRead SubmitWorksetResultPayload := do
    let formatVersion ← u32 payload.formatVersion
    let worksetId ← u64 payload.worksetId
    let sidecarVersion ← u32 payload.sidecarVersion
    let appliedItemCount ← u32 payload.appliedItemCount
    let appliedSidecarSha256 ← string payload.appliedSidecarSha256
    let alreadyAdmitted ← boolean payload.alreadyAdmitted
    pure { formatVersion, worksetId, sidecarVersion, appliedItemCount,
           appliedSidecarSha256, alreadyAdmitted }

def writeCancelWorksetItem (payload : CancelWorksetItemPayload)
    (writer : PayloadWriter) : PayloadWriter :=
  writer
    |>.u64 payload.worksetId
    |>.u64 payload.itemId
    |>.string payload.reason

def readCancelWorksetItem (payload : CancelWorksetItemPayload) :
    PayloadRead CancelWorksetItemPayload := do
  let worksetId ← u64 payload.worksetId
  let itemId ← u64 payload.itemId
  let reason ← string payload.reason
  pure { worksetId, itemId, reason }

def writeCancelWorkset (payload : CancelWorksetPayload) (writer : PayloadWriter) : PayloadWriter :=
  writer
    |>.u64 payload.worksetId
    |>.string payload.reason

def readCancelWorkset (payload : CancelWorksetPayload) : PayloadRead CancelWorksetPayload := do
  let worksetId ← u64 payload.worksetId
  let reason ← string payload.reason
  pure { worksetId, reason }

def writeAcknowledgeTerminal (payload : AcknowledgeTerminalPayload)
    (writer : PayloadWriter) : PayloadWriter :=
  writer
    |>.u64 payload.worksetId
    |>.u64 payload.itemId
    |>.u32 payload.itemOrdinal
    |>.u64 payload.invocationId
    |>.u64 payload.attemptId
    |>.u64 payload.terminalId
    |>.u64 payload.terminalOrder

def readAcknowledgeTerminal (payload : AcknowledgeTerminalPayload) :
    PayloadRead AcknowledgeTerminalPayload := do
  let worksetId ← u64 payload.worksetId
  let itemId ← u64 payload.itemId
  let itemOrdinal ← u32 payload.itemOrdinal
  let invocationId ← u64 payload.invocationId
  let attemptId ← u64 payload.attemptId
  let terminalId ← u64 payload.terminalId
  let terminalOrder ← u64 payload.terminalOrder
  pure { worksetId, itemId, itemOrdinal, invocationId, attemptId, terminalId, terminalOrder }

def writeCancelInvocation (payload : CancelInvocationPayload)
    (writer : PayloadWriter) : PayloadWriter :=
  writer
    |>.u64 payload.invocationId
    |>.string payload.reason

def readCancelInvocation (payload : CancelInvocationPayload) :
    PayloadRead CancelInvocationPayload := do
  let invocationId ← u64 payload.invocationId
  let reason ← string payload.reason
  pure { invocationId, reason }

def writeShutdown (payload : ShutdownPayload) (writer : PayloadWriter) : PayloadWriter :=
  writer
    |>.u32 payload.gracePeriodMs

def readShutdown (payload : ShutdownPayload) : PayloadRead ShutdownPayload := do
  let gracePeriodMs ← u32 payload.gracePeriodMs
  pure { gracePeriodMs }

def writeControlExecution (payload : ControlExecutionPayload)
    (writer : PayloadWriter) : PayloadWriter :=
  writer
    |>.code payload.control
    |>.u64 payload.worksetId
    |>.u64 payload.itemId
    |>.u32 payload.count
    |>.u32 payload.timeoutMs

def readControlExecution (payload : ControlExecutionPayload) :
    PayloadRead ControlExecutionPayload := do
  let control ← code payload.control
  let worksetId ← u64 payload.worksetId
  let itemId ← u64 payload.itemId
  let count ← u32 payload.count
  let timeoutMs ← u32 payload.timeoutMs
  pure { control, worksetId, itemId, count, timeoutMs }

def writeCommandResult (payload : CommandResultPayload) (writer : PayloadWriter) : PayloadWriter :=
  writer
    |>.u64 payload.commandSequence
    |>.code payload.commandKind
    |>.code payload.status
    |>.code payload.rejectionCode
    |>.string payload.errorCode
    |>.string payload.message
    |>.blob payload.result

def readCommandResult (payload : CommandResultPayload) : PayloadRead CommandResultPayload := do
  let commandSequence ← u64 payload.commandSequence
  let commandKind ← code payload.commandKind
  let status ← code payload.status
  let rejectionCode ← code payload.rejectionCode
  let errorCode ← string payload.errorCode
  let message ← string payload.message
  let result ← blob payload.result
  pure { commandSequence, commandKind, status, rejectionCode, errorCode, message, result }

def writeOpenSessionResult (payload : OpenSessionResultPayload)
    (writer : PayloadWriter) : PayloadWriter :=
  writer
    |>.boolean payload.success
    |>.u64 payload.sessionId
    |>.u64 payload.worksetEpoch
    |>.code payload.workerMode
    |>.code payload.workerState
    |>.code payload.sessionDisposition
    |>.code payload.rejectionCode
    |>.string payload.errorCode
    |>.string payload.message

def readOpenSessionResult (payload : OpenSessionResultPayload) :
    PayloadRead OpenSessionResultPayload := do
  let success ← boolean payload.success
  let sessionId ← u64 payload.sessionId
  let worksetEpoch ← u64 payload.worksetEpoch
  let workerMode ← code payload.workerMode
  let workerState ← code payload.workerState
  let sessionDisposition ← code payload.sessionDisposition
  let rejectionCode ← code payload.rejectionCode
  let errorCode ← string payload.errorCode
  let message ← string payload.message
  pure { success, sessionId, worksetEpoch, workerMode, workerState,
         sessionDisposition, rejectionCode, errorCode, message }

def writeShutdownResult (payload : ShutdownResultPayload)
    (writer : PayloadWriter) : PayloadWriter :=
  writer
    |>.code payload.status
    |>.code payload.finalDisposition
    |>.code payload.rejectionCode
    |>.string payload.errorCode
    |>.string payload.message

def readShutdownResult (payload : ShutdownResultPayload) : PayloadRead ShutdownResultPayload := do
  let status ← code payload.status
  let finalDisposition ← code payload.finalDisposition
  let rejectionCode ← code payload.rejectionCode
  let errorCode ← string payload.errorCode
  let message ← string payload.message
  pure { status, finalDisposition, rejectionCode, errorCode, message }

def writeSessionEvent (payload : SessionEventPayload) (writer : PayloadWriter) : PayloadWriter :=
  writer
    |>.code payload.eventType
    |>.u64 payload.sessionId
    |>.u64 payload.worksetEpoch
    |>.code payload.workerMode
    |>.code payload.workerState
    |>.code payload.sessionDisposition
    |>.code payload.rejectionCode
    |>.string payload.code
    |>.string payload.message

def readSessionEvent (payload : SessionEventPayload) : PayloadRead SessionEventPayload := do
  let eventType ← code payload.eventType
  let sessionId ← u64 payload.sessionId
  let worksetEpoch ← u64 payload.worksetEpoch
  let workerMode ← code payload.workerMode
  let workerState ← code payload.workerState
  let sessionDisposition ← code payload.sessionDisposition
  let rejectionCode ← code payload.rejectionCode
  let code ← string payload.code
  let message ← string payload.message
  pure { eventType, sessionId, worksetEpoch, workerMode, workerState,
         sessionDisposition, rejectionCode, code, message }

def writeInvocationProgress (payload : InvocationProgressPayload)
    (writer : PayloadWriter) : PayloadWriter :=
  writer
    |>.u64 payload.invocationId
    |>.u64 payload.attemptId
    |>.u64 payload.worksetId
    |>.u64 payload.itemId
    |>.u32 payload.itemOrdinal
    |>.u64 payload.ordinal
    |>.string payload.durableJobId
    |>.string payload.libraryId
    |>.u32 payload.libraryRevision
    |>.string payload.progressPointId
    |>.boolean payload.hasRoutedProvenance
    |>.u64 payload.routedSequence
    |>.u64 payload.sampleSnapshotId
    |>.u64 payload.triggerEpoch
    |>.string payload.schemaId
    |>.u32 payload.schemaRevision
    |>.string payload.schemaSha256
    |>.blob payload.typedPayload
    |>.string payload.displayText

def readInvocationProgress (payload : InvocationProgressPayload) :
    PayloadRead InvocationProgressPayload := do
  let invocationId ← u64 payload.invocationId
  let attemptId ← u64 payload.attemptId
  let worksetId ← u64 payload.worksetId
  let itemId ← u64 payload.itemId
  let itemOrdinal ← u32 payload.itemOrdinal
  let ordinal ← u64 payload.ordinal
  let durableJobId ← string payload.durableJobId
  let libraryId ← string payload.libraryId
  let libraryRevision ← u32 payload.libraryRevision
  let progressPointId ← string payload.progressPointId
  let hasRoutedProvenance ← boolean payload.hasRoutedProvenance
  let routedSequence ← u64 payload.routedSequence
  let sampleSnapshotId ← u64 payload.sampleSnapshotId
  let triggerEpoch ← u64 payload.triggerEpoch
  let schemaId ← string payload.schemaId
  let schemaRevision ← u32 payload.schemaRevision
  let schemaSha256 ← string payload.schemaSha256
  let typedPayload ← blob payload.typedPayload
  let displayText ← string payload.displayText
  pure { invocationId, attemptId, worksetId, itemId, itemOrdinal, ordinal,
         durableJobId, libraryId, libraryRevision, progressPointId,
         hasRoutedProvenance, routedSequence, sampleSnapshotId, triggerEpoch,
         schemaId, schemaRevision, schemaSha256, typedPayload, displayText }

def writeWorksetState (payload : WorksetStatePayload) (writer : PayloadWriter) : PayloadWriter :=
  writer
    |>.u64 payload.outboundSequence
    |>.u64 payload.worksetId
    |>.code payload.state
    |>.u32 payload.nextItemOrdinal
    |>.code payload.rejectionCode
    |>.string payload.message

def readWorksetState (payload : WorksetStatePayload) : PayloadRead WorksetStatePayload := do
  let outboundSequence ← u64 payload.outboundSequence
  let worksetId ← u64 payload.worksetId
  let state ← code payload.state
  let nextItemOrdinal ← u32 payload.nextItemOrdinal
  let rejectionCode ← code payload.rejectionCode
  let message ← string payload.message
  pure { outboundSequence, worksetId, state, nextItemOrdinal, rejectionCode, message }

/-- What both sides check of a snapshot: there is a digest exactly where a
workset is resident. -/
def WorksetResidenceSnapshotV1.Invalid (payload : WorksetResidenceSnapshotV1) : Prop :=
  payload.formatVersion ≠ 1 ∨ payload.hasResidentWorkset ≠ decide (payload.worksetId ≠ 0) ∨
    ¬payload.state.isKnown ∨
    (payload.hasResidentWorkset ∧ payload.cancellationSidecarSha256.length ≠ 64) ∨
    (¬payload.hasResidentWorkset ∧ payload.cancellationSidecarSha256 ≠ [])

instance : DecidablePred WorksetResidenceSnapshotV1.Invalid := fun _ =>
  inferInstanceAs (Decidable (_ ∨ _ ∨ _ ∨ _ ∧ _ ∨ _ ∧ _))

def writeWorksetResidenceSnapshotV1 (payload : WorksetResidenceSnapshotV1)
    (writer : PayloadWriter) : PayloadWriter :=
  fields (writer.failIf payload.Invalid .invalidValue)
where
  fields (writer : PayloadWriter) : PayloadWriter :=
    writer
      |>.u32 payload.formatVersion
      |>.boolean payload.hasResidentWorkset
      |>.u64 payload.worksetId
      |>.word Enumeration.word payload.state
      |>.string payload.cancellationSidecarSha256

def readWorksetResidenceSnapshotV1 (payload : WorksetResidenceSnapshotV1) :
    PayloadRead WorksetResidenceSnapshotV1 := do
  let payload ← fields
  failIf payload.Invalid .invalidValue
  pure payload
where
  fields : PayloadRead WorksetResidenceSnapshotV1 := do
    let formatVersion ← u32 payload.formatVersion
    let hasResidentWorkset ← boolean payload.hasResidentWorkset
    let worksetId ← u64 payload.worksetId
    let state ← word Enumeration.word payload.state
    let cancellationSidecarSha256 ← string payload.cancellationSidecarSha256
    pure { formatVersion, hasResidentWorkset, worksetId, state, cancellationSidecarSha256 }

def writeWorksetItemStarted (payload : WorksetItemStartedPayload)
    (writer : PayloadWriter) : PayloadWriter :=
  writer
    |>.u64 payload.outboundSequence
    |>.u64 payload.worksetId
    |>.u64 payload.itemId
    |>.u32 payload.itemOrdinal
    |>.u64 payload.invocationId
    |>.u64 payload.attemptId
    |>.u64 payload.sessionId
    |>.u64 payload.worksetEpoch
    |>.string payload.baselineSha256
    |>.string payload.baselineLineage
    |>.boolean payload.baselineStateEstablished

def readWorksetItemStarted (payload : WorksetItemStartedPayload) :
    PayloadRead WorksetItemStartedPayload := do
  let outboundSequence ← u64 payload.outboundSequence
  let worksetId ← u64 payload.worksetId
  let itemId ← u64 payload.itemId
  let itemOrdinal ← u32 payload.itemOrdinal
  let invocationId ← u64 payload.invocationId
  let attemptId ← u64 payload.attemptId
  let sessionId ← u64 payload.sessionId
  let worksetEpoch ← u64 payload.worksetEpoch
  let baselineSha256 ← string payload.baselineSha256
  let baselineLineage ← string payload.baselineLineage
  let baselineStateEstablished ← boolean payload.baselineStateEstablished
  pure { outboundSequence, worksetId, itemId, itemOrdinal, invocationId,
         attemptId, sessionId, worksetEpoch, baselineSha256, baselineLineage,
         baselineStateEstablished }

def writeWorksetArtifact (payload : WorksetArtifactPayload)
    (writer : PayloadWriter) : PayloadWriter :=
  writer
    |>.string payload.artifactId
    |>.string payload.schemaId
    |>.u32 payload.schemaVersion
    |>.string payload.schemaSha256
    |>.string payload.contentSha256
    |>.string payload.storageReference
    |>.boolean payload.complete

def readWorksetArtifact (payload : WorksetArtifactPayload) :
    PayloadRead WorksetArtifactPayload := do
  let artifactId ← string payload.artifactId
  let schemaId ← string payload.schemaId
  let schemaVersion ← u32 payload.schemaVersion
  let schemaSha256 ← string payload.schemaSha256
  let contentSha256 ← string payload.contentSha256
  let storageReference ← string payload.storageReference
  let complete ← boolean payload.complete
  pure { artifactId, schemaId, schemaVersion, schemaSha256, contentSha256,
         storageReference, complete }

def writeWorksetItemTerminal (payload : WorksetItemTerminalPayload)
    (writer : PayloadWriter) : PayloadWriter :=
  writer
    |>.u64 payload.outboundSequence
    |>.u64 payload.worksetId
    |>.u64 payload.itemId
    |>.u32 payload.itemOrdinal
    |>.u64 payload.invocationId
    |>.u64 payload.attemptId
    |>.u64 payload.terminalId
    |>.u64 payload.terminalOrder
    |>.code payload.status
    |>.code payload.sessionDisposition
    |>.u64 payload.worksetEpoch
    |>.boolean payload.unstarted
    |>.u8 payload.cancellationReason
    |>.code payload.rejectionCode
    |>.string payload.errorCode
    |>.string payload.message
    |>.blob payload.result
    |>.u32 (UInt32.ofNat payload.worksetArtifacts.length)
    |>.each writeWorksetArtifact payload.worksetArtifacts
    |>.u32 (UInt32.ofNat payload.diagnostics.length)
    |>.each PayloadWriter.string payload.diagnostics

/-- Reading a terminal with no more artifacts and no more diagnostics than a
maximum. -/
def readWorksetItemTerminalUpTo (maximum : UInt32) (payload : WorksetItemTerminalPayload) :
    PayloadRead WorksetItemTerminalPayload := do
  let outboundSequence ← u64 payload.outboundSequence
  let worksetId ← u64 payload.worksetId
  let itemId ← u64 payload.itemId
  let itemOrdinal ← u32 payload.itemOrdinal
  let invocationId ← u64 payload.invocationId
  let attemptId ← u64 payload.attemptId
  let terminalId ← u64 payload.terminalId
  let terminalOrder ← u64 payload.terminalOrder
  let status ← code payload.status
  let sessionDisposition ← code payload.sessionDisposition
  let worksetEpoch ← u64 payload.worksetEpoch
  let unstarted ← boolean payload.unstarted
  let cancellationReason ← u8 payload.cancellationReason
  let rejectionCode ← code payload.rejectionCode
  let errorCode ← string payload.errorCode
  let message ← string payload.message
  let result ← blob payload.result
  let worksetArtifacts ← counted maximum (readWorksetArtifact {})
  let diagnostics ← counted maximum (string [])
  pure { outboundSequence, worksetId, itemId, itemOrdinal, invocationId,
         attemptId, terminalId, terminalOrder, status, sessionDisposition,
         worksetEpoch, unstarted, cancellationReason, rejectionCode, errorCode,
         message, result, worksetArtifacts, diagnostics }

def readWorksetItemTerminal : WorksetItemTerminalPayload → PayloadRead WorksetItemTerminalPayload :=
  readWorksetItemTerminalUpTo 256

def writeWorksetCredits (payload : WorksetCreditsPayload)
    (writer : PayloadWriter) : PayloadWriter :=
  writer
    |>.u64 payload.outboundSequence
    |>.u32 payload.availableItemCredits
    |>.u32 payload.activeAndStagedItems
    |>.u32 payload.retainedTerminals

def readWorksetCredits (payload : WorksetCreditsPayload) : PayloadRead WorksetCreditsPayload := do
  let outboundSequence ← u64 payload.outboundSequence
  let availableItemCredits ← u32 payload.availableItemCredits
  let activeAndStagedItems ← u32 payload.activeAndStagedItems
  let retainedTerminals ← u32 payload.retainedTerminals
  pure { outboundSequence, availableItemCredits, activeAndStagedItems, retainedTerminals }

def writeWorksetSummary (payload : WorksetSummaryPayload)
    (writer : PayloadWriter) : PayloadWriter :=
  writer
    |>.u64 payload.outboundSequence
    |>.u64 payload.worksetId
    |>.u32 payload.itemCount
    |>.u32 payload.completedCount
    |>.u32 payload.unstartedCount
    |>.u32 payload.initiallySuppressedCount

def readWorksetSummary (payload : WorksetSummaryPayload) : PayloadRead WorksetSummaryPayload := do
  let outboundSequence ← u64 payload.outboundSequence
  let worksetId ← u64 payload.worksetId
  let itemCount ← u32 payload.itemCount
  let completedCount ← u32 payload.completedCount
  let unstartedCount ← u32 payload.unstartedCount
  let initiallySuppressedCount ← u32 payload.initiallySuppressedCount
  pure { outboundSequence, worksetId, itemCount, completedCount, unstartedCount,
         initiallySuppressedCount }

def writeHostEvent (payload : HostEventPayload) (writer : PayloadWriter) : PayloadWriter :=
  writer
    |>.u64 payload.sessionId
    |>.u64 payload.worksetEpoch
    |>.u64 payload.sequence
    |>.string payload.name
    |>.blob payload.eventData

def readHostEvent (payload : HostEventPayload) : PayloadRead HostEventPayload := do
  let sessionId ← u64 payload.sessionId
  let worksetEpoch ← u64 payload.worksetEpoch
  let sequence ← u64 payload.sequence
  let name ← string payload.name
  let eventData ← blob payload.eventData
  pure { sessionId, worksetEpoch, sequence, name, eventData }

def writeRuntimeDiagnostic (payload : RuntimeDiagnosticPayload)
    (writer : PayloadWriter) : PayloadWriter :=
  writer
    |>.code payload.rejectionCode
    |>.u64 payload.commandSequence
    |>.u64 payload.invocationId
    |>.string payload.message

def readRuntimeDiagnostic (payload : RuntimeDiagnosticPayload) :
    PayloadRead RuntimeDiagnosticPayload := do
  let rejectionCode ← code payload.rejectionCode
  let commandSequence ← u64 payload.commandSequence
  let invocationId ← u64 payload.invocationId
  let message ← string payload.message
  pure { rejectionCode, commandSequence, invocationId, message }

def writeExecutionResult (payload : ExecutionResultPayload)
    (writer : PayloadWriter) : PayloadWriter :=
  writer
    |>.u64 payload.commandSequence
    |>.code payload.control
    |>.code payload.status
    |>.u64 payload.sessionId
    |>.u64 payload.worksetEpoch
    |>.u64 payload.operationId
    |>.boolean payload.hasExecutionState
    |>.code payload.activity
    |>.boolean payload.hasTerminalStatus
    |>.code payload.terminalStatus
    |>.u64 payload.completedCount
    |>.u32 payload.programCounter
    |>.code payload.rejectionCode
    |>.string payload.errorCode
    |>.string payload.message

def readExecutionResult (payload : ExecutionResultPayload) :
    PayloadRead ExecutionResultPayload := do
  let commandSequence ← u64 payload.commandSequence
  let control ← code payload.control
  let status ← code payload.status
  let sessionId ← u64 payload.sessionId
  let worksetEpoch ← u64 payload.worksetEpoch
  let operationId ← u64 payload.operationId
  let hasExecutionState ← boolean payload.hasExecutionState
  let activity ← code payload.activity
  let hasTerminalStatus ← boolean payload.hasTerminalStatus
  let terminalStatus ← code payload.terminalStatus
  let completedCount ← u64 payload.completedCount
  let programCounter ← u32 payload.programCounter
  let rejectionCode ← code payload.rejectionCode
  let errorCode ← string payload.errorCode
  let message ← string payload.message
  pure { commandSequence, control, status, sessionId, worksetEpoch, operationId,
         hasExecutionState, activity, hasTerminalStatus, terminalStatus,
         completedCount, programCounter, rejectionCode, errorCode, message }

def writeExecutionState (payload : ExecutionStatePayload)
    (writer : PayloadWriter) : PayloadWriter :=
  writer
    |>.u64 payload.sessionId
    |>.u64 payload.worksetEpoch
    |>.u64 payload.operationId
    |>.code payload.activity
    |>.boolean payload.hasActiveControl
    |>.code payload.activeControl
    |>.u64 payload.completedCount
    |>.u32 payload.programCounter
    |>.code payload.rejectionCode
    |>.string payload.code
    |>.string payload.message

def readExecutionState (payload : ExecutionStatePayload) : PayloadRead ExecutionStatePayload := do
  let sessionId ← u64 payload.sessionId
  let worksetEpoch ← u64 payload.worksetEpoch
  let operationId ← u64 payload.operationId
  let activity ← code payload.activity
  let hasActiveControl ← boolean payload.hasActiveControl
  let activeControl ← code payload.activeControl
  let completedCount ← u64 payload.completedCount
  let programCounter ← u32 payload.programCounter
  let rejectionCode ← code payload.rejectionCode
  let code ← string payload.code
  let message ← string payload.message
  pure { sessionId, worksetEpoch, operationId, activity, hasActiveControl,
         activeControl, completedCount, programCounter, rejectionCode, code,
         message }

end Payloads

/-- The payloads that have a codec. -/
inductive PayloadType
  | processHello
  | openSession
  | submitWorkset
  | submitWorksetResult
  | cancelWorksetItem
  | cancelWorkset
  | acknowledgeTerminal
  | cancelInvocation
  | shutdown
  | controlExecution
  | commandResult
  | openSessionResult
  | shutdownResult
  | sessionEvent
  | invocationProgress
  | worksetState
  | worksetResidenceSnapshotV1
  | worksetItemStarted
  | worksetItemTerminal
  | worksetCredits
  | worksetSummary
  | hostEvent
  | runtimeDiagnostic
  | executionResult
  | executionState

namespace PayloadType

/-- The values of a payload. -/
abbrev Payload : PayloadType → Type
  | .processHello => ProcessHelloPayload
  | .openSession => OpenSessionPayload
  | .submitWorkset => SubmitWorksetPayload
  | .submitWorksetResult => SubmitWorksetResultPayload
  | .cancelWorksetItem => CancelWorksetItemPayload
  | .cancelWorkset => CancelWorksetPayload
  | .acknowledgeTerminal => AcknowledgeTerminalPayload
  | .cancelInvocation => CancelInvocationPayload
  | .shutdown => ShutdownPayload
  | .controlExecution => ControlExecutionPayload
  | .commandResult => CommandResultPayload
  | .openSessionResult => OpenSessionResultPayload
  | .shutdownResult => ShutdownResultPayload
  | .sessionEvent => SessionEventPayload
  | .invocationProgress => InvocationProgressPayload
  | .worksetState => WorksetStatePayload
  | .worksetResidenceSnapshotV1 => WorksetResidenceSnapshotV1
  | .worksetItemStarted => WorksetItemStartedPayload
  | .worksetItemTerminal => WorksetItemTerminalPayload
  | .worksetCredits => WorksetCreditsPayload
  | .worksetSummary => WorksetSummaryPayload
  | .hostEvent => HostEventPayload
  | .runtimeDiagnostic => RuntimeDiagnosticPayload
  | .executionResult => ExecutionResultPayload
  | .executionState => ExecutionStatePayload

/-- The payload that a decode starts from. -/
def fresh : (type : PayloadType) → type.Payload
  | .processHello => ({} : ProcessHelloPayload)
  | .openSession => ({} : OpenSessionPayload)
  | .submitWorkset => ({} : SubmitWorksetPayload)
  | .submitWorksetResult => ({} : SubmitWorksetResultPayload)
  | .cancelWorksetItem => ({} : CancelWorksetItemPayload)
  | .cancelWorkset => ({} : CancelWorksetPayload)
  | .acknowledgeTerminal => ({} : AcknowledgeTerminalPayload)
  | .cancelInvocation => ({} : CancelInvocationPayload)
  | .shutdown => ({} : ShutdownPayload)
  | .controlExecution => ({} : ControlExecutionPayload)
  | .commandResult => ({} : CommandResultPayload)
  | .openSessionResult => ({} : OpenSessionResultPayload)
  | .shutdownResult => ({} : ShutdownResultPayload)
  | .sessionEvent => ({} : SessionEventPayload)
  | .invocationProgress => ({} : InvocationProgressPayload)
  | .worksetState => ({} : WorksetStatePayload)
  | .worksetResidenceSnapshotV1 => ({} : WorksetResidenceSnapshotV1)
  | .worksetItemStarted => ({} : WorksetItemStartedPayload)
  | .worksetItemTerminal => ({} : WorksetItemTerminalPayload)
  | .worksetCredits => ({} : WorksetCreditsPayload)
  | .worksetSummary => ({} : WorksetSummaryPayload)
  | .hostEvent => ({} : HostEventPayload)
  | .runtimeDiagnostic => ({} : RuntimeDiagnosticPayload)
  | .executionResult => ({} : ExecutionResultPayload)
  | .executionState => ({} : ExecutionStatePayload)

def write : (type : PayloadType) → type.Payload → PayloadWriter → PayloadWriter
  | .processHello => writeProcessHello
  | .openSession => writeOpenSession
  | .submitWorkset => writeSubmitWorkset
  | .submitWorksetResult => writeSubmitWorksetResult
  | .cancelWorksetItem => writeCancelWorksetItem
  | .cancelWorkset => writeCancelWorkset
  | .acknowledgeTerminal => writeAcknowledgeTerminal
  | .cancelInvocation => writeCancelInvocation
  | .shutdown => writeShutdown
  | .controlExecution => writeControlExecution
  | .commandResult => writeCommandResult
  | .openSessionResult => writeOpenSessionResult
  | .shutdownResult => writeShutdownResult
  | .sessionEvent => writeSessionEvent
  | .invocationProgress => writeInvocationProgress
  | .worksetState => writeWorksetState
  | .worksetResidenceSnapshotV1 => writeWorksetResidenceSnapshotV1
  | .worksetItemStarted => writeWorksetItemStarted
  | .worksetItemTerminal => writeWorksetItemTerminal
  | .worksetCredits => writeWorksetCredits
  | .worksetSummary => writeWorksetSummary
  | .hostEvent => writeHostEvent
  | .runtimeDiagnostic => writeRuntimeDiagnostic
  | .executionResult => writeExecutionResult
  | .executionState => writeExecutionState

def read : (type : PayloadType) → type.Payload → PayloadRead type.Payload
  | .processHello => readProcessHello
  | .openSession => readOpenSession
  | .submitWorkset => readSubmitWorkset
  | .submitWorksetResult => readSubmitWorksetResult
  | .cancelWorksetItem => readCancelWorksetItem
  | .cancelWorkset => readCancelWorkset
  | .acknowledgeTerminal => readAcknowledgeTerminal
  | .cancelInvocation => readCancelInvocation
  | .shutdown => readShutdown
  | .controlExecution => readControlExecution
  | .commandResult => readCommandResult
  | .openSessionResult => readOpenSessionResult
  | .shutdownResult => readShutdownResult
  | .sessionEvent => readSessionEvent
  | .invocationProgress => readInvocationProgress
  | .worksetState => readWorksetState
  | .worksetResidenceSnapshotV1 => readWorksetResidenceSnapshotV1
  | .worksetItemStarted => readWorksetItemStarted
  | .worksetItemTerminal => readWorksetItemTerminal
  | .worksetCredits => readWorksetCredits
  | .worksetSummary => readWorksetSummary
  | .hostEvent => readHostEvent
  | .runtimeDiagnostic => readRuntimeDiagnostic
  | .executionResult => readExecutionResult
  | .executionState => readExecutionState

end PayloadType

/-- `EncodePayload`: the result, and the output with the bytes of the value. -/
def encodePayload (type : PayloadType) (value : type.Payload)
    (output : ByteString) : PayloadCodecResult × ByteString :=
  encodePayloadImpl type.write value output

/-- `DecodePayload`: the result, and the output with the value of the bytes. -/
def decodePayload (type : PayloadType) (input : ByteString)
    (output : type.Payload) : PayloadCodecResult × type.Payload :=
  decodePayloadImpl (type.read type.fresh) input output

end Savor.Wrms

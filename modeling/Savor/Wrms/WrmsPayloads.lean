import Savor.Library.Stream
import Savor.Model.Identifiers

/-!
# WRMS payloads

The payloads that the parent and a worker exchange, with the enumerations they
carry.  An enumeration has a fixed underlying type, so every code of that type
is a value of it; which codes are known is checked where a payload is written
or read.
-/

namespace Savor.Wrms

open Library.Stream
open Program (ByteString)
open Word

/-- No field and no payload is longer than this. -/
def maximumPayloadSize : Nat := 64 * 1024 * 1024

/-- Why a payload is not written or not read; `None` of the source is the
absence of an error. -/
inductive PayloadError
  | truncated
  | fieldTooLarge
  | invalidBoolean
  | invalidMessageKind
  | invalidEnumValue
  | trailingBytes
  | payloadTooLarge
  | invalidValue
  deriving DecidableEq

/-- The outcome of writing or reading a payload, and where it ended. -/
structure PayloadCodecResult where
  error : Option PayloadError := none
  offset : Nat := 0
  deriving DecidableEq

/-- How an enumeration travels: its underlying word, the codes that are known
and the error of any other. -/
class Enumeration (Value : Type) where
  word : Word Value
  isKnown : Value → Bool
  error : PayloadError := .invalidEnumValue

/-- How a command ended. -/
structure CommandStatus where
  code : UInt8

namespace CommandStatus

def succeeded : CommandStatus := ⟨0⟩

def unsupported : CommandStatus := ⟨3⟩

def isKnown (value : CommandStatus) : Bool := decide (value.code ≤ unsupported.code)

instance : Enumeration CommandStatus where
  word := u8.map mk code (fun _ => rfl) (fun _ => rfl)
  isKnown := isKnown

end CommandStatus

/-- How a shutdown ended. -/
structure ShutdownStatus where
  code : UInt8

namespace ShutdownStatus

def graceful : ShutdownStatus := ⟨0⟩

def cleanupFailed : ShutdownStatus := ⟨1⟩

def isKnown (value : ShutdownStatus) : Bool := decide (value.code ≤ cleanupFailed.code)

instance : Enumeration ShutdownStatus where
  word := u8.map mk code (fun _ => rfl) (fun _ => rfl)
  isKnown := isKnown

end ShutdownStatus

/-- What a session event reports. -/
structure SessionEventType where
  code : UInt8

namespace SessionEventType

def snapshot : SessionEventType := ⟨0⟩

def tainted : SessionEventType := ⟨2⟩

def isKnown (value : SessionEventType) : Bool := decide (value.code ≤ tainted.code)

instance : Enumeration SessionEventType where
  word := u8.map mk code (fun _ => rfl) (fun _ => rfl)
  isKnown := isKnown

end SessionEventType

/-- How an invocation ended. -/
structure InvocationTerminalStatus where
  code : UInt8
  deriving DecidableEq

namespace InvocationTerminalStatus

def succeeded : InvocationTerminalStatus := ⟨0⟩

def failed : InvocationTerminalStatus := ⟨1⟩

def cancelled : InvocationTerminalStatus := ⟨2⟩

def infrastructureFailure : InvocationTerminalStatus := ⟨3⟩

def cleanupFailure : InvocationTerminalStatus := ⟨4⟩

def timedOut : InvocationTerminalStatus := ⟨5⟩

def isKnown (value : InvocationTerminalStatus) : Bool :=
  [succeeded, failed, cancelled, infrastructureFailure, cleanupFailure, timedOut].contains value

instance : Enumeration InvocationTerminalStatus where
  word := u8.map mk code (fun _ => rfl) (fun _ => rfl)
  isKnown := isKnown

end InvocationTerminalStatus

/-- The state of a worker. -/
structure WorkerStateCode where
  code : UInt8

namespace WorkerStateCode

def starting : WorkerStateCode := ⟨0⟩

def stopped : WorkerStateCode := ⟨8⟩

def isKnown (value : WorkerStateCode) : Bool := decide (value.code ≤ stopped.code)

instance : Enumeration WorkerStateCode where
  word := u8.map mk code (fun _ => rfl) (fun _ => rfl)
  isKnown := isKnown

end WorkerStateCode

/-- A control of the execution.  The guest instruction step was removed and its
code is reserved. -/
structure ExecutionControlKind where
  code : UInt8
  deriving DecidableEq

namespace ExecutionControlKind

def pause : ExecutionControlKind := ⟨0⟩

def resume : ExecutionControlKind := ⟨1⟩

def reservedGuestInstruction : ExecutionControlKind := ⟨2⟩

def stepFrame : ExecutionControlKind := ⟨3⟩

def isKnown (value : ExecutionControlKind) : Bool := [pause, resume, stepFrame].contains value

instance : Enumeration ExecutionControlKind where
  word := u8.map mk code (fun _ => rfl) (fun _ => rfl)
  isKnown := isKnown

end ExecutionControlKind

/-- The state of a workset. -/
structure WorksetStateCode where
  code : UInt8

namespace WorksetStateCode

def validating : WorksetStateCode := ⟨0⟩

def failed : WorksetStateCode := ⟨9⟩

def isKnown (value : WorksetStateCode) : Bool := decide (value.code ≤ failed.code)

instance : Enumeration WorksetStateCode where
  word := u8.map mk code (fun _ => rfl) (fun _ => rfl)
  isKnown := isKnown

end WorksetStateCode

/-- What the execution is doing. -/
structure ExecutionActivityCode where
  code : UInt8

namespace ExecutionActivityCode

def idlePaused : ExecutionActivityCode := ⟨0⟩

def failed : ExecutionActivityCode := ⟨3⟩

def isKnown (value : ExecutionActivityCode) : Bool := decide (value.code ≤ failed.code)

instance : Enumeration ExecutionActivityCode where
  word := u8.map mk code (fun _ => rfl) (fun _ => rfl)
  isKnown := isKnown

end ExecutionActivityCode

/-- How an execution operation ended. -/
structure ExecutionTerminalStatusCode where
  code : UInt8

namespace ExecutionTerminalStatusCode

def requestedCompletion : ExecutionTerminalStatusCode := ⟨0⟩

def cleanupFailure : ExecutionTerminalStatusCode := ⟨15⟩

def isKnown (value : ExecutionTerminalStatusCode) : Bool :=
  decide (value.code ≤ cleanupFailure.code)

instance : Enumeration ExecutionTerminalStatusCode where
  word := u8.map mk code (fun _ => rfl) (fun _ => rfl)
  isKnown := isKnown

end ExecutionTerminalStatusCode

/-- What became of a session. -/
structure SessionDispositionCode where
  code : UInt8

namespace SessionDispositionCode

def closed : SessionDispositionCode := ⟨0⟩

def tainted : SessionDispositionCode := ⟨3⟩

def isKnown (value : SessionDispositionCode) : Bool := decide (value.code ≤ tainted.code)

instance : Enumeration SessionDispositionCode where
  word := u8.map mk code (fun _ => rfl) (fun _ => rfl)
  isKnown := isKnown

end SessionDispositionCode

/-- Why a command was rejected. -/
structure RejectionCode where
  code : UInt16

namespace RejectionCode

def none : RejectionCode := ⟨0⟩

def internalFailure : RejectionCode := ⟨15⟩

def worksetItemAlreadyTerminal : RejectionCode := ⟨23⟩

def isKnown (value : RejectionCode) : Bool := decide (value.code ≤ worksetItemAlreadyTerminal.code)

instance : Enumeration RejectionCode where
  word := u16.map mk code (fun _ => rfl) (fun _ => rfl)
  isKnown := isKnown

end RejectionCode

/-- How a worker presents itself. -/
structure WorkerModeCode where
  code : UInt8

namespace WorkerModeCode

def headless : WorkerModeCode := ⟨0⟩

def visualDebug : WorkerModeCode := ⟨2⟩

def isKnown (value : WorkerModeCode) : Bool := decide (value.code ≤ visualDebug.code)

instance : Enumeration WorkerModeCode where
  word := u8.map mk code (fun _ => rfl) (fun _ => rfl)
  isKnown := isKnown

end WorkerModeCode

/-- Where a message goes. -/
inductive MessageDirection
  | parentToWorker
  | workerToParent
  deriving DecidableEq

/-- The kinds of messages. -/
structure MessageKind where
  code : UInt16
  deriving DecidableEq

namespace MessageKind

def processHello : MessageKind := ⟨0x0001⟩

def openSession : MessageKind := ⟨0x0010⟩

def cancelInvocation : MessageKind := ⟨0x0013⟩

def shutdown : MessageKind := ⟨0x0015⟩

def controlExecution : MessageKind := ⟨0x0016⟩

def submitWorkset : MessageKind := ⟨0x0017⟩

def cancelWorksetItem : MessageKind := ⟨0x0018⟩

def cancelWorkset : MessageKind := ⟨0x0019⟩

def acknowledgeTerminal : MessageKind := ⟨0x001a⟩

def livenessProbe : MessageKind := ⟨0x001b⟩

def commandResult : MessageKind := ⟨0x0100⟩

def openSessionResult : MessageKind := ⟨0x0101⟩

def shutdownResult : MessageKind := ⟨0x0103⟩

def sessionEvent : MessageKind := ⟨0x0104⟩

def invocationProgress : MessageKind := ⟨0x0105⟩

def hostEvent : MessageKind := ⟨0x0107⟩

def runtimeDiagnostic : MessageKind := ⟨0x0108⟩

def executionResult : MessageKind := ⟨0x0109⟩

def executionState : MessageKind := ⟨0x010a⟩

def worksetState : MessageKind := ⟨0x010b⟩

def worksetItemStarted : MessageKind := ⟨0x010c⟩

def worksetItemTerminal : MessageKind := ⟨0x010d⟩

def worksetCredits : MessageKind := ⟨0x010e⟩

def worksetSummary : MessageKind := ⟨0x010f⟩

/-- `IsKnownMessageKind`. -/
def isKnown (kind : MessageKind) : Bool :=
  [processHello, openSession, cancelInvocation, shutdown, controlExecution,
    submitWorkset, cancelWorksetItem, cancelWorkset, acknowledgeTerminal,
    livenessProbe, commandResult, openSessionResult, shutdownResult,
    sessionEvent, invocationProgress, hostEvent, runtimeDiagnostic,
    executionResult, executionState, worksetState, worksetItemStarted,
    worksetItemTerminal, worksetCredits, worksetSummary].contains kind

/-- `DirectionOf`. -/
def direction (kind : MessageKind) : MessageDirection :=
  if kind ∈ [openSession, cancelInvocation, shutdown, controlExecution,
      submitWorkset, cancelWorksetItem, cancelWorkset, acknowledgeTerminal, livenessProbe] then
    .parentToWorker
  else
    .workerToParent

/-- A command result names a kind of command. -/
def isCommand (kind : MessageKind) : Bool := kind.isKnown && kind.direction == .parentToWorker

instance : Enumeration MessageKind where
  word := u16.map mk code (fun _ => rfl) (fun _ => rfl)
  isKnown := isCommand
  error := .invalidMessageKind

end MessageKind

/-- A worker introduces itself. -/
structure ProcessHelloPayload where
  workerId : UInt64 := 0
  processId : UInt32 := 0
  encodedRuntimeContract : ByteString := []

/-- Open a session. -/
structure OpenSessionPayload where
  (runtimeRoot userDirectory isoPath : ByteString := [])
  workerMode : WorkerModeCode := .headless
  renderWindowHandle : UInt64 := 0
  (runtimeArtifactRoot sessionFilesystemPreparationId : ByteString := [])
  processGeneration : UInt64 := 0

/-- Submit a workset, with the items that are cancelled from the start. -/
structure SubmitWorksetPayload where
  (encodedWorkset worksetSha256 : ByteString := [])
  cancellationSidecarVersion : UInt32 := 1
  initiallyCancelledItemIds : List UInt64 := []
  cancellationSidecarSha256 : ByteString := []

/-- What was admitted of a submitted workset. -/
structure SubmitWorksetResultPayload where
  formatVersion : UInt32 := 1
  worksetId : UInt64 := 0
  sidecarVersion : UInt32 := 1
  appliedItemCount : UInt32 := 0
  appliedSidecarSha256 : ByteString := []
  alreadyAdmitted : Bool := false

/-- Cancel one item of a workset. -/
structure CancelWorksetItemPayload where
  (worksetId itemId : UInt64 := 0)
  reason : ByteString := []

/-- Cancel a workset. -/
structure CancelWorksetPayload where
  worksetId : UInt64 := 0
  reason : ByteString := []

/-- Acknowledge the terminal of an item. -/
structure AcknowledgeTerminalPayload where
  (worksetId itemId : UInt64 := 0)
  itemOrdinal : UInt32 := 0
  (invocationId attemptId terminalId terminalOrder : UInt64 := 0)

/-- Cancel an invocation. -/
structure CancelInvocationPayload where
  invocationId : UInt64 := 0
  reason : ByteString := []

/-- Shut the worker down. -/
structure ShutdownPayload where
  gracePeriodMs : UInt32 := 0

/-- Pause, resume or step the execution. -/
structure ControlExecutionPayload where
  control : ExecutionControlKind := .pause
  (worksetId itemId : UInt64 := 0)
  (count timeoutMs : UInt32 := 0)

/-- The result of a command. -/
structure CommandResultPayload where
  commandSequence : UInt64 := 0
  commandKind : MessageKind := .openSession
  status : CommandStatus := .succeeded
  rejectionCode : RejectionCode := .none
  (errorCode message result : ByteString := [])

/-- The result of opening a session. -/
structure OpenSessionResultPayload where
  success : Bool := false
  (sessionId worksetEpoch : UInt64 := 0)
  workerMode : WorkerModeCode := .headless
  workerState : WorkerStateCode := .starting
  sessionDisposition : SessionDispositionCode := .closed
  rejectionCode : RejectionCode := .none
  (errorCode message : ByteString := [])

/-- The result of a shutdown. -/
structure ShutdownResultPayload where
  status : ShutdownStatus := .graceful
  finalDisposition : SessionDispositionCode := .closed
  rejectionCode : RejectionCode := .none
  (errorCode message : ByteString := [])

/-- A session changed. -/
structure SessionEventPayload where
  eventType : SessionEventType := .snapshot
  (sessionId worksetEpoch : UInt64 := 0)
  workerMode : WorkerModeCode := .headless
  workerState : WorkerStateCode := .starting
  sessionDisposition : SessionDispositionCode := .closed
  rejectionCode : RejectionCode := .none
  (code message : ByteString := [])

/-- Progress of an invocation. -/
structure InvocationProgressPayload where
  (invocationId attemptId worksetId itemId : UInt64 := 0)
  itemOrdinal : UInt32 := 0
  ordinal : UInt64 := 0
  (durableJobId libraryId : ByteString := [])
  libraryRevision : UInt32 := 0
  progressPointId : ByteString := []
  hasRoutedProvenance : Bool := false
  (routedSequence sampleSnapshotId triggerEpoch : UInt64 := 0)
  schemaId : ByteString := []
  schemaRevision : UInt32 := 0
  (schemaSha256 typedPayload displayText : ByteString := [])

/-- A workset changed its state. -/
structure WorksetStatePayload where
  (outboundSequence worksetId : UInt64 := 0)
  state : WorksetStateCode := .validating
  nextItemOrdinal : UInt32 := 0
  rejectionCode : RejectionCode := .none
  message : ByteString := []

/-- Which workset is resident, if any. -/
structure WorksetResidenceSnapshotV1 where
  formatVersion : UInt32 := 1
  hasResidentWorkset : Bool := false
  worksetId : UInt64 := 0
  state : WorksetStateCode := .validating
  cancellationSidecarSha256 : ByteString := []

/-- An item of a workset started. -/
structure WorksetItemStartedPayload where
  (outboundSequence worksetId itemId : UInt64 := 0)
  itemOrdinal : UInt32 := 0
  (invocationId attemptId sessionId worksetEpoch : UInt64 := 0)
  (baselineSha256 baselineLineage : ByteString := [])
  baselineStateEstablished : Bool := false

/-- An artifact that an item left behind. -/
structure WorksetArtifactPayload where
  (artifactId schemaId : ByteString := [])
  schemaVersion : UInt32 := 0
  (schemaSha256 contentSha256 storageReference : ByteString := [])
  complete : Bool := false

/-- The end of a workset item, with its artifacts and diagnostics. -/
structure WorksetItemTerminalPayload where
  (outboundSequence worksetId itemId : UInt64 := 0)
  itemOrdinal : UInt32 := 0
  (invocationId attemptId terminalId terminalOrder : UInt64 := 0)
  status : InvocationTerminalStatus := .failed
  sessionDisposition : SessionDispositionCode := .closed
  worksetEpoch : UInt64 := 0
  unstarted : Bool := false
  cancellationReason : UInt8 := 0
  rejectionCode : RejectionCode := .none
  (errorCode message result : ByteString := [])
  worksetArtifacts : List WorksetArtifactPayload := []
  diagnostics : List ByteString := []

/-- How many more items a worker takes. -/
structure WorksetCreditsPayload where
  outboundSequence : UInt64 := 0
  (availableItemCredits activeAndStagedItems retainedTerminals : UInt32 := 0)

/-- What became of the items of a workset. -/
structure WorksetSummaryPayload where
  (outboundSequence worksetId : UInt64 := 0)
  (itemCount completedCount unstartedCount : UInt32 := 0)
  initiallySuppressedCount : UInt32 := 0

/-- An event of the host. -/
structure HostEventPayload where
  (sessionId worksetEpoch sequence : UInt64 := 0)
  (name eventData : ByteString := [])

/-- A diagnostic of the runtime. -/
structure RuntimeDiagnosticPayload where
  rejectionCode : RejectionCode := .internalFailure
  (commandSequence invocationId : UInt64 := 0)
  message : ByteString := []

/-- The result of a control of the execution. -/
structure ExecutionResultPayload where
  commandSequence : UInt64 := 0
  control : ExecutionControlKind := .pause
  status : CommandStatus := .succeeded
  (sessionId worksetEpoch operationId : UInt64 := 0)
  hasExecutionState : Bool := false
  activity : ExecutionActivityCode := .idlePaused
  hasTerminalStatus : Bool := false
  terminalStatus : ExecutionTerminalStatusCode := .requestedCompletion
  completedCount : UInt64 := 0
  programCounter : UInt32 := 0
  rejectionCode : RejectionCode := .none
  (errorCode message : ByteString := [])

/-- The state of the execution. -/
structure ExecutionStatePayload where
  (sessionId worksetEpoch operationId : UInt64 := 0)
  activity : ExecutionActivityCode := .idlePaused
  hasActiveControl : Bool := false
  activeControl : ExecutionControlKind := .pause
  completedCount : UInt64 := 0
  programCounter : UInt32 := 0
  rejectionCode : RejectionCode := .none
  (code message : ByteString := [])

end Savor.Wrms

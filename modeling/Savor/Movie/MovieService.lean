import Savor.Library.Wire
import Savor.Model.Identifiers

/-!
# The movie service

Movie files, the types of the service, and the parts of its operations.
-/

namespace Savor.Movie

open Library Program

/-!
## Movie files

A DTM file is a header of 256 bytes and a payload.  The payload of a movie that
only GameCube controllers play is a sequence of poll records of eight bytes.
-/

section Files

/-- `DtmFile`: bytes that begin with a header and the signature. -/
structure DtmFile where
  bytes : ByteString
deriving DecidableEq

variable (dtm : DtmFile)

namespace DtmFile

def kOffGameId : Nat := 0x004

def kOffControllers : Nat := 0x00B

def kOffStartsFromSavestate : Nat := 0x00C

def kOffInputCount : Nat := 0x015

def kMinHeader : Nat := 0x100

/-- `D`, `T`, `M` and a control character. -/
def signature : ByteString := [0x44, 0x54, 0x4D, 0x1A]

/-- The length of a poll record. -/
def pollSize : Nat := 8

/-- `DtmFile::load`, of the bytes that could be read. -/
def load (read : Option ByteString) : Option DtmFile :=
  match read with
  | none => none
  | some bytes =>
    if bytes.length < kMinHeader then none
    else if bytes.take 4 ≠ signature then none
    else some ⟨bytes⟩

/-- A byte of the header. -/
def header (offset : Nat) : UInt8 := dtm.bytes.getD offset 0

/-- `DtmInfo::game_id`. -/
def gameId : ByteString := (dtm.bytes.drop kOffGameId).take 6

/-- `DtmInfo::starts_from_savestate`. -/
def startsFromSavestate : Bool := dtm.header kOffStartsFromSavestate != 0

/-- `DtmInfo::input_count`. -/
def inputCount : Nat := Wire.ofLittleEndian ((dtm.bytes.drop kOffInputCount).take 8)

/-- GameCube controllers play. -/
def hasGc : Bool := dtm.header kOffControllers &&& 0x0F != 0

/-- Wii remotes play. -/
def hasWii : Bool := dtm.header kOffControllers &&& 0xF0 != 0

def payloadSize : Nat := dtm.bytes.length - kMinHeader

/-- `DtmValidationReport::has_error` of `DtmFile::validate`: of a loaded file
only the alignment of the poll records can be an error. -/
def hasError : Bool := dtm.hasGc && !dtm.hasWii && dtm.payloadSize % pollSize != 0

/-- `DtmFile::supports_gc_poll_editing`: why it does not. -/
def pollEditingReason : Option ByteString :=
  if !dtm.hasGc then
    some (text "GC controller bits are not set; GC poll editor is unavailable.")
  else if dtm.hasWii then
    some (text
      "Wii controller bits are set; mixed payload decoding is currently unsupported for safe editing.")
  else if dtm.payloadSize % pollSize ≠ 0 then
    some (text "Payload size is not divisible by 8 bytes (GC poll size).")
  else none

/-- `DtmFile::gc_poll_count`. -/
def gcPollCount : Nat := if dtm.pollEditingReason.isSome then 0 else dtm.payloadSize / pollSize

end DtmFile

/-- The first poll records of a movie. -/
def polls (bytes : ByteString) (count : Nat) : ByteString :=
  (bytes.drop DtmFile.kMinHeader).take (count * DtmFile.pollSize)

/-- How many poll records a movie has. -/
def pollCount (bytes : ByteString) : Nat := (bytes.length - DtmFile.kMinHeader) / DtmFile.pollSize

/-!
## The types of the movie service

What the service owns, what it asks of the movie backend, of the owner of the
controller input and of its callbacks, and what it answers.
-/

inductive MovieReservationIdTag

inductive MoviePreparationIdTag

abbrev MovieReservationId := StrongId MovieReservationIdTag

abbrev MoviePreparationId := StrongId MoviePreparationIdTag

inductive GuestIntegrity
  | preserved
  | unknown
  deriving DecidableEq

inductive MovieState
  | inactive
  | preparedReadOnlyPlayback
  | readOnlyPlayback
  | recording
  | playbackEnded
  | unknown
  deriving DecidableEq

inductive MovieOperation
  | preparePlayback
  | startPlayback
  | stopPlayback
  | startRecording
  | finalizeRecording
  | cancelRecording
  | captureCheckpoint

inductive MovieServiceErrorCode
  | none
  | invalidArgument
  | invalidState
  | unsupported
  | reservationFailure
  | savestateFailure
  | backendFailure
  | artifactFailure
  | integrityFailure

inductive MovieCheckpointMode
  | none
  | readOnlyPlayback
  | recording
  deriving DecidableEq

def stateOf : MovieCheckpointMode → MovieState
  | .readOnlyPlayback => .readOnlyPlayback
  | .recording => .recording
  | .none => .inactive

/-- `MovieServiceResult`. -/
structure MovieServiceResult where
  ok : Bool := false
  code : MovieServiceErrorCode := .backendFailure
  integrity : GuestIntegrity := .preserved
  message : ByteString := []

namespace MovieServiceResult

/-- `MovieServiceResult::Success`. -/
def success : MovieServiceResult := ⟨true, .none, .preserved, []⟩

/-- `MovieServiceResult::Failure`. -/
def failure (code : MovieServiceErrorCode) (message : ByteString)
    (integrity : GuestIntegrity := .preserved) : MovieServiceResult :=
  ⟨false, code, integrity, message⟩

@[simp] theorem ok_success : success.ok = true := rfl

end MovieServiceResult

/-- `MovieBackendResult`. -/
structure MovieBackendResult where
  ok : Bool := true
  integrity : GuestIntegrity := .preserved
  message : ByteString := []

/-- The message, or another text where it is empty. -/
def orText (message : ByteString) (other : String) : ByteString :=
  if message = [] then text other else message

/-- `MovieService::FromBackendResult`. -/
def fromBackendResult (result : MovieBackendResult) (other : String) : MovieServiceResult :=
  .failure
    (if result.integrity = .unknown then .integrityFailure else .backendFailure)
    (orText result.message other) result.integrity

/-- `MovieBackendObservation`. -/
structure MovieBackendObservation where
  result : MovieBackendResult := {}
  (playing recording : Bool := false)
  readOnly : Bool := true
  (currentFrame currentInputCount : UInt64 := 0)

/-- `MovieCheckpointMetadata`. -/
structure MovieCheckpointMetadata where
  mode : MovieCheckpointMode := .none
  (dtmSha256 gameId dtmBytes dtmPath : ByteString := [])
  (currentFrame currentInputCount : UInt64 := 0)
  (cursorKnown startsFromSavestate : Bool := false)
  recordingWorksetEpoch : WorksetEpoch := .none

/-- The movie with the cursor that the backend reported. -/
def MovieCheckpointMetadata.observedAt (movie : MovieCheckpointMetadata)
    (observed : MovieBackendObservation) : MovieCheckpointMetadata :=
  { movie with
    currentFrame := observed.currentFrame
    currentInputCount := observed.currentInputCount
    cursorKnown := true }

/-- `MovieInputReservationReceipt`. -/
structure MovieInputReservationReceipt where
  result : MovieServiceResult := .success
  reservation : MovieReservationId := ⟨1⟩

/-- `MoviePlaybackPrepareResult`. -/
structure MoviePlaybackPrepareResult where
  result : MovieBackendResult := {}
  startupSavestate : Option ByteString := none

/-- `MovieRecordingFinalizeResult`. -/
structure MovieRecordingFinalizeResult where
  result : MovieBackendResult := {}
  startingSavestate : Option ByteString := none

/-- `MovieCheckpointBackendResult`. -/
structure MovieCheckpointBackendResult where
  result : MovieBackendResult := {}
  checkpoint : MovieCheckpointMetadata := {}

/-- `SavestateMovieRestoreContext`. -/
structure SavestateMovieRestoreContext where
  worksetEpoch : WorksetEpoch
  movie : Option MovieCheckpointMetadata
  externalArtifact : Bool := false

/-- The mode of the movie that is restored. -/
def SavestateMovieRestoreContext.mode (context : SavestateMovieRestoreContext) :
    MovieCheckpointMode :=
  context.movie.elim .none (·.mode)

/-- What the surroundings of the service answer during one of its operations:
the thread, the active workset, the owner of the controller input, the movie
backend, the callbacks (where there are any) and the file system.  An operation
observes the backend at most twice and asks everything else at most once. -/
structure MovieAnswers where
  onOwnerThread : Bool := true
  activeEpoch : WorksetEpoch := ⟨1⟩
  acquireReservation : MovieInputReservationReceipt := {}
  releaseReservation : MovieServiceResult := .success
  prepareReadOnlyPlayback : MoviePlaybackPrepareResult := {}
  (stopCore startCore activatePlayback : MovieBackendResult := {})
  discardPrepared : MovieBackendResult := {}
  (stopMovie beginRecording branchToRecording : MovieBackendResult := {})
  finalizeRecording : MovieRecordingFinalizeResult := {}
  cancelRecording : MovieBackendResult := {}
  (observation laterObservation : MovieBackendObservation := {})
  (acquirePause releasePause : MovieBackendResult := {})
  captureCheckpoint : MovieCheckpointBackendResult := {}
  (prepareRestore commitRestore rollbackRestore : MovieBackendResult := {})
  validateBeforeCoreStop : Option MovieServiceResult := some .success
  settleAfterCoreStop : Option MovieServiceResult := some .success
  validateAfterCoreStart : Option MovieServiceResult := some .success
  /-- The bytes of the file at the path of the request, when it is loaded. -/
  dtmFile : Option ByteString := none
  /-- The startup savestate is a regular file. -/
  startupReadable : Bool := true
  /-- The path of the request has a parent that is a directory. -/
  outputDirectory : Bool := true
  /-- The movie or its companion is there already. -/
  outputExists : Bool := false
  /-- The companion is a regular file. -/
  companionPublished : Bool := true
  /-- What went wrong with removing the finalized files. -/
  discardFailure : ByteString := []

/-- `MovieStateSnapshot`. -/
structure MovieStateSnapshot where
  result : MovieServiceResult
  worksetEpoch : WorksetEpoch
  state : MovieState := .unknown
  readOnly : Bool := true
  (currentFrame currentInputCount : UInt64 := 0)

/-- `MovieOperationReceipt`. -/
structure MovieOperationReceipt where
  result : MovieServiceResult := {}
  operation : MovieOperation := .startPlayback
  state : MovieState := .inactive
  worksetEpoch : WorksetEpoch := .none
  reservation : MovieReservationId := .none
  preparation : MoviePreparationId := .none
  (dtmSha256 artifactPath : ByteString := [])
  startingSavestate : Option ByteString := none

/-- `MovieCheckpointReceipt`. -/
structure MovieCheckpointReceipt where
  result : MovieServiceResult := {}
  worksetEpoch : WorksetEpoch := .none
  checkpoint : Option MovieCheckpointMetadata := none

/-- The members of `MovieService` that change. -/
structure MovieService where
  state : MovieState := .inactive
  reservation : MovieReservationId := .none
  preparation : MoviePreparationId := .none
  nextPreparation : UInt64 := 1
  preparedStartingSavestate : Option ByteString := none
  preparedCoreStarted : Bool := false
  (activeMovie recordingPrefix : Option MovieCheckpointMetadata := none)
  recordingPrefixInputCount : UInt64 := 0
  deferredRecordingPairPending : Bool := false
  originalMovie : Option MovieCheckpointMetadata := none
  originalState : MovieState := .inactive
  (restorePrepared acquiredForRestore pauseAtPlaybackEndOwned : Bool := false)
  tainted : Bool := false

end Files

/-!
## The parts of the movie service
The service keeps at most one movie lifecycle.  It holds the reservation of the
controller input and the ownership of the pause at the end of a playback while a
movie plays.  Here are the helpers of its operations, the snapshot and the
reconciliation with the backend.
-/

/-- The results of a call and the service after it. -/
abbrev Served (α : Type) := α × MovieService

/-- `MovieService::WrongThread`. -/
def wrongThread : MovieServiceResult :=
  .failure .invalidState
    (text "MovieService operation used the wrong actor thread")

/-- A movie plays or has played to its end. -/
def MovieState.playing (state : MovieState) : Bool :=
  state = .readOnlyPlayback ∨ state = .playbackEnded

/-- `MovieService::ValidateBackendState`. -/
def validateBackendState (expected : MovieState)
    (observation : MovieBackendObservation) : MovieServiceResult :=
  if !observation.result.ok then
    fromBackendResult observation.result "Movie backend observation failed"
  else if observation.playing ∧ observation.recording then
    .failure .integrityFailure (text
      "Movie backend reported simultaneous playback and recording") .unknown
  else if (expected = .inactive ∧ !observation.playing ∧ !observation.recording) ∨
      (expected = .readOnlyPlayback ∧ observation.playing ∧
        !observation.recording ∧ observation.readOnly) ∨
      (expected = .recording ∧ !observation.playing ∧
        observation.recording ∧ !observation.readOnly) then
    .success
  else
    .failure .integrityFailure (text
      "Movie backend physical state does not match the requested transition")
      .unknown

/-- `MovieService::ValidateBackendFor`. -/
def validateBackendFor (movie : Option MovieCheckpointMetadata)
    (observation : MovieBackendObservation) : MovieServiceResult :=
  let expected := movie.elim .inactive fun movie => stateOf movie.mode
  let valid := validateBackendState expected observation
  if !valid.ok then valid
  else if ∃ known ∈ movie, known.cursorKnown ∧
      (observation.currentFrame ≠ known.currentFrame ∨
        observation.currentInputCount ≠ known.currentInputCount) then
    .failure .integrityFailure
      (text "Movie backend cursor does not match the checkpoint") .unknown
  else .success

/-- `MovieService::ValidateDtm`, of the bytes of the file at the path. -/
def validateDtm (sha256 : ByteString → ByteString) (path : ByteString) (read : Option ByteString) :
    Except MovieServiceResult MovieCheckpointMetadata :=
  match if path = [] then none else DtmFile.load read with
  | none =>
    .error (.failure .artifactFailure (text "Unable to load DTM " ++ path))
  | some dtm =>
    if dtm.hasError then
      .error (.failure .artifactFailure (text "DTM validation failed for " ++ path))
    else
      .ok
        { mode := .readOnlyPlayback
          dtmSha256 := sha256 dtm.bytes
          gameId := dtm.gameId
          dtmBytes := dtm.bytes
          dtmPath := path
          startsFromSavestate := dtm.startsFromSavestate }

/-- `MovieService::ValidateCheckpoint`. -/
def validateCheckpoint (sha256 : ByteString → ByteString) (checkpoint : MovieCheckpointMetadata) :
    Except MovieServiceResult MovieCheckpointMetadata :=
  match if checkpoint.mode = .none then none
    else DtmFile.load (some checkpoint.dtmBytes) with
  | none =>
    .error (.failure .artifactFailure (text "Movie checkpoint does not contain a valid DTM"))
  | some dtm =>
    if checkpoint.dtmSha256 ≠ [] ∧ checkpoint.dtmSha256 ≠ sha256 dtm.bytes then
      .error (.failure .artifactFailure (text "Movie checkpoint DTM SHA-256 does not match"))
    else if checkpoint.gameId ≠ [] ∧ checkpoint.gameId ≠ dtm.gameId then
      .error (.failure .artifactFailure (text "Movie checkpoint game ID does not match its DTM"))
    else
      .ok { checkpoint with
        dtmSha256 := sha256 dtm.bytes
        gameId := dtm.gameId
        startsFromSavestate := dtm.startsFromSavestate }

namespace MovieService

variable (answers : MovieAnswers) (service : MovieService)

def taint : MovieService := { service with tainted := true }

/-- The service is tainted by an answer that leaves the guest unknown. -/
def taintedBy (integrity : GuestIntegrity) : MovieService :=
  if integrity = .unknown then service.taint else service

/-- `MovieService::BaseReceipt`. -/
def baseReceipt (operation : MovieOperation) : MovieOperationReceipt where
  result := .failure .backendFailure (text "Movie operation did not run")
  operation := operation
  state := service.state
  worksetEpoch := answers.activeEpoch
  reservation := service.reservation

/-- `MovieService::ValidateIdle`. -/
def validateIdle : MovieServiceResult :=
  if service.tainted then
    .failure .integrityFailure (text "MovieService is tainted") .unknown
  else if service.state ≠ .inactive ∨ service.reservation.isSet then
    .failure .invalidState (text "Another movie lifecycle is active")
  else .success

/-- `MovieService::AcquireReservation`. -/
def acquireReservation : Served MovieServiceResult :=
  if service.reservation.isSet then
    (.failure .invalidState (text "Movie input reservation is already held"), service)
  else
    let acquired := answers.acquireReservation
    if !acquired.result.ok then (acquired.result, service)
    else if !acquired.reservation.isSet then
      (.failure .reservationFailure
        (text "Input collaborator returned an invalid movie reservation"), service)
    else (.success, { service with reservation := acquired.reservation })

/-- `MovieService::ReleaseReservation`. -/
def releaseReservation : Served MovieServiceResult :=
  if !service.reservation.isSet then (.success, service)
  else if answers.releaseReservation.ok then
    (answers.releaseReservation, { service with reservation := .none })
  else (answers.releaseReservation, service)

/-- `MovieService::AcquirePauseAtPlaybackEnd`. -/
def acquirePauseAtPlaybackEnd : Served MovieServiceResult :=
  if service.pauseAtPlaybackEndOwned then
    (.failure .invalidState (text "Pause-at-playback-end ownership is already active"), service)
  else if !answers.acquirePause.ok then
    (fromBackendResult answers.acquirePause
      "Movie backend could not enable pause at playback end", service)
  else (.success, { service with pauseAtPlaybackEndOwned := true })

/-- `MovieService::ReleasePauseAtPlaybackEnd`. -/
def releasePauseAtPlaybackEnd : Served MovieServiceResult :=
  if !service.pauseAtPlaybackEndOwned then (.success, service)
  else if !answers.releasePause.ok then
    (.failure .integrityFailure (orText answers.releasePause.message
      "Movie backend could not restore pause-at-playback-end configuration") .unknown, service)
  else (.success, { service with pauseAtPlaybackEndOwned := false })

/-- Nothing is inherited, and no deferred checkpoint is pending. -/
def dropPrefix : MovieService :=
  { service with
    recordingPrefix := none
    recordingPrefixInputCount := 0
    deferredRecordingPairPending := false }

/-- `MovieService::RetireRecordingAfterBackendStop`. -/
def retireRecording : MovieService :=
  { service.dropPrefix with state := .inactive, activeMovie := none }

/-- The active movie is where the backend reported it. -/
def moveCursor (observed : MovieBackendObservation) : MovieService :=
  { service with
    activeMovie := service.activeMovie.map (·.observedAt observed) }

/-- `MovieService::SnapshotState`. -/
def snapshotState (expected : WorksetEpoch) : MovieStateSnapshot :=
  if !answers.onOwnerThread then ⟨wrongThread, expected, .unknown, true, 0, 0⟩
  else if !expected.isSet ∨ expected ≠ answers.activeEpoch then
    ⟨.failure .invalidState (text "Movie snapshot does not belong to the active workset"), expected,
      .unknown, true, 0, 0⟩
  else if service.tainted then
    ⟨.failure .integrityFailure (text "MovieService is tainted") .unknown,
      expected, .unknown, true, 0, 0⟩
  else if service.state.playing ≠ service.pauseAtPlaybackEndOwned then
    ⟨.failure .integrityFailure (text
      "MovieService pause-at-playback-end ownership is inconsistent") .unknown,
      expected, .unknown, true, 0, 0⟩
  else
    let known := service.activeMovie.filter (·.cursorKnown)
    ⟨.success, answers.activeEpoch, service.state, service.state ≠ .recording,
      known.elim 0 (·.currentFrame), known.elim 0 (·.currentInputCount)⟩

/-- `MovieService::ObservationFailure`. -/
def observationFailure (result : MovieServiceResult)
    (expected : WorksetEpoch) : MovieStateSnapshot :=
  ⟨result, expected, .unknown, true, 0, 0⟩

/-- The end of `ReconcilePausedState` where the backend contradicts the
service. -/
def failContradiction (snapshot : MovieStateSnapshot) (message : String) :
    Served MovieStateSnapshot :=
  ({ snapshot with
      result := .failure .integrityFailure (text message) .unknown
      state := .unknown }, { service with tainted := true, state := .unknown })

/-- The comparison of `ReconcilePausedState` by the state of the service. -/
def reconcileState (observed : MovieBackendObservation)
    (snapshot : MovieStateSnapshot) : Served MovieStateSnapshot :=
  match service.state with
  | .inactive =>
    if observed.playing ∨ observed.recording then
      service.failContradiction snapshot
        "Movie backend became active without MovieService ownership"
    else (snapshot, service)
  | .preparedReadOnlyPlayback =>
    if !observed.playing ∨ observed.recording ∨ !observed.readOnly then
      service.failContradiction snapshot
        "Prepared read-only playback no longer matches the movie backend"
    else (snapshot, service)
  | .readOnlyPlayback =>
    if !service.pauseAtPlaybackEndOwned then
      service.failContradiction snapshot
        "Read-only playback lacks pause-at-playback-end ownership"
    else if observed.playing ∧ !observed.recording ∧ observed.readOnly then
      (snapshot, service.moveCursor observed)
    else if !observed.playing ∧ !observed.recording ∧ observed.readOnly then
      ({ snapshot with state := .playbackEnded },
        { service.moveCursor observed with state := .playbackEnded })
    else
      service.failContradiction snapshot
        "Read-only playback changed to an unrequested movie mode"
  | .recording =>
    if service.pauseAtPlaybackEndOwned then
      service.failContradiction snapshot
        "Movie recording retained pause-at-playback-end ownership"
    else if service.reservation.isSet then
      service.failContradiction snapshot
        "Movie recording retained an exclusive controller reservation"
    else if !observed.recording ∨ observed.playing ∨ observed.readOnly then
      service.failContradiction snapshot
        "Movie recording disappeared or changed mode unexpectedly"
    else (snapshot, service.moveCursor observed)
  | .playbackEnded =>
    if !service.pauseAtPlaybackEndOwned then
      service.failContradiction snapshot
        "Ended playback lacks pause-at-playback-end ownership"
    else if observed.playing ∨ observed.recording ∨ !observed.readOnly then
      service.failContradiction snapshot
        "Ended playback lost its retained read-only backend evidence"
    else
      match service.activeMovie.filter (·.cursorKnown) with
      | none => (snapshot, service)
      | some known =>
        ({ snapshot with
            currentFrame := known.currentFrame
            currentInputCount := known.currentInputCount }, service)
  | .unknown =>
    service.failContradiction snapshot
      "MovieService has an unknown owned state"

/-- `MovieService::ReconcilePausedState`. -/
def reconcilePausedState (expected : WorksetEpoch) : Served MovieStateSnapshot :=
  if !answers.onOwnerThread then
    (observationFailure wrongThread expected, service)
  else if !expected.isSet ∨ expected ≠ answers.activeEpoch then
    (observationFailure (.failure .invalidState
      (text "Movie observation does not belong to the active workset")) expected, service)
  else if service.tainted then
    (observationFailure (.failure .integrityFailure
      (text "MovieService is tainted") .unknown) expected, service)
  else
    let observed := answers.observation
    if !observed.result.ok then
      let failure :=
        fromBackendResult observed.result "Movie backend observation failed"
      (observationFailure failure expected, service.taintedBy failure.integrity)
    else if observed.playing ∧ observed.recording then
      (observationFailure (.failure .integrityFailure (text
        "Movie backend reported simultaneous playback and recording") .unknown)
        expected, { service with tainted := true, state := .unknown })
    else
      service.reconcileState observed
        ⟨.success, answers.activeEpoch, service.state, observed.readOnly,
          observed.currentFrame, observed.currentInputCount⟩

end MovieService

end Savor.Movie

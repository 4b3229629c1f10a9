import Savor.Movie.MovieService

/-!
# Playing and recording movies

The operations of the service between the savestates: read-only playback and
recording.
-/

namespace Savor.Movie

open Program
open DtmFile

/-!
## Read-only playback

A playback is prepared while the guest core restarts, started, and stopped or
abandoned.  Every failure of the preparation takes back what it had staged.
-/

namespace MovieService

variable (answers : MovieAnswers) (service : MovieService)
variable (receipt : MovieOperationReceipt)

/-- A staged movie is discarded and the reservation released; what fails is
added to the primary result. -/
def compensateStaging (primary : MovieServiceResult) : Served MovieOperationReceipt :=
  let discarded := answers.discardPrepared
  let (released, service) := service.releaseReservation answers
  if discarded.ok ∧ released.ok then
    ({ receipt with result := primary }, service)
  else
    let message := primary.message ++
      (if !discarded.ok then text "; " ++
        orText discarded.message "prepared movie staging cleanup failed"
      else []) ++
      (if !released.ok then text "; " ++
        orText released.message "movie input reservation cleanup failed"
      else [])
    ({ receipt with
        result :=
          { primary with
            code := .integrityFailure
            integrity := .unknown
            message := message } }, service.taint)

/-- A movie whose core was stopped is stopped, and the reservation released. -/
def abandonStoppedCore (primary : MovieServiceResult) : Served MovieOperationReceipt :=
  ({ receipt with result := { primary with integrity := .unknown } },
    (service.taint.releaseReservation answers).2)

/-- The same for a movie whose core was started. -/
def abandonStartedCore (primary : MovieServiceResult) : Served MovieOperationReceipt :=
  let (receipt, service) := service.abandonStoppedCore answers receipt primary
  (receipt, { service with preparedCoreStarted := false })

variable (movie : MovieCheckpointMetadata)

/-- The end of a preparation, after the prepared core was started. -/
def finishPreparation (startup : Option ByteString) : Served MovieOperationReceipt :=
  let service := { service with preparedCoreStarted := true }
  match answers.validateAfterCoreStart with
  | none =>
    service.abandonStartedCore answers receipt (.failure .integrityFailure (text
        "Prepared movie core has no post-boot stop-point validation authority") .unknown)
  | some validated =>
    let observed := validateBackendFor (some movie) answers.observation
    if !validated.ok then
      service.abandonStartedCore answers receipt validated
    else if !observed.ok then
      service.abandonStartedCore answers receipt observed
    else
      let preparation := ⟨service.nextPreparation⟩
      ({ receipt with
          result := .success
          state := .preparedReadOnlyPlayback
          worksetEpoch := answers.activeEpoch
          reservation := service.reservation
          preparation := preparation
          dtmSha256 := movie.dtmSha256
          artifactPath := movie.dtmPath
          startingSavestate := startup },
        { service with
          preparation := preparation
          nextPreparation := service.nextPreparation + 1
          state := .preparedReadOnlyPlayback
          activeMovie := some (movie.observedAt answers.observation)
          preparedStartingSavestate := startup })

/-- The restart of the guest core for a staged movie. -/
def restartCore (startup : Option ByteString) : Served MovieOperationReceipt :=
  if !answers.stopCore.ok then
    (service.taintedBy answers.stopCore.integrity).compensateStaging answers
      receipt (fromBackendResult answers.stopCore "Movie backend failed to stop the guest core")
  else
    match answers.settleAfterCoreStop with
    | none =>
      service.taint.compensateStaging answers receipt
        (.failure .integrityFailure
          (text "Stopped movie core has no stop-point boundary authority") .unknown)
    | some settled =>
      if !settled.ok then service.abandonStoppedCore answers receipt settled
      else if !answers.startCore.ok then
        service.abandonStoppedCore answers receipt
          (.failure .integrityFailure (orText answers.startCore.message
            "Movie backend failed to start the prepared movie core paused") .unknown)
      else service.finishPreparation answers receipt movie startup

/-- The checks between staging a movie and stopping the guest core. -/
def validateStaging (startup : Option ByteString) : Served MovieOperationReceipt :=
  if movie.startsFromSavestate ≠ startup.isSome then
    service.compensateStaging answers receipt (.failure .artifactFailure
      (text (if movie.startsFromSavestate then
        "DTM requires a startup savestate that is unavailable"
      else "Backend returned an unexpected startup savestate")))
  else if startup.isSome ∧ !answers.startupReadable then
    service.compensateStaging answers receipt (.failure .artifactFailure
      (text "Movie startup savestate is not readable"))
  else
    match answers.validateBeforeCoreStop with
    | none =>
      service.taint.compensateStaging answers receipt
        (.failure .integrityFailure
          (text "Movie preparation has no pre-stop validation authority") .unknown)
    | some ready =>
      if service.nextPreparation = 0 then
        service.compensateStaging answers receipt (.failure .integrityFailure
          (text "Movie preparation identity space is exhausted"))
      else if !ready.ok then
        (service.taintedBy ready.integrity).compensateStaging answers receipt ready
      else service.restartCore answers receipt movie startup

/-- The staging of a movie under a new reservation. -/
def stagePlayback : Served MovieOperationReceipt :=
  let prepared := answers.prepareReadOnlyPlayback
  if !prepared.result.ok then
    let failed : MovieServiceResult := .failure .backendFailure
      (orText prepared.result.message
        "Movie backend failed to prepare playback") prepared.result.integrity
    let (released, service) :=
      (service.taintedBy prepared.result.integrity).releaseReservation answers
    if released.ok then ({ receipt with result := failed }, service)
    else
      ({ receipt with
          result :=
            { failed with
              code := .integrityFailure
              integrity := .unknown
              message := failed.message ++ text "; " ++ released.message } }, service.taint)
  else
    service.validateStaging answers receipt movie prepared.startupSavestate

/-- `MovieService::PrepareReadOnlyPlayback`. -/
def prepareReadOnlyPlayback (sha256 : ByteString → ByteString)
    (dtmPath : ByteString) : Served MovieOperationReceipt :=
  let receipt := service.baseReceipt answers .preparePlayback
  let current := service.snapshotState answers answers.activeEpoch
  if !answers.onOwnerThread then
    ({ operation := .preparePlayback, result := wrongThread }, service)
  else if !answers.activeEpoch.isSet then
    ({ receipt with
        result := .failure .invalidState
          (text "Read-only playback requires an active workset") }, service)
  else if !current.result.ok then
    ({ receipt with result := current.result }, service)
  else if !service.validateIdle.ok then
    ({ receipt with result := service.validateIdle }, service)
  else
    match validateDtm sha256 dtmPath answers.dtmFile with
    | .error invalid => ({ receipt with result := invalid }, service)
    | .ok movie =>
      let (acquired, reserved) := service.acquireReservation answers
      if !acquired.ok then ({ receipt with result := acquired }, reserved)
      else reserved.stagePlayback answers receipt movie

/-- `MovieService::StartPreparedReadOnlyPlayback`. -/
def startPreparedReadOnlyPlayback (preparation : MoviePreparationId) :
    Served MovieOperationReceipt :=
  let receipt := service.baseReceipt answers .startPlayback
  if !answers.onOwnerThread then
    ({ receipt with result := wrongThread }, service)
  else
    match service.activeMovie with
    | none =>
      ({ receipt with
          result := .failure .invalidState (text
            "Movie playback requires the exact active prepared-movie handle")
          }, service)
    | some movie =>
      if !answers.activeEpoch.isSet ∨
          service.state ≠ .preparedReadOnlyPlayback ∨
          !preparation.isSet ∨ preparation ≠ service.preparation then
        ({ receipt with
            result := .failure .invalidState (text
              "Movie playback requires the exact active prepared-movie handle")
            }, service)
      else if !answers.activatePlayback.ok then
        let failed := fromBackendResult answers.activatePlayback
          "Movie backend failed to activate the prepared playback"
        ({ receipt with result := failed }, service.taintedBy failed.integrity)
      else
        let observed := validateBackendFor (some movie) answers.observation
        if !observed.ok then
          ({ receipt with result := { observed with integrity := .unknown } }, service.taint)
        else
          let (pause, owned) := service.acquirePauseAtPlaybackEnd answers
          if !pause.ok then
            let (_, released) := owned.taint.releaseReservation answers
            ({ receipt with result := { pause with integrity := .unknown } },
              { released with state := .unknown })
          else
            ({ receipt with
                result := .success
                state := .readOnlyPlayback
                worksetEpoch := answers.activeEpoch
                reservation := service.reservation
                dtmSha256 := movie.dtmSha256
                artifactPath := movie.dtmPath
                startingSavestate := service.preparedStartingSavestate },
              { owned with
                activeMovie := some (movie.observedAt answers.observation)
                state := .readOnlyPlayback
                preparation := .none
                preparedCoreStarted := false
                preparedStartingSavestate := none })

/-- `MovieService::AbandonPreparedReadOnlyPlayback`. -/
def abandonPreparedReadOnlyPlayback (preparation : MoviePreparationId) :
    Served MovieOperationReceipt :=
  let receipt := service.baseReceipt answers .preparePlayback
  if !answers.onOwnerThread then
    ({ receipt with result := wrongThread }, service)
  else if service.state ≠ .preparedReadOnlyPlayback ∨ !preparation.isSet ∨
      preparation ≠ service.preparation then
    ({ receipt with
        result := .failure .invalidState
          (text "No matching prepared movie playback is active") }, service)
  else
    let discarded :=
      if service.preparedCoreStarted then answers.stopMovie
      else answers.discardPrepared
    let (released, after) := service.releaseReservation answers
    let ended :=
      { after with
        state := .inactive
        preparation := .none
        activeMovie := none
        preparedStartingSavestate := none
        preparedCoreStarted := false }
    if discarded.ok ∧ released.ok then
      ({ receipt with
          result := .success
          state := .inactive
          reservation := ended.reservation }, ended)
    else
      let message := text "Prepared movie cleanup failed" ++
        (if !discarded.ok ∧ discarded.message ≠ [] then
          text "; " ++ discarded.message else []) ++
        (if !released.ok ∧ released.message ≠ [] then
          text "; " ++ released.message else [])
      ({ receipt with
          result := .failure .integrityFailure message .unknown
          state := .inactive
          reservation := ended.reservation }, ended.taint)

/-- A cleanup failure becomes the result, or is added to the one there is. -/
def addFailure (result failed : MovieServiceResult) : MovieServiceResult :=
  if result.ok ∨ result.message = [] then failed
  else { result with message := result.message ++ text "; " ++ failed.message }

/-- The end of `StopPlayback`, after the backend stopped the movie: the
ownership of the pause is released, then the reservation. -/
def releasePlayback (result : MovieServiceResult) : Served MovieOperationReceipt :=
  let (pause, paused) := service.releasePauseAtPlaybackEnd answers
  let (result, paused) :=
    if !pause.ok then
      (addFailure result { pause with integrity := .unknown },
        { paused.taint with state := .unknown })
    else (result, paused)
  let (released, after) := paused.releaseReservation answers
  let (result, after) :=
    if !released.ok then
      (addFailure result released, { after.taint with state := .unknown })
    else (result, after)
  let ended := { after with activeMovie := none }
  if !result.ok ∧ ended.state = .unknown then
    ({ receipt with
        result := result
        state := ended.state
        reservation := ended.reservation }, ended)
  else
    ({ receipt with
        result := .success
        state := .inactive
        reservation := .none }, { ended with state := .inactive })

/-- `MovieService::StopPlayback`: a playback that has ended is stopped
already. -/
def stopPlayback : Served MovieOperationReceipt :=
  let receipt := service.baseReceipt answers .stopPlayback
  if !answers.onOwnerThread then
    ({ operation := .stopPlayback, result := wrongThread }, service)
  else
    match service.state with
    | .playbackEnded => service.releasePlayback answers receipt .success
    | .readOnlyPlayback =>
      let stopped := answers.stopMovie
      if !stopped.ok then
        ({ receipt with
            result := .failure .backendFailure
              (orText stopped.message "Movie playback stop failed")
              stopped.integrity }, service.taintedBy stopped.integrity)
      else
        let inactive := validateBackendState .inactive answers.observation
        if !inactive.ok then
          { service.taint with state := .unknown }.releasePlayback answers
            receipt { inactive with integrity := .unknown }
        else service.releasePlayback answers receipt .success
    | _ =>
      ({ receipt with
          result := .failure .invalidState
            (text "No read-only movie playback is active") }, service)

end MovieService

/-!
## Recording

A recording begins anew or branches from the playback at its cursor.  What it
inherits, from the playback, a restored checkpoint or a deferred one, is kept as
its prefix until it is finalized or cancelled.
-/

/-- The bytes of the header and so many poll records, as a `size_t`. -/
def prefixSize (inputCount : UInt64) : UInt64 :=
  UInt64.ofNat kMinHeader + inputCount * UInt64.ofNat pollSize

/-- `std::equal` on the poll records of two movies within a prefix. -/
def samePrefix (size : UInt64) (first second : ByteString) : Bool :=
  (first.take size.toNat).drop kMinHeader = (second.take size.toNat).drop kMinHeader

namespace MovieService

variable (answers : MovieAnswers) (service : MovieService)

/-- The end of `StartRecording`: the active movie is the prefix, recorded. -/
def enterRecording (receipt : MovieOperationReceipt)
    (observed : MovieBackendObservation) : Served MovieOperationReceipt :=
  let movie := service.recordingPrefix.getD {}
  ({ receipt with
      result := .success
      state := .recording
      reservation := .none },
    { service with
      state := .recording
      activeMovie := some { movie.observedAt observed with mode := .recording } })

/-- A recording that the backend did not enter is cancelled. -/
def cancelUnentered (receipt : MovieOperationReceipt)
    (invalid : MovieServiceResult) : Served MovieOperationReceipt :=
  let cancelled := answers.cancelRecording
  let message := orText invalid.message
    "Movie backend did not enter writable recording mode"
  if !cancelled.ok then
    ({ receipt with
        result := .failure .integrityFailure
          (message ++ text "; recording compensation failed: " ++
            orText cancelled.message "backend cancellation failed") .unknown }, service.taint)
  else
    let (released, after) := service.releaseReservation answers
    let retired := after.retireRecording
    let message := message ++
      (if !released.ok then text "; input-reservation release failed: " ++
        orText released.message "reservation release failed"
      else [])
    ({ receipt with
        result := .failure .integrityFailure message .unknown
        state := retired.state
        reservation := retired.reservation }, retired.taint)

/-- The recording was branched from the playback: its reservation is released,
then the ownership of the pause. -/
def leavePlayback (receipt : MovieOperationReceipt)
    (observed : MovieBackendObservation) : Served MovieOperationReceipt :=
  let (released, after) := service.releaseReservation answers
  if !released.ok then
    ({ receipt with result := { released with integrity := .unknown } }, after.dropPrefix.taint)
  else
    let (pause, paused) := after.releasePauseAtPlaybackEnd answers
    if !pause.ok then
      ({ receipt with result := { pause with integrity := .unknown } },
        { paused.dropPrefix.taint with state := .unknown })
    else paused.enterRecording receipt observed

/-- The part of `StartRecording` that asks the backend. -/
def beginRecording (receipt : MovieOperationReceipt) (branching : Bool) :
    Served MovieOperationReceipt :=
  let started := if branching then answers.branchToRecording else answers.beginRecording
  if !started.ok then
    ({ receipt with
        result := .failure .backendFailure
          (orText started.message "Movie recording start failed")
          started.integrity }, (service.taintedBy started.integrity).dropPrefix)
  else
    let observed := answers.observation
    let validated := validateBackendState .recording observed
    if !validated.ok then service.cancelUnentered answers receipt validated
    else if branching then service.leavePlayback answers receipt observed
    else service.enterRecording receipt observed

/-- The part of `StartRecording` that keeps the inherited movie. -/
def branchRecording (receipt : MovieOperationReceipt)
    (movie : MovieCheckpointMetadata) (inputCount : UInt64) : Served MovieOperationReceipt :=
  let fresh := service.dropPrefix
  if inputCount.toNat >
      (2 ^ 64 - 1 - kMinHeader) / pollSize then
    ({ receipt with
        result := .failure .artifactFailure (text
          "Read-only playback cursor exceeds the representable DTM prefix") }, fresh)
  else if (prefixSize inputCount).toNat > movie.dtmBytes.length then
    ({ receipt with
        result := .failure .artifactFailure (text
          "Read-only playback cursor exceeds the admitted DTM payload") }, fresh)
  else
    { fresh with
      recordingPrefix := some movie
      recordingPrefixInputCount := inputCount }.beginRecording answers receipt true

/-- `MovieService::StartRecording`. -/
def startRecording : Served MovieOperationReceipt :=
  let receipt := service.baseReceipt answers .startRecording
  let current := service.snapshotState answers answers.activeEpoch
  if !answers.onOwnerThread then
    ({ operation := .startRecording, result := wrongThread }, service)
  else if !answers.activeEpoch.isSet then
    ({ receipt with
        result := .failure .invalidState
          (text "Recording requires an active workset") }, service)
  else if !current.result.ok then
    ({ receipt with result := current.result }, service)
  else if service.state = .readOnlyPlayback then
    match service.activeMovie with
    | some movie =>
      if service.reservation.isSet then
        service.branchRecording answers receipt movie current.currentInputCount
      else
        ({ receipt with
            result := .failure .integrityFailure (text
              "Read-only playback lacks its exact movie or reservation")
              .unknown }, service.taint)
    | none =>
      ({ receipt with
          result := .failure .integrityFailure (text
            "Read-only playback lacks its exact movie or reservation")
            .unknown }, service.taint)
  else if !service.validateIdle.ok then
    ({ receipt with result := service.validateIdle }, service)
  else service.dropPrefix.beginRecording answers receipt false

/-- The checkpoint that the backend captured of the recording. -/
def recordingCheckpoint : MovieCheckpointMetadata :=
  { answers.captureCheckpoint.checkpoint with
    mode := .recording
    cursorKnown := true }

/-- The checkpoint that is verified before a recording with a prefix is
finalized. -/
def verifyPrefix (sha256 : ByteString → ByteString) (inherited : MovieCheckpointMetadata) :
    Except (Served MovieServiceResult) MovieCheckpointMetadata :=
  let pending := answers.captureCheckpoint
  if !pending.result.ok then
    .error (fromBackendResult pending.result "Recording prefix checkpoint capture failed",
      service.taintedBy pending.result.integrity)
  else
    match validateCheckpoint sha256 (recordingCheckpoint answers) with
    | .error invalid => .error (invalid, service)
    | .ok checkpoint =>
      let size := prefixSize service.recordingPrefixInputCount
      if service.deferredRecordingPairPending ∧
          checkpoint.currentInputCount ≤ service.recordingPrefixInputCount then
        .error (.failure .integrityFailure (text
          "Final recording contains no input after its deferred checkpoint"), service)
      else if checkpoint.dtmBytes.length < size.toNat ∨
          inherited.dtmBytes.length < size.toNat ∨
          !samePrefix size inherited.dtmBytes checkpoint.dtmBytes then
        .error (.failure .integrityFailure (text
          "Recording no longer preserves the exact inherited DTM prefix") .unknown, service.taint)
      else .ok checkpoint

/-- The end of a finalization that fails after the backend finalized. -/
def failAfterFinalize (receipt : MovieOperationReceipt)
    (failure : MovieServiceResult) : Served MovieOperationReceipt :=
  let message := failure.message ++
    (if answers.discardFailure ≠ [] then
      text "; finalized-artifact cleanup failed: " ++ answers.discardFailure
    else [])
  ({ receipt with
      result := { failure with message := message, integrity := .unknown } }, service.taint)

/-- The final movie is an exact stream of inputs that goes on after the deferred
checkpoint: what is wrong with it. -/
def deferredPairFailure (prefinal : Option MovieCheckpointMetadata)
    (deferredCount : UInt64) : Option MovieServiceResult :=
  let loaded := load answers.dtmFile
  let reason := (loaded.bind pollEditingReason).getD []
  let exact := ∃ checkpoint ∈ prefinal, ∃ dtm ∈ loaded,
    dtm.pollEditingReason = none ∧ dtm.inputCount = dtm.gcPollCount ∧
      dtm.inputCount = checkpoint.currentInputCount.toNat ∧ deferredCount.toNat < dtm.inputCount
  if exact then none
  else
    some (.failure .integrityFailure (if reason = [] then
        text "Final DTM does not retain the required post-checkpoint input trail"
      else text "Final DTM is not an exact GC input stream: " ++ reason) .unknown)

/-- The checks of the files that a finalization published. -/
def checkPublished (sha256 : ByteString → ByteString) (path : ByteString)
    (deferredPair : Bool) (deferredCount : UInt64) (prefinal : Option MovieCheckpointMetadata) :
    Except MovieServiceResult MovieCheckpointMetadata :=
  match validateDtm sha256 path answers.dtmFile with
  | .error invalid => .error invalid
  | .ok recorded =>
    let companion := answers.finalizeRecording.startingSavestate
    match if deferredPair then
        deferredPairFailure answers prefinal deferredCount
      else none with
    | some failure => .error failure
    | none =>
      if recorded.startsFromSavestate ≠ companion.isSome then
        .error (.failure .artifactFailure (text
          "Final DTM and recording starting-state companion disagree") .unknown)
      else if companion.isSome ∧ (companion ≠ some (path ++ text ".sav") ∨
          !answers.companionPublished) then
        .error (.failure .artifactFailure (text
          "Recording starting-state companion was not published at <dtm>.sav") .unknown)
      else .ok recorded

/-- The part of `FinalizeRecording` that follows the verification of the
prefix. -/
def publishRecording (sha256 : ByteString → ByteString) (receipt : MovieOperationReceipt)
    (prefinal : Option MovieCheckpointMetadata) : Served MovieOperationReceipt :=
  let finalized := answers.finalizeRecording
  if !finalized.result.ok then
    ({ receipt with
        result := .failure .backendFailure
          (orText finalized.result.message "Movie recording finalization failed")
          finalized.result.integrity }, service.taintedBy finalized.result.integrity)
  else
    let inactive := validateBackendState .inactive answers.laterObservation
    if !inactive.ok then
      { service with state := .unknown }.failAfterFinalize answers receipt
        inactive
    else
      let (released, after) := service.releaseReservation answers
      let retired := after.retireRecording
      let receipt :=
        { receipt with
          state := retired.state
          reservation := retired.reservation }
      if !released.ok then retired.failAfterFinalize answers receipt released
      else
        match checkPublished answers sha256 receipt.artifactPath
            service.deferredRecordingPairPending
            service.recordingPrefixInputCount prefinal with
        | .error failure => retired.failAfterFinalize answers receipt failure
        | .ok recorded =>
          ({ receipt with
              result := .success
              reservation := .none
              dtmSha256 := recorded.dtmSha256
              startingSavestate := finalized.startingSavestate }, retired)

/-- `MovieService::FinalizeRecording`. -/
def finalizeRecording (sha256 : ByteString → ByteString)
    (dtmPath : ByteString) : Served MovieOperationReceipt :=
  let receipt :=
    { service.baseReceipt answers .finalizeRecording with
      artifactPath := dtmPath }
  if !answers.onOwnerThread then
    ({ operation := .finalizeRecording
       artifactPath := dtmPath
       result := wrongThread }, service)
  else if service.state ≠ .recording then
    ({ receipt with
        result := .failure .invalidState
          (text "No movie recording is active") }, service)
  else if !answers.outputDirectory then
    ({ receipt with
        result := .failure .invalidArgument
          (text "Recording output must be a valid caller-declared path: " ++ dtmPath) }, service)
  else if answers.outputExists then
    ({ receipt with
        result := .failure .invalidArgument
          (text "Recording output must be a new caller-declared path: " ++ dtmPath) }, service)
  else
    let (current, observed) := service.reconcilePausedState answers answers.activeEpoch
    if !current.result.ok then
      ({ receipt with result := current.result }, observed)
    else
      match observed.recordingPrefix with
      | none => observed.publishRecording answers sha256 receipt none
      | some inherited =>
        match observed.verifyPrefix answers sha256 inherited with
        | .error (failure, after) => ({ receipt with result := failure }, after)
        | .ok checkpoint => observed.publishRecording answers sha256 receipt (some checkpoint)

/-- `MovieService::CancelRecording`. -/
def cancelRecording : Served MovieOperationReceipt :=
  let receipt := service.baseReceipt answers .cancelRecording
  if !answers.onOwnerThread then
    ({ operation := .cancelRecording, result := wrongThread }, service)
  else if service.state ≠ .recording then
    ({ receipt with
        result := .failure .invalidState
          (text "No movie recording is active") }, service)
  else
    let cancelled := answers.cancelRecording
    if !cancelled.ok then
      ({ receipt with
          result := .failure .backendFailure
            (orText cancelled.message "Movie recording cancellation failed")
            cancelled.integrity }, service.taintedBy cancelled.integrity)
    else
      let inactive := validateBackendState .inactive answers.observation
      let (result, checked) :=
        if !inactive.ok then
          ({ inactive with integrity := .unknown }, { service.taint with state := .unknown })
        else (.success, service)
      let (released, after) := checked.releaseReservation answers
      let (result, after) :=
        if !released.ok then
          (addFailure result released, { after.taint with state := .unknown })
        else (result, after)
      let ended := { after.dropPrefix with activeMovie := none }
      if !result.ok ∧ ended.state = .unknown then
        ({ receipt with
            result := result
            state := ended.state
            reservation := ended.reservation }, ended)
      else
        ({ receipt with
            result := .success
            state := .inactive
            reservation := .none }, { ended with state := .inactive })

/-- The movie of a checkpoint: of a playback the active movie, of a recording
what the backend captures. -/
def checkpointMovie (observed : MovieStateSnapshot) :
    Except (Served MovieServiceResult) MovieCheckpointMetadata :=
  match service.activeMovie with
  | none =>
    .error (.failure .invalidState (text "No movie is active"), service)
  | some movie =>
    if service.state.playing then
      .ok { movie with
        currentFrame := observed.currentFrame
        currentInputCount := observed.currentInputCount
        cursorKnown := true }
    else if service.state = .recording then
      let captured := answers.captureCheckpoint
      if !captured.result.ok then
        .error (.failure .backendFailure (orText captured.result.message
            "Recording checkpoint capture failed") captured.result.integrity,
          service.taintedBy captured.result.integrity)
      else .ok (recordingCheckpoint answers)
    else
      .error (.failure .invalidState (text "No movie is active"), service)

/-- `MovieService::CaptureCheckpoint`. -/
def captureCheckpoint (sha256 : ByteString → ByteString) : Served MovieCheckpointReceipt :=
  if !answers.onOwnerThread then ({ result := wrongThread }, service)
  else
    let receipt : MovieCheckpointReceipt := { worksetEpoch := answers.activeEpoch }
    let (observed, service) := service.reconcilePausedState answers answers.activeEpoch
    if !observed.result.ok then
      ({ receipt with result := observed.result }, service)
    else
      match service.checkpointMovie answers observed with
      | .error (failure, after) => ({ receipt with result := failure }, after)
      | .ok movie =>
        match validateCheckpoint sha256 movie with
        | .error invalid => ({ receipt with result := invalid }, service)
        | .ok checkpoint =>
          ({ receipt with
              result := .success
              checkpoint := some checkpoint }, service)

/-- `MovieService::CaptureDeferredRecordingPairCheckpoint`. -/
def captureDeferredRecordingPairCheckpoint
    (sha256 : ByteString → ByteString) : Served MovieCheckpointReceipt :=
  if !answers.onOwnerThread then ({ result := wrongThread }, service)
  else
    let receipt : MovieCheckpointReceipt := { worksetEpoch := answers.activeEpoch }
    if service.state ≠ .recording then
      ({ receipt with
          result := .failure .invalidState (text
            "Deferred recording-pair capture requires an active recording") }, service)
    else if service.deferredRecordingPairPending then
      ({ receipt with
          result := .failure .invalidState (text
            "A deferred recording-pair checkpoint is already pending") }, service)
    else
      let (receipt, service) := service.captureCheckpoint answers sha256
      if !receipt.result.ok then (receipt, service)
      else
        match receipt.checkpoint with
        | none =>
          ({ receipt with
              result := .failure .integrityFailure (text
                "Deferred recording-pair checkpoint lacks exact recording evidence") }, service)
        | some checkpoint =>
          if checkpoint.mode ≠ .recording ∨ !checkpoint.cursorKnown ∨
              checkpoint.dtmBytes = [] then
            ({ receipt with
                result := .failure .integrityFailure (text
                  "Deferred recording-pair checkpoint lacks exact recording evidence") }, service)
          else
            (receipt,
              { service with
                recordingPrefix := some checkpoint
                recordingPrefixInputCount := checkpoint.currentInputCount
                deferredRecordingPairPending := true })

end MovieService
end Savor.Movie


import Savor.Movie.RecordingOwnership

/-!
# What leaves a recording alone

Most exits of the operations taint the service or leave alone whether it
records, what the recording inherits, and what a prepared restore remembers.
Such exits compose.
-/

namespace Savor.Movie

open Program
open MovieService

/-- What matters for the recording of a service. -/
structure RecordingView where
  recording : Bool
  inherited : Option MovieCheckpointMetadata
  inputCount : UInt64
  (deferred restorePrepared originalRecording tainted : Bool)

/-- The view of a service. -/
def MovieService.view (service : MovieService) : RecordingView where
  recording := service.state = .recording
  inherited := service.recordingPrefix
  inputCount := service.recordingPrefixInputCount
  deferred := service.deferredRecordingPairPending
  restorePrepared := service.restorePrepared
  originalRecording := service.originalState = .recording
  tainted := service.tainted

/-- The later service is tainted or shows the same view. -/
def Framed (before after : MovieService) : Prop := after.tainted = true ∨ after.view = before.view

namespace Framed

variable {first second third : MovieService}

theorem refl (service : MovieService) : Framed service service := Or.inr rfl

theorem of_tainted (tainted : second.tainted = true) : Framed first second := Or.inl tainted

theorem trans (early : Framed first second) (late : Framed second third) : Framed first third := by
  rcases early with tainted | earlier
  · left
    rcases late with known | same
    · exact known
    have kept : third.tainted = second.tainted := congrArg RecordingView.tainted same
    rw [kept]
    exact tainted
  · exact late.imp_right fun same => same.trans earlier

theorem tainted (framed : Framed first second) (tainted : first.tainted = true) :
    second.tainted = true := by
  rcases framed with known | same
  · exact known
  have kept : second.tainted = first.tainted := congrArg RecordingView.tainted same
  rw [kept]
  exact tainted

end Framed

section Parts

variable {answers : MovieAnswers} {service : MovieService}

theorem framed_taintedBy (service : MovieService) (integrity : GuestIntegrity) :
    Framed service (service.taintedBy integrity) := by
  unfold taintedBy
  split
  · exact .of_tainted rfl
  · exact .refl service

/-- The reservation is not in the view. -/
theorem framed_releaseReservation (answers : MovieAnswers) (service : MovieService) :
    Framed service (service.releaseReservation answers).2 := by
  obtain ⟨_, ⟨-, released⟩ | ⟨-, -, -, same⟩⟩ := releaseReservation_cases answers service
  · rw [released]
    exact Or.inr rfl
  · rw [same]
    exact .refl service

end Parts

section Playback

variable {answers : MovieAnswers} {service : MovieService}

section

variable (receipt : MovieOperationReceipt) (primary : MovieServiceResult)
include receipt primary

theorem framed_compensateStaging :
    Framed service (service.compensateStaging answers receipt primary).2 := by
  have framed := framed_releaseReservation answers service
  unfold compensateStaging
  dsimp only
  split
  · exact framed
  · exact .of_tainted rfl

theorem framed_abandonStoppedCore :
    Framed service (service.abandonStoppedCore answers receipt primary).2 :=
  Framed.trans (Framed.of_tainted rfl) (framed_releaseReservation answers service.taint)

theorem framed_abandonStartedCore :
    Framed service (service.abandonStartedCore answers receipt primary).2 :=
  (framed_abandonStoppedCore receipt primary).trans (Or.inr rfl)

end

section

variable (other : service.state ≠ .recording) (receipt : MovieOperationReceipt)
variable (movie : MovieCheckpointMetadata)
include other receipt movie

theorem framed_finishPreparation (startup : Option ByteString) : Framed service
      (service.finishPreparation answers receipt movie startup).2 := by
  have started : Framed service { service with preparedCoreStarted := true } := Or.inr rfl
  unfold finishPreparation
  dsimp only
  split
  · exact started.trans (framed_abandonStartedCore _ _)
  split
  · exact started.trans (framed_abandonStartedCore _ _)
  split
  · exact started.trans (framed_abandonStartedCore _ _)
  · right
    simp [view, other]

theorem framed_restartCore (startup : Option ByteString) :
    Framed service (service.restartCore answers receipt movie startup).2 := by
  unfold restartCore
  split
  · exact (framed_taintedBy _ _).trans (framed_compensateStaging _ _)
  split
  · exact Framed.trans (.of_tainted rfl) (framed_compensateStaging _ _)
  split
  · exact framed_abandonStoppedCore _ _
  split
  · exact framed_abandonStoppedCore _ _
  · exact framed_finishPreparation other _ _ _

theorem framed_validateStaging (startup : Option ByteString) : Framed service
      (service.validateStaging answers receipt movie startup).2 := by
  unfold validateStaging
  split
  · exact framed_compensateStaging _ _
  split
  · exact framed_compensateStaging _ _
  split
  · exact Framed.trans (.of_tainted rfl) (framed_compensateStaging _ _)
  split
  · exact framed_compensateStaging _ _
  split
  · exact (framed_taintedBy _ _).trans (framed_compensateStaging _ _)
  · exact framed_restartCore other _ _ _

theorem framed_stagePlayback : Framed service (service.stagePlayback answers receipt movie).2 := by
  unfold stagePlayback
  dsimp only
  split
  · split
    · exact (framed_taintedBy _ _).trans (framed_releaseReservation answers _)
    · exact .of_tainted rfl
  · exact framed_validateStaging other _ _ _

end

/-- A preparation leaves the recording alone. -/
theorem framed_prepareReadOnlyPlayback (sha256 : ByteString → ByteString) (dtmPath : ByteString) :
    Framed service (service.prepareReadOnlyPlayback answers sha256 dtmPath).2 := by
  unfold prepareReadOnlyPlayback
  dsimp only
  split
  · exact .refl service
  split
  · exact .refl service
  split
  · exact .refl service
  split
  · exact .refl service
  next idle =>
    rw [Bool.not_eq_true', Bool.not_eq_false] at idle
    obtain ⟨-, inactive, -⟩ := validateIdle_ok idle
    split
    · exact .refl service
    obtain ⟨id, -, -, acquired⟩ | ⟨result, failed, refused⟩ :=
      acquireReservation_cases answers service
    · have reserved : Framed service
          { service with reservation := id } := Or.inr rfl
      rw [acquired]
      exact reserved.trans (framed_stagePlayback (by simp [inactive]) _ _)
    rw [refused]
    dsimp only
    rw [if_pos (by simp [failed])]
    exact .refl service

/-- So does the start of a prepared playback. -/
theorem framed_startPreparedReadOnlyPlayback (preparation : MoviePreparationId) :
    Framed service (service.startPreparedReadOnlyPlayback answers preparation).2 := by
  unfold startPreparedReadOnlyPlayback
  dsimp only
  split
  · exact .refl service
  split
  · exact .refl service
  split
  · exact .refl service
  next exact =>
    push Not at exact
    obtain ⟨-, prepared, -, -⟩ := exact
    split
    · exact framed_taintedBy _ _
    split
    · exact .of_tainted rfl
    obtain acquired | ⟨result, failed, same⟩ := acquirePause_cases answers service
    · rw [acquired]
      right
      simp [view, prepared]
    rw [same]
    dsimp only
    rw [if_pos (by simp [failed])]
    exact .of_tainted ((framed_releaseReservation answers service.taint).tainted rfl)

theorem framed_abandonPreparedReadOnlyPlayback (preparation : MoviePreparationId) :
    Framed service (service.abandonPreparedReadOnlyPlayback answers preparation).2 := by
  unfold abandonPreparedReadOnlyPlayback
  dsimp only
  split
  · exact .refl service
  split
  · exact .refl service
  next exact =>
    push Not at exact
    obtain ⟨prepared, -, -⟩ := exact
    generalize (if service.preparedCoreStarted = true then
      answers.stopMovie else answers.discardPrepared) = discarded
    split
    · obtain ⟨_, ⟨-, released⟩ | ⟨-, -, -, same⟩⟩ :=
        releaseReservation_cases answers service
      · rw [released]
        right
        simp [view, prepared, unreserved]
      rw [same]
      right
      simp [view, prepared]
    · exact .of_tainted rfl

/-- A playback is released, not a recording. -/
theorem framed_releasePlayback (other : service.state ≠ .recording)
    (receipt : MovieOperationReceipt) (result : MovieServiceResult) :
    Framed service (service.releasePlayback answers receipt result).2 := by
  unfold releasePlayback
  obtain ⟨pause, ⟨paused, unpaused⟩ | ⟨failed, -, same⟩⟩ := releasePause_cases answers service
  · obtain ⟨release, ⟨released, unreserved⟩ | ⟨failed, -, -, same⟩⟩ :=
      releaseReservation_cases answers service.unpaused
    · simp only [unpaused, paused, unreserved, released, Bool.not_true,
        Bool.false_eq_true, if_false]
      right
      split
      · rfl
      have idle : decide (service.state = .recording) = false := decide_eq_false other
      rw [view, view, idle]
      rfl
    · simp only [unpaused, paused, same, failed, Bool.not_true,
        Bool.not_false, Bool.false_eq_true, if_false, if_true]
      split
      · exact .of_tainted rfl
      · exact .of_tainted rfl
  · obtain ⟨release, ⟨released, unreserved⟩ | ⟨refused, -, -, kept⟩⟩ :=
      releaseReservation_cases answers { service.taint with state := .unknown }
    · simp only [same, failed, unreserved, released, Bool.not_true,
        Bool.not_false, Bool.false_eq_true, if_false, if_true]
      split
      · exact .of_tainted rfl
      · exact .of_tainted rfl
    simp only [same, failed, kept, refused, Bool.not_false, if_true]
    split
    · exact .of_tainted rfl
    · exact .of_tainted rfl

theorem framed_stopPlayback : Framed service (service.stopPlayback answers).2 := by
  unfold stopPlayback
  dsimp only
  split
  · exact .refl service
  split
  next ended => exact framed_releasePlayback (by simp [ended]) _ _
  next playing =>
    split
    · exact framed_taintedBy _ _
    split
    · exact Framed.trans (.of_tainted rfl) (framed_releasePlayback (by simp) _ _)
    · exact framed_releasePlayback (by simp [playing]) _ _
  · exact .refl service

end Playback

section Recording

variable {answers : MovieAnswers} {service : MovieService}

theorem framed_reconcilePausedState (answers : MovieAnswers)
    (service : MovieService) (expected : WorksetEpoch) :
    Framed service (service.reconcilePausedState answers expected).2 := by
  obtain ⟨-, integrity, same⟩ | ⟨-, same⟩ |
      ⟨-, same | same | ⟨playing, same⟩⟩ :=
    reconcilePausedState_cases answers service expected
  · rw [same]
    exact framed_taintedBy _ integrity
  · rw [same]
    exact .of_tainted rfl
  · rw [same]
    exact .refl service
  · rw [same]
    exact Or.inr rfl
  rw [same]
  right
  simp [view, moveCursor, playing]

/-- A checkpoint leaves the recording alone. -/
theorem framed_captureCheckpoint (answers : MovieAnswers)
    (service : MovieService) (sha256 : ByteString → ByteString) :
    Framed service (service.captureCheckpoint answers sha256).2 := by
  have observed := framed_reconcilePausedState answers service answers.activeEpoch
  unfold captureCheckpoint
  dsimp only
  split
  · exact .refl service
  split
  · exact observed
  split
  next failure after refused =>
    obtain ⟨integrity, same⟩ := checkpointMovie_error refused
    rw [show after = _ from same]
    exact observed.trans (framed_taintedBy _ integrity)
  · split
    · exact observed
    · exact observed

end Recording

end Savor.Movie

import Savor.Movie.RecordingFrame
import Savor.Movie.RestoreOwnership

/-!
# What changes a recording

The operations that begin, mark, restore or end a recording, and what their
success does to its prefix.
-/

namespace Savor.Movie

open Program
open MovieService
open MovieServiceResult

/-- Nothing is recorded, and nothing inherited. -/
def RecordingView.retired (view : RecordingView) : RecordingView :=
  { view with
    recording := false
    inherited := none
    inputCount := 0
    deferred := false }

section Start

variable {answers : MovieAnswers} {service : MovieService}

/-- A recording that is begun is entered, or what it would have inherited is
dropped. -/
theorem beginRecording_cases (answers : MovieAnswers)
    (service : MovieService) (receipt : MovieOperationReceipt) (branching : Bool) :
    ((service.beginRecording answers receipt branching).1.result.ok = true ∧
        (service.beginRecording answers receipt branching).2.view =
          { service.view with recording := true }) ∨
      ((service.beginRecording answers receipt branching).1.result.ok = false ∧
        Framed service.dropPrefix (service.beginRecording answers receipt branching).2) := by
  unfold beginRecording
  dsimp only
  generalize (if branching = true then answers.branchToRecording
    else answers.beginRecording) = started
  split
  · right
    refine ⟨rfl, ?_⟩
    unfold taintedBy
    split
    · exact .of_tainted rfl
    · exact .refl service.dropPrefix
  split
  · right
    unfold cancelUnentered
    dsimp only
    split
    · exact ⟨rfl, .of_tainted rfl⟩
    · exact ⟨rfl, .of_tainted rfl⟩
  split
  · unfold leavePlayback
    obtain ⟨result, ⟨ok, released⟩ | ⟨failed, -, -, same⟩⟩ :=
      releaseReservation_cases answers service
    · obtain ⟨pause, ⟨paused, unpaused⟩ | ⟨refused, -, same⟩⟩ :=
        releasePause_cases answers service.unreserved
      · simp only [released, ok, unpaused, paused, Bool.not_true, Bool.false_eq_true, if_false]
        exact Or.inl ⟨rfl, rfl⟩
      simp only [released, ok, same, refused, Bool.not_true,
        Bool.not_false, Bool.false_eq_true, if_false, if_true]
      exact Or.inr ⟨trivial, .of_tainted rfl⟩
    · simp only [same, failed, Bool.not_false, if_true]
      exact Or.inr ⟨trivial, .of_tainted rfl⟩
  · exact Or.inl ⟨rfl, rfl⟩

/-- The movie and the cursor that a recording inherits when it is started. -/
def MovieService.inherits (answers : MovieAnswers) (service : MovieService) :
    Option (MovieCheckpointMetadata × UInt64) :=
  if service.state = .readOnlyPlayback then
    service.activeMovie.map fun movie =>
      (movie, (service.snapshotState answers answers.activeEpoch).currentInputCount)
  else none

/-- A recording is started with what it inherits, or the service is tainted, or
nothing is recorded and what it inherited may be dropped. -/
theorem startRecording_cases (answers : MovieAnswers) (service : MovieService) :
    (service.startRecording answers).2.tainted = true ∨
      ((service.startRecording answers).1.result.ok = false ∧
        ((service.startRecording answers).2.view = service.view ∨ (service.state ≠ .recording ∧
            (service.startRecording answers).2.view = service.view.retired))) ∨
      ((service.startRecording answers).1.result.ok = true ∧ service.state ≠ .recording ∧
        (service.startRecording answers).2.view =
          { service.view with
            recording := true
            inherited := (service.inherits answers).map Prod.fst
            inputCount := (service.inherits answers).elim 0 Prod.snd
            deferred := false }) := by
  unfold startRecording
  dsimp only
  split
  · exact Or.inr (Or.inl ⟨rfl, Or.inl rfl⟩)
  split
  · exact Or.inr (Or.inl ⟨rfl, Or.inl rfl⟩)
  split
  next failed =>
    rw [Bool.not_eq_true'] at failed
    exact Or.inr (Or.inl ⟨failed, Or.inl rfl⟩)
  · split
    next playing =>
      have other : service.state ≠ .recording := by simp [playing]
      have dropped : service.dropPrefix.view = service.view.retired := by
        simp [view, RecordingView.retired, dropPrefix, playing]
      split
      next movie active =>
        have inherits : service.inherits answers =
            some (movie, (service.snapshotState answers
              answers.activeEpoch).currentInputCount) := by
          simp [inherits, playing, active]
        split
        · unfold branchRecording
          dsimp only
          split
          · exact Or.inr (Or.inl ⟨rfl, Or.inr ⟨other, dropped⟩⟩)
          split
          · exact Or.inr (Or.inl ⟨rfl, Or.inr ⟨other, dropped⟩⟩)
          obtain ⟨ok, entered⟩ | ⟨failed, tainted | same⟩ :=
            beginRecording_cases answers
              { service.dropPrefix with
                recordingPrefix := some movie
                recordingPrefixInputCount :=
                  (service.snapshotState answers answers.activeEpoch).currentInputCount }
              (service.baseReceipt answers .startRecording) true
          · refine Or.inr (Or.inr ⟨ok, other, ?_⟩)
            rw [inherits, entered]
            rfl
          · exact Or.inl tainted
          · exact Or.inr (Or.inl ⟨failed, Or.inr ⟨other, same.trans dropped⟩⟩)
        · exact Or.inl rfl
      · exact Or.inl rfl
    next unplayed =>
      have inherits : service.inherits answers = none := by simp [inherits, unplayed]
      split
      next busy =>
        rw [Bool.not_eq_true'] at busy
        exact Or.inr (Or.inl ⟨busy, Or.inl rfl⟩)
      next idle =>
        rw [Bool.not_eq_true', Bool.not_eq_false] at idle
        obtain ⟨-, inactive, -⟩ := validateIdle_ok idle
        have other : service.state ≠ .recording := by simp [inactive]
        have dropped : service.dropPrefix.view = service.view.retired := by
          simp [view, RecordingView.retired, dropPrefix, inactive]
        obtain ⟨ok, entered⟩ | ⟨failed, tainted | same⟩ :=
          beginRecording_cases answers service.dropPrefix
            (service.baseReceipt answers .startRecording) false
        · refine Or.inr (Or.inr ⟨ok, other, ?_⟩)
          rw [inherits, entered]
          rfl
        · exact Or.inl tainted
        · exact Or.inr (Or.inl ⟨failed, Or.inr ⟨other, same.trans dropped⟩⟩)

end Start

section Mark

variable {answers : MovieAnswers} {service : MovieService}

theorem captureDeferred_cases (answers : MovieAnswers)
    (service : MovieService) (sha256 : ByteString → ByteString) :
    (service.captureDeferredRecordingPairCheckpoint answers sha256).2.tainted = true ∨
      ((service.captureDeferredRecordingPairCheckpoint answers sha256).1.result.ok = false ∧
        (service.captureDeferredRecordingPairCheckpoint answers sha256).2.view = service.view) ∨
      (service.state = .recording ∧ ∃ checkpoint,
          (service.captureDeferredRecordingPairCheckpoint answers sha256).1.result.ok = true ∧
          (service.captureDeferredRecordingPairCheckpoint answers
            sha256).1.checkpoint = some checkpoint ∧
          (service.captureDeferredRecordingPairCheckpoint answers sha256).2.view =
              { service.view with
                inherited := some checkpoint
                inputCount := checkpoint.currentInputCount
                deferred := true }) := by
  unfold captureDeferredRecordingPairCheckpoint
  dsimp only
  split
  · exact Or.inr (Or.inl ⟨rfl, rfl⟩)
  split
  · exact Or.inr (Or.inl ⟨rfl, rfl⟩)
  next recording =>
    rw [ne_eq, Decidable.not_not] at recording
    split
    · exact Or.inr (Or.inl ⟨rfl, rfl⟩)
    rcases framed_captureCheckpoint answers service sha256 with
      tainted | same
    · left
      split
      · exact tainted
      split
      · exact tainted
      split
      · exact tainted
      · exact tainted
    right
    split
    next failed =>
      rw [Bool.not_eq_true'] at failed
      exact Or.inl ⟨failed, same⟩
    next ok =>
      rw [Bool.not_eq_true', Bool.not_eq_false] at ok
      split
      · exact Or.inl ⟨rfl, same⟩
      next checkpoint captured =>
        split
        · exact Or.inl ⟨rfl, same⟩
        refine Or.inr ⟨recording, checkpoint, ok, captured, ?_⟩
        rw [← same]
        rfl

end Mark

section Restore

variable {answers : MovieAnswers} {service : MovieService}
variable {context : SavestateMovieRestoreContext}

theorem rememberOriginal_cases (answers : MovieAnswers) (service : MovieService) :
    ((service.rememberOriginal answers).1.ok = false ∧ (service.rememberOriginal answers).2.view =
          { service.view with originalRecording := false }) ∨
      ((service.rememberOriginal answers).1.ok = true ∧ (service.rememberOriginal answers).2.view =
          { service.view with
            restorePrepared := true
            originalRecording := service.view.recording }) := by
  unfold rememberOriginal
  split
  · refine Or.inl ⟨rfl, ?_⟩
    dsimp only
    split
    · obtain ⟨_, ⟨-, released⟩ | ⟨-, -, -, same⟩⟩ :=
        releaseReservation_cases answers service
      · rw [released]
        rfl
      · rw [same]
        rfl
    · rfl
  · exact Or.inr ⟨rfl, rfl⟩

theorem prepareSavestateRestore_cases (answers : MovieAnswers)
    (service : MovieService) (context : SavestateMovieRestoreContext) :
    ((service.prepareSavestateRestore answers context).1.ok = false ∧
        ((service.prepareSavestateRestore answers context).2.view = service.view ∨
          (service.restorePrepared = false ∧
            (service.prepareSavestateRestore answers context).2.view =
              { service.view with originalRecording := false }))) ∨
      ((service.prepareSavestateRestore answers context).1.ok = true ∧
        (service.prepareSavestateRestore answers context).2.view =
          { service.view with
            restorePrepared := true
            originalRecording := service.view.recording }) := by
  unfold prepareSavestateRestore
  split
  · exact Or.inl ⟨rfl, Or.inl rfl⟩
  split
  · exact Or.inl ⟨rfl, Or.inl rfl⟩
  split
  · exact Or.inl ⟨rfl, Or.inl rfl⟩
  next unprepared =>
    rw [Bool.not_eq_true] at unprepared
    split
    · exact Or.inl ⟨rfl, Or.inl rfl⟩
    split
    · exact Or.inl ⟨rfl, Or.inl rfl⟩
    unfold reserveRestore
    by_cases acquires : context.mode = .readOnlyPlayback ∧ (!service.reservation.isSet) = true
    · rw [if_pos acquires]
      obtain ⟨id, -, -, acquired⟩ | ⟨result, failed, refused⟩ :=
        acquireReservation_cases answers service
      · rw [acquired]
        simp only [ok_success, if_true, Bool.not_true, Bool.false_eq_true, if_false]
        exact (rememberOriginal_cases answers _).imp_left
          fun refused => ⟨refused.1, Or.inr ⟨unprepared, refused.2⟩⟩
      rw [refused]
      simp only [failed, Bool.false_eq_true, if_false, Bool.not_false, if_true]
      exact Or.inl ⟨trivial, Or.inl trivial⟩
    · rw [if_neg acquires]
      exact (rememberOriginal_cases answers _).imp_left
        fun refused => ⟨refused.1, Or.inr ⟨unprepared, refused.2⟩⟩

theorem commitMovie_cases (answers : MovieAnswers) (service : MovieService)
    (movie : MovieCheckpointMetadata) : (service.commitMovie answers movie).2.tainted = true ∨
      ((service.commitMovie answers movie).1.ok = true ∧
        (service.commitMovie answers movie).2.view = if movie.mode = .recording then
            { service.view with
              recording := true
              inherited := some (movie.observedAt answers.observation)
              inputCount := answers.observation.currentInputCount
              restorePrepared := false
              originalRecording := false }
          else
            { service.view.retired with
              restorePrepared := false
              originalRecording := false }) := by
  unfold commitMovie
  obtain ⟨pause, ⟨paused, owned, -, transferred⟩ | ⟨failed, same⟩⟩ :=
    transferPause_cases answers service (stateOf movie.mode)
  · simp only [transferred, paused, Bool.not_true, Bool.false_eq_true, if_false]
    cases mode : movie.mode with
    | none | readOnlyPlayback =>
      simp only [stateOf, reduceCtorEq, if_false, ok_success, Bool.not_true, Bool.false_eq_true]
      exact Or.inr ⟨trivial, rfl⟩
    | recording =>
      simp only [stateOf, if_true]
      obtain ⟨result, ⟨ok, released⟩ | ⟨failed, -, -, same⟩⟩ :=
        releaseReservation_cases answers { service with pauseAtPlaybackEndOwned := owned }
      · simp only [released, ok, Bool.not_true, Bool.false_eq_true, if_false]
        exact Or.inr ⟨rfl, rfl⟩
      · simp only [same, failed, Bool.not_false, if_true]
        exact Or.inl rfl
  · simp only [same, failed, Bool.not_false, if_true]
    exact Or.inl rfl

theorem commitNoMovie_cases (answers : MovieAnswers) (service : MovieService) :
    (service.commitNoMovie answers).2.tainted = true ∨
      ((service.commitNoMovie answers).1.ok = true ∧ (service.commitNoMovie answers).2.view =
          { service.view.retired with
            restorePrepared := false
            originalRecording := false }) := by
  unfold commitNoMovie
  obtain ⟨pause, ⟨paused, unpaused⟩ | ⟨failed, -, same⟩⟩ := releasePause_cases answers service
  · obtain ⟨result, ⟨ok, released⟩ | ⟨refused, -, -, same⟩⟩ :=
      releaseReservation_cases answers service.unpaused.retireRecording
    · simp only [unpaused, paused, released, ok, Bool.not_true, Bool.false_eq_true, if_false]
      exact Or.inr ⟨rfl, rfl⟩
    simp only [unpaused, paused, same, refused, Bool.not_true, Bool.not_false,
      Bool.false_eq_true, if_false, if_true]
    exact Or.inl trivial
  · simp only [same, failed, Bool.not_false, if_true]
    exact Or.inl trivial

theorem tainted_failCommit (failure : MovieServiceResult) :
    (service.failCommit answers failure).2.tainted = true :=
  (framed_releaseReservation answers service.loseMovie).tainted rfl

/-- A committed restore of a recording is what the recording inherits; another
one ends what was recorded. -/
theorem commitSavestateRestore_cases (answers : MovieAnswers)
    (service : MovieService) (context : SavestateMovieRestoreContext) :
    (service.commitSavestateRestore answers context).2.tainted = true ∨
      ((service.commitSavestateRestore answers context).1.ok = false ∧
        (service.commitSavestateRestore answers context).2.view = service.view) ∨
      (service.commits answers context ∧
        (service.commitSavestateRestore answers context).1.ok = true ∧ ((context.mode ≠ .recording ∧
            (service.commitSavestateRestore answers context).2.view =
              { service.view.retired with
                restorePrepared := false
                originalRecording := false }) ∨
          ∃ movie, context.movie = some movie ∧ movie.mode = .recording ∧
            (service.commitSavestateRestore answers context).2.view =
              { service.view with
                recording := true
                inherited := some (movie.observedAt answers.observation)
                inputCount := answers.observation.currentInputCount
                restorePrepared := false
                originalRecording := false })) := by
  unfold commitSavestateRestore
  dsimp only
  split
  · exact Or.inr (Or.inl ⟨rfl, rfl⟩)
  next thread =>
    split
    · exact Or.inr (Or.inl ⟨rfl, rfl⟩)
    next prepared =>
      split
      · exact Or.inl (tainted_failCommit _)
      next committed =>
        split
        · exact Or.inl (tainted_failCommit _)
        next observed =>
          simp only [Bool.not_eq_true', Bool.not_eq_false, ne_eq, not_or,
            Decidable.not_not] at thread prepared committed observed
          have commits : service.commits answers context :=
            ⟨thread, prepared.1, prepared.2, committed, observed⟩
          split
          next movie restored =>
            have moded : context.mode = movie.mode := by
              rw [SavestateMovieRestoreContext.mode, restored]
              rfl
            rcases commitMovie_cases answers service movie with
              tainted | ⟨ok, view⟩
            · exact Or.inl tainted
            refine Or.inr (Or.inr ⟨commits, ok, ?_⟩)
            split at view
            next recording => exact Or.inr ⟨movie, restored, recording, view⟩
            next other => exact Or.inl ⟨moded ▸ other, view⟩
          next absent =>
            have moded : context.mode ≠ .recording := by
              rw [SavestateMovieRestoreContext.mode, absent]
              exact MovieCheckpointMode.noConfusion
            rcases commitNoMovie_cases answers service with
              tainted | ⟨ok, view⟩
            · exact Or.inl tainted
            · exact Or.inr (Or.inr ⟨commits, ok, Or.inl ⟨moded, view⟩⟩)

theorem rollbackSavestateRestore_cases (answers : MovieAnswers) (service : MovieService) :
    (service.rollbackSavestateRestore answers).2.tainted = true ∨
      (service.rollbackSavestateRestore answers).2.view = service.view ∨
      (answers.onOwnerThread = true ∧ service.restorePrepared = true ∧
        answers.rollbackRestore.ok = true ∧ (service.rollbackSavestateRestore answers).2.view =
          { service.view with
            recording := service.view.originalRecording
            restorePrepared := false
            originalRecording := false }) := by
  unfold rollbackSavestateRestore
  split
  · exact Or.inr (Or.inl rfl)
  next thread =>
    split
    · exact Or.inr (Or.inl rfl)
    next prepared =>
      rw [Bool.not_eq_true', Bool.not_eq_false] at thread prepared
      by_cases rolledBack : answers.rollbackRestore.ok = true
      · cases acquired : service.acquiredForRestore with
        | false =>
          simp only [Bool.false_eq_true, if_false, rolledBack, ok_success, Bool.not_true, or_self]
          exact Or.inr (Or.inr ⟨thread, prepared, trivial, rfl⟩)
        | true =>
          obtain ⟨result, ⟨ok, released⟩ | ⟨failed, -, -, same⟩⟩ :=
            releaseReservation_cases answers service
          · simp only [if_true, released, ok, rolledBack, Bool.not_true,
              Bool.false_eq_true, or_self, if_false]
            exact Or.inr (Or.inr ⟨thread, prepared, trivial, rfl⟩)
          · simp only [if_true, same, failed, Bool.not_false, or_true]
            exact Or.inl rfl
      · simp only [rolledBack, Bool.not_false, true_or, if_true]
        exact Or.inl rfl

end Restore

section End

variable {answers : MovieAnswers} {service : MovieService}

theorem cancelRecording_cases (answers : MovieAnswers) (service : MovieService) :
    (service.cancelRecording answers).2.tainted = true ∨
      ((service.cancelRecording answers).1.result.ok = false ∧
        (service.cancelRecording answers).2.view = service.view) ∨
      ((service.cancelRecording answers).1.result.ok = true ∧
        (service.cancelRecording answers).2.view = service.view.retired) := by
  unfold cancelRecording
  dsimp only
  split
  · exact Or.inr (Or.inl ⟨rfl, rfl⟩)
  split
  · exact Or.inr (Or.inl ⟨rfl, rfl⟩)
  split
  · rcases framed_taintedBy service
      answers.cancelRecording.integrity with tainted | same
    · exact Or.inl tainted
    · exact Or.inr (Or.inl ⟨rfl, same⟩)
  cases inactive : (validateBackendState .inactive answers.observation).ok with
  | true =>
    simp only [Bool.not_true, Bool.false_eq_true, if_false]
    obtain ⟨result, ⟨ok, released⟩ | ⟨failed, -, -, same⟩⟩ :=
      releaseReservation_cases answers service
    · simp only [released, ok, Bool.not_true, Bool.false_eq_true, if_false, ok_success, false_and]
      exact Or.inr (Or.inr ⟨trivial, rfl⟩)
    simp only [same, failed, Bool.not_false, if_true]
    left
    split
    · rfl
    · rfl
  | false =>
    simp only [Bool.not_false, if_true]
    obtain ⟨result, ⟨ok, released⟩ | ⟨failed, -, -, same⟩⟩ :=
      releaseReservation_cases answers { service.taint with state := .unknown }
    · simp only [released, ok, Bool.not_true, Bool.not_false,
        Bool.false_eq_true, if_false, true_and]
      left
      split
      · rfl
      · rfl
    simp only [same, failed, Bool.not_false, if_true]
    left
    split
    · rfl
    · rfl

variable {sha256 : ByteString → ByteString} {read : Option ByteString}

/-- The checkpoint that is verified has the bytes that the backend captured,
and begins as what is inherited. -/
theorem verifyPrefix_ok {inherited checkpoint : MovieCheckpointMetadata}
    (verified : service.verifyPrefix answers sha256 inherited = .ok checkpoint) :
    (prefixSize service.recordingPrefixInputCount).toNat ≤
        answers.captureCheckpoint.checkpoint.dtmBytes.length ∧
      (prefixSize service.recordingPrefixInputCount).toNat ≤ inherited.dtmBytes.length ∧
      samePrefix (prefixSize service.recordingPrefixInputCount) inherited.dtmBytes
        answers.captureCheckpoint.checkpoint.dtmBytes = true := by
  unfold verifyPrefix at verified
  dsimp only at verified
  split at verified
  · cases verified
  split at verified
  · cases verified
  next valid validated =>
    have bytes : valid.dtmBytes =
        answers.captureCheckpoint.checkpoint.dtmBytes := by
      unfold validateCheckpoint at validated
      split at validated
      · cases validated
      split at validated
      · cases validated
      split at validated
      · cases validated
      cases validated
      rfl
    split at verified
    · cases verified
    split at verified
    · cases verified
    next same =>
      simp only [not_or, Nat.not_lt, Bool.not_eq_true', Bool.not_eq_false] at same
      rw [bytes] at same
      exact same

theorem eq_bytes_of_load {dtm : DtmFile}
    (loaded : DtmFile.load read = some dtm) : read = some dtm.bytes := by
  unfold DtmFile.load at loaded
  split at loaded
  · cases loaded
  split at loaded
  · cases loaded
  split at loaded
  · cases loaded
  · cases loaded
    rfl

theorem validateDtm_ok {path : ByteString} {movie : MovieCheckpointMetadata}
    (valid : validateDtm sha256 path read = .ok movie) : ∃ file, read = some file := by
  unfold validateDtm at valid
  split at valid
  · cases valid
  next dtm loaded =>
    split at loaded
    · cases loaded
    · exact ⟨dtm.bytes, eq_bytes_of_load loaded⟩

theorem validateDtm_error {path : ByteString} {invalid : MovieServiceResult}
    (failed : validateDtm sha256 path read = .error invalid) : invalid.ok = false := by
  unfold validateDtm at failed
  split at failed
  · cases failed
    rfl
  split at failed
  · cases failed
    rfl
  · cases failed

variable {prefinal : Option MovieCheckpointMetadata} {deferredCount : UInt64}

/-- A file that goes on after the deferred checkpoint has more polls. -/
theorem deferredPairFailure_none {file : ByteString} (written : answers.dtmFile = some file)
    (continued : deferredPairFailure answers prefinal deferredCount = none) :
    deferredCount.toNat < pollCount file := by
  unfold deferredPairFailure at continued
  dsimp only at continued
  split at continued
  next facts =>
    obtain ⟨checkpoint, -, dtm, loaded, editable, counted, -, more⟩ := facts
    have bytes := eq_bytes_of_load loaded
    rw [written, Option.some.injEq] at bytes
    rw [counted] at more
    have polls : dtm.gcPollCount = pollCount file := by
      rw [DtmFile.gcPollCount, editable, bytes]
      rfl
    rw [← polls]
    exact more
  · cases continued

theorem deferredPairFailure_some {failure : MovieServiceResult}
    (failed : deferredPairFailure answers prefinal deferredCount = some failure) :
    failure.ok = false := by
  unfold deferredPairFailure at failed
  dsimp only at failed
  split at failed
  · cases failed
  cases failed
  rfl

theorem checkPublished_cases (answers : MovieAnswers)
    (sha256 : ByteString → ByteString) (path : ByteString)
    (deferredPair : Bool) (deferredCount : UInt64) (prefinal : Option MovieCheckpointMetadata) :
    (∃ failure, failure.ok = false ∧
        checkPublished answers sha256 path deferredPair deferredCount prefinal = .error failure) ∨
      ∃ recorded file,
        checkPublished answers sha256 path deferredPair deferredCount prefinal = .ok recorded ∧
        answers.dtmFile = some file ∧
        (deferredPair = true → deferredCount.toNat < pollCount file) := by
  unfold checkPublished
  split
  next invalid unreadable => exact Or.inl ⟨invalid, validateDtm_error unreadable, rfl⟩
  next movie loaded =>
    obtain ⟨file, written⟩ := validateDtm_ok loaded
    dsimp only
    split
    next failure stopped =>
      split at stopped
      · exact Or.inl ⟨failure, deferredPairFailure_some stopped, rfl⟩
      · cases stopped
    next continued =>
      split
      · exact Or.inl ⟨_, rfl, rfl⟩
      split
      · exact Or.inl ⟨_, rfl, rfl⟩
      refine Or.inr ⟨movie, file, rfl, written, fun pending => ?_⟩
      rw [if_pos pending] at continued
      exact deferredPairFailure_none written continued

theorem publishRecording_cases (answers : MovieAnswers)
    (service : MovieService) (sha256 : ByteString → ByteString) (receipt : MovieOperationReceipt)
    (prefinal : Option MovieCheckpointMetadata) : ((service.publishRecording answers sha256 receipt
          prefinal).1.result.ok = false ∧
        Framed service (service.publishRecording answers sha256 receipt prefinal).2) ∨
      ((service.publishRecording answers sha256 receipt prefinal).1.result.ok = true ∧
        (service.publishRecording answers sha256 receipt prefinal).2.view = service.view.retired ∧
        answers.finalizeRecording.result.ok = true ∧ ∃ file, answers.dtmFile = some file ∧
          (service.view.deferred = true → service.view.inputCount.toNat < pollCount file)) := by
  unfold publishRecording
  dsimp only
  split
  · exact Or.inl ⟨rfl, framed_taintedBy _ _⟩
  next finalized =>
    rw [Bool.not_eq_true', Bool.not_eq_false] at finalized
    split
    next active =>
      rw [Bool.not_eq_true'] at active
      exact Or.inl ⟨active, .of_tainted rfl⟩
    · obtain ⟨result, ⟨ok, released⟩ | ⟨failed, -, -, same⟩⟩ :=
        releaseReservation_cases answers service
      · simp only [released, ok, Bool.not_true, Bool.false_eq_true, if_false]
        obtain ⟨failure, failed, stopped⟩ | ⟨recorded, file, checked, facts⟩ :=
          checkPublished_cases answers sha256 receipt.artifactPath
            service.deferredRecordingPairPending service.recordingPrefixInputCount prefinal
        · rw [stopped]
          exact Or.inl ⟨failed, .of_tainted rfl⟩
        · rw [checked]
          exact Or.inr ⟨rfl, rfl, finalized, file, facts⟩
      · simp only [same, failed, Bool.not_false, if_true]
        exact Or.inl ⟨failed, .of_tainted rfl⟩

/-- The file that a finalization published, of a recording with this view. -/
structure Published (answers : MovieAnswers) (view : RecordingView) (file : ByteString) : Prop where
  finalized : answers.finalizeRecording.result.ok = true
  written : answers.dtmFile = some file
  verified : ∀ inherited ∈ view.inherited,
    (prefixSize view.inputCount).toNat ≤ answers.captureCheckpoint.checkpoint.dtmBytes.length ∧
      (prefixSize view.inputCount).toNat ≤ inherited.dtmBytes.length ∧
      samePrefix (prefixSize view.inputCount) inherited.dtmBytes
        answers.captureCheckpoint.checkpoint.dtmBytes = true
  continued : view.deferred = true → view.inputCount.toNat < pollCount file

/-- The end of a finalization of an untainted recording. -/
theorem published_cases (answers : MovieAnswers) (service : MovieService)
    (sha256 : ByteString → ByteString) (receipt : MovieOperationReceipt)
    (prefinal : Option MovieCheckpointMetadata) (verified : ∀ inherited ∈ service.view.inherited,
      (prefixSize service.view.inputCount).toNat ≤
          answers.captureCheckpoint.checkpoint.dtmBytes.length ∧
        (prefixSize service.view.inputCount).toNat ≤ inherited.dtmBytes.length ∧
        samePrefix (prefixSize service.view.inputCount) inherited.dtmBytes
          answers.captureCheckpoint.checkpoint.dtmBytes = true) :
    ((service.publishRecording answers sha256 receipt prefinal).1.result.ok = false ∧
        Framed service (service.publishRecording answers sha256 receipt prefinal).2) ∨
      ((service.publishRecording answers sha256 receipt prefinal).1.result.ok = true ∧
        (service.publishRecording answers sha256 receipt prefinal).2.view = service.view.retired ∧
        ∃ file, Published answers service.view file) := by
  refine (publishRecording_cases answers service sha256 receipt prefinal).imp_right ?_
  intro ⟨ok, retired, finalized, file, written, continued⟩
  exact ⟨ok, retired, file, finalized, written, verified, continued⟩

theorem finalizeRecording_cases (answers : MovieAnswers)
    (service : MovieService) (sha256 : ByteString → ByteString) (dtmPath : ByteString) :
    ((service.finalizeRecording answers sha256 dtmPath).1.result.ok = false ∧
        Framed service (service.finalizeRecording answers sha256 dtmPath).2) ∨
      ((service.finalizeRecording answers sha256 dtmPath).1.result.ok = true ∧
        service.state = .recording ∧ service.tainted = false ∧
        (service.finalizeRecording answers sha256 dtmPath).2.view = service.view.retired ∧
        ∃ file, Published answers service.view file) := by
  unfold finalizeRecording
  dsimp only
  split
  · exact Or.inl ⟨rfl, .refl service⟩
  split
  · exact Or.inl ⟨rfl, .refl service⟩
  next recording =>
    rw [ne_eq, Decidable.not_not] at recording
    split
    · exact Or.inl ⟨rfl, .refl service⟩
    split
    · exact Or.inl ⟨rfl, .refl service⟩
    have framed := framed_reconcilePausedState answers service answers.activeEpoch
    split
    next failed =>
      rw [Bool.not_eq_true'] at failed
      exact Or.inl ⟨failed, framed⟩
    next ok =>
      rw [Bool.not_eq_true', Bool.not_eq_false] at ok
      obtain ⟨before, untainted⟩ := untainted_reconcilePausedState ok
      generalize (service.reconcilePausedState answers
        answers.activeEpoch).2 = observed at framed untainted ⊢
      have same : observed.view = service.view :=
        framed.resolve_left fun tainted => absurd (tainted.symm.trans untainted) Bool.noConfusion
      split
      next absent =>
        obtain ⟨failed, kept⟩ | ⟨ok, retired, facts⟩ :=
          published_cases answers observed sha256
            { service.baseReceipt answers .finalizeRecording with
              artifactPath := dtmPath } none (by
              rw [show observed.view.inherited = none from absent]
              exact fun _ member => absurd member (Option.not_mem_none _))
        · exact Or.inl ⟨failed, framed.trans kept⟩
        · rw [same] at retired facts
          exact Or.inr ⟨ok, recording, before, retired, facts⟩
      next movie present =>
        split
        next failure after refused =>
          obtain ⟨failed, integrity, known⟩ := verifyPrefix_error sha256 _ refused
          rw [show after = _ from known]
          exact Or.inl ⟨failed, framed.trans (framed_taintedBy _ integrity)⟩
        next checkpoint accepted =>
          obtain ⟨failed, kept⟩ | ⟨ok, retired, facts⟩ :=
            published_cases answers observed sha256
              { service.baseReceipt answers .finalizeRecording with
                artifactPath := dtmPath } (some checkpoint) (by
                rw [show observed.view.inherited = some movie from present]
                intro inherited member
                rw [Option.mem_some_iff] at member
                exact member ▸ verifyPrefix_ok accepted)
          · exact Or.inl ⟨failed, framed.trans kept⟩
          · rw [same] at retired facts
            exact Or.inr ⟨ok, recording, before, retired, facts⟩

end End

end Savor.Movie

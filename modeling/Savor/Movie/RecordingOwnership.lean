import Savor.Movie.PlaybackOwnership

/-!
# Ownership through a recording

A recording holds neither the reservation nor the ownership of the pause.  One
that branches from a playback releases both, one after the other.
-/

namespace Savor.Movie

open Program
open MovieService

section Start

variable {clean : Prop} {answers : MovieAnswers} {service : MovieService}

theorem kept_enterRecording (unset : service.reservation.isSet = false)
    (unowned : service.pauseAtPlaybackEndOwned = false)
    (original : service.tainted = false → Remembers service)
    (restoring : service.acquiredForRestore = true → service.restorePrepared = true)
    (receipt : MovieOperationReceipt) (observed : MovieBackendObservation) :
    Kept clean (service.enterRecording receipt observed).2 := by
  unfold enterRecording
  refine ⟨fun untainted => ?_, fun _ => ⟨fun _ held => ?_, fun _ => unowned⟩, restoring⟩
  · exact ⟨by simp [MovieState.reserves, MovieState.playing],
      fun held => absurd (held.symm.trans unset) Bool.noConfusion, unowned,
      by simp, by simp, original untainted⟩
  · exact absurd (held.symm.trans unset) Bool.noConfusion

section

variable (kept : Kept clean service)
variable (cleansUp : clean → answers.cleansUp = true)
include kept cleansUp

theorem kept_cancelUnentered (unowned : answers.cancelRecording.ok = true → clean →
      service.pauseAtPlaybackEndOwned = false)
    (receipt : MovieOperationReceipt) (invalid : MovieServiceResult) :
    Kept clean (service.cancelUnentered answers receipt invalid).2 := by
  unfold cancelUnentered
  dsimp only
  split
  · exact kept.taint
  next cancelled =>
    rw [Bool.not_eq_true', Bool.not_eq_false] at cancelled
    obtain ⟨result, ⟨-, released⟩ | ⟨-, unclean, same⟩⟩ := releaseReservation_clean cleansUp service
    · rw [released]
      refine .of_tainted rfl (fun isClean => ?_) kept.restoring
      exact ⟨by simp [unreserved, retireRecording, dropPrefix, taint],
        fun _ => unowned cancelled isClean⟩
    · rw [same]
      exact .of_unclean rfl unclean kept.restoring

/-- Of a playback that is left for a recording nothing stays held. -/
theorem kept_leavePlayback (receipt : MovieOperationReceipt) (observed : MovieBackendObservation) :
    Kept clean (service.leavePlayback answers receipt observed).2 := by
  unfold leavePlayback
  obtain ⟨result, ⟨ok, released⟩ | ⟨failed, unclean, same⟩⟩ :=
    releaseReservation_clean cleansUp service
  · obtain ⟨pause, ⟨paused, unpaused⟩ | ⟨refused, -, same⟩⟩ :=
      releasePause_clean cleansUp service.unreserved
    · simp only [released, ok, unpaused, paused, Bool.not_true, Bool.false_eq_true, if_false]
      apply kept_enterRecording
      · rfl
      · rfl
      · exact fun untainted => (kept.sound untainted).original
      · exact kept.restoring
    simp only [released, ok, same, refused, Bool.not_true, Bool.not_false,
      Bool.false_eq_true, if_false, if_true]
    exact .of_unknown rfl rfl kept.restoring
  · simp only [same, failed, Bool.not_false, if_true]
    exact .of_unclean rfl unclean kept.restoring

theorem kept_beginRecording (receipt : MovieOperationReceipt) (branching : Bool)
    (idle : branching = false →
      service.reservation.isSet = false ∧ service.pauseAtPlaybackEndOwned = false)
    (enters : branching = true → answers.branchToRecording.ok = true →
      answers.cancelRecording.ok = true →
      (validateBackendState .recording answers.observation).ok = true) :
    Kept clean (service.beginRecording answers receipt branching).2 := by
  unfold beginRecording
  dsimp only
  by_cases began : (if branching = true then answers.branchToRecording
      else answers.beginRecording).ok = true
  · rw [if_neg (by simp [began])]
    split
    next invalid =>
      rw [Bool.not_eq_true'] at invalid
      refine kept_cancelUnentered kept cleansUp (fun cancelled _ => ?_) _ _
      cases branching with
      | false => exact (idle rfl).2
      | true =>
        rw [enters rfl began cancelled] at invalid
        cases invalid
    next =>
      cases branching with
      | false =>
        exact kept_enterRecording (idle rfl).1 (idle rfl).2
          (fun untainted => (kept.sound untainted).original) kept.restoring
          _ _
      | true => exact kept_leavePlayback kept cleansUp _ _
  · rw [if_pos (by simp [began])]
    exact (kept.taintedBy _).inherits none 0 false

end

/-- `StartRecording` asks the backend to branch from the playback. -/
def MovieService.branches (answers : MovieAnswers) (service : MovieService) : Prop :=
  answers.onOwnerThread = true ∧ answers.activeEpoch.isSet = true ∧
    (service.snapshotState answers answers.activeEpoch).result.ok = true ∧
    service.state = .readOnlyPlayback ∧ service.reservation.isSet = true ∧
    ∃ movie ∈ service.activeMovie,
      (service.snapshotState answers answers.activeEpoch).currentInputCount.toNat ≤
          (2 ^ 64 - 1 - DtmFile.kMinHeader) / DtmFile.pollSize ∧
      (prefixSize (service.snapshotState answers
        answers.activeEpoch).currentInputCount).toNat ≤ movie.dtmBytes.length

theorem kept_startRecording (kept : Kept clean service) (cleansUp : clean → answers.cleansUp = true)
    (enters : service.branches answers → answers.branchToRecording.ok = true →
      answers.cancelRecording.ok = true →
      (validateBackendState .recording answers.observation).ok = true) :
    Kept clean (service.startRecording answers).2 := by
  unfold startRecording
  dsimp only
  split
  · exact kept
  next thread =>
    split
    · exact kept
    next epoch =>
      split
      · exact kept
      next current =>
        rw [Bool.not_eq_true', Bool.not_eq_false] at thread epoch current
        split
        next playing =>
          split
          next movie active =>
            split
            next held =>
              unfold branchRecording
              dsimp only
              split
              · exact kept.inherits none 0 false
              next representable =>
                split
                · exact kept.inherits none 0 false
                next admitted =>
                  refine kept_beginRecording (kept.inherits _ _ false) cleansUp
                    _ true nofun
                    (fun _ => enters ⟨thread, epoch, current, playing, held,
                      movie, active, Nat.le_of_not_lt representable, Nat.le_of_not_lt admitted⟩)
            · exact kept.taint
          · exact kept.taint
        next =>
          split
          · exact kept
          next idle =>
            rw [Bool.not_eq_true', Bool.not_eq_false] at idle
            obtain ⟨untainted, inactive, unset⟩ := validateIdle_ok idle
            have unowned := (kept.sound untainted).pause
            rw [inactive] at unowned
            exact kept_beginRecording (kept.inherits none 0 false) cleansUp _
              false (fun _ => ⟨unset, unowned⟩)
              nofun

end Start

section Reconcile

variable {clean : Prop} {answers : MovieAnswers} {service : MovieService}

/-- A reconciliation loses a contradicted state, notes the end of a playback,
or only moves the cursor.  Of a tainted service it fails. -/
theorem reconcilePausedState_cases (answers : MovieAnswers)
    (service : MovieService) (expected : WorksetEpoch) :
    ((service.reconcilePausedState answers expected).1.result.ok = false ∧
        ∃ integrity, (service.reconcilePausedState answers expected).2 =
          service.taintedBy integrity) ∨
      ((service.reconcilePausedState answers expected).1.result.ok = false ∧
        (service.reconcilePausedState answers expected).2 =
          { service with tainted := true, state := .unknown }) ∨
      (service.tainted = false ∧ ((service.reconcilePausedState answers expected).2 = service ∨
          (service.reconcilePausedState answers expected).2 =
            service.moveCursor answers.observation ∨ (service.state = .readOnlyPlayback ∧
            (service.reconcilePausedState answers expected).2 =
              { service.moveCursor answers.observation with
                state := .playbackEnded }))) := by
  have same : service = service.taintedBy .preserved := rfl
  unfold reconcilePausedState
  dsimp only
  split
  · exact Or.inl ⟨rfl, _, same⟩
  split
  · exact Or.inl ⟨rfl, _, same⟩
  split
  · exact Or.inl ⟨rfl, _, same⟩
  next untainted =>
    rw [Bool.not_eq_true] at untainted
    split
    · exact Or.inl ⟨rfl, _, rfl⟩
    split
    · exact Or.inr (Or.inl ⟨rfl, rfl⟩)
    unfold reconcileState
    split
    · split
      · exact Or.inr (Or.inl ⟨rfl, rfl⟩)
      · exact Or.inr (Or.inr ⟨untainted, Or.inl rfl⟩)
    · split
      · exact Or.inr (Or.inl ⟨rfl, rfl⟩)
      · exact Or.inr (Or.inr ⟨untainted, Or.inl rfl⟩)
    next playing =>
      split
      · exact Or.inr (Or.inl ⟨rfl, rfl⟩)
      split
      · exact Or.inr (Or.inr ⟨untainted, Or.inr (Or.inl rfl)⟩)
      split
      · exact Or.inr (Or.inr ⟨untainted, Or.inr (Or.inr ⟨playing, rfl⟩)⟩)
      · exact Or.inr (Or.inl ⟨rfl, rfl⟩)
    · split
      · exact Or.inr (Or.inl ⟨rfl, rfl⟩)
      split
      · exact Or.inr (Or.inl ⟨rfl, rfl⟩)
      split
      · exact Or.inr (Or.inl ⟨rfl, rfl⟩)
      · exact Or.inr (Or.inr ⟨untainted, Or.inr (Or.inl rfl)⟩)
    · split
      · exact Or.inr (Or.inl ⟨rfl, rfl⟩)
      split
      · exact Or.inr (Or.inl ⟨rfl, rfl⟩)
      split
      · exact Or.inr (Or.inr ⟨untainted, Or.inl rfl⟩)
      · exact Or.inr (Or.inr ⟨untainted, Or.inl rfl⟩)
    · exact Or.inr (Or.inl ⟨rfl, rfl⟩)

theorem untainted_reconcilePausedState {expected : WorksetEpoch}
    (ok : (service.reconcilePausedState answers expected).1.result.ok = true) :
    service.tainted = false ∧
      (service.reconcilePausedState answers expected).2.tainted = false := by
  obtain ⟨failed, -⟩ | ⟨failed, -⟩ | ⟨untainted, same | same | ⟨-, same⟩⟩ :=
    reconcilePausedState_cases answers service expected
  · exact absurd (ok.symm.trans failed) Bool.noConfusion
  · exact absurd (ok.symm.trans failed) Bool.noConfusion
  · exact ⟨untainted, by rw [same]; exact untainted⟩
  · exact ⟨untainted, by rw [same]; exact untainted⟩
  · exact ⟨untainted, by rw [same]; exact untainted⟩

theorem kept_reconcilePausedState (kept : Kept clean service)
    (answers : MovieAnswers) (expected : WorksetEpoch) :
    Kept clean (service.reconcilePausedState answers expected).2 := by
  obtain ⟨-, integrity, same⟩ | ⟨-, same⟩ |
      ⟨-, same | same | ⟨playing, same⟩⟩ :=
    reconcilePausedState_cases answers service expected
  · rw [same]
    exact kept.taintedBy integrity
  · rw [same]
    exact .of_unknown rfl rfl kept.restoring
  · rw [same]
    exact kept
  · rw [same]
    exact kept.moveCursor _
  rw [same]
  refine ⟨fun untainted => ?_, fun _ => ⟨by simp, by simp⟩, kept.restoring⟩
  have sound := (kept.moveCursor answers.observation).sound untainted
  have unowned := sound.pause
  rw [show (service.moveCursor answers.observation).state = .readOnlyPlayback
    from playing] at unowned
  refine ⟨fun _ => sound.reserved ?_, fun _ => Or.inl rfl, unowned, ?_, by simp, sound.original⟩
  · rw [show (service.moveCursor answers.observation).state =
      .readOnlyPlayback from playing]
    rfl
  simp only [ne_eq, reduceCtorEq, not_false_eq_true, iff_true]
  refine sound.movie.mpr ?_
  rw [show (service.moveCursor answers.observation).state = .readOnlyPlayback from playing]
  simp

theorem state_reconcilePausedState (expected : WorksetEpoch)
    (recording : service.state = .recording)
    (ok : (service.reconcilePausedState answers expected).1.result.ok = true) :
    (service.reconcilePausedState answers expected).2.state = .recording := by
  obtain ⟨failed, -⟩ | ⟨failed, -⟩ | ⟨-, same | same | ⟨playing, -⟩⟩ :=
    reconcilePausedState_cases answers service expected
  · exact absurd (ok.symm.trans failed) Bool.noConfusion
  · exact absurd (ok.symm.trans failed) Bool.noConfusion
  · rw [same]
    exact recording
  · rw [same]
    exact recording
  · rw [recording] at playing
    exact absurd playing (by decide)

theorem left_reconcilePausedState (left : Left service) (expected : WorksetEpoch) :
    Left (service.reconcilePausedState answers expected).2 := by
  obtain ⟨-, integrity, same⟩ | ⟨-, same⟩ | ⟨-, same | same | ⟨-, same⟩⟩ :=
    reconcilePausedState_cases answers service expected
  · rw [same]
    exact left.taintedBy integrity
  · rw [same]
    exact ⟨left.reservation, left.pause⟩
  · rw [same]
    exact left
  · rw [same]
    exact ⟨left.reservation, left.pause⟩
  · rw [same]
    exact ⟨left.reservation, left.pause⟩

end Reconcile

section End

variable {clean : Prop} {answers : MovieAnswers} {service : MovieService}

/-- The recording has ended, and its reservation is released. -/
theorem kept_retireRecording (kept : Kept clean service) (recording : service.state = .recording) :
    Kept clean service.unreserved.retireRecording := by
  refine ⟨fun untainted => ?_, fun isClean => ?_, kept.restoring⟩
  · have sound := kept.sound untainted
    have unowned := sound.pause
    rw [recording] at unowned
    exact ⟨by simp [retireRecording, MovieState.reserves, MovieState.playing],
      by simp [retireRecording, dropPrefix, unreserved],
      unowned, by simp [retireRecording],
      by simp [retireRecording], sound.original⟩
  have left := (kept.tidy isClean).recordingLeft recording
  exact ⟨by simp [retireRecording, dropPrefix, unreserved], fun _ => left.pause⟩

theorem kept_publishRecording (kept : Kept clean service)
    (cleansUp : clean → answers.cleansUp = true) (recording : service.state = .recording)
    (sha256 : ByteString → ByteString) (receipt : MovieOperationReceipt)
    (prefinal : Option MovieCheckpointMetadata) : Kept clean
        (service.publishRecording answers sha256 receipt prefinal).2 ∧
      (clean → Left (service.publishRecording answers sha256 receipt prefinal).2) := by
  have left : clean → Left service := fun isClean => (kept.tidy isClean).recordingLeft recording
  unfold publishRecording
  dsimp only
  split
  · exact ⟨kept.taintedBy _, fun isClean => (left isClean).taintedBy _⟩
  split
  · exact ⟨.of_unknown rfl rfl kept.restoring, fun isClean =>
      ⟨(left isClean).reservation, (left isClean).pause⟩⟩
  obtain ⟨result, ⟨ok, released⟩ | ⟨failed, unclean, same⟩⟩ :=
    releaseReservation_clean cleansUp service
  · have retired := kept_retireRecording kept recording
    have nothing : clean → Left service.unreserved.retireRecording :=
      fun isClean => (retired.tidy isClean).left rfl
    simp only [released, ok, Bool.not_true, Bool.false_eq_true, if_false]
    split
    · exact ⟨retired.taint, fun isClean => ⟨(nothing isClean).reservation, (nothing isClean).pause⟩⟩
    · exact ⟨retired, nothing⟩
  simp only [same, failed, Bool.not_false, if_true]
  exact ⟨.of_unclean rfl unclean kept.restoring, fun isClean => absurd isClean unclean⟩

theorem validateCheckpoint_error {sha256 : ByteString → ByteString}
    {checkpoint : MovieCheckpointMetadata} {invalid : MovieServiceResult}
    (failed : validateCheckpoint sha256 checkpoint = .error invalid) : invalid.ok = false := by
  unfold validateCheckpoint at failed
  split at failed
  · cases failed
    rfl
  split at failed
  · cases failed
    rfl
  split at failed
  · cases failed
    rfl
  · cases failed

theorem verifyPrefix_error (sha256 : ByteString → ByteString)
    (inherited : MovieCheckpointMetadata) {failure : Served MovieServiceResult}
    (failed : service.verifyPrefix answers sha256 inherited = .error failure) :
    failure.1.ok = false ∧ ∃ integrity, failure.2 = service.taintedBy integrity := by
  unfold verifyPrefix at failed
  dsimp only at failed
  split at failed
  · rw [Except.error.injEq] at failed
    exact ⟨failed ▸ rfl, _, congrArg Prod.snd failed.symm⟩
  split at failed
  next refused =>
    rw [Except.error.injEq] at failed
    exact ⟨failed ▸ validateCheckpoint_error refused, .preserved, congrArg Prod.snd failed.symm⟩
  · split at failed
    · rw [Except.error.injEq] at failed
      exact ⟨failed ▸ rfl, .preserved, congrArg Prod.snd failed.symm⟩
    split at failed
    · rw [Except.error.injEq] at failed
      exact ⟨failed ▸ rfl, .unknown, congrArg Prod.snd failed.symm⟩
    · cases failed

theorem kept_finalizeRecording (kept : Kept clean service)
    (cleansUp : clean → answers.cleansUp = true)
    (sha256 : ByteString → ByteString) (dtmPath : ByteString) :
    Kept clean (service.finalizeRecording answers sha256 dtmPath).2 ∧
      (clean → (service.finalizeRecording answers sha256 dtmPath).2.state ≠ service.state →
        Left (service.finalizeRecording answers sha256 dtmPath).2) := by
  unfold finalizeRecording
  dsimp only
  split
  · exact ⟨kept, fun _ changed => absurd rfl changed⟩
  split
  · exact ⟨kept, fun _ changed => absurd rfl changed⟩
  next recording =>
    rw [ne_eq, Decidable.not_not] at recording
    split
    · exact ⟨kept, fun _ changed => absurd rfl changed⟩
    split
    · exact ⟨kept, fun _ changed => absurd rfl changed⟩
    have observed := kept_reconcilePausedState kept answers answers.activeEpoch
    have left : clean → Left (service.reconcilePausedState answers
        answers.activeEpoch).2 := fun isClean =>
      left_reconcilePausedState ((kept.tidy isClean).recordingLeft recording) _
    split
    · exact ⟨observed, fun isClean _ => left isClean⟩
    next ok =>
      rw [Bool.not_eq_true', Bool.not_eq_false] at ok
      have recorded := state_reconcilePausedState answers.activeEpoch recording ok
      split
      · have published := kept_publishRecording observed cleansUp recorded
          sha256 { service.baseReceipt answers .finalizeRecording with
            artifactPath := dtmPath } none
        exact ⟨published.1, fun isClean _ => published.2 isClean⟩
      next inherited _ =>
        split
        next failure after refused =>
          obtain ⟨-, integrity, same⟩ := verifyPrefix_error sha256 _ refused
          rw [show after = _ from same]
          exact ⟨observed.taintedBy integrity, fun isClean _ => (left isClean).taintedBy integrity⟩
        next checkpoint _ =>
          have published := kept_publishRecording observed cleansUp
            recorded sha256
            { service.baseReceipt answers .finalizeRecording with
              artifactPath := dtmPath } (some checkpoint)
          exact ⟨published.1, fun isClean _ => published.2 isClean⟩

theorem kept_cancelRecording (kept : Kept clean service)
    (cleansUp : clean → answers.cleansUp = true) : Kept clean (service.cancelRecording answers).2 ∧
      (clean → (service.cancelRecording answers).2.state ≠ service.state →
        Left (service.cancelRecording answers).2) := by
  unfold cancelRecording
  dsimp only
  split
  · exact ⟨kept, fun _ changed => absurd rfl changed⟩
  split
  · exact ⟨kept, fun _ changed => absurd rfl changed⟩
  next recording =>
    rw [ne_eq, Decidable.not_not] at recording
    have left : clean → Left service := fun isClean => (kept.tidy isClean).recordingLeft recording
    split
    · exact ⟨kept.taintedBy _, fun _ changed => absurd (state_taintedBy _) changed⟩
    have retired := kept_retireRecording kept recording
    have nothing : clean → Left service.unreserved.retireRecording :=
      fun isClean => (retired.tidy isClean).left rfl
    cases inactive : (validateBackendState .inactive answers.observation).ok with
    | true =>
      simp only [Bool.not_true, Bool.false_eq_true, if_false]
      obtain ⟨result, ⟨ok, released⟩ | ⟨failed, unclean, same⟩⟩ :=
        releaseReservation_clean cleansUp service
      · simp only [released, ok, Bool.not_true, Bool.false_eq_true,
          if_false, MovieServiceResult.ok_success, false_and]
        exact ⟨retired, fun isClean _ => nothing isClean⟩
      simp only [same, failed, Bool.not_false, if_true]
      refine ⟨?_, fun isClean => absurd isClean unclean⟩
      split
      · exact .of_unclean rfl unclean kept.restoring
      · exact .of_unclean rfl unclean kept.restoring
    | false =>
      simp only [Bool.not_false, if_true]
      obtain ⟨result, ⟨ok, released⟩ | ⟨failed, unclean, same⟩⟩ :=
        releaseReservation_clean cleansUp { service.taint with state := .unknown }
      · simp only [released, ok, Bool.not_true,
          Bool.not_false, Bool.false_eq_true, if_false, true_and]
        split
        · exact ⟨.of_unknown rfl rfl kept.restoring, fun isClean _ =>
            ⟨by simp [unreserved, dropPrefix], (left isClean).pause⟩⟩
        next known => exact absurd rfl known
      simp only [same, failed, Bool.not_false, if_true]
      refine ⟨?_, fun isClean => absurd isClean unclean⟩
      split
      · exact .of_unclean rfl unclean kept.restoring
      · exact .of_unclean rfl unclean kept.restoring

end End

section Capture

variable {clean : Prop} {answers : MovieAnswers} {service : MovieService}

theorem checkpointMovie_error {observed : MovieStateSnapshot} {failure : Served MovieServiceResult}
    (failed : service.checkpointMovie answers observed = .error failure) :
    ∃ integrity, failure.2 = service.taintedBy integrity := by
  unfold checkpointMovie at failed
  split at failed
  · rw [Except.error.injEq] at failed
    exact ⟨.preserved, congrArg Prod.snd failed.symm⟩
  split at failed
  · cases failed
  split at failed
  · dsimp only at failed
    split at failed
    · rw [Except.error.injEq] at failed
      exact ⟨_, congrArg Prod.snd failed.symm⟩
    · cases failed
  · rw [Except.error.injEq] at failed
    exact ⟨.preserved, congrArg Prod.snd failed.symm⟩

theorem kept_captureCheckpoint (kept : Kept clean service)
    (answers : MovieAnswers) (sha256 : ByteString → ByteString) :
    Kept clean (service.captureCheckpoint answers sha256).2 := by
  have observed := kept_reconcilePausedState kept answers answers.activeEpoch
  unfold captureCheckpoint
  dsimp only
  split
  · exact kept
  split
  · exact observed
  split
  next failure after refused =>
    obtain ⟨integrity, same⟩ := checkpointMovie_error refused
    rw [show after = _ from same]
    exact observed.taintedBy integrity
  · split
    · exact observed
    · exact observed

theorem kept_captureDeferredRecordingPairCheckpoint (kept : Kept clean service)
    (sha256 : ByteString → ByteString) : Kept clean
      (service.captureDeferredRecordingPairCheckpoint answers sha256).2 := by
  have captured := kept_captureCheckpoint kept answers sha256
  unfold captureDeferredRecordingPairCheckpoint
  dsimp only
  split
  · exact kept
  split
  · exact kept
  split
  · exact kept
  split
  · exact captured
  split
  · exact captured
  split
  · exact captured
  · exact captured.inherits _ _ true

end Capture

end Savor.Movie

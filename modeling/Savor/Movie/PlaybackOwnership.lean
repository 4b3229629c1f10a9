import Savor.Movie.OwnershipSteps

/-!
# Ownership through a playback

The preparation of a playback holds the reservation from its beginning.  Until
it succeeds the service without the reservation is what it was before.
-/

namespace Savor.Movie

open Program

section Preparation

variable {clean : Prop} {answers : MovieAnswers} {service : MovieService}

/-- A service in the middle of a preparation: it holds the reservation, and
would be what it was without it. -/
structure Staged (clean : Prop) (service : MovieService) : Prop where
  returned : Kept clean service.unreserved
  inactive : service.state = .inactive
  held : service.reservation.isSet = true

section

variable (staged : Staged clean service)
include staged

theorem Staged.taint : Staged clean service.taint :=
  ⟨staged.returned.taint, staged.inactive, staged.held⟩

theorem Staged.taintedBy (integrity : GuestIntegrity) :
    Staged clean (service.taintedBy integrity) := by
  unfold MovieService.taintedBy
  split
  · exact staged.taint
  · exact staged

/-- The reservation is returned, unless a cleanup fails. -/
theorem Staged.release (cleansUp : clean → answers.cleansUp = true) :
    ∃ result, (result.ok = true ∧ Kept clean service.unreserved ∧
        service.releaseReservation answers = (result, service.unreserved)) ∨
      (result.ok = false ∧ Kept clean service.taint ∧
        service.releaseReservation answers = (result, service)) := by
  obtain ⟨result, ⟨ok, released⟩ | ⟨failed, unclean, same⟩⟩ :=
    releaseReservation_clean cleansUp service
  · exact ⟨result, Or.inl ⟨ok, staged.returned, released⟩⟩
  · exact ⟨result, Or.inr ⟨failed, .of_unclean rfl unclean staged.returned.restoring, same⟩⟩

section

variable (cleansUp : clean → answers.cleansUp = true)
variable (receipt : MovieOperationReceipt) (primary : MovieServiceResult)
include cleansUp receipt primary

theorem kept_compensateStaging :
    Kept clean (service.compensateStaging answers receipt primary).2 := by
  unfold MovieService.compensateStaging
  obtain ⟨result, ⟨ok, returned, released⟩ | ⟨failed, tainted, refused⟩⟩ := staged.release cleansUp
  · rw [released]
    dsimp only
    split
    · exact returned
    · exact returned.taint
  rw [refused]
  dsimp only
  rw [if_neg (by simp [failed])]
  exact tainted

theorem kept_abandonStoppedCore :
    Kept clean (service.abandonStoppedCore answers receipt primary).2 := by
  unfold MovieService.abandonStoppedCore
  obtain ⟨result, ⟨-, returned, released⟩ | ⟨-, tainted, refused⟩⟩ := staged.taint.release cleansUp
  · rw [released]
    exact returned
  · rw [refused]
    exact tainted

end

end

theorem Kept.coreStarted (kept : Kept clean service) (started : Bool) :
    Kept clean { service with preparedCoreStarted := started } where
  sound untainted :=
    have sound := kept.sound untainted
    ⟨sound.reserved, sound.released, sound.pause, sound.movie, sound.known, sound.original⟩
  tidy isClean := ⟨(kept.tidy isClean).reservation, (kept.tidy isClean).pause⟩
  restoring := kept.restoring

section

variable (staged : Staged clean service)
variable (cleansUp : clean → answers.cleansUp = true)
variable (receipt : MovieOperationReceipt)
include staged cleansUp receipt

theorem kept_abandonStartedCore (primary : MovieServiceResult) :
    Kept clean (service.abandonStartedCore answers receipt primary).2 :=
  (kept_abandonStoppedCore staged cleansUp receipt primary).coreStarted false

section

variable (movie : MovieCheckpointMetadata) (startup : Option ByteString)
include movie startup

theorem kept_finishPreparation : Kept clean
      (service.finishPreparation answers receipt movie startup).2 := by
  have started : Staged clean { service with preparedCoreStarted := true } :=
    ⟨staged.returned.coreStarted true, staged.inactive, staged.held⟩
  unfold MovieService.finishPreparation
  dsimp only
  split
  · exact kept_abandonStartedCore started cleansUp _ _
  split
  · exact kept_abandonStartedCore started cleansUp _ _
  split
  · exact kept_abandonStartedCore started cleansUp _ _
  refine ⟨fun untainted => ?_, fun isClean => ?_, staged.returned.restoring⟩
  · have sound := staged.returned.sound untainted
    refine ⟨fun _ => staged.held, fun _ => Or.inl rfl, ?_, ?_, ?_, sound.original⟩
    · have unowned := sound.pause
      rw [show service.unreserved.state = .inactive from staged.inactive] at unowned
      exact unowned
    · simp
    · simp
  · refine ⟨by simp, fun _ => ?_⟩
    exact (staged.returned.tidy isClean).pause (Or.inl staged.inactive)

theorem kept_restartCore : Kept clean (service.restartCore answers receipt movie startup).2 := by
  unfold MovieService.restartCore
  split
  · exact kept_compensateStaging (staged.taintedBy _) cleansUp _ _
  split
  · exact kept_compensateStaging staged.taint cleansUp _ _
  split
  · exact kept_abandonStoppedCore staged cleansUp _ _
  split
  · exact kept_abandonStoppedCore staged cleansUp _ _
  · exact kept_finishPreparation staged cleansUp _ _ _

theorem kept_validateStaging :
    Kept clean (service.validateStaging answers receipt movie startup).2 := by
  unfold MovieService.validateStaging
  split
  · exact kept_compensateStaging staged cleansUp _ _
  split
  · exact kept_compensateStaging staged cleansUp _ _
  split
  · exact kept_compensateStaging staged.taint cleansUp _ _
  split
  · exact kept_compensateStaging staged cleansUp _ _
  split
  · exact kept_compensateStaging (staged.taintedBy _) cleansUp _ _
  · exact kept_restartCore staged cleansUp _ _ _

end

theorem kept_stagePlayback (movie : MovieCheckpointMetadata) :
    Kept clean (service.stagePlayback answers receipt movie).2 := by
  unfold MovieService.stagePlayback
  dsimp only
  split
  · obtain ⟨result, ⟨ok, returned, released⟩ | ⟨failed, tainted, refused⟩⟩ :=
      (staged.taintedBy answers.prepareReadOnlyPlayback.result.integrity).release cleansUp
    · rw [released]
      dsimp only
      rw [if_pos ok]
      exact returned
    rw [refused]
    dsimp only
    rw [if_neg (by simp [failed])]
    exact tainted
  · exact kept_validateStaging staged cleansUp _ _ _

end

theorem validateIdle_ok (idle : service.validateIdle.ok = true) :
    service.tainted = false ∧ service.state = .inactive ∧ service.reservation.isSet = false := by
  unfold MovieService.validateIdle at idle
  split at idle
  · cases idle
  next untainted =>
    split at idle
    · cases idle
    next free =>
      push Not at free
      exact ⟨Bool.not_eq_true _ ▸ untainted, free.1, Bool.not_eq_true _ ▸ free.2⟩

theorem kept_prepareReadOnlyPlayback (kept : Kept clean service)
    (cleansUp : clean → answers.cleansUp = true)
    (sha256 : ByteString → ByteString) (dtmPath : ByteString) : Kept clean
      (service.prepareReadOnlyPlayback answers sha256 dtmPath).2 := by
  unfold MovieService.prepareReadOnlyPlayback
  dsimp only
  split
  · exact kept
  split
  · exact kept
  split
  · exact kept
  split
  · exact kept
  next idle =>
    rw [Bool.not_eq_true', Bool.not_eq_false] at idle
    obtain ⟨-, inactive, unset⟩ := validateIdle_ok idle
    split
    · exact kept
    obtain ⟨id, isSet, -, acquired⟩ | ⟨result, failed, refused⟩ :=
      acquireReservation_cases answers service
    · rw [acquired]
      have returned : MovieService.unreserved
          { service with reservation := id } = service :=
        unreserved_of_not_isSet unset
      have staged : Staged clean { service with reservation := id } :=
        ⟨returned.symm ▸ kept, inactive, isSet⟩
      exact kept_stagePlayback staged cleansUp _ _
    rw [refused]
    dsimp only
    rw [if_pos (by simp [failed])]
    exact kept

end Preparation

section Playback

variable {clean : Prop} {answers : MovieAnswers} {service : MovieService}

theorem kept_startPreparedReadOnlyPlayback (kept : Kept clean service)
    (preparation : MoviePreparationId) : Kept clean
      (service.startPreparedReadOnlyPlayback answers preparation).2 := by
  unfold MovieService.startPreparedReadOnlyPlayback
  dsimp only
  split
  · exact kept
  split
  · exact kept
  next movie active =>
    split
    · exact kept
    next exact =>
      push Not at exact
      obtain ⟨-, prepared, -, -⟩ := exact
      split
      · exact kept.taintedBy _
      split
      · exact kept.taint
      obtain acquired | ⟨result, failed, refused⟩ := acquirePause_cases answers service
      · rw [acquired]
        refine ⟨fun untainted => ?_, fun isClean => ?_, kept.restoring⟩
        · have sound := kept.sound untainted
          have reserved := sound.reserved (by rw [prepared]; rfl)
          exact ⟨fun _ => reserved, fun _ => Or.inl rfl, rfl, by simp, by simp, sound.original⟩
        · exact ⟨by simp, by simp⟩
      rw [refused]
      dsimp only
      rw [if_pos (by simp [failed])]
      obtain ⟨released, ⟨-, same⟩ | ⟨-, -, -, same⟩⟩ :=
        releaseReservation_cases answers service.taint
      · rw [same]
        exact .of_unknown rfl rfl kept.restoring
      · rw [same]
        exact .of_unknown rfl rfl kept.restoring

theorem kept_abandonPreparedReadOnlyPlayback (kept : Kept clean service)
    (cleansUp : clean → answers.cleansUp = true) (preparation : MoviePreparationId) :
    Kept clean (service.abandonPreparedReadOnlyPlayback answers preparation).2 := by
  unfold MovieService.abandonPreparedReadOnlyPlayback
  dsimp only
  split
  · exact kept
  split
  · exact kept
  next exact =>
    push Not at exact
    obtain ⟨prepared, -, -⟩ := exact
    obtain ⟨result, ⟨ok, released⟩ | ⟨failed, unclean, same⟩⟩ :=
      releaseReservation_clean cleansUp service
    · rw [released]
      have ended : Kept clean
          { service.unreserved with
            state := .inactive
            preparation := .none
            activeMovie := none
            preparedStartingSavestate := none
            preparedCoreStarted := false } := by
        refine ⟨fun untainted => ?_, fun isClean => ?_, kept.restoring⟩
        · have sound := kept.sound untainted
          have unowned := sound.pause
          rw [prepared] at unowned
          exact ⟨by simp [MovieState.reserves, MovieState.playing],
            by simp [MovieService.unreserved], unowned, by simp, by simp,
            sound.original⟩
        · have unowned := (kept.tidy isClean).pause (Or.inr (Or.inr prepared))
          exact ⟨by simp [MovieService.unreserved], fun _ => unowned⟩
      dsimp only
      generalize (if service.preparedCoreStarted = true then
        answers.stopMovie else answers.discardPrepared) = discarded
      split
      · exact ended
      · exact ended.taint
    · rw [same]
      dsimp only
      rw [if_neg (by simp [failed])]
      exact .of_unclean rfl unclean kept.restoring

theorem state_abandonPreparedReadOnlyPlayback (preparation : MoviePreparationId) :
    (service.abandonPreparedReadOnlyPlayback answers preparation).2.state = service.state ∨
      (service.abandonPreparedReadOnlyPlayback answers preparation).2.state = .inactive := by
  unfold MovieService.abandonPreparedReadOnlyPlayback
  dsimp only
  split
  · exact Or.inl rfl
  split
  · exact Or.inl rfl
  right
  generalize (if service.preparedCoreStarted = true then
    answers.stopMovie else answers.discardPrepared) = discarded
  split <;> rfl

/-- Whatever happens at the end of a stopped playback, nothing is held after
it. -/
theorem kept_releasePlayback (service : MovieService) (cleansUp : clean → answers.cleansUp = true)
    (kept : service.tainted = false → Sound service)
    (restoring : service.acquiredForRestore = true → service.restorePrepared = true)
    (receipt : MovieOperationReceipt) (result : MovieServiceResult) :
    Kept clean (service.releasePlayback answers receipt result).2 ∧
      (clean → Left (service.releasePlayback answers receipt result).2) := by
  unfold MovieService.releasePlayback
  obtain ⟨pause, ⟨paused, unpaused⟩ | ⟨failed, unclean, same⟩⟩ :=
    releasePause_clean cleansUp service
  · obtain ⟨release, ⟨released, unreserved⟩ | ⟨failed, unclean, same⟩⟩ :=
      releaseReservation_clean cleansUp service.unpaused
    · simp only [unpaused, paused, unreserved, released, Bool.not_true,
        Bool.false_eq_true, if_false]
      split
      next unknown =>
        refine ⟨⟨fun untainted => ?_, fun _ => tidy_of_unknown unknown.2,
          restoring⟩, fun _ => ⟨by simp [MovieService.unreserved], rfl⟩⟩
        exact absurd unknown.2 (kept untainted).known
      next =>
        refine ⟨⟨fun untainted => ?_, fun _ => ⟨?_, fun _ => rfl⟩, restoring⟩,
          fun _ => ⟨by simp [MovieService.unreserved], rfl⟩⟩
        · exact ⟨by simp [MovieState.reserves, MovieState.playing],
            by simp [MovieService.unreserved], rfl, by simp, by simp,
            (kept untainted).original⟩
        · simp [MovieService.unreserved]
    · simp only [unpaused, paused, same, failed, Bool.not_true,
        Bool.not_false, Bool.false_eq_true, if_false, if_true]
      split
      · exact ⟨.of_unclean rfl unclean restoring, fun isClean => absurd isClean unclean⟩
      · exact ⟨.of_unclean rfl unclean restoring, fun isClean => absurd isClean unclean⟩
  · refine ⟨?_, fun isClean => absurd isClean unclean⟩
    obtain ⟨release, ⟨released, unreserved⟩ | ⟨refused, -, kept⟩⟩ :=
      releaseReservation_clean cleansUp { service.taint with state := .unknown }
    · simp only [same, failed, unreserved, released, Bool.not_true,
        Bool.not_false, Bool.false_eq_true, if_false, if_true]
      split
      · exact .of_unclean rfl unclean restoring
      · exact .of_unclean rfl unclean restoring
    simp only [same, failed, kept, refused, Bool.not_false, if_true]
    split
    · exact .of_unclean rfl unclean restoring
    · exact .of_unclean rfl unclean restoring

theorem kept_stopPlayback (kept : Kept clean service) (cleansUp : clean → answers.cleansUp = true) :
    Kept clean (service.stopPlayback answers).2 ∧
      (clean → (service.stopPlayback answers).2.state ≠ service.state →
        Left (service.stopPlayback answers).2) := by
  unfold MovieService.stopPlayback
  dsimp only
  split
  · exact ⟨kept, fun _ changed => absurd rfl changed⟩
  split
  · have ended := kept_releasePlayback service cleansUp kept.sound
      kept.restoring (service.baseReceipt answers .stopPlayback) .success
    exact ⟨ended.1, fun isClean _ => ended.2 isClean⟩
  · split
    · exact ⟨kept.taintedBy _, fun _ changed => absurd (state_taintedBy _) changed⟩
    split
    · have lost := kept_releasePlayback
        { service.taint with state := .unknown } cleansUp
        nofun
        kept.restoring (service.baseReceipt answers .stopPlayback)
        { validateBackendState .inactive answers.observation with
          integrity := .unknown }
      exact ⟨lost.1, fun isClean _ => lost.2 isClean⟩
    have ended := kept_releasePlayback service cleansUp kept.sound
      kept.restoring (service.baseReceipt answers .stopPlayback) .success
    exact ⟨ended.1, fun isClean _ => ended.2 isClean⟩
  · exact ⟨kept, fun _ changed => absurd rfl changed⟩

end Playback

end Savor.Movie

import Savor.Movie.RecordingOwnership

/-!
# Ownership through a restore

A restore may acquire a reservation before the savestate is loaded.  Its commit
moves the reservation and the pause to where the restored movie needs them, and
its rollback returns what it acquired.
-/

namespace Savor.Movie

open Program
open MovieService
open MovieState

section Prepare

variable {clean : Prop} {answers : MovieAnswers} {service : MovieService}
variable {context : SavestateMovieRestoreContext}

/-- `PrepareSavestateRestore` acquires a reservation. -/
def MovieService.reservesForRestore (answers : MovieAnswers)
    (context : SavestateMovieRestoreContext) (service : MovieService) : Prop :=
  answers.onOwnerThread = true ∧ context.worksetEpoch.isSet = true ∧
    context.worksetEpoch = answers.activeEpoch ∧
    service.restorePrepared = false ∧ context.mode = .readOnlyPlayback ∧
    service.reservation.isSet = false ∧ (service.acquireReservation answers).1.ok = true

section

variable (kept : Kept clean service)
include kept

theorem Kept.acquired_of_unprepared (unprepared : service.restorePrepared = false) :
    service.acquiredForRestore = false := by
  cases acquired : service.acquiredForRestore with
  | false => rfl
  | true => exact absurd ((kept.restoring acquired).symm.trans unprepared) Bool.noConfusion

theorem Kept.forget (unprepared : service.restorePrepared = false) : Kept clean
      { service with originalMovie := none, originalState := .inactive } := by
  have acquired := kept.acquired_of_unprepared unprepared
  refine ⟨fun untainted => ?_, fun isClean =>
    ⟨(kept.tidy isClean).reservation, (kept.tidy isClean).pause⟩,
    kept.restoring⟩
  have sound := kept.sound untainted
  exact ⟨sound.reserved, sound.released, sound.pause, sound.movie, sound.known,
    by simp [Remembers, unprepared, acquired]⟩

theorem Kept.remember (unprepared : service.restorePrepared = false) : Kept clean
      { service with
        originalState := service.state
        originalMovie := service.activeMovie
        restorePrepared := true } := by
  have acquired := kept.acquired_of_unprepared unprepared
  refine ⟨fun untainted => ?_, fun isClean =>
    ⟨(kept.tidy isClean).reservation, (kept.tidy isClean).pause⟩, fun _ => rfl⟩
  have sound := kept.sound untainted
  refine ⟨sound.reserved, sound.released, sound.pause, sound.movie, sound.known,
    fun _ => ⟨sound.movie, sound.known⟩, fun other => ?_⟩
  exact absurd (other.symm.trans acquired) Bool.noConfusion

theorem Kept.acquire (unset : service.reservation.isSet = false)
    {id : MovieReservationId} (isSet : id.isSet = true) : Kept clean
      { service with
        reservation := id
        acquiredForRestore := true
        originalState := service.state
        originalMovie := service.activeMovie
        restorePrepared := true } := by
  refine ⟨fun untainted => ?_, fun isClean =>
    ⟨fun _ _ => rfl, (kept.tidy isClean).pause⟩, fun _ => rfl⟩
  have sound := kept.sound untainted
  refine ⟨fun _ => isSet, fun _ => Or.inr rfl, sound.pause, sound.movie,
    sound.known, fun _ => ⟨sound.movie, sound.known⟩, fun _ => ?_⟩
  cases reserves : service.state.reserves with
  | false => rfl
  | true => exact absurd ((sound.reserved reserves).symm.trans unset) Bool.noConfusion

theorem kept_returnAcquired (cleansUp : clean → answers.cleansUp = true)
    (unprepared : service.restorePrepared = false) (unset : service.reservation.isSet = false)
    (returns : service.tainted = false → answers.releaseReservation.ok = true)
    (id : MovieReservationId) : Kept clean
      { ({ service with
          reservation := id
          acquiredForRestore := true }.releaseReservation answers).2 with
        acquiredForRestore := false
        originalMovie := none
        originalState := .inactive } := by
  have acquired := kept.acquired_of_unprepared unprepared
  have forgotten := kept.forget unprepared
  obtain ⟨result, ⟨-, released⟩ | ⟨-, refused, -, same⟩⟩ :=
    releaseReservation_cases answers { service with reservation := id, acquiredForRestore := true }
  · rw [released]
    have returned :
        { unreserved
            { service with reservation := id, acquiredForRestore := true } with
          acquiredForRestore := false
          originalMovie := none
          originalState := .inactive } =
        { service with originalMovie := none, originalState := .inactive } := by
      simp only [unreserved, ← acquired, ← eq_none_of_not_isSet unset]
    rw [returned]
    exact forgotten
  · rw [same]
    have tainted : service.tainted = true := by
      cases untainted : service.tainted with
      | true => rfl
      | false => exact absurd ((returns untainted).symm.trans refused) Bool.noConfusion
    have unclean : ¬ clean := fun isClean => by
      rw [(MovieAnswers.releases (cleansUp isClean)).1] at refused
      cases refused
    exact .of_unclean tainted unclean (by rintro ⟨⟩)

theorem kept_rememberOriginal (unprepared : service.restorePrepared = false) :
    Kept clean (service.rememberOriginal answers).2 := by
  unfold rememberOriginal
  split
  · dsimp only
    rw [if_neg (by simp [kept.acquired_of_unprepared unprepared])]
    exact kept.forget unprepared
  · exact kept.remember unprepared

theorem kept_prepareSavestateRestore (cleansUp : clean → answers.cleansUp = true)
    (returns : service.tainted = false → service.reservesForRestore answers context →
      answers.prepareRestore.ok = true ∨ answers.releaseReservation.ok = true) :
    Kept clean (service.prepareSavestateRestore answers context).2 := by
  unfold prepareSavestateRestore
  split
  · exact kept
  next thread =>
    split
    · exact kept
    next epoch =>
      split
      · exact kept
      next unprepared =>
        rw [Bool.not_eq_true] at unprepared
        split
        · exact kept
        split
        · exact kept
        unfold reserveRestore
        by_cases acquires : context.mode = .readOnlyPlayback ∧ (!service.reservation.isSet) = true
        · rw [if_pos acquires]
          obtain ⟨playback, unset⟩ := acquires
          rw [Bool.not_eq_true'] at unset
          obtain ⟨id, isSet, -, acquired⟩ | ⟨result, failed, refused⟩ :=
            acquireReservation_cases answers service
          · rw [acquired]
            simp only [MovieServiceResult.ok_success, if_true,
              Bool.not_true, Bool.false_eq_true, if_false]
            unfold rememberOriginal
            split
            next unanswered =>
              rw [Bool.not_eq_true'] at unanswered
              dsimp only
              rw [if_pos rfl]
              refine kept_returnAcquired kept cleansUp unprepared unset (fun untainted => ?_) id
              rw [Bool.not_eq_true', Bool.not_eq_false] at thread
              push Not at epoch
              rw [ne_eq, Bool.not_eq_true', Bool.not_eq_false] at epoch
              have reserves : service.reservesForRestore answers context :=
                ⟨thread, epoch.1, epoch.2, unprepared, playback, unset, by rw [acquired]; rfl⟩
              refine (returns untainted reserves).resolve_left fun other => ?_
              exact absurd (other.symm.trans unanswered) Bool.noConfusion
            next => exact kept.acquire unset isSet
          · rw [refused]
            simp only [failed, Bool.false_eq_true, if_false, Bool.not_false, if_true]
            exact kept
        · rw [if_neg acquires]
          exact kept_rememberOriginal kept unprepared

end

end Prepare

section Commit

variable {clean : Prop} {answers : MovieAnswers} {service : MovieService}
variable {context : SavestateMovieRestoreContext}

/-- A service that lost its movie keeps nothing but what it could not
release. -/
theorem kept_loseMovie : Kept clean service.loseMovie := .of_unknown rfl rfl nofun

theorem kept_failCommit (failure : MovieServiceResult) :
    Kept clean (service.failCommit answers failure).2 := by
  unfold failCommit
  obtain ⟨result, ⟨-, released⟩ | ⟨-, -, -, same⟩⟩ :=
    releaseReservation_cases answers service.loseMovie
  · rw [released]
    exact .of_unknown rfl rfl nofun
  · rw [same]
    exact kept_loseMovie

theorem transferPause_cases (answers : MovieAnswers) (service : MovieService)
    (restored : MovieState) : ∃ result, (result.ok = true ∧ ∃ owned,
        (owned = true ↔ restored = .readOnlyPlayback) ∧ service.transferPause answers restored =
          (result, { service with pauseAtPlaybackEndOwned := owned })) ∨
      (result.ok = false ∧ service.transferPause answers restored = (result, service)) := by
  unfold transferPause
  by_cases playback : restored = .readOnlyPlayback
  · cases owned : service.pauseAtPlaybackEndOwned with
    | false =>
      rw [if_pos ⟨playback, rfl⟩]
      obtain acquired | ⟨result, failed, same⟩ := acquirePause_cases answers service
      · rw [acquired]
        exact ⟨.success, Or.inl ⟨rfl, true, by simp [playback], rfl⟩⟩
      · exact ⟨result, Or.inr ⟨failed, same⟩⟩
    | true =>
      rw [if_neg (by simp), if_neg (by simp [playback])]
      refine ⟨.success, Or.inl ⟨rfl, true, by simp [playback], ?_⟩⟩
      rw [← owned]
  · rw [if_neg (by simp [playback])]
    cases owned : service.pauseAtPlaybackEndOwned with
    | false =>
      rw [if_neg (by simp)]
      refine ⟨.success, Or.inl ⟨rfl, false, by simp [playback], ?_⟩⟩
      rw [← owned]
    | true =>
      rw [if_pos ⟨playback, rfl⟩]
      obtain ⟨result, ⟨ok, released⟩ | ⟨failed, -, same⟩⟩ := releasePause_cases answers service
      · exact ⟨result, Or.inl ⟨ok, false, by simp [playback], released⟩⟩
      · exact ⟨result, Or.inr ⟨failed, same⟩⟩

theorem remembers_closeRestore : Remembers service.closeRestore := ⟨nofun, nofun⟩

theorem kept_commitMovie {movie : MovieCheckpointMetadata} (moded : movie.mode ≠ .none)
    (reserved : movie.mode = .readOnlyPlayback → service.reservation.isSet = true) :
    Kept clean (service.commitMovie answers movie).2 := by
  unfold commitMovie
  obtain ⟨pause, ⟨paused, owned, owns, transferred⟩ | ⟨failed, same⟩⟩ :=
    transferPause_cases answers service (stateOf movie.mode)
  · simp only [transferred, paused, Bool.not_true, Bool.false_eq_true, if_false]
    cases mode : movie.mode with
    | none => exact absurd mode moded
    | readOnlyPlayback =>
      rw [mode] at owns
      rw [owns.mpr rfl]
      simp only [stateOf, reduceCtorEq, if_false,
        MovieServiceResult.ok_success, Bool.not_true, Bool.false_eq_true]
      refine ⟨fun _ => ⟨fun _ => reserved mode, fun _ => Or.inl rfl, rfl,
        ?_, ?_, remembers_closeRestore⟩, fun _ => ⟨?_, ?_⟩,
        by rintro ⟨⟩⟩
      · simp [closeRestore, dropPrefix]
      · simp [closeRestore, dropPrefix]
      · simp [closeRestore, dropPrefix]
      · simp [closeRestore, dropPrefix]
    | recording =>
      have unowned : owned = false := by
        rw [mode] at owns
        rw [← Bool.not_eq_true, owns]
        decide
      rw [unowned]
      simp only [stateOf, if_true]
      obtain ⟨result, ⟨ok, released⟩ | ⟨failed, -, -, same⟩⟩ :=
        releaseReservation_cases answers { service with pauseAtPlaybackEndOwned := false }
      · simp only [released, ok, Bool.not_true, Bool.false_eq_true, if_false]
        refine ⟨fun _ => ⟨?_, ?_, rfl, ?_, ?_, remembers_closeRestore⟩,
          fun _ => ⟨?_, fun _ => rfl⟩, by rintro ⟨⟩⟩
        · simp [closeRestore, reserves, playing]
        · simp [closeRestore, unreserved]
        · simp [closeRestore]
        · simp [closeRestore]
        · simp [closeRestore, unreserved]
      · simp only [same, failed, Bool.not_false, if_true]
        exact kept_loseMovie
  · simp only [same, failed, Bool.not_false, if_true]
    exact kept_loseMovie

/-- Without a movie nothing is held. -/
theorem kept_commitNoMovie : Kept clean (service.commitNoMovie answers).2 := by
  unfold commitNoMovie
  obtain ⟨pause, ⟨paused, unpaused⟩ | ⟨failed, -, same⟩⟩ := releasePause_cases answers service
  · obtain ⟨result, ⟨ok, released⟩ | ⟨refused, -, -, same⟩⟩ :=
      releaseReservation_cases answers service.unpaused.retireRecording
    · simp only [unpaused, paused, released, ok, Bool.not_true, Bool.false_eq_true, if_false]
      refine ⟨fun _ => ⟨?_, ?_, rfl, ?_, ?_, remembers_closeRestore⟩,
        fun _ => ⟨?_, fun _ => rfl⟩, by rintro ⟨⟩⟩
      · simp [closeRestore, retireRecording, unreserved, reserves, playing]
      · simp [closeRestore, unreserved]
      · simp [closeRestore, retireRecording, unreserved]
      · simp [closeRestore, retireRecording, unreserved]
      · simp [closeRestore, unreserved]
    · simp only [unpaused, paused, same, refused, Bool.not_true, Bool.not_false,
        Bool.false_eq_true, if_false, if_true]
      exact .of_unknown rfl rfl (by rintro ⟨⟩)
  · simp only [same, failed, Bool.not_false, if_true]
    exact .of_unknown rfl rfl (by rintro ⟨⟩)

/-- `CommitSavestateRestore` restores the movie of the checkpoint. -/
def MovieService.commits (answers : MovieAnswers)
    (context : SavestateMovieRestoreContext) (service : MovieService) : Prop :=
  answers.onOwnerThread = true ∧ service.restorePrepared = true ∧
    context.worksetEpoch = answers.activeEpoch ∧ answers.commitRestore.ok = true ∧
    (validateBackendFor context.movie answers.observation).ok = true

theorem kept_commitSavestateRestore (kept : Kept clean service)
    (moded : service.commits answers context → ∀ movie ∈ context.movie, movie.mode ≠ .none)
    (reserved : service.commits answers context →
      context.mode = .readOnlyPlayback → service.reservation.isSet = true) :
    Kept clean (service.commitSavestateRestore answers context).2 := by
  unfold commitSavestateRestore
  dsimp only
  split
  · exact kept
  next thread =>
    split
    · exact kept
    next prepared =>
      split
      · exact kept_failCommit _
      next committed =>
        split
        · exact kept_failCommit _
        next observed =>
          simp only [Bool.not_eq_true', Bool.not_eq_false, ne_eq, not_or,
            Decidable.not_not] at thread prepared committed observed
          have commits : service.commits answers context :=
            ⟨thread, prepared.1, prepared.2, committed, observed⟩
          split
          next movie restored =>
            refine kept_commitMovie (moded commits movie restored)
              fun playback => reserved commits ?_
            rw [SavestateMovieRestoreContext.mode, restored]
            exact playback
          next => exact kept_commitNoMovie

end Commit

section Rollback

variable {clean : Prop} {answers : MovieAnswers} {service : MovieService}

/-- The service is in a state of the kind in which its restore was prepared. -/
def MovieService.sinceRestore (service : MovieService) : Prop :=
  service.originalState = .unknown ∨
    (service.state ≠ .unknown ∧ service.originalState.reserves = service.state.reserves ∧
      service.originalState.playing = service.state.playing)

theorem MovieState.idle_of_not_reserves {state : MovieState}
    (known : state ≠ .unknown) (idle : state.reserves = false) :
    state = .inactive ∨ state = .recording := by
  cases state with
  | inactive => exact Or.inl rfl
  | recording => exact Or.inr rfl
  | preparedReadOnlyPlayback | readOnlyPlayback | playbackEnded => exact absurd idle (by decide)
  | unknown => exact absurd rfl known

theorem MovieState.prepared_of_not_playing {state : MovieState}
    (reserves : state.reserves = true) (unplayed : state.playing = false) :
    state = .preparedReadOnlyPlayback := by
  cases state with
  | preparedReadOnlyPlayback => rfl
  | inactive | recording | unknown => exact absurd reserves (by decide)
  | readOnlyPlayback | playbackEnded => exact absurd unplayed (by decide)

/-- What is held after a rollback is what its state needs. -/
theorem kept_returnToOriginal (kept : Kept clean service)
    (prepared : service.restorePrepared = true) (since : service.sinceRestore)
    {id : MovieReservationId} (returned : id.isSet = true ↔
      service.reservation.isSet = true ∧ service.acquiredForRestore = false) :
    Kept clean
      { service with
        reservation := id
        state := service.originalState
        activeMovie := service.originalMovie }.closeRestore := by
  refine ⟨fun untainted => ?_, fun isClean => ?_, nofun⟩
  · have sound := kept.sound untainted
    obtain ⟨remembered, acquires⟩ := sound.original
    obtain ⟨movie, known⟩ := remembered prepared
    obtain ⟨-, reserves, playing⟩ := since.resolve_left known
    refine ⟨fun needed => ?_, fun held => ?_, ?_, movie, known, remembers_closeRestore⟩
    · refine returned.mpr ⟨sound.reserved (reserves ▸ needed), ?_⟩
      cases acquired : service.acquiredForRestore with
      | false => rfl
      | true => exact absurd ((acquires acquired).symm.trans needed) Bool.noConfusion
    · obtain ⟨set, unacquired⟩ := returned.mp held
      refine Or.inl (reserves.trans ?_)
      refine (sound.released set).resolve_right fun other => ?_
      exact absurd (other.symm.trans unacquired) Bool.noConfusion
    · exact sound.pause.trans playing.symm
  · have tidy := kept.tidy isClean
    have idle (quiet : service.originalState = .inactive ∨ service.originalState = .recording) :
        service.state = .inactive ∨ service.state = .recording := by
      obtain ⟨known, reserves, -⟩ := since.resolve_left (by
        rcases quiet with same | same <;> simp [same])
      refine idle_of_not_reserves known (reserves.symm.trans ?_)
      rcases quiet with same | same <;> rw [same] <;> rfl
    refine ⟨fun quiet held => ?_, fun quiet => ?_⟩
    · obtain ⟨set, unacquired⟩ := returned.mp held
      exact absurd ((tidy.reservation (idle quiet) set).symm.trans unacquired) Bool.noConfusion
    rcases quiet with inactive | recording | preparedState
    · exact tidy.pause ((idle (Or.inl inactive)).imp_right Or.inl)
    · exact tidy.pause ((idle (Or.inr recording)).imp_right Or.inl)
    change service.originalState = .preparedReadOnlyPlayback at preparedState
    obtain ⟨-, reserves, playing⟩ := since.resolve_left (by simp [preparedState])
    rw [preparedState] at reserves playing
    exact tidy.pause (Or.inr (Or.inr (prepared_of_not_playing reserves.symm playing.symm)))

theorem kept_rollbackSavestateRestore (kept : Kept clean service)
    (since : answers.onOwnerThread = true → service.restorePrepared = true →
      answers.rollbackRestore.ok = true → service.sinceRestore) :
    Kept clean (service.rollbackSavestateRestore answers).2 := by
  unfold rollbackSavestateRestore
  split
  · exact kept
  next thread =>
    split
    · exact kept
    next prepared =>
      rw [Bool.not_eq_true', Bool.not_eq_false] at thread prepared
      by_cases rolledBack : answers.rollbackRestore.ok = true
      · have original := since thread prepared rolledBack
        cases acquired : service.acquiredForRestore with
        | false =>
          simp only [Bool.false_eq_true, if_false, rolledBack,
            MovieServiceResult.ok_success, Bool.not_true, or_self]
          exact kept_returnToOriginal kept prepared original ⟨fun set => ⟨set, acquired⟩, And.left⟩
        | true =>
          obtain ⟨result, ⟨ok, released⟩ | ⟨failed, -, -, same⟩⟩ :=
            releaseReservation_cases answers service
          · simp only [if_true, released, ok, rolledBack, Bool.not_true,
              Bool.false_eq_true, or_self, if_false]
            refine kept_returnToOriginal kept prepared original ⟨nofun, fun held => ?_⟩
            exact absurd (acquired.symm.trans held.2) Bool.noConfusion
          · simp only [if_true, same, failed, Bool.not_false, or_true]
            exact kept_loseMovie
      · simp only [rolledBack, Bool.not_false, true_or, if_true]
        exact kept_loseMovie

end Rollback

end Savor.Movie

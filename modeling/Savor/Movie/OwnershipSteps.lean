import Savor.Movie.MovieRecording
import Savor.Library.Transition

/-!
# What the movie service owns

The savestate restores, the runs of the service, and what the exits of its
operations have in common.
-/

namespace Savor.Movie

open Library Program

/-!
## Savestate restores

Around the load of a savestate the service prepares the movie history of the
checkpoint, and commits it or rolls it back afterwards.
-/

namespace MovieService

variable (answers : MovieAnswers) (service : MovieService)

/-- No restore is prepared. -/
def closeRestore : MovieService :=
  { service with
    restorePrepared := false
    acquiredForRestore := false
    originalMovie := none
    originalState := .inactive }

/-- The movie is lost, and no restore is prepared. -/
def loseMovie : MovieService :=
  { service.dropPrefix.closeRestore with
    tainted := true
    state := .unknown
    activeMovie := none }

/-- The end of a commit that the backend failed or that cannot be confirmed. -/
def failCommit (failure : MovieServiceResult) : Served MovieServiceResult :=
  let (released, after) := service.loseMovie.releaseReservation answers
  ({ failure with
      integrity := .unknown
      message := failure.message ++
        (if !released.ok then text "; " ++ released.message else []) }, after)

/-- A restored playback owns the controller source, a recording only observes
it. -/
def reserveRestore (mode : MovieCheckpointMode) : Served MovieServiceResult :=
  if mode = .readOnlyPlayback ∧ !service.reservation.isSet then
    let (acquired, reserved) := service.acquireReservation answers
    if acquired.ok then
      (acquired, { reserved with acquiredForRestore := true })
    else (acquired, reserved)
  else (.success, service)

/-- The part of `PrepareSavestateRestore` that asks the backend. -/
def rememberOriginal : Served MovieServiceResult :=
  if !answers.prepareRestore.ok then
    let returned :=
      if service.acquiredForRestore then
        { (service.releaseReservation answers).2 with
          acquiredForRestore := false }
      else service
    (fromBackendResult answers.prepareRestore "Movie backend failed to prepare savestate history",
      { returned with originalMovie := none, originalState := .inactive })
  else
    (.success,
      { service with
        originalState := service.state
        originalMovie := service.activeMovie
        restorePrepared := true })

/-- `MovieService::PrepareSavestateRestore`. -/
def prepareSavestateRestore (context : SavestateMovieRestoreContext) : Served MovieServiceResult :=
  if !answers.onOwnerThread then (wrongThread, service)
  else if !context.worksetEpoch.isSet ∨ context.worksetEpoch ≠ answers.activeEpoch then
    (.failure .invalidState (text
      "Savestate movie restore does not belong to the active workset"), service)
  else if service.restorePrepared then
    (.failure .invalidState (text "A savestate movie restore is already prepared"), service)
  else if context.mode = .recording ∧ context.externalArtifact then
    (.failure .unsupported (text
      "Cold restoration of an in-progress recording is unsupported"), service)
  else if context.mode = .recording ∧
      context.movie.elim .none (·.recordingWorksetEpoch) ≠ answers.activeEpoch then
    (.failure .invalidState (text "Recording checkpoint does not belong to the active workset"),
      service)
  else
    let (acquired, reserved) := service.reserveRestore answers context.mode
    if !acquired.ok then (acquired, reserved)
    else reserved.rememberOriginal answers

/-- The end of a commit where the pause or the reservation could not be moved.
A restored movie is lost with it. -/
def failTransfer (failure : MovieServiceResult) : Served MovieServiceResult :=
  ({ failure with integrity := .unknown }, service.loseMovie)

/-- The ownership of the pause follows the restored state. -/
def transferPause (restored : MovieState) : Served MovieServiceResult :=
  if restored = .readOnlyPlayback ∧ !service.pauseAtPlaybackEndOwned then
    service.acquirePauseAtPlaybackEnd answers
  else if restored ≠ .readOnlyPlayback ∧ service.pauseAtPlaybackEndOwned then
    service.releasePauseAtPlaybackEnd answers
  else (.success, service)

/-- The part of `CommitSavestateRestore` for a checkpoint with a movie. -/
def commitMovie (movie : MovieCheckpointMetadata) : Served MovieServiceResult :=
  let reconciled := movie.observedAt answers.observation
  let restored := stateOf movie.mode
  let (pause, paused) := service.transferPause answers restored
  if !pause.ok then paused.failTransfer pause
  else
    let (released, after) :=
      if restored = .recording then paused.releaseReservation answers
      else (.success, paused)
    if !released.ok then after.failTransfer released
    else
      let committed := { after with state := restored, activeMovie := some reconciled }
      let committed :=
        if restored = .recording then
          -- A deferred checkpoint stays pending.
          { committed with
            recordingPrefix := some reconciled
            recordingPrefixInputCount := reconciled.currentInputCount }
        else committed.dropPrefix
      (.success, committed.closeRestore)

/-- The part of `CommitSavestateRestore` for a checkpoint without a movie. -/
def commitNoMovie : Served MovieServiceResult :=
  let (pause, paused) := service.releasePauseAtPlaybackEnd answers
  if !pause.ok then
    ({ pause with integrity := .unknown },
      { paused.closeRestore with tainted := true, state := .unknown })
  else
    let idle := paused.retireRecording
    let (released, after) := idle.releaseReservation answers
    if !released.ok then
      ({ released with integrity := .unknown },
        { after.closeRestore with tainted := true, state := .unknown })
    else (.success, after.closeRestore)

/-- `MovieService::CommitSavestateRestore`. -/
def commitSavestateRestore (context : SavestateMovieRestoreContext) : Served MovieServiceResult :=
  if !answers.onOwnerThread then (wrongThread, service)
  else if !service.restorePrepared ∨ context.worksetEpoch ≠ answers.activeEpoch then
    (.failure .invalidState (text
      "Savestate movie restore was not prepared for this workset"), service)
  else if !answers.commitRestore.ok then
    service.failCommit answers (fromBackendResult answers.commitRestore
      "Movie savestate restore commit failed")
  else
    let observed := validateBackendFor context.movie answers.observation
    if !observed.ok then service.failCommit answers observed
    else
      match context.movie with
      | some movie => service.commitMovie answers movie
      | none => service.commitNoMovie answers

/-- `MovieService::RollbackSavestateRestore`. -/
def rollbackSavestateRestore : Served MovieServiceResult :=
  if !answers.onOwnerThread then (wrongThread, service)
  else if !service.restorePrepared then (.success, service)
  else
    let rolledBack := answers.rollbackRestore
    let (release, after) :=
      if service.acquiredForRestore then service.releaseReservation answers
      else (.success, service)
    if !rolledBack.ok ∨ !release.ok then
      (.failure .integrityFailure (if !rolledBack.ok then
          orText rolledBack.message "Movie savestate restore rollback failed"
        else release.message) .unknown, after.loseMovie)
    else
      (.success,
        { after with
          state := service.originalState
          activeMovie := service.originalMovie }.closeRestore)

end MovieService

/-!
## Runs of the movie service

The calls of the service in any order, with any answers of its surroundings.
-/

inductive MovieCall
  | prepareReadOnlyPlayback (dtmPath : ByteString)
  | startPreparedReadOnlyPlayback (preparation : MoviePreparationId)
  | abandonPreparedReadOnlyPlayback (preparation : MoviePreparationId)
  | stopPlayback
  | startRecording
  | finalizeRecording (dtmPath : ByteString)
  | cancelRecording
  | captureCheckpoint
  | captureDeferredRecordingPairCheckpoint
  | snapshotState (expected : WorksetEpoch)
  | reconcilePausedState (expected : WorksetEpoch)
  | prepareSavestateRestore (context : SavestateMovieRestoreContext)
  | commitSavestateRestore (context : SavestateMovieRestoreContext)
  | rollbackSavestateRestore

/-- A call and what the surroundings answer during it. -/
structure MovieInput where
  call : MovieCall
  answers : MovieAnswers := {}

/-- What a call returns. -/
inductive MovieEvent
  | operation (receipt : MovieOperationReceipt)
  | checkpoint (receipt : MovieCheckpointReceipt)
  | snapshot (snapshot : MovieStateSnapshot)
  | result (result : MovieServiceResult)

/-- Serve one call. -/
def serve (sha256 : ByteString → ByteString) (input : MovieInput)
    (service : MovieService) : Served MovieEvent :=
  let answers := input.answers
  match input.call with
  | .prepareReadOnlyPlayback dtmPath =>
    (service.prepareReadOnlyPlayback answers sha256 dtmPath).map .operation id
  | .startPreparedReadOnlyPlayback preparation =>
    (service.startPreparedReadOnlyPlayback answers preparation).map .operation id
  | .abandonPreparedReadOnlyPlayback preparation =>
    (service.abandonPreparedReadOnlyPlayback answers preparation).map .operation id
  | .stopPlayback => (service.stopPlayback answers).map .operation id
  | .startRecording => (service.startRecording answers).map .operation id
  | .finalizeRecording dtmPath =>
    (service.finalizeRecording answers sha256 dtmPath).map .operation id
  | .cancelRecording => (service.cancelRecording answers).map .operation id
  | .captureCheckpoint => (service.captureCheckpoint answers sha256).map .checkpoint id
  | .captureDeferredRecordingPairCheckpoint =>
    (service.captureDeferredRecordingPairCheckpoint answers sha256).map .checkpoint id
  | .snapshotState expected => (.snapshot (service.snapshotState answers expected), service)
  | .reconcilePausedState expected =>
    (service.reconcilePausedState answers expected).map .snapshot id
  | .prepareSavestateRestore context =>
    (service.prepareSavestateRestore answers context).map .result id
  | .commitSavestateRestore context =>
    (service.commitSavestateRestore answers context).map .result id
  | .rollbackSavestateRestore => (service.rollbackSavestateRestore answers).map .result id

/-- Every call is served. -/
def step (sha256 : ByteString → ByteString) (input : MovieInput)
    (service : MovieService) : Option (MovieEvent × MovieService) :=
  some (serve sha256 input service)

/-- A recorded call. -/
abbrev MovieTransition := Transition MovieService MovieInput MovieEvent

/-- Runs of a new service. -/
abbrev MovieRun (sha256 : ByteString → ByteString) (Allowed : MovieService → MovieInput → Prop)
    (history : List MovieTransition) (service : MovieService) : Prop :=
  Run (step sha256) Allowed {} history service

/-!
## What the movie service owns

An untainted service holds the reservation and the ownership of the pause as its
state says, and a service whose cleanups were all answered well holds nothing in
a state without a lifecycle.  Here is what the exits of its operations have in
common.
-/

section Exits

/-- The states in which a movie plays or is about to play. -/
def MovieState.reserves (state : MovieState) : Bool :=
  state = .preparedReadOnlyPlayback ∨ state.playing

/-- What a prepared restore remembers: a state of the service, and that it did
not reserve where the restore had to acquire a reservation. -/
def Remembers (service : MovieService) : Prop :=
  (service.restorePrepared = true →
    (service.originalMovie.isSome = true ↔ service.originalState ≠ .inactive) ∧
      service.originalState ≠ .unknown) ∧
    (service.acquiredForRestore = true → service.originalState.reserves = false)

/-- The reservation is held exactly while a movie plays or is about to, unless
a prepared restore acquired it; the pause is owned exactly while a movie plays;
and there is an active movie in every state but the inactive one. -/
structure Sound (service : MovieService) : Prop where
  reserved : service.state.reserves = true → service.reservation.isSet = true
  released : service.reservation.isSet = true →
    service.state.reserves = true ∨ service.acquiredForRestore = true
  pause : service.pauseAtPlaybackEndOwned = service.state.playing
  movie : service.activeMovie.isSome = true ↔ service.state ≠ .inactive
  known : service.state ≠ .unknown
  original : Remembers service

/-- Outside of a playback nothing is held but what a restore acquired. -/
structure Tidy (service : MovieService) : Prop where
  reservation : service.state = .inactive ∨ service.state = .recording →
    service.reservation.isSet = true → service.acquiredForRestore = true
  pause : service.state = .inactive ∨ service.state = .recording ∨
      service.state = .preparedReadOnlyPlayback →
    service.pauseAtPlaybackEndOwned = false

/-- Nothing is held but what a restore acquired. -/
structure Left (service : MovieService) : Prop where
  reservation : service.reservation.isSet = true → service.acquiredForRestore = true
  pause : service.pauseAtPlaybackEndOwned = false

variable {service : MovieService}

theorem Tidy.recordingLeft (tidy : Tidy service) (recording : service.state = .recording) :
    Left service :=
  ⟨tidy.reservation (Or.inr recording), tidy.pause (Or.inr (Or.inl recording))⟩

theorem Tidy.left (tidy : Tidy service) (inactive : service.state = .inactive) : Left service :=
  ⟨tidy.reservation (Or.inl inactive), tidy.pause (Or.inl inactive)⟩

/-- Every cleanup that the service asks of the backend and of the owner of the
reservation succeeds. -/
def MovieAnswers.cleansUp (answers : MovieAnswers) : Bool :=
  answers.releaseReservation.ok ∧ answers.releasePause.ok ∧
    answers.stopMovie.ok ∧ answers.discardPrepared.ok ∧ answers.cancelRecording.ok

theorem MovieAnswers.releases {answers : MovieAnswers} (cleansUp : answers.cleansUp = true) :
    answers.releaseReservation.ok = true ∧ answers.releasePause.ok = true := by
  simp only [MovieAnswers.cleansUp, decide_eq_true_eq] at cleansUp
  exact ⟨cleansUp.1, cleansUp.2.1⟩

/-- The service is sound unless it is tainted, and tidy where all cleanups
succeeded so far. -/
structure Kept (clean : Prop) (service : MovieService) : Prop where
  sound : service.tainted = false → Sound service
  tidy : clean → Tidy service
  restoring : service.acquiredForRestore = true → service.restorePrepared = true

section Taint

variable {clean : Prop}

/-- Of a tainted service nothing is asked while the cleanups succeed but to be
tidy. -/
theorem Kept.of_tainted (tainted : service.tainted = true) (tidy : clean → Tidy service)
    (restoring : service.acquiredForRestore = true → service.restorePrepared = true) :
    Kept clean service where
  sound untainted := absurd (tainted.symm.trans untainted) Bool.noConfusion
  tidy := tidy
  restoring := restoring

theorem Kept.of_unclean (tainted : service.tainted = true) (unclean : ¬ clean)
    (restoring : service.acquiredForRestore = true → service.restorePrepared = true) :
    Kept clean service :=
  .of_tainted tainted (fun isClean => absurd isClean unclean) restoring

theorem Kept.taint (kept : Kept clean service) : Kept clean service.taint :=
  .of_tainted rfl (fun isClean => ⟨(kept.tidy isClean).reservation,
    (kept.tidy isClean).pause⟩) kept.restoring

theorem Left.taintedBy (left : Left service) (integrity : GuestIntegrity) :
    Left (service.taintedBy integrity) := by
  unfold MovieService.taintedBy
  split
  · exact ⟨left.reservation, left.pause⟩
  · exact left

theorem Kept.taintedBy (kept : Kept clean service) (integrity : GuestIntegrity) :
    Kept clean (service.taintedBy integrity) := by
  unfold MovieService.taintedBy
  split
  · exact kept.taint
  · exact kept

@[simp] theorem state_taintedBy (integrity : GuestIntegrity) :
    (service.taintedBy integrity).state = service.state := by
  unfold MovieService.taintedBy
  split <;> rfl

theorem Kept.inherits (kept : Kept clean service)
    (inherited : Option MovieCheckpointMetadata) (count : UInt64) (deferred : Bool) : Kept clean
      { service with
        recordingPrefix := inherited
        recordingPrefixInputCount := count
        deferredRecordingPairPending := deferred } where
  sound untainted :=
    have sound := kept.sound untainted
    ⟨sound.reserved, sound.released, sound.pause, sound.movie, sound.known, sound.original⟩
  tidy isClean := ⟨(kept.tidy isClean).reservation, (kept.tidy isClean).pause⟩
  restoring := kept.restoring

theorem Kept.moveCursor (kept : Kept clean service) (observed : MovieBackendObservation) :
    Kept clean (service.moveCursor observed) where
  sound untainted :=
    have sound := kept.sound untainted
    ⟨sound.reserved, sound.released, sound.pause,
      (by simp [MovieService.moveCursor]; exact sound.movie), sound.known, sound.original⟩
  tidy isClean := ⟨(kept.tidy isClean).reservation, (kept.tidy isClean).pause⟩
  restoring := kept.restoring

theorem tidy_of_unknown (unknown : service.state = .unknown) : Tidy service where
  reservation := by simp [unknown]
  pause := by simp [unknown]

theorem Kept.of_unknown (tainted : service.tainted = true) (unknown : service.state = .unknown)
    (restoring : service.acquiredForRestore = true → service.restorePrepared = true) :
    Kept clean service :=
  .of_tainted tainted (fun _ => tidy_of_unknown unknown) restoring

end Taint

section Parts

variable {answers : MovieAnswers}

@[simp] theorem isSet_none {Tag : Type} : (StrongId.none : StrongId Tag).isSet = false := rfl

theorem eq_none_of_not_isSet {Tag : Type} {id : StrongId Tag}
    (unset : id.isSet = false) : id = .none := by
  apply StrongId.ext
  change id.value = 0
  simpa [StrongId.isSet] using unset

/-- The service without the reservation. -/
def MovieService.unreserved (service : MovieService) : MovieService :=
  { service with reservation := .none }

/-- The service without the ownership of the pause. -/
def MovieService.unpaused (service : MovieService) : MovieService :=
  { service with pauseAtPlaybackEndOwned := false }

theorem unreserved_of_not_isSet (unset : service.reservation.isSet = false) :
    service.unreserved = service := by
  rw [MovieService.unreserved, ← eq_none_of_not_isSet unset]

theorem releaseReservation_cases (answers : MovieAnswers) (service : MovieService) :
    ∃ result, (result.ok = true ∧
        service.releaseReservation answers = (result, service.unreserved)) ∨
      (result.ok = false ∧ answers.releaseReservation.ok = false ∧
        service.reservation.isSet = true ∧
        service.releaseReservation answers = (result, service)) := by
  unfold MovieService.releaseReservation
  split
  next unset =>
    rw [Bool.not_eq_true'] at unset
    exact ⟨_, Or.inl ⟨rfl, by rw [unreserved_of_not_isSet unset]⟩⟩
  next held =>
    rw [Bool.not_eq_true', Bool.not_eq_false] at held
    split
    next answered => exact ⟨_, Or.inl ⟨answered, rfl⟩⟩
    next refused =>
      rw [Bool.not_eq_true] at refused
      exact ⟨_, Or.inr ⟨refused, refused, held, rfl⟩⟩

theorem releaseReservation_clean {clean : Prop}
    (cleansUp : clean → answers.cleansUp = true) (service : MovieService) :
    ∃ result, (result.ok = true ∧
        service.releaseReservation answers = (result, service.unreserved)) ∨
      (result.ok = false ∧ ¬ clean ∧ service.releaseReservation answers = (result, service)) := by
  obtain ⟨result, released | ⟨failed, refused, -, same⟩⟩ := releaseReservation_cases answers service
  · exact ⟨result, Or.inl released⟩
  refine ⟨result, Or.inr ⟨failed, fun isClean => ?_, same⟩⟩
  rw [(MovieAnswers.releases (cleansUp isClean)).1] at refused
  cases refused

theorem acquireReservation_cases (answers : MovieAnswers) (service : MovieService) :
    (∃ id : MovieReservationId, id.isSet = true ∧ service.reservation.isSet = false ∧
        service.acquireReservation answers = (.success, { service with reservation := id })) ∨
      ∃ result, result.ok = false ∧ service.acquireReservation answers = (result, service) := by
  unfold MovieService.acquireReservation
  split
  next => exact Or.inr ⟨_, rfl, rfl⟩
  next unset =>
    rw [Bool.not_eq_true] at unset
    dsimp only
    split
    next refused =>
      rw [Bool.not_eq_true'] at refused
      exact Or.inr ⟨_, refused, rfl⟩
    next =>
      split
      next => exact Or.inr ⟨_, rfl, rfl⟩
      next valid =>
        rw [Bool.not_eq_true', Bool.not_eq_false] at valid
        exact Or.inl ⟨_, valid, unset, rfl⟩

theorem releasePause_cases (answers : MovieAnswers) (service : MovieService) :
    ∃ result, (result.ok = true ∧
        service.releasePauseAtPlaybackEnd answers = (result, service.unpaused)) ∨
      (result.ok = false ∧ answers.releasePause.ok = false ∧
        service.releasePauseAtPlaybackEnd answers = (result, service)) := by
  unfold MovieService.releasePauseAtPlaybackEnd
  split
  next unowned =>
    rw [Bool.not_eq_true'] at unowned
    refine ⟨.success, Or.inl ⟨rfl, ?_⟩⟩
    rw [MovieService.unpaused, ← unowned]
  next =>
    split
    next refused =>
      rw [Bool.not_eq_true'] at refused
      exact ⟨_, Or.inr ⟨rfl, refused, rfl⟩⟩
    next => exact ⟨.success, Or.inl ⟨rfl, rfl⟩⟩

theorem releasePause_clean {clean : Prop}
    (cleansUp : clean → answers.cleansUp = true) (service : MovieService) :
    ∃ result, (result.ok = true ∧
        service.releasePauseAtPlaybackEnd answers = (result, service.unpaused)) ∨
      (result.ok = false ∧ ¬ clean ∧
        service.releasePauseAtPlaybackEnd answers = (result, service)) := by
  obtain ⟨result, released | ⟨failed, refused, same⟩⟩ := releasePause_cases answers service
  · exact ⟨result, Or.inl released⟩
  refine ⟨result, Or.inr ⟨failed, fun isClean => ?_, same⟩⟩
  rw [(MovieAnswers.releases (cleansUp isClean)).2] at refused
  cases refused

theorem acquirePause_cases (answers : MovieAnswers) (service : MovieService) :
    service.acquirePauseAtPlaybackEnd answers =
        (.success, { service with pauseAtPlaybackEndOwned := true }) ∨
      ∃ result, result.ok = false ∧
        service.acquirePauseAtPlaybackEnd answers = (result, service) := by
  unfold MovieService.acquirePauseAtPlaybackEnd
  split
  next => exact Or.inr ⟨_, rfl, rfl⟩
  next =>
    split
    next => exact Or.inr ⟨_, rfl, rfl⟩
    next => exact Or.inl rfl

end Parts

end Exits

end Savor.Movie

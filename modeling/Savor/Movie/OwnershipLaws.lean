import Savor.Movie.RestoreOwnership

/-!
# The ownership of the movie service

In a run whose steps meet their conditions an untainted service owns what its
state says.  Where all cleanups succeed, tainted or not, nothing stays held
after a lifecycle.
-/

namespace Savor.Movie

open Library
open Program

/-- A call that ends a lifecycle. -/
def MovieCall.ends : MovieCall → Bool
  | .stopPlayback => true
  | .abandonPreparedReadOnlyPlayback _ => true
  | .cancelRecording => true
  | .finalizeRecording _ => true
  | _ => false

/-- The steps that keep the ownership: where the backend branched and then took
the cancellation it had entered the recording; a reservation that a refused
restore acquired is released; a committed movie has a mode, and a playback its
reservation; and a restore is rolled back to the kind of state the service is
in. -/
def Keeps (service : MovieService) (input : MovieInput) : Prop :=
  let answers := input.answers
  match input.call with
  | .startRecording =>
    service.branches answers → answers.branchToRecording.ok = true →
      answers.cancelRecording.ok = true →
      (validateBackendState .recording answers.observation).ok = true
  | .prepareSavestateRestore context =>
    service.tainted = false → service.reservesForRestore answers context →
      answers.prepareRestore.ok = true ∨ answers.releaseReservation.ok = true
  | .commitSavestateRestore context =>
    service.commits answers context →
      (∀ movie ∈ context.movie, movie.mode ≠ .none) ∧
        (context.mode = .readOnlyPlayback → service.reservation.isSet = true)
  | .rollbackSavestateRestore =>
    answers.onOwnerThread = true → service.restorePrepared = true →
      answers.rollbackRestore.ok = true → service.sinceRestore
  | _ => True

section Step

variable {clean : Prop} {service : MovieService} {input : MovieInput}

theorem Kept.mono {clean' : Prop} (kept : Kept clean service)
    (weaker : clean' → clean) : Kept clean' service :=
  ⟨kept.sound, fun isClean => kept.tidy (weaker isClean), kept.restoring⟩

section

variable (sha256 : ByteString → ByteString) (kept : Kept clean service)
variable (cleansUp : clean → input.answers.cleansUp = true)
include sha256 kept cleansUp

/-- Every call that meets its condition keeps the ownership. -/
theorem kept_serve (keeps : Keeps service input) : Kept clean (serve sha256 input service).2 := by
  obtain ⟨call, answers⟩ := input
  cases call with
  | prepareReadOnlyPlayback dtmPath =>
    exact kept_prepareReadOnlyPlayback kept cleansUp sha256 dtmPath
  | startPreparedReadOnlyPlayback preparation =>
    exact kept_startPreparedReadOnlyPlayback kept preparation
  | abandonPreparedReadOnlyPlayback preparation =>
    exact kept_abandonPreparedReadOnlyPlayback kept cleansUp preparation
  | stopPlayback => exact (kept_stopPlayback kept cleansUp).1
  | startRecording => exact kept_startRecording kept cleansUp keeps
  | finalizeRecording dtmPath => exact (kept_finalizeRecording kept cleansUp sha256 dtmPath).1
  | cancelRecording => exact (kept_cancelRecording kept cleansUp).1
  | captureCheckpoint => exact kept_captureCheckpoint kept answers sha256
  | captureDeferredRecordingPairCheckpoint =>
    exact kept_captureDeferredRecordingPairCheckpoint kept sha256
  | snapshotState expected => exact kept
  | reconcilePausedState expected => exact kept_reconcilePausedState kept answers expected
  | prepareSavestateRestore context => exact kept_prepareSavestateRestore kept cleansUp keeps
  | commitSavestateRestore context =>
    exact kept_commitSavestateRestore kept
      (fun commits => (keeps commits).1) (fun commits => (keeps commits).2)
  | rollbackSavestateRestore => exact kept_rollbackSavestateRestore kept keeps

/-- A call that ends a lifecycle leaves nothing held. -/
theorem left_serve (isClean : clean) (ends : input.call.ends = true)
    (changed : (serve sha256 input service).2.state ≠ service.state) :
    Left (serve sha256 input service).2 := by
  obtain ⟨call, answers⟩ := input
  cases call with
  | abandonPreparedReadOnlyPlayback preparation =>
    have after := kept_abandonPreparedReadOnlyPlayback kept cleansUp preparation
    exact (after.tidy isClean).left
      ((state_abandonPreparedReadOnlyPlayback preparation).resolve_left changed)
  | stopPlayback => exact (kept_stopPlayback kept cleansUp).2 isClean changed
  | finalizeRecording dtmPath =>
    exact (kept_finalizeRecording kept cleansUp sha256 dtmPath).2 isClean changed
  | cancelRecording => exact (kept_cancelRecording kept cleansUp).2 isClean changed
  | _ => cases ends

end

end Step

/-- All cleanups of a history were answered well. -/
def CleansUp (history : List MovieTransition) : Prop :=
  ∀ transition ∈ history, transition.input.answers.cleansUp = true

/-- What an untainted service owns. -/
structure Owns (service : MovieService) : Prop where
  reserved : service.state.reserves = true → service.reservation.isSet = true
  released : service.restorePrepared = false →
    service.reservation.isSet = true → service.state.reserves = true
  pause : service.pauseAtPlaybackEndOwned = true ↔ service.state.playing = true
  movie : service.activeMovie.isSome = true ↔ service.state ≠ .inactive

/-- The ownership of the service after a history. -/
structure OwnershipLaw (history : List MovieTransition) (service : MovieService) : Prop where
  owns : service.tainted = false → Owns service
  idle : CleansUp history → service.state = .inactive → service.restorePrepared = false →
    service.reservation.isSet = false ∧ service.pauseAtPlaybackEndOwned = false
  ended : CleansUp history → ∀ transition ∈ history,
    transition.input.call.ends = true →
    transition.after.state ≠ transition.before.state →
    transition.after.pauseAtPlaybackEndOwned = false ∧
      (transition.after.restorePrepared = false → transition.after.reservation.isSet = false)

variable {service : MovieService}

theorem not_held_of_left {clean : Prop} (kept : Kept clean service) (left : Left service)
    (closed : service.restorePrepared = false) : service.reservation.isSet = false := by
  have acquired := kept.acquired_of_unprepared closed
  cases held : service.reservation.isSet with
  | false => rfl
  | true => exact absurd ((left.reservation held).symm.trans acquired) Bool.noConfusion

/-- A new service owns nothing. -/
theorem kept_initial : Kept (CleansUp []) {} := by
  refine ⟨fun _ => ⟨?_, ?_, rfl, ?_, ?_, ?_⟩, fun _ => ⟨?_, fun _ => rfl⟩, ?_⟩
  · simp [MovieState.reserves, MovieState.playing]
  · simp
  · simp
  · simp
  · simp [Remembers]
  · simp
  · simp

/-- The ownership is kept by every run whose steps meet their conditions. -/
theorem kept_run {sha256 : ByteString → ByteString} {history : List MovieTransition}
    (run : MovieRun sha256 Keeps history service) : Kept (CleansUp history) service := by
  induction run with
  | nil => exact kept_initial
  | @snoc earlier before input event next _ keeps stepped kept =>
    rw [step, Option.some.injEq] at stepped
    have shorter (clean : CleansUp (earlier ++
        [⟨before, input, event, next⟩])) : CleansUp earlier :=
      fun transition member => clean transition (List.mem_append_left _ member)
    have served := kept_serve sha256 (kept.mono shorter) (fun clean =>
      clean _ (List.mem_append_right _ (List.mem_singleton_self _))) keeps
    rw [stepped] at served
    exact served

/-- The ownership of the service: what its state says while it is untainted,
and nothing after its lifecycles have ended. -/
theorem ownership_of_keeps (sha256 : ByteString → ByteString)
    {history : List MovieTransition} {service : MovieService}
    (run : MovieRun sha256 Keeps history service) : OwnershipLaw history service := by
  have kept := kept_run run
  refine ⟨fun untainted => ?_, fun clean inactive closed => ?_,
    fun clean transition member ends changed => ?_⟩
  · have sound := kept.sound untainted
    refine ⟨sound.reserved, fun closed held => ?_, by rw [sound.pause], sound.movie⟩
    refine (sound.released held).resolve_right fun acquired => ?_
    exact absurd ((kept.restoring acquired).symm.trans closed) Bool.noConfusion
  · have left := (kept.tidy clean).left inactive
    exact ⟨not_held_of_left kept left closed, left.pause⟩
  obtain ⟨earlier, later, position⟩ := List.append_of_mem member
  obtain ⟨shorter, keeps, stepped⟩ := run.split position
  simp only [step, Option.some.injEq] at stepped
  have after : (serve sha256 transition.input transition.before).2 =
      transition.after := congrArg Prod.snd stepped
  have cleanly : CleansUp earlier := fun other known =>
    clean other (position ▸ List.mem_append_left _ known)
  have before := kept_run shorter
  have answered : CleansUp earlier → transition.input.answers.cleansUp = true :=
    fun _ => clean transition member
  have left := left_serve sha256 before answered cleanly ends (after ▸ changed)
  have next := kept_serve sha256 before answered keeps
  rw [after] at left next
  exact ⟨left.pause, not_held_of_left next left⟩

/-- Whether a step keeps the ownership can be decided. -/
instance (service : MovieService) (input : MovieInput) : Decidable (Keeps service input) := by
  obtain ⟨call, answers⟩ := input
  cases call <;> dsimp only [Keeps, MovieService.branches,
    MovieService.reservesForRestore, MovieService.commits,
    MovieService.sinceRestore] <;> infer_instance

namespace Sample

/-- A movie without controllers and polls. -/
def movie : ByteString := DtmFile.signature ++ List.replicate 252 0

/-- The backend plays, or records, as it was asked to. -/
def playing : MovieAnswers :=
  { dtmFile := some movie
    observation := { playing := true } }

def recording : MovieAnswers := { observation := { recording := true, readOnly := false } }

/-- A playback is prepared and started. -/
def started : List MovieInput :=
  [⟨.prepareReadOnlyPlayback (text "a"), playing⟩, ⟨.startPreparedReadOnlyPlayback ⟨1⟩, playing⟩]

/-- The backend answers that it branched to a recording, and is idle. -/
def unentered : List MovieInput := started ++ [⟨.startRecording, {}⟩]

/-- A recording is branched from the playback and cancelled. -/
def cancelled : List MovieInput := started ++ [⟨.startRecording, recording⟩, ⟨.cancelRecording, {}⟩]

end Sample

/-- A branch that the backend did not enter leaves the pause owned, although
every cleanup succeeded. -/
theorem exists_not_ownershipLaw : ¬ ∀ (sha256 : ByteString → ByteString) history service,
      MovieRun sha256 (fun _ _ => True) history service →
      OwnershipLaw history service := by
  intro always
  obtain ⟨history, service, run, clean, inactive, closed, owned⟩ :
      ∃ history service, MovieRun (fun _ => []) (fun _ _ => True) history service ∧
        (∀ transition ∈ history, transition.input.answers.cleansUp = true) ∧
          service.state = .inactive ∧ service.restorePrepared = false ∧
          service.pauseAtPlaybackEndOwned = true :=
    Run.exists_of_replay Sample.unentered _ (by decide +kernel)
  have released := ((always _ history service run).idle clean inactive closed).2
  exact absurd (owned.symm.trans released) Bool.noConfusion

/-- A recording that was branched and cancelled leaves nothing. -/
theorem ownership_of_cancelled : ∃ history service,
      MovieRun (fun _ => []) Keeps history service ∧
        history.length = 4 ∧ service.tainted = false ∧ OwnershipLaw history service := by
  obtain ⟨history, service, run, length, untainted, -⟩ : ∃ history service,
      MovieRun (fun _ => []) Keeps history service ∧
        history.length = 4 ∧ service.tainted = false ∧
          ∀ transition ∈ history, Keeps transition.before transition.input :=
    Run.exists_of_replay Sample.cancelled _ (by decide +kernel) fun _ _ checked => checked.2.2
  exact ⟨history, service, run, length, untainted, ownership_of_keeps _ run⟩

end Savor.Movie

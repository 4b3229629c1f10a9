import Savor.Movie.RecordingEffects

/-!
# What a recording inherits

The history of a service tells what its recording inherits: the movie and the
cursor of the last branch, restored checkpoint or deferred checkpoint since it
began.  The prefix of an untainted service follows it.
-/

namespace Savor.Movie

open Program

/-- What the recording of a history inherits. -/
structure Heritage where
  /-- A movie, and how many of its polls. -/
  inherited : Option (ByteString × Nat) := none
  /-- The cursor of a deferred checkpoint in the history of the recording. -/
  deferred : Option Nat := none
  /-- No recording began or ended since a restore was prepared. -/
  steady : Bool := false

/-- The cursor of a restored checkpoint, or else of the backend. -/
def restoredCount (answers : MovieAnswers) (movie : MovieCheckpointMetadata) : UInt64 :=
  if movie.cursorKnown then movie.currentInputCount
  else answers.observation.currentInputCount

namespace Heritage

variable (heritage : Heritage) (transition : MovieTransition)

/-- A branch, a deferred checkpoint and a restored one are inherited from then
on.  Restoring an earlier checkpoint leaves a deferred one. -/
def inherit : Heritage :=
  let answers := transition.input.answers
  match transition.input.call, transition.event with
  | .startRecording, .operation receipt =>
    if receipt.result.ok then
      { heritage with
        inherited := (transition.before.inherits answers).map
          fun (movie, count) => (movie.dtmBytes, count.toNat)
        deferred := none }
    else heritage
  | .captureDeferredRecordingPairCheckpoint, .checkpoint receipt =>
    match receipt.checkpoint.filter fun _ => receipt.result.ok with
    | none => heritage
    | some checkpoint =>
      let count := checkpoint.currentInputCount.toNat
      { heritage with
        inherited := some (checkpoint.dtmBytes, count)
        deferred := some count }
  | .commitSavestateRestore context, .result result =>
    match context.movie.filter fun _ => result.ok with
    | none => heritage
    | some movie =>
      let count := (restoredCount answers movie).toNat
      { heritage with
        inherited := some (movie.dtmBytes, count)
        deferred := heritage.deferred.filter (· ≤ count) }
  | _, _ => heritage

/-- A restore is prepared. -/
def prepares : Bool :=
  match transition.input.call, transition.event with
  | .prepareSavestateRestore _, .result result => result.ok
  | _, _ => false

/-- The heritage after a transition: none where nothing is recorded. -/
def after : Heritage :=
  let before := transition.before.view.recording
  let recording := transition.after.view.recording
  let steady := prepares transition || heritage.steady && before == recording
  if recording then { heritage.inherit transition with steady := steady }
  else { steady := steady }

end Heritage

/-- The heritage of a history. -/
def heritage (history : List MovieTransition) : Heritage := history.foldl Heritage.after {}

theorem heritage_append (history : List MovieTransition) (transition : MovieTransition) :
    heritage (history ++ [transition]) = (heritage history).after transition := by
  simp [heritage]

/-- The prefix of a service is what its recording inherits. -/
structure Matches (heritage : Heritage) (view : RecordingView) : Prop where
  inherited : heritage.inherited =
    view.inherited.map fun movie => (movie.dtmBytes, view.inputCount.toNat)
  deferred : view.deferred = heritage.deferred.isSome
  passed : ∀ count ∈ heritage.deferred, count ≤ view.inputCount.toNat

/-- The prefix of a recording matches its heritage, and so it will where a
restore is rolled back into the same recording. -/
structure Tracks (heritage : Heritage) (view : RecordingView) : Prop where
  recording : view.recording = true → Matches heritage view
  returning : view.restorePrepared = true → view.originalRecording = true →
    heritage.steady = true → view.recording = true
  idle : view.recording = false → heritage.inherited = none ∧ heritage.deferred = none

/-- Where a service is not tainted, its prefix tracks the heritage. -/
def Tracked (heritage : Heritage) (service : MovieService) : Prop :=
  service.tainted = false → Tracks heritage service.view

section Same

variable {heritage : Heritage} {transition : MovieTransition}

theorem inherited_after_idle (idle : transition.after.view.recording = false) :
    (heritage.after transition).inherited = none ∧ (heritage.after transition).deferred = none := by
  simp [Heritage.after, idle]

theorem after_recording (heritage : Heritage) (recording : transition.after.view.recording = true) :
    (heritage.after transition).inherited = (heritage.inherit transition).inherited ∧
      (heritage.after transition).deferred = (heritage.inherit transition).deferred := by
  simp [Heritage.after, recording]

/-- Between two restores a heritage is steady while nothing begins or ends. -/
theorem steady_after (unprepared : Heritage.prepares transition = false)
    (steady : (heritage.after transition).steady = true) : heritage.steady = true ∧
      transition.before.view.recording = transition.after.view.recording := by
  unfold Heritage.after at steady
  dsimp only at steady
  split at steady
  · simpa [unprepared] using steady
  · simpa [unprepared] using steady

theorem Tracks.keep (tracks : Tracks heritage transition.before.view)
    (same : transition.after.view.recording = transition.before.view.recording ∧
      transition.after.view.inherited = transition.before.view.inherited ∧
      transition.after.view.inputCount = transition.before.view.inputCount ∧
      transition.after.view.deferred = transition.before.view.deferred)
    (quiet : heritage.inherit transition = heritage)
    (returning : transition.after.view.restorePrepared = true →
      transition.after.view.originalRecording = true → (heritage.after transition).steady = true →
      transition.after.view.recording = true) :
    Tracks (heritage.after transition) transition.after.view := by
  obtain ⟨records, movie, count, pending⟩ := same
  refine ⟨fun recording => ?_, returning, inherited_after_idle⟩
  obtain ⟨inherited, deferred⟩ := after_recording heritage recording
  rw [quiet] at inherited deferred
  have known := tracks.recording (records ▸ recording)
  refine ⟨?_, ?_, ?_⟩
  · rw [inherited, known.inherited, movie, count]
  · rw [deferred, pending, known.deferred]
  · rw [deferred, count]
    exact known.passed

theorem Tracks.same (tracks : Tracks heritage transition.before.view)
    (same : transition.after.view = transition.before.view)
    (quiet : heritage.inherit transition = heritage)
    (unprepared : Heritage.prepares transition = false) :
    Tracks (heritage.after transition) transition.after.view := by
  refine tracks.keep (by rw [same]; exact ⟨rfl, rfl, rfl, rfl⟩) quiet
    fun prepared original steady => ?_
  obtain ⟨known, -⟩ := steady_after unprepared steady
  rw [same] at prepared original ⊢
  exact tracks.returning prepared original known

/-- Where a recording ends, or none began, nothing is inherited. -/
theorem Tracks.leave (tracks : Tracks heritage transition.before.view)
    (retired : transition.after.view = transition.before.view.retired)
    (unprepared : Heritage.prepares transition = false) :
    Tracks (heritage.after transition) transition.after.view := by
  have idle : transition.after.view.recording = false := congrArg RecordingView.recording retired
  refine ⟨fun recording => ?_, fun prepared original steady => ?_, inherited_after_idle⟩
  · exact absurd (recording.symm.trans idle) Bool.noConfusion
  obtain ⟨known, same⟩ := steady_after unprepared steady
  rw [← same]
  rw [retired] at prepared original
  exact tracks.returning prepared original known

theorem Tracks.enter (recording : transition.after.view.recording = true)
    (known : Matches (heritage.inherit transition) transition.after.view) :
    Tracks (heritage.after transition) transition.after.view := by
  obtain ⟨inherited, deferred⟩ := after_recording heritage recording
  refine ⟨fun _ => ⟨inherited.trans known.inherited, ?_, ?_⟩,
    fun _ _ _ => recording,
    fun idle => absurd (recording.symm.trans idle) Bool.noConfusion⟩
  · rw [deferred, known.deferred]
  · rw [deferred]
    exact known.passed

theorem Tracks.of_idle (idle : transition.after.view.recording = false)
    (closed : transition.after.view.restorePrepared = false) :
    Tracks (heritage.after transition) transition.after.view :=
  ⟨fun recording => absurd (recording.symm.trans idle) Bool.noConfusion,
    fun prepared => absurd (prepared.symm.trans closed) Bool.noConfusion,
    inherited_after_idle⟩

/-- A call whose view is known tells whether the service was tainted. -/
theorem untainted_of_view {after : MovieService} {view : RecordingView}
    (same : after.view = view) (untainted : after.tainted = false) : view.tainted = false :=
  (congrArg RecordingView.tainted same).symm.trans untainted

/-- An exit that taints the service or leaves its recording alone. -/
theorem Tracked.framed (tracked : Tracked heritage transition.before)
    (framed : Framed transition.before transition.after)
    (quiet : heritage.inherit transition = heritage)
    (unprepared : Heritage.prepares transition = false) :
    Tracked (heritage.after transition) transition.after := by
  intro untainted
  rcases framed with tainted | same
  · exact absurd (tainted.symm.trans untainted) Bool.noConfusion
  · exact (tracked (untainted_of_view same untainted)).same same quiet unprepared

end Same

section Step

variable {heritage : Heritage} {service : MovieService}
variable {answers : MovieAnswers}

/-- A call and its answer, as a transition. -/
def served (sha256 : ByteString → ByteString) (service : MovieService)
    (input : MovieInput) : MovieTransition :=
  ⟨service, input, (serve sha256 input service).1, (serve sha256 input service).2⟩

/-- The recording is still tracked after the call. -/
abbrev TrackedAfter (heritage : Heritage) (sha256 : ByteString → ByteString)
    (service : MovieService) (input : MovieInput) : Prop :=
  Tracked (heritage.after (served sha256 service input)) (served sha256 service input).after

theorem tracked_startRecording (sha256 : ByteString → ByteString)
    (tracked : Tracked heritage service) :
    TrackedAfter heritage sha256 service ⟨.startRecording, answers⟩ := by
  intro untainted
  rcases startRecording_cases answers service with
    tainted | ⟨failed, same | ⟨other, retired⟩⟩ | ⟨ok, other, started⟩
  · exact absurd (tainted.symm.trans untainted) Bool.noConfusion
  · refine (tracked (untainted_of_view same untainted)).same same ?_ rfl
    simp [Heritage.inherit, served, serve, failed]
  · exact (tracked (untainted_of_view retired untainted)).leave retired rfl
  have inherited : heritage.inherit
      (served sha256 service ⟨.startRecording, answers⟩) =
      { heritage with
        inherited := (service.inherits answers).map
          fun (movie, count) => (movie.dtmBytes, count.toNat)
        deferred := none } := by
    simp [Heritage.inherit, served, serve, ok]
  refine .enter (congrArg RecordingView.recording started) ?_
  rw [inherited, show (served sha256 service
    ⟨.startRecording, answers⟩).after.view = _ from started]
  refine ⟨?_, rfl, fun _ member => absurd member (Option.not_mem_none _)⟩
  cases service.inherits answers with
  | none | some => rfl

theorem tracked_captureDeferred (sha256 : ByteString → ByteString)
    (tracked : Tracked heritage service) : TrackedAfter heritage sha256 service
      ⟨.captureDeferredRecordingPairCheckpoint, answers⟩ := by
  intro untainted
  rcases captureDeferred_cases answers service sha256 with
    tainted | ⟨failed, same⟩ | ⟨recording, checkpoint, ok, captured, marked⟩
  · exact absurd (tainted.symm.trans untainted) Bool.noConfusion
  · refine (tracked (untainted_of_view same untainted)).same same ?_ rfl
    simp [Heritage.inherit, served, serve, failed]
  have inherited : heritage.inherit
      (served sha256 service ⟨.captureDeferredRecordingPairCheckpoint, answers⟩) =
      { heritage with
        inherited := some (checkpoint.dtmBytes, checkpoint.currentInputCount.toNat)
        deferred := some checkpoint.currentInputCount.toNat } := by
    simp [Heritage.inherit, served, serve, ok, captured]
    rfl
  have marks : (served sha256 service
      ⟨.captureDeferredRecordingPairCheckpoint, answers⟩).after.view = _ :=
    marked
  refine .enter ?_ ?_
  · rw [marks]
    exact decide_eq_true recording
  rw [inherited, marks]
  refine ⟨rfl, rfl, fun count member => ?_⟩
  rw [Option.mem_some_iff] at member
  exact member ▸ Nat.le_refl _

theorem tracked_prepareSavestateRestore (sha256 : ByteString → ByteString)
    (context : SavestateMovieRestoreContext) (tracked : Tracked heritage service) :
    TrackedAfter heritage sha256 service ⟨.prepareSavestateRestore context, answers⟩ := by
  intro untainted
  rcases prepareSavestateRestore_cases answers service context with
    ⟨failed, same | ⟨unprepared, forgot⟩⟩ | ⟨ok, remembered⟩
  · exact (tracked (untainted_of_view same untainted)).same same rfl failed
  · have forgets : (served sha256 service
        ⟨.prepareSavestateRestore context, answers⟩).after.view = _ := forgot
    refine (tracked (untainted_of_view forgot untainted)).keep
      (by rw [forgets]; exact ⟨rfl, rfl, rfl, rfl⟩) rfl fun _ original => ?_
    rw [forgets] at original
    cases original
  have remembers : (served sha256 service
      ⟨.prepareSavestateRestore context, answers⟩).after.view = _ :=
    remembered
  refine (tracked (untainted_of_view remembered untainted)).keep
    (by rw [remembers]; exact ⟨rfl, rfl, rfl, rfl⟩) rfl fun _ original _ => ?_
  rw [remembers] at original ⊢
  exact original

/-- A checkpoint that the backend confirmed is at the cursor it reported. -/
theorem restoredCount_of_commits {context : SavestateMovieRestoreContext}
    {movie : MovieCheckpointMetadata} (commits : service.commits answers context)
    (restored : context.movie = some movie) :
    restoredCount answers movie = answers.observation.currentInputCount := by
  obtain ⟨-, -, -, -, confirmed⟩ := commits
  unfold restoredCount
  split
  next known =>
    unfold validateBackendFor at confirmed
    dsimp only at confirmed
    split at confirmed
    next invalid => simp [confirmed] at invalid
    · split at confirmed
      · cases confirmed
      next same =>
        push Not at same
        exact (same movie restored known).2.symm
  · rfl

section

variable (sha256 : ByteString → ByteString)
include sha256

theorem tracked_commitSavestateRestore (context : SavestateMovieRestoreContext)
    (tracked : Tracked heritage service)
    (kept : service.tainted = false → service.commits answers context →
      ∀ movie ∈ context.movie, movie.mode = .recording →
      service.deferredRecordingPairPending = true → service.state = .recording ∧
        ∀ count ∈ heritage.deferred, count ≤ (restoredCount answers movie).toNat) :
    TrackedAfter heritage sha256 service ⟨.commitSavestateRestore context, answers⟩ := by
  intro untainted
  rcases commitSavestateRestore_cases answers service context with
    tainted | ⟨failed, same⟩ | ⟨commits, ok, ⟨-, retired⟩ | ⟨movie, restored, recording, entered⟩⟩
  · exact absurd (tainted.symm.trans untainted) Bool.noConfusion
  · refine (tracked (untainted_of_view same untainted)).same same ?_ rfl
    cases movie : context.movie with
    | none | some => simp [Heritage.inherit, served, serve, failed, movie]
  · have retires : (served sha256 service
        ⟨.commitSavestateRestore context, answers⟩).after.view = _ := retired
    exact .of_idle (congrArg RecordingView.recording retires)
      (congrArg RecordingView.restorePrepared retires)
  have before : service.tainted = false :=
    (congrArg RecordingView.tainted entered).symm.trans untainted
  have count := restoredCount_of_commits commits restored
  have inherited : heritage.inherit
      (served sha256 service ⟨.commitSavestateRestore context, answers⟩) =
      { heritage with
        inherited := some (movie.dtmBytes, (restoredCount answers movie).toNat)
        deferred := heritage.deferred.filter (· ≤ (restoredCount answers movie).toNat) } := by
    simp [Heritage.inherit, served, serve, ok, restored]
    rfl
  have enters : (served sha256 service
      ⟨.commitSavestateRestore context, answers⟩).after.view = _ := entered
  refine .enter (congrArg RecordingView.recording enters) ?_
  rw [inherited, enters]
  refine ⟨by rw [count]; rfl, ?_, fun other member => ?_⟩
  · cases pending : service.deferredRecordingPairPending with
    | false =>
      have none_ : heritage.deferred = none := by
        cases records : service.view.recording with
        | false => exact ((tracked before).idle records).2
        | true =>
          have known := ((tracked before).recording records).deferred
          rw [← Option.not_isSome_iff_eq_none, ← known]
          exact fun other => absurd (other.symm.trans pending) Bool.noConfusion
      rw [none_]
      exact pending
    | true =>
      obtain ⟨records, passed⟩ := kept before commits movie restored recording pending
      have known := ((tracked before).recording (decide_eq_true records)).deferred
      obtain ⟨deferred, present⟩ := Option.isSome_iff_exists.mp (known.symm.trans pending)
      rw [present, Option.filter_some, if_pos (decide_eq_true (passed deferred present))]
      exact pending
  · rw [Option.mem_def, Option.filter_eq_some_iff] at member
    rw [← count]
    exact of_decide_eq_true member.2

/-- What a rollback needs: that no recording began or ended since the restore
was prepared. -/
theorem tracked_rollbackSavestateRestore (tracked : Tracked heritage service)
    (steady : service.tainted = false → answers.onOwnerThread = true →
      service.restorePrepared = true → answers.rollbackRestore.ok = true →
      service.originalState = .recording → heritage.steady = true) :
    TrackedAfter heritage sha256 service ⟨.rollbackSavestateRestore, answers⟩ := by
  intro untainted
  rcases rollbackSavestateRestore_cases answers service with
    tainted | same | ⟨thread, prepared, rolledBack, returned⟩
  · exact absurd (tainted.symm.trans untainted) Bool.noConfusion
  · exact (tracked (untainted_of_view same untainted)).same same rfl rfl
  have before : service.tainted = false :=
    (congrArg RecordingView.tainted returned).symm.trans untainted
  have returns : (served sha256 service
      ⟨.rollbackSavestateRestore, answers⟩).after.view = _ := returned
  cases original : service.view.originalRecording with
  | false =>
    rw [original] at returns
    exact .of_idle (congrArg RecordingView.recording returns)
      (congrArg RecordingView.restorePrepared returns)
  | true =>
    rw [original] at returns
    have recording := (tracked before).returning prepared original
      (steady before thread prepared rolledBack (of_decide_eq_true original))
    have known := (tracked before).recording recording
    refine .enter (congrArg RecordingView.recording returns) ?_
    rw [returns]
    exact ⟨known.inherited, known.deferred, known.passed⟩

theorem tracked_finalizeRecording (dtmPath : ByteString) (tracked : Tracked heritage service) :
    TrackedAfter heritage sha256 service ⟨.finalizeRecording dtmPath, answers⟩ := by
  rcases finalizeRecording_cases answers service sha256 dtmPath with
    ⟨-, framed⟩ | ⟨-, -, before, retired, -⟩
  · exact tracked.framed framed rfl rfl
  · exact fun _ => (tracked before).leave retired rfl

theorem tracked_cancelRecording (tracked : Tracked heritage service) :
    TrackedAfter heritage sha256 service ⟨.cancelRecording, answers⟩ := by
  intro untainted
  rcases cancelRecording_cases answers service with
    tainted | ⟨-, same⟩ | ⟨-, retired⟩
  · exact absurd (tainted.symm.trans untainted) Bool.noConfusion
  · exact (tracked (untainted_of_view same untainted)).same same rfl rfl
  · exact (tracked (untainted_of_view retired untainted)).leave retired rfl

end

end Step

end Savor.Movie

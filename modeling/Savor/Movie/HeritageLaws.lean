import Savor.Movie.OwnershipLaws
import Savor.Movie.RecordingHeritage

/-!
# A recording keeps its inherited input

In a run whose steps meet their conditions the file of every finalized recording
begins with the polls that the recording inherits.
-/

namespace Savor.Movie

open Library
open Program
open DtmFile

/-- The steps that keep what a recording inherits: the backend writes the
checkpoint that was verified, and its prefix is representable; a restored
recording is not before a deferred checkpoint; and a restore is rolled back into
the recording in which it was prepared. -/
def Preserves (earlier : List MovieTransition) (transition : MovieTransition) : Prop :=
  let service := transition.before
  let answers := transition.input.answers
  match transition.input.call with
  | .finalizeRecording _ =>
    service.tainted = false → service.state = .recording →
      service.recordingPrefix.isSome = true →
      answers.finalizeRecording.result.ok = true →
      answers.dtmFile = some answers.captureCheckpoint.checkpoint.dtmBytes ∧
        service.recordingPrefixInputCount.toNat ≤ (2 ^ 64 - 1 - kMinHeader) / pollSize
  | .commitSavestateRestore context =>
    service.tainted = false → service.commits answers context →
      ∀ movie ∈ context.movie, movie.mode = .recording →
      service.deferredRecordingPairPending = true →
      service.state = .recording ∧
        ∀ count ∈ (heritage earlier).deferred, count ≤ (restoredCount answers movie).toNat
  | .rollbackSavestateRestore =>
    service.tainted = false → answers.onOwnerThread = true →
      service.restorePrepared = true → answers.rollbackRestore.ok = true →
      service.originalState = .recording → (heritage earlier).steady = true
  | _ => True

variable {service : MovieService}

/-- Every call that meets its condition keeps the prefix on its heritage. -/
theorem tracked_served (sha256 : ByteString → ByteString)
    {earlier : List MovieTransition} {input : MovieInput}
    (tracked : Tracked (heritage earlier) service)
    (preserves : Preserves earlier (served sha256 service input)) :
    Tracked ((heritage earlier).after (served sha256 service input))
      (served sha256 service input).after := by
  obtain ⟨call, answers⟩ := input
  cases call with
  | prepareReadOnlyPlayback dtmPath =>
    exact tracked.framed (framed_prepareReadOnlyPlayback sha256 dtmPath) rfl rfl
  | startPreparedReadOnlyPlayback preparation =>
    exact tracked.framed (framed_startPreparedReadOnlyPlayback preparation) rfl rfl
  | abandonPreparedReadOnlyPlayback preparation =>
    exact tracked.framed (framed_abandonPreparedReadOnlyPlayback preparation) rfl rfl
  | stopPlayback => exact tracked.framed framed_stopPlayback rfl rfl
  | startRecording => exact tracked_startRecording sha256 tracked
  | finalizeRecording dtmPath => exact tracked_finalizeRecording sha256 dtmPath tracked
  | cancelRecording => exact tracked_cancelRecording sha256 tracked
  | captureCheckpoint =>
    exact tracked.framed (framed_captureCheckpoint answers service sha256) rfl rfl
  | captureDeferredRecordingPairCheckpoint => exact tracked_captureDeferred sha256 tracked
  | snapshotState expected => exact tracked.framed (.refl service) rfl rfl
  | reconcilePausedState expected =>
    exact tracked.framed (framed_reconcilePausedState answers service expected) rfl rfl
  | prepareSavestateRestore context => exact tracked_prepareSavestateRestore sha256 context tracked
  | commitSavestateRestore context =>
    exact tracked_commitSavestateRestore sha256 context tracked preserves
  | rollbackSavestateRestore => exact tracked_rollbackSavestateRestore sha256 tracked preserves

theorem tracked_initial : Tracked (heritage []) {} :=
  fun _ => ⟨fun recording => absurd recording (by decide), nofun, fun _ => ⟨rfl, rfl⟩⟩

/-- The prefix follows the heritage in every run whose steps meet their
conditions. -/
theorem tracked_run {sha256 : ByteString → ByteString} {history : List MovieTransition}
    (run : MovieRun sha256 (fun _ _ => True) history service)
    (preserves : Everywhere Preserves history) :
    Tracked (heritage history) service := by
  induction run with
  | nil => exact tracked_initial
  | @snoc earlier before input event next _ _ stepped tracked =>
    rw [step, Option.some.injEq] at stepped
    have same : served sha256 before input =
        ⟨before, input, event, next⟩ := by
      rw [served, stepped]
    have kept := tracked_served sha256 (tracked (preserves.earlier rfl))
      (same ▸ preserves _ _ [] rfl)
    rw [same] at kept
    rw [heritage_append]
    exact kept

/-- A file that begins with so many polls of a movie. -/
structure Continues (file movie : ByteString) (count : Nat) : Prop where
  polls : polls file count = polls movie count
  long : kMinHeader + count * pollSize ≤ file.length
  inherited : kMinHeader + count * pollSize ≤ movie.length

/-- The file that a finalized recording published: it is the verified checkpoint
of a recording that inherits a movie, begins with what was inherited, and goes
on after a deferred checkpoint. -/
structure Publishes (heritage : Heritage) (answers : MovieAnswers) (file : ByteString) : Prop where
  written : answers.dtmFile = some file
  verified : heritage.inherited.isSome = true → file = answers.captureCheckpoint.checkpoint.dtmBytes
  continues : ∀ movie count, heritage.inherited = some (movie, count) → Continues file movie count
  deferred : ∀ count ∈ heritage.deferred, count < pollCount file

/-- What the finalizations of a history publish, and that only a deferred
checkpoint of the recording constrains them. -/
structure HeritageLaw (sha256 : ByteString → ByteString)
    (history : List MovieTransition) : Prop where
  published : ∀ earlier transition later dtmPath receipt, history = earlier ++ transition :: later →
    transition.input.call = .finalizeRecording dtmPath →
    transition.event = .operation receipt → receipt.result.ok = true →
    ∃ file, Publishes (heritage earlier) transition.input.answers file
  unconstrained : ∀ earlier transition later dtmPath,
    history = earlier ++ transition :: later →
    transition.input.call = .finalizeRecording dtmPath →
    transition.before.tainted = false →
    transition.before.state = .recording →
    (heritage earlier).deferred = none →
    serve sha256 transition.input transition.before =
      serve sha256 transition.input { transition.before with deferredRecordingPairPending := false }

theorem toNat_prefixSize (count : UInt64)
    (fits : count.toNat ≤ (2 ^ 64 - 1 - kMinHeader) / pollSize) : (prefixSize count).toNat =
      kMinHeader + count.toNat * pollSize := by
  simp only [kMinHeader, pollSize] at fits
  simp only [prefixSize, kMinHeader, pollSize,
    UInt64.toNat_add, UInt64.toNat_mul, UInt64.toNat_ofNat']
  omega

theorem polls_of_samePrefix {count : UInt64} {first second : ByteString}
    (fits : count.toNat ≤ (2 ^ 64 - 1 - kMinHeader) / pollSize)
    (same : samePrefix (prefixSize count) first second = true) :
    polls first count.toNat = polls second count.toNat := by
  have equal := of_decide_eq_true same
  rw [toNat_prefixSize count fits, List.drop_take, List.drop_take, Nat.add_sub_cancel_left] at equal
  exact equal

theorem publishes_of_published {heritage : Heritage} {answers : MovieAnswers} {file : ByteString}
    (known : Matches heritage service.view) (published : Published answers service.view file)
    (preserves : service.recordingPrefix.isSome = true →
      answers.dtmFile = some answers.captureCheckpoint.checkpoint.dtmBytes ∧
        service.recordingPrefixInputCount.toNat ≤ (2 ^ 64 - 1 - kMinHeader) / pollSize) :
    Publishes heritage answers file := by
  have same (inherits : service.recordingPrefix.isSome = true) :
      file = answers.captureCheckpoint.checkpoint.dtmBytes := by
    have written := published.written
    rw [(preserves inherits).1, Option.some.injEq] at written
    exact written.symm
  refine ⟨published.written, fun inherits => same ?_,
    fun movie count inherited => ?_, fun count deferred => ?_⟩
  · rw [known.inherited, Option.isSome_map] at inherits
    exact inherits
  · have matched := known.inherited
    rw [inherited] at matched
    obtain ⟨checkpoint, present, values⟩ := Option.map_eq_some_iff.mp matched.symm
    obtain ⟨bytes, cursor⟩ := Prod.mk.inj values
    have inherits : service.recordingPrefix.isSome = true := Option.isSome_of_eq_some present
    obtain ⟨long, longer, equal⟩ := published.verified checkpoint present
    have fits := (preserves inherits).2
    have size := toNat_prefixSize service.view.inputCount fits
    rw [size, cursor] at long longer
    rw [← bytes, same inherits]
    refine ⟨?_, long, longer⟩
    rw [← cursor]
    exact (polls_of_samePrefix fits equal).symm
  · have pending : service.view.deferred = true := by
      rw [known.deferred]
      exact Option.isSome_of_mem deferred
    exact Nat.lt_of_le_of_lt (known.passed count deferred) (published.continued pending)

/-- A recording keeps its inherited input. -/
theorem heritage_of_preserves (sha256 : ByteString → ByteString)
    {history : List MovieTransition} {service : MovieService}
    (run : MovieRun sha256 (fun _ _ => True) history service)
    (preserves : Everywhere Preserves history) :
    HeritageLaw sha256 history := by
  refine ⟨fun earlier transition later dtmPath receipt position call event ok
      => ?_,
    fun earlier transition later dtmPath position call untainted recording none_ => ?_⟩
  · obtain ⟨shorter, -, stepped⟩ := run.split position
    have tracked := tracked_run shorter (preserves.earlier position)
    have condition := preserves _ _ _ position
    obtain ⟨before, ⟨_, answers⟩, _, after⟩ := transition
    obtain rfl := call
    obtain rfl := event
    rw [step, Option.some.injEq] at stepped
    have answered : (before.finalizeRecording answers sha256 dtmPath).1 =
        receipt := MovieEvent.operation.inj (congrArg Prod.fst stepped)
    obtain ⟨failed, -⟩ | ⟨-, recording, untainted, -, file, published⟩ :=
      finalizeRecording_cases answers before sha256 dtmPath
    · rw [answered] at failed
      exact absurd (ok.symm.trans failed) Bool.noConfusion
    refine ⟨file, publishes_of_published
      ((tracked untainted).recording (decide_eq_true recording)) published
      fun inherits => condition untainted recording inherits published.finalized⟩
  · obtain ⟨shorter, -, -⟩ := run.split position
    have tracked := tracked_run shorter (preserves.earlier position) untainted
    have known := (tracked.recording (decide_eq_true recording)).deferred
    rw [none_] at known
    have pending : transition.before.deferredRecordingPairPending = false := known
    rw [← pending]

/-- Whether a step preserves what is inherited can be decided. -/
instance (earlier : List MovieTransition) (transition : MovieTransition) :
    Decidable (Preserves earlier transition) := by
  unfold Preserves MovieService.commits
  dsimp only
  split <;> infer_instance

namespace Sample

/-- A movie with the polls of one controller. -/
def polled (polls : ByteString) : ByteString :=
  signature ++ List.replicate 7 0 ++ [1] ++ List.replicate 9 0 ++
    [UInt8.ofNat (polls.length / 8)] ++ List.replicate 234 0 ++ polls

/-- A movie of one poll, another of one poll, and one that goes on. -/
def one : ByteString := polled (List.replicate 8 1)

def other : ByteString := polled (List.replicate 8 2)

def longer : ByteString := polled (List.replicate 8 1 ++ List.replicate 8 3)

/-- A playback of the movie at its first poll. -/
def playingOne : MovieAnswers :=
  { dtmFile := some one
    observation := { playing := true, currentInputCount := 1 } }

/-- A recording is branched from the playback. -/
def branched : List MovieInput :=
  [⟨.prepareReadOnlyPlayback (text "a"), playingOne⟩,
    ⟨.startPreparedReadOnlyPlayback ⟨1⟩, playingOne⟩, ⟨.startRecording, recording⟩]

/-- The backend captures one movie and writes another. -/
def writes (captured written : ByteString) (count : UInt64) : MovieAnswers :=
  { recording with
    captureCheckpoint := { checkpoint := { dtmBytes := captured, currentInputCount := count } }
    dtmFile := some written }

/-- The recording is finalized as another movie. -/
def exchanged : List MovieInput :=
  branched ++ [⟨.finalizeRecording (text "b"), writes one other 1⟩]

/-- The recording is marked, goes on and is finalized. -/
def marked : List MovieInput :=
  branched ++ [⟨.captureDeferredRecordingPairCheckpoint, writes one one 1⟩,
    ⟨.finalizeRecording (text "b"), writes longer longer 2⟩]

end Sample

/-- The last call of a history finalized a recording whose file does not begin
with what it inherits. -/
def endsExchanged (history : List MovieTransition) : Bool :=
  match history.getLast? with
  | none => false
  | some transition =>
    match transition.input.call, transition.event, (heritage history.dropLast).inherited with
    | .finalizeRecording _, .operation receipt, some (movie, count) =>
      receipt.result.ok && transition.input.answers.dtmFile.any
        fun file => polls file count ≠ polls movie count
    | _, _, _ => false

/-- The backend may write another movie than the checkpoint it reported. -/
theorem exists_not_heritageLaw : ¬ ∀ (sha256 : ByteString → ByteString) history service,
      MovieRun sha256 (fun _ _ => True) history service →
      HeritageLaw sha256 history := by
  intro always
  obtain ⟨history, service, run, ends⟩ : ∃ history service,
      MovieRun (fun _ => []) (fun _ _ => True) history service ∧ endsExchanged history = true :=
    Run.exists_of_replay Sample.exchanged _ (by decide +kernel)
  have law := always _ history service run
  unfold endsExchanged at ends
  split at ends
  · cases ends
  next transition last =>
    split at ends
    next dtmPath receipt movie count call event inherited =>
      rw [Bool.and_eq_true] at ends
      obtain ⟨file, publishes⟩ := law.published history.dropLast transition []
        dtmPath receipt (List.dropLast_append_getLast? transition last).symm call event ends.1
      have differs := ends.2
      rw [publishes.written, Option.any_some, decide_eq_true_eq] at differs
      exact differs (publishes.continues movie count inherited).polls
    · cases ends

/-- A recording that was branched, marked and went on is finalized. -/
theorem heritage_of_marked : ∃ history service,
      MovieRun (fun _ => []) (fun _ _ => True) history service ∧
        history.length = 5 ∧ Everywhere Preserves history ∧
        (heritage history.dropLast).deferred = some 1 ∧
        HeritageLaw (fun _ => []) history := by
  obtain ⟨history, service, run, length, preserves, deferred⟩ :
      ∃ history service, MovieRun (fun _ => []) (fun _ _ => True) history service ∧
        history.length = 5 ∧ Everywhere Preserves history ∧
          (heritage history.dropLast).deferred = some 1 :=
    Run.exists_of_replay Sample.marked _ (by decide +kernel)
  exact ⟨history, service, run, length, preserves, deferred, heritage_of_preserves _ run preserves⟩

end Savor.Movie

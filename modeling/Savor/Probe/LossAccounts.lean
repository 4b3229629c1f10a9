import Savor.Probe.CaptureRuntime

/-!
# What the steps of a capture keep

What every operation leaves alone, so that the steps need not be looked into
again.
-/

namespace Savor.Probe

open Capture (CaptureHost CaptureWriter Continues Event EventKind)
open Program (ByteString text)

/-- An operation that is no business of the threads: each of them stands where it
stood, and the writer goes on. -/
structure SameThreads (before after : CaptureRuntime) : Prop where
  active : after.active = before.active
  recorderStop : after.recorderStop = before.recorderStop
  session : after.session = before.session
  phase : after.recorder.phase = before.recorder.phase
  cpu : after.cpu = before.cpu
  path : after.options.capturePath = before.options.capturePath
  writer : Continues before.writer after.writer

/-- An operation that neither marks the capture as incomplete nor counts a
loss. -/
structure SameLosses (before after : CaptureRuntime) : Prop where
  path : after.options.capturePath = before.options.capturePath
  enabled : after.captureEnabled = before.captureEnabled
  complete : after.captureComplete = before.captureComplete
  drops : after.captureDrops = before.captureDrops
  first : after.captureGapFirstSequence = before.captureGapFirstSequence
  last : after.captureGapLastSequence = before.captureGapLastSequence

namespace SameThreads

variable {first second third : CaptureRuntime}

theorem refl (state : CaptureRuntime) : SameThreads state state :=
  ⟨rfl, rfl, rfl, rfl, rfl, rfl, .refl _⟩

theorem trans (earlier : SameThreads first second)
    (later : SameThreads second third) : SameThreads first third where
  active := later.active.trans earlier.active
  recorderStop := later.recorderStop.trans earlier.recorderStop
  session := later.session.trans earlier.session
  phase := later.phase.trans earlier.phase
  cpu := later.cpu.trans earlier.cpu
  path := later.path.trans earlier.path
  writer := earlier.writer.trans later.writer

end SameThreads

variable (state : CaptureRuntime)

namespace SameLosses

variable {first second third : CaptureRuntime}

theorem refl : SameLosses state state := ⟨rfl, rfl, rfl, rfl, rfl, rfl⟩

theorem trans (earlier : SameLosses first second)
    (later : SameLosses second third) : SameLosses first third where
  path := later.path.trans earlier.path
  enabled := later.enabled.trans earlier.enabled
  complete := later.complete.trans earlier.complete
  drops := later.drops.trans earlier.drops
  first := later.first.trans earlier.first
  last := later.last.trans earlier.last

end SameLosses

namespace CaptureRuntime

/-! ## Hits and markers -/

theorem markCaptureIncomplete_threads (reason : ByteString) (captureSequence : UInt64) :
    SameThreads state (state.markCaptureIncomplete reason captureSequence) := by
  unfold markCaptureIncomplete
  dsimp only
  split <;> exact ⟨rfl, rfl, rfl, rfl, rfl, rfl, .refl _⟩

theorem pushOrMark_threads (event : RawProbeEvent) (captureSequence : UInt64) :
    SameThreads state (state.pushOrMark event captureSequence) := by
  unfold pushOrMark
  split
  · exact ⟨rfl, rfl, rfl, rfl, rfl, rfl, .refl _⟩
  · exact state.markCaptureIncomplete_threads _ _

theorem enqueueEvent_threads (probe : ProbeDefinition) (event : RawProbeEvent) :
    SameThreads state (state.enqueueEvent probe event) := by
  unfold enqueueEvent
  split
  · split
    · exact ⟨rfl, rfl, rfl, rfl, rfl, rfl, .refl _⟩
    · refine .trans ?_ (markCaptureIncomplete_threads _ _ _)
      exact ⟨rfl, rfl, rfl, rfl, rfl, rfl, .refl _⟩
  split
  · exact ⟨rfl, rfl, rfl, rfl, rfl, rfl, .refl _⟩
  · exact .refl state

theorem perform_threads (act : CpuAct) : SameThreads state (state.perform act) := by
  cases act with
  | bindingFailure reason => exact state.markCaptureIncomplete_threads _ _
  | sampled accepted =>
    have counted : SameThreads state { state with
        nextCaptureSequence := state.nextCaptureSequence + 1 } :=
      ⟨rfl, rfl, rfl, rfl, rfl, rfl, .refl _⟩
    cases accepted with
    | none => exact counted
    | some accepted => exact counted.trans (enqueueEvent_threads _ _ _)
  | _ =>
    unfold perform
    dsimp only
    split
    · exact state.pushOrMark_threads _ _
    · exact .refl state

theorem emitMarker_threads (id : ByteString) (value monotonicNs : UInt64) :
    SameThreads state (state.emitMarker id value monotonicNs) := by
  unfold emitMarker
  split
  · exact .refl state
  have counted : SameThreads state { state with
      nextCaptureSequence := state.nextCaptureSequence + 1
      nextSnapshotId := state.nextSnapshotId + 1 } :=
    ⟨rfl, rfl, rfl, rfl, rfl, rfl, .refl _⟩
  dsimp only
  split
  · exact counted.trans (pushOrMark_threads _ _ _)
  · exact counted

end CaptureRuntime

/-! ## Appending -/

/-- Appending events of some kinds: the threads stand where they stood, and
nothing is lost unless the writer refuses an event. -/
structure Appends (Kind : EventKind → Prop) (before : CaptureRuntime)
    (appending : Appending) : Prop where
  threads : SameThreads before appending.2
  losses : (∀ appended ∈ appending.1, appended.accepted = true) → SameLosses before appending.2
  kinds : ∀ appended ∈ appending.1, Kind appended.event.kind
  queue : appending.2.captureQueue = before.captureQueue

namespace Appends

variable {Kind Wider : EventKind → Prop} {before : CaptureRuntime}

theorem nothing (state : CaptureRuntime) : Appends Kind state ([], state) where
  threads := .refl state
  losses _ := .refl state
  kinds := by simp
  queue := rfl

theorem andThen {appending : Appending} {next : CaptureRuntime → Appending}
    (first : Appends Kind before appending) (later : ∀ state, Appends Kind state (next state)) :
    Appends Kind before (appending.andThen next) where
  threads := first.threads.trans (later _).threads
  losses all := by
    have both := List.forall_mem_append.mp all
    exact (first.losses both.1).trans ((later _).losses both.2)
  kinds := List.forall_mem_append.mpr ⟨first.kinds, (later _).kinds⟩
  queue := (later _).queue.trans first.queue

theorem mono {appending : Appending} (appends : Appends Kind before appending)
    (wider : ∀ kind, Kind kind → Wider kind) : Appends Wider before appending :=
  { appends with
    kinds := fun appended member => wider _ (appends.kinds appended member) }

/-- Appending for one value after the other.  The induction is on the values. -/
theorem each {Value : Type} {append : Value → CaptureRuntime → Appending}
    (one : ∀ value state, Appends Kind state (append value state))
    (values : List Value) (state : CaptureRuntime) :
    Appends Kind state (appendEach append values state) := by
  induction values generalizing state with
  | nil => exact .nothing state
  | cons value values ih => exact (one value state).andThen ih

end Appends

namespace CaptureRuntime

variable (host : CaptureHost)

theorem numberRecord_kind (event : Event) (state : CaptureRuntime) :
    (state.numberRecord event).1.kind = event.kind := by
  unfold numberRecord
  split <;> rfl

theorem numberRecord_fields (event : Event) (state : CaptureRuntime) :
    (state.numberRecord event).1.fields = event.fields := by
  unfold numberRecord
  split <;> rfl

theorem appendCapture_appends (event : Event) (state : CaptureRuntime) :
    Appends (· = event.kind) state (state.appendCapture host event) := by
  unfold appendCapture
  dsimp only
  split
  · exact .nothing state
  have kind := state.numberRecord_kind event
  generalize state.numberRecord event = numbered at kind ⊢
  have writer := state.writer.append_continues host numbered.1
  split
  · exact ⟨⟨rfl, rfl, rfl, rfl, rfl, rfl, writer⟩,
      fun _ => ⟨rfl, rfl, rfl, rfl, rfl, rfl⟩, by simpa using kind, rfl⟩
  refine ⟨?_, fun all => by simp at all, by simpa using kind, ?_⟩
  · refine .trans ?_ (markCaptureIncomplete_threads _ _ _)
    exact ⟨rfl, rfl, rfl, rfl, rfl, rfl, writer⟩
  unfold markCaptureIncomplete
  dsimp only
  split <;> rfl

theorem decodeEvent_kind (profile : Profile) (raw : RawProbeEvent) :
    (decodeEvent profile raw).kind ≠ .gap := by
  unfold decodeEvent
  dsimp only
  split
  · exact nofun
  split
  · exact nofun
  split
  · exact nofun
  dsimp only
  split
  · exact nofun
  split
  · exact nofun
  · split <;> exact nofun

theorem emit_appends (emitted : Emitted) (state : CaptureRuntime) :
    Appends (· ≠ .gap) state (state.emit host emitted) := by
  have appends := Appends.each
    (fun raw state =>
      (appendCapture_appends host (decodeEvent state.profile.sampled raw)
        state).mono fun kind same => same ▸ decodeEvent_kind _ _)
    emitted.1
    { state with recorder := { state.recorder with retention := emitted.2 } }
  exact { appends with
    threads := { appends.threads with }
    losses := fun all => { appends.losses all with } }

theorem appendMetrics_appends (probeId : ByteString)
    (fields : List Capture.Field) (state : CaptureRuntime) : Appends (· ≠ .gap) state
      (state.appendMetrics host probeId fields) := by
  have appends := (appendCapture_appends host
    { captureSequence := state.nextCaptureSequence
      frameIndex := state.frameIndex
      guestWorksetEpoch := state.guestWorksetEpoch
      profileRevision := state.profile.revision
      kind := .metrics
      probeId, fields } { state with nextCaptureSequence := state.nextCaptureSequence + 1 }).mono
      fun kind (same : kind = .metrics) => show kind ≠ .gap by
        rw [same]
        exact nofun
  exact { appends with
    threads := { appends.threads with }
    losses := fun all => { appends.losses all with } }

theorem appendSessionMetrics_appends (progressDrops : UInt64) (state : CaptureRuntime) :
    Appends (· ≠ .gap) state (state.appendSessionMetrics host progressDrops) := by
  unfold appendSessionMetrics
  split
  · exact state.appendMetrics_appends host _ _
  · exact .nothing state

theorem appendGap_appends (state : CaptureRuntime) :
    Appends (· = .gap) state (state.appendGap host) := by
  unfold appendGap
  split
  · exact state.appendCapture_appends host state.gapEvent
  · exact .nothing state

/-- What the recorder reports after the gap. -/
def appendReports (report : MetricsReport) (flights : List FlightState)
    (state : CaptureRuntime) : Appending :=
  (((appendEach (fun metrics =>
      appendMetrics host (text "probe.metrics." ++ metrics.id) metrics.fields)
      report.probes) state).andThen
    (appendEach (fun flight =>
      appendMetrics host (text "flight.metrics." ++ flight.definition.id)
        flight.fields) flights)).andThen
    (appendSessionMetrics host report.progressDrops)

theorem appendReports_appends (report : MetricsReport)
    (flights : List FlightState) (state : CaptureRuntime) :
    Appends (· ≠ .gap) state (state.appendReports host report flights) :=
  ((Appends.each (fun _ state => state.appendMetrics_appends host _ _) _
    state).andThen (Appends.each (fun _ state => state.appendMetrics_appends host _ _) _)).andThen
    (appendSessionMetrics_appends host _)

theorem andThen_assoc (appending : Appending) (next later : CaptureRuntime → Appending) :
    (appending.andThen next).andThen later =
      appending.andThen fun state => (next state).andThen later := by
  unfold Appending.andThen
  simp only [List.append_assoc]

theorem finishRecorder_eq (report : MetricsReport) (state : CaptureRuntime) :
    state.finishRecorder host report =
      (((state.emit host (state.recorder.retention.finish host.sorting)).andThen
        (appendGap host)).andThen
        (appendReports host report state.recorder.retention.flightStates)).andThen
        fun state => ([], state.toPhase .finished) := by
  unfold finishRecorder appendReports
  simp only [andThen_assoc]
  rfl

end CaptureRuntime

/-!
## Accounts of losses

Which events are due for the capture, and which of them are lost.  The runtime's
own account of them is right as long as only accepted events of probes are lost,
in the order of their sequences.
-/

open Capture (CaptureHost Event)

/-! ## Due events -/

/-- The event of an act that is due for the capture. -/
def CpuAct.due : CpuAct → Option RawProbeEvent
  | .frameMarker event => some event
  | .addressResolution probe event => if probe.subscriptions.capture then some event else none
  | .bindingFailure _ => none
  | .sampled none => none
  | .sampled (some (probe, event)) => if probe.subscriptions.capturing then some event else none
  | .control event => some event

namespace CaptureRuntime

/-- The event of a marker, if it is emitted. -/
def dueMarker (id : ByteString) (value monotonicNs : UInt64) : Option RawProbeEvent :=
  if state.takesMarker id then some (state.marker id value monotonicNs)
  else none

/-- The event that a step should capture. -/
def due (state : CaptureRuntime) (input : RuntimeInput) : Option RawProbeEvent :=
  if state.options.capturePath.isNone then none
  else
    match input with
    | .cpu => state.cpu.head?.bind CpuAct.due
    | .emitMarker id value monotonicNs => state.dueMarker id value monotonicNs
    | .beginReload profile _ monotonicNs =>
      state.dueMarker (text "profile.reload.begin") profile.revision
        monotonicNs
    | .endReload monotonicNs =>
      state.dueMarker (text "profile.reload.end") state.profile.revision
        monotonicNs
    | _ => none

/-- Whether the queue takes no event. -/
def refuses : Bool := !state.captureEnabled || (state.captureQueue.tryPush {}).isNone

/-- Whether a step is the act of a probe that was sampled. -/
def samples : RuntimeInput → Bool
  | .cpu =>
    match state.cpu with
    | .sampled _ :: _ => true
    | _ => false
  | _ => false

/-- A loss that the runtime counts: it is the first of all, or it comes after a
counted one and not before it in the order of the sequences. -/
def Counts (event : RawProbeEvent) : Prop :=
  event.captureSequence ≠ 0 ∧ state.captureDrops + 1 < 2 ^ 64 ∧
    (state.captureComplete = true ∨
      state.captureGapFirstSequence ≠ 0 ∧ state.captureGapLastSequence ≤ event.captureSequence)

/-- A step whose losses are counted: only accepted events of probes are lost, the
writer takes what it is given, and no reload fails over a loss that the writer
does not know of. -/
structure LossCounted (host : CaptureHost) (state : CaptureRuntime)
    (input : RuntimeInput) : Prop where
  counted : ∀ event ∈ state.due input, state.refuses = true →
    state.samples input = true ∧ state.Counts event
  written : ∀ appending ∈ state.step host input, ∀ appended ∈ appending.1, appended.accepted = true
  armed : ∀ monotonicNs, input = .finishReload false monotonicNs →
    state.captureComplete = true ∨ state.writer.complete = false

/-- Whether a reload that fails is one that the writer may not know of. -/
def armsUnlessKnown : RuntimeInput → Bool
  | .finishReload false _ => state.captureComplete || !state.writer.complete
  | _ => true

instance (state : CaptureRuntime) (event : RawProbeEvent) : Decidable (state.Counts event) := by
  unfold Counts
  infer_instance

instance (host : CaptureHost) (state : CaptureRuntime) (input : RuntimeInput) :
    Decidable (state.LossCounted host input) :=
  decidable_of_iff
    ((∀ event ∈ state.due input, state.refuses = true →
        state.samples input = true ∧ state.Counts event) ∧
      (∀ appending ∈ state.step host input, ∀ appended ∈ appending.1, appended.accepted = true) ∧
      state.armsUnlessKnown input = true) <| by
    constructor
    · rintro ⟨counted, written, armed⟩
      refine ⟨counted, written, ?_⟩
      rintro monotonicNs rfl
      simpa [armsUnlessKnown] using armed
    rintro ⟨counted, written, armed⟩
    refine ⟨counted, written, ?_⟩
    unfold armsUnlessKnown
    split
    · rename_i monotonicNs
      simpa using armed monotonicNs rfl
    · rfl

end CaptureRuntime

/-! ## Histories -/

abbrev RuntimeStep : Type _ := Library.Transition CaptureRuntime RuntimeInput (List Appended)

/-- The sequence of a due event that did not get into the queue. -/
def lostInQueue (step : RuntimeStep) : List UInt64 :=
  match step.before.due step.input with
  | none => []
  | some event =>
    if step.after.captureQueue.enqueuePosition = step.before.captureQueue.enqueuePosition then
      [event.captureSequence]
    else []

/-- The sequences of the events that the writer refused, except for what it is
told about the capture itself. -/
def lostInWriter (step : RuntimeStep) : List UInt64 :=
  (step.event.filter fun appended =>
      !appended.accepted && appended.event.kind ≠ .gap && appended.event.kind ≠ .metrics).map
    fun appended => appended.event.captureSequence

/-- The sequences of the events that were lost. -/
def lostEvents (history : List RuntimeStep) : List UInt64 :=
  history.flatMap fun step => lostInQueue step ++ lostInWriter step

/-- The events that were written. -/
def writtenEvents (history : List RuntimeStep) : List Event :=
  history.flatMap fun step => (step.event.filter Appended.accepted).map Appended.event

/-! ## The account -/

/-- The runtime's account of the events that were lost. -/
structure Accounts (lost : List UInt64) (state : CaptureRuntime) : Prop where
  enabled : state.captureEnabled = (state.options.capturePath.isSome && state.captureComplete)
  drops : state.captureDrops = lost.length
  bounded : state.captureDrops < 2 ^ 64
  nothing : lost = [] → state.captureGapFirstSequence = 0
  something : lost ≠ [] → state.captureComplete = false ∧ state.options.capturePath.isSome = true ∧
    state.captureGapFirstSequence ≠ 0
  range : ∀ sequence ∈ lost, state.captureGapFirstSequence ≤ sequence ∧
    sequence ≤ state.captureGapLastSequence

namespace Accounts

variable {lost : List UInt64} {before after : CaptureRuntime}

theorem congr (accounts : Accounts lost before)
    (same : SameLosses before after) : Accounts lost after where
  enabled := by rw [same.enabled, same.path, same.complete, accounts.enabled]
  drops := same.drops.trans accounts.drops
  bounded := by rw [same.drops]; exact accounts.bounded
  nothing none := same.first.trans (accounts.nothing none)
  something some := by
    rw [same.complete, same.path, same.first]
    exact accounts.something some
  range := by
    rw [same.first, same.last]
    exact accounts.range

theorem nothing_of_complete (accounts : Accounts lost before)
    (complete : before.captureComplete = true) : lost = [] := by
  by_contra some
  rw [(accounts.something some).1] at complete
  cases complete

theorem mark (accounts : Accounts lost before) (reason : ByteString) :
    Accounts lost (before.markCaptureIncomplete reason 0) := by
  unfold CaptureRuntime.markCaptureIncomplete
  cases complete : before.captureComplete with
  | true =>
    obtain rfl := accounts.nothing_of_complete complete
    exact
      { enabled := by simp
        drops := accounts.drops
        bounded := accounts.bounded
        nothing := fun _ => rfl
        something := by simp
        range := by simp }
  | false =>
    exact
      { enabled := by simp [complete]
        drops := accounts.drops
        bounded := accounts.bounded
        nothing := accounts.nothing
        something := fun some => ⟨complete, (accounts.something some).2⟩
        range := accounts.range }

theorem first (accounts : Accounts lost before) (complete : before.captureComplete = true)
    (path : before.options.capturePath.isSome = true)
    {event : RawProbeEvent} (counts : before.Counts event) (reason : ByteString) :
    Accounts (lost ++ [event.captureSequence])
      ({ before with
        captureDrops := before.captureDrops + 1 }.markCaptureIncomplete
          reason event.captureSequence) := by
  obtain ⟨positive, bounded, -⟩ := counts
  obtain rfl := accounts.nothing_of_complete complete
  unfold CaptureRuntime.markCaptureIncomplete
  simp only [complete, if_true]
  rw [if_pos positive]
  exact
    { enabled := by simp
      drops := by simp [accounts.drops]
      bounded := bounded
      nothing := by simp
      something := fun _ => ⟨rfl, path, positive⟩
      range := by simp }

/-- A loss after the first one. -/
theorem next (accounts : Accounts lost before) (incomplete : before.captureComplete = false)
    (path : before.options.capturePath.isSome = true)
    {event : RawProbeEvent} (counts : before.Counts event) :
    Accounts (lost ++ [event.captureSequence])
      { before with
        captureDrops := before.captureDrops + 1
        captureGapLastSequence := event.captureSequence } := by
  obtain ⟨-, bounded, wrong | ⟨positive, ordered⟩⟩ := counts
  · rw [incomplete] at wrong
    cases wrong
  obtain ⟨earlier, member⟩ := List.exists_mem_of_ne_nil lost
    fun none => positive (accounts.nothing none)
  have within := accounts.range earlier member
  refine
    { enabled := accounts.enabled
      drops := by simp [accounts.drops]
      bounded := bounded
      nothing := by simp
      something := fun _ => ⟨incomplete, path, positive⟩
      range := fun sequence among => ?_ }
  rcases List.mem_append.mp among with old | new
  · have range := accounts.range sequence old
    exact ⟨range.1, UInt64.le_trans range.2 ordered⟩
  obtain rfl := List.mem_singleton.mp new
  exact ⟨UInt64.le_trans (UInt64.le_trans within.1 within.2) ordered, UInt64.le_refl _⟩

end Accounts
end Savor.Probe


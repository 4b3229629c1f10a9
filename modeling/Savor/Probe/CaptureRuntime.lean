import Savor.Capture.CaptureWriter
import Savor.Library.RingQueue
import Savor.Library.Transition
import Savor.Probe.RoutedHits

/-!
# The capture of a probe runtime

Hits and markers are queued, and the recorder's thread takes them from the queue
and writes them.  When the queue overflows, the capture is incomplete from there
on.
-/

namespace Savor.Probe

open Capture (CaptureHost CapturePath CaptureWriter Event Field)
open Library (RingQueue)
open Program (ByteString text)

/-! ## States -/

/-- Where the recorder's thread stands. -/
inductive RecorderPhase
  | triggering
  | draining
  | marking
  | checking
  | finishing
  | finished
  deriving DecidableEq

/-- The recorder's thread and its local variables. -/
structure Recorder where
  phase : RecorderPhase := .triggering
  retention : CaptureRetention
  writerMarkedIncomplete : Bool := false

/-- Where the controlling thread stands. -/
inductive Session
  | running
  | reloading (profile : CaptureProfile) (profileJson : ByteString)
  | reloaded
  | stopping
  | stopped
  deriving DecidableEq

structure SessionOptions where
  capturePath : Option CapturePath := none
  metadata : Capture.FileMetadata := {}
  writerOptions : Capture.WriterOptions := {}

structure CaptureRuntime where
  profile : CaptureProfile
  options : SessionOptions
  active : Bool := true
  recorderStop : Bool := false
  captureEnabled : Bool
  captureComplete : Bool := true
  captureDrops : Nat := 0
  (nextCaptureSequence nextRecordSequence nextSnapshotId : UInt64 := 1)
  (frameIndex guestWorksetEpoch : UInt64 := 0)
  flightTriggered : Bool := false
  flightPostRemaining : UInt32 := 0
  (captureGapFirstSequence captureGapLastSequence : UInt64 := 0)
  incompleteReason : ByteString := []
  captureQueue : RingQueue RawProbeEvent
  writer : CaptureWriter
  /-- What is left to do of the hit that is processed. -/
  cpu : List CpuAct := []
  recorder : Recorder
  session : Session := .running

variable (state : CaptureRuntime)

namespace CaptureRuntime

/-- The capacity of the queue for raw events of a size. -/
def captureCapacity (sizeofRawEvent : Nat) (limits : ProfileLimits) : Nat :=
  let maxByBytes := UInt32.ofNat (max 16 (limits.queueBytes.toNat / sizeofRawEvent))
  max 16 (min 4096 (min limits.maxEvents maxByBytes).toNat)

/-- Start capturing, if the capture can be opened.  A capture without a path is
not written. -/
def start (host : CaptureHost) (sizeofRawEvent : Nat)
    (profile : CaptureProfile) (options : SessionOptions)
    (files : Capture.Files) : Option CaptureRuntime :=
  let started (writer : CaptureWriter) : CaptureRuntime :=
    { profile, options
      captureEnabled := options.capturePath.isSome
      captureQueue := .configure (captureCapacity sizeofRawEvent profile.limits) {}
      writer
      recorder := { retention := .create profile } }
  match options.capturePath with
  | none => some (started { files })
  | some path =>
    let opened := CaptureWriter.open host { files } path options.metadata options.writerOptions
    if opened.1.isNone then some (started opened.2) else none

/-! ## The threads that hit probes -/

def markCaptureIncomplete (reason : ByteString) (captureSequence : UInt64) : CaptureRuntime :=
  let marked :=
    if state.captureComplete then
      { state with
        captureComplete := false
        incompleteReason := reason
        captureGapFirstSequence := captureSequence }
    else state
  { marked with
    captureEnabled := false
    captureGapLastSequence :=
      if captureSequence ≠ 0 then captureSequence
      else marked.captureGapLastSequence }

/-- Queue an event, or mark the capture as incomplete from a sequence on. -/
def pushOrMark (event : RawProbeEvent) (captureSequence : UInt64) : CaptureRuntime :=
  match state.captureQueue.tryPush event with
  | some queue => { state with captureQueue := queue }
  | none =>
    state.markCaptureIncomplete (text "capture queue overflow")
      captureSequence

/-- What `enqueue_event` does for the capture. -/
def enqueueEvent (probe : ProbeDefinition) (event : RawProbeEvent) : CaptureRuntime :=
  if state.captureEnabled && probe.subscriptions.capturing then
    match state.captureQueue.tryPush event with
    | some queue => { state with captureQueue := queue }
    | none =>
      { state with
        captureDrops := state.captureDrops + 1 }.markCaptureIncomplete
          (text "capture queue overflow") event.captureSequence
  else if probe.subscriptions.capturing && state.options.capturePath.isSome &&
      !state.captureComplete then
    { state with
      captureDrops := state.captureDrops + 1
      captureGapLastSequence := event.captureSequence }
  else state

def perform : CpuAct → CaptureRuntime
  | .frameMarker event => if state.captureEnabled then state.pushOrMark event 0 else state
  | .addressResolution probe event =>
    if state.captureEnabled && probe.subscriptions.capture then
      state.pushOrMark event event.captureSequence
    else state
  | .bindingFailure reason => state.markCaptureIncomplete reason 0
  | .sampled accepted =>
    let counted := { state with nextCaptureSequence := state.nextCaptureSequence + 1 }
    match accepted with
    | none => counted
    | some (probe, event) => counted.enqueueEvent probe event
  | .control event =>
    if state.captureEnabled then
      state.pushOrMark event event.captureSequence
    else state

/-- The start of `process_routed_pc`. -/
def processRoutedPc (hit : RoutedPc) : CaptureRuntime :=
  if !state.active then state
  else
    let sequence := routedOrLocalSequence state.nextCaptureSequence hit.context.routedSequence
    let snapshot := routedOrLocalSequence state.nextSnapshotId hit.context.sampleSnapshotId
    let frame := if hit.frameClock then state.frameIndex + 1 else state.frameIndex
    let stamp : ProbeHit :=
      { captureSequence := sequence.1
        monotonicNs := hit.monotonicNs
        frameIndex := frame
        guestWorksetEpoch := hit.context.guestWorksetEpoch
        snapshotId := snapshot.1
        hitCount := 0
        pc := hit.pc
        routed := some hit.context.samples }
    { state with
      guestWorksetEpoch := hit.context.guestWorksetEpoch
      nextCaptureSequence := sequence.2
      nextSnapshotId := snapshot.2
      frameIndex := frame
      cpu := hit.acts state.profile stamp }

/-- The start of `process_routed_memory`. -/
def processRoutedMemory (hit : RoutedMemory) : CaptureRuntime :=
  if !state.active || (hit.write && !hit.postWrite) then state
  else if state.profile.probes.all (fun probe => probe.kind ≠ .memory) &&
      !hit.context.activeForegroundWake then
    { state with guestWorksetEpoch := hit.context.guestWorksetEpoch }
  else
    let sequence := routedOrLocalSequence state.nextCaptureSequence hit.context.routedSequence
    let snapshot := routedOrLocalSequence state.nextSnapshotId hit.context.sampleSnapshotId
    let stamp : ProbeHit :=
      { captureSequence := sequence.1
        monotonicNs := hit.monotonicNs
        frameIndex := state.frameIndex
        guestWorksetEpoch := hit.context.guestWorksetEpoch
        snapshotId := snapshot.1
        hitCount := 0
        pc := hit.pc
        address := hit.address
        size := hit.size
        value := hit.value }
    { state with
      guestWorksetEpoch := hit.context.guestWorksetEpoch
      nextCaptureSequence := sequence.2
      nextSnapshotId := snapshot.2
      cpu := hit.acts state.profile stamp }

/-- The event of a marker. -/
def marker (state : CaptureRuntime) (id : ByteString) (value : UInt64)
    (monotonicNs : UInt64) : RawProbeEvent where
  captureSequence := state.nextCaptureSequence
  monotonicNs := monotonicNs
  frameIndex := state.frameIndex
  guestWorksetEpoch := state.guestWorksetEpoch
  profileRevision := state.profile.revision
  snapshotId := state.nextSnapshotId
  value := value
  probeIndex := syntheticMarkerProbeIndex
  kind := ProbeKind.marker.code
  payload := id

/-- Whether a marker is emitted at all. -/
def takesMarker (id : ByteString) : Bool := state.active && decide (id.length ≤ rawPayloadBytes)

def emitMarker (id : ByteString) (value : UInt64) (monotonicNs : UInt64) : CaptureRuntime :=
  if !state.takesMarker id then state
  else
    let counted :=
      { state with
        nextCaptureSequence := state.nextCaptureSequence + 1
        nextSnapshotId := state.nextSnapshotId + 1 }
    if state.captureEnabled then
      counted.pushOrMark (state.marker id value monotonicNs) 0
    else counted

/-! ## Writing -/

end CaptureRuntime

/-- An event that the writer was asked to append, and whether it did. -/
structure Appended where
  event : Event
  accepted : Bool

/-- What the writer was asked to append, and the runtime then. -/
abbrev Appending : Type := List Appended × CaptureRuntime

/-- Go on appending. -/
def Appending.andThen (appending : Appending) (next : CaptureRuntime → Appending) : Appending :=
  let continued := next appending.2
  (appending.1 ++ continued.1, continued.2)

/-- Append for one value after the other. -/
def appendEach {Value : Type} (append : Value → CaptureRuntime → Appending) :
    List Value → CaptureRuntime → Appending
  | [], state => ([], state)
  | value :: values, state => (append value state).andThen (appendEach append values)

namespace CaptureRuntime

variable (host : CaptureHost)

/-- An event without a record sequence gets the next one. -/
def numberRecord (event : Event) (state : CaptureRuntime) : Event × UInt64 :=
  if event.recordSequence = 0 then
    ({ event with recordSequence := state.nextRecordSequence }, state.nextRecordSequence + 1)
  else (event, state.nextRecordSequence)

def appendCapture (event : Event) (state : CaptureRuntime) : Appending :=
  if !state.writer.isOpen then ([], state)
  else
    let numbered := state.numberRecord event
    let written := state.writer.append host numbered.1
    let after :=
      { state with
        writer := written.2
        nextRecordSequence := numbered.2 }
    if written.1.isNone then ([⟨numbered.1, true⟩], after)
    else
      ([⟨numbered.1, false⟩], after.markCaptureIncomplete (text "capture writer append failed") 0)

/-- Append the events that the retention emits. -/
def emit (emitted : Emitted) (state : CaptureRuntime) : Appending :=
  appendEach
    (fun raw state => state.appendCapture host (decodeEvent state.profile.sampled raw))
    emitted.1
    { state with
      recorder := { state.recorder with retention := emitted.2 } }

/-- The event of what was lost. -/
def gapEvent : Event where
  captureSequence := state.captureGapFirstSequence
  frameIndex := state.frameIndex
  guestWorksetEpoch := state.guestWorksetEpoch
  profileRevision := state.profile.revision
  kind := .gap
  probeId := text "probe.capture.gap"
  fields :=
    [{ name := text "first_capture_sequence"
       value := state.captureGapFirstSequence },
      { name := text "last_capture_sequence"
        value := state.captureGapLastSequence },
      { name := text "lost_events", value := UInt64.ofNat state.captureDrops },
      { name := text "reason", type := .text, bytes := state.incompleteReason }]

def appendGap (state : CaptureRuntime) : Appending :=
  if state.captureGapFirstSequence ≠ 0 then
    state.appendCapture host state.gapEvent
  else ([], state)

end CaptureRuntime

/-! ## Metrics -/

/-- What a probe has counted, in the order of the names. -/
structure ProbeMetrics where
  id : ByteString
  counters : List UInt64
  bindingSource : ByteString

/-- What the probes have counted. -/
structure MetricsReport where
  probes : List ProbeMetrics := []
  progressDrops : UInt64 := 0

def probeCounterNames : List ByteString :=
  [text "hits", text "sampled", text "sample_failures",
    text "predicate_rejections", text "window_rejections",
    text "sampling_rejections", text "capture_deliveries",
    text "progress_deliveries", text "control_publications", text "drops",
    text "progress_coalesced", text "bytes", text "traces",
    text "trace_failures", text "physical_watchpoint_hits",
    text "binding_generation", text "binding_failures",
    text "binding_failure_reason", text "derived_address", text "derived_size",
    text "physical_address", text "physical_size"]

def ProbeMetrics.fields (metrics : ProbeMetrics) : List Field :=
  (probeCounterNames.zip metrics.counters).map
      (fun counter => { name := counter.1, value := counter.2 }) ++
    [{ name := text "binding_source", type := .text
       bytes := metrics.bindingSource }]

def FlightState.fields (state : FlightState) : List Field :=
  [{ name := text "triggers", value := state.triggers },
    { name := text "retriggers", value := state.retriggers },
    { name := text "completed_windows", value := state.completedWindows },
    { name := text "post_remaining", value := state.postRemaining.toUInt64 },
    { name := text "active", value := if state.active then 1 else 0 }]

namespace CaptureRuntime

variable (host : CaptureHost)

def sessionFields (progressDrops : UInt64) : List Field :=
  [{ name := text "complete", value := if state.captureComplete then 1 else 0 },
    { name := text "capture_drops"
      value := UInt64.ofNat state.captureDrops },
    { name := text "progress_drops", value := progressDrops },
    { name := text "profile_revision", value := state.profile.revision },
    { name := text "guest_workset_epoch", value := state.guestWorksetEpoch }]

/-- Append the event of some metrics. -/
def appendMetrics (probeId : ByteString) (fields : List Field)
    (state : CaptureRuntime) : Appending :=
  appendCapture host
    { captureSequence := state.nextCaptureSequence
      frameIndex := state.frameIndex
      guestWorksetEpoch := state.guestWorksetEpoch
      profileRevision := state.profile.revision
      kind := .metrics
      probeId, fields }
    { state with nextCaptureSequence := state.nextCaptureSequence + 1 }

def appendSessionMetrics (progressDrops : UInt64) (state : CaptureRuntime) : Appending :=
  if state.writer.isOpen then
    state.appendMetrics host (text "probe.session.metrics")
      (state.sessionFields progressDrops)
  else ([], state)

/-- The end of the recorder's thread. -/
def finishRecorder (report : MetricsReport) (state : CaptureRuntime) : Appending :=
  let flights := state.recorder.retention.flightStates
  (((((state.emit host (state.recorder.retention.finish host.sorting)).andThen
      (appendGap host)).andThen
    (appendEach (fun metrics =>
      appendMetrics host (text "probe.metrics." ++ metrics.id) metrics.fields)
      report.probes)).andThen
    (appendEach (fun flight =>
      appendMetrics host (text "flight.metrics." ++ flight.definition.id)
        flight.fields) flights)).andThen
    (appendSessionMetrics host report.progressDrops)).andThen fun state =>
      ([], { state with recorder := { state.recorder with phase := .finished } })

/-! ## The recorder's thread -/

def toPhase (phase : RecorderPhase) (state : CaptureRuntime) : CaptureRuntime :=
  { state with recorder := { state.recorder with phase } }

/-- The flight recorders are triggered from outside. -/
def recordTrigger (state : CaptureRuntime) : Appending :=
  if state.flightTriggered then
    emit host (state.recorder.retention.triggerAll state.flightPostRemaining
        state.nextCaptureSequence)
      { state.toPhase .draining with
        flightTriggered := false, flightPostRemaining := 0 }
  else ([], state.toPhase .draining)

/-- Take an event from the queue. -/
def recordEvent (state : CaptureRuntime) : Appending :=
  match state.captureQueue.tryPop with
  | none => ([], state.toPhase .marking)
  | some (raw, queue) =>
    emit host (state.recorder.retention.accept raw) { state with captureQueue := queue }

/-- See whether the capture is incomplete. -/
def recordMark : CaptureRuntime :=
  let next := state.toPhase .checking
  if !state.captureComplete && state.writer.isOpen && !state.recorder.writerMarkedIncomplete then
    { next with
      writer := state.writer.markIncomplete state.incompleteReason
      recorder := { next.recorder with writerMarkedIncomplete := true } }
  else next

/-- Whether the queue is empty. -/
def queueIsEmpty : Bool := state.captureQueue.enqueuePosition = state.captureQueue.dequeuePosition

/-- See whether the recorder is to stop. -/
def recordCheck (progressPending : Bool) (state : CaptureRuntime) : CaptureRuntime :=
  if state.recorderStop && state.queueIsEmpty && !progressPending then
    state.toPhase .finishing
  else state.toPhase .triggering

/-- A step in the loop of `recorder_main`. -/
def record (progressPending : Bool) (state : CaptureRuntime) : Option Appending :=
  match state.recorder.phase with
  | .triggering => some (state.recordTrigger host)
  | .draining => some (state.recordEvent host)
  | .marking => some ([], state.recordMark)
  | .checking => some ([], state.recordCheck progressPending)
  | .finishing | .finished => none

/-! ## The controlling thread -/

/-- Stop the other threads. -/
def quiesce (session : Session) (state : CaptureRuntime) : CaptureRuntime :=
  { state with active := false, recorderStop := true, session }

/-- `replace_profile` until the recorder is joined. -/
def beginReload (profile : CaptureProfile) (profileJson : ByteString)
    (monotonicNs : UInt64) (state : CaptureRuntime) : CaptureRuntime :=
  (state.emitMarker (text "profile.reload.begin") profile.revision
    monotonicNs).quiesce (.reloading profile profileJson)

/-- The capture is closed when a reload fails. -/
def abandonReload (reason : ByteString) (state : CaptureRuntime) : CaptureRuntime :=
  let marked := state.markCaptureIncomplete reason 0
  { marked with
    writer :=
      if marked.writer.isOpen then (marked.writer.close host).2
      else marked.writer
    session := .stopped }

/-- The runtime with another profile. -/
def withProfile (profile : CaptureProfile) (profileJson : ByteString)
    (state : CaptureRuntime) : CaptureRuntime :=
  { state with
    profile
    options := { state.options with
      metadata := { state.options.metadata with profileJson } }
    flightTriggered := false
    flightPostRemaining := 0 }

/-- The event of a reload. -/
def reloadEvent (monotonicNs : UInt64) (state : CaptureRuntime) : Event where
  captureSequence := state.nextCaptureSequence
  recordSequence := state.nextRecordSequence
  monotonicNs := monotonicNs
  frameIndex := state.frameIndex
  guestWorksetEpoch := state.guestWorksetEpoch
  profileRevision := state.profile.revision
  snapshotId := state.nextSnapshotId
  kind := .marker
  probeId := text "profile.reload"
  fields :=
    [{ name := text "profile_json", type := .text
       bytes := state.options.metadata.profileJson }]

/-- Start the recorder again. -/
def restart : CaptureRuntime :=
  { state with
    recorderStop := false
    active := true
    recorder := { retention := .create state.profile }
    session := .reloaded }

/-- Write the profile that was loaded, and go on. -/
def recordReload (monotonicNs : UInt64) (state : CaptureRuntime) : Appending :=
  if !state.writer.isOpen then ([], state.restart)
  else
    let event := state.reloadEvent monotonicNs
    let written := state.writer.append host event
    let after :=
      { state with
        writer := written.2
        nextCaptureSequence := state.nextCaptureSequence + 1
        nextRecordSequence := state.nextRecordSequence + 1
        nextSnapshotId := state.nextSnapshotId + 1 }
    if written.1.isNone then ([⟨event, true⟩], after.restart)
    else
      ([⟨event, false⟩], after.abandonReload host (text "capture profile reload record failed"))

/-- `replace_profile` after the recorder is joined. -/
def finishReload (profile : CaptureProfile) (profileJson : ByteString)
    (armed : Bool) (monotonicNs : UInt64) (state : CaptureRuntime) : Appending :=
  let replaced := state.withProfile profile profileJson
  if armed then replaced.recordReload host monotonicNs
  else
    ([], replaced.abandonReload host (text "capture profile reload arm failed"))

/-- `stop` after the recorder is joined. -/
def finishStop (state : CaptureRuntime) : CaptureRuntime :=
  if state.writer.isOpen then
    let marked :=
      if state.captureComplete then state.writer
      else state.writer.markIncomplete state.incompleteReason
    { state with writer := (marked.close host).2, session := .stopped }
  else { state with session := .stopped }

end CaptureRuntime

/-! ## Runs -/

/-- A step of one of the threads. -/
inductive RuntimeInput
  | routedPc (hit : RoutedPc)
  | routedMemory (hit : RoutedMemory)
  | cpu
  | emitMarker (id : ByteString) (value : UInt64) (monotonicNs : UInt64)
  /-- A group is switched on or off, and its watchpoints are bound again or
  not. -/
  | setGroupEnabled (rebound : Bool)
  | triggerFlightRecorder (postEvents : UInt32)
  | setFrameIndex (frame : UInt64)
  | setGuestWorksetEpoch (epoch : UInt64)
  | record (progressPending : Bool)
  | finishRecorder (report : MetricsReport)
  | beginReload (profile : CaptureProfile) (profileJson : ByteString) (monotonicNs : UInt64)
  | finishReload (armed : Bool) (monotonicNs : UInt64)
  | endReload (monotonicNs : UInt64)
  | beginStop
  | finishStop

namespace CaptureRuntime

/-- Between two hits of a session that is running. -/
def isIdle : Bool := state.session = .running && state.cpu.isEmpty

def step (host : CaptureHost) (input : RuntimeInput) (state : CaptureRuntime) : Option Appending :=
  match input with
  | .routedPc hit => if state.cpu.isEmpty then some ([], state.processRoutedPc hit) else none
  | .routedMemory hit =>
    if state.cpu.isEmpty then some ([], state.processRoutedMemory hit)
    else none
  | .cpu =>
    match state.cpu with
    | [] => none
    | act :: acts => some ([], { state with cpu := acts }.perform act)
  | .emitMarker id value monotonicNs => some ([], state.emitMarker id value monotonicNs)
  | .setGroupEnabled rebound =>
    if state.active && !rebound then
      some ([], state.markCaptureIncomplete (text "watchpoint group rebind failed") 0)
    else some ([], state)
  | .triggerFlightRecorder postEvents =>
    some ([], { state with
      flightPostRemaining := postEvents, flightTriggered := true })
  | .setFrameIndex frame => some ([], { state with frameIndex := frame })
  | .setGuestWorksetEpoch epoch => some ([], { state with guestWorksetEpoch := epoch })
  | .record progressPending => state.record host progressPending
  | .finishRecorder report =>
    if state.recorder.phase = .finishing then
      some (state.finishRecorder host report)
    else none
  | .beginReload profile profileJson monotonicNs =>
    if state.isIdle && state.profile.revision < profile.revision then
      some ([], state.beginReload profile profileJson monotonicNs)
    else none
  | .finishReload armed monotonicNs =>
    match state.session with
    | .reloading profile profileJson =>
      if state.recorder.phase = .finished then
        some (state.finishReload host profile profileJson armed monotonicNs)
      else none
    | _ => none
  | .endReload monotonicNs =>
    if state.session = .reloaded then
      some ([], { state.emitMarker (text "profile.reload.end")
          state.profile.revision monotonicNs with session := .running })
    else none
  | .beginStop => if state.isIdle then some ([], state.quiesce .stopping) else none
  | .finishStop =>
    if state.session = .stopping ∧ state.recorder.phase = .finished then
      some ([], state.finishStop host)
    else none

end CaptureRuntime
end Savor.Probe

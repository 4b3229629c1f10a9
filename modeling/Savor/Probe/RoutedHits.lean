import Savor.Probe.ProbeDecoding

/-!
# Retention

What the recorder keeps back of the events that it takes: flight recorders keep
the latest events until they are triggered, and a probe may ask for its last
events only.
-/

namespace Savor.Probe

open Program (ByteString text)

/-- A flight recorder, and the events before its trigger. -/
structure FlightState where
  definition : FlightRecorderDefinition
  preEvents : List RawProbeEvent := []
  active : Bool := false
  triggerSequence : UInt64 := 0
  postRemaining : UInt32 := 0
  (triggers retriggers completedWindows : UInt64 := 0)

/-- The newest elements, at most this many. -/
def newest {Value : Type} (count : Nat) (values : List Value) : List Value :=
  values.drop (values.length - count)

namespace FlightState

def isMember (state : FlightState) (id : ByteString) : Bool := id ∈ state.definition.memberProbes

/-- Activate a flight recorder: what it emits, and the recorder then. -/
def activate (state : FlightState) (triggerSequence : UInt64)
    (triggerIsMember : Bool) (postOverride : UInt32) : List RawProbeEvent × FlightState :=
  let emitted := if state.active then [] else state.preEvents
  let started :=
    if state.active then { state with retriggers := state.retriggers + 1 }
    else { state with preEvents := [] }
  let postRemaining := max started.postRemaining (max started.definition.postEvents postOverride)
  let active := triggerIsMember || postRemaining ≠ 0
  (emitted, { started with
    triggerSequence, postRemaining, active
    triggers := started.triggers + 1
    completedWindows :=
      if active then started.completedWindows
      else started.completedWindows + 1 })

/-- A member's event: what the flight recorder emits, and the recorder then. -/
def acceptMember (state : FlightState) (event : RawProbeEvent) : List RawProbeEvent × FlightState :=
  if !state.active then
    ([], { state with
      preEvents := newest state.definition.preEvents.toNat (state.preEvents ++ [event]) })
  else
    let postRemaining :=
      if event.captureSequence ≠ state.triggerSequence ∧
          0 < state.postRemaining then state.postRemaining - 1
      else state.postRemaining
    ([event], if postRemaining = 0 then
        { state with
          postRemaining, active := false
          completedWindows := state.completedWindows + 1 }
      else { state with postRemaining })

end FlightState

structure CaptureRetention where
  profile : CaptureProfile
  lastN : List (List RawProbeEvent)
  flightStates : List FlightState

/-- The events that are emitted, and the retention then. -/
abbrev Emitted : Type := List RawProbeEvent × CaptureRetention

variable (retention : CaptureRetention) (event : RawProbeEvent)

namespace CaptureRetention

def create (profile : CaptureProfile) : CaptureRetention where
  profile
  lastN := profile.probes.map fun _ => []
  flightStates := profile.flightRecorders.map fun definition => { definition }

def probeId : ByteString :=
  match retention.profile.probes[event.probeIndex.toNat]? with
  | some probe => probe.id
  | none =>
    if event.probeIndex = syntheticMarkerProbeIndex then event.payload
    else if event.probeIndex = syntheticControlProbeIndex then
      text "control.hit"
    else []

def isTrigger (state : FlightState) (event : RawProbeEvent) : Bool :=
  let id := retention.probeId event
  (event.controlPublished && state.definition.triggerOnControl) ||
    decide (id ∈ state.definition.triggerProbes) ||
    (event.probeIndex = syntheticMarkerProbeIndex && decide (id ∈ state.definition.triggerMarkers))

/-- Activate the flight recorders that an event triggers. -/
def trigger : Emitted :=
  let id := retention.probeId event
  let activated := retention.flightStates.map fun state =>
    if retention.isTrigger state event then
      state.activate event.captureSequence (state.isMember id) 0
    else ([], state)
  (activated.flatMap Prod.fst, { retention with flightStates := activated.map Prod.snd })

/-- The first flight recorder with this member takes its event. -/
def acceptFirst (id : ByteString) (event : RawProbeEvent) :
    List FlightState → Option (List RawProbeEvent × List FlightState)
  | [] => none
  | state :: states =>
    if state.isMember id then
      let taken := state.acceptMember event
      some (taken.1, taken.2 :: states)
    else
      (acceptFirst id event states).map fun taken => (taken.1, state :: taken.2)

/-- The number of last events that a probe asks for. -/
def lastCount : Option Nat :=
  match retention.profile.probes[event.probeIndex.toNat]? with
  | none => none
  | some probe => if probe.sampling.mode = .lastN then some probe.sampling.n.toNat else none

/-- An event that no flight recorder takes. -/
def acceptAlone : Emitted :=
  match retention.lastCount event with
  | none => ([event], retention)
  | some count =>
    ([], { retention with
      lastN := retention.lastN.modify event.probeIndex.toNat
        fun retained => newest count (retained ++ [event]) })

def accept : Emitted :=
  let triggered := retention.trigger event
  let after := triggered.2
  match acceptFirst (after.probeId event) event after.flightStates with
  | some (emitted, flightStates) => (triggered.1 ++ emitted, { after with flightStates })
  | none =>
    let alone := after.acceptAlone event
    (triggered.1 ++ alone.1, alone.2)

def triggerAll (postOverride : UInt32) (triggerSequence : UInt64) : Emitted :=
  let activated := retention.flightStates.map fun state =>
    state.activate triggerSequence false postOverride
  (activated.flatMap Prod.fst, { retention with flightStates := activated.map Prod.snd })

/-- Emit the last events of all probes, sorted by their sequences. -/
def finish (sorting : Library.UnstableSort) : Emitted :=
  (sorting.sort (compareOn RawProbeEvent.captureSequence) retention.lastN.flatten,
    { retention with lastN := retention.lastN.map fun _ => [] })

end CaptureRetention

/-!
## Routed hits

What the processor's thread does at a hit, one act after the other.  Between two
acts the other threads may do something.
-/

/-- What the stop router says of a hit. -/
structure ProbeRoutedHitContext where
  (routedSequence sampleSnapshotId guestWorksetEpoch : UInt64 := 0)
  samples : List ProbeRoutedHitSample := []
  activeForegroundWake : Bool := false

/-- A probe that is sampled at a hit, and whether its predicate, its window and
its sampling policy accept the event. -/
structure SampledHit where
  probeIndex : Nat
  hitCount : UInt64
  accepted : Bool

/-- A hit of a program counter. -/
structure RoutedPc where
  pc : UInt32
  context : ProbeRoutedHitContext := {}
  guest : Guest
  monotonicNs : UInt64 := 0
  /-- Whether the frame clock ticks here. -/
  frameClock : Bool := false
  /-- The probes whose watchpoint the registry refuses. -/
  refusedWatchpoints : List Nat := []
  sampled : List SampledHit := []

/-- An access to memory. -/
structure RoutedMemory where
  (pc address size : UInt32)
  value : UInt64
  (write postWrite : Bool)
  context : ProbeRoutedHitContext := {}
  guest : Guest
  monotonicNs : UInt64 := 0
  sampled : List SampledHit := []

/-- An act of the processor's thread that may touch the capture. -/
inductive CpuAct
  | frameMarker (event : RawProbeEvent)
  | addressResolution (probe : ProbeDefinition) (event : RawProbeEvent)
  | bindingFailure (reason : ByteString)
  /-- A probe is sampled, and its event is accepted or not. -/
  | sampled (accepted : Option (ProbeDefinition × RawProbeEvent))
  | control (event : RawProbeEvent)

/-- `routed_or_local_sequence`: the sequence, and the next one then. -/
def routedOrLocalSequence (next routed : UInt64) : UInt64 × UInt64 :=
  if routed = 0 then (next, next + 1)
  else (routed, if next ≤ routed then routed + 1 else next)

variable (profile : CaptureProfile) (stamp : ProbeHit)

/-- The marker that ends a frame. -/
def frameMarkerEvent : RawProbeEvent where
  captureSequence := stamp.captureSequence
  monotonicNs := stamp.monotonicNs
  frameIndex := stamp.frameIndex
  guestWorksetEpoch := stamp.guestWorksetEpoch
  profileRevision := profile.revision
  snapshotId := stamp.snapshotId
  probeIndex := syntheticMarkerProbeIndex
  kind := ProbeKind.marker.code
  payload := text "frame.end"

/-- The record of an address that was computed, or not. -/
def addressResolutionEvent (probeIndex : Nat) (evaluated : Option UInt32)
    (field : RawField) (payload : ByteString) : RawProbeEvent where
  captureSequence := stamp.captureSequence
  monotonicNs := stamp.monotonicNs
  frameIndex := stamp.frameIndex
  guestWorksetEpoch := stamp.guestWorksetEpoch
  profileRevision := profile.revision
  snapshotId := stamp.snapshotId
  probeIndex := UInt32.ofNat probeIndex
  pc := stamp.pc
  address := evaluated.getD 0
  kind := ProbeKind.marker.code
  addressResolution := true
  fields := [field]
  payload := payload

/-- The record of a wake that no probe has published. -/
def controlEvent (kind : ProbeKind) : RawProbeEvent where
  captureSequence := stamp.captureSequence
  monotonicNs := stamp.monotonicNs
  frameIndex := stamp.frameIndex
  guestWorksetEpoch := stamp.guestWorksetEpoch
  profileRevision := profile.revision
  snapshotId := stamp.snapshotId
  probeIndex := syntheticControlProbeIndex
  pc := stamp.pc
  address := stamp.address
  size := stamp.size
  value := stamp.value
  kind := kind.code
  controlPublished := true

/-- The trace of an address program is recorded if the policy asks for it. -/
def resolutionActs (guest : Guest) (probeIndex : Nat) (probe : ProfileProbe) : List CpuAct :=
  let evaluated := evaluateAddressProgram guest probe.addressProgram
  if probe.addressTrace.asks evaluated.2 then
    match appendAddressTrace 0 [] 0xffff evaluated.2 with
    | none => []
    | some (field, payload) =>
      [.addressResolution probe.toProbeDefinition
        (addressResolutionEvent profile stamp probeIndex evaluated.1 field payload)]
  else []

/-- A watchpoint that the registry may refuse. -/
def watchpointActs (refused : List Nat) (probeIndex : Nat) : List CpuAct :=
  if probeIndex ∈ refused then
    [.bindingFailure (text "dynamic watchpoint range is invalid")]
  else []

/-- A probe that becomes active at the program counter. -/
def activationActs (guest : Guest) (refused : List Nat) (probeIndex : Nat)
    (probe : ProfileProbe) : List CpuAct :=
  if probe.activateOnPc ≠ some stamp.pc ∨ probe.kind ≠ .memory then []
  else if probe.addressProgram = [] then watchpointActs refused probeIndex
  else
    resolutionActs profile stamp guest probeIndex probe ++
      if (evaluateAddressProgram guest probe.addressProgram).1.isSome then
        watchpointActs refused probeIndex
      else
        [.bindingFailure (text "dynamic watchpoint address derivation failed")]

/-- The probes that are sampled, and whether one of them has published the
wake. -/
def sampledActs (guest : Guest) (wake : Bool) : Bool → List SampledHit → List CpuAct × Bool
  | requested, [] => ([], requested)
  | requested, hit :: hits =>
    match profile.probes[hit.probeIndex]? with
    | none => sampledActs guest wake requested hits
    | some probe =>
      if !hit.accepted then
        let rest := sampledActs guest wake requested hits
        (.sampled none :: rest.1, rest.2)
      else
        let control := wake && !requested && probe.subscriptions.control
        let event := sampleProbe profile.sampled hit.probeIndex
          probe.toProbeDefinition guest
          { stamp with hitCount := hit.hitCount, controlPublished := control }
        let rest := sampledActs guest wake (requested || control) hits
        (.sampled (some (probe.toProbeDefinition, event)) :: rest.1, rest.2)

/-- The probes that are sampled, and the record of a wake that none of them has
published. -/
def wakeActs (guest : Guest) (wake : Bool) (kind : ProbeKind)
    (hits : List SampledHit) : List CpuAct :=
  let sampled := sampledActs profile stamp guest wake false hits
  if wake && !sampled.2 then
    sampled.1 ++ [.control (controlEvent profile stamp kind)]
  else sampled.1

/-- `process_routed_pc`, act by act. -/
def RoutedPc.acts (hit : RoutedPc) : List CpuAct :=
  (if hit.frameClock then [.frameMarker (frameMarkerEvent profile stamp)]
    else []) ++
  (profile.probes.mapIdx (activationActs profile stamp hit.guest hit.refusedWatchpoints)).flatten ++
  wakeActs profile stamp hit.guest hit.context.activeForegroundWake .pc hit.sampled

/-- `process_routed_memory`, act by act. -/
def RoutedMemory.acts (hit : RoutedMemory) : List CpuAct :=
  wakeActs profile stamp hit.guest hit.context.activeForegroundWake .memory hit.sampled

end Savor.Probe


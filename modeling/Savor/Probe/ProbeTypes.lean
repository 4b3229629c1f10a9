import Savor.Capture.EventCoding

/-!
# Probes

What a profile asks for at a probe, and the raw event of a hit: its fields in a
row, and one payload that the larger ones share.
-/

namespace Savor.Probe

open Program (ByteString)

/-! ## Profiles -/

inductive ProbeKind
  | pc
  | memory
  | marker
  deriving DecidableEq

namespace ProbeKind

/-- The underlying value. -/
def code : ProbeKind → UInt8
  | .pc => 1
  | .memory => 2
  | .marker => 3

end ProbeKind

/-- Where a sample is read from. -/
inductive SampleKind
  | gpr
  | memory
  | registerMemory
  | addressProgram
  | linkedList
  | constant
  | stackTrace
  | routedSample
  deriving DecidableEq

namespace SampleKind

/-- The underlying value. -/
def code : SampleKind → UInt8
  | .gpr => 1
  | .memory => 2
  | .registerMemory => 3
  | .addressProgram => 4
  | .linkedList => 5
  | .constant => 6
  | .stackTrace => 7
  | .routedSample => 8

end SampleKind

inductive SampleWidth
  | u8
  | u16
  | u32
  | u64
  deriving DecidableEq

namespace SampleWidth

/-- The underlying value, which is the number of bytes. -/
def code : SampleWidth → UInt8
  | .u8 => 1
  | .u16 => 2
  | .u32 => 4
  | .u64 => 8

end SampleWidth

/-- When address steps are recorded. -/
inductive AddressTracePolicy
  | off
  | onFailure
  | always
  deriving DecidableEq

/-- The flags of a subscription. -/
structure Subscription where
  (capture progress control : Bool := false)
  deriving DecidableEq

structure LinkedListField where
  name : ByteString
  offset : Int32 := 0
  width : SampleWidth := .u32
  deriving DecidableEq

/-- What a probe reads at a hit. -/
structure SampleDefinition where
  name : ByteString := []
  kind : SampleKind := .memory
  width : SampleWidth := .u32
  address : UInt32 := 0
  baseRegister : UInt8 := 0
  offset : Int32 := 0
  constant : UInt64 := 0
  routedSampleDescriptorId : UInt32 := 0
  addressProgram : ByteString := []
  trace : AddressTracePolicy := .off
  addressProvided : Bool := false
  (maxNodes maxFrames : UInt32 := 0)
  nextOffset : Int32 := 0
  linkedListFields : List LinkedListField := []
  deriving DecidableEq

/-- A probe, as sampling sees it. -/
structure ProbeDefinition where
  id : ByteString
  kind : ProbeKind := .pc
  subscriptions : Subscription := { capture := true }
  addressTrace : AddressTracePolicy := .off
  samples : List SampleDefinition := []
  deriving DecidableEq

structure Profile where
  revision : UInt64 := 1
  probes : List ProbeDefinition := []

/-! ## Raw events -/

def maximumRawFields : Nat := 1536

def rawPayloadBytes : Nat := 24 * 1024

/-- The kind of a field that is an address trace. -/
def rawFieldAddressTrace : UInt8 := 0xfe

def syntheticControlProbeIndex : UInt32 := 0xffffffff

def syntheticMarkerProbeIndex : UInt32 := 0xfffffffe

/-- Whether a field could be read. -/
inductive RawFieldStatus
  | present
  | missing
  | truncated
  | invalid

/-- The cast to the status of a captured field. -/
def RawFieldStatus.carried : RawFieldStatus → Capture.FieldStatus
  | .present => .present
  | .missing => .missing
  | .truncated => .truncated
  | .invalid => .invalid

/-- A field, with its part of the payload. -/
structure RawField where
  sampleIndex : Nat := 0
  kind : UInt8 := 0
  status : RawFieldStatus := .present
  value : UInt64 := 0
  (payloadOffset payloadSize : Nat := 0)

/-- The field count and the payload size are those of the lists. -/
structure RawProbeEvent where
  (captureSequence monotonicNs frameIndex guestWorksetEpoch : UInt64 := 0)
  (profileRevision snapshotId hitCount value : UInt64 := 0)
  (probeIndex pc address size : UInt32 := 0)
  kind : UInt8 := 0
  (controlPublished addressResolution : Bool := false)
  fields : List RawField := []
  payload : ByteString := []

/-! ## The guest -/

/-- What a hit can see of the guest. -/
structure Guest where
  gpr : Nat → UInt32
  linkRegister : UInt32
  /-- `read_guest_value`. -/
  readGuestValue : UInt32 → SampleWidth → Option UInt64
  /-- The resolver of base keys, if there is one. -/
  baseKeyResolver : Option (UInt16 → Option UInt32) := none

/-- Read a pointer. -/
def Guest.readPointer (guest : Guest) (address : UInt32) : Option UInt32 :=
  (guest.readGuestValue address .u32).map UInt64.toUInt32

/-- An address and an offset, added as signed numbers and cut to 32 bits. -/
def displaced (address : UInt32) (offset : Int32) : UInt32 := address + offset.toUInt32

/-!
## Capture profiles

A whole profile: its limits, its probes with all that they are authored with, its
windows and its flight recorders.
-/

open Program (ByteString text)

inductive MemoryAccess
  | read
  | write
  | access
  deriving DecidableEq

/-- Which hits of a probe count. -/
inductive SamplingMode
  | everyHit
  | everyN
  | firstN
  | changedOnly
  | hitRanges
  | lastN
  | burst
  deriving DecidableEq

/-- The operations of a hit predicate. -/
inductive PredicateOp
  | pushConstant
  | pushPc
  | pushLr
  | pushGpr
  | pushHitCount
  | pushSample
  | pushCaller
  | equal
  | notEqual
  | less
  | lessEqual
  | greater
  | greaterEqual
  | maskEqual
  | logicalAnd
  | logicalOr
  | logicalNot
  deriving DecidableEq

structure PredicateInstruction where
  op : PredicateOp := .pushConstant
  (operand operand2 : UInt64 := 0)
  deriving DecidableEq

structure SamplingPolicy where
  mode : SamplingMode := .everyHit
  n : UInt64 := 1
  hitRanges : List (UInt64 × UInt64) := []
  (burstPeriod burstLength : UInt64 := 1)
  deriving DecidableEq

structure ProbeSymbol where
  (name function checkpoint : ByteString := [])
  deriving DecidableEq

/-- A probe with all that it is authored with. -/
structure ProfileProbe extends ProbeDefinition where
  group : ByteString := []
  (address size : UInt32 := 0)
  memoryAccess : MemoryAccess := .write
  activateOnPc : Option UInt32 := none
  maxHits : Option UInt64 := none
  (oneShot ownsRngDraw : Bool := false)
  progressRecord : Bool := true
  frameClock : Bool := false
  (progressFormatter windowId : ByteString := [])
  sampling : SamplingPolicy := {}
  predicate : List PredicateInstruction := []
  addressProgram : ByteString := []
  symbol : ProbeSymbol := {}
  deriving DecidableEq

/-- Events to keep around a trigger. -/
structure FlightRecorderDefinition where
  id : ByteString := []
  memberProbes : List ByteString := []
  (preEvents postEvents : UInt32 := 0)
  (triggerProbes triggerMarkers : List ByteString := [])
  triggerOnControl : Bool := false
  deriving DecidableEq

/-- When a window opens and closes. -/
structure WindowDefinition where
  (id openProbe closeProbe openMarker closeMarker : ByteString := [])
  (openOnControl closeOnControl : Bool := false)
  (openFrame closeFrame : Option UInt64 := none)
  (eventLimit frameLimit : UInt64 := 0)
  initiallyOpen : Bool := false
  deriving DecidableEq

structure ProfileLimits where
  queueBytes : UInt64 := 64 * 1024 * 1024
  maxEvents : UInt32 := 4096
  progressEvents : UInt32 := 256
  chunkEvents : UInt32 := 1024
  deriving DecidableEq

/-- All that a capture is asked for. -/
structure CaptureProfile where
  schema : ByteString := text "savor.capture.profile/1"
  name : ByteString := []
  revision : UInt64 := 1
  expectedModuleSha256 : ByteString := []
  battleProgressEnabled : Bool := true
  limits : ProfileLimits := {}
  probes : List ProfileProbe := []
  windows : List WindowDefinition := []
  flightRecorders : List FlightRecorderDefinition := []
  deriving DecidableEq

/-- What sampling a hit and decoding its event use of a profile. -/
def CaptureProfile.sampled (profile : CaptureProfile) : Profile where
  revision := profile.revision
  probes := profile.probes.map ProfileProbe.toProbeDefinition

/-- Whether events of a probe go to the capture. -/
def Subscription.capturing (subscriptions : Subscription) : Bool :=
  subscriptions.capture || subscriptions.progress

end Savor.Probe


import Mathlib.Data.List.Dedup
import Mathlib.Data.Prod.Lex
import Savor.StopPoints.PhysicalStopPointManager

/-!
# Subscription groups and their dispatch

A registered group keeps one record for each of its subscriptions.  A dispatch
snapshot is the immutable, sorted list of the records that a native hit is
matched against, together with the physical plan that makes them hit.
-/

namespace Savor.StopPoints

open Program

/-- The name of the gates of one subscription record.  Records of different
registrations have different gates, and a copied record shares them. -/
abbrev GateId := Nat

/-- The gates that snapshots and groups share: `OneShotGate::fired` and
`ForegroundOccurrenceGate::observed`.  Gates from `next` on are not made yet. -/
structure Gates where
  fired : GateId → Bool := fun _ => false
  observed : GateId → UInt32 := fun _ => 0
  next : GateId := 0

variable (gates : Gates)

namespace Gates

/-- Set a one-shot gate. -/
def fire (gate : GateId) : Gates :=
  { gates with
    fired := fun other => if other = gate then true else gates.fired other }

/-- Count one more occurrence. -/
def observe (gate : GateId) : Gates :=
  { gates with
    observed := fun other =>
      if other = gate then gates.observed gate + 1 else gates.observed other }

end Gates

structure SubscriptionRecord where
  definition : StopSubscriptionDefinition
  ordinal : Nat
  gate : GateId

namespace SubscriptionRecord

/-- The one-shot gate, which only one-shot subscriptions have. -/
def oneShot (record : SubscriptionRecord) : Option GateId :=
  if record.definition.lifetime = .oneShot then some record.gate else none

/-- The one-shot gate is there and has fired. -/
def hasFired (record : SubscriptionRecord) : Bool := record.oneShot.any gates.fired

end SubscriptionRecord

/-- The drop counter of a group is the one of its source. -/
structure GroupRecord where
  id : StopSubscriptionGroupId
  source : StopSourceIdentity
  registrationSequence : UInt64
  acquisitionEpoch : WorksetEpoch
  subscriptions : List SubscriptionRecord

/-- A subscription of a group as a snapshot lists it. -/
structure DispatchEntry where
  sourceId : StopSourceId
  consumerName : ByteString
  groupId : StopSubscriptionGroupId
  registrationSequence : UInt64
  subscription : SubscriptionRecord

namespace DispatchEntry

variable (entry : DispatchEntry)

abbrev subscriptionId : StopSubscriptionId := entry.subscription.definition.id

abbrev point : StopPointSpec := entry.subscription.definition.point

abbrev route : StopSubscriptionRoute := entry.subscription.definition.route

abbrev gate : GateId := entry.subscription.gate

abbrev oneShot : Option GateId := entry.subscription.oneShot

abbrev hasFired (gates : Gates) : Bool := entry.subscription.hasFired gates

/-- Priority descending, registration, ordinal. -/
def deliveryKey : Int ×ₗ Nat ×ₗ Nat :=
  toLex (-entry.subscription.definition.priority.toInt,
    toLex (entry.registrationSequence.toNat, entry.subscription.ordinal))

/-- The order of the entries of a snapshot: the stage of the route first. -/
def dispatchKey : Nat ×ₗ Int ×ₗ Nat ×ₗ Nat := toLex (entry.route.stage, entry.deliveryKey)

end DispatchEntry

structure DispatchSnapshot where
  generation : StopDispatchGeneration
  physicalGeneration : PhysicalPlanGeneration
  worksetEpoch : WorksetEpoch
  physicalPlan : PhysicalStopPointPlan := {}
  entries : List DispatchEntry := []

/-- The ports of a router that do not change: whether it has a CPU evaluator,
and which descriptors its CPU observer recognizes, if there is one. -/
structure StopPointPorts where
  hasEvaluator : Bool
  recognizesDescriptor : Option (UInt32 → Bool)

namespace GroupRecord

/-- `GroupHasForegroundWait` -/
def hasForegroundWait (group : GroupRecord) : Bool :=
  group.subscriptions.any (·.definition.route.isForeground)

/-- The registration that a group belongs to: its id and its number. -/
def registration (group : GroupRecord) : StopSubscriptionGroupId × UInt64 :=
  (group.id, group.registrationSequence)

def consumerName (group : GroupRecord) : ByteString :=
  if group.source.diagnosticLabel.isEmpty then group.source.stableName
  else group.source.diagnosticLabel ++ text " [" ++ group.source.stableName ++ text "]"

/-- The subscriptions of a group as dispatch entries. -/
def entries (group : GroupRecord) : List DispatchEntry :=
  group.subscriptions.map fun subscription =>
    { sourceId := group.source.id
      consumerName := group.consumerName
      groupId := group.id
      registrationSequence := group.registrationSequence
      subscription }

end GroupRecord

/-- The groups of a router in the order of their ids: `std::map`. -/
abbrev Groups := List GroupRecord

variable (groups : Groups)

namespace Groups

def find (groups : Groups) (id : StopSubscriptionGroupId) : Option GroupRecord :=
  List.find? (fun group => group.id = id) groups

/-- `emplace` of a new id, assignment to one that is there. -/
def insert (group : GroupRecord) : Groups → Groups
  | [] => [group]
  | other :: rest =>
    if group.id.value < other.id.value then group :: other :: rest
    else if group.id = other.id then group :: rest
    else other :: insert group rest

def erase (id : StopSubscriptionGroupId) : Groups := List.filter (fun group => group.id ≠ id) groups

/-- All subscriptions, fired or not. -/
def entries (groups : Groups) : List DispatchEntry := List.flatMap GroupRecord.entries groups

/-- The subscriptions that did not fire. -/
def liveEntries : List DispatchEntry := groups.entries.filter fun entry => !entry.hasFired gates

end Groups

theorem SubscriptionRecord.hasFired_mono {gates after : Gates} {record : SubscriptionRecord}
    (keeps : ∀ gate, gates.fired gate = true → after.fired gate = true)
    (fired : record.hasFired gates = true) : record.hasFired after = true := by
  unfold hasFired at fired ⊢
  rw [Option.any_eq_true] at fired ⊢
  obtain ⟨gate, named, fired⟩ := fired
  exact ⟨gate, named, keeps gate fired⟩

/-- Fewer subscriptions are live later. -/
theorem Groups.liveEntries_subset {gates after : Gates} {groups : Groups}
    (keeps : ∀ gate, gates.fired gate = true → after.fired gate = true) :
    groups.liveEntries after ⊆ groups.liveEntries gates := by
  intro entry member
  unfold liveEntries at member ⊢
  rw [List.mem_filter, Bool.not_eq_true'] at member ⊢
  refine ⟨member.1, ?_⟩
  by_contra fired
  rw [Bool.not_eq_false] at fired
  have later : entry.hasFired after = true := SubscriptionRecord.hasFired_mono keeps fired
  rw [member.2] at later
  cases later

/-- `ValidateDefinition`, the check of the point itself. -/
def StopPointSpec.validate : StopPointSpec → Option StopPointError
  | .pc address =>
    if address = 0 then
      some (stopError .invalidArgument "PC stop address must be nonzero")
    else none
  | .memory point =>
    if point.address = 0 ∨ rangeEnd point.address point.size = none then
      some (stopError .invalidArgument "Memory stop range is invalid")
    else none
  | .synthetic identity =>
    if identity = 0 then
      some (stopError .invalidArgument "Synthetic stop identity must be nonzero")
    else none

/-- `ValidateDefinition`, the checks of a foreground wait. -/
def StopSubscriptionDefinition.validateForeground (subscription : StopSubscriptionDefinition) :
    Option StopPointError :=
  match subscription.route with
  | .foreground wait =>
    if wait.requiredOccurrences = 0 then
      some (stopError .invalidArgument "Foreground occurrence count must be nonzero")
    else if wait.sampleExpectation.any fun expectation =>
        expectation.descriptorId = 0 ||
          expectation.descriptorId ∉ subscription.sampleDescriptorIds then
      some (stopError .invalidArgument
        "Foreground sample expectation requires its routed sample descriptor")
    else none
  | _ => none

/-- `ValidateDefinition`, the loop over the subscriptions with the ids and
sample ids seen so far. -/
def validateSubscriptions (ports : StopPointPorts) :
    List StopSubscriptionId → List UInt32 → List StopSubscriptionDefinition → Option StopPointError
  | _, _, [] => none
  | subscriptionIds, sampleIds, subscription :: rest =>
    if !subscription.id.isSet then
      some (stopError .invalidArgument "Subscription ID must be nonzero")
    else if subscription.id ∈ subscriptionIds then
      some (stopError .invalidArgument "Subscription IDs must be unique in a group")
    else if subscription.consumer = none then
      some (stopError .invalidArgument "Every stop subscription requires a consumer")
    else if (subscription.qualificationId ≠ 0 ∨
        subscription.sampleDescriptorIds ≠ []) ∧ !ports.hasEvaluator then
      some (stopError .invalidArgument "Qualified or sampled subscriptions require a CPU evaluator")
    else if subscription.route.cpuObserverDescriptor ≠ 0 ∧
        !(ports.recognizesDescriptor.any (· subscription.route.cpuObserverDescriptor)) then
      some (stopError .invalidArgument
        "CPU observer descriptor is not registered by the frozen trusted observer port")
    else
      let sampleIds := (sampleIds ++ subscription.sampleDescriptorIds).dedup
      if subscription.validateForeground.isSome then
        subscription.validateForeground
      else if subscription.sampleDescriptorIds.length > kMaxRoutedHitSamples
      then
        some (stopError .invalidArgument "A subscription exceeds the hit-time sample capacity")
      else if 0 ∈ subscription.sampleDescriptorIds then
        some (stopError .invalidArgument "Sample descriptor IDs must be nonzero")
      else if sampleIds.length > kMaxRoutedHitSamples then
        some (stopError .invalidArgument
          "A subscription group exceeds the unique hit-time sample capacity")
      else if subscription.route.lacksHandlerKey then
        some (stopError .invalidPolicy
          "Trusted interruption requests require a non-empty handler key")
      else
        match subscription.point.validate with
        | some error => some error
        | none => validateSubscriptions ports (subscription.id :: subscriptionIds) sampleIds rest

/-- `ValidateDefinition` -/
def StopSubscriptionGroupDefinition.validate (ports : StopPointPorts)
    (definition : StopSubscriptionGroupDefinition) : Option StopPointError :=
  if !definition.id.isSet then
    some (stopError .invalidArgument "Subscription group ID must be nonzero")
  else if !definition.source.id.isSet then
    some (stopError .invalidArgument "Stop source ID must be nonzero")
  else if definition.source.stableName.isEmpty then
    some (stopError .invalidArgument "Stop source stable name is required")
  else if definition.subscriptions.isEmpty then
    some (stopError .invalidArgument "A subscription group cannot be empty")
  else if definition.subscriptions.length > kMaxLogicalStopSubscriptions then
    some (stopError .invalidArgument "A subscription group exceeds the bounded logical capacity")
  else validateSubscriptions ports [] [] definition.subscriptions

/-- The records of a list of subscriptions, with fresh gates. -/
def makeSubscriptionRecords :
    GateId → Nat → List StopSubscriptionDefinition → List SubscriptionRecord
  | _, _, [] => []
  | gate, ordinal, definition :: rest =>
    ⟨definition, ordinal, gate⟩ :: makeSubscriptionRecords (gate + 1) (ordinal + 1) rest

/-- `MakeGroupRecord`, with the gates it makes. -/
def makeGroupRecord (definition : StopSubscriptionGroupDefinition)
    (registrationSequence : UInt64) (acquisitionEpoch : WorksetEpoch) : GroupRecord × Gates :=
  ({ id := definition.id
     source := definition.source
     registrationSequence
     acquisitionEpoch
     subscriptions := makeSubscriptionRecords gates.next 0 definition.subscriptions },
    { gates with next := gates.next + definition.subscriptions.length })

def buildPhysicalPlan : PhysicalStopPointPlan :=
  .ofPoints ((groups.liveEntries gates).map (·.point))

/-- The sort of a snapshot. -/
def sortEntries (entries : List DispatchEntry) : List DispatchEntry :=
  entries.insertionSort fun lhs rhs => lhs.dispatchKey ≤ rhs.dispatchKey

def buildSnapshot (epoch : WorksetEpoch) (generation : StopDispatchGeneration)
    (physicalGeneration : PhysicalPlanGeneration) : DispatchSnapshot where
  generation := generation
  physicalGeneration := physicalGeneration
  worksetEpoch := epoch
  physicalPlan := buildPhysicalPlan gates groups
  entries := sortEntries (groups.liveEntries gates)

/-- The hits against which the capacity of a snapshot is checked for a point. -/
def StopPointSpec.capacityContexts : StopPointSpec → List StopPointCpuContext
  | .pc address => [{ path := .jit, pc := address }]
  | .memory point =>
    (if point.access ≠ .write then
      [{ path := .memcheck, address := point.address, size := 1,
         write := false }] else []) ++
    (if point.access ≠ .read then
      [{ path := .memcheck, address := point.address, size := 1,
         write := true }] else [])
  | .synthetic identity => [{ path := .synthetic, syntheticIdentity := identity }]

namespace DispatchSnapshot

def validateContext (snapshot : DispatchSnapshot) (context : StopPointCpuContext) :
    Option StopPointError :=
  let matching := snapshot.entries.filter (·.point.pointMatches context)
  let samples := matching.flatMap (·.subscription.definition.sampleDescriptorIds)
  let observers := (matching.map (·.route.cpuObserverDescriptor)).filter (· ≠ 0)
  if matching.length > kMaxStopDeliveriesPerHit then
    some (stopError .invalidArgument "A physical hit can exceed the fixed delivery capacity")
  else if samples.dedup.length > kMaxRoutedHitSamples then
    some (stopError .invalidArgument "A physical hit can exceed the fixed sample capacity")
  else if observers.dedup.length > kMaxCpuObserversPerHit then
    some (stopError .invalidArgument "A physical hit can exceed the trusted observer capacity")
  else none

/-- `ValidateSnapshotMatchCapacity`: only accesses of one byte are checked. -/
def validateMatchCapacity (snapshot : DispatchSnapshot) : Option StopPointError :=
  (snapshot.entries.flatMap (·.point.capacityContexts)).findSome? snapshot.validateContext

end DispatchSnapshot

/-- What `ValidateCandidate` has seen so far. -/
structure CandidateScan where
  foregroundGroup : Option StopSubscriptionGroupId := none
  controlOwners : List (Bool × StopPointSpec) := []
  subscriptionIds : List StopSubscriptionId := []

namespace CandidateScan

/-- One subscription of a candidate. -/
def subscription (scan : CandidateScan) (record : SubscriptionRecord) :
    Except StopPointError CandidateScan :=
  let foreground := record.definition.route.isForeground
  let interruption := record.definition.route.isInterruption
  let point := record.definition.point
  let subscriptionIds := record.definition.id :: scan.subscriptionIds
  if record.definition.id ∈ scan.subscriptionIds then
    .error (stopError .invalidArgument "Subscription IDs must be unique across active groups")
  else if foreground || interruption then
    if scan.controlOwners.any fun existing =>
        existing.2.controlPointsOverlap point && (existing.1 != foreground || !foreground) then
      .error (stopError .controlOwnershipConflict
        "A stop point cannot be owned by both foreground waiting and trusted interruption, or by multiple interruption requests")
    else
      .ok { scan with
        subscriptionIds
        controlOwners := scan.controlOwners ++ [(foreground, point)] }
  else .ok { scan with subscriptionIds }

/-- One group of a candidate. -/
def group (scan : CandidateScan) (group : GroupRecord) : Except StopPointError CandidateScan :=
  if group.hasForegroundWait then
    if scan.foregroundGroup.any (· ≠ group.id) then
      .error (stopError .foregroundWaitAlreadyRegistered
        "Only one foreground-wait group may be active")
    else
      group.subscriptions.foldlM subscription { scan with foregroundGroup := some group.id }
  else group.subscriptions.foldlM subscription scan

end CandidateScan

def validateCandidate : Option StopPointError :=
  match List.foldlM CandidateScan.group {} groups with
  | .error error => some error
  | .ok _ =>
    if groups.entries.length > kMaxLogicalStopSubscriptions then
      some (stopError .invalidArgument "Active subscriptions exceed the bounded logical capacity")
    else none

def currentPointMatchesDefinition (current : RoutedStopEvent)
    (definition : StopSubscriptionGroupDefinition) : Bool :=
  current.identity.worksetEpoch.isSet &&
    definition.subscriptions.any fun subscription =>
      subscription.qualificationId = 0 &&
        subscription.point.pointMatchesEvidence current.evidence &&
        subscription.sampleDescriptorIds.all current.hasSample

/-- `RemoveFiredOneShotsCandidate`: the groups without the fired one-shot
subscriptions, the groups that ended, and whether anything changed. -/
structure FiredOneShotRemoval where
  candidate : Groups
  endedGroups : List (StopSubscriptionGroupId × UInt64)
  changed : Bool

def removeFiredOneShotsCandidate : FiredOneShotRemoval :=
  let trimmed : Groups := groups.map fun group =>
    { group with
      subscriptions := group.subscriptions.filter (!·.hasFired gates) }
  { candidate := trimmed.filter (!·.subscriptions.isEmpty)
    endedGroups := (trimmed.filter (·.subscriptions.isEmpty)).map
      fun group => (group.id, group.registrationSequence)
    changed := groups.any fun group => group.subscriptions.any (·.hasFired gates) }

/-!
## The native side of a stop

What the CPU thread does with a hit before it publishes a packet: it matches the
hit against the published snapshot, qualifies and samples the matching entries,
claims the one-shot subscriptions, counts the foreground occurrences and runs
the CPU observers.
-/

variable (packet : NativePacket)

/-- What the CPU evaluator and the CPU observer answer during a hit.  They are
asked for the qualification of a subscription, for a sample and for an
observation at most once each. -/
structure NativeAnswers where
  qualify : StopSubscriptionId → UInt32 → Bool
  sample : UInt32 → RoutedHitSample
  observe : UInt32 → StopCpuObservationResult

/-- A hit, with the answers it gets. -/
structure NativeHit extends NativeAnswers where
  context : StopPointCpuContext
  evidence : RoutedStopEvidence

namespace NativeHit

variable (answers : NativeAnswers)

/-- `OnPcStop` -/
def ofPcStop (origin : NativeStopOrigin) (pc : UInt32) : NativeHit where
  context := { path := origin.toNativePath, pc }
  evidence := { path := origin.toNativePath, point := .pc pc, hitPc := pc }
  toNativeAnswers := answers

/-- `OnMemoryStop` -/
def ofMemoryStop (pc address size : UInt32) (value : UInt64) (write postWrite : Bool) :
    NativeHit where
  context := { path := .memcheck, pc, address, size, write }
  evidence :=
    { path := .memcheck
      point := .memory { address, size, access := if write then .write else .read }
      hitPc := pc
      value
      postWrite }
  toNativeAnswers := answers

/-- The hit that `InjectSyntheticStop` makes. -/
def ofSyntheticStop (identity : UInt64) : NativeHit where
  context := { path := .synthetic, syntheticIdentity := identity }
  evidence := { path := .synthetic, point := .synthetic identity }
  toNativeAnswers := answers

end NativeHit

/-- The matching entry qualifies: it asks for no qualification, or the evaluator
grants it. -/
def DispatchEntry.qualifies (ports : StopPointPorts) (hit : NativeHit) (entry : DispatchEntry) :
    Bool :=
  entry.subscription.definition.qualificationId = 0 ||
    (ports.hasEvaluator && hit.qualify entry.subscriptionId
      entry.subscription.definition.qualificationId)

/-- The hit is a candidate for the entry. -/
def DispatchEntry.isCandidate (ports : StopPointPorts) (hit : NativeHit) (entry : DispatchEntry) :
    Bool :=
  entry.point.pointMatches hit.context && entry.qualifies ports hit

/-- A packet names the entries of its snapshot themselves, where the source
keeps their indices, and its passive sources by their ids. -/
structure NativePacket where
  snapshot : Option DispatchSnapshot := none
  event : RoutedStopEvent := {}
  entries : List DispatchEntry := []
  terminalEntry : Option DispatchEntry := none
  passiveSources : List StopSourceId := []
  terminal : StopRouteTerminal := .none
  (requestBreak physicalHit : Bool := false)

namespace NativePacket

/-- The packet of a hit that exceeds a fixed capacity. -/
def overflow (packet : NativePacket) : NativePacket :=
  { packet with
    terminal := .overflow
    requestBreak := true
    event := { packet.event with authoritative := true } }

/-- A fired one-shot subscription needs a reconcile before the core resumes. -/
def requireReconcile : NativePacket :=
  { packet with
    event := { packet.event with requiresPhysicalReconcileBeforeResume := true } }

/-- Remember the source of a passive entry, once. -/
def notePassiveSource (entry : DispatchEntry) : NativePacket :=
  if entry.route.isPassive && entry.sourceId ∉ packet.passiveSources then
    { packet with passiveSources := packet.passiveSources ++ [entry.sourceId] }
  else packet

/-- Deliver to a passive entry. -/
def observeEntry (entry : DispatchEntry) : NativePacket :=
  { packet with
    entries := packet.entries ++ [entry]
    event :=
      { packet.event with
        authoritative := packet.event.authoritative || entry.route.isLossless } }

/-- Deliver to the control entry that ends the hit. -/
def deliverControl (entry : DispatchEntry) (terminal : StopRouteTerminal) : NativePacket :=
  { packet with
    entries := packet.entries ++ [entry]
    event :=
      { packet.event with
        authoritative := true
        activeForegroundWait := packet.event.activeForegroundWait || terminal = .foregroundMatched }
    terminal
    terminalEntry := some entry
    requestBreak := true }

/-- Note how often a foreground wait was hit. -/
def countOccurrence (occurrence : UInt32) : NativePacket :=
  { packet with
    event := { packet.event with matchedOccurrenceCount := occurrence } }

/-- The sample that an expectation asks for, when it is available. -/
def expectedSample (expectation : SampleExpectation) : Option RoutedHitSample :=
  (packet.event.samples.find? (·.descriptorId = expectation.descriptorId)).filter (·.available)

/-- The samples have the value that the wait expects. -/
def meetsExpectation (wait : ForegroundStopWait) : Bool :=
  wait.sampleExpectation.all fun expectation =>
    (packet.expectedSample expectation).any (·.value = expectation.expectedValue)

/-- Record what was expected and what was there. -/
def failExpectation (wait : ForegroundStopWait) : NativePacket :=
  match wait.sampleExpectation with
  | none => packet
  | some expectation =>
    { packet with
      event :=
        { packet.event with
          sampleExpectationFailed := true
          expectedSampleDescriptorId := expectation.descriptorId
          expectedSampleValue := expectation.expectedValue
          actualSampleAvailable := (packet.expectedSample expectation).isSome
          actualSampleValue := ((packet.expectedSample expectation).map (·.value)).getD 0 } }

end NativePacket

/-- `NextNonzero`: the number, absent when it is exhausted, and the counter
afterwards. -/
def nextNonzero (counter : UInt64) : UInt64 × UInt64 :=
  (if counter.toNat = UInt64.size - 1 then 0 else counter, counter + 1)

/-- The loop over the entries of a snapshot.  It collects the candidates and
the observers they name, and gives up when one of them is too many. -/
def collectCandidates (ports : StopPointPorts) (hit : NativeHit) :
    List DispatchEntry → List DispatchEntry → List UInt32 →
      Option (List DispatchEntry × List UInt32)
  | [], candidates, observers => some (candidates, observers)
  | entry :: rest, candidates, observers =>
    if !entry.isCandidate ports hit then
      collectCandidates ports hit rest candidates observers
    else if candidates.length ≥ kMaxStopDeliveriesPerHit then none
    else
      let descriptor := entry.route.cpuObserverDescriptor
      if descriptor ≠ 0 ∧ descriptor ∉ observers then
        if observers.length ≥ kMaxCpuObserversPerHit then none
        else
          collectCandidates ports hit rest (candidates ++ [entry]) (observers ++ [descriptor])
      else
        collectCandidates ports hit rest (candidates ++ [entry]) observers

/-- The samples for a list of descriptors, and whether there were too many. -/
def collectSamples (ports : StopPointPorts) (hit : NativeHit) :
    List UInt32 → List RoutedHitSample → List RoutedHitSample × Bool
  | [], samples => (samples, false)
  | descriptor :: rest, samples =>
    if samples.any (·.descriptorId = descriptor) then
      collectSamples ports hit rest samples
    else if samples.length ≥ kMaxRoutedHitSamples then (samples, true)
    else
      let sample : RoutedHitSample :=
        if ports.hasEvaluator then
          { hit.sample descriptor with descriptorId := descriptor }
        else { descriptorId := descriptor }
      collectSamples ports hit rest (samples ++ [sample])

/-- Claim an entry that did not fire: its one-shot gate fires, and a passive
source is remembered. -/
def claimEntry (entry : DispatchEntry) (packet : NativePacket) (gates : Gates) :
    NativePacket × Gates :=
  match entry.oneShot with
  | some gate => (packet.requireReconcile.notePassiveSource entry, gates.fire gate)
  | none => (packet.notePassiveSource entry, gates)

/-- The loop over the candidates, which ends at the first control delivery. -/
def routeCandidates : List DispatchEntry → NativePacket → Gates → NativePacket × Gates
  | [], packet, gates => (packet, gates)
  | entry :: rest, packet, gates =>
    if entry.hasFired gates then routeCandidates rest packet gates
    else
      let claimed := claimEntry entry packet gates
      match entry.route with
      | .passive _ => routeCandidates rest (claimed.1.observeEntry entry) claimed.2
      | .interruption _ => (claimed.1.deliverControl entry .interruptionRequested, claimed.2)
      | .foreground wait =>
        let occurrence := claimed.2.observed entry.gate + 1
        let gates := claimed.2.observe entry.gate
        let packet := claimed.1.countOccurrence occurrence
        if !packet.meetsExpectation wait then
          ((packet.failExpectation wait).deliverControl entry .routingFailure, gates)
        else if occurrence < wait.requiredOccurrences then
          routeCandidates rest packet gates
        else (packet.deliverControl entry .foregroundMatched, gates)

/-- The loop over the CPU observers, with the observers it ran. -/
def runObservers (ports : StopPointPorts) (hit : NativeHit) :
    List UInt32 → NativePacket → NativePacket × List UInt32
  | [], packet => (packet, [])
  | descriptor :: rest, packet =>
    let result : StopCpuObservationResult :=
      if ports.recognizesDescriptor.isNone then .failed
      else hit.observe descriptor
    match result with
    | .failed =>
      ({ packet with
          event := { packet.event with authoritative := true }
          terminal := .routingFailure
          terminalEntry := none
          requestBreak := true }, [descriptor])
    | .observedRequiresReconcile =>
      let packet : NativePacket :=
        { packet.requireReconcile with
          event := { packet.requireReconcile.event with authoritative := true }
          requestBreak := true }
      let ran := runObservers ports hit rest packet
      (ran.1, descriptor :: ran.2)
    | .observed | .ignored =>
      let ran := runObservers ports hit rest packet
      (ran.1, descriptor :: ran.2)

/-- What the construction of a packet leaves behind. -/
structure NativeBuild where
  packet : NativePacket
  gates : Gates
  (nextStopSequence nextSampleSnapshot : UInt64)
  /-- The CPU observers that ran. -/
  observed : List UInt32 := []

/-- The part of `BuildNativePacket` after the candidates were collected. -/
def routeHit (ports : StopPointPorts) (hit : NativeHit) (packet : NativePacket)
    (gates : Gates) (candidates : List DispatchEntry) (observers : List UInt32) :
    NativePacket × Gates × List UInt32 :=
  let samples := collectSamples ports hit
    (candidates.flatMap (·.subscription.definition.sampleDescriptorIds)) []
  let packet : NativePacket := { packet with event := { packet.event with samples := samples.1 } }
  if samples.2 then (packet.overflow, gates, [])
  else
    let routed := routeCandidates candidates packet gates
    let observed := runObservers ports hit observers routed.1
    (observed.1, routed.2, observed.2)

/-- `BuildNativePacket` -/
def buildNativePacket (ports : StopPointPorts)
    (snapshot : Option DispatchSnapshot) (hit : NativeHit) (gates : Gates)
    (nextStopSequence nextSampleSnapshot : UInt64) : NativeBuild :=
  match snapshot with
  | none => { packet := {}, gates, nextStopSequence, nextSampleSnapshot }
  | some snapshot =>
    let packet : NativePacket :=
      { snapshot := some snapshot
        physicalHit := snapshot.physicalPlan.matchesHit hit.context }
    if !packet.physicalHit then
      { packet, gates, nextStopSequence, nextSampleSnapshot }
    else
      let sequence := nextNonzero nextStopSequence
      let sampleSnapshot := nextNonzero nextSampleSnapshot
      if sequence.1 = 0 ∨ sampleSnapshot.1 = 0 then
        { packet := packet.overflow
          gates
          nextStopSequence := sequence.2
          nextSampleSnapshot := sampleSnapshot.2 }
      else
        let packet : NativePacket :=
          { packet with
            event :=
              { identity :=
                  { sequence := ⟨sequence.1⟩
                    sampleSnapshot := ⟨sampleSnapshot.1⟩
                    worksetEpoch := snapshot.worksetEpoch
                    dispatchGeneration := snapshot.generation
                    physicalGeneration := snapshot.physicalGeneration }
                evidence := hit.evidence } }
        let routed :=
          match collectCandidates ports hit snapshot.entries [] [] with
          | none => (packet.overflow, gates, [])
          | some ([], _) => (packet, gates, [])
          | some (candidates, observers) => routeHit ports hit packet gates candidates observers
        { packet := routed.1
          gates := routed.2.1
          nextStopSequence := sequence.2
          nextSampleSnapshot := sampleSnapshot.2
          observed := routed.2.2 }

end Savor.StopPoints


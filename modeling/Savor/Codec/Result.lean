import Savor.Codec.Module

/-!
# The codec of invocations

Dependency locks, runtime profiles, provenance and the invocation that carries
them.  Each is written in a canonical order and read back in that order.
-/

namespace Savor.Program

open Library Library.Wire Codec
open CapabilityPackIdentity
open ArtifactReferenceValue

/-- The lock in another order. -/
structure ProgramDependencyLock.Reorders (lock other : ProgramDependencyLock) : Prop where
  irVersion : other.irVersion = lock.irVersion
  moduleImports : other.moduleImports.Perm lock.moduleImports
  actionImports : other.actionImports.Perm lock.actionImports
  reducerImports : other.reducerImports.Perm lock.reducerImports
  typeImports : other.typeImports.Perm lock.typeImports
  capabilityPacks : other.capabilityPacks.Perm lock.capabilityPacks

/-- The packs of the profile in another order. -/
structure RuntimeProfile.Reorders (profile other : RuntimeProfile) : Prop where
  same : other = { profile with capabilityPacks := other.capabilityPacks }
  capabilityPacks : other.capabilityPacks.Perm profile.capabilityPacks

/-- The artifacts and attributes of the provenance in another order. -/
structure ProgramProvenance.Reorders (provenance other : ProgramProvenance) : Prop where
  requestingComponent : other.requestingComponent = provenance.requestingComponent
  sourceArtifacts : other.sourceArtifacts.Perm provenance.sourceArtifacts
  attributes : other.attributes.Perm provenance.attributes

namespace Codec

variable (sorting : UnstableSort)

def canonicalDependencyLock (lock : ProgramDependencyLock) : ProgramDependencyLock :=
  { lock with
    moduleImports := sorting.sort (compareOn ModuleImportIdentity.key) lock.moduleImports
    actionImports := sorting.sort (compareOn ExactDependencyIdentity.key) lock.actionImports
    reducerImports := sorting.sort (compareOn ExactDependencyIdentity.key) lock.reducerImports
    typeImports := sorting.sort (compareOn SchemaIdentity.key) lock.typeImports
    capabilityPacks := sorting.sort (compareOn key) lock.capabilityPacks }

/-- Neighbours of a sorted lock have the same identity. -/
def hasAdjacentIdentities (lock : ProgramDependencyLock) : Bool :=
  hasAdjacent ModuleImportIdentity.key lock.moduleImports ||
    hasAdjacent ExactDependencyIdentity.key lock.actionImports ||
    hasAdjacent ExactDependencyIdentity.key lock.reducerImports ||
    hasAdjacent SchemaIdentity.key lock.typeImports ||
    hasAdjacent key lock.capabilityPacks

/-- A canonical value is written unless it is rejected. -/
def writeUnless {α : Type} (rejects : α → Bool) (message : String)
    (write : α → Writer) (canonical : α) : Writer :=
  if rejects canonical = true then failWrite .invalidValue message
  else write canonical

def writeDependencyLock (source : ProgramDependencyLock) : Writer :=
  writeUnless hasAdjacentIdentities
    "dependency lock contains duplicate identities"
    (fun lock => do
      writeU32 lock.irVersion
      writeVector writeModuleImport lock.moduleImports
      writeVector writeDependency lock.actionImports
      writeVector writeDependency lock.reducerImports
      writeVector writeSchemaIdentity lock.typeImports
      writeVector writeCapabilityPack lock.capabilityPacks)
    (canonicalDependencyLock sorting source)

def readDependencyLock : Reader ProgramDependencyLock := do
  let irVersion ← readU32
  let moduleImports ← readVector readModuleImport
  let actionImports ← readVector readDependency
  let reducerImports ← readVector readDependency
  let typeImports ← readVector readSchemaIdentity
  let capabilityPacks ← readVector readCapabilityPack
  pure
    { irVersion, moduleImports, actionImports, reducerImports, typeImports
      capabilityPacks }

/-- The order in which a profile is written. -/
def canonicalRuntimeProfile (profile : RuntimeProfile) : RuntimeProfile :=
  { profile with
    capabilityPacks := sorting.sort (compareOn key) profile.capabilityPacks }

def writeRuntimeProfile (source : RuntimeProfile) : Writer :=
  writeUnless
    (fun profile => hasAdjacent key profile.capabilityPacks)
    "runtime profile contains duplicate capability packs"
    (fun profile => do
      writeString profile.profileId
      writeString profile.gameId
      writeString profile.discIdentity
      writeString profile.executableIdentity
      writeString profile.backend
      writeVector writeCapabilityPack profile.capabilityPacks)
    (canonicalRuntimeProfile sorting source)

def readRuntimeProfile : Reader RuntimeProfile := do
  let profileId ← readString
  let gameId ← readString
  let discIdentity ← readString
  let executableIdentity ← readString
  let backend ← readString
  let capabilityPacks ← readVector readCapabilityPack
  pure
    { profileId, gameId, discIdentity, executableIdentity, backend
      capabilityPacks }

def writeStateRequest (state : InvocationStateRequest) : Writer := do
  writeEnum 1 state.policy
  writeString state.sessionLineage
  writeId state.expectedSession
  writeId state.expectedEpoch

def readStateRequest : Reader InvocationStateRequest := do
  let policy ← readEnum 1
  let sessionLineage ← readString
  let expectedSession ← readId
  let expectedEpoch ← readId
  pure { policy, sessionLineage, expectedSession, expectedEpoch }

def writeExecutionPolicy (execution : InvocationExecutionPolicy) : Writer := do
  writeEnum 1 execution.intent
  writeBool execution.allowMoviePlayback
  writeBool execution.allowMovieRecording
  writeBool execution.allowInput
  writeBool execution.allowCapture
  writeBool execution.recordTrace
  writeU32 execution.handlerFlags

def readExecutionPolicy : Reader InvocationExecutionPolicy := do
  let intent ← readEnum 1
  let allowMoviePlayback ← readBool
  let allowMovieRecording ← readBool
  let allowInput ← readBool
  let allowCapture ← readBool
  let recordTrace ← readBool
  let handlerFlags ← readU32
  pure
    { intent, allowMoviePlayback, allowMovieRecording, allowInput, allowCapture
      recordTrace, handlerFlags }

def writeProvenanceEntry (entry : ProvenanceEntry) : Writer := do
  writeString entry.key
  writeString entry.value

def readProvenanceEntry : Reader ProvenanceEntry := do
  let key ← readString
  let value ← readString
  pure { key, value }

/-- The order in which a provenance is written. -/
def canonicalProvenance (provenance : ProgramProvenance) : ProgramProvenance :=
  { provenance with
    sourceArtifacts := sorting.sort (compareOn artifactId) provenance.sourceArtifacts
    attributes := sorting.sort (compareOn ProvenanceEntry.exactKey) provenance.attributes }

def writeProvenance (source : ProgramProvenance) : Writer :=
  writeUnless
    (fun provenance => hasAdjacent artifactId provenance.sourceArtifacts)
    "provenance contains duplicate source artifact IDs"
    (fun provenance => do
      writeString provenance.requestingComponent
      writeVector writeArtifactReference provenance.sourceArtifacts
      writeVector writeProvenanceEntry provenance.attributes)
    (canonicalProvenance sorting source)

def readProvenance : Reader ProgramProvenance := do
  let requestingComponent ← readString
  let sourceArtifacts ← readVector readArtifactReference
  let attributes ← readVector readProvenanceEntry
  pure { requestingComponent, sourceArtifacts, attributes }

def writeInvocationBody (invocation : ProgramInvocation) : Writer := do
  writeId invocation.invocationId
  writeId invocation.attemptId
  writeModuleIdentity invocation.module .includeDeclaredHash
  writeString invocation.entrypoint
  writeDependencyLock sorting invocation.dependencies
  writeRuntimeProfile sorting invocation.runtimeProfile
  writeStateRequest invocation.state
  writeExecutionPolicy invocation.execution
  writeProgramValueGraph sorting invocation.input
  writeBudgets invocation.limits
  writeProvenance sorting invocation.provenance

def readInvocationBody : Reader ProgramInvocation := do
  let invocationId ← readId
  let attemptId ← readId
  let module ← readModuleIdentity
  let entrypoint ← readString
  let dependencies ← readDependencyLock
  let runtimeProfile ← readRuntimeProfile
  let state ← readStateRequest
  let execution ← readExecutionPolicy
  let input ← readProgramValueGraph
  let limits ← readBudgets
  let provenance ← readProvenance
  pure
    { invocationId, attemptId, module, entrypoint, dependencies, runtimeProfile
      state, execution, input, limits, provenance }

end Codec

/-- The canonical form of an invocation. -/
def ProgramInvocation.canonical (sorting : UnstableSort)
    (invocation : ProgramInvocation) : ProgramInvocation :=
  { invocation with
    dependencies := canonicalDependencyLock sorting invocation.dependencies
    runtimeProfile := canonicalRuntimeProfile sorting invocation.runtimeProfile
    input := invocation.input.canonical sorting
    provenance := canonicalProvenance sorting invocation.provenance }

/-- The lists of the invocation in another order, and the types of its input
with or without what their canonical form leaves out. -/
structure ProgramInvocation.SameContent (invocation other : ProgramInvocation) : Prop where
  same : other =
    { invocation with
      dependencies := other.dependencies
      runtimeProfile := other.runtimeProfile
      input := other.input
      provenance := other.provenance }
  dependencies : invocation.dependencies.Reorders other.dependencies
  runtimeProfile : invocation.runtimeProfile.Reorders other.runtimeProfile
  input : invocation.input.SameValues other.input
  provenance : invocation.provenance.Reorders other.provenance

namespace Codec

section Reordering

variable {sorting : UnstableSort}

/-- Sorted lists whose neighbours have different keys agree when they are
permutations. -/
theorem sort_eq_of_separate {α κ : Type} [Ord κ] [Std.TransOrd κ]
    [Std.LawfulEqOrd κ] [DecidableEq κ] {key : α → κ} {left right : List α}
    (separate : hasAdjacent key (sorting.sort (compareOn key) left) = false)
    (permutes : right.Perm left) :
    sorting.sort (compareOn key) right = sorting.sort (compareOn key) left := by
  have sorted := Unambiguous.of_hasAdjacent (sorting.ordered (compareOn key) left) separate
  have unambiguous := sorted.perm (sorting.perm (compareOn key) left).symm
  exact sorting.sort_eq_of_perm unambiguous permutes

theorem canonicalDependencyLock_eq {lock other : ProgramDependencyLock}
    (reorders : lock.Reorders other)
    (separate : hasAdjacentIdentities (canonicalDependencyLock sorting lock) = false) :
    canonicalDependencyLock sorting other = canonicalDependencyLock sorting lock := by
  unfold hasAdjacentIdentities at separate
  simp only [Bool.or_eq_false_iff] at separate
  obtain ⟨⟨⟨⟨modules, actions⟩, reducers⟩, types⟩, packs⟩ := separate
  unfold canonicalDependencyLock at modules actions reducers types packs ⊢
  rw [sort_eq_of_separate modules reorders.moduleImports,
    sort_eq_of_separate actions reorders.actionImports,
    sort_eq_of_separate reducers reorders.reducerImports,
    sort_eq_of_separate types reorders.typeImports,
    sort_eq_of_separate packs reorders.capabilityPacks, reorders.irVersion]

theorem canonicalDependencyLock_reorders (lock : ProgramDependencyLock) :
    lock.Reorders (canonicalDependencyLock sorting lock) :=
  ⟨rfl, sorting.perm _ _, sorting.perm _ _, sorting.perm _ _, sorting.perm _ _, sorting.perm _ _⟩

theorem canonicalRuntimeProfile_eq {profile other : RuntimeProfile}
    (reorders : profile.Reorders other) (separate : hasAdjacent key
      (canonicalRuntimeProfile sorting profile).capabilityPacks = false) :
    canonicalRuntimeProfile sorting other = canonicalRuntimeProfile sorting profile := by
  rw [reorders.same]
  unfold canonicalRuntimeProfile at separate ⊢
  rw [sort_eq_of_separate separate reorders.capabilityPacks]

theorem canonicalRuntimeProfile_reorders (profile : RuntimeProfile) :
    profile.Reorders (canonicalRuntimeProfile sorting profile) :=
  ⟨rfl, sorting.perm _ _⟩

theorem canonicalProvenance_eq {provenance other : ProgramProvenance}
    (reorders : provenance.Reorders other) (separate : hasAdjacent artifactId
      (canonicalProvenance sorting provenance).sourceArtifacts = false) :
    canonicalProvenance sorting other = canonicalProvenance sorting provenance := by
  unfold canonicalProvenance at separate ⊢
  rw [sort_eq_of_separate separate reorders.sourceArtifacts,
    sort_exact_eq sorting ProvenanceEntry.exactKey_injective reorders.attributes,
    reorders.requestingComponent]

theorem canonicalProvenance_reorders (provenance : ProgramProvenance) :
    provenance.Reorders (canonicalProvenance sorting provenance) :=
  ⟨rfl, sorting.perm _ _, sorting.perm _ _⟩

variable {limits : CodecLimits}

theorem writeUnless_rewrites {α : Type} {rejects : α → Bool} {message : String} {write : α → Writer}
    {first second : α} (same : rejects first = false → second = first) :
    Rewrites limits (writeUnless rejects message write first)
      (writeUnless rejects message write second) := by
  unfold writeUnless
  cases rejected : rejects first with
  | true =>
    rw [if_pos rfl]
    exact .fail _
  | false =>
    rw [same rejected, rejected]
    exact .refl _

theorem writeDependencyLock_rewrites
    {lock other : ProgramDependencyLock} (reorders : lock.Reorders other) :
    Rewrites limits (writeDependencyLock sorting lock) (writeDependencyLock sorting other) :=
  writeUnless_rewrites (canonicalDependencyLock_eq reorders)

theorem writeRuntimeProfile_rewrites
    {profile other : RuntimeProfile} (reorders : profile.Reorders other) :
    Rewrites limits (writeRuntimeProfile sorting profile) (writeRuntimeProfile sorting other) :=
  writeUnless_rewrites (canonicalRuntimeProfile_eq reorders)

theorem writeProvenance_rewrites {provenance other : ProgramProvenance}
    (reorders : provenance.Reorders other) : Rewrites limits (writeProvenance sorting provenance)
      (writeProvenance sorting other) :=
  writeUnless_rewrites (canonicalProvenance_eq reorders)

theorem writeInvocationBody_rewrites {invocation other : ProgramInvocation}
    (same : invocation.SameContent other) : Rewrites limits (writeInvocationBody sorting invocation)
      (writeInvocationBody sorting other) := by
  rw [same.same]
  exact
    .bind (.refl _) <| .bind (.refl _) <| .bind (.refl _) <| .bind (.refl _) <|
      .bind (writeDependencyLock_rewrites same.dependencies) <|
      .bind (writeRuntimeProfile_rewrites same.runtimeProfile) <|
      .bind (.refl _) <| .bind (.refl _) <| .bind same.input.rewrites <|
      .bind (.refl _) <| writeProvenance_rewrites same.provenance

theorem canonical_sameContent (invocation : ProgramInvocation) :
    invocation.SameContent (invocation.canonical sorting) :=
  ⟨rfl, canonicalDependencyLock_reorders _, canonicalRuntimeProfile_reorders _,
    canonical_sameValues sorting _, canonicalProvenance_reorders _⟩

end Reordering

section RoundTrips

variable {limits : CodecLimits} (sorting : UnstableSort)

instance (lock : ProgramDependencyLock) :
    Coded limits (writeDependencyLock sorting lock) readDependencyLock
      (canonicalDependencyLock sorting lock) :=
  ⟨.guard fun _ => .coded <| .coded <| .coded <| .coded <| .coded <| .last rfl⟩

instance (profile : RuntimeProfile) :
    Coded limits (writeRuntimeProfile sorting profile) readRuntimeProfile
      (canonicalRuntimeProfile sorting profile) :=
  ⟨.guard fun _ => .coded <| .coded <| .coded <| .coded <| .coded <| .last rfl⟩

instance (state : InvocationStateRequest) :
    Coded limits (writeStateRequest state) readStateRequest state :=
  ⟨.bind (writeEnum_matches _ (by decide)) <| .coded <| .coded <| .last rfl⟩

instance (execution : InvocationExecutionPolicy) :
    Coded limits (writeExecutionPolicy execution) readExecutionPolicy execution :=
  ⟨.bind (writeEnum_matches _ (by decide)) <| .coded <| .coded <| .coded <|
    .coded <| .coded <| .last rfl⟩

instance (entry : ProvenanceEntry) :
    Coded limits (writeProvenanceEntry entry) readProvenanceEntry entry :=
  ⟨.coded <| .last rfl⟩

instance (provenance : ProgramProvenance) :
    Coded limits (writeProvenance sorting provenance) readProvenance
      (canonicalProvenance sorting provenance) :=
  ⟨.guard fun _ => .coded <| .coded <| .last rfl⟩

theorem writeInvocationBody_matches (invocation : ProgramInvocation) :
    Matches limits (writeInvocationBody sorting invocation) readInvocationBody
      (invocation.canonical sorting) :=
  .coded <| .coded <| .coded <| .coded <| .coded <| .coded <| .coded <|
    .coded <| .coded <| .coded <| .last rfl

end RoundTrips

end Codec

/-!
## The codec of emissions and results

Emissions, artifacts, diagnostics, trace events and cleanup receipts, and the
result that collects them.
-/

/-- The canonical form of an emission. -/
def ProgramEmission.canonical (sorting : UnstableSort)
    (emission : ProgramEmission) : ProgramEmission :=
  { emission with value := emission.value.canonical sorting }

/-- The canonical form of a trace event. -/
def ProgramTraceEvent.canonical (sorting : UnstableSort)
    (event : ProgramTraceEvent) : ProgramTraceEvent :=
  { event with
    attributes := sorting.sort (compareOn ProvenanceEntry.exactKey) event.attributes }

/-- The canonical form of a result. -/
def ProgramResult.canonical (sorting : UnstableSort) (result : ProgramResult) : ProgramResult :=
  { result with
    resolvedDependencies := canonicalDependencyLock sorting result.resolvedDependencies
    domainOutcome := result.domainOutcome.map (ProgramValueGraph.canonical sorting)
    output := result.output.map (ProgramValueGraph.canonical sorting)
    emissions := result.emissions.map (ProgramEmission.canonical sorting)
    trace := result.trace.map (ProgramTraceEvent.canonical sorting)
    provenance := canonicalProvenance sorting result.provenance }

/-- `AuthoritativeGraph`: no artifact of the graph is incomplete. -/
def ProgramValueGraph.isAuthoritative (graph : ProgramValueGraph) : Bool :=
  graph.values.all fun value =>
    match value.payload with
    | .artifact artifact => artifact.complete
    | _ => true

/-- `AuthoritativeResult`. -/
def ProgramResult.isAuthoritative (result : ProgramResult) : Bool :=
  result.domainOutcome.all ProgramValueGraph.isAuthoritative &&
    result.output.all ProgramValueGraph.isAuthoritative &&
    result.emissions.all (fun emission => emission.complete && emission.value.isAuthoritative) &&
    result.artifacts.all (fun artifact => artifact.artifact.complete) &&
    result.provenance.sourceArtifacts.all fun artifact => artifact.complete

namespace Codec

instance : Enumeration ProgramInfrastructureStatus where
  enumerators :=
    [.completed, .rejected, .cancelled, .timedOut, .budgetExhausted,
      .backendFailed, .contractFailed]
  index := ProgramInfrastructureStatus.ctorIdx
  indexed value := by cases value <;> rfl

instance : Enumeration ProgramCleanupStatus where
  enumerators := [.clean, .cleanWithDiagnostics, .tainted]
  index := ProgramCleanupStatus.ctorIdx
  indexed value := by cases value <;> rfl

instance : Enumeration SessionDisposition where
  enumerators := [.closed, .clean, .cleanWithDiagnostics, .tainted]
  index := SessionDisposition.ctorIdx
  indexed value := by cases value <;> rfl

instance : Enumeration DiagnosticSeverity where
  enumerators := [.information, .warning, .error]
  index := DiagnosticSeverity.ctorIdx
  indexed value := by cases value <;> rfl

def writeDiagnostic (diagnostic : ProgramDiagnostic) : Writer := do
  writeEnum 1 diagnostic.severity
  writeString diagnostic.code
  writeString diagnostic.message
  writeOptional writeId diagnostic.sourceLocation
  writeVector writeString diagnostic.causalChain

def readDiagnostic : Reader ProgramDiagnostic := do
  let severity ← readEnum 1
  let code ← readString
  let message ← readString
  let sourceLocation ← readOptional readId
  let causalChain ← readVector readString
  pure { severity, code, message, sourceLocation, causalChain }

def writeArtifact (artifact : ProgramArtifact) : Writer := do
  writeId artifact.sequence
  writeArtifactReference artifact.artifact

def readArtifact : Reader ProgramArtifact := do
  let sequence ← readId
  let artifact ← readArtifactReference
  pure { sequence, artifact }

def writeCleanupReceipt (receipt : CleanupReceipt) : Writer := do
  writeId receipt.resource
  writeEnum 1 receipt.status
  writeString receipt.diagnostic

def readCleanupReceipt : Reader CleanupReceipt := do
  let resource ← readId
  let status ← readEnum 1
  let diagnostic ← readString
  pure { resource, status, diagnostic }

variable (sorting : UnstableSort)

def writeEmission (emission : ProgramEmission) : Writer := do
  writeId emission.sequence
  writeSchemaIdentity emission.schema
  writeProgramValueGraph sorting emission.value
  writeBool emission.complete

def readEmission : Reader ProgramEmission := do
  let sequence ← readId
  let schema ← readSchemaIdentity
  let value ← readProgramValueGraph
  let complete ← readBool
  pure { sequence, schema, value, complete }

def writeTraceEvent (event : ProgramTraceEvent) : Writer := do
  writeId event.sequence
  writeString event.kind
  writeOptional writeId event.sourceLocation
  writeId event.epoch
  writeVector writeProvenanceEntry
    (sorting.sort (compareOn ProvenanceEntry.exactKey) event.attributes)

def readTraceEvent : Reader ProgramTraceEvent := do
  let sequence ← readId
  let kind ← readString
  let sourceLocation ← readOptional readId
  let epoch ← readId
  let attributes ← readVector readProvenanceEntry
  pure { sequence, kind, sourceLocation, epoch, attributes }

def writeResultBody (result : ProgramResult) : Writer := do
  writeId result.invocationId
  writeId result.attemptId
  writeModuleIdentity result.module .includeDeclaredHash
  writeString result.entrypoint
  writeDependencyLock sorting result.resolvedDependencies
  writeEnum 1 result.infrastructure
  writeOptional (writeProgramValueGraph sorting) result.domainOutcome
  writeEnum 1 result.cleanup
  writeEnum 1 result.sessionDisposition
  writeOptional (writeProgramValueGraph sorting) result.output
  writeVector (writeEmission sorting) result.emissions
  writeVector writeArtifact result.artifacts
  writeVector writeDiagnostic result.diagnostics
  writeVector (writeTraceEvent sorting) result.trace
  writeVector writeCleanupReceipt result.cleanupReceipts
  writeProvenance sorting result.provenance

def readResultBody : Reader ProgramResult := do
  let invocationId ← readId
  let attemptId ← readId
  let module ← readModuleIdentity
  let entrypoint ← readString
  let resolvedDependencies ← readDependencyLock
  let infrastructure ← readEnum 1
  let domainOutcome ← readOptional readProgramValueGraph
  let cleanup ← readEnum 1
  let sessionDisposition ← readEnum 1
  let output ← readOptional readProgramValueGraph
  let emissions ← readVector readEmission
  let artifacts ← readVector readArtifact
  let diagnostics ← readVector readDiagnostic
  let trace ← readVector readTraceEvent
  let cleanupReceipts ← readVector readCleanupReceipt
  let provenance ← readProvenance
  pure
    { invocationId, attemptId, module, entrypoint, resolvedDependencies
      infrastructure, domainOutcome, cleanup, sessionDisposition, output
      emissions, artifacts, diagnostics, trace, cleanupReceipts, provenance }

section RoundTrips

variable {limits : CodecLimits}

instance (diagnostic : ProgramDiagnostic) :
    Coded limits (writeDiagnostic diagnostic) readDiagnostic diagnostic :=
  ⟨.bind (writeEnum_matches _ (by decide)) <| .coded <| .coded <| .coded <| .last rfl⟩

instance (artifact : ProgramArtifact) :
    Coded limits (writeArtifact artifact) readArtifact artifact :=
  ⟨.coded <| .last rfl⟩

instance (receipt : CleanupReceipt) :
    Coded limits (writeCleanupReceipt receipt) readCleanupReceipt receipt :=
  ⟨.coded <| .bind (writeEnum_matches _ (by decide)) <| .last rfl⟩

theorem writeEmission_matches (emission : ProgramEmission) :
    Matches limits (writeEmission sorting emission) readEmission (emission.canonical sorting) :=
  .coded <| .coded <| .coded <| .last rfl

instance (emission : ProgramEmission) : Coded limits (writeEmission sorting emission) readEmission
      (emission.canonical sorting) :=
  ⟨writeEmission_matches sorting emission⟩

instance (event : ProgramTraceEvent) : Coded limits (writeTraceEvent sorting event) readTraceEvent
      (event.canonical sorting) :=
  ⟨.coded <| .coded <| .coded <| .coded <| .last rfl⟩

theorem writeResultBody_matches (result : ProgramResult) :
    Matches limits (writeResultBody sorting result) readResultBody (result.canonical sorting) :=
  .coded <| .coded <| .coded <| .coded <| .coded <|
    .bind (writeEnum_matches _ (by decide)) <| .coded <|
    .bind (writeEnum_matches _ (by decide)) <|
    .bind (writeEnum_matches _ (by decide)) <| .coded <| .coded <| .coded <|
    .coded <| .coded <| .coded <| .last rfl

theorem writeEmission_rewrites (emission : ProgramEmission) :
    Rewrites limits (writeEmission sorting emission)
      (writeEmission sorting (emission.canonical sorting)) :=
  .bind (.refl _) <| .bind (.refl _) <| .bind (canonical_sameValues sorting _).rewrites (.refl _)

theorem writeTraceEvent_rewrites (event : ProgramTraceEvent) :
    Rewrites limits (writeTraceEvent sorting event)
      (writeTraceEvent sorting (event.canonical sorting)) := by
  refine .of_eq ?_
  unfold writeTraceEvent ProgramTraceEvent.canonical
  rw [sort_exact_eq sorting ProvenanceEntry.exactKey_injective (sorting.perm _ _)]

theorem writeResultBody_rewrites (result : ProgramResult) :
    Rewrites limits (writeResultBody sorting result)
      (writeResultBody sorting (result.canonical sorting)) :=
  .bind (.refl _) <| .bind (.refl _) <| .bind (.refl _) <| .bind (.refl _) <|
    .bind (writeDependencyLock_rewrites (canonicalDependencyLock_reorders _)) <|
    .bind (.refl _) <|
    .bind (writeOptional_rewrites fun _ _ => (canonical_sameValues sorting _).rewrites) <|
    .bind (.refl _) <| .bind (.refl _) <|
    .bind (writeOptional_rewrites fun _ _ => (canonical_sameValues sorting _).rewrites) <|
    .bind (writeVector_rewrites fun _ _ => writeEmission_rewrites sorting _) <|
    .bind (.refl _) <| .bind (.refl _) <|
    .bind (writeVector_rewrites fun _ _ => writeTraceEvent_rewrites sorting _) <|
    .bind (.refl _) <|
    writeProvenance_rewrites (canonicalProvenance_reorders _)

theorem canonical_isAuthoritative (graph : ProgramValueGraph) :
    (graph.canonical sorting).isAuthoritative = graph.isAuthoritative := by
  unfold ProgramValueGraph.isAuthoritative ProgramValueGraph.canonical
  rw [List.all_map]
  exact (sorting.perm _ _).all_eq

theorem result_canonical_isAuthoritative (result : ProgramResult) :
    (result.canonical sorting).isAuthoritative = result.isAuthoritative := by
  have optional : ∀ graph : Option ProgramValueGraph,
      (graph.map (ProgramValueGraph.canonical sorting)).all ProgramValueGraph.isAuthoritative =
      graph.all ProgramValueGraph.isAuthoritative := by
    intro graph
    cases graph with
    | none => rfl
    | some graph => exact canonical_isAuthoritative sorting graph
  have artifacts : ∀ list : List ArtifactReferenceValue,
      (sorting.sort (compareOn artifactId) list).all (fun artifact => artifact.complete) =
      list.all fun artifact => artifact.complete :=
    fun list => (sorting.perm _ _).all_eq
  unfold ProgramResult.isAuthoritative ProgramResult.canonical canonicalProvenance
  simp only [optional, artifacts, List.all_map]
  congr 4
  funext emission
  exact congrArg (emission.complete && ·) (canonical_isAuthoritative sorting _)

end RoundTrips
end Codec
end Savor.Program


import Savor.Codec.Values
import Savor.Library.Sequence
import Savor.Value.Arena

/-!
# The codec of value graphs

A graph is written only when its ids are distinct, its references resolve, and
exactly its values can be reached from the root without a cycle.  The values
are written in the order of their ids.
-/

namespace Savor.Program

open Library Library.Wire Codec

/-- The order in which the values of a graph are written. -/
def ProgramValue.compareIds (left right : ProgramValue) : Ordering :=
  compareOn (fun value : ProgramValue => value.id.value) left right

instance : Std.TransCmp ProgramValue.compareIds := inferInstanceAs (Std.TransCmp (compareOn _))

namespace ProgramValueGraph

/-- The canonical form: the values in the order of their ids, with normalized
types. -/
def canonical (sorting : UnstableSort) (graph : ProgramValueGraph) : ProgramValueGraph :=
  { graph with
    values := (sorting.sort ProgramValue.compareIds graph.values).map ProgramValue.normalized }

variable (graph : ProgramValueGraph)

/-- The ids are nonzero and distinct. -/
def distinctIds : Bool := graph.values.all (·.id.isSet) && decide (graph.values.map (·.id)).Nodup

/-- The id is one of the graph. -/
def lists (id : ProgramValueId) : Bool := graph.values.any (·.id = id)

/-- Every child is one of the graph. -/
def resolves : Bool :=
  graph.values.all fun value =>
    value.payload.children.all fun child => child.isSet && graph.lists child

/-- The children of an id that the graph lists. -/
def listedChildren (id : ProgramValueId) : List ProgramValueId :=
  ((graph.find id).map fun value => value.payload.children).getD []

/-- The other graph has the same values, up to their order and to what a
normalized type leaves out. -/
structure SameValues (graph other : ProgramValueGraph) : Prop where
  root : other.root = graph.root
  values : (other.values.map ProgramValue.normalized).Perm
    (graph.values.map ProgramValue.normalized)

end ProgramValueGraph

namespace Codec

/-- The failure of a cycle below the root. -/
def cycleStatus (_ : ProgramValueId) : CodecStatus :=
  ⟨.invalidValue, text "value graph contains a cycle"⟩

/-- The values that the search from the root completes. -/
def searchGraph (graph : ProgramValueGraph) : Except CodecStatus (List ProgramValueId) :=
  DepthFirst.visit (fun id => .ok (graph.listedChildren id)) cycleStatus
    (graph.values.length + 1) [] [] graph.root

def writeProgramValueGraph (sorting : UnstableSort) (graph : ProgramValueGraph) : Writer :=
  if !graph.root.isSet then
    failWrite .invalidValue "value graph root must be nonzero"
  else if !graph.distinctIds then
    failWrite .invalidValue "value graph IDs must be nonzero and unique"
  else if !graph.lists graph.root then
    failWrite .invalidValue "value graph root is unresolved"
  else if !graph.resolves then
    failWrite .invalidValue "value graph contains an unresolved child ID"
  else
    match searchGraph graph with
    | .error status => Encoder.fail status
    | .ok completed =>
      if completed.length ≠ graph.values.length then
        failWrite .invalidValue "value graph contains unreachable values"
      else do
        writeId graph.root
        writeVector writeProgramValue (sorting.sort ProgramValue.compareIds graph.values)

def readProgramValueGraph : Reader ProgramValueGraph := do
  let root ← readId
  let values ← readVector readProgramValue
  pure { root, values }

instance {limits : CodecLimits} (sorting : UnstableSort) (graph : ProgramValueGraph) :
    Coded limits (writeProgramValueGraph sorting graph) readProgramValueGraph
      (graph.canonical sorting) := by
  constructor
  refine .guard fun _ => .guard fun _ => .guard fun _ => .guard fun _ => ?_
  cases searchGraph graph with
  | error status => exact .fail status
  | ok completed => exact .guard fun _ => .coded <| .last rfl

section Rewriting

variable {graph : ProgramValueGraph}

theorem writeTypeRef_normalized (type : TypeRef) :
    writeTypeRef type.normalized = writeTypeRef type := by
  unfold TypeRef.normalized
  cases named : type.named with
  | none => simp [writeTypeRef, named, TypeRef.ofBuiltin]
  | some identity => simp [writeTypeRef, named, TypeRef.ofNamed]

theorem writeProgramValue_normalized (value : ProgramValue) :
    writeProgramValue value.normalized = writeProgramValue value := by
  simp only [writeProgramValue, ProgramValue.normalized, writeTypeRef_normalized]

/-- Writing changed elements that are written alike. -/
theorem writeVector_map {α : Type} {write : α → Writer} {view : α → α}
    (same : ∀ value, write (view value) = write value) (values : List α) :
    writeVector write (values.map view) = writeVector write values := by
  unfold writeVector
  rw [List.length_map, Encoder.each_map fun value _ => same value]

theorem writeOptional_map {α : Type} {write : α → Writer} {view : α → α}
    (same : ∀ value, write (view value) = write value) (value : Option α) :
    writeOptional write (value.map view) = writeOptional write value := by
  cases value with
  | none => rfl
  | some value =>
    unfold writeOptional
    rw [Option.map_some, Option.isSome_some, Option.isSome_some]
    simp only [same]

theorem typeRef_normalized_again (type : TypeRef) :
    type.normalized.normalized = type.normalized := by
  unfold TypeRef.normalized
  cases type.named <;> rfl

theorem programValue_normalized_again (value : ProgramValue) :
    value.normalized.normalized = value.normalized := by
  simp only [ProgramValue.normalized, typeRef_normalized_again]

theorem canonical_sameValues (sorting : UnstableSort) (graph : ProgramValueGraph) :
    graph.SameValues (graph.canonical sorting) := by
  refine ⟨rfl, ?_⟩
  have again : ((graph.canonical sorting).values.map ProgramValue.normalized) =
      (sorting.sort ProgramValue.compareIds graph.values).map ProgramValue.normalized := by
    unfold ProgramValueGraph.canonical
    rw [List.map_map]
    exact List.map_congr_left fun value _ => programValue_normalized_again value
  rw [again]
  exact (sorting.perm _ _).map _

theorem normalized_ids (values : List ProgramValue) :
    (values.map ProgramValue.normalized).map (·.id) = values.map (·.id) := by
  rw [List.map_map]
  rfl

theorem ids_nodup (distinct : graph.distinctIds = true) : (graph.values.map (·.id)).Nodup := by
  unfold ProgramValueGraph.distinctIds at distinct
  rw [Bool.and_eq_true, decide_eq_true_eq] at distinct
  exact distinct.2

end Rewriting

end Codec

namespace ProgramValueGraph.SameValues

variable {graph other : ProgramValueGraph}

section

variable (same : graph.SameValues other)
include same

theorem ids : (other.values.map (·.id)).Perm (graph.values.map (·.id)) := by
  have permutes := same.values.map (·.id)
  rwa [normalized_ids, normalized_ids] at permutes

theorem member {value : ProgramValue} (listed : value ∈ other.values) :
    ∃ source ∈ graph.values, source.id = value.id ∧ source.payload = value.payload := by
  have found := same.values.mem_iff.mp (List.mem_map_of_mem listed)
  obtain ⟨source, sourceListed, alike⟩ := List.mem_map.mp found
  simp only [ProgramValue.normalized, ProgramValue.mk.injEq] at alike
  exact ⟨source, sourceListed, alike.1, alike.2.2⟩

theorem length : other.values.length = graph.values.length := by
  have lengths := same.values.length_eq
  rwa [List.length_map, List.length_map] at lengths

theorem distinctIds (distinct : graph.distinctIds = true) : other.distinctIds = true := by
  have nodup := same.ids.nodup_iff.mpr (ids_nodup distinct)
  unfold ProgramValueGraph.distinctIds at distinct ⊢
  rw [Bool.and_eq_true, decide_eq_true_eq] at distinct ⊢
  refine ⟨?_, nodup⟩
  rw [List.all_eq_true] at distinct ⊢
  intro value listed
  obtain ⟨source, sourceListed, id, _⟩ := same.member listed
  rw [← id]
  exact distinct.1 source sourceListed

theorem lists (id : ProgramValueId) : other.lists id = graph.lists id := by
  have listed : ∀ values : List ProgramValue,
      values.any (·.id = id) = decide (id ∈ values.map (·.id)) := by
    intro values
    rw [Bool.eq_iff_iff, List.any_eq_true, decide_eq_true_eq, List.mem_map]
    simp
  unfold ProgramValueGraph.lists
  rw [listed, listed, decide_eq_decide]
  exact same.ids.mem_iff

theorem resolves (resolved : graph.resolves = true) : other.resolves = true := by
  unfold ProgramValueGraph.resolves at resolved ⊢
  rw [List.all_eq_true] at resolved ⊢
  intro value listed
  obtain ⟨source, sourceListed, _, payload⟩ := same.member listed
  simp only [same.lists]
  rw [← payload]
  exact resolved source sourceListed

theorem find (distinct : graph.distinctIds = true) (id : ProgramValueId) :
    (other.find id).map ProgramValue.normalized = (graph.find id).map ProgramValue.normalized := by
  have moved : ∀ source : ProgramValueGraph,
      (source.find id).map ProgramValue.normalized =
        Keyed.lookup ProgramValue.id (source.values.map ProgramValue.normalized) id := by
    intro source
    exact (Keyed.lookup_map ProgramValue.normalized (fun _ => rfl) id).symm
  rw [moved, moved]
  refine Keyed.lookup_perm ?_ same.values id
  have nodup := ids_nodup distinct
  rwa [← normalized_ids] at nodup

theorem search (distinct : graph.distinctIds = true) : searchGraph other = searchGraph graph := by
  have children : other.listedChildren = graph.listedChildren := by
    funext id
    have payloads : ∀ found : Option ProgramValue,
        found.map (fun value => value.payload.children) =
          (found.map ProgramValue.normalized).map fun value => value.payload.children := by
      intro found
      rw [Option.map_map]
      rfl
    unfold ProgramValueGraph.listedChildren
    rw [payloads, payloads (graph.find id), same.find distinct]
  unfold searchGraph
  rw [children, same.length, same.root]

end

/-- The sorted values of the two graphs agree, up to their types. -/
theorem sorted (sorting : UnstableSort) (same : graph.SameValues other)
    (distinct : graph.distinctIds = true) : (sorting.sort ProgramValue.compareIds other.values).map
        ProgramValue.normalized =
      (sorting.sort ProgramValue.compareIds graph.values).map ProgramValue.normalized := by
  refine sorting.sort_map_eq ?_ (fun _ _ => rfl) same.values
  refine .of_nodup ProgramValue.id ?_ ?_
  · intro first second equal
    exact StrongId.ext (compareOn_eq_iff.mp equal)
  · rw [normalized_ids]
    exact ids_nodup distinct

theorem rewrites {sorting : UnstableSort} {limits : CodecLimits} (same : graph.SameValues other) :
    Rewrites limits (writeProgramValueGraph sorting graph)
      (writeProgramValueGraph sorting other) := by
  unfold writeProgramValueGraph
  rw [same.root]
  refine .guard id fun _ => ?_
  refine .guard ?_ fun distinct => ?_
  · intro distinct
    simpa using same.distinctIds (by simpa using distinct)
  simp only [Bool.not_eq_true, Bool.not_eq_false'] at distinct
  rw [same.lists]
  refine .guard id fun _ => ?_
  refine .guard ?_ fun _ => ?_
  · intro resolved
    simpa using same.resolves (by simpa using resolved)
  rw [same.search distinct]
  cases searchGraph graph with
  | error status => exact .fail status
  | ok completed =>
    simp only [same.length]
    refine .guard id fun _ => .of_eq ?_
    rw [← writeVector_map writeProgramValue_normalized
        (sorting.sort ProgramValue.compareIds other.values), same.sorted sorting distinct,
      writeVector_map writeProgramValue_normalized]

end ProgramValueGraph.SameValues

/-!
## The codec of functions and declarations

Instructions, terminators, blocks and functions, and the budgets, policies,
entrypoints and source maps that a module declares.
-/

def ValueDefinition.normalized (definition : ValueDefinition) : ValueDefinition :=
  { definition with type := definition.type.normalized }

def Instruction.normalized (instruction : Instruction) : Instruction :=
  { instruction with
    result := instruction.result.map ValueDefinition.normalized
    literal := instruction.literal.map LiteralValue.normalized }

def BasicBlock.normalized (block : BasicBlock) : BasicBlock :=
  { block with
    arguments := block.arguments.map ValueDefinition.normalized
    instructions := block.instructions.map Instruction.normalized }

def ProgramFunction.normalized (function : ProgramFunction) : ProgramFunction :=
  { function with
    arguments := function.arguments.map ValueDefinition.normalized
    outputType := function.outputType.normalized
    domainOutcomeType := function.domainOutcomeType.map TypeRef.normalized
    blocks := function.blocks.map BasicBlock.normalized }

def ProgramEntrypoint.normalized (entrypoint : ProgramEntrypoint) : ProgramEntrypoint :=
  { entrypoint with
    inputType := entrypoint.inputType.normalized
    outputType := entrypoint.outputType.normalized
    domainOutcomeType := entrypoint.domainOutcomeType.normalized }

namespace Codec

instance : Enumeration InstructionOpcode where
  enumerators :=
    [.constant, .copy, .select, .checkedConvert, .recordConstruct,
      .recordProject, .recordUpdate, .optionalConstruct, .optionalIsPresent,
      .optionalExtract, .listConstruct, .listAppend, .listIndex, .listSize,
      .addChecked, .subtractChecked, .multiplyChecked, .divideChecked,
      .remainderChecked, .negateChecked, .equal, .notEqual, .less, .lessEqual,
      .greater, .greaterEqual, .booleanAnd, .booleanOr, .booleanNot, .callLocal,
      .callImported, .callReducer, .awaitAction, .emitRecord, .publishArtifact,
      .enterScope, .exitScope, .deferCompensation, .promoteResource]
  index := InstructionOpcode.ctorIdx
  indexed value := by cases value <;> rfl

instance : Enumeration InstructionTargetKind where
  enumerators := [.none, .localFunction, .importedFunction, .action, .reducer, .deferredAction]
  index := InstructionTargetKind.ctorIdx
  indexed value := by cases value <;> rfl

instance : Enumeration TerminatorKind where
  enumerators := [.branch, .conditionalBranch, .enumSwitch, .return, .structuredFail]
  index := TerminatorKind.ctorIdx
  indexed value := by cases value <;> rfl

instance : Enumeration InvocationStatePolicy where
  enumerators := [.restoreBaseline, .establishBaseline]
  index := InvocationStatePolicy.ctorIdx
  indexed value := by cases value <;> rfl

instance : Enumeration ExecutionIntent where
  enumerators := [.live, .replay]
  index := ExecutionIntent.ctorIdx
  indexed value := by cases value <;> rfl

def writeValueDefinition (definition : ValueDefinition) : Writer := do
  writeId definition.id
  writeTypeRef definition.type

def readValueDefinition : Reader ValueDefinition := do
  let id ← readId
  let type ← readTypeRef
  pure { id, type }

def writeInstructionTarget (target : InstructionTarget) : Writer := do
  writeEnum 1 target.kind
  writeId target.localFunction
  writeOptional writeDependency target.dependency
  writeString target.memberName

def readInstructionTarget : Reader InstructionTarget := do
  let kind ← readEnum 1
  let localFunction ← readId
  let dependency ← readOptional readDependency
  let memberName ← readString
  pure { kind, localFunction, dependency, memberName }

def writeInstruction (instruction : Instruction) : Writer := do
  writeId instruction.id
  writeEnum 2 instruction.opcode
  writeId instruction.sourceLocation
  writeOptional writeValueDefinition instruction.result
  writeVector writeId instruction.operands
  writeOptional writeLiteral instruction.literal
  writeInstructionTarget instruction.target
  writeString instruction.selector
  writeU64 instruction.ordinal
  writeId instruction.scope

def readInstruction : Reader Instruction := do
  let id ← readId
  let opcode ← readEnum 2
  let sourceLocation ← readId
  let result ← readOptional readValueDefinition
  let operands ← readVector readId
  let literal ← readOptional readLiteral
  let target ← readInstructionTarget
  let selector ← readString
  let ordinal ← readU64
  let scope ← readId
  pure
    { id, opcode, sourceLocation, result, operands, literal, target, selector
      ordinal, scope }

def writeBlockEdge (edge : BlockEdge) : Writer := do
  writeId edge.target
  writeVector writeId edge.arguments

def readBlockEdge : Reader BlockEdge := do
  let target ← readId
  let arguments ← readVector readId
  pure { target, arguments }

def writeEnumSwitchCase (switchCase : EnumSwitchCase) : Writer := do
  writeI64 switchCase.enumValue
  writeBlockEdge switchCase.edge

def readEnumSwitchCase : Reader EnumSwitchCase := do
  let enumValue ← readI64
  let edge ← readBlockEdge
  pure { enumValue, edge }

def writeStructuredFailure (failure : StructuredFailure) : Writer := do
  writeString failure.code
  writeString failure.message
  writeOptional writeId failure.details

def readStructuredFailure : Reader StructuredFailure := do
  let code ← readString
  let message ← readString
  let details ← readOptional readId
  pure { code, message, details }

def writeTerminator (terminator : Terminator) : Writer := do
  writeEnum 1 terminator.kind
  writeId terminator.sourceLocation
  writeOptional writeId terminator.conditionOrSelector
  writeVector writeBlockEdge terminator.edges
  writeVector writeEnumSwitchCase terminator.enumCases
  writeOptional writeBlockEdge terminator.defaultEdge
  writeOptional writeId terminator.returnValue
  writeOptional writeId terminator.domainOutcome
  writeOptional writeStructuredFailure terminator.failure

def readTerminator : Reader Terminator := do
  let kind ← readEnum 1
  let sourceLocation ← readId
  let conditionOrSelector ← readOptional readId
  let edges ← readVector readBlockEdge
  let enumCases ← readVector readEnumSwitchCase
  let defaultEdge ← readOptional readBlockEdge
  let returnValue ← readOptional readId
  let domainOutcome ← readOptional readId
  let failure ← readOptional readStructuredFailure
  pure
    { kind, sourceLocation, conditionOrSelector, edges, enumCases, defaultEdge
      returnValue, domainOutcome, failure }

def writeBlock (block : BasicBlock) : Writer := do
  writeId block.id
  writeVector writeValueDefinition block.arguments
  writeVector writeInstruction block.instructions
  writeTerminator block.terminator

def readBlock : Reader BasicBlock := do
  let id ← readId
  let arguments ← readVector readValueDefinition
  let instructions ← readVector readInstruction
  let terminator ← readTerminator
  pure { id, arguments, instructions, terminator }

def writeFunction (function : ProgramFunction) : Writer := do
  writeId function.id
  writeString function.name
  writeVector writeValueDefinition function.arguments
  writeTypeRef function.outputType
  writeOptional writeTypeRef function.domainOutcomeType
  writeId function.entryBlock
  writeVector writeBlock function.blocks
  writeBool function.exported

def readFunction : Reader ProgramFunction := do
  let id ← readId
  let name ← readString
  let arguments ← readVector readValueDefinition
  let outputType ← readTypeRef
  let domainOutcomeType ← readOptional readTypeRef
  let entryBlock ← readId
  let blocks ← readVector readBlock
  let exported ← readBool
  pure
    { id, name, arguments, outputType, domainOutcomeType, entryBlock, blocks
      exported }

def writeBudgets (budgets : ProgramBudgets) : Writer := do
  writeU64 budgets.maximumInstructions
  writeU64 budgets.maximumCalls
  writeU64 budgets.maximumCallDepth
  writeU64 budgets.maximumActionRequests
  writeU64 budgets.maximumEmissions
  writeU64 budgets.maximumArtifacts
  writeU64 budgets.maximumValues
  writeU64 budgets.maximumValueBytes
  writeU64 budgets.maximumTraceEvents

def readBudgets : Reader ProgramBudgets := do
  let maximumInstructions ← readU64
  let maximumCalls ← readU64
  let maximumCallDepth ← readU64
  let maximumActionRequests ← readU64
  let maximumEmissions ← readU64
  let maximumArtifacts ← readU64
  let maximumValues ← readU64
  let maximumValueBytes ← readU64
  let maximumTraceEvents ← readU64
  pure
    { maximumInstructions, maximumCalls, maximumCallDepth, maximumActionRequests
      maximumEmissions, maximumArtifacts, maximumValues, maximumValueBytes
      maximumTraceEvents }

def writePolicySet (policies : ProgramPolicySet) : Writer :=
  if ¬policies.statePolicies.Nodup ∨ ¬policies.executionIntents.Nodup then
    failWrite .invalidValue "policy set contains duplicates"
  else do
    writeVector (writeEnum 1) policies.statePolicies
    writeVector (writeEnum 1) policies.executionIntents
    writeBool policies.permitsMoviePlayback
    writeBool policies.permitsMovieRecording
    writeBool policies.permitsCapture
    writeBool policies.permitsReplay
    writeBool policies.permitsResourcePromotion

def readPolicySet : Reader ProgramPolicySet := do
  let statePolicies ← readVector (readEnum 1)
  let executionIntents ← readVector (readEnum 1)
  let permitsMoviePlayback ← readBool
  let permitsMovieRecording ← readBool
  let permitsCapture ← readBool
  let permitsReplay ← readBool
  let permitsResourcePromotion ← readBool
  pure
    { statePolicies, executionIntents, permitsMoviePlayback
      permitsMovieRecording, permitsCapture, permitsReplay
      permitsResourcePromotion }

def writeEntrypoint (entrypoint : ProgramEntrypoint) : Writer := do
  writeString entrypoint.name
  writeId entrypoint.function
  writeTypeRef entrypoint.inputType
  writeTypeRef entrypoint.outputType
  writeTypeRef entrypoint.domainOutcomeType
  writeVector writeSchemaIdentity entrypoint.emissionSchemas
  writeVector writeSchemaIdentity entrypoint.artifactSchemas
  writeVector writeCapabilityPack entrypoint.requiredCapabilityPacks
  writePolicySet entrypoint.acceptedPolicies
  writeOptional writeBudgets entrypoint.narrowedBudgets

def readEntrypoint : Reader ProgramEntrypoint := do
  let name ← readString
  let function ← readId
  let inputType ← readTypeRef
  let outputType ← readTypeRef
  let domainOutcomeType ← readTypeRef
  let emissionSchemas ← readVector readSchemaIdentity
  let artifactSchemas ← readVector readSchemaIdentity
  let requiredCapabilityPacks ← readVector readCapabilityPack
  let acceptedPolicies ← readPolicySet
  let narrowedBudgets ← readOptional readBudgets
  pure
    { name, function, inputType, outputType, domainOutcomeType, emissionSchemas
      artifactSchemas, requiredCapabilityPacks, acceptedPolicies
      narrowedBudgets }

def writeSourceMapEntry (entry : SourceMapEntry) : Writer := do
  writeId entry.id
  writeOptional writeId entry.function
  writeOptional writeId entry.block
  writeOptional writeId entry.instruction
  writeString entry.sourceName
  writeString entry.semanticPath
  writeU32 entry.line
  writeU32 entry.column

def readSourceMapEntry : Reader SourceMapEntry := do
  let id ← readId
  let function ← readOptional readId
  let block ← readOptional readId
  let instruction ← readOptional readId
  let sourceName ← readString
  let semanticPath ← readString
  let line ← readU32
  let column ← readU32
  pure { id, function, block, instruction, sourceName, semanticPath, line, column }

def writeSourceMap (sourceMap : ProgramSourceMap) : Writer := do
  writeU32 sourceMap.version
  writeVector writeSourceMapEntry sourceMap.entries

def readSourceMap : Reader ProgramSourceMap := do
  let version ← readU32
  let entries ← readVector readSourceMapEntry
  pure { version, entries }

section RoundTrips

variable {limits : CodecLimits}

instance (definition : ValueDefinition) :
    Coded limits (writeValueDefinition definition) readValueDefinition definition.normalized :=
  ⟨.coded <| .last rfl⟩

instance (target : InstructionTarget) :
    Coded limits (writeInstructionTarget target) readInstructionTarget target :=
  ⟨.bind (writeEnum_matches _ (by decide)) <| .coded <| .coded <| .last rfl⟩

instance (instruction : Instruction) : Coded limits (writeInstruction instruction) readInstruction
      instruction.normalized :=
  ⟨.coded <| .bind (writeEnum_matches _ (by decide)) <| .coded <| .coded <|
    .coded <| .coded <| .coded <| .coded <| .coded <| .last rfl⟩

instance (edge : BlockEdge) : Coded limits (writeBlockEdge edge) readBlockEdge edge :=
  ⟨.coded <| .last rfl⟩

instance (switchCase : EnumSwitchCase) :
    Coded limits (writeEnumSwitchCase switchCase) readEnumSwitchCase switchCase :=
  ⟨.coded <| .last rfl⟩

instance (failure : StructuredFailure) :
    Coded limits (writeStructuredFailure failure) readStructuredFailure failure :=
  ⟨.coded <| .coded <| .last rfl⟩

instance (terminator : Terminator) :
    Coded limits (writeTerminator terminator) readTerminator terminator :=
  ⟨.bind (writeEnum_matches _ (by decide)) <| .coded <| .coded <| .coded <|
    .coded <| .coded <| .coded <| .coded <| .last rfl⟩

instance (block : BasicBlock) : Coded limits (writeBlock block) readBlock block.normalized :=
  ⟨.coded <| .coded <| .coded <| .last rfl⟩

instance (function : ProgramFunction) :
    Coded limits (writeFunction function) readFunction function.normalized :=
  ⟨.coded <| .coded <| .coded <| .coded <| .coded <| .coded <| .coded <| .last rfl⟩

instance (budgets : ProgramBudgets) : Coded limits (writeBudgets budgets) readBudgets budgets :=
  ⟨.coded <| .coded <| .coded <| .coded <| .coded <| .coded <| .coded <| .coded <| .last rfl⟩

instance (policies : ProgramPolicySet) :
    Coded limits (writePolicySet policies) readPolicySet policies :=
  have state (value : InvocationStatePolicy) :
      Coded limits (writeEnum 1 value) (readEnum 1) value :=
    ⟨writeEnum_matches _ (by decide)⟩
  have intent (value : ExecutionIntent) :
      Coded limits (writeEnum 1 value) (readEnum 1) value :=
    ⟨writeEnum_matches _ (by decide)⟩
  ⟨.guard fun _ => .coded <| .coded <| .coded <| .coded <| .coded <| .coded <| .last rfl⟩

instance (entrypoint : ProgramEntrypoint) : Coded limits (writeEntrypoint entrypoint) readEntrypoint
      entrypoint.normalized :=
  ⟨.coded <| .coded <| .coded <| .coded <| .coded <| .coded <| .coded <|
    .coded <| .coded <| .last rfl⟩

instance (entry : SourceMapEntry) :
    Coded limits (writeSourceMapEntry entry) readSourceMapEntry entry :=
  ⟨.coded <| .coded <| .coded <| .coded <| .coded <| .coded <| .coded <| .last rfl⟩

instance (sourceMap : ProgramSourceMap) :
    Coded limits (writeSourceMap sourceMap) readSourceMap sourceMap :=
  ⟨.coded <| .last rfl⟩

end RoundTrips

section Rewriting

theorem writeRecordField_normalized (field : RecordFieldDefinition) :
    writeRecordField field.normalized = writeRecordField field := by
  simp only [writeRecordField, RecordFieldDefinition.normalized, writeTypeRef_normalized]

theorem writeTypeSchema_normalized (schema : TypeSchemaDefinition) :
    writeTypeSchema schema.normalized = writeTypeSchema schema := by
  simp only [writeTypeSchema, TypeSchemaDefinition.normalized,
    writeOptional_map writeTypeRef_normalized, writeVector_map writeRecordField_normalized]

theorem writeLiteral_normalized (literal : LiteralValue) :
    writeLiteral literal.normalized = writeLiteral literal := by
  simp only [writeLiteral, LiteralValue.normalized, writeTypeRef_normalized]

theorem writeValueDefinition_normalized (definition : ValueDefinition) :
    writeValueDefinition definition.normalized = writeValueDefinition definition := by
  simp only [writeValueDefinition, ValueDefinition.normalized, writeTypeRef_normalized]

theorem writeInstruction_normalized (instruction : Instruction) :
    writeInstruction instruction.normalized = writeInstruction instruction := by
  simp only [writeInstruction, Instruction.normalized,
    writeOptional_map writeValueDefinition_normalized, writeOptional_map writeLiteral_normalized]

theorem writeBlock_normalized (block : BasicBlock) :
    writeBlock block.normalized = writeBlock block := by
  simp only [writeBlock, BasicBlock.normalized, writeVector_map writeValueDefinition_normalized,
    writeVector_map writeInstruction_normalized]

theorem writeFunction_normalized (function : ProgramFunction) :
    writeFunction function.normalized = writeFunction function := by
  simp only [writeFunction, ProgramFunction.normalized,
    writeVector_map writeValueDefinition_normalized, writeTypeRef_normalized,
    writeOptional_map writeTypeRef_normalized, writeVector_map writeBlock_normalized]

theorem writeEntrypoint_normalized (entrypoint : ProgramEntrypoint) :
    writeEntrypoint entrypoint.normalized = writeEntrypoint entrypoint := by
  simp only [writeEntrypoint, ProgramEntrypoint.normalized, writeTypeRef_normalized]

end Rewriting
end Codec
end Savor.Program


import Savor.Predicates.PackageCodec

/-!
# Accepted predicate packages

The hashes of a package and its parts, the validation of a package, and its
encoding and decoding, which both end or begin with the validation.

SHA-256, the lowering of a definition into a module, the hash of a module, the
identities of the canonical actions and the authoring catalog are what the
validation consults.
-/

namespace Savor.Predicates

open Library.Wire
open Program

/-- The canonical actions that read guest memory. -/
inductive GuestRead
  | guestReadU8
  | guestReadU16
  | guestReadU32
  | guestReadU64

structure CompositionDiagnostic where
  (code message : ByteString)

structure CompositionResult where
  ok : Bool := false
  diagnostics : List CompositionDiagnostic := []

/-- The part of `PredicateAuthoringSourceV1` that schedules an observation. -/
structure PredicateAuthoringSource where
  identity : ExactDependencyIdentity
  evaluationHookIds : List ByteString

/-- What the validation of a package consults. -/
structure PackageEnvironment where
  sha256 : ByteString → ContentHash256
  lowerPredicate : PredicateDefinition → PredicateEvaluationPolicy →
    ProgramModule → CompositionResult × ProgramModule
  programModuleHash : ProgramModule → ContentHash256
  canonicalActionIdentity : GuestRead → ExactDependencyIdentity
  (querySources reducers : List PredicateAuthoringSource)

def kEmptyGroupId : ByteString := text "savor.predicate_group.empty"

/-- A module that was default constructed but for its identity. -/
def freshModule (identity : ModuleIdentity) : ProgramModule where
  identity := identity
  irVersion := canonicalIrVersionV1
  entrypoints := []
  functions := []
  localTypes := []
  moduleImports := []
  actionImports := []
  reducerImports := []
  typeImports := []
  requiredCapabilityPacks := []
  acceptedPolicies := ⟨[], [], false, false, false, false, false⟩
  budgets := ⟨0, 0, 0, 0, 0, 0, 0, 0, 0⟩
  sourceMap := ⟨1, []⟩

section Hashes

variable (env : PackageEnvironment)

/-- `Hash`: the digest as text. -/
def hashText (bytes : ByteString) : ByteString := (env.sha256 bytes).toHex

/-- `ComputePredicateHookContractHashV1`. -/
def hookContractHash (hook : PredicateHookContract) : ByteString :=
  hashText env (encodeHook hook false)

/-- `ComputePredicateDefinitionHashV1`: no text where the definition cannot be
lowered. -/
def definitionHash (definition : PredicateDefinition) : ByteString :=
  let policy : PredicateEvaluationPolicy :=
    { predicateGroupRevisionId := 1, executionBindingRevisionId := 1
      semanticPointId := text "authoring.validation" }
  let module := freshModule
    ⟨text "authoring.predicate." ++ definition.canonicalId, definition.revision, .zero⟩
  let lowered := env.lowerPredicate definition policy module
  if lowered.1.ok then (env.programModuleHash lowered.2).toHex else []

/-- `ComputePredicateExecutionBindingHashV1`. -/
def executionBindingHash (binding : PredicateExecutionBinding) : ByteString :=
  hashText env (encodeBinding binding false)

/-- `ComputeResolvedPredicateGroupHashV1`: the empty group has the hash of no
bytes. -/
def resolvedGroupHash (group : ResolvedPredicateGroup) : ByteString :=
  if group.canonicalId = kEmptyGroupId ∧ group.members = [] then
    hashText env []
  else hashText env (encodeGroup group false)

/-- `ComputePredicateExecutionPackageHashV1`. -/
def executionPackageHash (package : PredicateExecutionPackage) : ByteString :=
  hashText env (encodeContent package)

end Hashes

def receiptFieldValid (field : ByteString) (type : TypeRef) : Bool :=
  (field = text "pc" ∧ type = .ofBuiltin .u32) ∨
    ((field = text "movie_input_count" ∨ field = text "workset_epoch" ∨ field = text "vi_count") ∧
      type = .ofBuiltin .u64)

def guestReadFor (type : TypeRef) : Option GuestRead :=
  if type.isNamed then none
  else
    match type.builtin with
    | .u8 => some .guestReadU8
    | .u16 => some .guestReadU16
    | .u32 => some .guestReadU32
    | .u64 => some .guestReadU64
    | _ => none

def findBinding (package : PredicateExecutionPackage) (id : Int64) :
    Option PredicateExecutionBinding :=
  package.executionBindings.find? (·.executionBindingRevisionId = id)

def sourceSchedulableAt (env : PackageEnvironment)
    (source : PredicateWitnessSourceBinding) (hook : ByteString) : Bool :=
  match source.sourceKind with
  | .concreteValue | .currentHookReceipt | .pinnedGuestMemory => true
  | kind =>
    let list :=
      if source.observationSourceKind = .registeredReducer then env.reducers
      else env.querySources
    match source.source.bind fun identity => list.find? (·.identity = identity) with
    | none => false
    | some found =>
      if kind ≠ .derivedStateQuery then true
      else found.evaluationHookIds.contains hook

/-- Why a package is invalid: a code and a message. -/
structure Objection where
  (code message : ByteString)

def invalid (code message : String) : Objection := ⟨text code, text message⟩

/-- A check passes or tells why the package is invalid. -/
abbrev Check := Except Objection Unit

/-- Return the result unless the condition holds. -/
def require (condition : Prop) [Decidable condition] (code message : String) : Check :=
  if condition then .ok () else .error (invalid code message)

/-- No value occurs twice. -/
def distinct {α : Type} [DecidableEq α] : List α → Bool
  | [] => true
  | value :: values => !values.contains value && distinct values

/-- The hook contract has an identity, its hash, and distinct hooks. -/
def checkHookContract (env : PackageEnvironment) (hook : PredicateHookContract) : Check := do
  require (hook.canonicalId ≠ [] ∧ hook.revision ≠ 0 ∧
      hook.contentSha256 = hookContractHash env hook)
    "predicate.hook_contract_invalid"
    "predicate hook contract identity or hash is invalid"
  require ((∀ point ∈ hook.points, point.canonicalId ≠ [] ∧ point.pc ≠ 0) ∧
      distinct (hook.points.map (·.canonicalId)))
    "predicate.hook_contract_invalid"
    "predicate hook contract has an invalid or duplicate hook"

/-- The source of one witness of a definition. -/
def checkSource (env : PackageEnvironment) (hooks : List ByteString)
    (index : Nat) (witness : PredicateWitness)
    (source : PredicateWitnessSourceBinding) : Check := do
  require (source.witnessOrdinal.toNat = index ∧ source.valueType = witness.valueType)
    "predicate.witness_binding_invalid"
    "execution binding witness order or type is invalid"
  match source.sourceKind, source.concreteValue with
  | .concreteValue, concrete =>
    require ((∃ literal ∈ concrete, literal.type = source.valueType) ∧
        source.source = none ∧ source.pinnedGuestAddress = none ∧ source.baselineCaptureHookId = [])
      "predicate.witness_binding_invalid"
      "concrete witness source is malformed"
  | _, concrete =>
    require (concrete = none)
      "predicate.witness_binding_invalid"
      "non-concrete witness carries a concrete value"
  require (source.sourceKind = .currentHookReceipt →
      receiptFieldValid source.sourceField source.valueType)
    "predicate.witness_binding_invalid"
    "hook receipt field or type is unavailable"
  require (source.sourceKind = .pinnedGuestMemory → (∃ action ∈ guestReadFor source.valueType,
        source.source = some (env.canonicalActionIdentity action)) ∧
        source.pinnedGuestAddress.isSome)
    "predicate.witness_binding_invalid"
    "pinned guest-memory source is malformed"
  require (source.sourceKind = .derivedStateQuery →
      source.source.isSome ∧ source.observationSourceKind = .registeredQuery)
    "predicate.witness_binding_invalid"
    "derived-state witness requires one exact registered query"
  require (source.sourceKind = .baselineObservation → source.baselineCaptureHookId ∈ hooks ∧
        (source.observationSourceKind = .hookReceipt →
          receiptFieldValid source.sourceField source.valueType))
    "predicate.baseline_invalid"
    "baseline witness source is incomplete"

/-- The sources of the witnesses, in order. -/
def checkSources (env : PackageEnvironment) (hooks : List ByteString) :
    Nat → List PredicateWitness → List PredicateWitnessSourceBinding → Check
  | index, witness :: witnesses, source :: sources => do
      checkSource env hooks index witness source
      checkSources env hooks (index + 1) witnesses sources
  | _, _, _ => .ok ()

/-- The bindings, in order, where these row ids have been seen. -/
def checkBindings (env : PackageEnvironment) (hooks : List ByteString) :
    List Int64 → List PredicateExecutionBinding → Check
  | _, [] => .ok ()
  | seen, binding :: bindings => do
      require (0 < binding.executionBindingRevisionId ∧
          binding.canonicalId ≠ [] ∧ binding.revision ≠ 0 ∧
          binding.executionBindingRevisionId ∉ seen ∧
          binding.contentSha256 = executionBindingHash env binding)
        "predicate.binding_invalid"
        "predicate execution binding identity or hash is invalid"
      require (0 < binding.definition.revisionId ∧
          binding.definition.contentSha256 = definitionHash env binding.definition.definition ∧
          binding.witnesses.length = binding.definition.definition.witnesses.length)
        "predicate.definition_invalid"
        "execution binding definition or witness count is invalid"
      checkSources env hooks 0 binding.definition.definition.witnesses binding.witnesses
      checkBindings env hooks (binding.executionBindingRevisionId :: seen) bindings

/-- The hooks of a member are there and in time for what it observes. -/
def checkMemberHooks (env : PackageEnvironment) (hooks : List ByteString)
    (binding : PredicateExecutionBinding) : List ByteString → Check
  | [] => .ok ()
  | hook :: rest => do
      require (hook ∈ hooks)
        "predicate.hook_unavailable" "group member hook is unavailable"
      require (∀ source ∈ binding.witnesses,
          source.sourceKind = .derivedStateQuery → sourceSchedulableAt env source hook)
        "predicate.observation_unschedulable"
        "required Battle data cannot be captured before every selected evaluation hook"
      checkMemberHooks env hooks binding rest

/-- The definition can be lowered at every hook of the member. -/
def checkLowering (env : PackageEnvironment) (group : Int64)
    (member : PredicateGroupMember) (definition : PredicateDefinition) : List ByteString → Check
  | [] => .ok ()
  | hook :: rest => do
      let policy : PredicateEvaluationPolicy :=
        { predicateGroupRevisionId := group
          executionBindingRevisionId := member.executionBindingRevisionId
          memberOrdinal := member.ordinal
          semanticPointId := hook
          reaction := member.reaction
          emitEvidence := member.emitEvidence
          participatesInAggregation := member.participatesInAggregation }
      let lowered := (env.lowerPredicate definition policy (freshModule ⟨[], 0, .zero⟩)).1
      if lowered.ok then .ok ()
      else
        match lowered.diagnostics with
        | [] => .error (invalid "predicate.lowering_failed" "predicate could not be lowered")
        | diagnostic :: _ => .error ⟨diagnostic.code, diagnostic.message⟩
      checkLowering env group member definition rest

/-- The strings are in ascending order and none occurs twice. -/
def sortedUnique : List ByteString → Bool
  | first :: second :: rest => (first < second) && sortedUnique (second :: rest)
  | _ => true

/-- `==` of two literals, which compares numbers and not bits. -/
def literalsEqual (left right : LiteralValue) : Bool :=
  left.type = right.type &&
    match left.payload, right.payload with
    | .f32 left, .f32 right => left.equal right
    | .f64 left, .f64 right => left.equal right
    | left, right => left = right

/-- `==` of two witness sources. -/
def sourcesEqual (left right : PredicateWitnessSourceBinding) : Bool :=
  { left with concreteValue := none } = { right with concreteValue := none } &&
    match left.concreteValue, right.concreteValue with
    | some left, some right => literalsEqual left right
    | left, right => left.isNone && right.isNone

/-- A guard has the same witnesses, with the same sources. -/
def guardCompatible (guard binding : PredicateExecutionBinding) : Bool :=
  guard.definition.definition.witnesses = binding.definition.definition.witnesses &&
    guard.witnesses.length = binding.witnesses.length &&
    (guard.witnesses.zip binding.witnesses).all fun pair => sourcesEqual pair.1 pair.2

/-- One member of the group, and the bindings it requires. -/
def checkMember (env : PackageEnvironment) (package : PredicateExecutionPackage)
    (hooks : List ByteString) (index : Nat) (seen : List Int64)
    (member : PredicateGroupMember) : Check := do
  require (member.ordinal.toNat = index ∧ member.executionBindingRevisionId ∉ seen ∧
      member.semanticHookIds ≠ [] ∧ sortedUnique member.semanticHookIds)
    "predicate.group_member_invalid"
    "group members require ordered unique bindings and a sorted nonempty hook set"
  match findBinding package member.executionBindingRevisionId with
  | none =>
    .error (invalid "predicate.group_member_invalid"
      "group member references an unavailable execution binding")
  | some binding => do
      checkMemberHooks env hooks binding member.semanticHookIds
      require ((member.occurrence = .ordinal ↔ member.occurrenceOrdinal.isSome) ∧
          (member.occurrence = .guardOnce ↔ member.guardExecutionBindingRevisionId.isSome))
        "predicate.occurrence_invalid"
        "group member occurrence configuration is incomplete"
      require (member.guardExecutionBindingRevisionId.all fun id =>
          (findBinding package id).any (guardCompatible · binding))
        "predicate.occurrence_invalid"
        "GuardOnce requires a compatible published execution binding"
      checkLowering env package.group.predicateGroupRevisionId member
        binding.definition.definition member.semanticHookIds

/-- The members, in order, where these bindings have been seen. -/
def checkMembers (env : PackageEnvironment)
    (package : PredicateExecutionPackage) (hooks : List ByteString) :
    Nat → List Int64 → List PredicateGroupMember → Check
  | _, _, [] => .ok ()
  | index, seen, member :: members => do
      checkMember env package hooks index seen member
      checkMembers env package hooks (index + 1) (member.executionBindingRevisionId :: seen) members

/-- The bindings that the members name. -/
def requiredBindings (members : List PredicateGroupMember) : List Int64 :=
  members.flatMap fun member =>
    member.executionBindingRevisionId :: member.guardExecutionBindingRevisionId.toList

/-- The checks of `ValidatePredicateExecutionPackageV1`, in order. -/
def checkPackage (env : PackageEnvironment) (package : PredicateExecutionPackage) : Check := do
  checkHookContract env package.hookContract
  require (0 < package.group.predicateGroupRevisionId ∧
      package.group.canonicalId ≠ [] ∧ package.group.revision ≠ 0 ∧
      package.group.contentSha256 = resolvedGroupHash env package.group)
    "predicate.group_hash_mismatch"
    "predicate group identity or hash is invalid"
  require (package.contentSha256 = executionPackageHash env package)
    "predicate.package_hash_mismatch"
    "predicate execution package hash is invalid"
  if package.group.canonicalId = kEmptyGroupId then
    require (package.group.members = [] ∧ package.executionBindings = [])
      "predicate.empty_group_invalid"
      "canonical empty predicate group carries authored content"
  else do
    let hooks := package.hookContract.points.map (·.canonicalId)
    checkBindings env hooks [] package.executionBindings
    checkMembers env package hooks 0 [] package.group.members
    require
      ((∀ binding ∈ package.executionBindings,
          binding.executionBindingRevisionId ∈ requiredBindings package.group.members) ∧
        (requiredBindings package.group.members).all fun id =>
          id ∈ package.executionBindings.map (·.executionBindingRevisionId))
      "predicate.package_binding_mismatch"
      "execution package must contain exactly the bindings referenced by the group"

/-- `ValidatePredicateExecutionPackageV1`. -/
def validatePackage (env : PackageEnvironment)
    (package : PredicateExecutionPackage) : PackageValidationResult :=
  match checkPackage env package with
  | .ok () => ⟨true, [], []⟩
  | .error objection => ⟨false, objection.code, objection.message⟩

/-- Whether the call succeeded, the output, and the diagnostic. -/
structure Outcome (α : Type) where
  ok : Bool
  output : α
  diagnostic : ByteString

/-- The diagnostic of a package that is invalid. -/
def invalidDiagnostic (result : PackageValidationResult) : ByteString :=
  result.code ++ text ": " ++ result.message

/-- `EncodePredicateExecutionPackageV1`. -/
def encodeExecutionPackage (env : PackageEnvironment)
    (package : PredicateExecutionPackage) (output : ByteString) : Outcome ByteString :=
  let validation := validatePackage env package
  if validation.ok then ⟨true, encodePackage package, []⟩
  else ⟨false, output, invalidDiagnostic validation⟩

/-- `DecodePredicateExecutionPackageV1`. -/
def decodeExecutionPackage (env : PackageEnvironment) (input : ByteString)
    (output : PredicateExecutionPackage) : Outcome PredicateExecutionPackage :=
  match decodePackage () input with
  | .ok (package, []) =>
    let validation := validatePackage env package
    if validation.ok then ⟨true, package, []⟩
    else ⟨false, output, invalidDiagnostic validation⟩
  | _ => ⟨false, output, text "predicate execution package is malformed"⟩

end Savor.Predicates

import Savor.Codec.Functions

/-!
# Canonical modules

The canonical order of a module's set-like collections.  Each collection is
sorted by a key of its own, with a sort of which only the contract is known.
-/

namespace Savor.Program

open Library
open CapabilityPackIdentity

/-- `std::tie` on a canonical id and a version. -/
instance versionedKeyOrd : Ord (ByteString × UInt32) := lexOrd

instance : Std.TransOrd (ByteString × UInt32) := inferInstanceAs (@Std.TransOrd _ lexOrd)

instance : Std.LawfulEqOrd (ByteString × UInt32) := inferInstanceAs (@Std.LawfulEqOrd _ lexOrd)

/-- `std::tie` on the fields of an exact identity. -/
instance exactKeyOrd : Ord (ByteString × UInt32 × ByteString) := @lexOrd _ _ _ lexOrd

instance : Std.TransOrd (ByteString × UInt32 × ByteString) :=
  inferInstanceAs (@Std.TransOrd _ (@lexOrd _ _ _ lexOrd))

instance : Std.LawfulEqOrd (ByteString × UInt32 × ByteString) :=
  inferInstanceAs (@Std.LawfulEqOrd _ (@lexOrd _ _ _ lexOrd))

/-- `std::tie` on a key and a value. -/
instance entryKeyOrd : Ord (ByteString × ByteString) := lexOrd

instance : Std.TransOrd (ByteString × ByteString) := inferInstanceAs (@Std.TransOrd _ lexOrd)

instance : Std.LawfulEqOrd (ByteString × ByteString) := inferInstanceAs (@Std.LawfulEqOrd _ lexOrd)

def SchemaIdentity.key (identity : SchemaIdentity) : ByteString × UInt32 :=
  (identity.canonicalId, identity.version)

def SchemaIdentity.exactKey (identity : SchemaIdentity) : ByteString × UInt32 × ByteString :=
  (identity.canonicalId, identity.version, identity.schemaHash.bytes)

def CapabilityPackIdentity.key (identity : CapabilityPackIdentity) : ByteString × UInt32 :=
  (identity.canonicalId, identity.version)

def CapabilityPackIdentity.exactKey (identity : CapabilityPackIdentity) :
    ByteString × UInt32 × ByteString :=
  (identity.canonicalId, identity.version, identity.manifestHash.bytes)

def ExactDependencyIdentity.key (identity : ExactDependencyIdentity) : ByteString × UInt32 :=
  (identity.canonicalId, identity.version)

def ModuleImportIdentity.key (dependency : ModuleImportIdentity) : ByteString × UInt32 :=
  (dependency.module.canonicalId, dependency.module.revision)

def TypeSchemaDefinition.key (type : TypeSchemaDefinition) : ByteString × UInt32 :=
  type.identity.key

def ProvenanceEntry.exactKey (entry : ProvenanceEntry) : ByteString × ByteString :=
  (entry.key, entry.value)

theorem SchemaIdentity.exactKey_injective : Function.Injective SchemaIdentity.exactKey := by
  rintro ⟨_, _, ⟨_, _⟩⟩ ⟨_, _, ⟨_, _⟩⟩ same
  cases same
  rfl

theorem CapabilityPackIdentity.exactKey_injective : Function.Injective exactKey := by
  rintro ⟨_, _, ⟨_, _⟩⟩ ⟨_, _, ⟨_, _⟩⟩ same
  cases same
  rfl

theorem ProvenanceEntry.exactKey_injective : Function.Injective ProvenanceEntry.exactKey := by
  rintro ⟨_, _⟩ ⟨_, _⟩ same
  cases same
  rfl

namespace Codec

variable (sorting : UnstableSort)

def canonicalPolicySet (policies : ProgramPolicySet) : ProgramPolicySet :=
  { policies with
    statePolicies := sorting.sort (compareOn InvocationStatePolicy.ctorIdx) policies.statePolicies
    executionIntents := sorting.sort (compareOn ExecutionIntent.ctorIdx) policies.executionIntents }

/-- The entrypoint step of `CanonicalModule`. -/
def canonicalEntrypoint (entrypoint : ProgramEntrypoint) : ProgramEntrypoint :=
  { entrypoint with
    emissionSchemas := sorting.sort (compareOn SchemaIdentity.exactKey) entrypoint.emissionSchemas
    artifactSchemas := sorting.sort (compareOn SchemaIdentity.exactKey) entrypoint.artifactSchemas
    requiredCapabilityPacks := sorting.sort (compareOn exactKey) entrypoint.requiredCapabilityPacks
    acceptedPolicies := canonicalPolicySet sorting entrypoint.acceptedPolicies }

/-- The cases of a terminator are ordered where it is a switch. -/
def canonicalTerminator (terminator : Terminator) : Terminator :=
  if terminator.kind = .enumSwitch then
    { terminator with
      enumCases := sorting.sort (compareOn EnumSwitchCase.enumValue) terminator.enumCases }
  else terminator

/-- The block step of `CanonicalModule`. -/
def canonicalBlock (block : BasicBlock) : BasicBlock :=
  { block with terminator := canonicalTerminator sorting block.terminator }

/-- The function step of `CanonicalModule`. -/
def canonicalFunction (function : ProgramFunction) : ProgramFunction :=
  { function with
    blocks :=
      (sorting.sort (compareOn fun block : BasicBlock => block.id.value)
        function.blocks).map (canonicalBlock sorting) }

def canonicalModule (module : ProgramModule) : ProgramModule :=
  { module with
    entrypoints :=
      (sorting.sort (compareOn ProgramEntrypoint.name)
        module.entrypoints).map (canonicalEntrypoint sorting)
    functions :=
      (sorting.sort (compareOn fun function : ProgramFunction =>
        function.id.value) module.functions).map (canonicalFunction sorting)
    localTypes := sorting.sort (compareOn TypeSchemaDefinition.key) module.localTypes
    moduleImports := sorting.sort (compareOn ModuleImportIdentity.key) module.moduleImports
    actionImports := sorting.sort (compareOn ExactDependencyIdentity.key) module.actionImports
    reducerImports := sorting.sort (compareOn ExactDependencyIdentity.key) module.reducerImports
    typeImports := sorting.sort (compareOn SchemaIdentity.key) module.typeImports
    requiredCapabilityPacks := sorting.sort (compareOn key) module.requiredCapabilityPacks
    acceptedPolicies := canonicalPolicySet sorting module.acceptedPolicies
    sourceMap :=
      { module.sourceMap with
        entries :=
          sorting.sort (compareOn fun entry : SourceMapEntry => entry.id.value)
            module.sourceMap.entries } }

def hasDuplicate {α κ : Type} [DecidableEq κ] (values : List α) (key : α → κ) : Bool :=
  !decide (values.map key).Nodup

/-- A shape is rejected with a status. -/
def rejectIf (rejected : Bool) (error : CodecError) (message : String) : Except CodecStatus Unit :=
  if rejected then .error ⟨error, text message⟩ else .ok ()

/-- The entrypoint loop of `ValidateModuleShape`. -/
def validateEntrypointShape (entrypoint : ProgramEntrypoint) : Except CodecStatus Unit := do
  rejectIf (entrypoint.name.isEmpty || !entrypoint.function.isSet) .invalidValue
    "entrypoint identity is incomplete"
  rejectIf
    (hasDuplicate entrypoint.emissionSchemas SchemaIdentity.key ||
      hasDuplicate entrypoint.artifactSchemas SchemaIdentity.key ||
      hasDuplicate entrypoint.requiredCapabilityPacks key)
    .invalidValue "entrypoint contains duplicate declarations"

/-- The completeness of a dependency or local type identity. -/
def validateIdentityShape (canonicalId : ByteString) (version : UInt32)
    (hash : ContentHash256) (message : String) : Except CodecStatus Unit :=
  rejectIf (canonicalId.isEmpty || version == 0 || hash.isEmpty) .invalidValue message

/-- The block loop of `ValidateModuleShape`. -/
def validateBlockShape (block : BasicBlock) : Except CodecStatus Unit := do
  rejectIf (!block.id.isSet) .invalidValue "block ID must be nonzero"
  rejectIf (hasDuplicate block.instructions fun instruction =>
      instruction.id.value)
    .invalidValue "block contains duplicate instructions"

/-- The function loop of `ValidateModuleShape`. -/
def validateFunctionShape (function : ProgramFunction) : Except CodecStatus Unit := do
  rejectIf
    (!function.id.isSet || function.name.isEmpty || !function.entryBlock.isSet)
    .invalidValue "function identity is incomplete"
  rejectIf (hasDuplicate function.blocks fun block => block.id.value)
    .invalidValue "function contains duplicate blocks"
  function.blocks.forM validateBlockShape

def validateModuleShape (module : ProgramModule) : Except CodecStatus Unit := do
  rejectIf
    (module.identity.canonicalId.isEmpty || module.identity.revision == 0)
    .invalidValue "module identity is incomplete"
  rejectIf (module.irVersion != canonicalIrVersionV1) .unsupportedVersion
    "module IR version is unsupported"
  rejectIf (hasDuplicate module.entrypoints ProgramEntrypoint.name)
    .invalidValue "module contains duplicate entrypoints"
  module.entrypoints.forM validateEntrypointShape
  rejectIf (hasDuplicate module.functions fun function => function.id.value)
    .invalidValue "module contains duplicate function IDs"
  rejectIf (hasDuplicate module.localTypes TypeSchemaDefinition.key)
    .invalidValue "module contains duplicate local types"
  module.localTypes.forM fun type =>
    validateIdentityShape type.identity.canonicalId type.identity.version
      type.identity.schemaHash "local type identity is incomplete"
  rejectIf
    (hasDuplicate module.actionImports ExactDependencyIdentity.key ||
      hasDuplicate module.reducerImports ExactDependencyIdentity.key)
    .invalidValue "module contains duplicate exact dependencies"
  module.actionImports.forM fun dependency =>
    validateIdentityShape dependency.canonicalId dependency.version
      dependency.signatureHash "action dependency identity is incomplete"
  module.reducerImports.forM fun dependency =>
    validateIdentityShape dependency.canonicalId dependency.version
      dependency.signatureHash "reducer dependency identity is incomplete"
  rejectIf
    (hasDuplicate module.moduleImports ModuleImportIdentity.key ||
      hasDuplicate module.typeImports SchemaIdentity.key ||
      hasDuplicate module.requiredCapabilityPacks key)
    .invalidValue "module contains duplicate imports"
  rejectIf (hasDuplicate module.sourceMap.entries fun entry => entry.id.value)
    .invalidValue "module contains duplicate source-map locations"
  module.functions.forM validateFunctionShape

/-- `WriteModuleBody` after the module is brought into canonical order. -/
def writeModuleFields (module : ProgramModule) (hashMode : CanonicalHashMode) : Writer := do
  writeModuleIdentity module.identity hashMode
  writeU32 module.irVersion
  writeVector writeEntrypoint module.entrypoints
  writeVector writeFunction module.functions
  writeVector writeTypeSchema module.localTypes
  writeVector writeModuleImport module.moduleImports
  writeVector writeDependency module.actionImports
  writeVector writeDependency module.reducerImports
  writeVector writeSchemaIdentity module.typeImports
  writeVector writeCapabilityPack module.requiredCapabilityPacks
  writePolicySet module.acceptedPolicies
  writeBudgets module.budgets
  writeSourceMap module.sourceMap

def writeModuleBody (source : ProgramModule) (hashMode : CanonicalHashMode) : Writer :=
  writeModuleFields (canonicalModule sorting source) hashMode

/-- `ReadModuleBody` after the identity. -/
def readModuleFields (identity : ModuleIdentity) : Reader ProgramModule := do
  let irVersion ← readU32
  let entrypoints ← readVector readEntrypoint
  let functions ← readVector readFunction
  let localTypes ← readVector readTypeSchema
  let moduleImports ← readVector readModuleImport
  let actionImports ← readVector readDependency
  let reducerImports ← readVector readDependency
  let typeImports ← readVector readSchemaIdentity
  let requiredCapabilityPacks ← readVector readCapabilityPack
  let acceptedPolicies ← readPolicySet
  let budgets ← readBudgets
  let sourceMap ← readSourceMap
  pure
    { identity, irVersion, entrypoints, functions, localTypes, moduleImports
      actionImports, reducerImports, typeImports, requiredCapabilityPacks
      acceptedPolicies, budgets, sourceMap }

def readModuleBody : Reader ProgramModule := do
  let identity ← readModuleIdentity
  readModuleFields identity

end Codec

/-!
## The canonical form of a module

What `validateModuleShape` accepts, the canonical form, and the two facts about
it that the codec rests on: modules of the same content have the same canonical
form, and the canonical form has the content of the module.
-/

variable {α : Type} {form : α → α} {compare : α → α → Ordering}

open Library Library.Wire Codec

/-- A module with the type references a decoder builds. -/
def ProgramModule.normalized (module : ProgramModule) : ProgramModule :=
  { module with
    entrypoints := module.entrypoints.map ProgramEntrypoint.normalized
    functions := module.functions.map ProgramFunction.normalized
    localTypes := module.localTypes.map TypeSchemaDefinition.normalized }

/-- The canonical form of a module. -/
def ProgramModule.canonicalForm (sorting : UnstableSort) (module : ProgramModule) : ProgramModule :=
  (canonicalModule sorting module).normalized

/-- No two different cases of the terminator have the same value, unless the
terminator is no switch. -/
def Terminator.Unambiguous (terminator : Terminator) : Prop :=
  terminator.kind = .enumSwitch →
    Library.Unambiguous (compareOn EnumSwitchCase.enumValue) terminator.enumCases

/-- No switch of the function has two different cases of the same value. -/
def ProgramFunction.UnambiguousSwitches (function : ProgramFunction) : Prop :=
  ∀ block ∈ function.blocks, block.terminator.Unambiguous

/-- No switch of the module has two different cases of the same value. -/
def ProgramModule.UnambiguousSwitches (module : ProgramModule) : Prop :=
  ∀ function ∈ module.functions, function.UnambiguousSwitches

/-- The policies of the set in another order. -/
structure ProgramPolicySet.Reorders (policies other : ProgramPolicySet) : Prop where
  same : other =
    { policies with
      statePolicies := other.statePolicies
      executionIntents := other.executionIntents }
  statePolicies : other.statePolicies.Perm policies.statePolicies
  executionIntents : other.executionIntents.Perm policies.executionIntents

/-- The declarations of the entrypoint in another order. -/
structure ProgramEntrypoint.Reorders (entrypoint other : ProgramEntrypoint) : Prop where
  same : other =
    { entrypoint with
      emissionSchemas := other.emissionSchemas
      artifactSchemas := other.artifactSchemas
      requiredCapabilityPacks := other.requiredCapabilityPacks
      acceptedPolicies := other.acceptedPolicies }
  emissionSchemas : other.emissionSchemas.Perm entrypoint.emissionSchemas
  artifactSchemas : other.artifactSchemas.Perm entrypoint.artifactSchemas
  requiredCapabilityPacks : other.requiredCapabilityPacks.Perm entrypoint.requiredCapabilityPacks
  acceptedPolicies : entrypoint.acceptedPolicies.Reorders other.acceptedPolicies

/-- The cases of a switch in another order; other terminators stay. -/
structure Terminator.Reorders (terminator other : Terminator) : Prop where
  same : other = { terminator with enumCases := other.enumCases }
  enumCases : other.enumCases.Perm terminator.enumCases
  others : terminator.kind ≠ .enumSwitch → other.enumCases = terminator.enumCases

/-- The switch of the block in another order. -/
structure BasicBlock.Reorders (block other : BasicBlock) : Prop where
  same : other = { block with terminator := other.terminator }
  terminator : block.terminator.Reorders other.terminator

/-- The blocks of the function, reordered themselves, in another order. -/
structure ProgramFunction.Reorders (function other : ProgramFunction) : Prop where
  same : other = { function with blocks := other.blocks }
  blocks : Reordered BasicBlock.Reorders function.blocks other.blocks

/-- The set-like collections of the module in another authoring order. -/
structure ProgramModule.Reorders (module other : ProgramModule) : Prop where
  same : other =
    { module with
      entrypoints := other.entrypoints
      functions := other.functions
      localTypes := other.localTypes
      moduleImports := other.moduleImports
      actionImports := other.actionImports
      reducerImports := other.reducerImports
      typeImports := other.typeImports
      requiredCapabilityPacks := other.requiredCapabilityPacks
      acceptedPolicies := other.acceptedPolicies
      sourceMap := { module.sourceMap with entries := other.sourceMap.entries } }
  entrypoints : Reordered ProgramEntrypoint.Reorders module.entrypoints other.entrypoints
  functions : Reordered ProgramFunction.Reorders module.functions other.functions
  localTypes : other.localTypes.Perm module.localTypes
  moduleImports : other.moduleImports.Perm module.moduleImports
  actionImports : other.actionImports.Perm module.actionImports
  reducerImports : other.reducerImports.Perm module.reducerImports
  typeImports : other.typeImports.Perm module.typeImports
  requiredCapabilityPacks : other.requiredCapabilityPacks.Perm module.requiredCapabilityPacks
  acceptedPolicies : module.acceptedPolicies.Reorders other.acceptedPolicies
  sourceEntries : other.sourceMap.entries.Perm module.sourceMap.entries

/-- The shapes that `validateModuleShape` accepts. -/
structure ProgramModule.WellShaped (module : ProgramModule) : Prop where
  identity : (module.identity.canonicalId.isEmpty || module.identity.revision == 0) = false
  irVersion : module.irVersion = canonicalIrVersionV1
  entrypointNames : (module.entrypoints.map ProgramEntrypoint.name).Nodup
  entrypoints : ∀ entrypoint ∈ module.entrypoints, validateEntrypointShape entrypoint = .ok ()
  functionIds : (module.functions.map fun function => function.id.value).Nodup
  localTypeKeys : (module.localTypes.map TypeSchemaDefinition.key).Nodup
  localTypes : ∀ type ∈ module.localTypes,
    validateIdentityShape type.identity.canonicalId type.identity.version
      type.identity.schemaHash "local type identity is incomplete" = .ok ()
  actionKeys : (module.actionImports.map ExactDependencyIdentity.key).Nodup
  reducerKeys : (module.reducerImports.map ExactDependencyIdentity.key).Nodup
  actionImports : ∀ dependency ∈ module.actionImports,
    validateIdentityShape dependency.canonicalId dependency.version
      dependency.signatureHash "action dependency identity is incomplete" = .ok ()
  reducerImports : ∀ dependency ∈ module.reducerImports,
    validateIdentityShape dependency.canonicalId dependency.version
      dependency.signatureHash "reducer dependency identity is incomplete" = .ok ()
  moduleKeys : (module.moduleImports.map ModuleImportIdentity.key).Nodup
  typeKeys : (module.typeImports.map SchemaIdentity.key).Nodup
  packKeys : (module.requiredCapabilityPacks.map key).Nodup
  sourceIds : (module.sourceMap.entries.map fun entry => entry.id.value).Nodup
  functions : ∀ function ∈ module.functions, validateFunctionShape function = .ok ()

namespace Codec

section Shape

variable {α κ : Type}

theorem rejectIf_eq_ok {rejected : Bool} {error : CodecError} {message : String} :
    rejectIf rejected error message = .ok () ↔ rejected = false := by
  unfold rejectIf
  cases rejected <;> simp

theorem hasDuplicate_eq_false [DecidableEq κ] {values : List α} {key : α → κ} :
    hasDuplicate values key = false ↔ (values.map key).Nodup := by
  unfold hasDuplicate
  rw [Bool.not_eq_false', decide_eq_true_eq]

/-- A check is passed before the next one. -/
theorem bind_eq_ok {first second : Except CodecStatus Unit} :
    (do first; second) = .ok () ↔ first = .ok () ∧ second = .ok () := by
  cases first with
  | error | ok => simp [Bind.bind, Except.bind]

theorem forM_eq_ok {check : α → Except CodecStatus Unit} {values : List α} :
    values.forM check = .ok () ↔ ∀ value ∈ values, check value = .ok () := by
  induction values with
  | nil => simp [Pure.pure, Except.pure]
  | cons value values ih =>
    have unfolded : (value :: values).forM check = (do check value; values.forM check) := rfl
    rw [unfolded, bind_eq_ok, ih, List.forall_mem_cons]

theorem validateModuleShape_eq_ok {module : ProgramModule} :
    validateModuleShape module = .ok () ↔ module.WellShaped := by
  unfold validateModuleShape
  simp only [bind_eq_ok, forM_eq_ok, rejectIf_eq_ok, hasDuplicate_eq_false,
    Bool.or_eq_false_iff, bne_eq_false_iff_eq]
  constructor
  · rintro ⟨identity, irVersion, entrypointNames, entrypoints, functionIds,
      localTypeKeys, localTypes, ⟨actionKeys, reducerKeys⟩, actionImports,
      reducerImports, ⟨⟨moduleKeys, typeKeys⟩, packKeys⟩, sourceIds, functions⟩
    exact
      { identity := Bool.or_eq_false_iff.mpr identity
        irVersion, entrypointNames, entrypoints, functionIds, localTypeKeys
        localTypes, actionKeys, reducerKeys, actionImports, reducerImports
        moduleKeys, typeKeys, packKeys, sourceIds, functions }
  intro shaped
  exact ⟨Bool.or_eq_false_iff.mp shaped.identity, shaped.irVersion,
    shaped.entrypointNames, shaped.entrypoints, shaped.functionIds,
    shaped.localTypeKeys, shaped.localTypes,
    ⟨shaped.actionKeys, shaped.reducerKeys⟩, shaped.actionImports, shaped.reducerImports,
    ⟨⟨shaped.moduleKeys, shaped.typeKeys⟩, shaped.packKeys⟩, shaped.sourceIds, shaped.functions⟩

theorem blockIds_nodup {function : ProgramFunction}
    (shaped : validateFunctionShape function = .ok ()) :
    (function.blocks.map fun block => block.id.value).Nodup := by
  unfold validateFunctionShape at shaped
  simp only [bind_eq_ok, rejectIf_eq_ok, hasDuplicate_eq_false] at shaped
  exact shaped.2.1

end Shape

section Forms

variable (sorting : UnstableSort)

/-- The canonical form of an entrypoint. -/
def entrypointForm (entrypoint : ProgramEntrypoint) : ProgramEntrypoint :=
  (canonicalEntrypoint sorting entrypoint).normalized

/-- The canonical form of a block. -/
def blockForm (block : BasicBlock) : BasicBlock := (canonicalBlock sorting block).normalized

/-- The canonical form of a function. -/
def functionForm (function : ProgramFunction) : ProgramFunction :=
  (canonicalFunction sorting function).normalized

/-- The two modules consist of the same elements, up to the order of their
collections and up to what the canonical forms of the elements leave out. -/
structure SameContent (module other : ProgramModule) : Prop where
  identity : other.identity = module.identity
  irVersion : other.irVersion = module.irVersion
  entrypoints : (other.entrypoints.map (entrypointForm sorting)).Perm
    (module.entrypoints.map (entrypointForm sorting))
  functions : (other.functions.map (functionForm sorting)).Perm
    (module.functions.map (functionForm sorting))
  localTypes : (other.localTypes.map TypeSchemaDefinition.normalized).Perm
    (module.localTypes.map TypeSchemaDefinition.normalized)
  moduleImports : other.moduleImports.Perm module.moduleImports
  actionImports : other.actionImports.Perm module.actionImports
  reducerImports : other.reducerImports.Perm module.reducerImports
  typeImports : other.typeImports.Perm module.typeImports
  requiredCapabilityPacks : other.requiredCapabilityPacks.Perm module.requiredCapabilityPacks
  acceptedPolicies : canonicalPolicySet sorting other.acceptedPolicies =
    canonicalPolicySet sorting module.acceptedPolicies
  budgets : other.budgets = module.budgets
  sourceVersion : other.sourceMap.version = module.sourceMap.version
  sourceEntries : other.sourceMap.entries.Perm module.sourceMap.entries

theorem sort_forms_eq {α κ : Type} [Ord κ] [Std.TransOrd κ]
    [Std.LawfulEqOrd κ] {key : α → κ} {left right : List α} (form : α → α)
    (distinct : (left.map key).Nodup) (keeps : ∀ value, key (form value) = key value)
    (permutes : (right.map form).Perm (left.map form)) :
    (sorting.sort (compareOn key) right).map form =
      (sorting.sort (compareOn key) left).map form := by
  refine sorting.sort_map_eq ?_ ?_ permutes
  · refine .of_nodup key (fun _ _ equal => compareOn_eq_iff.mp equal) ?_
    rw [List.map_map]
    have same : key ∘ form = key := funext keeps
    rwa [same]
  · intro first second
    simp only [compareOn, keeps]

theorem sort_keyed_eq {α κ : Type} [Ord κ] [Std.TransOrd κ]
    [Std.LawfulEqOrd κ] {key : α → κ} {left right : List α}
    (distinct : (left.map key).Nodup) (permutes : right.Perm left) :
    sorting.sort (compareOn key) right = sorting.sort (compareOn key) left :=
  sorting.sort_eq_of_perm
    (.of_nodup key (fun _ _ equal => compareOn_eq_iff.mp equal) distinct)
    permutes

/-- Lists sorted by all of their elements' content agree when they are
permutations. -/
theorem sort_exact_eq {α κ : Type} [Ord κ] [Std.TransOrd κ]
    [Std.LawfulEqOrd κ] {key : α → κ} {left right : List α}
    (exact : Function.Injective key) (permutes : right.Perm left) :
    sorting.sort (compareOn key) right = sorting.sort (compareOn key) left :=
  sorting.sort_eq_of_perm (fun _ _ _ _ equal => exact (compareOn_eq_iff.mp equal)) permutes

variable {sorting}

theorem statePolicy_injective : Function.Injective InvocationStatePolicy.ctorIdx := by
  intro first second same
  cases first <;> cases second <;> first | rfl | cases same

theorem executionIntent_injective : Function.Injective ExecutionIntent.ctorIdx := by
  intro first second same
  cases first <;> cases second <;> first | rfl | cases same

theorem canonicalForm_entrypoints (module : ProgramModule) :
    (module.canonicalForm sorting).entrypoints = (sorting.sort (compareOn ProgramEntrypoint.name)
        module.entrypoints).map (entrypointForm sorting) :=
  List.map_map

theorem canonicalForm_functions (module : ProgramModule) :
    (module.canonicalForm sorting).functions =
      (sorting.sort (compareOn fun function : ProgramFunction =>
        function.id.value) module.functions).map (functionForm sorting) :=
  List.map_map

theorem functionForm_blocks (function : ProgramFunction) : (functionForm sorting function).blocks =
      (sorting.sort (compareOn fun block : BasicBlock => block.id.value)
        function.blocks).map (blockForm sorting) :=
  List.map_map

theorem SameContent.canonicalForm_eq {module other : ProgramModule}
    (shaped : module.WellShaped) (same : SameContent sorting module other) :
    other.canonicalForm sorting = module.canonicalForm sorting := by
  have entrypoints := sort_forms_eq sorting (entrypointForm sorting)
    shaped.entrypointNames (fun _ => rfl) same.entrypoints
  have functions := sort_forms_eq sorting (functionForm sorting) shaped.functionIds
    (fun _ => rfl) same.functions
  have localTypes := sort_forms_eq sorting TypeSchemaDefinition.normalized
    shaped.localTypeKeys (fun _ => rfl) same.localTypes
  rw [← canonicalForm_entrypoints, ← canonicalForm_entrypoints] at entrypoints
  rw [← canonicalForm_functions, ← canonicalForm_functions] at functions
  have moduleImports := sort_keyed_eq sorting shaped.moduleKeys same.moduleImports
  have actionImports := sort_keyed_eq sorting shaped.actionKeys same.actionImports
  have reducerImports := sort_keyed_eq sorting shaped.reducerKeys same.reducerImports
  have typeImports := sort_keyed_eq sorting shaped.typeKeys same.typeImports
  have packs := sort_keyed_eq sorting shaped.packKeys same.requiredCapabilityPacks
  have sourceEntries := sort_keyed_eq sorting shaped.sourceIds same.sourceEntries
  unfold ProgramModule.canonicalForm ProgramModule.normalized at *
  unfold canonicalModule at *
  simp only at entrypoints functions localTypes ⊢
  rw [entrypoints, functions, localTypes, moduleImports, actionImports,
    reducerImports, typeImports, packs, sourceEntries, same.acceptedPolicies,
    same.identity, same.irVersion, same.budgets, same.sourceVersion]

end Forms

section Reordering

variable {sorting : UnstableSort}

theorem canonicalPolicySet_eq {policies other : ProgramPolicySet}
    (reorders : policies.Reorders other) :
    canonicalPolicySet sorting other = canonicalPolicySet sorting policies := by
  rw [reorders.same]
  unfold canonicalPolicySet
  rw [sort_exact_eq sorting statePolicy_injective reorders.statePolicies,
    sort_exact_eq sorting executionIntent_injective reorders.executionIntents]

theorem canonicalPolicySet_reorders (policies : ProgramPolicySet) :
    policies.Reorders (canonicalPolicySet sorting policies) :=
  ⟨rfl, sorting.perm _ _, sorting.perm _ _⟩

theorem canonicalEntrypoint_eq {entrypoint other : ProgramEntrypoint}
    (reorders : entrypoint.Reorders other) : canonicalEntrypoint sorting other =
      canonicalEntrypoint sorting entrypoint := by
  rw [reorders.same]
  unfold canonicalEntrypoint
  rw [sort_exact_eq sorting SchemaIdentity.exactKey_injective reorders.emissionSchemas,
    sort_exact_eq sorting SchemaIdentity.exactKey_injective reorders.artifactSchemas,
    sort_exact_eq sorting exactKey_injective reorders.requiredCapabilityPacks,
    canonicalPolicySet_eq reorders.acceptedPolicies]

theorem canonicalEntrypoint_reorders (entrypoint : ProgramEntrypoint) :
    entrypoint.Reorders (canonicalEntrypoint sorting entrypoint) :=
  ⟨rfl, sorting.perm _ _, sorting.perm _ _, sorting.perm _ _, canonicalPolicySet_reorders _⟩

theorem canonicalTerminator_eq {terminator other : Terminator}
    (unambiguous : terminator.Unambiguous) (reorders : terminator.Reorders other) :
    canonicalTerminator sorting other = canonicalTerminator sorting terminator := by
  have kind : other.kind = terminator.kind := by rw [reorders.same]
  unfold canonicalTerminator
  rw [kind]
  split
  · rename_i isSwitch
    rw [sorting.sort_eq_of_perm (unambiguous isSwitch) reorders.enumCases, reorders.same]
  rename_i noSwitch
  have same := reorders.same
  rw [reorders.others noSwitch] at same
  exact same

theorem canonicalTerminator_reorders (terminator : Terminator) :
    terminator.Reorders (canonicalTerminator sorting terminator) := by
  unfold canonicalTerminator
  split
  · rename_i isSwitch
    exact ⟨rfl, sorting.perm _ _, fun noSwitch => absurd isSwitch noSwitch⟩
  · exact ⟨rfl, .refl _, fun _ => rfl⟩

theorem canonicalBlock_eq {block other : BasicBlock} (unambiguous : block.terminator.Unambiguous)
    (reorders : block.Reorders other) :
    canonicalBlock sorting other = canonicalBlock sorting block := by
  rw [reorders.same]
  unfold canonicalBlock
  rw [canonicalTerminator_eq unambiguous reorders.terminator]

theorem canonicalBlock_reorders (block : BasicBlock) :
    block.Reorders (canonicalBlock sorting block) :=
  ⟨rfl, canonicalTerminator_reorders _⟩

theorem blockForm_eq {block other : BasicBlock} (unambiguous : block.terminator.Unambiguous)
    (reorders : block.Reorders other) : blockForm sorting other = blockForm sorting block :=
  congrArg BasicBlock.normalized (canonicalBlock_eq unambiguous reorders)

theorem functionForm_eq {function other : ProgramFunction}
    (shaped : validateFunctionShape function = .ok ())
    (same : { other.normalized with blocks := [] } = { function.normalized with blocks := [] })
    (blocks : (other.blocks.map (blockForm sorting)).Perm
      (function.blocks.map (blockForm sorting))) :
    functionForm sorting other = functionForm sorting function := by
  have forms := sort_forms_eq sorting (blockForm sorting)
    (blockIds_nodup shaped) (fun _ => rfl) blocks
  rw [← functionForm_blocks, ← functionForm_blocks] at forms
  simp only [ProgramFunction.normalized, ProgramFunction.mk.injEq] at same
  obtain ⟨id, name, arguments, outputType, domainOutcomeType, entryBlock, _, exported⟩ := same
  unfold functionForm canonicalFunction ProgramFunction.normalized at *
  simp only at forms ⊢
  rw [forms, id, name, arguments, outputType, domainOutcomeType, entryBlock, exported]

theorem forms_perm {α : Type} {reorders : α → α → Prop} {form : α → α}
    {left right : List α} (reordered : Reordered reorders left right)
    (same : ∀ first ∈ left, ∀ second, reorders first second → form second = form first) :
    (right.map form).Perm (left.map form) := by
  obtain ⟨middle, changed, permutes⟩ := reordered
  have forms : middle.map form = left.map form := by
    clear permutes
    induction changed with
    | nil => rfl
    | cons change changes ih =>
      rw [List.map_cons, List.map_cons, same _ List.mem_cons_self _ change,
        ih fun first member => same first (List.mem_cons_of_mem _ member)]
  rw [← forms]
  exact permutes.map form

theorem functionForm_eq_of_reorders {function other : ProgramFunction}
    (shaped : validateFunctionShape function = .ok ()) (unambiguous : function.UnambiguousSwitches)
    (reorders : function.Reorders other) :
    functionForm sorting other = functionForm sorting function := by
  refine functionForm_eq shaped ?_ ?_
  · rw [reorders.same]
    rfl
  · exact forms_perm reorders.blocks fun block member _ change =>
      blockForm_eq (unambiguous block member) change

theorem SameContent.of_reorders {module other : ProgramModule}
    (shaped : module.WellShaped) (unambiguous : module.UnambiguousSwitches)
    (reorders : module.Reorders other) : SameContent sorting module other where
  identity := by rw [reorders.same]
  irVersion := by rw [reorders.same]
  entrypoints := forms_perm reorders.entrypoints fun _ _ _ change =>
    congrArg ProgramEntrypoint.normalized (canonicalEntrypoint_eq change)
  functions := forms_perm reorders.functions fun function member _ change =>
    functionForm_eq_of_reorders (shaped.functions function member)
      (unambiguous function member) change
  localTypes := reorders.localTypes.map _
  moduleImports := reorders.moduleImports
  actionImports := reorders.actionImports
  reducerImports := reorders.reducerImports
  typeImports := reorders.typeImports
  requiredCapabilityPacks := reorders.requiredCapabilityPacks
  acceptedPolicies := canonicalPolicySet_eq reorders.acceptedPolicies
  budgets := by rw [reorders.same]
  sourceVersion := by rw [reorders.same]
  sourceEntries := reorders.sourceEntries

end Reordering

section Normalizing

/-- Normalizing twice elementwise is normalizing once. -/
theorem map_map_self {α : Type} {view : α → α}
    (again : ∀ value, view (view value) = view value) (values : List α) :
    (values.map view).map view = values.map view := by
  rw [List.map_map]
  exact List.map_congr_left fun value _ => again value

theorem option_map_map_self {α : Type} {view : α → α}
    (again : ∀ value, view (view value) = view value) (value : Option α) :
    (value.map view).map view = value.map view := by
  cases value with
  | none => rfl
  | some value => exact congrArg some (again value)

theorem recordField_normalized_again (field : RecordFieldDefinition) :
    field.normalized.normalized = field.normalized := by
  simp only [RecordFieldDefinition.normalized, typeRef_normalized_again]

theorem typeSchema_normalized_again (schema : TypeSchemaDefinition) :
    schema.normalized.normalized = schema.normalized := by
  simp only [TypeSchemaDefinition.normalized, option_map_map_self typeRef_normalized_again,
    map_map_self recordField_normalized_again]

theorem literal_normalized_again (literal : LiteralValue) :
    literal.normalized.normalized = literal.normalized := by
  simp only [LiteralValue.normalized, typeRef_normalized_again]

theorem valueDefinition_normalized_again (definition : ValueDefinition) :
    definition.normalized.normalized = definition.normalized := by
  simp only [ValueDefinition.normalized, typeRef_normalized_again]

theorem instruction_normalized_again (instruction : Instruction) :
    instruction.normalized.normalized = instruction.normalized := by
  simp only [Instruction.normalized, option_map_map_self valueDefinition_normalized_again,
    option_map_map_self literal_normalized_again]

theorem block_normalized_again (block : BasicBlock) :
    block.normalized.normalized = block.normalized := by
  simp only [BasicBlock.normalized, map_map_self valueDefinition_normalized_again,
    map_map_self instruction_normalized_again]

theorem function_normalized_again (function : ProgramFunction) :
    function.normalized.normalized = function.normalized := by
  simp only [ProgramFunction.normalized,
    map_map_self valueDefinition_normalized_again, typeRef_normalized_again,
    option_map_map_self typeRef_normalized_again, map_map_self block_normalized_again]

theorem entrypoint_normalized_again (entrypoint : ProgramEntrypoint) :
    entrypoint.normalized.normalized = entrypoint.normalized := by
  simp only [ProgramEntrypoint.normalized, typeRef_normalized_again]

end Normalizing

section CanonicalForm

variable {sorting : UnstableSort}

theorem entrypointForm_again (entrypoint : ProgramEntrypoint) :
    entrypointForm sorting (entrypointForm sorting entrypoint) =
      entrypointForm sorting entrypoint := by
  have commutes : entrypointForm sorting (entrypointForm sorting entrypoint) =
      (canonicalEntrypoint sorting
        (canonicalEntrypoint sorting entrypoint)).normalized.normalized := rfl
  rw [commutes, entrypoint_normalized_again,
    canonicalEntrypoint_eq (canonicalEntrypoint_reorders entrypoint)]
  rfl

theorem blockForm_again {block : BasicBlock} (unambiguous : block.terminator.Unambiguous) :
    blockForm sorting (blockForm sorting block) = blockForm sorting block := by
  have commutes : blockForm sorting (blockForm sorting block) =
      (canonicalBlock sorting (canonicalBlock sorting block)).normalized.normalized := rfl
  rw [commutes, block_normalized_again,
    canonicalBlock_eq unambiguous (canonicalBlock_reorders block)]
  rfl

theorem sorted_forms_perm {list : List α} (again : ∀ value ∈ list, form (form value) = form value) :
    (((sorting.sort compare list).map form).map form).Perm (list.map form) := by
  have forms : ((sorting.sort compare list).map form).map form =
      (sorting.sort compare list).map form := by
    rw [List.map_map]
    exact List.map_congr_left fun value member => again value (sorting.mem_sort.mp member)
  rw [forms]
  exact (sorting.perm _ _).map form

theorem functionForm_again {function : ProgramFunction}
    (shaped : validateFunctionShape function = .ok ())
    (unambiguous : function.UnambiguousSwitches) :
    functionForm sorting (functionForm sorting function) = functionForm sorting function := by
  refine functionForm_eq shaped ?_ ?_
  · have again := function_normalized_again { function with blocks := [] }
    unfold functionForm canonicalFunction
    simp only [ProgramFunction.normalized, ProgramFunction.mk.injEq, List.map_nil] at again ⊢
    exact again
  rw [functionForm_blocks]
  exact sorted_forms_perm fun block member => blockForm_again (unambiguous block member)

theorem sameContent_canonicalForm {module : ProgramModule}
    (shaped : module.WellShaped) (unambiguous : module.UnambiguousSwitches) :
    SameContent sorting module (module.canonicalForm sorting) where
  identity := rfl
  irVersion := rfl
  entrypoints := by
    rw [canonicalForm_entrypoints]
    exact sorted_forms_perm fun entrypoint _ => entrypointForm_again entrypoint
  functions := by
    rw [canonicalForm_functions]
    exact sorted_forms_perm fun function member =>
      functionForm_again (shaped.functions function member) (unambiguous function member)
  localTypes := sorted_forms_perm fun schema _ => typeSchema_normalized_again schema
  moduleImports := sorting.perm _ _
  actionImports := sorting.perm _ _
  reducerImports := sorting.perm _ _
  typeImports := sorting.perm _ _
  requiredCapabilityPacks := sorting.perm _ _
  acceptedPolicies := canonicalPolicySet_eq (canonicalPolicySet_reorders module.acceptedPolicies)
  budgets := rfl
  sourceVersion := rfl
  sourceEntries := sorting.perm _ _

/-- What holds of the elements of one list holds of those of another with the
same forms. -/
theorem forall_of_forms {property : α → Prop}
    {left right : List α} (permutes : (right.map form).Perm (left.map form))
    (keeps : ∀ value, property (form value) ↔ property value)
    (holds : ∀ value ∈ left, property value) : ∀ value ∈ right, property value := by
  intro value member
  have formMember := permutes.mem_iff.mp (List.mem_map_of_mem member)
  obtain ⟨original, originalMember, same⟩ := List.mem_map.mp formMember
  rw [← keeps, ← same, keeps]
  exact holds original originalMember

theorem nodup_of_forms {κ : Type} (key : α → κ)
    {left right : List α} (permutes : (right.map form).Perm (left.map form))
    (keeps : ∀ value, key (form value) = key value) (distinct : (left.map key).Nodup) :
    (right.map key).Nodup := by
  have keys := permutes.map key
  have same : key ∘ form = key := funext keeps
  rw [List.map_map, List.map_map, same] at keys
  exact keys.nodup_iff.mpr distinct

theorem nodup_of_perm {κ : Type} (key : α → κ) {left right : List α}
    (permutes : right.Perm left) (distinct : (left.map key).Nodup) : (right.map key).Nodup :=
  (permutes.map key).nodup_iff.mpr distinct

theorem nodup_sort {κ : Type} {key : α → κ} {list : List α} :
    ((sorting.sort compare list).map key).Nodup ↔ (list.map key).Nodup :=
  ((sorting.perm compare list).map key).nodup_iff

theorem entrypointForm_shape (entrypoint : ProgramEntrypoint) :
    validateEntrypointShape (entrypointForm sorting entrypoint) = .ok () ↔
      validateEntrypointShape entrypoint = .ok () := by
  unfold validateEntrypointShape entrypointForm canonicalEntrypoint ProgramEntrypoint.normalized
  simp only [bind_eq_ok, rejectIf_eq_ok, hasDuplicate_eq_false, Bool.or_eq_false_iff, nodup_sort]

theorem blockForm_shape (block : BasicBlock) :
    validateBlockShape (blockForm sorting block) = .ok () ↔ validateBlockShape block = .ok () := by
  unfold validateBlockShape blockForm canonicalBlock BasicBlock.normalized
  simp only [bind_eq_ok, rejectIf_eq_ok, hasDuplicate_eq_false, List.map_map]
  rfl

theorem functionForm_shape (function : ProgramFunction) :
    validateFunctionShape (functionForm sorting function) = .ok () ↔
      validateFunctionShape function = .ok () := by
  unfold validateFunctionShape
  simp only [bind_eq_ok, forM_eq_ok, rejectIf_eq_ok, hasDuplicate_eq_false,
    functionForm_blocks, List.map_map, List.forall_mem_map, blockForm_shape, sorting.mem_sort]
  have ids : (fun block : BasicBlock => block.id.value) ∘ blockForm sorting =
      fun block => block.id.value := rfl
  rw [ids, nodup_sort]
  rfl

theorem SameContent.wellShaped {module other : ProgramModule}
    (shaped : module.WellShaped) (same : SameContent sorting module other) : other.WellShaped where
  identity := by
    rw [same.identity]
    exact shaped.identity
  irVersion := same.irVersion.trans shaped.irVersion
  entrypointNames := nodup_of_forms _ same.entrypoints (fun _ => rfl) shaped.entrypointNames
  entrypoints := forall_of_forms same.entrypoints entrypointForm_shape shaped.entrypoints
  functionIds := nodup_of_forms _ same.functions (fun _ => rfl) shaped.functionIds
  localTypeKeys := nodup_of_forms _ same.localTypes (fun _ => rfl) shaped.localTypeKeys
  localTypes := forall_of_forms same.localTypes (fun _ => .rfl) shaped.localTypes
  actionKeys := nodup_of_perm _ same.actionImports shaped.actionKeys
  reducerKeys := nodup_of_perm _ same.reducerImports shaped.reducerKeys
  actionImports dependency member := shaped.actionImports dependency
    (same.actionImports.mem_iff.mp member)
  reducerImports dependency member := shaped.reducerImports dependency
    (same.reducerImports.mem_iff.mp member)
  moduleKeys := nodup_of_perm _ same.moduleImports shaped.moduleKeys
  typeKeys := nodup_of_perm _ same.typeImports shaped.typeKeys
  packKeys := nodup_of_perm _ same.requiredCapabilityPacks shaped.packKeys
  sourceIds := nodup_of_perm _ same.sourceEntries shaped.sourceIds
  functions := forall_of_forms same.functions functionForm_shape shaped.functions

theorem writeModuleFields_normalized (module : ProgramModule) (hashMode : CanonicalHashMode) :
    writeModuleFields module.normalized hashMode = writeModuleFields module hashMode := by
  simp only [writeModuleFields, ProgramModule.normalized,
    writeVector_map writeEntrypoint_normalized, writeVector_map writeFunction_normalized,
    writeVector_map writeTypeSchema_normalized]

theorem writeModuleBody_eq (module : ProgramModule) (hashMode : CanonicalHashMode) :
    writeModuleBody sorting module hashMode =
      writeModuleFields (module.canonicalForm sorting) hashMode :=
  (writeModuleFields_normalized _ _).symm

theorem writeModuleBody_matches {limits : CodecLimits}
    {hashMode : CanonicalHashMode} {readIdentity : Reader ModuleIdentity} (module : ProgramModule)
    (identity : Matches limits (writeModuleIdentity module.identity hashMode)
      readIdentity module.identity) :
    Matches limits (writeModuleBody sorting module hashMode)
      (readIdentity >>= readModuleFields) (module.canonicalForm sorting) :=
  .bind identity <| .coded <| .coded <| .coded <| .coded <| .coded <| .coded <|
    .coded <| .coded <| .coded <| .coded <| .coded <| .last rfl

end CanonicalForm
end Codec
end Savor.Program


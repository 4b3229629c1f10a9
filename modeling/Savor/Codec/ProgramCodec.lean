import Savor.Codec.Result

/-!
# The program codec

The encoders and decoders of modules, invocations, emissions and results, and
the module hash.  SHA-256 is a function that may fail, of which nothing else is
known.
-/

namespace Savor.Program

open Library Library.Wire Codec

/-- A hash function, or a failure of the library that computes it. -/
abbrev HashFunction := ByteString → Option ContentHash256

namespace Codec

/-- `kModuleMagic`. -/
def moduleMagic : ByteString := text "SPRM"

/-- `kDependencyLockMagic`. -/
def dependencyLockMagic : ByteString := text "SPRD"

/-- `kInvocationMagic`. -/
def invocationMagic : ByteString := text "SPRI"

/-- `kEmissionMagic`. -/
def emissionMagic : ByteString := text "SPRE"

/-- `kResultMagic`. -/
def resultMagic : ByteString := text "SPRR"

variable (sorting : UnstableSort) (sha256 : HashFunction)

def encodeProgramModuleV1 (module : ProgramModule)
    (hashMode : CanonicalHashMode) (limits : CodecLimits) : EncodeResult := do
  validateModuleShape module
  encodeEnvelope moduleMagic limits (writeModuleBody sorting module hashMode)

/-- The hash of encoded bytes, zero where the hash function fails. -/
def hashBytes (encoded : EncodeResult) : ContentHash256 :=
  match encoded with
  | .error _ => .zero
  | .ok bytes => (sha256 bytes).getD .zero

def computeProgramModuleHashV1 (module : ProgramModule) : ContentHash256 :=
  hashBytes sha256 (encodeProgramModuleV1 sorting module .omitDeclaredHash {})

def computeProgramDependencyLockHashV1 (lock : ProgramDependencyLock)
    (limits : CodecLimits) : ContentHash256 :=
  hashBytes sha256 (encodeEnvelope dependencyLockMagic limits (writeDependencyLock sorting lock))

def validateProgramModuleIdentityV1 (module : ProgramModule) : Except CodecStatus Unit := do
  validateModuleShape module
  rejectIf module.identity.moduleHash.isEmpty .hashMismatch
    "module hash is absent"
  let actual := computeProgramModuleHashV1 sorting sha256 module
  rejectIf actual.isEmpty .hashFailure "module hash computation failed"
  rejectIf (actual != module.identity.moduleHash) .hashMismatch
    "module hash does not match canonical bytes"

def decodeProgramModuleV1 (bytes : ByteString) (limits : CodecLimits) :
    DecodeResult ProgramModule :=
  let result := decodeCanonical bytes moduleMagic limits readModuleBody
    fun module => encodeProgramModuleV1 sorting module .includeDeclaredHash
  match result.status, result.value with
  | none, some module =>
    match validateProgramModuleIdentityV1 sorting sha256 module with
    | .error status => ⟨some status, none, result.consumed⟩
    | .ok () => result
  | _, _ => result

def encodeProgramInvocationV1 (invocation : ProgramInvocation)
    (limits : CodecLimits) : EncodeResult :=
  encodeEnvelope invocationMagic limits (writeInvocationBody sorting invocation)

def decodeProgramInvocationV1 (bytes : ByteString) (limits : CodecLimits) :
    DecodeResult ProgramInvocation :=
  decodeCanonical bytes invocationMagic limits readInvocationBody
    (encodeProgramInvocationV1 sorting)

def encodeProgramEmissionV1 (emission : ProgramEmission) (limits : CodecLimits) : EncodeResult :=
  encodeEnvelope emissionMagic limits (writeEmission sorting emission)

def decodeProgramEmissionV1 (bytes : ByteString) (limits : CodecLimits) :
    DecodeResult ProgramEmission :=
  decodeCanonical bytes emissionMagic limits readEmission (encodeProgramEmissionV1 sorting)

def encodeProgramResultV1 (result : ProgramResult) (limits : CodecLimits) : EncodeResult := do
  rejectIf (!result.isAuthoritative) .invalidValue
    "program result contains an incomplete internal artifact"
  encodeEnvelope resultMagic limits (writeResultBody sorting result)

def decodeProgramResultV1 (bytes : ByteString) (limits : CodecLimits) :
    DecodeResult ProgramResult :=
  decodeCanonical bytes resultMagic limits readResultBody (encodeProgramResultV1 sorting)

section Encoding

variable {sorting sha256}
variable {module other : ProgramModule} {hashMode : CanonicalHashMode}
variable {limits : CodecLimits} {bytes : ByteString}

/-- A check before an encoder. -/
theorem check_bind_eq_ok {check : Except CodecStatus Unit} {encoded : EncodeResult} :
    (do check; encoded) = .ok bytes ↔ check = .ok () ∧ encoded = .ok bytes := by
  cases check with
  | error | ok => simp [Bind.bind, Except.bind]

theorem encodeProgramModuleV1_ok :
    encodeProgramModuleV1 sorting module hashMode limits = .ok bytes ↔ module.WellShaped ∧
      encodeEnvelope moduleMagic limits
        (writeModuleFields (module.canonicalForm sorting) hashMode) = .ok bytes := by
  unfold encodeProgramModuleV1
  rw [check_bind_eq_ok, validateModuleShape_eq_ok, writeModuleBody_eq]

theorem encodeProgramModuleV1_congr (shaped : module.WellShaped) (otherShaped : other.WellShaped)
    (same : other.canonicalForm sorting = module.canonicalForm sorting) :
    encodeProgramModuleV1 sorting other hashMode limits =
      encodeProgramModuleV1 sorting module hashMode limits := by
  unfold encodeProgramModuleV1
  rw [validateModuleShape_eq_ok.mpr shaped,
    validateModuleShape_eq_ok.mpr otherShaped, writeModuleBody_eq, writeModuleBody_eq, same]

theorem encodeEnvelope_rewrites {magic : ByteString} {body body' : Writer}
    (rewrites : Rewrites limits body body')
    (encoded : encodeEnvelope magic limits body = .ok bytes) :
    encodeEnvelope magic limits body' = .ok bytes := by
  obtain ⟨payload, written, _⟩ := encodeEnvelope_ok encoded
  unfold encodeEnvelope runWriter at encoded ⊢
  rw [rewrites 0 payload written]
  rw [written] at encoded
  exact encoded

/-- Equal encodings come from modules with equal canonical forms. -/
theorem encodeProgramModuleV1_injective
    (encoded : encodeProgramModuleV1 sorting module .includeDeclaredHash limits = .ok bytes)
    (encoded' : encodeProgramModuleV1 sorting other .includeDeclaredHash limits = .ok bytes) :
    module.canonicalForm sorting = other.canonicalForm sorting := by
  unfold encodeProgramModuleV1 at encoded encoded'
  exact encodeEnvelope_injective (writeModuleBody_matches module (writeModuleIdentity_matches _))
    (writeModuleBody_matches other (writeModuleIdentity_matches _))
    (check_bind_eq_ok.mp encoded).2 (check_bind_eq_ok.mp encoded').2

/-- An identity that is read without its hash. -/
def readIdentityWithout (hash : ContentHash256) : Reader ModuleIdentity := do
  let canonicalId ← readString
  let revision ← readU32
  pure { canonicalId, revision, moduleHash := hash }

theorem writeIdentityWithout_matches (identity : ModuleIdentity) :
    Matches limits (writeModuleIdentity identity .omitDeclaredHash)
      (readIdentityWithout identity.moduleHash) identity :=
  .coded <| .coded <| .pure identity

theorem encodeProgramModuleV1_injective_of_hash
    (sameHash : other.identity.moduleHash = module.identity.moduleHash)
    (encoded : encodeProgramModuleV1 sorting module .omitDeclaredHash limits = .ok bytes)
    (encoded' : encodeProgramModuleV1 sorting other .omitDeclaredHash limits = .ok bytes) :
    module.canonicalForm sorting = other.canonicalForm sorting := by
  unfold encodeProgramModuleV1 at encoded encoded'
  have matched' := @writeIdentityWithout_matches limits other.identity
  rw [sameHash] at matched'
  exact encodeEnvelope_injective (writeModuleBody_matches module (writeIdentityWithout_matches _))
    (writeModuleBody_matches other matched')
    (check_bind_eq_ok.mp encoded).2 (check_bind_eq_ok.mp encoded').2

theorem validateProgramModuleIdentityV1_ok :
    validateProgramModuleIdentityV1 sorting sha256 module = .ok () ↔
      module.WellShaped ∧ module.identity.moduleHash.isEmpty = false ∧
      computeProgramModuleHashV1 sorting sha256 module = module.identity.moduleHash := by
  unfold validateProgramModuleIdentityV1
  simp only [bind_eq_ok, rejectIf_eq_ok, validateModuleShape_eq_ok, bne_eq_false_iff_eq]
  constructor
  · rintro ⟨shaped, present, _, same⟩
    exact ⟨shaped, present, same⟩
  rintro ⟨shaped, present, same⟩
  refine ⟨shaped, present, ?_, same⟩
  rw [same]
  exact present

theorem encodes_of_validIdentity
    (valid : validateProgramModuleIdentityV1 sorting sha256 module = .ok ()) :
    ∃ bytes, encodeProgramModuleV1 sorting module .omitDeclaredHash {} = .ok bytes := by
  obtain ⟨_, present, same⟩ := validateProgramModuleIdentityV1_ok.mp valid
  unfold computeProgramModuleHashV1 hashBytes at same
  cases encoded : encodeProgramModuleV1 sorting module .omitDeclaredHash {} with
  | ok bytes => exact ⟨bytes, rfl⟩
  | error status =>
    rw [encoded] at same
    have zero : ContentHash256.zero.isEmpty = true := by decide
    rw [← same] at present
    exact absurd (present.symm.trans zero) Bool.false_ne_true

theorem validIdentity_congr (shaped : module.WellShaped) (otherShaped : other.WellShaped)
    (same : other.canonicalForm sorting = module.canonicalForm sorting)
    (valid : validateProgramModuleIdentityV1 sorting sha256 module = .ok ()) :
    validateProgramModuleIdentityV1 sorting sha256 other = .ok () := by
  obtain ⟨_, present, hash⟩ := validateProgramModuleIdentityV1_ok.mp valid
  have forms := congrArg ProgramModule.identity same
  have identity : other.identity = module.identity := forms
  refine validateProgramModuleIdentityV1_ok.mpr ⟨otherShaped, ?_, ?_⟩
  · rw [identity]
    exact present
  unfold computeProgramModuleHashV1 at hash ⊢
  rw [identity, encodeProgramModuleV1_congr shaped otherShaped same]
  exact hash

end Encoding

end Codec

open Codec

variable {sorting : UnstableSort} {sha256 : HashFunction}
variable {limits : CodecLimits} {bytes : ByteString}

/-- An encoded module whose switches are unambiguous is decoded to its canonical
form. -/
theorem decodeProgramModuleV1_encoded {module : ProgramModule}
    (unambiguous : module.UnambiguousSwitches)
    (valid : validateProgramModuleIdentityV1 sorting sha256 module = .ok ())
    (encoded : encodeProgramModuleV1 sorting module .includeDeclaredHash limits = .ok bytes) :
    decodeProgramModuleV1 sorting sha256 bytes limits =
      .decoded (module.canonicalForm sorting) bytes.length := by
  obtain ⟨shaped, _⟩ := encodeProgramModuleV1_ok.mp encoded
  have content : SameContent sorting module (module.canonicalForm sorting) :=
    sameContent_canonicalForm shaped unambiguous
  have formShaped := content.wellShaped shaped
  have again := content.canonicalForm_eq shaped
  have reencoded := encoded
  rw [← encodeProgramModuleV1_congr shaped formShaped again] at reencoded
  have body := (check_bind_eq_ok.mp encoded).2
  have canonical : decodeCanonical bytes moduleMagic limits readModuleBody
      (fun module => encodeProgramModuleV1 sorting module .includeDeclaredHash) =
      .decoded (module.canonicalForm sorting) bytes.length :=
    decodeCanonical_eq (by decide)
      (writeModuleBody_matches module (writeModuleIdentity_matches _)) body
      reencoded
  unfold decodeProgramModuleV1
  rw [canonical]
  simp only [DecodeResult.decoded]
  rw [validIdentity_congr shaped formShaped again valid]

theorem decodeProgramInvocationV1_encoded {invocation : ProgramInvocation}
    (encoded : encodeProgramInvocationV1 sorting invocation limits = .ok bytes) :
    decodeProgramInvocationV1 sorting bytes limits =
      .decoded (invocation.canonical sorting) bytes.length :=
  decodeCanonical_eq (by decide) (writeInvocationBody_matches sorting invocation)
    encoded
    (encodeEnvelope_rewrites
      (writeInvocationBody_rewrites (canonical_sameContent invocation)) encoded)

theorem decodeProgramEmissionV1_encoded {emission : ProgramEmission}
    (encoded : encodeProgramEmissionV1 sorting emission limits = .ok bytes) :
    decodeProgramEmissionV1 sorting bytes limits =
      .decoded (emission.canonical sorting) bytes.length :=
  decodeCanonical_eq (by decide) (writeEmission_matches sorting emission)
    encoded
    (encodeEnvelope_rewrites (writeEmission_rewrites sorting emission) encoded)

theorem decodeProgramResultV1_encoded {result : ProgramResult}
    (encoded : encodeProgramResultV1 sorting result limits = .ok bytes) :
    decodeProgramResultV1 sorting bytes limits =
      .decoded (result.canonical sorting) bytes.length := by
  obtain ⟨authoritative, body⟩ := check_bind_eq_ok.mp encoded
  have reencoded : encodeProgramResultV1 sorting (result.canonical sorting)
      limits = .ok bytes := by
    refine check_bind_eq_ok.mpr ⟨?_, encodeEnvelope_rewrites
      (writeResultBody_rewrites sorting result) body⟩
    rw [result_canonical_isAuthoritative]
    exact authoritative
  exact decodeCanonical_eq (by decide) (writeResultBody_matches sorting result) body reencoded

/-!
## Ambiguous switches

Whether a module encodes does not depend on the order in which the sort leaves
the cases of a switch that have the same value, but its bytes do.  With a sort
that exchanges two such cases the canonical form of a module is not stable.
-/

namespace Codec

section Acceptance

variable {sorting other : UnstableSort}

theorem sort_keyed_eq_sort {α κ : Type} [Ord κ] [Std.TransOrd κ]
    [Std.LawfulEqOrd κ] {key : α → κ} {list : List α} (distinct : (list.map key).Nodup) :
    sorting.sort (compareOn key) list = other.sort (compareOn key) list :=
  sorting.sort_eq_sort other (.of_nodup key (fun _ _ equal => compareOn_eq_iff.mp equal) distinct)

/-- All sorts by the whole content of the elements agree. -/
theorem sort_exact_eq_sort (sorting other : UnstableSort) {α κ : Type}
    [Ord κ] [Std.TransOrd κ] [Std.LawfulEqOrd κ] {key : α → κ}
    (exact : Function.Injective key) (list : List α) :
    sorting.sort (compareOn key) list = other.sort (compareOn key) list :=
  sorting.sort_eq_sort other fun _ _ _ _ equal => exact (compareOn_eq_iff.mp equal)

theorem writeEnumSwitchCase_movable (switchCase : EnumSwitchCase) :
    Movable limits limits.maximumPayloadBytes.toNat (writeEnumSwitchCase switchCase) :=
  .bind (writeNumber_movable _ _) <| .bind (writeNumber_movable _ _) <|
    writeVector_movable (fun _ => writeNumber_movable _ _) _

theorem writeTerminator_resembles (terminator : Terminator) :
    Resembles limits limits.maximumPayloadBytes.toNat
      (writeTerminator (canonicalTerminator sorting terminator))
      (writeTerminator (canonicalTerminator other terminator)) := by
  have cases : ((canonicalTerminator sorting terminator).enumCases).Perm
      (canonicalTerminator other terminator).enumCases := by
    have first := (@canonicalTerminator_reorders sorting terminator).enumCases
    have second := (@canonicalTerminator_reorders other terminator).enumCases
    exact first.trans second.symm
  rw [(canonicalTerminator_reorders terminator).same,
    (@canonicalTerminator_reorders other terminator).same]
  exact
    .bind (.refl _) <| .bind (.refl _) <| .bind (.refl _) <| .bind (.refl _) <|
      .bind (writeVector_resembles_perm cases writeEnumSwitchCase_movable) <|
      .bind (.refl _) <| .bind (.refl _) <| .bind (.refl _) (.refl _)

theorem writeBlock_resembles (block : BasicBlock) :
    Resembles limits limits.maximumPayloadBytes.toNat (writeBlock (blockForm sorting block))
      (writeBlock (blockForm other block)) :=
  .bind (.refl _) <| .bind (.refl _) <| .bind (.refl _) <|
    writeTerminator_resembles block.terminator

theorem writeFunction_resembles {function : ProgramFunction}
    (shaped : validateFunctionShape function = .ok ()) :
    Resembles limits limits.maximumPayloadBytes.toNat
      (writeFunction (functionForm sorting function))
      (writeFunction (functionForm other function)) := by
  have written : Resembles limits limits.maximumPayloadBytes.toNat
      (writeVector writeBlock (functionForm sorting function).blocks)
      (writeVector writeBlock (functionForm other function).blocks) := by
    rw [functionForm_blocks, functionForm_blocks, sort_keyed_eq_sort (blockIds_nodup shaped)]
    exact writeVector_resembles fun block _ => writeBlock_resembles block
  exact
    .bind (.refl _) <| .bind (.refl _) <| .bind (.refl _) <| .bind (.refl _) <|
      .bind (.refl _) <| .bind (.refl _) <| .bind written (.refl _)

theorem canonicalPolicySet_eq_sort (sorting other : UnstableSort) (policies : ProgramPolicySet) :
    canonicalPolicySet sorting policies = canonicalPolicySet other policies := by
  unfold canonicalPolicySet
  rw [sort_exact_eq_sort sorting other statePolicy_injective,
    sort_exact_eq_sort sorting other executionIntent_injective]

theorem entrypointForm_eq_sort (entrypoint : ProgramEntrypoint) :
    entrypointForm sorting entrypoint = entrypointForm other entrypoint := by
  unfold entrypointForm canonicalEntrypoint
  rw [sort_exact_eq_sort sorting other SchemaIdentity.exactKey_injective,
    sort_exact_eq_sort sorting other SchemaIdentity.exactKey_injective,
    sort_exact_eq_sort sorting other CapabilityPackIdentity.exactKey_injective,
    canonicalPolicySet_eq_sort sorting other]

theorem writeModuleFields_resembles {module : ProgramModule}
    (shaped : module.WellShaped) (hashMode : CanonicalHashMode) :
    Resembles limits limits.maximumPayloadBytes.toNat
      (writeModuleFields (module.canonicalForm sorting) hashMode)
      (writeModuleFields (module.canonicalForm other) hashMode) := by
  have entrypoints : (module.canonicalForm sorting).entrypoints =
      (module.canonicalForm other).entrypoints := by
    rw [canonicalForm_entrypoints, canonicalForm_entrypoints,
      sort_keyed_eq_sort shaped.entrypointNames]
    exact List.map_congr_left fun entrypoint _ => entrypointForm_eq_sort entrypoint
  have functions : Resembles limits limits.maximumPayloadBytes.toNat
      (writeVector writeFunction (module.canonicalForm sorting).functions)
      (writeVector writeFunction (module.canonicalForm other).functions) := by
    rw [canonicalForm_functions, canonicalForm_functions, sort_keyed_eq_sort shaped.functionIds]
    refine writeVector_resembles fun function member => ?_
    exact writeFunction_resembles (shaped.functions function (other.mem_sort.mp member))
  have localTypes : (module.canonicalForm sorting).localTypes =
      (module.canonicalForm other).localTypes :=
    congrArg (List.map TypeSchemaDefinition.normalized) (sort_keyed_eq_sort shaped.localTypeKeys)
  have moduleImports : (module.canonicalForm sorting).moduleImports =
      (module.canonicalForm other).moduleImports :=
    sort_keyed_eq_sort shaped.moduleKeys
  have actionImports : (module.canonicalForm sorting).actionImports =
      (module.canonicalForm other).actionImports :=
    sort_keyed_eq_sort shaped.actionKeys
  have reducerImports : (module.canonicalForm sorting).reducerImports =
      (module.canonicalForm other).reducerImports :=
    sort_keyed_eq_sort shaped.reducerKeys
  have typeImports : (module.canonicalForm sorting).typeImports =
      (module.canonicalForm other).typeImports :=
    sort_keyed_eq_sort shaped.typeKeys
  have packs : (module.canonicalForm sorting).requiredCapabilityPacks =
      (module.canonicalForm other).requiredCapabilityPacks :=
    sort_keyed_eq_sort shaped.packKeys
  have policies : (module.canonicalForm sorting).acceptedPolicies =
      (module.canonicalForm other).acceptedPolicies :=
    canonicalPolicySet_eq_sort sorting other module.acceptedPolicies
  have entries : (module.canonicalForm sorting).sourceMap.entries =
      (module.canonicalForm other).sourceMap.entries :=
    sort_keyed_eq_sort shaped.sourceIds
  have sourceMap : (module.canonicalForm sorting).sourceMap =
      (module.canonicalForm other).sourceMap :=
    congrArg (ProgramSourceMap.mk module.sourceMap.version) entries
  unfold writeModuleFields
  rw [entrypoints, localTypes, moduleImports, actionImports, reducerImports,
    typeImports, packs, policies, sourceMap]
  exact .bind (.refl _) <| .bind (.refl _) <| .bind (.refl _) <| .bind functions (.refl _)

theorem writeEnvelope_resembles {magic payload payload' : ByteString}
    {bound : Nat} (length : payload'.length = payload.length) :
    Resembles limits bound (writeEnvelope magic payload) (writeEnvelope magic payload') := by
  have raw : Resembles limits bound (writeRaw payload) (writeRaw payload') := by
    intro size bytes _ written
    obtain ⟨fits, rfl⟩ := writeRaw_ok.mp written
    exact ⟨payload', length, writeRaw_ok.mpr ⟨by omega, rfl⟩⟩
  unfold writeEnvelope
  rw [length]
  exact .bind (.refl _) <| .bind (.refl _) <| .bind (.refl _) raw

theorem encodeEnvelope_resembles {magic bytes : ByteString} {body body' : Writer}
    (resembles : Resembles limits limits.maximumPayloadBytes.toNat body body')
    (encoded : encodeEnvelope magic limits body = .ok bytes) :
    ∃ bytes', encodeEnvelope magic limits body' = .ok bytes' := by
  obtain ⟨payload, written, fits, short, _⟩ := encodeEnvelope_ok encoded
  obtain ⟨payload', length, written'⟩ := resembles 0 payload (by omega) written
  unfold encodeEnvelope runWriter at encoded ⊢
  rw [written] at encoded
  rw [written']
  simp only [Except.map, Bind.bind, Except.bind] at encoded ⊢
  rw [length]
  split at encoded
  · cases encoded
  rename_i room
  rw [if_neg room]
  cases enveloped : writeEnvelope magic payload (envelopeLimits limits) 0 with
  | error status =>
    rw [enveloped] at encoded
    cases encoded
  | ok result =>
    obtain ⟨⟨⟩, produced⟩ := result
    obtain ⟨produced', _, enveloped'⟩ := writeEnvelope_resembles length 0
      produced (Nat.le_refl _) enveloped
    exact ⟨produced', by rw [enveloped']⟩

theorem encodeProgramModuleV1_accepts {module : ProgramModule}
    {hashMode : CanonicalHashMode} {bytes : ByteString}
    (encoded : encodeProgramModuleV1 sorting module hashMode limits = .ok bytes) :
    ∃ bytes', encodeProgramModuleV1 other module hashMode limits = .ok bytes' := by
  obtain ⟨shaped, body⟩ := encodeProgramModuleV1_ok.mp encoded
  obtain ⟨bytes', body'⟩ := encodeEnvelope_resembles
    (writeModuleFields_resembles shaped hashMode) body
  exact ⟨bytes', encodeProgramModuleV1_ok.mpr ⟨shaped, body'⟩⟩

end Acceptance

section Instability

/-- Where sorting and changing the elements of a sorted list leaves their forms,
the change leaves the form of each. -/
theorem form_of_sort_again {α κ : Type} [Ord κ] [Std.TransOrd κ]
    [Std.LawfulEqOrd κ] {key : α → κ} {form change : α → α} {list : List α}
    (distinct : (list.map key).Nodup) (keeps : ∀ value, key (change value) = key value)
    (same : (sorting.sort (compareOn key)
        ((sorting.sort (compareOn key) list).map change)).map form =
      (sorting.sort (compareOn key) list).map form) :
    ∀ value ∈ list, form (change value) = form value := by
  have unambiguous : Unambiguous (compareOn key) (list.map change) := by
    refine .of_nodup key (fun _ _ equal => compareOn_eq_iff.mp equal) ?_
    have keys : key ∘ change = key := funext keeps
    rwa [List.map_map, keys]
  rw [sorting.sort_map_sort unambiguous fun first second => by
    simp only [compareOn, keeps], List.map_map] at same
  intro value member
  exact List.map_inj_left.mp same value (sorting.mem_sort.mpr member)

/-- A module whose elements are changed keeps its canonical form only if each
terminator keeps its order when it is ordered again. -/
theorem terminator_again_of_canonicalForm {module other : ProgramModule}
    {changeFunction : ProgramFunction → ProgramFunction}
    {changeBlock : BasicBlock → BasicBlock} (shaped : module.WellShaped)
    (functions : other.functions =
      (sorting.sort (compareOn fun function : ProgramFunction =>
        function.id.value) module.functions).map changeFunction)
    (blocks : ∀ function, (changeFunction function).blocks =
      (sorting.sort (compareOn fun block : BasicBlock => block.id.value)
        function.blocks).map changeBlock)
    (functionIds : ∀ function, (changeFunction function).id = function.id)
    (blockIds : ∀ block, (changeBlock block).id = block.id)
    (terminators : ∀ block, (changeBlock block).terminator =
      canonicalTerminator sorting block.terminator)
    (same : other.canonicalForm sorting = module.canonicalForm sorting)
    {function : ProgramFunction} (functionMember : function ∈ module.functions)
    {block : BasicBlock} (blockMember : block ∈ function.blocks) :
    canonicalTerminator sorting (canonicalTerminator sorting block.terminator) =
      canonicalTerminator sorting block.terminator := by
  have functionForms := congrArg ProgramModule.functions same
  rw [canonicalForm_functions, canonicalForm_functions, functions] at functionForms
  have functionSame := form_of_sort_again shaped.functionIds
    (fun function => congrArg StrongId.value (functionIds function))
    functionForms function functionMember
  have blockForms := congrArg ProgramFunction.blocks functionSame
  rw [functionForm_blocks, functionForm_blocks, blocks] at blockForms
  have blockSame := form_of_sort_again
    (blockIds_nodup (shaped.functions function functionMember))
    (fun block => congrArg StrongId.value (blockIds block))
    blockForms block blockMember
  have terminatorSame := congrArg BasicBlock.terminator blockSame
  have again : canonicalTerminator sorting (changeBlock block).terminator =
      canonicalTerminator sorting block.terminator := terminatorSame
  rwa [terminators] at again

/-- Some sort leaves an ambiguous switch in another order when it orders it
again. -/
theorem exists_unstable_terminator {terminator : Terminator} (ambiguous : ¬terminator.Unambiguous) :
    ∃ sorting : UnstableSort, canonicalTerminator sorting (canonicalTerminator sorting terminator) ≠
        canonicalTerminator sorting terminator := by
  unfold Terminator.Unambiguous at ambiguous
  push Not at ambiguous
  obtain ⟨isSwitch, cases⟩ := ambiguous
  obtain ⟨sorting, unstable⟩ := UnstableSort.exists_unstable cases
  refine ⟨sorting, fun same => unstable ?_⟩
  have caseLists := congrArg Terminator.enumCases same
  unfold canonicalTerminator at caseLists
  simpa only [isSwitch, if_true] using caseLists

/-- For a module with an ambiguous switch there is a sort under which neither
the reordered module nor the canonical form has the canonical form of the
module. -/
theorem exists_unstable_module {module : ProgramModule}
    (shaped : module.WellShaped) (ambiguous : ¬module.UnambiguousSwitches) :
    ∃ sorting : UnstableSort, (canonicalModule sorting module).canonicalForm sorting ≠
          module.canonicalForm sorting ∧
        (module.canonicalForm sorting).canonicalForm sorting ≠ module.canonicalForm sorting := by
  unfold ProgramModule.UnambiguousSwitches ProgramFunction.UnambiguousSwitches at ambiguous
  push Not at ambiguous
  obtain ⟨function, functionMember, block, blockMember, switch⟩ := ambiguous
  obtain ⟨sorting, unstable⟩ := exists_unstable_terminator switch
  refine ⟨sorting, fun same => unstable ?_, fun same => unstable ?_⟩
  · have blocks : ∀ function : ProgramFunction,
        (canonicalFunction sorting function).blocks =
          (sorting.sort (compareOn fun block : BasicBlock => block.id.value)
            function.blocks).map (canonicalBlock sorting) := fun _ => rfl
    exact terminator_again_of_canonicalForm shaped rfl blocks (fun _ => rfl)
      (fun _ => rfl) (fun _ => rfl) same functionMember blockMember
  exact terminator_again_of_canonicalForm shaped
    (canonicalForm_functions module) functionForm_blocks (fun _ => rfl)
    (fun _ => rfl) (fun _ => rfl) same functionMember blockMember

/-- The canonical order is an authoring order. -/
theorem canonicalModule_reorders (module : ProgramModule) :
    module.Reorders (canonicalModule sorting module) where
  same := rfl
  entrypoints := sorting.reordered_sort canonicalEntrypoint_reorders
  functions := sorting.reordered_sort fun _ => ⟨rfl, sorting.reordered_sort canonicalBlock_reorders⟩
  localTypes := sorting.perm _ _
  moduleImports := sorting.perm _ _
  actionImports := sorting.perm _ _
  reducerImports := sorting.perm _ _
  typeImports := sorting.perm _ _
  requiredCapabilityPacks := sorting.perm _ _
  acceptedPolicies := canonicalPolicySet_reorders _
  sourceEntries := sorting.perm _ _

end Instability
end Codec
end Savor.Program


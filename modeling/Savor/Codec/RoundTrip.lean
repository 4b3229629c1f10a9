import Savor.Codec.ProgramCodec

/-!
# Round trips and authoring order

A module survives the codec, and its bytes ignore its authoring order, exactly
when no switch has two different cases of the same value: the sort that orders
the cases may leave such cases in any order, and no check rejects them.
-/

namespace Savor.Program

open Library Library.Wire Codec

/-- The values of the graph in another order. -/
structure ProgramValueGraph.Reorders (graph other : ProgramValueGraph) : Prop where
  root : other.root = graph.root
  values : other.values.Perm graph.values

/-- The lists of the invocation in another order. -/
structure ProgramInvocation.Reorders (invocation other : ProgramInvocation) : Prop where
  same : other =
    { invocation with
      dependencies := other.dependencies
      runtimeProfile := other.runtimeProfile
      input := other.input
      provenance := other.provenance }
  dependencies : invocation.dependencies.Reorders other.dependencies
  runtimeProfile : invocation.runtimeProfile.Reorders other.runtimeProfile
  input : invocation.input.Reorders other.input
  provenance : invocation.provenance.Reorders other.provenance

namespace ProgramInvocation.Reorders

variable {invocation other : ProgramInvocation}

theorem sameContent (reorders : invocation.Reorders other) : invocation.SameContent other :=
  ⟨reorders.same, reorders.dependencies, reorders.runtimeProfile,
    ⟨reorders.input.root, reorders.input.values.map _⟩, reorders.provenance⟩

theorem symm (reorders : invocation.Reorders other) : other.Reorders invocation where
  same := by rw [reorders.same]
  dependencies :=
    ⟨reorders.dependencies.irVersion.symm, reorders.dependencies.moduleImports.symm,
      reorders.dependencies.actionImports.symm, reorders.dependencies.reducerImports.symm,
      reorders.dependencies.typeImports.symm, reorders.dependencies.capabilityPacks.symm⟩
  runtimeProfile :=
    ⟨by rw [reorders.runtimeProfile.same], reorders.runtimeProfile.capabilityPacks.symm⟩
  input := ⟨reorders.input.root.symm, reorders.input.values.symm⟩
  provenance :=
    ⟨reorders.provenance.requestingComponent.symm, reorders.provenance.sourceArtifacts.symm,
      reorders.provenance.attributes.symm⟩

end ProgramInvocation.Reorders

theorem ProgramDependencyLock.Reorders.symm {lock other : ProgramDependencyLock}
    (reorders : lock.Reorders other) : other.Reorders lock :=
  ⟨reorders.irVersion.symm, reorders.moduleImports.symm,
    reorders.actionImports.symm, reorders.reducerImports.symm,
    reorders.typeImports.symm, reorders.capabilityPacks.symm⟩

namespace ProgramModule

/-- The module, with its declared hash correct, is encoded under some sort and
some limits. -/
def EncodesWithHash (module : ProgramModule) : Prop :=
  ∃ sorting sha256 limits bytes,
    validateProgramModuleIdentityV1 sorting sha256 module = .ok () ∧
      encodeProgramModuleV1 sorting module .includeDeclaredHash limits = .ok bytes

/-- Every encoding of the module is consumed whole and decoded to its canonical
form, whatever the sort and the hash function. -/
def RoundTrips (module : ProgramModule) : Prop :=
  ∀ sorting sha256 limits bytes,
    validateProgramModuleIdentityV1 sorting sha256 module = .ok () →
    encodeProgramModuleV1 sorting module .includeDeclaredHash limits = .ok bytes →
    decodeProgramModuleV1 sorting sha256 bytes limits =
      .decoded (module.canonicalForm sorting) bytes.length

/-- No authoring order of the module changes its bytes or its hash. -/
def IgnoresOrder (module : ProgramModule) : Prop :=
  ∀ sorting sha256 other, module.Reorders other →
    (∀ hashMode limits, encodeProgramModuleV1 sorting other hashMode limits =
        encodeProgramModuleV1 sorting module hashMode limits) ∧
    computeProgramModuleHashV1 sorting sha256 other =
      computeProgramModuleHashV1 sorting sha256 module

section Decoding

variable {sorting : UnstableSort} {sha256 : HashFunction}
variable {limits : CodecLimits} {bytes : ByteString}
variable {module other : ProgramModule} {consumed : Nat}

theorem decodeCanonical_of_decoded (decodes : decodeProgramModuleV1 sorting sha256 bytes limits =
      .decoded module consumed) :
    decodeCanonical bytes moduleMagic limits readModuleBody
      (fun module => encodeProgramModuleV1 sorting module .includeDeclaredHash) =
      .decoded module consumed := by
  unfold decodeProgramModuleV1 at decodes
  simp only at decodes
  split at decodes
  · split at decodes
    · cases decodes
    · exact decodes
  · exact decodes

theorem reencodes_of_decoded (decodes : decodeProgramModuleV1 sorting sha256 bytes limits =
      .decoded module consumed) :
    encodeProgramModuleV1 sorting module .includeDeclaredHash limits = .ok bytes :=
  decodeCanonical_reencodes
    (fun module => encodeProgramModuleV1 sorting module .includeDeclaredHash)
    (decodeCanonical_of_decoded decodes)

theorem eq_canonicalForm_of_decoded
    (encoded : encodeProgramModuleV1 sorting module .includeDeclaredHash limits = .ok bytes)
    (decodes : decodeProgramModuleV1 sorting sha256 bytes limits = .decoded other consumed) :
    other = module.canonicalForm sorting :=
  decodeCanonical_value (by decide)
    (writeModuleBody_matches module (writeModuleIdentity_matches _))
    (check_bind_eq_ok.mp encoded).2 (decodeCanonical_of_decoded decodes)

theorem decodes_of_canonicalForm (canonical : module.canonicalForm sorting = module)
    (valid : validateProgramModuleIdentityV1 sorting sha256 module = .ok ())
    (encoded : encodeProgramModuleV1 sorting module .includeDeclaredHash limits = .ok bytes) :
    decodeProgramModuleV1 sorting sha256 bytes limits = .decoded module bytes.length := by
  have matched : Matches limits
      (writeModuleBody sorting module .includeDeclaredHash) readModuleBody
      (module.canonicalForm sorting) :=
    writeModuleBody_matches module (writeModuleIdentity_matches _)
  rw [canonical] at matched
  unfold decodeProgramModuleV1
  rw [decodeCanonical_eq (by decide) matched (check_bind_eq_ok.mp encoded).2 encoded]
  simp only [DecodeResult.decoded, valid]

end Decoding

/-- With an ambiguous switch, some sort decodes an encoding of the module to
something else or not at all. -/
theorem RoundTrips.unambiguous {module : ProgramModule}
    (encodes : module.EncodesWithHash) (roundTrips : module.RoundTrips) :
    module.UnambiguousSwitches := by
  obtain ⟨original, sha256, limits, bytes, valid, encoded⟩ := encodes
  obtain ⟨shaped, present, _⟩ := validateProgramModuleIdentityV1_ok.mp valid
  by_contra ambiguous
  obtain ⟨sorting, _, unstable⟩ := exists_unstable_module shaped ambiguous
  obtain ⟨bytes', encoded'⟩ := @encodeProgramModuleV1_accepts limits original
    sorting module .includeDeclaredHash bytes encoded
  obtain ⟨hashedBytes, hashed⟩ := encodes_of_validIdentity valid
  obtain ⟨_, hashed'⟩ := @encodeProgramModuleV1_accepts {} original sorting
    module .omitDeclaredHash hashedBytes hashed
  -- the hash function that answers with the declared hash
  have valid' : validateProgramModuleIdentityV1 sorting
      (fun _ => some module.identity.moduleHash) module = .ok () := by
    refine validateProgramModuleIdentityV1_ok.mpr ⟨shaped, present, ?_⟩
    unfold computeProgramModuleHashV1 hashBytes
    rw [hashed']
    rfl
  have decoded := roundTrips sorting _ limits bytes' valid' encoded'
  exact unstable (encodeProgramModuleV1_injective (reencodes_of_decoded decoded) encoded')

/-- With an ambiguous switch, some authoring order changes the bytes under some
sort. -/
theorem IgnoresOrder.unambiguous {module : ProgramModule}
    {original : UnstableSort} {hashMode : CanonicalHashMode}
    {limits : CodecLimits} {bytes : ByteString}
    (encoded : encodeProgramModuleV1 original module hashMode limits = .ok bytes)
    (ignores : module.IgnoresOrder) : module.UnambiguousSwitches := by
  obtain ⟨shaped, _⟩ := encodeProgramModuleV1_ok.mp encoded
  by_contra ambiguous
  obtain ⟨sorting, unstable, _⟩ := exists_unstable_module shaped ambiguous
  obtain ⟨bytes', encoded'⟩ := @encodeProgramModuleV1_accepts limits original
    sorting module hashMode bytes encoded
  obtain ⟨same, _⟩ := ignores sorting (fun _ => none)
    (canonicalModule sorting module) (canonicalModule_reorders module)
  have reordered := (same hashMode limits).trans encoded'
  cases hashMode with
  | includeDeclaredHash => exact unstable (encodeProgramModuleV1_injective reordered encoded')
  | omitDeclaredHash =>
    exact unstable (encodeProgramModuleV1_injective_of_hash rfl reordered encoded')

theorem ignoresOrder {module : ProgramModule} (shaped : module.WellShaped)
    (unambiguous : module.UnambiguousSwitches) : module.IgnoresOrder := by
  intro sorting sha256 other reorders
  have content : SameContent sorting module other := .of_reorders shaped unambiguous reorders
  have same : ∀ hashMode limits,
      encodeProgramModuleV1 sorting other hashMode limits =
        encodeProgramModuleV1 sorting module hashMode limits :=
    fun hashMode limits => encodeProgramModuleV1_congr shaped
      (content.wellShaped shaped) (content.canonicalForm_eq shaped)
  refine ⟨same, ?_⟩
  unfold computeProgramModuleHashV1
  rw [same]

end ProgramModule

section Switching

/-- A function that switches on its argument and returns it. -/
def switchingFunction (cases : List EnumSwitchCase) : ProgramFunction :=
  let finish (id : UInt64) : BasicBlock :=
    { id := ⟨id⟩
      arguments := []
      instructions := []
      terminator := { kind := .return, sourceLocation := ⟨0⟩, returnValue := some ⟨1⟩ } }
  { id := ⟨1⟩
    name := text "choose"
    arguments := [⟨⟨1⟩, .ofNamed ⟨text "choice", 1, .filled 1⟩⟩]
    outputType := .ofNamed ⟨text "choice", 1, .filled 1⟩
    domainOutcomeType := none
    entryBlock := ⟨1⟩
    blocks :=
      [{ id := ⟨1⟩
         arguments := []
         instructions := []
         terminator :=
          { kind := .enumSwitch
            sourceLocation := ⟨0⟩
            conditionOrSelector := some ⟨1⟩
            enumCases := cases } }, finish 2, finish 3]
    exported := false }

/-- A module of one function, with every list but that of its functions empty
and with the declared hash 1, 1, .... -/
def switchingModule (cases : List EnumSwitchCase) : ProgramModule :=
  { identity := ⟨text "switching", 1, .filled 1⟩
    irVersion := canonicalIrVersionV1
    entrypoints := []
    functions := [switchingFunction cases]
    localTypes := []
    moduleImports := []
    actionImports := []
    reducerImports := []
    typeImports := []
    requiredCapabilityPacks := []
    acceptedPolicies := ⟨[], [], false, false, false, false, false⟩
    budgets := ⟨9, 9, 9, 9, 9, 9, 9, 9, 9⟩
    sourceMap := ⟨1, []⟩ }

/-- Two cases of different values. -/
def distinctCases : List EnumSwitchCase := [⟨0, ⟨⟨2⟩, []⟩⟩, ⟨1, ⟨⟨3⟩, []⟩⟩]

/-- Two cases of the same value that lead to different blocks. -/
def equalCases : List EnumSwitchCase := [⟨0, ⟨⟨2⟩, []⟩⟩, ⟨0, ⟨⟨3⟩, []⟩⟩]

/-- Seventeen cases of the same value, the first of which leads elsewhere than
the others.  So many are not sorted by insertion. -/
def manyEqualCases : List EnumSwitchCase :=
  ⟨0, ⟨⟨2⟩, []⟩⟩ :: List.replicate 16 ⟨0, ⟨⟨3⟩, []⟩⟩

/-- A hash function that answers with the declared hash. -/
def declaredSha256 : HashFunction := fun _ => some (.filled 1)

theorem exists_of_isOk {encoded : EncodeResult} (holds : encoded.isOk = true) :
    ∃ bytes, encoded = .ok bytes := by
  cases encoded with
  | error status => cases holds
  | ok bytes => exact ⟨bytes, rfl⟩

theorem switchingModule_reorders {cases other : List EnumSwitchCase} (permutes : other.Perm cases) :
    (switchingModule cases).Reorders (switchingModule other) where
  same := rfl
  entrypoints := ⟨[], .nil, .refl _⟩
  functions := by
    have unchanged : ∀ block : BasicBlock, block.Reorders block :=
      fun block => ⟨rfl, rfl, .refl _, fun _ => rfl⟩
    refine ⟨_, .cons ⟨rfl, _, .cons ⟨rfl, rfl, permutes, ?_⟩
      (.cons (unchanged _) (.cons (unchanged _) .nil)), .refl _⟩ .nil, .refl _⟩
    intro noSwitch
    exact absurd rfl noSwitch
  localTypes := .refl _
  moduleImports := .refl _
  actionImports := .refl _
  reducerImports := .refl _
  typeImports := .refl _
  requiredCapabilityPacks := .refl _
  acceptedPolicies := ⟨rfl, .refl _, .refl _⟩
  sourceEntries := .refl _

theorem distinctCases_unambiguous : (switchingModule distinctCases).UnambiguousSwitches := by
  intro function functionMember block blockMember isSwitch
  rw [List.mem_singleton.mp functionMember] at blockMember
  refine .of_nodup EnumSwitchCase.enumValue (fun _ _ equal => compareOn_eq_iff.mp equal) ?_
  simp only [switchingFunction, List.mem_cons, List.not_mem_nil, or_false] at blockMember
  rcases blockMember with rfl | rfl | rfl <;> decide

end Switching

/-- The codec reads back the canonical form of every invocation, emission and
result it encodes, and of every module exactly when its switches are
unambiguous.  Equal encodings have equal canonical forms. -/
theorem canonicalCodec_roundTrips (sorting : UnstableSort) (limits : CodecLimits) :
    (∀ module : ProgramModule, module.EncodesWithHash →
      (module.RoundTrips ↔ module.UnambiguousSwitches)) ∧
    (∀ invocation bytes, encodeProgramInvocationV1 sorting invocation limits = .ok bytes →
      decodeProgramInvocationV1 sorting bytes limits =
        .decoded (invocation.canonical sorting) bytes.length) ∧
    (∀ emission bytes, encodeProgramEmissionV1 sorting emission limits = .ok bytes →
      decodeProgramEmissionV1 sorting bytes limits =
        .decoded (emission.canonical sorting) bytes.length) ∧
    (∀ result bytes, encodeProgramResultV1 sorting result limits = .ok bytes →
      decodeProgramResultV1 sorting bytes limits =
        .decoded (result.canonical sorting) bytes.length) ∧ (∀ (module other : ProgramModule) bytes,
      encodeProgramModuleV1 sorting module .includeDeclaredHash limits = .ok bytes →
      encodeProgramModuleV1 sorting other .includeDeclaredHash limits = .ok bytes →
      module.canonicalForm sorting = other.canonicalForm sorting) ∧
    (∀ (invocation other : ProgramInvocation) bytes,
      encodeProgramInvocationV1 sorting invocation limits = .ok bytes →
      encodeProgramInvocationV1 sorting other limits = .ok bytes →
      invocation.canonical sorting = other.canonical sorting) ∧
    (∀ (emission other : ProgramEmission) bytes,
      encodeProgramEmissionV1 sorting emission limits = .ok bytes →
      encodeProgramEmissionV1 sorting other limits = .ok bytes →
      emission.canonical sorting = other.canonical sorting) ∧
    (∀ (result other : ProgramResult) bytes,
      encodeProgramResultV1 sorting result limits = .ok bytes →
      encodeProgramResultV1 sorting other limits = .ok bytes →
      result.canonical sorting = other.canonical sorting) := by
  refine ⟨?_, ?_, ?_, ?_, ?_, ?_, ?_, ?_⟩
  · intro module encodes
    refine ⟨fun roundTrips => roundTrips.unambiguous encodes, ?_⟩
    intro unambiguous sorting sha256 limits bytes valid encoded
    exact decodeProgramModuleV1_encoded unambiguous valid encoded
  · intro invocation bytes encoded
    exact decodeProgramInvocationV1_encoded encoded
  · intro emission bytes encoded
    exact decodeProgramEmissionV1_encoded encoded
  · intro result bytes encoded
    exact decodeProgramResultV1_encoded encoded
  · intro module other bytes encoded encoded'
    exact encodeProgramModuleV1_injective encoded encoded'
  · intro invocation other bytes encoded encoded'
    exact encodeEnvelope_injective (writeInvocationBody_matches sorting _)
      (writeInvocationBody_matches sorting _) encoded encoded'
  · intro emission other bytes encoded encoded'
    exact encodeEnvelope_injective (writeEmission_matches sorting _)
      (writeEmission_matches sorting _) encoded encoded'
  intro result other bytes encoded encoded'
  exact encodeEnvelope_injective (writeResultBody_matches sorting _)
    (writeResultBody_matches sorting _) (check_bind_eq_ok.mp encoded).2
    (check_bind_eq_ok.mp encoded').2

/-- The module with distinct cases round trips. -/
theorem distinctCases_roundTrips : (switchingModule distinctCases).RoundTrips := by
  have valid : validateProgramModuleIdentityV1 .insertion declaredSha256
      (switchingModule distinctCases) = .ok () := by decide +kernel
  obtain ⟨bytes, encoded⟩ := exists_of_isOk (by decide +kernel :
    (encodeProgramModuleV1 .insertion (switchingModule distinctCases)
      .includeDeclaredHash {}).isOk = true)
  exact ((canonicalCodec_roundTrips .insertion {}).1 _
    ⟨.insertion, declaredSha256, {}, bytes, valid, encoded⟩).mpr distinctCases_unambiguous

/-- The module with many equal cases is encoded, but the sort moves them again
when the decoder checks that the bytes are canonical. -/
theorem equalCases_not_roundTrips : (switchingModule manyEqualCases).EncodesWithHash ∧
      ¬(switchingModule manyEqualCases).RoundTrips := by
  have valid : validateProgramModuleIdentityV1 .quick declaredSha256
      (switchingModule manyEqualCases) = .ok () := by decide +kernel
  obtain ⟨bytes, encoded⟩ := exists_of_isOk (by decide +kernel :
    (encodeProgramModuleV1 .quick (switchingModule manyEqualCases)
      .includeDeclaredHash {}).isOk = true)
  refine ⟨⟨_, _, _, bytes, valid, encoded⟩, fun roundTrips => ?_⟩
  have decoded := roundTrips _ _ _ bytes valid encoded
  have rejected : (encodeProgramModuleV1 .quick (switchingModule manyEqualCases)
        .includeDeclaredHash {}).toOption.bind
      (fun bytes => (decodeProgramModuleV1 .quick declaredSha256
          bytes {}).status.map CodecStatus.error) = some .nonCanonical := by
    decide +kernel
  rw [encoded] at rejected
  simp only [Except.toOption, Option.bind_some, decoded, DecodeResult.decoded] at rejected
  cases rejected

/-- Whether an encoded envelope succeeds and its bytes, after a rewriting in
both directions. -/
theorem encodeEnvelope_ok_iff {magic bytes : ByteString} {limits : CodecLimits}
    {body body' : Writer} (forward : Rewrites limits body body')
    (backward : Rewrites limits body' body) : encodeEnvelope magic limits body' = .ok bytes ↔
      encodeEnvelope magic limits body = .ok bytes :=
  ⟨encodeEnvelope_rewrites backward, encodeEnvelope_rewrites forward⟩

theorem computeProgramDependencyLockHashV1_reorders {sorting : UnstableSort}
    {sha256 : HashFunction} {lock other : ProgramDependencyLock}
    (reorders : lock.Reorders other) (limits : CodecLimits) :
    computeProgramDependencyLockHashV1 sorting sha256 other limits =
      computeProgramDependencyLockHashV1 sorting sha256 lock limits := by
  have same : ∀ bytes, encodeEnvelope dependencyLockMagic limits
        (writeDependencyLock sorting other) = .ok bytes ↔
      encodeEnvelope dependencyLockMagic limits (writeDependencyLock sorting lock) = .ok bytes :=
    fun bytes => encodeEnvelope_ok_iff (writeDependencyLock_rewrites reorders)
      (writeDependencyLock_rewrites reorders.symm)
  unfold computeProgramDependencyLockHashV1 hashBytes
  cases encoded : encodeEnvelope dependencyLockMagic limits (writeDependencyLock sorting lock) with
  | ok bytes => rw [(same bytes).mpr encoded]
  | error status =>
    cases encoded' : encodeEnvelope dependencyLockMagic limits
        (writeDependencyLock sorting other) with
    | error status' => rfl
    | ok bytes =>
      rw [(same bytes).mp encoded'] at encoded
      cases encoded

/-- Bytes and hashes ignore the authoring order of locks and invocations, and
of a module exactly when its switches are unambiguous. -/
theorem canonicalCodec_ignoresOrder (sorting : UnstableSort) (limits : CodecLimits) :
    (∀ module : ProgramModule, (∃ sorting hashMode limits bytes,
        encodeProgramModuleV1 sorting module hashMode limits = .ok bytes) →
      (module.IgnoresOrder ↔ module.UnambiguousSwitches)) ∧
    (∀ sha256 (lock other : ProgramDependencyLock), lock.Reorders other →
      computeProgramDependencyLockHashV1 sorting sha256 other limits =
        computeProgramDependencyLockHashV1 sorting sha256 lock limits) ∧
    (∀ (invocation other : ProgramInvocation) bytes, invocation.Reorders other →
      (encodeProgramInvocationV1 sorting other limits = .ok bytes ↔
        encodeProgramInvocationV1 sorting invocation limits = .ok bytes)) := by
  refine ⟨?_, ?_, ?_⟩
  · rintro module ⟨sorting, hashMode, limits, bytes, encoded⟩
    obtain ⟨shaped, _⟩ := encodeProgramModuleV1_ok.mp encoded
    exact ⟨fun ignores => ignores.unambiguous encoded, ProgramModule.ignoresOrder shaped⟩
  · intro sha256 lock other reorders
    exact computeProgramDependencyLockHashV1_reorders reorders limits
  intro invocation other bytes reorders
  exact encodeEnvelope_ok_iff (writeInvocationBody_rewrites reorders.sameContent)
    (writeInvocationBody_rewrites reorders.symm.sameContent)

/-- The module with distinct cases ignores its authoring order. -/
theorem distinctCases_ignoresOrder : (switchingModule distinctCases).IgnoresOrder := by
  obtain ⟨bytes, encoded⟩ := exists_of_isOk (by decide +kernel :
    (encodeProgramModuleV1 .insertion (switchingModule distinctCases)
      .includeDeclaredHash {}).isOk = true)
  exact ((canonicalCodec_ignoresOrder .insertion {}).1 _
    ⟨.insertion, .includeDeclaredHash, {}, bytes, encoded⟩).mpr distinctCases_unambiguous

/-- The module with equal cases is encoded, but the stable sort gives other
bytes after the two cases have changed places. -/
theorem equalCases_not_ignoresOrder :
    (∃ bytes, encodeProgramModuleV1 .insertion (switchingModule equalCases)
      .includeDeclaredHash {} = .ok bytes) ∧ ¬(switchingModule equalCases).IgnoresOrder := by
  refine ⟨exists_of_isOk (by decide +kernel), fun ignores => ?_⟩
  have same := (ignores .insertion declaredSha256 (switchingModule equalCases.reverse)
    (switchingModule_reorders (List.reverse_perm _))).1 .includeDeclaredHash {}
  have different : (encodeProgramModuleV1 .insertion
      (switchingModule equalCases.reverse) .includeDeclaredHash {}).toOption ≠
      (encodeProgramModuleV1 .insertion (switchingModule equalCases)
        .includeDeclaredHash {}).toOption := by
    decide +kernel
  exact different (congrArg Except.toOption same)

end Savor.Program

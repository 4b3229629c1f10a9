import Savor.Codec.RoundTrip

/-!
# The definition store

Modules are registered under their canonical id and revision, compiled or
encoded.  A module that is already registered is compared with the stored one
as it was authored, so what is registered again must be written in the very same
order.
-/

namespace Savor.Program

open Library Library.Wire Codec

inductive RegistryErrorCode
  | invalidArgument | invalidIdentity | identityConflict | dependencyMissing
  | dependencyCycle | referenceMismatch

structure RegistryError where
  code : RegistryErrorCode
  message : ByteString

abbrev ModuleKey := ByteString × UInt32

def makeKey (identity : ModuleIdentity) : ModuleKey := (identity.canonicalId, identity.revision)

def moduleKey (module : ProgramModule) : ModuleKey := makeKey module.identity

def ModuleIdentity.valid (identity : ModuleIdentity) : Bool :=
  !identity.canonicalId.isEmpty && identity.revision != 0 && !identity.moduleHash.isEmpty

/-- The modules in the order of their keys. -/
abbrev ModuleMap := List ProgramModule

namespace ModuleMap

/-- `std::map::find`. -/
def find (modules : ModuleMap) (key : ModuleKey) : Option ProgramModule :=
  Keyed.lookup moduleKey modules key

/-- `std::map::emplace` of a key that is not there. -/
def emplace (module : ProgramModule) : ModuleMap → ModuleMap
  | [] => [module]
  | first :: rest =>
    if compareOn moduleKey module first = .lt then module :: first :: rest
    else first :: emplace module rest

theorem find_emplace {module : ProgramModule} {modules : ModuleMap}
    (free : modules.find (moduleKey module) = none) :
    find (modules.emplace module) (moduleKey module) = some module := by
  induction modules with
  | nil => simp [emplace, find, Keyed.lookup]
  | cons first rest ih =>
    unfold find Keyed.lookup at free ih ⊢
    have absent := List.find?_eq_none.mp free
    unfold emplace
    split
    · simp
    have skipped := absent first List.mem_cons_self
    rw [List.find?_cons, Bool.eq_false_iff.mpr skipped]
    exact ih (List.find?_eq_none.mpr fun other member =>
      absent other (List.mem_cons_of_mem _ member))

/-- The imports of a module in `ValidateCandidate`: each is registered under its
exact identity and is visited in turn. -/
def visitImport (modules : ModuleMap) (visit : List ModuleKey → ProgramModule →
      Except RegistryError (List ModuleKey))
    (complete : List ModuleKey) (dependency : ModuleImportIdentity) :
    Except RegistryError (List ModuleKey) :=
  match modules.find (makeKey dependency.module) with
  | none =>
    .error ⟨.dependencyMissing, text "Module import is not registered: " ++
        dependency.module.canonicalId⟩
  | some found =>
    if found.identity ≠ dependency.module ∨ found.irVersion ≠ dependency.irVersion then
      .error ⟨.referenceMismatch, text "Module import exact identity or IR version mismatch: " ++
          dependency.module.canonicalId⟩
    else visit complete found

/-- The search of `ValidateCandidate`.  The keys being visited are different
keys of the map, so fuel beyond its size is never used up. -/
def visit (modules : ModuleMap) : Nat → List ModuleKey → List ModuleKey → ProgramModule →
      Except RegistryError (List ModuleKey)
  | 0, _, complete, _ => .ok complete
  | fuel + 1, visiting, complete, module =>
    if moduleKey module ∈ visiting then
      .error ⟨.dependencyCycle, text "Module import cycle: " ++ module.identity.canonicalId⟩
    else if moduleKey module ∈ complete then .ok complete
    else
      match module.moduleImports.foldlM
          (modules.visitImport (modules.visit fuel (moduleKey module :: visiting)))
          complete with
      | .error error => .error error
      | .ok complete => .ok (moduleKey module :: complete)

def validateCandidate (modules : ModuleMap) : Except RegistryError (List ModuleKey) :=
  modules.foldlM (modules.visit (modules.length + 1) []) []

end ModuleMap

structure ModuleStoreResult where
  success : Bool
  module : Option ProgramModule
  error : Option RegistryError

/-- `ProgramDefinitionStore`, without its cache of verified modules. -/
structure ProgramDefinitionStore where
  modules : ModuleMap := []

variable (sorting : UnstableSort) (sha256 : HashFunction)

/-- One module of `RegisterCompiledBatch`. -/
def admitModule (candidate : ModuleMap) (module : ProgramModule) : Except RegistryError ModuleMap :=
  if !module.identity.valid then
    .error ⟨.invalidIdentity, text "Module requires canonical id, revision, and hash"⟩
  else if module.irVersion ≠ canonicalIrVersionV1 then
    .error ⟨.invalidArgument, text "ProgramDefinitionStore supports canonical IR version 1"⟩
  else
    match validateProgramModuleIdentityV1 sorting sha256 module with
    | .error status =>
      .error ⟨.referenceMismatch, text "Module canonical identity is invalid: " ++ status.message⟩
    | .ok () =>
      match candidate.find (moduleKey module) with
      | some found =>
        if found = module then .ok candidate
        else
          .error ⟨.identityConflict, text "Module id/revision already has different content: " ++
              module.identity.canonicalId ++ text " revision=" ++
              decimal module.identity.revision.toNat ++ text " existing_hash=" ++
              found.identity.moduleHash.toHex ++ text " incoming_hash=" ++
              module.identity.moduleHash.toHex⟩
      | none => .ok (candidate.emplace module)

namespace ProgramDefinitionStore

variable (store : ProgramDefinitionStore)

def resolve (identity : ModuleIdentity) : Option ProgramModule :=
  match store.modules.find (makeKey identity) with
  | none => none
  | some found => if found.identity = identity then some found else none

/-- `RegisterCompiledBatch`: the registry's error, if any, and the store. -/
def registerCompiledBatch (modules : List ProgramModule) :
    Option RegistryError × ProgramDefinitionStore :=
  match modules.foldlM (admitModule sorting sha256) store.modules with
  | .error error => (some error, store)
  | .ok candidate =>
    match candidate.validateCandidate with
    | .error error => (some error, store)
    | .ok _ => (none, { store with modules := candidate })

def registerCompiled (module : ProgramModule) : ModuleStoreResult × ProgramDefinitionStore :=
  match store.registerCompiledBatch sorting sha256 [module] with
  | (some error, after) => (⟨false, none, some error⟩, after)
  | (none, after) => (⟨true, after.resolve module.identity, none⟩, after)

def registerEncoded (payload : ByteString) (expectedIdentity : Option ModuleIdentity) :
    ModuleStoreResult × ProgramDefinitionStore :=
  match decodeProgramModuleV1 sorting sha256 payload {} with
  | ⟨none, some module, _⟩ =>
    if expectedIdentity.any (· ≠ module.identity) then
      (⟨false, none, some ⟨.referenceMismatch,
        text "Encoded module does not match expected exact identity"⟩⟩, store)
    else store.registerCompiled sorting sha256 module
  | ⟨status, _, _⟩ =>
    (⟨false, none, some ⟨.invalidArgument, text "Encoded module rejected: " ++
        (status.map CodecStatus.message).getD []⟩⟩, store)

end ProgramDefinitionStore

/-! ## Registering a module again -/

section Admission

variable {sorting sha256}
variable {module other : ProgramModule} {candidate : ModuleMap}

theorem valid_of_validIdentity
    (valid : validateProgramModuleIdentityV1 sorting sha256 module = .ok ()) :
    module.identity.valid = true ∧ module.irVersion = canonicalIrVersionV1 := by
  obtain ⟨shaped, present, _⟩ := validateProgramModuleIdentityV1_ok.mp valid
  obtain ⟨named, revised⟩ := Bool.or_eq_false_iff.mp shaped.identity
  refine ⟨?_, shaped.irVersion⟩
  simp [ModuleIdentity.valid, named, present, bne, revised]

theorem admitModule_valid (valid : validateProgramModuleIdentityV1 sorting sha256 module = .ok ()) :
    (candidate.find (moduleKey module) = none ∧
      admitModule sorting sha256 candidate module = .ok (candidate.emplace module)) ∨
    (candidate.find (moduleKey module) = some module ∧
      admitModule sorting sha256 candidate module = .ok candidate) ∨
    ∃ found message, candidate.find (moduleKey module) = some found ∧ found ≠ module ∧
      admitModule sorting sha256 candidate module = .error ⟨.identityConflict, message⟩ := by
  obtain ⟨identified, version⟩ := valid_of_validIdentity valid
  unfold admitModule
  rw [identified, if_neg (by decide), if_neg (not_not.mpr version), valid]
  cases found : candidate.find (moduleKey module) with
  | none => exact .inl ⟨rfl, rfl⟩
  | some stored =>
    by_cases same : stored = module
    · subst same
      exact .inr (.inl ⟨rfl, if_pos rfl⟩)
    · exact .inr (.inr ⟨stored, _, rfl, same, if_neg same⟩)

theorem valid_of_admitModule (judged : (∃ message, admitModule sorting sha256 candidate module =
        .error ⟨.identityConflict, message⟩) ∨
      ∃ after, admitModule sorting sha256 candidate module = .ok after) :
    validateProgramModuleIdentityV1 sorting sha256 module = .ok () := by
  unfold admitModule at judged
  split at judged
  · simp at judged
  split at judged
  · simp at judged
  cases checked : validateProgramModuleIdentityV1 sorting sha256 module with
  | ok => rfl
  | error status => simp [checked] at judged

end Admission

namespace ProgramDefinitionStore

variable {sorting sha256}
variable {store : ProgramDefinitionStore} {module other : ProgramModule}

/-- The registration succeeds, leaves the store and resolves to the identity of
the module. -/
structure Idempotent (store : ProgramDefinitionStore) (module : ProgramModule)
    (result : ModuleStoreResult × ProgramDefinitionStore) : Prop where
  success : result.1.success = true
  unchanged : result.2 = store
  resolves : result.1.module.map ProgramModule.identity = some module.identity

/-- The registration ends with an identity conflict. -/
def Conflicts (result : ModuleStoreResult × ProgramDefinitionStore) : Prop :=
  ∃ message, result.1 = ⟨false, none, some ⟨.identityConflict, message⟩⟩

theorem Conflicts.not_success {result : ModuleStoreResult × ProgramDefinitionStore}
    (conflicts : Conflicts result) : ¬result.1.success = true := by
  obtain ⟨message, conflict⟩ := conflicts
  rw [conflict]
  exact Bool.false_ne_true

/-- A store that holds the module, and whose candidate was validated. -/
structure Registered (store : ProgramDefinitionStore) (module : ProgramModule) : Prop where
  found : store.modules.find (moduleKey module) = some module
  validated : ∃ complete, store.modules.validateCandidate = .ok complete

theorem registerCompiled_eq : store.registerCompiled sorting sha256 module =
      match admitModule sorting sha256 store.modules module with
      | .error error => (⟨false, none, some error⟩, store)
      | .ok candidate =>
        match candidate.validateCandidate with
        | .error error => (⟨false, none, some error⟩, store)
        | .ok _ =>
          (⟨true, resolve { store with modules := candidate } module.identity, none⟩,
            { store with modules := candidate }) := by
  unfold registerCompiled registerCompiledBatch
  rw [List.foldlM_cons]
  cases admitModule sorting sha256 store.modules module with
  | error error => rfl
  | ok candidate =>
    change (match (match candidate.validateCandidate with
      | .error error => (some error, store)
      | .ok _ => (none, { store with modules := candidate })) with
      | (some error, after) => _
      | (none, after) => _) = _
    dsimp only
    cases candidate.validateCandidate <;> rfl

theorem registered_of_success (success : (store.registerCompiled sorting sha256 module).1.success =
      true) :
    validateProgramModuleIdentityV1 sorting sha256 module = .ok () ∧
      (store.registerCompiled sorting sha256 module).2.Registered module := by
  rw [registerCompiled_eq] at success ⊢
  cases admitted : admitModule sorting sha256 store.modules module with
  | error error =>
    rw [admitted] at success
    cases success
  | ok candidate =>
    have valid := valid_of_admitModule (.inr ⟨_, admitted⟩)
    rw [admitted] at success
    dsimp only at success ⊢
    cases validated : candidate.validateCandidate with
    | error error =>
      rw [validated] at success
      cases success
    | ok complete =>
      refine ⟨valid, ?_, complete, validated⟩
      rcases @admitModule_valid _ _ _ store.modules valid with
        ⟨free, placed⟩ | ⟨there, kept⟩ | ⟨_, _, _, _, refused⟩
      · rw [placed] at admitted
        cases admitted
        exact ModuleMap.find_emplace free
      · rw [kept] at admitted
        cases admitted
        exact there
      · rw [refused] at admitted
        cases admitted

theorem Registered.again (registered : store.Registered module)
    (valid : validateProgramModuleIdentityV1 sorting sha256 module = .ok ()) :
    Idempotent store module (store.registerCompiled sorting sha256 module) := by
  obtain ⟨found, complete, validated⟩ := registered
  have resolved : store.resolve module.identity = some module := by
    unfold resolve
    have same : store.modules.find (makeKey module.identity) = some module := found
    rw [same]
    exact if_pos rfl
  rw [registerCompiled_eq]
  rcases @admitModule_valid _ _ _ store.modules valid with
    ⟨free, _⟩ | ⟨_, kept⟩ | ⟨other, _, there, different, _⟩
  · rw [found] at free
    cases free
  · rw [kept]
    simp only [validated]
    exact ⟨rfl, rfl, by rw [resolved]; rfl⟩
  · rw [found] at there
    exact absurd (Option.some.inj there) (Ne.symm different)

theorem Registered.conflicts (registered : store.Registered module)
    (valid : validateProgramModuleIdentityV1 sorting sha256 other = .ok ())
    (key : moduleKey other = moduleKey module) (different : other ≠ module) :
    Conflicts (store.registerCompiled sorting sha256 other) := by
  have found := registered.found
  rw [← key] at found
  rw [registerCompiled_eq]
  rcases @admitModule_valid _ _ _ store.modules valid with
    ⟨free, _⟩ | ⟨there, _⟩ | ⟨_, message, _, _, refused⟩
  · rw [found] at free
    cases free
  · rw [found] at there
    exact absurd (Option.some.inj there).symm different
  · rw [refused]
    exact ⟨message, rfl⟩

theorem valid_of_conflicts (conflicts : Conflicts (store.registerCompiled sorting sha256 other)) :
    validateProgramModuleIdentityV1 sorting sha256 other = .ok () := by
  obtain ⟨message, conflict⟩ := conflicts
  rw [registerCompiled_eq] at conflict
  cases admitted : admitModule sorting sha256 store.modules other with
  | ok candidate => exact valid_of_admitModule (.inr ⟨_, admitted⟩)
  | error error =>
    rw [admitted] at conflict
    cases conflict
    exact valid_of_admitModule (.inl ⟨message, admitted⟩)

theorem registerEncoded_success {bytes : ByteString} {expected : Option ModuleIdentity}
    (success : (store.registerEncoded sorting sha256 bytes expected).1.success = true) :
    ∃ module consumed, decodeProgramModuleV1 sorting sha256 bytes {} = .decoded module consumed ∧
      (store.registerCompiled sorting sha256 module).1.success = true := by
  unfold registerEncoded at success
  split at success
  · rename_i module consumed decodes
    split at success
    · cases success
    · exact ⟨module, consumed, decodes, success⟩
  · cases success

theorem validIdentity_of_reorders (reorders : module.Reorders other)
    (valid : validateProgramModuleIdentityV1 sorting sha256 module = .ok ())
    (hash : computeProgramModuleHashV1 sorting sha256 other = module.identity.moduleHash) :
    validateProgramModuleIdentityV1 sorting sha256 other = .ok () := by
  obtain ⟨_, present, _⟩ := validateProgramModuleIdentityV1_ok.mp valid
  have identity : other.identity = module.identity := by rw [reorders.same]
  refine validateProgramModuleIdentityV1_ok.mpr ⟨?_, ?_, ?_⟩
  · -- a module that is not well shaped is not encoded, and its hash is zero
    unfold computeProgramModuleHashV1 hashBytes at hash
    cases encoded : encodeProgramModuleV1 sorting other .omitDeclaredHash {} with
    | ok bytes => exact (encodeProgramModuleV1_ok.mp encoded).1
    | error status =>
      rw [encoded] at hash
      have zero : ContentHash256.zero.isEmpty = true := by decide
      rw [← hash] at present
      exact absurd (present.symm.trans zero) Bool.false_ne_true
  · rw [identity]
    exact present
  · rw [identity]
    exact hash

/-- A registered module is presented once more: encoded, with or without the
identity that is expected, or compiled. -/
inductive Again
  | encoded (bytes : ByteString) (expected : Option ModuleIdentity)
  | compiled (other : ProgramModule)

namespace Again

/-- The bytes are the canonical encoding of the module, and no other identity is
expected. -/
def Presents (sorting : UnstableSort) (module : ProgramModule) : Again → Prop
  | encoded bytes expected =>
    encodeProgramModuleV1 sorting module .includeDeclaredHash {} =
      .ok bytes ∧ expected.all (· = module.identity) = true
  | compiled _ => True

/-- Registering the encoding, or a reordering with the same hash, is idempotent,
and only modules with another canonical content conflict. -/
def Law (sorting : UnstableSort) (sha256 : HashFunction)
    (store : ProgramDefinitionStore) (module : ProgramModule) : Again → Prop
  | encoded bytes expected =>
    Idempotent store module (store.registerEncoded sorting sha256 bytes expected)
  | compiled other =>
    (module.Reorders other →
      computeProgramModuleHashV1 sorting sha256 other = module.identity.moduleHash →
      Idempotent store module (store.registerCompiled sorting sha256 other)) ∧
    (Conflicts (store.registerCompiled sorting sha256 other) →
      other.canonicalForm sorting ≠ module.canonicalForm sorting)

/-- The second presentation is written in the order of the first: the module is
authored in its canonical form, or a valid module of the same content is the
module itself. -/
def SameOrder (sorting : UnstableSort) (sha256 : HashFunction)
    (module : ProgramModule) : Again → Prop
  | encoded _ _ => module.canonicalForm sorting = module
  | compiled other =>
    validateProgramModuleIdentityV1 sorting sha256 other = .ok () →
    module.Reorders other ∨ other.canonicalForm sorting = module.canonicalForm sorting →
    other = module

end Again

variable {again : Again}

section

variable
    (accepted : (store.registerCompiled sorting sha256 module).1.success = true)
    (presents : again.Presents sorting module)
include accepted presents

/-- Where the law holds, the second presentation is in the order of the
first. -/
theorem sameOrder_of_law (law : again.Law sorting sha256
      (store.registerCompiled sorting sha256 module).2 module) :
    again.SameOrder sorting sha256 module := by
  obtain ⟨_, registered⟩ := registered_of_success accepted
  cases again with
  | encoded bytes expected =>
    obtain ⟨decodedModule, consumed, decodes, success⟩ :=
      registerEncoded_success (Idempotent.success law)
    have form := ProgramModule.eq_canonicalForm_of_decoded presents.1 decodes
    have identity : decodedModule.identity = module.identity := by
      rw [form]
      rfl
    have decodedValid := (registered_of_success success).1
    by_contra differs
    exact (registered.conflicts decodedValid (congrArg makeKey identity)
      fun same => differs (form.symm.trans same)).not_success success
  | compiled other =>
    obtain ⟨idempotent, differs⟩ := law
    rintro otherValid (reorders | same)
    · have identity : other.identity = module.identity := by
        rw [reorders.same]
      have hash := (validateProgramModuleIdentityV1_ok.mp otherValid).2.2
      rw [identity] at hash
      by_contra different
      exact (registered.conflicts otherValid (congrArg makeKey identity)
        different).not_success (idempotent reorders hash).success
    by_contra different
    have identities := congrArg ProgramModule.identity same
    have identity : other.identity = module.identity := identities
    exact differs (registered.conflicts otherValid (congrArg makeKey identity) different) same

/-- What is presented in the order of the first registration is registered
without effect. -/
theorem law_of_sameOrder (sameOrder : again.SameOrder sorting sha256 module) :
    again.Law sorting sha256 (store.registerCompiled sorting sha256 module).2 module := by
  obtain ⟨valid, registered⟩ := registered_of_success accepted
  have idempotent := registered.again valid
  cases again with
  | encoded bytes expected =>
    obtain ⟨encoded, expects⟩ := presents
    have decodes := ProgramModule.decodes_of_canonicalForm sameOrder valid encoded
    have expected' : expected.any (· ≠ module.identity) = false := by cases expected <;> simp_all
    change Idempotent _ module (registerEncoded sorting sha256 _ bytes expected)
    unfold registerEncoded
    rw [decodes]
    simp only [DecodeResult.decoded, expected']
    exact idempotent
  | compiled other =>
    refine ⟨fun reorders hash => ?_, fun conflicts same => ?_⟩
    · have otherValid := validIdentity_of_reorders reorders valid hash
      rw [sameOrder otherValid (.inl reorders)]
      exact idempotent
    have otherValid := valid_of_conflicts conflicts
    rw [sameOrder otherValid (.inr same)] at conflicts
    exact conflicts.not_success idempotent.success

end

/-- A module that was accepted is registered again without effect, encoded or
compiled, exactly when it is presented in the order of the first
registration. -/
theorem registersAgain_iff_sameOrder
    (accepted : (store.registerCompiled sorting sha256 module).1.success = true)
    (presents : again.Presents sorting module) : again.Law sorting sha256
        (store.registerCompiled sorting sha256 module).2 module ↔
      again.SameOrder sorting sha256 module :=
  ⟨sameOrder_of_law accepted presents, law_of_sameOrder accepted presents⟩

/-- The module with its cases in order is registered and presented again. -/
theorem distinctCases_registersAgain :
    ∃ bytes, (Again.encoded bytes none).Law .insertion declaredSha256
      (registerCompiled .insertion declaredSha256 {}
        (switchingModule distinctCases)).2 (switchingModule distinctCases) := by
  have facts : (registerCompiled .insertion declaredSha256 {}
        (switchingModule distinctCases)).1.success = true ∧
      (encodeProgramModuleV1 .insertion (switchingModule distinctCases)
        .includeDeclaredHash {}).isOk = true ∧
      (switchingModule distinctCases).canonicalForm .insertion =
        switchingModule distinctCases := by decide +kernel
  obtain ⟨bytes, encoded⟩ := exists_of_isOk facts.2.1
  have presents : (Again.encoded bytes none).Presents .insertion
      (switchingModule distinctCases) := ⟨encoded, rfl⟩
  exact ⟨bytes, (registersAgain_iff_sameOrder facts.1 presents).mpr facts.2.2⟩

/-- A module whose cases are authored in the other order is accepted, but its
own canonical encoding conflicts with it. -/
theorem exists_not_registersAgain : ∃ bytes, (registerCompiled .insertion declaredSha256 {}
        (switchingModule distinctCases.reverse)).1.success = true ∧
      (Again.encoded bytes none).Presents .insertion (switchingModule distinctCases.reverse) ∧
      ¬(Again.encoded bytes none).Law .insertion declaredSha256
        (registerCompiled .insertion declaredSha256 {} (switchingModule distinctCases.reverse)).2
        (switchingModule distinctCases.reverse) := by
  have facts : (registerCompiled .insertion declaredSha256 {}
        (switchingModule distinctCases.reverse)).1.success = true ∧
      (encodeProgramModuleV1 .insertion (switchingModule distinctCases.reverse)
        .includeDeclaredHash {}).isOk = true ∧
      (switchingModule distinctCases.reverse).canonicalForm .insertion ≠
        switchingModule distinctCases.reverse := by decide +kernel
  obtain ⟨bytes, encoded⟩ := exists_of_isOk facts.2.1
  have presents : (Again.encoded bytes none).Presents .insertion
      (switchingModule distinctCases.reverse) := ⟨encoded, rfl⟩
  exact ⟨bytes, facts.1, presents, fun law => facts.2.2 (sameOrder_of_law facts.1 presents law)⟩

end ProgramDefinitionStore

end Savor.Program

import Savor.Predicates.PackageRoundTrip
import Savor.Predicates.PackageValidation

/-!
# Predicate packages travel

An accepted package has positive row ids and hashes that are short texts.  What
remains is whether its parts stay within the bounds of the reader: exactly then
the package is read back from its bytes.  The reader accepts no other bytes than
those the writer makes, and within the bounds the bytes, and with them the
content hash, determine the package.
-/

namespace Savor.Predicates

open Library.Wire
open Program

section Checks

/-- A sequence of checks passes when all do. -/
theorem check_bind_ok {first : Check} {next : Unit → Check} :
    (first >>= next) = .ok () ↔ first = .ok () ∧ next () = .ok () := by
  cases first with
  | error objection => exact ⟨nofun, fun passed => nomatch passed.1⟩
  | ok => exact ⟨fun passed => ⟨rfl, passed⟩, And.right⟩

theorem require_ok {condition : Prop} [Decidable condition] {code message : String} :
    require condition code message = .ok () ↔ condition := by
  unfold require
  split
  · rename_i holds
    exact iff_of_true rfl holds
  · rename_i fails
    exact ⟨nofun, fun holds => absurd holds fails⟩

/-- The package is accepted. -/
def Accepted (env : PackageEnvironment) (package : PredicateExecutionPackage) : Prop :=
  (validatePackage env package).ok = true

theorem accepted_iff {env : PackageEnvironment} {package : PredicateExecutionPackage} :
    Accepted env package ↔ checkPackage env package = .ok () := by
  unfold Accepted validatePackage
  split
  · rename_i passed
    exact iff_of_true rfl passed
  · rename_i objection failed
    exact ⟨nofun, fun passed => by cases failed.symm.trans passed⟩

end Checks

section Accepted

variable {env : PackageEnvironment}

theorem stringFits_hashText (bytes : ByteString) : StringFits (hashText env bytes) := by
  rw [StringFits, hashText, ContentHash256.length_toHex]
  decide

theorem stringFits_definitionHash (definition : PredicateDefinition) :
    StringFits (definitionHash env definition) := by
  unfold definitionHash
  dsimp only
  split
  · rw [StringFits, ContentHash256.length_toHex]
    decide
  · exact Nat.zero_le _

theorem stringFits_resolvedGroupHash (group : ResolvedPredicateGroup) :
    StringFits (resolvedGroupHash env group) := by
  unfold resolvedGroupHash
  split <;> exact stringFits_hashText _

/-- What the checks of a binding say of its row ids and its hashes. -/
structure BindingIdentified (binding : PredicateExecutionBinding) : Prop where
  rowId : 0 < binding.executionBindingRevisionId
  contentSha256 : StringFits binding.contentSha256
  definitionRowId : 0 < binding.definition.revisionId
  definitionSha256 : StringFits binding.definition.contentSha256

variable {hooks : List ByteString} {seen : List Int64}
variable {package : PredicateExecutionPackage}

theorem identified_of_checkBindings {bindings : List PredicateExecutionBinding}
    (passed : checkBindings env hooks seen bindings = .ok ()) :
    ∀ binding ∈ bindings, BindingIdentified binding := by
  induction bindings generalizing seen with
  | nil => exact fun _ member => absurd member List.not_mem_nil
  | cons binding bindings ih =>
    rw [checkBindings, check_bind_ok, check_bind_ok, check_bind_ok,
      require_ok, require_ok] at passed
    obtain ⟨identity, definition, _, others⟩ := passed
    refine List.forall_mem_cons.mpr ⟨⟨identity.1, ?_, definition.1, ?_⟩, ih others⟩
    · rw [identity.2.2.2.2]
      exact stringFits_hashText _
    · rw [definition.2.1]
      exact stringFits_definitionHash _

theorem checkMember_bindings {index : Nat} {member : PredicateGroupMember}
    (passed : checkMember env package hooks index seen member = .ok ()) :
    (∃ binding, findBinding package member.executionBindingRevisionId = some binding) ∧
      ∀ id ∈ member.guardExecutionBindingRevisionId,
        ∃ binding, findBinding package id = some binding := by
  rw [checkMember, check_bind_ok] at passed
  obtain ⟨_, passed⟩ := passed
  split at passed
  · cases passed
  rename_i binding found
  rw [check_bind_ok, check_bind_ok, check_bind_ok, require_ok, require_ok] at passed
  obtain ⟨_, _, guarded, _⟩ := passed
  refine ⟨⟨binding, found⟩, fun id named => ?_⟩
  obtain ⟨guard, foundGuard, _⟩ := (Option.any_eq_true _ _).mp
    ((Option.all_eq_true _ _).mp guarded id named)
  exact ⟨guard, foundGuard⟩

theorem pos_of_findBinding {id : Int64} (identified : ∀ binding ∈ package.executionBindings,
      BindingIdentified binding)
    (found : ∃ binding, findBinding package id = some binding) : 0 < id := by
  obtain ⟨binding, found⟩ := found
  have same := List.find?_some found
  rw [← of_decide_eq_true same]
  exact (identified binding (List.mem_of_find?_eq_some found)).rowId

theorem rowIds_of_checkMembers {index : Nat} {members : List PredicateGroupMember}
    (identified : ∀ binding ∈ package.executionBindings, BindingIdentified binding)
    (passed : checkMembers env package hooks index seen members = .ok ()) :
    ∀ member ∈ members, 0 < member.executionBindingRevisionId ∧
      ∀ id ∈ member.guardExecutionBindingRevisionId, 0 < id := by
  induction members generalizing index seen with
  | nil => exact fun _ member => absurd member List.not_mem_nil
  | cons member members ih =>
    rw [checkMembers, check_bind_ok] at passed
    obtain ⟨first, others⟩ := passed
    obtain ⟨own, guards⟩ := checkMember_bindings first
    exact List.forall_mem_cons.mpr
      ⟨⟨pos_of_findBinding identified own,
        fun id named => pos_of_findBinding identified (guards id named)⟩, ih others⟩

/-- What acceptance says of the row ids and the hashes of a package. -/
structure PackageIdentified (env : PackageEnvironment)
    (package : PredicateExecutionPackage) : Prop where
  hookSha256 : StringFits package.hookContract.contentSha256
  groupRowId : 0 < package.group.predicateGroupRevisionId
  groupSha256 : StringFits package.group.contentSha256
  contentSha256 : package.contentSha256 = executionPackageHash env package
  bindings : ∀ binding ∈ package.executionBindings, BindingIdentified binding
  members : ∀ member ∈ package.group.members,
    0 < member.executionBindingRevisionId ∧ ∀ id ∈ member.guardExecutionBindingRevisionId, 0 < id

theorem identified_of_accepted
    (accepted : Accepted env package) : PackageIdentified env package := by
  rw [accepted_iff, checkPackage, check_bind_ok, check_bind_ok, check_bind_ok,
    require_ok, require_ok, checkHookContract, check_bind_ok, require_ok] at accepted
  obtain ⟨⟨hook, _⟩, group, content, parts⟩ := accepted
  have hookSha256 : StringFits package.hookContract.contentSha256 := by
    rw [hook.2.2]
    exact stringFits_hashText _
  have groupSha256 : StringFits package.group.contentSha256 := by
    rw [group.2.2.2]
    exact stringFits_resolvedGroupHash _
  split at parts
  · rw [require_ok] at parts
    obtain ⟨noMembers, noBindings⟩ := parts
    refine ⟨hookSha256, group.1, groupSha256, content, ?_, ?_⟩
    · rw [noBindings]
      exact fun _ member => absurd member List.not_mem_nil
    · rw [noMembers]
      exact fun _ member => absurd member List.not_mem_nil
  dsimp only at parts
  rw [check_bind_ok, check_bind_ok] at parts
  obtain ⟨bindings, members, _⟩ := parts
  have identified := identified_of_checkBindings bindings
  exact ⟨hookSha256, group.1, groupSha256, content, identified,
    rowIds_of_checkMembers identified members⟩

theorem packageRead_iff (accepted : Accepted env package) :
    PackageRead package ↔ PackageFits package := by
  have identified := identified_of_accepted accepted
  refine ⟨PackageRead.fits, fun fits => ⟨fits, identified.hookSha256,
    ⟨fits.group, identified.groupRowId, identified.groupSha256,
      fun member found => ?_⟩, fun binding found => ?_, ?_⟩⟩
  · obtain ⟨own, guards⟩ := identified.members member found
    exact ⟨fits.group.members member found, own, guards⟩
  · obtain ⟨rowId, contentSha256, definitionRowId, definitionSha256⟩ :=
      identified.bindings binding found
    exact ⟨fits.bindings binding found, rowId, contentSha256, definitionRowId, definitionSha256⟩
  · rw [identified.contentSha256]
    exact stringFits_hashText _

theorem encodeExecutionPackage_of_accepted (accepted : Accepted env package) (output : ByteString) :
    encodeExecutionPackage env package output = ⟨true, encodePackage package, []⟩ :=
  if_pos accepted

variable {output : PredicateExecutionPackage}

theorem decodeExecutionPackage_ok_iff {input : ByteString} {diagnostic : ByteString} :
    decodeExecutionPackage env input output = ⟨true, package, diagnostic⟩ ↔
      decodePackage () input = .ok (package, []) ∧ Accepted env package ∧ diagnostic = [] := by
  unfold decodeExecutionPackage
  constructor
  · intro decoded
    split at decoded
    · rename_i other read
      dsimp only at decoded
      split at decoded
      · rename_i accepted
        cases decoded
        exact ⟨read, accepted, rfl⟩
      · cases decoded
    · cases decoded
  · rintro ⟨read, accepted, rfl⟩
    rw [read]
    exact if_pos accepted

theorem output_of_not_decoded {input : ByteString}
    (failed : (decodeExecutionPackage env input output).ok = false) :
    (decodeExecutionPackage env input output).output = output := by
  unfold decodeExecutionPackage at failed ⊢
  split at failed
  · dsimp only at failed ⊢
    split at failed
    · cases failed
    · rename_i refused
      rw [if_neg refused]
  · rfl

end Accepted

section Travelling

/-- The package is encoded, and its bytes are decoded to it. -/
def Travels (env : PackageEnvironment) (package : PredicateExecutionPackage) : Prop :=
  ∀ output received,
    (encodeExecutionPackage env package output).ok = true ∧
      decodeExecutionPackage env
          (encodeExecutionPackage env package output).output received =
        ⟨true, package, []⟩

variable {env : PackageEnvironment} {package : PredicateExecutionPackage}

theorem travels_iff (accepted : Accepted env package) :
    Travels env package ↔ PackageFits package := by
  rw [← packageRead_iff accepted]
  constructor
  · intro travels
    obtain ⟨_, decoded⟩ := travels [] {}
    rw [encodeExecutionPackage_of_accepted accepted] at decoded
    obtain ⟨read, _⟩ := decodeExecutionPackage_ok_iff.mp decoded
    exact (packageCodes.restores _ _ _ read).1
  intro admitted output received
  rw [encodeExecutionPackage_of_accepted accepted]
  have read := packageCodes.reads package admitted []
  rw [List.append_nil] at read
  exact ⟨rfl, decodeExecutionPackage_ok_iff.mpr ⟨read, accepted, rfl⟩⟩

theorem encode_of_decoded {input output : ByteString}
    {received : PredicateExecutionPackage} {diagnostic : ByteString}
    (decoded : decodeExecutionPackage env input received = ⟨true, package, diagnostic⟩) :
    encodeExecutionPackage env package output = ⟨true, input, []⟩ := by
  obtain ⟨read, accepted, _⟩ := decodeExecutionPackage_ok_iff.mp decoded
  obtain ⟨_, spelled⟩ := packageCodes.restores _ _ _ read
  rw [encodeExecutionPackage_of_accepted accepted, spelled, List.append_nil]

/-- Two packages that fit and have the same content hash are equal, unless the
digest collides on them. -/
theorem eq_of_contentSha256 {first second : PredicateExecutionPackage}
    (acceptedFirst : Accepted env first) (acceptedSecond : Accepted env second)
    (fitsFirst : PackageFits first) (fitsSecond : PackageFits second) (collisionFree :
      env.sha256 (encodeContent first) = env.sha256 (encodeContent second) →
        encodeContent first = encodeContent second)
    (same : first.contentSha256 = second.contentSha256) : first = second := by
  have hashes : executionPackageHash env first =
      executionPackageHash env second := by
    rw [← (identified_of_accepted acceptedFirst).contentSha256,
      ← (identified_of_accepted acceptedSecond).contentSha256, same]
  have contents := collisionFree (ContentHash256.toHex_injective hashes)
  have bytes : encodePackage first = encodePackage second := by
    rw [encodePackage, encodePackage, contents, same]
  exact (packageCodes.injective ((packageRead_iff acceptedFirst).mpr fitsFirst)
    ((packageRead_iff acceptedSecond).mpr fitsSecond) (congrArg (· ++ []) bytes)).1

/-- An accepted package is read back from its bytes when its parts stay within
the bounds of the reader, and only then.  Bytes that are decoded are encoded to
themselves, a failed decode leaves the output, and the content hash tells two
packages within the bounds apart. -/
theorem executionPackage_travels_iff (env : PackageEnvironment) :
    (∀ package, Accepted env package → (Travels env package ↔ PackageFits package)) ∧
    (∀ input received package diagnostic output,
      decodeExecutionPackage env input received = ⟨true, package, diagnostic⟩ →
        encodeExecutionPackage env package output = ⟨true, input, []⟩) ∧
    (∀ input received, (decodeExecutionPackage env input received).ok = false →
        (decodeExecutionPackage env input received).output = received) ∧
    ∀ first second, Accepted env first → Accepted env second →
      PackageFits first → PackageFits second →
      (env.sha256 (encodeContent first) = env.sha256 (encodeContent second) →
        encodeContent first = encodeContent second) →
      first.contentSha256 = second.contentSha256 → first = second :=
  ⟨fun _ => travels_iff, fun _ _ _ _ _ => encode_of_decoded,
    fun _ _ => output_of_not_decoded,
    fun _ _ acceptedFirst acceptedSecond fitsFirst fitsSecond =>
      eq_of_contentSha256 acceptedFirst acceptedSecond fitsFirst fitsSecond⟩

/-- A package of the empty group whose hook contract has this name. -/
def namedPackage (env : PackageEnvironment) (canonicalId : ByteString) :
    PredicateExecutionPackage :=
  let hook : PredicateHookContract := { canonicalId, revision := 1 }
  let group : ResolvedPredicateGroup :=
    { predicateGroupRevisionId := 1, canonicalId := kEmptyGroupId
      revision := 1, contentSha256 := hashText env [] }
  let package : PredicateExecutionPackage :=
    { hookContract :=
        { hook with contentSha256 := hookContractHash env hook }
      group := group }
  { package with contentSha256 := executionPackageHash env package }

theorem kEmptyGroupId_ne_nil : kEmptyGroupId ≠ [] := by decide

theorem accepted_namedPackage {canonicalId : ByteString} (nonempty : canonicalId ≠ []) :
    Accepted env (namedPackage env canonicalId) := by
  rw [accepted_iff, checkPackage, check_bind_ok, check_bind_ok, check_bind_ok,
    require_ok, require_ok, checkHookContract, check_bind_ok, require_ok, require_ok]
  have one : (1 : UInt32) ≠ 0 := by decide
  have positive : (0 : Int64) < 1 := by decide
  refine ⟨⟨⟨nonempty, one, rfl⟩, fun _ member =>
    absurd member List.not_mem_nil, rfl⟩, ⟨positive, kEmptyGroupId_ne_nil, one,
      (if_pos ⟨rfl, rfl⟩).symm⟩, rfl, ?_⟩
  have empty : (namedPackage env canonicalId).group.canonicalId = kEmptyGroupId := rfl
  exact (if_pos empty).trans (require_ok.mpr ⟨rfl, rfl⟩)

/-! ## A package with a guard

The digests below are those of the strings that it asks for, which differ in
length. -/

def hookDigest : ContentHash256 :=
  ⟨[194, 232, 84, 163, 30, 25, 31, 220, 81, 23, 37, 190, 168, 238, 226, 5, 72, 83, 206, 85, 6,
    236, 207, 43, 128, 105, 55, 43, 234, 68, 5, 135], rfl⟩

def checkedDigest : ContentHash256 :=
  ⟨[128, 122, 238, 170, 40, 248, 204, 140, 174, 246, 67, 125, 244, 185, 144, 145, 205, 253, 19,
    132, 115, 38, 135, 240, 82, 159, 206, 77, 36, 249, 59, 2], rfl⟩

def guardDigest : ContentHash256 :=
  ⟨[23, 52, 130, 86, 178, 154, 11, 51, 236, 139, 194, 100, 118, 170, 243, 202, 24, 191, 124,
    254, 86, 105, 135, 33, 236, 47, 101, 132, 234, 135, 106, 9], rfl⟩

def groupDigest : ContentHash256 :=
  ⟨[250, 99, 165, 191, 153, 66, 197, 141, 29, 152, 53, 55, 138, 135, 214, 59, 74, 229, 1, 156,
    55, 150, 77, 183, 132, 128, 250, 84, 105, 191, 237, 127], rfl⟩

def contentDigest : ContentHash256 :=
  ⟨[37, 135, 34, 174, 185, 180, 48, 95, 162, 203, 108, 174, 124, 237, 127, 166, 173, 69, 111,
    63, 245, 191, 16, 205, 84, 38, 216, 98, 70, 125, 232, 157], rfl⟩

def guardedEnvironment : PackageEnvironment where
  sha256 bytes :=
    match bytes.length with
    | 57 => hookDigest
    | 260 => checkedDigest
    | 258 => guardDigest
    | 76 => groupDigest
    | 911 => contentDigest
    | _ => .zero
  lowerPredicate _ _ module := ({ ok := true }, module)
  programModuleHash _ := .zero
  canonicalActionIdentity _ := ⟨[], 0, .zero⟩
  querySources := []
  reducers := []

/-- The name of a hook contract that is a byte too long is written and refused
when it is read. -/
theorem exists_accepted_not_travels : ∃ package, Accepted guardedEnvironment package ∧
      ¬Travels guardedEnvironment package := by
  have nonempty : List.replicate (kMaximumString + 1) (97 : Byte) ≠ [] := List.cons_ne_nil _ _
  refine ⟨namedPackage guardedEnvironment _, accepted_namedPackage nonempty, fun travels => ?_⟩
  have fits := (travels_iff (accepted_namedPackage nonempty)).mp travels
  have short := fits.hookContract.canonicalId
  change (List.replicate (kMaximumString + 1) (97 : Byte)).length ≤ kMaximumString at short
  rw [List.length_replicate] at short
  exact Nat.not_succ_le_self _ short

/-- The number 1.5. -/
def limit : LiteralValue := ⟨.ofBuiltin .f32, .f32 ⟨0x3fc00000⟩⟩

/-- A value is less than the limit. -/
def belowLimit : PredicateDefinition where
  canonicalId := text "soa.below_limit"
  revision := 1
  sourceName := text "below limit"
  witnesses := [⟨text "value", .ofBuiltin .f32⟩]
  expression :=
    [{ kind := .witness, witnessIndex := some 0, resultType := .ofBuiltin .f32 },
      { kind := .literal, literal := some limit, resultType := .ofBuiltin .f32 },
      { kind := .less, operands := [0, 1] }]
  rootExpression := 2

/-- The definition, bound to a concrete value. -/
def limitBinding (id : Int64) (canonicalId : String) (digest : ContentHash256) :
    PredicateExecutionBinding where
  executionBindingRevisionId := id
  canonicalId := text canonicalId
  revision := 1
  contentSha256 := digest.toHex
  definition := ⟨1, ContentHash256.zero.toHex, belowLimit⟩
  witnesses := [{ valueType := .ofBuiltin .f32, concreteValue := some limit }]

/-- One member, which another binding guards. -/
def guardedPackage : PredicateExecutionPackage where
  hookContract :=
    { canonicalId := text "soa.battle.predicate_hooks"
      revision := 2
      contentSha256 := hookDigest.toHex
      points := [⟨text "soa.end", 0x8000f0a0⟩] }
  group :=
    { predicateGroupRevisionId := 1
      canonicalId := text "soa.guarded"
      revision := 1
      contentSha256 := groupDigest.toHex
      members :=
        [{ ordinal := 0
           executionBindingRevisionId := 1
           semanticHookIds := [text "soa.end"]
           occurrence := .guardOnce
           guardExecutionBindingRevisionId := some 2 }] }
  executionBindings :=
    [limitBinding 1 "soa.checked" checkedDigest, limitBinding 2 "soa.guard" guardDigest]
  contentSha256 := contentDigest.toHex

theorem typeFits_ofBuiltin (builtin : BuiltinType) : TypeFits (.ofBuiltin builtin) := nofun

theorem literalFits_limit : LiteralFits limit := ⟨typeFits_ofBuiltin _, trivial⟩

theorem definitionFits_belowLimit : DefinitionFits belowLimit where
  canonicalId := by decide
  sourceName := by decide
  witnessCount := by decide
  witnesses := List.forall_mem_singleton.mpr ⟨by decide, typeFits_ofBuiltin _⟩
  nodeCount := by decide
  expression := by
    refine List.forall_mem_cons.mpr ⟨?_, List.forall_mem_cons.mpr ⟨?_,
      List.forall_mem_singleton.mpr ?_⟩⟩
    · exact ⟨by simp [IndexFits], nofun, by decide, nofun, nofun, typeFits_ofBuiltin _, by decide⟩
    · refine ⟨nofun, ?_, by decide, nofun, nofun, typeFits_ofBuiltin _, by decide⟩
      rintro _ ⟨⟩
      exact literalFits_limit
    · exact ⟨nofun, nofun, by decide, by simp [IndexFits], nofun, typeFits_ofBuiltin _, by decide⟩
  rootExpression := by simp [IndexFits, belowLimit]

theorem guardedPackage_travels : Accepted guardedEnvironment guardedPackage ∧
      Travels guardedEnvironment guardedPackage := by
  have accepted : Accepted guardedEnvironment guardedPackage := by
    unfold Accepted
    decide +kernel
  have bound : ∀ id canonicalId digest, StringFits (text canonicalId) →
      BindingFits (limitBinding id canonicalId digest) := by
    refine fun _ _ _ short => ⟨short, definitionFits_belowLimit, Nat.le_of_ble_eq_true rfl, ?_⟩
    refine List.forall_mem_singleton.mpr ⟨typeFits_ofBuiltin _, ?_, nofun, by decide, by decide⟩
    rintro _ ⟨⟩
    exact literalFits_limit
  have fits : PackageFits guardedPackage :=
    { hookContract := ⟨by decide, by decide, by decide⟩
      group := ⟨by decide, by decide, List.forall_mem_singleton.mpr ⟨by decide, by decide⟩⟩
      bindingCount := by decide
      bindings := List.forall_mem_cons.mpr
        ⟨bound _ _ _ (by decide), List.forall_mem_singleton.mpr (bound _ _ _ (by decide))⟩ }
  exact ⟨accepted, ((executionPackage_travels_iff
    guardedEnvironment).1 guardedPackage accepted).mpr fits⟩

end Travelling

end Savor.Predicates

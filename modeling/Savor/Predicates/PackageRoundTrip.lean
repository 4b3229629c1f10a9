import Savor.Predicates.PackageCodec

/-!
# What the package format carries

The bounds of the reader, part by part.  A part within its bounds is read back
from the bytes that the writer makes of it, and whatever is read is within the
bounds and is written to the bytes it was read from.
-/

namespace Savor.Predicates

open Library.Wire
open Library.Stream (Word)
open Program
open Program.Codec (Enumeration)
open Inverts
open PredicateWitnessSourceBinding
open PredicateGroupMember
open PredicateExpressionNode
open PredicateDefinition
open PredicateExecutionPackage

section Bounds

/-- A string that the reader takes. -/
def StringFits (string : ByteString) : Prop := string.length ≤ kMaximumString

instance (string : ByteString) : Decidable (StringFits string) :=
  inferInstanceAs (Decidable (string.length ≤ kMaximumString))

/-- An index that is not narrowed. -/
def IndexFits (index : Nat) : Prop := index < 2 ^ 32

/-- As many entries as the reader takes. -/
def EntriesFit {α : Type} (entries : List α) : Prop := entries.length ≤ kMaximumEntries

instance {α : Type} (entries : List α) : Decidable (EntriesFit entries) :=
  inferInstanceAs (Decidable (entries.length ≤ kMaximumEntries))

/-- An exact name and version. -/
structure NameFits (canonicalId : ByteString) (version : UInt32) : Prop where
  short : StringFits canonicalId
  nonempty : canonicalId ≠ []
  versioned : version ≠ 0

/-- A named type is exact and keeps the default builtin, which does not
travel. -/
structure NamedTypeFits (type : TypeRef) (identity : SchemaIdentity) : Prop where
  builtin : type.builtin = .unit
  name : NameFits identity.canonicalId identity.version

def TypeFits (type : TypeRef) : Prop := ∀ identity ∈ type.named, NamedTypeFits type identity

def DependencyFits (dependency : ExactDependencyIdentity) : Prop :=
  NameFits dependency.canonicalId dependency.version

/-- The name of an enumerator's schema may be empty. -/
def PayloadFits : LiteralPayload → Prop
  | .string value => StringFits value
  | .bytes value => value.length ≤ kMaximumBlob
  | .enum value => StringFits value.schema.canonicalId
  | _ => True

structure LiteralFits (literal : LiteralValue) : Prop where
  type : TypeFits literal.type
  payload : PayloadFits literal.payload

structure WitnessFits (witness : PredicateWitness) : Prop where
  name : StringFits witness.name
  valueType : TypeFits witness.valueType

structure NodeFits (node : PredicateExpressionNode) : Prop where
  witnessIndex : ∀ index ∈ node.witnessIndex, IndexFits index
  literal : ∀ literal ∈ node.literal, LiteralFits literal
  arity : EntriesFit node.operands
  operands : ∀ operand ∈ node.operands, IndexFits operand
  reducer : ∀ reducer ∈ node.reducer, DependencyFits reducer
  resultType : TypeFits node.resultType
  sourceLabel : StringFits node.sourceLabel

structure DefinitionFits (definition : PredicateDefinition) : Prop where
  canonicalId : StringFits definition.canonicalId
  sourceName : StringFits definition.sourceName
  witnessCount : EntriesFit definition.witnesses
  witnesses : ∀ witness ∈ definition.witnesses, WitnessFits witness
  nodeCount : EntriesFit definition.expression
  expression : ∀ node ∈ definition.expression, NodeFits node
  rootExpression : IndexFits definition.rootExpression

structure HookFits (hook : PredicateHookContract) : Prop where
  canonicalId : StringFits hook.canonicalId
  pointCount : EntriesFit hook.points
  points : ∀ point ∈ hook.points, StringFits point.canonicalId

structure SourceFits (source : PredicateWitnessSourceBinding) : Prop where
  valueType : TypeFits source.valueType
  concreteValue : ∀ literal ∈ source.concreteValue, LiteralFits literal
  dependency : ∀ dependency ∈ source.source, DependencyFits dependency
  sourceField : StringFits source.sourceField
  baselineCaptureHookId : StringFits source.baselineCaptureHookId

structure BindingFits (binding : PredicateExecutionBinding) : Prop where
  canonicalId : StringFits binding.canonicalId
  definition : DefinitionFits binding.definition.definition
  sourceCount : EntriesFit binding.witnesses
  sources : ∀ source ∈ binding.witnesses, SourceFits source

structure MemberFits (member : PredicateGroupMember) : Prop where
  hookCount : EntriesFit member.semanticHookIds
  hooks : ∀ hook ∈ member.semanticHookIds, StringFits hook

structure GroupFits (group : ResolvedPredicateGroup) : Prop where
  canonicalId : StringFits group.canonicalId
  memberCount : EntriesFit group.members
  members : ∀ member ∈ group.members, MemberFits member

/-- Every text, blob, count and index of the package stays within what the
reader takes, and every exact identity has a name and a version. -/
structure PackageFits (package : PredicateExecutionPackage) : Prop where
  hookContract : HookFits package.hookContract
  group : GroupFits package.group
  bindingCount : EntriesFit package.executionBindings
  bindings : ∀ binding ∈ package.executionBindings, BindingFits binding

end Bounds

section Primitives

theorem u8Codes : Codes () (fun _ => True) readU8 writeU8 := .word () _

theorem u32Codes : Codes () (fun _ => True) readU32 writeU32 := .word () _

theorem u64Codes : Codes () (fun _ => True) readU64 writeU64 := .word () _

theorem i64Codes : Codes () (fun _ => True) readI64 writeI64 := .word () _

theorem indexCodes : Codes () IndexFits readIndex writeSize where
  reads := by
    intro index fits rest
    have start := u32Codes.reads (UInt32.ofNat index) True.intro rest
    rw [readIndex, writeSize, Decoder.bind_eq start, UInt32.toNat_ofNat_of_lt' fits]
    rfl
  restores := by
    intro bytes index rest decoded
    obtain ⟨value, between, start, last⟩ := Decoder.bind_ok decoded
    cases last
    obtain ⟨_, spelled⟩ := u32Codes.restores _ _ _ start
    refine ⟨value.toNat_lt, ?_⟩
    rw [writeSize, UInt32.ofNat_toNat]
    exact spelled

theorem sizeCodes {limit : Nat} (fits : limit < 2 ^ 32) :
    Codes () (· ≤ limit) (readSize limit) writeSize :=
  (indexCodes.checked (· ≤ limit) ()).congr fun _ =>
    ⟨And.right, fun small => ⟨Nat.lt_of_le_of_lt small fits, small⟩⟩

theorem stringCodes : Codes () StringFits readString writeString :=
  .sized () (sizeCodes (by decide))

theorem blobCodes : Codes () (fun blob => blob.length ≤ kMaximumBlob) readBlob writeString :=
  .sized () (sizeCodes (by decide))

theorem listCodes {α : Type} {fits : α → Prop} {read : Reader α}
    {write : α → ByteString} (codes : Codes () fits read write) :
    Codes () (fun values => EntriesFit values ∧ ∀ value ∈ values, fits value)
      (readList read) (writeList write) :=
  .counted (sizeCodes (by decide)) codes

theorem flagCodes : Codes () (fun _ => True) readFlag writeFlag := by
  have every : ∀ number : Fin 256, ∀ flag : Bool,
      (if UInt8.ofNat number > 1 then none
        else some (UInt8.ofNat number != 0)) = some flag →
      (if flag then (1 : UInt8) else 0) = UInt8.ofNat number := by
    decide +kernel
  refine u8Codes.partially () (fun flag => ?_) fun raw flag _ viewed => ?_
  · cases flag <;> rfl
  have spelled := every ⟨raw.toNat, raw.toNat_lt⟩ flag
  simp only [UInt8.ofNat_toNat] at spelled
  exact spelled viewed

/-- The enumerators are numbered in order, and there are few of them. -/
theorem enumCodes {α : Type} [Enumeration α] (distinct : (Enumeration.enumerators : List α).Nodup)
    (few : (Enumeration.enumerators : List α).length ≤ 256) :
    Codes () (fun _ => True) (readEnum : Reader α) writeEnum := by
  have small (value : α) : Enumeration.index value < 256 := by
    have within := List.getElem?_eq_some_iff.mp (Enumeration.indexed value)
    exact Nat.lt_of_lt_of_le within.1 few
  refine u8Codes.partially () (fun value => ?_) fun raw value _ viewed => ?_
  · rw [UInt8.toNat_ofNat_of_lt' (small value)]
    exact Enumeration.indexed value
  have within := List.getElem?_eq_some_iff.mp viewed
  have same : raw.toNat = Enumeration.index value :=
    (List.getElem?_inj within.1 distinct).mp (viewed.trans (Enumeration.indexed value).symm)
  rw [← same, UInt8.ofNat_toNat]

theorem optionalCodes {α : Type} {fits : α → Prop} {read : Reader α}
    {write : α → ByteString} (codes : Codes () fits read write) :
    Codes () (fun value => ∀ present ∈ value, fits present)
      (readOptional read) (writeOptional write) :=
  .optional flagCodes codes

theorem rowIdCodes : Codes () (0 < ·) readRowId writeI64 :=
  (i64Codes.checked (0 < ·) ()).congr fun _ => iff_of_eq (true_and _)

theorem hashCodes : Codes () (fun _ => True) readHash
      (fun hash => writeString hash.toHex) := by
  refine (stringCodes.partially () ContentHash256.fromHex_toHex
    fun _ _ _ read => ContentHash256.toHex_of_fromHex read).congr fun hash => ?_
  rw [StringFits, hash.length_toHex]
  exact ⟨fun _ => True.intro, fun _ => by decide⟩

end Primitives

section Parts

theorem nameCodes : Codes () (fun name => NameFits name.1 name.2.1) readName writeName := by
  refine (bind Prod.fst stringCodes fun _ _ => bind (fun name : ExactName => name.2.1) u32Codes
    fun _ _ => bind (fun name : ExactName => name.2.2)
      hashCodes fun hash _ => check
      (fun name : ExactName => name.1 ≠ [] ∧ name.2.1 ≠ 0)
      (fun name known => ?_) fun _ =>
    pure _ fun other => ?_).codes.congr fun name => ?_
  · rw [known.1.1.2, known.1.2]
  · obtain ⟨otherId, otherVersion, otherHash⟩ := other
    simp [and_assoc]
  constructor
  · rintro ⟨short, _, _, ⟨nonempty, versioned⟩, _⟩
    exact ⟨short, nonempty, versioned⟩
  · rintro ⟨short, nonempty, versioned⟩
    exact ⟨short, True.intro, True.intro, ⟨nonempty, versioned⟩, True.intro⟩

theorem dependencyCodes : Codes () DependencyFits decodeDependency encodeDependency :=
  nameCodes.mapped
    (fun dependency : ExactDependencyIdentity =>
      (dependency.canonicalId, dependency.version, dependency.signatureHash))
    (fun _ => rfl) fun _ => rfl

/-- A named type keeps the default builtin. -/
theorem typeCodes : Codes () TypeFits decodeType encodeType := by
  refine (bind TypeRef.isNamed flagCodes fun named _ => ?_).codes.congr
    fun type => iff_of_eq (true_and _)
  cases named with
  | false =>
    refine .mapped TypeRef.ofBuiltin
      (enumCodes (by decide) (by decide))
      (fun type known _ => ⟨type.builtin, True.intro, ?_⟩)
      fun builtin _ => ⟨⟨True.intro, rfl⟩, fun _ named => absurd named (Option.not_mem_none _),
        List.append_nil _⟩
    have unnamed := Option.isSome_eq_false_iff.mp known.2
    obtain ⟨builtin, named⟩ := type
    cases Option.isNone_iff_eq_none.mp unnamed
    rfl
  | true =>
    refine .mapped (fun name : ExactName =>
        TypeRef.ofNamed ⟨name.1, name.2.1, name.2.2⟩) nameCodes
      (fun type known fits => ?_)
      fun name fits => ⟨⟨True.intro, rfl⟩, ?_, List.append_nil _⟩
    · obtain ⟨identity, named⟩ := Option.isSome_iff_exists.mp known.2
      obtain ⟨unit, exact⟩ := fits identity named
      refine ⟨(identity.canonicalId, identity.version, identity.schemaHash), exact, ?_⟩
      obtain ⟨builtin, other⟩ := type
      cases named
      cases unit
      rfl
    · rintro identity ⟨⟩
      exact ⟨rfl, fits⟩

/-- Sixteen bits travel as thirty-two. -/
theorem u16Codes : Codes () (fun _ => True)
      (Decoder.partially readU32 (fun raw => if raw > 65535 then none else some raw.toUInt16) ())
      (fun value : UInt16 => writeU32 value.toUInt32) := by
  refine u32Codes.partially () (fun value => ?_) fun raw value _ viewed => ?_
  · have small : ¬value.toUInt32 > 65535 := by
      rw [gt_iff_lt, UInt32.lt_iff_toNat_lt, UInt16.toNat_toUInt32]
      have fits := value.toNat_lt
      change ¬65535 < value.toNat
      omega
    rw [if_neg small, UInt16.toUInt16_toUInt32]
  split at viewed
  · cases viewed
  rename_i small
  cases viewed
  rw [gt_iff_lt, UInt32.lt_iff_toNat_lt] at small
  apply UInt32.toNat.inj
  rw [UInt16.toNat_toUInt32, UInt32.toNat_toUInt16]
  change ¬65535 < raw.toNat at small
  omega

/-- Thirty-two signed bits travel as sixty-four. -/
theorem i32Codes : Codes () (fun _ => True)
      (Decoder.partially readI64
        (fun raw => if raw < -2147483648 ∨ raw > 2147483647 then none
          else some raw.toInt32) ())
      (fun value : Int32 => writeI64 value.toInt64) := by
  refine i64Codes.partially () (fun value => ?_) fun raw value _ viewed => ?_
  · have small : ¬(value.toInt64 < -2147483648 ∨ value.toInt64 > 2147483647) := by
      rw [gt_iff_lt, Int64.lt_iff_toInt_lt, Int64.lt_iff_toInt_lt, Int32.toInt_toInt64]
      have least := value.le_toInt
      have most := value.toInt_lt
      change ¬(value.toInt < -2147483648 ∨ 2147483647 < value.toInt)
      omega
    rw [if_neg small, Int32.toInt32_toInt64]
  · split at viewed
    · cases viewed
    rename_i small
    cases viewed
    rw [gt_iff_lt, Int64.lt_iff_toInt_lt, Int64.lt_iff_toInt_lt] at small
    change ¬(raw.toInt < -2147483648 ∨ 2147483647 < raw.toInt) at small
    apply Int64.toInt.inj
    rw [Int32.toInt_toInt64, Int64.toInt_toInt32]
    exact Int.bmod_eq_of_le (by omega) (by omega)

theorem enumValueCodes : Codes () (fun value => StringFits value.schema.canonicalId) decodeEnumValue
      (fun value => encodePayload (.enum value)) := by
  refine (bind (fun value : EnumValue => value.schema.canonicalId)
    stringCodes fun _ _ => bind (fun value : EnumValue => value.schema.version) u32Codes
    fun _ _ => bind (fun value : EnumValue => value.schema.schemaHash) hashCodes
    fun _ _ => bind EnumValue.value i64Codes
    fun _ _ => pure _ fun other => ?_).codes.congr fun value => ?_
  · obtain ⟨⟨otherId, otherVersion, otherHash⟩, otherNumber⟩ := other
    simp [and_assoc]
  · simp

theorem alternativeInverts {α : Type} {fits : α → Prop} {index : UInt8}
    {read : Reader α} {write : α → ByteString} {make : α → LiteralPayload}
    {number : Nat} (named : index.toNat = number) (part : Codes () fits read write)
    (made : ∀ payload, payloadIndex payload = .ofNat number → ∃ part, make part = payload)
    (makes : ∀ part, payloadIndex (make part) = .ofNat number ∧
      (PayloadFits (make part) ↔ fits part) ∧ encodePayload (make part) = write part) :
    Inverts () (fun payload => payloadIndex payload = index) PayloadFits
      (read >>= fun part => pure (make part))
      (fun payload => [encodePayload payload]) := by
  subst named
  rw [UInt8.ofNat_toNat] at made makes
  refine .mapped make part (fun payload known fits => ?_) fun part fits => ?_
  · obtain ⟨part, rfl⟩ := made payload known
    exact ⟨part, (makes part).2.1.mp fits, rfl⟩
  obtain ⟨known, same, spelled⟩ := makes part
  refine ⟨known, same.mpr fits, ?_⟩
  rw [List.flatten_cons, List.flatten_nil, List.append_nil, spelled]

theorem unit_iff (payload : LiteralPayload) : payloadIndex payload = 0 ↔ payload = .unit := by
  cases payload <;> simp [payloadIndex]

theorem unitInverts : Inverts () (fun payload => payloadIndex payload = 0) PayloadFits
      (pure .unit : Reader LiteralPayload)
      (fun payload => [encodePayload payload]) := by
  refine (pure LiteralPayload.unit unit_iff).congr
    (fun _ => Iff.rfl) (fun payload known => ?_) fun payload known => ?_
  · rw [(unit_iff payload).mp known]
    exact Iff.rfl
  · rw [(unit_iff payload).mp known]
    rfl

/-- The alternative is the one that the index names. -/
theorem payloadInverts (index : UInt8) :
    Inverts () (fun payload => payloadIndex payload = index) PayloadFits
      (decodePayload index) (fun payload => [encodePayload payload]) := by
  unfold decodePayload
  split
  case h_1 number =>
    obtain rfl : index = 0 := UInt8.toNat_inj.mp number
    exact unitInverts
  case h_2 number =>
    refine alternativeInverts number flagCodes (fun payload known => ?_)
      fun part => ⟨rfl, Iff.rfl, rfl⟩
    cases payload with
    | bool value => exact ⟨value, rfl⟩
    | _ => simp [payloadIndex] at known
  case h_3 number =>
    refine alternativeInverts number u8Codes (fun payload known => ?_)
      fun part => ⟨rfl, Iff.rfl, rfl⟩
    cases payload with
    | u8 value => exact ⟨value, rfl⟩
    | _ => simp [payloadIndex] at known
  case h_4 number =>
    refine alternativeInverts number u16Codes (fun payload known => ?_)
      fun part => ⟨rfl, Iff.rfl, rfl⟩
    cases payload with
    | u16 value => exact ⟨value, rfl⟩
    | _ => simp [payloadIndex] at known
  case h_5 number =>
    refine alternativeInverts number u32Codes (fun payload known => ?_)
      fun part => ⟨rfl, Iff.rfl, rfl⟩
    cases payload with
    | u32 value => exact ⟨value, rfl⟩
    | _ => simp [payloadIndex] at known
  case h_6 number =>
    refine alternativeInverts number u64Codes (fun payload known => ?_)
      fun part => ⟨rfl, Iff.rfl, rfl⟩
    cases payload with
    | u64 value => exact ⟨value, rfl⟩
    | _ => simp [payloadIndex] at known
  case h_7 number =>
    refine alternativeInverts number i32Codes (fun payload known => ?_)
      fun part => ⟨rfl, Iff.rfl, rfl⟩
    cases payload with
    | i32 value => exact ⟨value, rfl⟩
    | _ => simp [payloadIndex] at known
  case h_8 number =>
    refine alternativeInverts number i64Codes (fun payload known => ?_)
      fun part => ⟨rfl, Iff.rfl, rfl⟩
    cases payload with
    | i64 value => exact ⟨value, rfl⟩
    | _ => simp [payloadIndex] at known
  case h_9 number =>
    refine alternativeInverts number u32Codes (fun payload known => ?_)
      fun part => ⟨rfl, Iff.rfl, rfl⟩
    cases payload with
    | f32 value => exact ⟨value.bits, rfl⟩
    | _ => simp [payloadIndex] at known
  case h_10 number =>
    refine alternativeInverts number u64Codes (fun payload known => ?_)
      fun part => ⟨rfl, Iff.rfl, rfl⟩
    cases payload with
    | f64 value => exact ⟨value.bits, rfl⟩
    | _ => simp [payloadIndex] at known
  case h_11 number =>
    refine alternativeInverts number stringCodes (fun payload known => ?_)
      fun part => ⟨rfl, Iff.rfl, rfl⟩
    cases payload with
    | string value => exact ⟨value, rfl⟩
    | _ => simp [payloadIndex] at known
  case h_12 number =>
    refine alternativeInverts number blobCodes (fun payload known => ?_)
      fun part => ⟨rfl, Iff.rfl, rfl⟩
    cases payload with
    | bytes value => exact ⟨value, rfl⟩
    | _ => simp [payloadIndex] at known
  case h_13 number =>
    refine alternativeInverts number enumValueCodes (fun payload known => ?_)
      fun part => ⟨rfl, Iff.rfl, rfl⟩
    cases payload with
    | enum value => exact ⟨value, rfl⟩
    | _ => simp [payloadIndex] at known
  case h_14 =>
    refine .fail () fun payload known => ?_
    subst known
    cases payload <;> simp_all [payloadIndex]

theorem payloadCodes (index : UInt8) : Codes ()
      (fun payload => payloadIndex payload = index ∧ PayloadFits payload)
      (decodePayload index) encodePayload where
  reads := by
    rintro payload ⟨known, fits⟩ rest
    have read := (payloadInverts index).reads payload known fits rest
    rwa [List.flatten_cons, List.flatten_nil, List.append_nil] at read
  restores := by
    intro bytes payload rest decoded
    obtain ⟨known, fits, spelled⟩ := (payloadInverts index).restores _ _ _ decoded
    rw [List.flatten_cons, List.flatten_nil, List.append_nil] at spelled
    exact ⟨⟨known, fits⟩, spelled⟩

theorem literalInverts (type : TypeRef) (index : UInt8) : Inverts ()
      (fun literal : LiteralValue => (True ∧ literal.type = type) ∧
        payloadIndex literal.payload = index)
      (fun literal => PayloadFits literal.payload)
      (do
        let payload ← decodePayload index
        pure (⟨type, payload⟩ : LiteralValue))
      (fun literal => [encodePayload literal.payload]) := by
  refine .mapped (fun payload => (⟨type, payload⟩ : LiteralValue))
    (payloadCodes index)
    (fun literal known fits => ⟨literal.payload, ⟨known.2, fits⟩, ?_⟩)
    fun payload fits => ⟨⟨⟨True.intro, rfl⟩, fits.1⟩, fits.2, List.append_nil _⟩
  rw [← known.1.2]

theorem literalCodes : Codes () LiteralFits decodeLiteral encodeLiteral :=
  (bind LiteralValue.type typeCodes fun type _ =>
    bind (fun literal : LiteralValue => payloadIndex literal.payload)
      u8Codes fun index _ => literalInverts type index).codes.congr
    fun _ => ⟨fun fits => ⟨fits.1, fits.2.2⟩, fun fits => ⟨fits.type, True.intro, fits.payload⟩⟩

theorem witnessCodes : Codes () WitnessFits decodeWitness encodeWitness := by
  refine (bind PredicateWitness.name stringCodes fun _ _ =>
    bind PredicateWitness.valueType typeCodes fun _ _ =>
    pure _ fun other => ?_).codes.congr fun witness => ?_
  · cases other
    simp
  · exact ⟨fun fits => ⟨fits.1, fits.2.1⟩, fun fits => ⟨fits.name, fits.valueType, True.intro⟩⟩

theorem nodeCodes : Codes () NodeFits decodeNode encodeNode := by
  refine (bind kind (enumCodes (by decide) (by decide)) fun _ _ =>
    bind witnessIndex (optionalCodes indexCodes) fun _ _ =>
    bind literal (optionalCodes literalCodes) fun _ _ =>
    bind operands (listCodes indexCodes) fun _ _ =>
    bind reducer (optionalCodes dependencyCodes) fun _ _ =>
    bind resultType typeCodes fun _ _ =>
    bind sourceLabel stringCodes fun _ _ =>
    pure _ fun other => ?_).codes.congr fun node => ?_
  · cases other
    simp [and_assoc]
  constructor
  · rintro ⟨_, witnessIndex, literal, ⟨arity, operands⟩, reducer, resultType, sourceLabel, _⟩
    exact ⟨witnessIndex, literal, arity, operands, reducer, resultType, sourceLabel⟩
  rintro ⟨witnessIndex, literal, arity, operands, reducer, resultType, sourceLabel⟩
  exact ⟨True.intro, witnessIndex, literal, ⟨arity, operands⟩, reducer,
    resultType, sourceLabel, True.intro⟩

theorem definitionCodes : Codes () DefinitionFits decodeDefinitionBody encodeDefinitionBody := by
  refine (bind canonicalId stringCodes fun _ _ =>
    bind revision u32Codes fun _ _ =>
    bind sourceName stringCodes fun _ _ =>
    bind witnesses (listCodes witnessCodes) fun _ _ =>
    bind expression (listCodes nodeCodes) fun _ _ =>
    bind rootExpression indexCodes fun _ _ =>
    pure _ fun other => ?_).codes.congr fun definition => ?_
  · cases other
    simp [and_assoc]
  constructor
  · rintro ⟨canonicalId, _, sourceName, ⟨witnessCount, witnesses⟩,
      ⟨nodeCount, expression⟩, rootExpression, _⟩
    exact ⟨canonicalId, sourceName, witnessCount, witnesses, nodeCount, expression, rootExpression⟩
  rintro ⟨canonicalId, sourceName, witnessCount, witnesses, nodeCount, expression, rootExpression⟩
  exact ⟨canonicalId, True.intro, sourceName, ⟨witnessCount, witnesses⟩,
    ⟨nodeCount, expression⟩, rootExpression, True.intro⟩

theorem hookPointCodes : Codes () (fun point => StringFits point.canonicalId) decodeHookPoint
      encodeHookPoint := by
  refine (bind PredicateHookPoint.canonicalId stringCodes fun _ _ =>
    bind PredicateHookPoint.pc u32Codes fun _ _ =>
    pure _ fun other => ?_).codes.congr fun point => ?_
  · cases other
    simp
  · simp

theorem hookCodes : Codes () (fun hook => HookFits hook ∧ StringFits hook.contentSha256)
      decodeHook (encodeHook · true) := by
  refine (bind PredicateHookContract.canonicalId stringCodes fun _ _ =>
    bind PredicateHookContract.revision u32Codes fun _ _ =>
    bind PredicateHookContract.contentSha256 stringCodes fun _ _ =>
    bind PredicateHookContract.points (listCodes hookPointCodes) fun _ _ =>
    pure _ fun other => ?_).codes.congr fun hook => ?_
  · cases other
    simp [and_assoc]
  constructor
  · rintro ⟨canonicalId, _, contentSha256, ⟨pointCount, points⟩, _⟩
    exact ⟨⟨canonicalId, pointCount, points⟩, contentSha256⟩
  rintro ⟨⟨canonicalId, pointCount, points⟩, contentSha256⟩
  exact ⟨canonicalId, True.intro, contentSha256, ⟨pointCount, points⟩, True.intro⟩

theorem sourceCodes : Codes () SourceFits decodeSource encodeSource := by
  refine (bind witnessOrdinal u32Codes fun _ _ =>
    bind sourceKind (enumCodes (by decide) (by decide)) fun _ _ =>
    bind valueType typeCodes fun _ _ =>
    bind concreteValue (optionalCodes literalCodes) fun _ _ =>
    bind source (optionalCodes dependencyCodes) fun _ _ =>
    bind observationSourceKind (enumCodes (by decide) (by decide)) fun _ _ =>
    bind sourceField stringCodes fun _ _ =>
    bind pinnedGuestAddress (optionalCodes u64Codes) fun _ _ =>
    bind baselineCaptureHookId stringCodes fun _ _ =>
    bind baselineUpdatePolicy (enumCodes (by decide) (by decide)) fun _ _ =>
    pure _ fun other => ?_).codes.congr fun source => ?_
  · cases other
    simp [and_assoc]
  constructor
  · rintro ⟨_, _, valueType, concreteValue, dependency, _, sourceField, _,
      baselineCaptureHookId, _, _⟩
    exact ⟨valueType, concreteValue, dependency, sourceField, baselineCaptureHookId⟩
  rintro ⟨valueType, concreteValue, dependency, sourceField, baselineCaptureHookId⟩
  exact ⟨True.intro, True.intro, valueType, concreteValue, dependency,
    True.intro, sourceField, fun _ _ => True.intro, baselineCaptureHookId,
    True.intro, True.intro⟩

/-- The row ids of a binding are positive and its hashes are short. -/
structure BindingRead (binding : PredicateExecutionBinding) : Prop where
  fits : BindingFits binding
  rowId : 0 < binding.executionBindingRevisionId
  contentSha256 : StringFits binding.contentSha256
  definitionRowId : 0 < binding.definition.revisionId
  definitionSha256 : StringFits binding.definition.contentSha256

theorem bindingCodes : Codes () BindingRead decodeBinding (encodeBinding · true) := by
  refine (bind PredicateExecutionBinding.executionBindingRevisionId rowIdCodes fun _ _ =>
    bind PredicateExecutionBinding.canonicalId stringCodes fun _ _ =>
    bind PredicateExecutionBinding.revision u32Codes fun _ _ =>
    bind PredicateExecutionBinding.contentSha256 stringCodes fun _ _ =>
    bind
      (fun binding : PredicateExecutionBinding => binding.definition.revisionId)
      rowIdCodes fun _ _ =>
    bind (fun binding : PredicateExecutionBinding =>
        binding.definition.contentSha256)
      stringCodes fun _ _ =>
    bind
      (fun binding : PredicateExecutionBinding => binding.definition.definition)
      definitionCodes fun _ _ =>
    bind PredicateExecutionBinding.witnesses (listCodes sourceCodes) fun _ _ =>
    pure _ fun other => ?_).codes.congr fun binding => ?_
  · obtain ⟨_, _, _, _, ⟨_, _, _⟩, _⟩ := other
    simp [and_assoc]
  constructor
  · rintro ⟨rowId, canonicalId, _, contentSha256, definitionRowId,
      definitionSha256, definition, ⟨sourceCount, sources⟩, _⟩
    exact ⟨⟨canonicalId, definition, sourceCount, sources⟩, rowId,
      contentSha256, definitionRowId, definitionSha256⟩
  rintro ⟨⟨canonicalId, definition, sourceCount, sources⟩, rowId,
    contentSha256, definitionRowId, definitionSha256⟩
  exact ⟨rowId, canonicalId, True.intro, contentSha256, definitionRowId,
    definitionSha256, definition, ⟨sourceCount, sources⟩, True.intro⟩

/-- The row ids of a member are positive. -/
structure MemberRead (member : PredicateGroupMember) : Prop where
  fits : MemberFits member
  rowId : 0 < member.executionBindingRevisionId
  guardRowId : ∀ id ∈ member.guardExecutionBindingRevisionId, 0 < id

theorem memberCodes : Codes () MemberRead decodeMember encodeMember := by
  refine (bind ordinal u32Codes fun _ _ =>
    bind executionBindingRevisionId rowIdCodes fun _ _ =>
    bind semanticHookIds (listCodes stringCodes) fun _ _ =>
    bind occurrence (enumCodes (by decide) (by decide)) fun _ _ =>
    bind occurrenceOrdinal (optionalCodes u32Codes) fun _ _ =>
    bind guardExecutionBindingRevisionId (optionalCodes rowIdCodes) fun _ _ =>
    bind reaction (enumCodes (by decide) (by decide)) fun _ _ =>
    bind participatesInAggregation flagCodes fun _ _ =>
    bind emitEvidence flagCodes fun _ _ =>
    pure _ fun other => ?_).codes.congr fun member => ?_
  · cases other
    simp [and_assoc]
  constructor
  · rintro ⟨_, rowId, ⟨hookCount, hooks⟩, _, _, guardRowId, _⟩
    exact ⟨⟨hookCount, hooks⟩, rowId, guardRowId⟩
  rintro ⟨⟨hookCount, hooks⟩, rowId, guardRowId⟩
  exact ⟨True.intro, rowId, ⟨hookCount, hooks⟩, True.intro,
    fun _ _ => True.intro, guardRowId, True.intro, True.intro, True.intro,
    True.intro⟩

/-- The row ids of a group are positive and its hash is short. -/
structure GroupRead (group : ResolvedPredicateGroup) : Prop where
  fits : GroupFits group
  rowId : 0 < group.predicateGroupRevisionId
  contentSha256 : StringFits group.contentSha256
  members : ∀ member ∈ group.members, MemberRead member

theorem groupCodes : Codes () GroupRead decodeGroup (encodeGroup · true) := by
  refine (bind ResolvedPredicateGroup.predicateGroupRevisionId rowIdCodes fun _ _ =>
    bind ResolvedPredicateGroup.canonicalId stringCodes fun _ _ =>
    bind ResolvedPredicateGroup.revision u32Codes fun _ _ =>
    bind ResolvedPredicateGroup.contentSha256 stringCodes fun _ _ =>
    bind ResolvedPredicateGroup.members (listCodes memberCodes) fun _ _ =>
    pure _ fun other => ?_).codes.congr fun group => ?_
  · cases other
    simp [and_assoc]
  constructor
  · rintro ⟨rowId, canonicalId, _, contentSha256, ⟨memberCount, members⟩, _⟩
    exact ⟨⟨canonicalId, memberCount, fun member found =>
      (members member found).fits⟩, rowId, contentSha256, members⟩
  rintro ⟨⟨canonicalId, memberCount, _⟩, rowId, contentSha256, members⟩
  exact ⟨rowId, canonicalId, True.intro, contentSha256, ⟨memberCount, members⟩, True.intro⟩

/-- What the reader makes. -/
structure PackageRead (package : PredicateExecutionPackage) : Prop where
  fits : PackageFits package
  hookSha256 : StringFits package.hookContract.contentSha256
  group : GroupRead package.group
  bindings : ∀ binding ∈ package.executionBindings, BindingRead binding
  contentSha256 : StringFits package.contentSha256

/-- The fields of a package, in the order of the bytes. -/
theorem packageInverts : Inverts () (fun _ => True) PackageRead decodePackage
      (fun package =>
        [writeU32 packageWireVersion, encodeHook package.hookContract true,
          encodeGroup package.group true,
          writeList (encodeBinding · true) package.executionBindings,
          writeString package.contentSha256]) := by
  refine (bind (fun _ => packageWireVersion) u32Codes fun version _ =>
    check (fun _ => True) (fun package known => ?_) fun current =>
    bind hookContract hookCodes fun _ _ =>
    bind group groupCodes fun _ _ =>
    bind executionBindings (listCodes bindingCodes) fun _ _ =>
    bind contentSha256 stringCodes fun _ _ =>
    pure _ fun other => ?_).congr (fun _ => Iff.rfl) (fun package _ => ?_) fun _ _ => rfl
  · exact iff_of_true known.2.symm True.intro
  · cases other
    simp [and_assoc, current]
  constructor
  · rintro ⟨_, _, ⟨hook, hookSha256⟩, group, ⟨bindingCount, bindings⟩, contentSha256, _⟩
    exact ⟨⟨hook, group.fits, bindingCount, fun binding found =>
      (bindings binding found).fits⟩, hookSha256, group, bindings, contentSha256⟩
  rintro ⟨⟨hook, _, bindingCount, _⟩, hookSha256, group, bindings, contentSha256⟩
  exact ⟨True.intro, True.intro, ⟨hook, hookSha256⟩, group,
    ⟨bindingCount, bindings⟩, contentSha256, True.intro⟩

theorem packageCodes : Codes () PackageRead decodePackage encodePackage := by
  have fields := packageInverts.codes
  have same : encodePackage = fun package =>
      ([writeU32 packageWireVersion, encodeHook package.hookContract true,
        encodeGroup package.group true, writeList (encodeBinding · true) package.executionBindings,
        writeString package.contentSha256] : List ByteString).flatten := by
    funext package
    simp only [encodePackage, encodeContent, List.flatten_cons,
      List.flatten_nil, List.append_assoc, List.append_nil]
  rw [same]
  exact fields

end Parts

end Savor.Predicates

import Savor.Codec.Values
import Savor.Library.Format

/-!
# Predicate packages

The authored definition of a predicate, its binding to the sources of its
witnesses, the group of bindings with the hooks at which they are evaluated, and
the package that a worker executes.
-/

namespace Savor.Predicates

open Program

structure PredicateWitness where
  name : ByteString := []
  valueType : TypeRef := {}
  deriving DecidableEq

inductive PredicateExpressionKind
  | witness
  | literal
  | equal
  | notEqual
  | less
  | lessEqual
  | greater
  | greaterEqual
  | booleanAnd
  | booleanOr
  | booleanNot
  | add
  | subtract
  | multiply
  | divide
  | remainder
  | importedReducer
  deriving DecidableEq

structure PredicateExpressionNode where
  kind : PredicateExpressionKind := .witness
  witnessIndex : Option Nat := none
  literal : Option LiteralValue := none
  operands : List Nat := []
  reducer : Option ExactDependencyIdentity := none
  resultType : TypeRef := .ofBuiltin .bool
  sourceLabel : ByteString := []

structure PredicateDefinition where
  canonicalId : ByteString := []
  revision : UInt32 := 0
  sourceName : ByteString := []
  witnesses : List PredicateWitness := []
  expression : List PredicateExpressionNode := []
  rootExpression : Nat := 0

inductive PredicateReaction
  | recordAndContinue
  | abortOnFail
  deriving DecidableEq

structure PredicateEvaluationPolicy where
  (predicateGroupRevisionId executionBindingRevisionId : Int64 := 0)
  memberOrdinal : UInt32 := 0
  semanticPointId : ByteString := []
  reaction : PredicateReaction := .recordAndContinue
  emitEvidence : Bool := false
  participatesInAggregation : Bool := true

/-- `PredicateHookPointV1`. -/
structure PredicateHookPoint where
  canonicalId : ByteString := []
  pc : UInt32 := 0

/-- `PredicateHookContractV1`. -/
structure PredicateHookContract where
  canonicalId : ByteString := []
  revision : UInt32 := 0
  contentSha256 : ByteString := []
  points : List PredicateHookPoint := []

inductive PredicateObservationSourceKind
  | guestAddress
  | registeredQuery
  | hookReceipt
  | registeredReducer
  deriving DecidableEq

inductive PredicateBaselineUpdatePolicy
  | first
  | latest
  deriving DecidableEq

inductive PredicateWitnessSourceKind
  | concreteValue
  | derivedStateQuery
  | currentHookReceipt
  | pinnedGuestMemory
  | baselineObservation
  deriving DecidableEq

/-- `PredicateWitnessSourceBindingV1`. -/
structure PredicateWitnessSourceBinding where
  witnessOrdinal : UInt32 := 0
  sourceKind : PredicateWitnessSourceKind := .concreteValue
  valueType : TypeRef := {}
  concreteValue : Option LiteralValue := none
  source : Option ExactDependencyIdentity := none
  observationSourceKind : PredicateObservationSourceKind := .registeredQuery
  sourceField : ByteString := []
  pinnedGuestAddress : Option UInt64 := none
  baselineCaptureHookId : ByteString := []
  baselineUpdatePolicy : PredicateBaselineUpdatePolicy := .first
  deriving DecidableEq

/-- `ResolvedPredicateDefinitionV1`. -/
structure ResolvedPredicateDefinition where
  revisionId : Int64 := 0
  contentSha256 : ByteString := []
  definition : PredicateDefinition := {}

/-- `PredicateExecutionBindingV1`. -/
structure PredicateExecutionBinding where
  executionBindingRevisionId : Int64 := 0
  canonicalId : ByteString := []
  revision : UInt32 := 0
  contentSha256 : ByteString := []
  definition : ResolvedPredicateDefinition := {}
  witnesses : List PredicateWitnessSourceBinding := []

inductive PredicateOccurrencePolicy
  | first
  | every
  | ordinal
  | guardOnce
  deriving DecidableEq

/-- `PredicateGroupMemberV1`. -/
structure PredicateGroupMember where
  ordinal : UInt32 := 0
  executionBindingRevisionId : Int64 := 0
  semanticHookIds : List ByteString := []
  occurrence : PredicateOccurrencePolicy := .first
  occurrenceOrdinal : Option UInt32 := none
  guardExecutionBindingRevisionId : Option Int64 := none
  reaction : PredicateReaction := .recordAndContinue
  participatesInAggregation : Bool := true
  emitEvidence : Bool := false

/-- `ResolvedPredicateGroupV1`. -/
structure ResolvedPredicateGroup where
  predicateGroupRevisionId : Int64 := 0
  canonicalId : ByteString := []
  revision : UInt32 := 0
  contentSha256 : ByteString := []
  members : List PredicateGroupMember := []

/-- `PredicateExecutionPackageV1`. -/
structure PredicateExecutionPackage where
  hookContract : PredicateHookContract := {}
  group : ResolvedPredicateGroup := {}
  executionBindings : List PredicateExecutionBinding := []
  contentSha256 : ByteString := []

/-- `PredicateExecutionPackageValidationResult`. -/
structure PackageValidationResult where
  ok : Bool := false
  (code message : ByteString := [])

section Enumerators

open Program.Codec (Enumeration)

instance : Enumeration PredicateExpressionKind where
  enumerators :=
    [.witness, .literal, .equal, .notEqual, .less, .lessEqual, .greater,
      .greaterEqual, .booleanAnd, .booleanOr, .booleanNot, .add, .subtract,
      .multiply, .divide, .remainder, .importedReducer]
  index := PredicateExpressionKind.ctorIdx
  indexed value := by cases value <;> rfl

instance : Enumeration PredicateReaction where
  enumerators := [.recordAndContinue, .abortOnFail]
  index := PredicateReaction.ctorIdx
  indexed value := by cases value <;> rfl

instance : Enumeration PredicateObservationSourceKind where
  enumerators := [.guestAddress, .registeredQuery, .hookReceipt, .registeredReducer]
  index := PredicateObservationSourceKind.ctorIdx
  indexed value := by cases value <;> rfl

instance : Enumeration PredicateBaselineUpdatePolicy where
  enumerators := [.first, .latest]
  index := PredicateBaselineUpdatePolicy.ctorIdx
  indexed value := by cases value <;> rfl

instance : Enumeration PredicateWitnessSourceKind where
  enumerators :=
    [.concreteValue, .derivedStateQuery, .currentHookReceipt,
      .pinnedGuestMemory, .baselineObservation]
  index := PredicateWitnessSourceKind.ctorIdx
  indexed value := by cases value <;> rfl

instance : Enumeration PredicateOccurrencePolicy where
  enumerators := [.first, .every, .ordinal, .guardOnce]
  index := PredicateOccurrencePolicy.ctorIdx
  indexed value := by cases value <;> rfl

end Enumerators

/-!
## The wire format of predicate packages

The writer narrows every size and index to 32 bits and knows no limits.  The
reader caps strings, blobs and counts and parses hashes from their text.
-/

open Library.Wire
open Library.Stream (Word)
open Program.Codec (Enumeration)

def kMaximumString : Nat := 64 * 1024

def kMaximumBlob : Nat := 1024 * 1024

def kMaximumEntries : Nat := 4096

/-- Reading succeeds or fails. -/
abbrev Reader (α : Type) := Decoder Unit Unit α

/-- A signed number travels as its bit pattern. -/
def signedWord : Word Int64 :=
  Word.u64.map UInt64.toInt64 Int64.toUInt64 UInt64.toUInt64_toInt64 Int64.toInt64_toUInt64

section Writing

/-- `Writer::U8`. -/
def writeU8 (value : UInt8) : ByteString := Word.u8.encode value

/-- `Writer::U32`. -/
def writeU32 (value : UInt32) : ByteString := Word.u32.encode value

/-- `Writer::U64`. -/
def writeU64 (value : UInt64) : ByteString := Word.u64.encode value

/-- `Writer::I64`. -/
def writeI64 (value : Int64) : ByteString := signedWord.encode value

/-- `static_cast<std::uint32_t>` of a size or an index. -/
def writeSize (size : Nat) : ByteString := writeU32 (UInt32.ofNat size)

/-- `Writer::String` and `Writer::Blob`. -/
def writeString (value : ByteString) : ByteString := writeSize value.length ++ value

def writeFlag (value : Bool) : ByteString := writeU8 (if value then 1 else 0)

/-- The number of an enumerator. -/
def writeEnum {α : Type} [Enumeration α] (value : α) : ByteString :=
  writeU8 (UInt8.ofNat (Enumeration.index value))

/-- A flag, and the value where there is one. -/
def writeOptional {α : Type} (write : α → ByteString) (value : Option α) : ByteString :=
  writeFlag value.isSome ++ value.elim [] write

/-- The number of values, and the values. -/
def writeList {α : Type} (write : α → ByteString) (values : List α) : ByteString :=
  writeSize values.length ++ values.flatMap write

end Writing

section Reading

/-- `Reader::U8`. -/
def readU8 : Reader UInt8 := Decoder.word () Word.u8

/-- `Reader::U32`. -/
def readU32 : Reader UInt32 := Decoder.word () Word.u32

/-- `Reader::U64`. -/
def readU64 : Reader UInt64 := Decoder.word () Word.u64

/-- `Reader::I64`. -/
def readI64 : Reader Int64 := Decoder.word () signedWord

/-- An index, which no limit applies to. -/
def readIndex : Reader Nat := do
  let value ← readU32
  pure value.toNat

/-- A size of at most so much. -/
def readSize (limit : Nat) : Reader Nat := Decoder.checked readIndex (· ≤ limit) ()

/-- `Reader::String`. -/
def readString : Reader ByteString := Decoder.sized () (readSize kMaximumString)

/-- `Reader::Blob`. -/
def readBlob : Reader ByteString := Decoder.sized () (readSize kMaximumBlob)

/-- `Reader::Count`, and as many values. -/
def readList {α : Type} (read : Reader α) : Reader (List α) :=
  Decoder.counted (readSize kMaximumEntries) read

/-- A byte that is zero or one. -/
def readFlag : Reader Bool :=
  Decoder.partially readU8 (fun raw => if raw > 1 then none else some (raw != 0)) ()

/-- The number of an enumerator. -/
def readEnum {α : Type} [Enumeration α] : Reader α :=
  Decoder.partially readU8 (fun raw => (Enumeration.enumerators : List α)[raw.toNat]?) ()

/-- A flag, and a value where it is set. -/
def readOptional {α : Type} (read : Reader α) : Reader (Option α) := Decoder.optional readFlag read

/-- A row id, which is positive. -/
def readRowId : Reader Int64 := Decoder.checked readI64 (0 < ·) ()

/-- The text of a hash. -/
def readHash : Reader ContentHash256 := Decoder.partially readString ContentHash256.fromHex ()

end Reading

/-- The name, version and hash of an exact identity. -/
abbrev ExactName := ByteString × UInt32 × ContentHash256

def writeName (name : ExactName) : ByteString :=
  [writeString name.1, writeU32 name.2.1, writeString name.2.2.toHex].flatten

/-- The part of `DecodeType` and `DecodeDependency` that is the same. -/
def readName : Reader ExactName := do
  let id ← readString
  let version ← readU32
  let hash ← readHash
  Decoder.check (id ≠ [] ∧ version ≠ 0) ()
  pure (id, version, hash)

/-- `EncodeType`. -/
def encodeType (type : TypeRef) : ByteString :=
  [writeFlag type.isNamed, match type.named with
    | none => writeEnum type.builtin
    | some identity =>
      writeName (identity.canonicalId, identity.version, identity.schemaHash)].flatten

/-- `DecodeType`. -/
def decodeType : Reader TypeRef := do
  let named ← readFlag
  if named then do
    let name ← readName
    pure (TypeRef.ofNamed ⟨name.1, name.2.1, name.2.2⟩)
  else do
    let builtin ← readEnum
    pure (TypeRef.ofBuiltin builtin)

/-- `EncodeDependency`. -/
def encodeDependency (dependency : ExactDependencyIdentity) : ByteString :=
  writeName (dependency.canonicalId, dependency.version, dependency.signatureHash)

/-- `DecodeDependency`. -/
def decodeDependency : Reader ExactDependencyIdentity := do
  let name ← readName
  pure ⟨name.1, name.2.1, name.2.2⟩

/-- The index of the alternative of a literal. -/
def payloadIndex : LiteralPayload → UInt8
  | .unit => 0
  | .bool _ => 1
  | .u8 _ => 2
  | .u16 _ => 3
  | .u32 _ => 4
  | .u64 _ => 5
  | .i32 _ => 6
  | .i64 _ => 7
  | .f32 _ => 8
  | .f64 _ => 9
  | .string _ => 10
  | .bytes _ => 11
  | .enum _ => 12

/-- The alternatives of `EncodeLiteral`. -/
def encodePayload : LiteralPayload → ByteString
  | .unit => []
  | .bool value => writeFlag value
  | .u8 value => writeU8 value
  | .u16 value => writeU32 value.toUInt32
  | .u32 value => writeU32 value
  | .u64 value => writeU64 value
  | .i32 value => writeI64 value.toInt64
  | .i64 value => writeI64 value
  | .f32 value => writeU32 value.bits
  | .f64 value => writeU64 value.bits
  | .string value => writeString value
  | .bytes value => writeString value
  | .enum value =>
    [writeString value.schema.canonicalId, writeU32 value.schema.version,
      writeString value.schema.schemaHash.toHex, writeI64 value.value].flatten

/-- The enumerator of `DecodeLiteral`. -/
def decodeEnumValue : Reader EnumValue := do
  let id ← readString
  let version ← readU32
  let hash ← readHash
  let value ← readI64
  pure ⟨⟨id, version, hash⟩, value⟩

/-- The alternatives of `DecodeLiteral`. -/
def decodePayload (index : UInt8) : Reader LiteralPayload :=
  match index.toNat with
  | 0 => pure .unit
  | 1 => return .bool (← readFlag)
  | 2 => return .u8 (← readU8)
  | 3 => return .u16 (← Decoder.partially readU32
      (fun raw => if raw > 65535 then none else some raw.toUInt16) ())
  | 4 => return .u32 (← readU32)
  | 5 => return .u64 (← readU64)
  | 6 => return .i32 (← Decoder.partially readI64
      (fun raw => if raw < -2147483648 ∨ raw > 2147483647 then none
        else some raw.toInt32) ())
  | 7 => return .i64 (← readI64)
  | 8 => return .f32 ⟨← readU32⟩
  | 9 => return .f64 ⟨← readU64⟩
  | 10 => return .string (← readString)
  | 11 => return .bytes (← readBlob)
  | 12 => return .enum (← decodeEnumValue)
  | _ => Decoder.fail ()

/-- `EncodeLiteral`. -/
def encodeLiteral (value : LiteralValue) : ByteString :=
  [encodeType value.type, writeU8 (payloadIndex value.payload), encodePayload value.payload].flatten

/-- `DecodeLiteral`. -/
def decodeLiteral : Reader LiteralValue := do
  let type ← decodeType
  let index ← readU8
  let payload ← decodePayload index
  pure ⟨type, payload⟩

def encodeWitness (witness : PredicateWitness) : ByteString :=
  [writeString witness.name, encodeType witness.valueType].flatten

def decodeWitness : Reader PredicateWitness := do
  let name ← readString
  let valueType ← decodeType
  pure ⟨name, valueType⟩

def encodeNode (node : PredicateExpressionNode) : ByteString :=
  [writeEnum node.kind, writeOptional writeSize node.witnessIndex,
    writeOptional encodeLiteral node.literal, writeList writeSize node.operands,
    writeOptional encodeDependency node.reducer, encodeType node.resultType,
    writeString node.sourceLabel].flatten

def decodeNode : Reader PredicateExpressionNode := do
  let kind ← readEnum
  let witnessIndex ← readOptional readIndex
  let literal ← readOptional decodeLiteral
  let operands ← readList readIndex
  let reducer ← readOptional decodeDependency
  let resultType ← decodeType
  let sourceLabel ← readString
  pure ⟨kind, witnessIndex, literal, operands, reducer, resultType, sourceLabel⟩

/-- `EncodeDefinitionBody`. -/
def encodeDefinitionBody (definition : PredicateDefinition) : ByteString :=
  [writeString definition.canonicalId, writeU32 definition.revision,
    writeString definition.sourceName, writeList encodeWitness definition.witnesses,
    writeList encodeNode definition.expression, writeSize definition.rootExpression].flatten

/-- `DecodeDefinitionBody`. -/
def decodeDefinitionBody : Reader PredicateDefinition := do
  let canonicalId ← readString
  let revision ← readU32
  let sourceName ← readString
  let witnesses ← readList decodeWitness
  let expression ← readList decodeNode
  let rootExpression ← readIndex
  pure ⟨canonicalId, revision, sourceName, witnesses, expression, rootExpression⟩

def encodeHookPoint (point : PredicateHookPoint) : ByteString :=
  [writeString point.canonicalId, writeU32 point.pc].flatten

def decodeHookPoint : Reader PredicateHookPoint := do
  let canonicalId ← readString
  let pc ← readU32
  pure ⟨canonicalId, pc⟩

/-- `EncodeHook`. -/
def encodeHook (hook : PredicateHookContract) (hash : Bool) : ByteString :=
  [writeString hook.canonicalId, writeU32 hook.revision,
    writeString (if hash then hook.contentSha256 else []),
    writeList encodeHookPoint hook.points].flatten

/-- `DecodeHook`. -/
def decodeHook : Reader PredicateHookContract := do
  let canonicalId ← readString
  let revision ← readU32
  let contentSha256 ← readString
  let points ← readList decodeHookPoint
  pure ⟨canonicalId, revision, contentSha256, points⟩

/-- `EncodeSource`. -/
def encodeSource (source : PredicateWitnessSourceBinding) : ByteString :=
  [writeU32 source.witnessOrdinal, writeEnum source.sourceKind, encodeType source.valueType,
    writeOptional encodeLiteral source.concreteValue, writeOptional encodeDependency source.source,
    writeEnum source.observationSourceKind, writeString source.sourceField,
    writeOptional writeU64 source.pinnedGuestAddress, writeString source.baselineCaptureHookId,
    writeEnum source.baselineUpdatePolicy].flatten

/-- `DecodeSource`. -/
def decodeSource : Reader PredicateWitnessSourceBinding := do
  let witnessOrdinal ← readU32
  let sourceKind ← readEnum
  let valueType ← decodeType
  let concreteValue ← readOptional decodeLiteral
  let source ← readOptional decodeDependency
  let observationSourceKind ← readEnum
  let sourceField ← readString
  let pinnedGuestAddress ← readOptional readU64
  let baselineCaptureHookId ← readString
  let baselineUpdatePolicy ← readEnum
  pure ⟨witnessOrdinal, sourceKind, valueType, concreteValue, source,
    observationSourceKind, sourceField, pinnedGuestAddress,
    baselineCaptureHookId, baselineUpdatePolicy⟩

/-- `EncodeBinding`. -/
def encodeBinding (binding : PredicateExecutionBinding) (hash : Bool) : ByteString :=
  [writeI64 binding.executionBindingRevisionId, writeString binding.canonicalId,
    writeU32 binding.revision, writeString (if hash then binding.contentSha256 else []),
    writeI64 binding.definition.revisionId, writeString binding.definition.contentSha256,
    encodeDefinitionBody binding.definition.definition,
    writeList encodeSource binding.witnesses].flatten

/-- `DecodeBinding`. -/
def decodeBinding : Reader PredicateExecutionBinding := do
  let executionBindingRevisionId ← readRowId
  let canonicalId ← readString
  let revision ← readU32
  let contentSha256 ← readString
  let definitionRevisionId ← readRowId
  let definitionSha256 ← readString
  let definition ← decodeDefinitionBody
  let witnesses ← readList decodeSource
  pure ⟨executionBindingRevisionId, canonicalId, revision, contentSha256,
    ⟨definitionRevisionId, definitionSha256, definition⟩, witnesses⟩

def encodeMember (member : PredicateGroupMember) : ByteString :=
  [writeU32 member.ordinal, writeI64 member.executionBindingRevisionId,
    writeList writeString member.semanticHookIds, writeEnum member.occurrence,
    writeOptional writeU32 member.occurrenceOrdinal,
    writeOptional writeI64 member.guardExecutionBindingRevisionId, writeEnum member.reaction,
    writeFlag member.participatesInAggregation, writeFlag member.emitEvidence].flatten

def decodeMember : Reader PredicateGroupMember := do
  let ordinal ← readU32
  let executionBindingRevisionId ← readRowId
  let semanticHookIds ← readList readString
  let occurrence ← readEnum
  let occurrenceOrdinal ← readOptional readU32
  let guardExecutionBindingRevisionId ← readOptional readRowId
  let reaction ← readEnum
  let participatesInAggregation ← readFlag
  let emitEvidence ← readFlag
  pure ⟨ordinal, executionBindingRevisionId, semanticHookIds, occurrence,
    occurrenceOrdinal, guardExecutionBindingRevisionId, reaction,
    participatesInAggregation, emitEvidence⟩

/-- `EncodeGroup`. -/
def encodeGroup (group : ResolvedPredicateGroup) (hash : Bool) : ByteString :=
  [writeI64 group.predicateGroupRevisionId, writeString group.canonicalId, writeU32 group.revision,
    writeString (if hash then group.contentSha256 else []),
    writeList encodeMember group.members].flatten

/-- `DecodeGroup`. -/
def decodeGroup : Reader ResolvedPredicateGroup := do
  let predicateGroupRevisionId ← readRowId
  let canonicalId ← readString
  let revision ← readU32
  let contentSha256 ← readString
  let members ← readList decodeMember
  pure ⟨predicateGroupRevisionId, canonicalId, revision, contentSha256, members⟩

/-- The parts that the hash of a package covers. -/
def encodeContent (package : PredicateExecutionPackage) : ByteString :=
  [encodeHook package.hookContract true, encodeGroup package.group true,
    writeList (encodeBinding · true) package.executionBindings].flatten

/-- `PredicateExecutionPackageWireVersionV1`. -/
def packageWireVersion : UInt32 := 1

/-- The bytes of a package. -/
def encodePackage (package : PredicateExecutionPackage) : ByteString :=
  [writeU32 packageWireVersion, encodeContent package, writeString package.contentSha256].flatten

/-- The fields of a package, in the order of the bytes. -/
def decodePackage : Reader PredicateExecutionPackage := do
  let version ← readU32
  Decoder.check (version = packageWireVersion) ()
  let hookContract ← decodeHook
  let group ← decodeGroup
  let executionBindings ← readList decodeBinding
  let contentSha256 ← readString
  pure ⟨hookContract, group, executionBindings, contentSha256⟩

end Savor.Predicates


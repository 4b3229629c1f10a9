import Savor.Codec.Primitives
import Savor.Library.DepthFirst
import Savor.Library.Sorting

/-!
# The codec of identities, types and values

Each writer stands next to its reader, with the law that the reader recovers
what was written.  A named type is read back with the default builtin, and a
value graph in the order of its ids.
-/

namespace Savor.Program

open Library Library.Wire
open ProgramValuePayload
open LiteralPayload

/-- The builtin of a named type is not part of its canonical form. -/
def TypeRef.normalized (type : TypeRef) : TypeRef :=
  match type.named with
  | some identity => TypeRef.ofNamed identity
  | none => TypeRef.ofBuiltin type.builtin

def RecordFieldDefinition.normalized (field : RecordFieldDefinition) : RecordFieldDefinition :=
  { field with type := field.type.normalized }

def TypeSchemaDefinition.normalized (schema : TypeSchemaDefinition) : TypeSchemaDefinition :=
  { schema with
    elementType := schema.elementType.map TypeRef.normalized
    recordFields := schema.recordFields.map RecordFieldDefinition.normalized }

def LiteralValue.normalized (literal : LiteralValue) : LiteralValue :=
  { literal with type := literal.type.normalized }

def ProgramValue.normalized (value : ProgramValue) : ProgramValue :=
  { value with type := value.type.normalized }

namespace Codec

instance : Enumeration BuiltinType where
  enumerators := [.unit, .bool, .u8, .u16, .u32, .u64, .i32, .i64, .f32, .f64]
  index := BuiltinType.ctorIdx
  indexed value := by cases value <;> rfl

instance : Enumeration TypeSchemaKind where
  enumerators :=
    [.boundedUtf8String, .boundedBytes, .closedEnum, .optional, .record,
      .boundedList, .artifactReference, .resourceHandle, .epochBoundOpaqueHandle]
  index := TypeSchemaKind.ctorIdx
  indexed value := by cases value <;> rfl

/-- Whether the hash of the module is in it. -/
inductive CanonicalHashMode
  | includeDeclaredHash
  | omitDeclaredHash

def writeSchemaIdentity (identity : SchemaIdentity) : Writer := do
  writeString identity.canonicalId
  writeU32 identity.version
  writeHash identity.schemaHash

def readSchemaIdentity : Reader SchemaIdentity := do
  let canonicalId ← readString
  let version ← readU32
  let schemaHash ← readHash
  pure { canonicalId, version, schemaHash }

def writeDependency (identity : ExactDependencyIdentity) : Writer := do
  writeString identity.canonicalId
  writeU32 identity.version
  writeHash identity.signatureHash

def readDependency : Reader ExactDependencyIdentity := do
  let canonicalId ← readString
  let version ← readU32
  let signatureHash ← readHash
  pure { canonicalId, version, signatureHash }

def writeModuleIdentity (identity : ModuleIdentity) (mode : CanonicalHashMode) : Writer := do
  writeString identity.canonicalId
  writeU32 identity.revision
  match mode with
  | .includeDeclaredHash => writeHash identity.moduleHash
  | .omitDeclaredHash => pure ()

def readModuleIdentity : Reader ModuleIdentity := do
  let canonicalId ← readString
  let revision ← readU32
  let moduleHash ← readHash
  pure { canonicalId, revision, moduleHash }

def writeModuleImport (identity : ModuleImportIdentity) : Writer := do
  writeModuleIdentity identity.module .includeDeclaredHash
  writeU32 identity.irVersion

def readModuleImport : Reader ModuleImportIdentity := do
  let module ← readModuleIdentity
  let irVersion ← readU32
  pure { module, irVersion }

def writeCapabilityPack (identity : CapabilityPackIdentity) : Writer := do
  writeString identity.canonicalId
  writeU32 identity.version
  writeHash identity.manifestHash

def readCapabilityPack : Reader CapabilityPackIdentity := do
  let canonicalId ← readString
  let version ← readU32
  let manifestHash ← readHash
  pure { canonicalId, version, manifestHash }

def writeTypeRef (type : TypeRef) : Writer := do
  writeBool type.named.isSome
  match type.named with
  | some identity => writeSchemaIdentity identity
  | none => writeEnum 1 type.builtin

def readTypeRef : Reader TypeRef := do
  let isNamed ← readBool
  if isNamed then do
    let identity ← readSchemaIdentity
    pure (TypeRef.ofNamed identity)
  else do
    let builtin ← readEnum 1
    pure (TypeRef.ofBuiltin builtin)

def writeEnumMember (member : EnumMemberDefinition) : Writer := do
  writeString member.name
  writeI64 member.value

def readEnumMember : Reader EnumMemberDefinition := do
  let name ← readString
  let value ← readI64
  pure { name, value }

def writeRecordField (field : RecordFieldDefinition) : Writer := do
  writeString field.name
  writeTypeRef field.type

def readRecordField : Reader RecordFieldDefinition := do
  let name ← readString
  let type ← readTypeRef
  pure { name, type }

def writeTypeSchema (schema : TypeSchemaDefinition) : Writer := do
  writeSchemaIdentity schema.identity
  writeEnum 1 schema.kind
  writeU64 schema.maximumSize
  writeOptional writeTypeRef schema.elementType
  writeVector writeEnumMember schema.enumMembers
  writeVector writeRecordField schema.recordFields
  writeBool schema.permitsIncomplete

def readTypeSchema : Reader TypeSchemaDefinition := do
  let identity ← readSchemaIdentity
  let kind ← readEnum 1
  let maximumSize ← readU64
  let elementType ← readOptional readTypeRef
  let enumMembers ← readVector readEnumMember
  let recordFields ← readVector readRecordField
  let permitsIncomplete ← readBool
  pure
    { identity, kind, maximumSize, elementType, enumMembers, recordFields
      permitsIncomplete }

def writeEnumValue (value : EnumValue) : Writer := do
  writeSchemaIdentity value.schema
  writeI64 value.value

def readEnumValue : Reader EnumValue := do
  let schema ← readSchemaIdentity
  let value ← readI64
  pure { schema, value }

/-- The payload part of `WriteLiteral`: the index of the alternative, then its
value. -/
def writeLiteralPayload : LiteralPayload → Writer
  | .unit => writeU8 0
  | .bool value => do
      writeU8 1
      writeBool value
  | .u8 value => do
      writeU8 2
      writeU8 value
  | .u16 value => do
      writeU8 3
      writeU16 value
  | .u32 value => do
      writeU8 4
      writeU32 value
  | .u64 value => do
      writeU8 5
      writeU64 value
  | .i32 value => do
      writeU8 6
      writeI32 value
  | .i64 value => do
      writeU8 7
      writeI64 value
  | .f32 value => do
      writeU8 8
      writeF32 value
  | .f64 value => do
      writeU8 9
      writeF64 value
  | .string value => do
      writeU8 10
      writeString value
  | .bytes value => do
      writeU8 11
      writeBytes value
  | .enum value => do
      writeU8 12
      writeEnumValue value

def readLiteralPayload : Reader LiteralPayload := do
  let index ← readU8
  match index.toNat with
  | 0 => pure .unit
  | 1 => bool <$> readBool
  | 2 => u8 <$> readU8
  | 3 => u16 <$> readU16
  | 4 => u32 <$> readU32
  | 5 => u64 <$> readU64
  | 6 => i32 <$> readI32
  | 7 => i64 <$> readI64
  | 8 => f32 <$> readF32
  | 9 => f64 <$> readF64
  | 10 => string <$> readString
  | 11 => bytes <$> readBytes
  | 12 => enum <$> readEnumValue
  | _ => failRead .invalidValue "literal variant is invalid"

def writeLiteral (literal : LiteralValue) : Writer := do
  writeTypeRef literal.type
  writeLiteralPayload literal.payload

def readLiteral : Reader LiteralValue := do
  let type ← readTypeRef
  let payload ← readLiteralPayload
  pure { type, payload }

def writeArtifactReference (artifact : ArtifactReferenceValue) : Writer := do
  writeString artifact.artifactId
  writeSchemaIdentity artifact.schema
  writeHash artifact.contentHash
  writeString artifact.storageReference
  writeBool artifact.complete

def readArtifactReference : Reader ArtifactReferenceValue := do
  let artifactId ← readString
  let schema ← readSchemaIdentity
  let contentHash ← readHash
  let storageReference ← readString
  let complete ← readBool
  pure { artifactId, schema, contentHash, storageReference, complete }

def writeResourceHandle (handle : ResourceHandleValue) : Writer := do
  writeId handle.handleId
  writeSchemaIdentity handle.resourceType
  writeId handle.worksetEpoch

def readResourceHandle : Reader ResourceHandleValue := do
  let handleId ← readId
  let resourceType ← readSchemaIdentity
  let worksetEpoch ← readId
  pure { handleId, resourceType, worksetEpoch }

def writeOpaqueHandle (handle : OpaqueHandleValue) : Writer := do
  writeId handle.handleId
  writeSchemaIdentity handle.handleType
  writeId handle.worksetEpoch

def readOpaqueHandle : Reader OpaqueHandleValue := do
  let handleId ← readId
  let handleType ← readSchemaIdentity
  let worksetEpoch ← readId
  pure { handleId, handleType, worksetEpoch }

/-- The payload part of `WriteProgramValue`. -/
def writeValuePayload : ProgramValuePayload → Writer
  | .unit => writeU8 0
  | .bool value => do
      writeU8 1
      writeBool value
  | .u8 value => do
      writeU8 2
      writeU8 value
  | .u16 value => do
      writeU8 3
      writeU16 value
  | .u32 value => do
      writeU8 4
      writeU32 value
  | .u64 value => do
      writeU8 5
      writeU64 value
  | .i32 value => do
      writeU8 6
      writeI32 value
  | .i64 value => do
      writeU8 7
      writeI64 value
  | .f32 value => do
      writeU8 8
      writeF32 value
  | .f64 value => do
      writeU8 9
      writeF64 value
  | .string value => do
      writeU8 10
      writeString value
  | .bytes value => do
      writeU8 11
      writeBytes value
  | .enum value => do
      writeU8 12
      writeEnumValue value
  | .optional value => do
      writeU8 13
      writeOptional writeId value
  | .record fields => do
      writeU8 14
      writeVector writeId fields
  | .list elements => do
      writeU8 15
      writeVector writeId elements
  | .artifact value => do
      writeU8 16
      writeArtifactReference value
  | .resource value => do
      writeU8 17
      writeResourceHandle value
  | .opaqueHandle value => do
      writeU8 18
      writeOpaqueHandle value

def readValuePayload : Reader ProgramValuePayload := do
  let index ← readU8
  match index.toNat with
  | 0 => pure .unit
  | 1 => bool <$> readBool
  | 2 => u8 <$> readU8
  | 3 => u16 <$> readU16
  | 4 => u32 <$> readU32
  | 5 => u64 <$> readU64
  | 6 => i32 <$> readI32
  | 7 => i64 <$> readI64
  | 8 => f32 <$> readF32
  | 9 => f64 <$> readF64
  | 10 => string <$> readString
  | 11 => bytes <$> readBytes
  | 12 => enum <$> readEnumValue
  | 13 => optional <$> readOptional readId
  | 14 => record <$> readVector readId
  | 15 => list <$> readVector readId
  | 16 => artifact <$> readArtifactReference
  | 17 => resource <$> readResourceHandle
  | 18 => opaqueHandle <$> readOpaqueHandle
  | _ => failRead .invalidValue "program value variant is invalid"

def writeProgramValue (value : ProgramValue) : Writer := do
  writeId value.id
  writeTypeRef value.type
  writeValuePayload value.payload

def readProgramValue : Reader ProgramValue := do
  let id ← readId
  let type ← readTypeRef
  let payload ← readValuePayload
  pure { id, type, payload }

section RoundTrips

variable {limits : CodecLimits}

section

variable {α β : Type} {write : α → Writer}

instance (priority := low) {read : Reader β} {view : α → β} {values : List α}
    [known : ∀ value, Coded limits (write value) read (view value)] :
    Coded limits (writeVector write values) (readVector read) (values.map view) :=
  ⟨writeVector_matches fun value _ => (known value).agrees⟩

instance (priority := low) {read : Reader β} {view : α → β} {value : Option α}
    [known : ∀ value, Coded limits (write value) read (view value)] :
    Coded limits (writeOptional write value) (readOptional read) (value.map view) :=
  ⟨writeOptional_matches fun value _ => (known value).agrees⟩

/-- Lists that are read back as they are. -/
instance {read : Reader α} {values : List α}
    [known : ∀ value, Coded limits (write value) read value] :
    Coded limits (writeVector write values) (readVector read) values := by
  have each : Coded limits (writeVector write values) (readVector read)
      (values.map id) := inferInstance
  rwa [List.map_id] at each

/-- Optional values that are read back as they are. -/
instance {read : Reader α} {value : Option α}
    [known : ∀ value, Coded limits (write value) read value] :
    Coded limits (writeOptional write value) (readOptional read) value := by
  have each : Coded limits (writeOptional write value) (readOptional read)
      (value.map id) := inferInstance
  rwa [Option.map_id] at each

end

instance (identity : SchemaIdentity) :
    Coded limits (writeSchemaIdentity identity) readSchemaIdentity identity :=
  ⟨.coded <| .coded <| .last rfl⟩

instance (identity : ExactDependencyIdentity) :
    Coded limits (writeDependency identity) readDependency identity :=
  ⟨.coded <| .coded <| .last rfl⟩

theorem writeModuleIdentity_matches (identity : ModuleIdentity) :
    Matches limits (writeModuleIdentity identity .includeDeclaredHash)
      readModuleIdentity identity :=
  .coded <| .coded <| .last rfl

instance (identity : ModuleIdentity) :
    Coded limits (writeModuleIdentity identity .includeDeclaredHash) readModuleIdentity identity :=
  ⟨writeModuleIdentity_matches identity⟩

instance (identity : ModuleImportIdentity) :
    Coded limits (writeModuleImport identity) readModuleImport identity :=
  ⟨.coded <| .last rfl⟩

instance (identity : CapabilityPackIdentity) :
    Coded limits (writeCapabilityPack identity) readCapabilityPack identity :=
  ⟨.coded <| .coded <| .last rfl⟩

instance (type : TypeRef) : Coded limits (writeTypeRef type) readTypeRef type.normalized := by
  constructor
  refine .bind Coded.agrees ?_
  unfold TypeRef.normalized
  cases type.named with
  | none => exact .map _ (writeEnum_matches _ (by decide)) rfl
  | some identity => exact .last rfl

instance (member : EnumMemberDefinition) :
    Coded limits (writeEnumMember member) readEnumMember member :=
  ⟨.coded <| .last rfl⟩

instance (field : RecordFieldDefinition) :
    Coded limits (writeRecordField field) readRecordField field.normalized :=
  ⟨.coded <| .last rfl⟩

instance (schema : TypeSchemaDefinition) :
    Coded limits (writeTypeSchema schema) readTypeSchema schema.normalized :=
  ⟨.coded <| .bind (writeEnum_matches _ (by decide)) <| .coded <| .coded <|
    .coded <| .coded <| .last rfl⟩

instance (value : EnumValue) : Coded limits (writeEnumValue value) readEnumValue value :=
  ⟨.coded <| .last rfl⟩

instance (payload : LiteralPayload) :
    Coded limits (writeLiteralPayload payload) readLiteralPayload payload := by
  constructor
  cases payload with
  | unit => exact .finish (codedU8 0).agrees fun _ => rfl
  | _ => exact .coded (.mapped _)

instance (literal : LiteralValue) :
    Coded limits (writeLiteral literal) readLiteral literal.normalized :=
  ⟨.coded <| .last rfl⟩

instance (artifact : ArtifactReferenceValue) :
    Coded limits (writeArtifactReference artifact) readArtifactReference artifact :=
  ⟨.coded <| .coded <| .coded <| .coded <| .last rfl⟩

instance (handle : ResourceHandleValue) :
    Coded limits (writeResourceHandle handle) readResourceHandle handle :=
  ⟨.coded <| .coded <| .last rfl⟩

instance (handle : OpaqueHandleValue) :
    Coded limits (writeOpaqueHandle handle) readOpaqueHandle handle :=
  ⟨.coded <| .coded <| .last rfl⟩

instance (payload : ProgramValuePayload) :
    Coded limits (writeValuePayload payload) readValuePayload payload := by
  constructor
  cases payload with
  | unit => exact .finish (codedU8 0).agrees fun _ => rfl
  | _ => exact .coded (.mapped _)

instance (value : ProgramValue) : Coded limits (writeProgramValue value) readProgramValue
      value.normalized :=
  ⟨.coded <| .coded <| .last rfl⟩

end RoundTrips

end Codec
end Savor.Program

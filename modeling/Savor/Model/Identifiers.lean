import Mathlib.Algebra.GroupWithZero.Nat
import Mathlib.Data.FinEnum

/-!
# Identifiers and exact identities

Byte strings, content hashes, the strong ids of the runtime and the exact
identities (canonical id, version, hash) by which modules, schemas, actions and
capability packs refer to one another.
-/

namespace Savor.Program

abbrev Byte := UInt8

/-- A `std::string` or byte vector.  Strings are not assumed to be UTF-8: the
codec and the value arena check that where they need it. -/
abbrev ByteString := List Byte

instance : LawfulBEq ByteString := inferInstance

/-- The bytes of an ASCII literal of the source. -/
def text (literal : String) : ByteString :=
  literal.toList.map fun character => UInt8.ofNat character.toNat

/-- `std::to_string` on an unsigned number. -/
def decimal (number : Nat) : ByteString := text (toString number)

/-- A 256-bit content hash. -/
structure ContentHash256 where
  bytes : List Byte
  length_bytes : bytes.length = 32
  deriving DecidableEq

namespace ContentHash256

/-- The default constructed hash, all zero. -/
def zero : ContentHash256 := ⟨List.replicate 32 0, by simp⟩

/-- The hash that repeats one byte. -/
def filled (byte : Byte) : ContentHash256 := ⟨List.replicate 32 byte, by simp⟩

/-- `ContentHash256::empty`: every byte is zero. -/
def isEmpty (hash : ContentHash256) : Bool := hash.bytes.all (· == 0)

end ContentHash256

/-- A 64-bit id that is not convertible to the id of another kind. -/
structure StrongId (Tag : Type) where
  value : UInt64

namespace StrongId

variable {Tag : Type}

@[ext] theorem ext {left right : StrongId Tag}
    (values : left.value = right.value) : left = right := by
  cases left
  cases right
  exact congrArg StrongId.mk values

/-- The tag is only a phantom: two ids are equal when their values are. -/
instance : DecidableEq (StrongId Tag) := fun left right =>
  decidable_of_iff (left.value = right.value) ⟨StrongId.ext, congrArg StrongId.value⟩

/-- The default constructed id. -/
def none : StrongId Tag := ⟨0⟩

/-- `StrongId::operator bool`: zero is the absent id. -/
def isSet (id : StrongId Tag) : Bool := id.value != 0

instance : LT (StrongId Tag) := ⟨fun left right => left.value < right.value⟩

instance : DecidableLT (StrongId Tag) :=
  fun left right => inferInstanceAs (Decidable (left.value < right.value))

end StrongId

/-- The id of an operating system thread. -/
abbrev ThreadId := Nat

inductive ProgramFunctionIdTag

inductive ProgramBlockIdTag

inductive ProgramValueIdTag

inductive ProgramInstructionIdTag

inductive ProgramSourceLocationIdTag

inductive ProgramScopeIdTag

inductive ProgramResourceHandleIdTag

inductive ProgramTraceSequenceTag

inductive ProgramEmissionSequenceTag

inductive ProgramArtifactSequenceTag

inductive ProgramActionRequestIdTag

inductive SessionIdTag

inductive ProgramExecutionIdTag

inductive AttemptIdTag

inductive WorksetEpochTag

abbrev ProgramFunctionId := StrongId ProgramFunctionIdTag

abbrev ProgramBlockId := StrongId ProgramBlockIdTag

abbrev ProgramValueId := StrongId ProgramValueIdTag

abbrev ProgramInstructionId := StrongId ProgramInstructionIdTag

abbrev ProgramSourceLocationId := StrongId ProgramSourceLocationIdTag

abbrev ProgramScopeId := StrongId ProgramScopeIdTag

abbrev ProgramResourceHandleId := StrongId ProgramResourceHandleIdTag

abbrev ProgramTraceSequence := StrongId ProgramTraceSequenceTag

abbrev ProgramEmissionSequence := StrongId ProgramEmissionSequenceTag

abbrev ProgramArtifactSequence := StrongId ProgramArtifactSequenceTag

abbrev ProgramActionRequestId := StrongId ProgramActionRequestIdTag

abbrev SessionId := StrongId SessionIdTag

abbrev ProgramExecutionId := StrongId ProgramExecutionIdTag

abbrev InvocationId := ProgramExecutionId

abbrev AttemptId := StrongId AttemptIdTag

abbrev WorksetEpoch := StrongId WorksetEpochTag

/-- A module, exactly. -/
structure ModuleIdentity where
  canonicalId : ByteString
  revision : UInt32
  moduleHash : ContentHash256
  deriving DecidableEq

structure SchemaIdentity where
  canonicalId : ByteString
  version : UInt32
  schemaHash : ContentHash256
  deriving DecidableEq

/-- An action or a reducer, exactly. -/
structure ExactDependencyIdentity where
  canonicalId : ByteString
  version : UInt32
  signatureHash : ContentHash256
  deriving DecidableEq

structure ModuleImportIdentity where
  module : ModuleIdentity
  irVersion : UInt32
  deriving DecidableEq

structure CapabilityPackIdentity where
  canonicalId : ByteString
  version : UInt32
  manifestHash : ContentHash256
  deriving DecidableEq

/-- How clean a session is left, in increasing severity. -/
inductive SessionDisposition
  | closed
  | clean
  | cleanWithDiagnostics
  | tainted
  deriving DecidableEq

/-- Why a run is cancelled. -/
inductive CancellationReason
  | none
  | externalRequest
  | shutdown
  | reservedLegacyValue3
  | runtimeFailure
  deriving DecidableEq

end Savor.Program

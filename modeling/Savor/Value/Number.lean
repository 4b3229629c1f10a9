import Mathlib.Data.Nat.Size
import Savor.Value.Arena

/-!
# Numbers

Conversions and checked arithmetic.  A conversion compares and casts as the
source does.  Arithmetic is checked as the source checks it, on unbounded
integers: its guards keep every intermediate result inside the type it is
computed in.  Floating-point arithmetic belongs to the
platform, which is a parameter.
-/

namespace Savor.Program

/-- The platform's floating-point arithmetic, as far as the executor uses it. -/
structure FloatUnit where
  LongDouble : Type
  ofF32 : Float32Bits → LongDouble
  ofF64 : Float64Bits → LongDouble
  ofInteger : Int → LongDouble
  toF32 : LongDouble → Float32Bits
  toF64 : LongDouble → Float64Bits
  /-- `static_cast` of a value whose truncation the source has checked. -/
  toInteger : LongDouble → Int
  integerToF32 : Int → Float32Bits
  integerToF64 : Int → Float64Bits
  (isFinite isIntegral : LongDouble → Bool)
  (equal less lessEqual : LongDouble → LongDouble → Bool)
  (add subtract multiply divide : LongDouble → LongDouble → LongDouble)
  remainder : LongDouble → LongDouble → LongDouble
  negate : LongDouble → LongDouble

/-- An integer type of the host language. -/
structure IntegerFormat where
  signed : Bool
  width : Nat

namespace IntegerFormat

/-- `numeric_limits<T>::lowest`. -/
def lowest (format : IntegerFormat) : Int := if format.signed then -2 ^ (format.width - 1) else 0

/-- `numeric_limits<T>::max`. -/
def highest (format : IntegerFormat) : Int :=
  if format.signed then 2 ^ (format.width - 1) - 1 else 2 ^ format.width - 1

/-- `static_cast` of an integer to the type, which wraps around. -/
def cast (format : IntegerFormat) (value : Int) : Int :=
  if format.signed then value.bmod (2 ^ format.width) else value % 2 ^ format.width

end IntegerFormat

/-- `IsIntegerBuiltin`, with the type it stands for. -/
def BuiltinType.integerFormat : BuiltinType → Option IntegerFormat
  | .u8 => some ⟨false, 8⟩
  | .u16 => some ⟨false, 16⟩
  | .u32 => some ⟨false, 32⟩
  | .u64 => some ⟨false, 64⟩
  | .i32 => some ⟨true, 32⟩
  | .i64 => some ⟨true, 64⟩
  | _ => none

/-- The integer in a payload of exactly this builtin type. -/
def BuiltinType.readInteger : BuiltinType → ProgramValuePayload → Option Int
  | .u8, .u8 value => some value.toNat
  | .u16, .u16 value => some value.toNat
  | .u32, .u32 value => some value.toNat
  | .u64, .u64 value => some value.toNat
  | .i32, .i32 value => some value.toInt
  | .i64, .i64 value => some value.toInt
  | _, _ => none

/-- The payload of an integer type for a value in its range. -/
def BuiltinType.integerPayload : BuiltinType → Int → Option ProgramValuePayload
  | .u8, value => some (.u8 (UInt8.ofInt value))
  | .u16, value => some (.u16 (UInt16.ofInt value))
  | .u32, value => some (.u32 (UInt32.ofInt value))
  | .u64, value => some (.u64 (UInt64.ofInt value))
  | .i32, value => some (.i32 (Int32.ofInt value))
  | .i64, value => some (.i64 (Int64.ofInt value))
  | _, _ => none

/-- A valid `Number`.  The source also fills the fields of the other kinds. -/
inductive Number (floats : FloatUnit)
  | unsigned (value : UInt64)
  | signed (value : Int64)
  | floating (value : floats.LongDouble)

namespace Number

variable {floats : FloatUnit}

/-- `floating_value`: every kind of number carries it. -/
def floatingValue : Number floats → floats.LongDouble
  | .unsigned value => floats.ofInteger value.toNat
  | .signed value => floats.ofInteger value.toInt
  | .floating value => value

def isFloating : Number floats → Bool
  | .floating _ => true
  | _ => false

/-- `unsigned_value == 0 && signed_value == 0`, which floating numbers meet
because both fields are zero for them. -/
def integersAreZero : Number floats → Bool
  | .unsigned value => value == 0
  | .signed value => value == 0
  | .floating _ => true

/-- The value of an integer number. -/
def integer : Number floats → Int
  | .unsigned value => value.toNat
  | .signed value => value.toInt
  | .floating _ => 0

end Number

/-- `ToNumber`; an invalid number is none. -/
def toNumber (floats : FloatUnit) (graph : ProgramValueGraph) : Option (Number floats) :=
  match graph.rootValue.map ProgramValue.payload with
  | some (.u8 value) => some (.unsigned value.toUInt64)
  | some (.u16 value) => some (.unsigned value.toUInt64)
  | some (.u32 value) => some (.unsigned value.toUInt64)
  | some (.u64 value) => some (.unsigned value)
  | some (.i32 value) => some (.signed value.toInt64)
  | some (.i64 value) => some (.signed value)
  | some (.f32 value) => if value.isFinite then some (.floating (floats.ofF32 value)) else none
  | some (.f64 value) => if value.isFinite then some (.floating (floats.ofF64 value)) else none
  | _ => none

/-- `numeric_limits<float>::max`. -/
def largestF32 : Float32Bits := ⟨0x7f7fffff⟩

/-- `numeric_limits<double>::max`. -/
def largestF64 : Float64Bits := ⟨0x7fefffffffffffff⟩

/-- The value lies between the largest finite value and its negation. -/
def FloatUnit.within (floats : FloatUnit) (largest value : floats.LongDouble) : Bool :=
  !floats.less value (floats.negate largest) && !floats.less largest value

def numberGraph (floats : FloatUnit) (type : TypeRef)
    (value : floats.LongDouble) : Option ProgramValueGraph :=
  if !floats.isFinite value then none
  else
    match type.builtin.integerFormat with
    | some format =>
      if !floats.isIntegral value ||
          floats.less value (floats.ofInteger format.lowest) ||
          floats.less (floats.ofInteger format.highest) value then none
      else
        (type.builtin.integerPayload (floats.toInteger value)).map (scalarGraph type)
    | none =>
      match type.builtin with
      | .f32 =>
        if floats.within (floats.ofF32 largestF32) value then
          some (scalarGraph type (.f32 (floats.toF32 value)))
        else none
      | .f64 =>
        if floats.within (floats.ofF64 largestF64) value then
          some (scalarGraph type (.f64 (floats.toF64 value)))
        else none
      | _ => none

/-- `ExactIntegerConversion`.  A number is compared with the bounds of the type
as 64-bit integers of its own signedness. -/
def exactIntegerConversion (floats : FloatUnit) (format : IntegerFormat) :
    Number floats → Option Int
  | .floating value =>
    if !floats.isFinite value || !floats.isIntegral value then none
    else
      -- `ldexp(1, digits)` is one past the largest value of the type.
      let upper := floats.ofInteger (format.highest + 1)
      let lower := floats.ofInteger format.lowest
      if floats.less value lower || floats.lessEqual upper value then none
      else some (floats.toInteger value)
  | .unsigned value =>
    -- The same for signed and unsigned types.
    if value > UInt64.ofInt format.highest then none else some (format.cast value.toNat)
  | .signed value =>
    if format.signed then
      if value < Int64.ofInt format.lowest ∨ value > Int64.ofInt format.highest then none
      else some (format.cast value.toInt)
    else if value < 0 then none
    else
      let bits := value.toUInt64
      if bits > UInt64.ofInt format.highest then none else some (format.cast bits.toNat)

/-- `exact_magnitude`: the magnitude fits in `digits` significant bits. -/
def exactMagnitude (digits magnitude : Nat) : Bool :=
  let width := Nat.size magnitude
  width ≤ digits || magnitude % 2 ^ (width - digits) = 0

/-- `ExactFloatingConversionGraph<float>`. -/
def exactF32Conversion (floats : FloatUnit) (type : TypeRef) :
    Number floats → Option ProgramValueGraph
  | .floating value =>
    if floats.within (floats.ofF32 largestF32) value &&
        (floats.toF32 value).isFinite then
      some (scalarGraph type (.f32 (floats.toF32 value)))
    else none
  | number =>
    if exactMagnitude 24 number.integer.natAbs &&
        (floats.integerToF32 number.integer).isFinite then
      some (scalarGraph type (.f32 (floats.integerToF32 number.integer)))
    else none

/-- `ExactFloatingConversionGraph<double>`. -/
def exactF64Conversion (floats : FloatUnit) (type : TypeRef) :
    Number floats → Option ProgramValueGraph
  | .floating value =>
    if floats.within (floats.ofF64 largestF64) value &&
        (floats.toF64 value).isFinite then
      some (scalarGraph type (.f64 (floats.toF64 value)))
    else none
  | number =>
    if exactMagnitude 53 number.integer.natAbs &&
        (floats.integerToF64 number.integer).isFinite then
      some (scalarGraph type (.f64 (floats.integerToF64 number.integer)))
    else none

/-- The conversion of `CheckedConvert` to the result type. -/
def convertNumber (floats : FloatUnit) (type : TypeRef)
    (number : Number floats) : Option ProgramValueGraph :=
  match type.builtin.integerFormat with
  | some format =>
    (exactIntegerConversion floats format number).bind fun value =>
      (type.builtin.integerPayload value).map (scalarGraph type)
  | none =>
    match type.builtin with
    | .f32 => exactF32Conversion floats type number
    | .f64 => exactF64Conversion floats type number
    | _ => none

section CheckedIntegers

variable (format : IntegerFormat) (left right : Int)

def checkedAdd : Option Int :=
  if format.signed then
    if (right > 0 ∧ left > format.highest - right) ∨
        (right < 0 ∧ left < format.lowest - right) then none
    else some (left + right)
  else if left > format.highest - right then none
  else some (left + right)

def checkedSubtract : Option Int :=
  if format.signed then
    if (right < 0 ∧ left > format.highest + right) ∨
        (right > 0 ∧ left < format.lowest + right) then none
    else some (left - right)
  else if left < right then none
  else some (left - right)

def checkedMultiply : Option Int :=
  if format.signed then
    let negative : Bool := decide (left < 0) != decide (right < 0)
    let negativeLimit := format.highest.toNat + 1
    let limit := if negative then negativeLimit else format.highest.toNat
    if left.natAbs ≠ 0 ∧ right.natAbs > limit / left.natAbs then none
    else if !negative then some (left.natAbs * right.natAbs : Nat)
    else if left.natAbs * right.natAbs = negativeLimit then some format.lowest
    else some (-(left.natAbs * right.natAbs : Nat))
  else if left ≠ 0 ∧ right > format.highest / left then none
  else some (left * right)

/-- `CheckedDivide`: the quotient truncates toward zero. -/
def checkedDivide : Option Int :=
  if right = 0 then none
  else if format.signed ∧ left = format.lowest ∧ right = -1 then none
  else some (left.tdiv right)

/-- `CheckedRemainder`: the remainder has the sign of the dividend. -/
def checkedRemainder : Option Int :=
  if right = 0 then none
  else if format.signed ∧ left = format.lowest ∧ right = -1 then some 0
  else some (left.tmod right)

def checkedNegate (value : Int) : Option Int :=
  if format.signed then
    if value = format.lowest then none else some (-value)
  else if value ≠ 0 then none
  else some 0

end CheckedIntegers

/-- The checked operation an opcode selects. -/
def checkedInteger (opcode : InstructionOpcode) (format : IntegerFormat)
    (left right : Int) : Option Int :=
  match opcode with
  | .addChecked => checkedAdd format left right
  | .subtractChecked => checkedSubtract format left right
  | .multiplyChecked => checkedMultiply format left right
  | .divideChecked => checkedDivide format left right
  | .remainderChecked => checkedRemainder format left right
  | _ => none

/-- The integer a graph holds at its root in exactly this builtin type. -/
def rootInteger (type : BuiltinType) (graph : ProgramValueGraph) : Option Int :=
  graph.rootValue.bind fun root => type.readInteger root.payload

def checkedIntegerBinaryGraph (type : TypeRef) (left right : ProgramValueGraph)
    (opcode : InstructionOpcode) : Option ProgramValueGraph := do
  let format ← type.builtin.integerFormat
  let left ← rootInteger type.builtin left
  let right ← rootInteger type.builtin right
  let result ← checkedInteger opcode format left right
  let payload ← type.builtin.integerPayload result
  return scalarGraph type payload

def checkedIntegerNegationGraph (type : TypeRef) (source : ProgramValueGraph) :
    Option ProgramValueGraph := do
  let format ← type.builtin.integerFormat
  let value ← rootInteger type.builtin source
  let result ← checkedNegate format value
  let payload ← type.builtin.integerPayload result
  return scalarGraph type payload

def compareExactInteger (type : BuiltinType) (left right : ProgramValueGraph) :
    Option Ordering := do
  let _ ← type.integerFormat
  let left ← rootInteger type left
  let right ← rootInteger type right
  return compare left right

def boolean (graph : ProgramValueGraph) : Option Bool :=
  match graph.rootValue.map ProgramValue.payload with
  | some (.bool value) => some value
  | _ => none

end Savor.Program

import Mathlib.Algebra.GroupWithZero.Nat
import Mathlib.Data.FinEnum
import Mathlib.Data.List.Infix

/-!
# Memory accesses of the current instruction

`DecodeCurrentMemoryAccess` names the load or store in an opcode word and
reports its footprint.  The PowerPC architecture is stated apart from the two
tables of the decoder, which are then compared with it.
-/

namespace Savor.Ppc

inductive MemoryAccessKind where
  | read
  | write
  | access
  deriving DecidableEq

structure DecodedMemoryRegisterValue where
  reg : UInt8
  role : String
  value : UInt32

structure DecodedMemoryAccess where
  pc : UInt32 := 0
  opcode : UInt32 := 0
  decoded : Bool := false
  isMemoryAccess : Bool := false
  supported : Bool := false
  mnemonic : String := ""
  unsupportedReason : String := ""
  access : MemoryAccessKind := .access
  effectiveAddress : UInt32 := 0
  accessSize : UInt32 := 0
  baseReg : UInt8 := 0
  hasBaseReg : Bool := false
  indexReg : UInt8 := 0
  hasIndexReg : Bool := false
  valueReg : UInt8 := 0
  hasValueReg : Bool := false
  valueAvailable : Bool := false
  value : UInt64 := 0
  valueSource : String := ""
  memoryValueAvailable : Bool := false
  memoryValue : UInt64 := 0
  gprValues : List DecodedMemoryRegisterValue := []

/-- `GprReadFn`; an empty function reads nothing. -/
abbrev GprRead := UInt8 → Option UInt32

/-- `MemoryReadFn`, from an address and a size. -/
abbrev MemoryRead := UInt32 → UInt32 → Option UInt64

def ppcRt (opcode : UInt32) : UInt8 := ((opcode >>> 21) &&& 0x1f).toUInt8

def ppcRa (opcode : UInt32) : UInt8 := ((opcode >>> 16) &&& 0x1f).toUInt8

def ppcRb (opcode : UInt32) : UInt8 := ((opcode >>> 11) &&& 0x1f).toUInt8

def ppcXo (opcode : UInt32) : UInt32 := (opcode >>> 1) &&& 0x3ff

def ppcSimm16 (opcode : UInt32) : Int32 := (opcode &&& 0xffff).toUInt16.toInt16.toInt32

def maskStoreValue (value size : UInt32) : UInt64 :=
  if size = 1 then (value &&& 0xff).toUInt64
  else if size = 2 then (value &&& 0xffff).toUInt64
  else value.toUInt64

/-- `append_register_role`: a register that is listed gains the role. -/
def appendRegisterRole (reg : UInt8) (role : String) (value : UInt32) :
    List DecodedMemoryRegisterValue → List DecodedMemoryRegisterValue
  | [] => [{ reg, role, value }]
  | existing :: values =>
    if existing.reg = reg then
      if role.toList <:+: existing.role.toList then existing :: values
      else
        { existing with
          role := (if existing.role.isEmpty then ""
            else existing.role ++ "+") ++ role } :: values
    else existing :: appendRegisterRole reg role value values

/-- A decoding that returned early, or its result so far. -/
abbrev Decoding (α : Type) := Except DecodedMemoryAccess α

def Decoding.reported : Decoding DecodedMemoryAccess → DecodedMemoryAccess
  | .ok decoded | .error decoded => decoded

def readGprForDecode (decoded : DecodedMemoryAccess) (readGpr : GprRead)
    (reg : UInt8) (role : String) : Decoding (DecodedMemoryAccess × UInt32) :=
  match readGpr reg with
  | none =>
    .error { decoded with
      unsupportedReason := "failed to read r" ++ toString reg.toNat }
  | some value =>
    let gprValues := appendRegisterRole reg role value decoded.gprValues
    .ok ({ decoded with gprValues }, value)

def readMemoryValueForDecode (decoded : DecodedMemoryAccess)
    (readMemory : MemoryRead) : DecodedMemoryAccess :=
  if !decoded.isMemoryAccess || decoded.accessSize = 0 || decoded.accessSize > 8 then decoded
  else
    match readMemory decoded.effectiveAddress decoded.accessSize with
    | none => decoded
    | some value =>
      let decoded := { decoded with
        memoryValueAvailable := true
        memoryValue := value }
      if decoded.access = .read && !decoded.valueAvailable then
        { decoded with
          valueAvailable := true
          value
          valueSource := "memory" }
      else decoded

structure AccessInfo where
  mnemonic : String
  access : MemoryAccessKind
  size : UInt32
  integerStore : Bool := false
  multipleStore : Bool := false

namespace AccessInfo

variable (mnemonic : String) (size : UInt32)

def read : Option AccessInfo := some { mnemonic, access := .read, size }

def write : Option AccessInfo := some { mnemonic, access := .write, size }

def integer : Option AccessInfo := some { mnemonic, access := .write, size, integerStore := true }

def multiple : Option AccessInfo := some { mnemonic, access := .write, size, multipleStore := true }

end AccessInfo

open AccessInfo in
def dFormAccessInfo : Nat → Option AccessInfo
  | 32 => read "lwz" 4
  | 33 => read "lwzu" 4
  | 34 => read "lbz" 1
  | 35 => read "lbzu" 1
  | 36 => integer "stw" 4
  | 37 => integer "stwu" 4
  | 38 => integer "stb" 1
  | 39 => integer "stbu" 1
  | 40 => read "lhz" 2
  | 41 => read "lhzu" 2
  | 42 => read "lha" 2
  | 43 => read "lhau" 2
  | 44 => integer "sth" 2
  | 45 => integer "sthu" 2
  | 46 => read "lmw" 4
  | 47 => multiple "stmw" 4
  | 48 => read "lfs" 4
  | 49 => read "lfsu" 4
  | 50 => read "lfd" 8
  | 51 => read "lfdu" 8
  | 52 => write "stfs" 4
  | 53 => write "stfsu" 4
  | 54 => write "stfd" 8
  | 55 => write "stfdu" 8
  | _ => none

open AccessInfo in
def xFormAccessInfo : Nat → Option AccessInfo
  | 23 => read "lwzx" 4
  | 55 => read "lwzux" 4
  | 87 => read "lbzx" 1
  | 119 => read "lbzux" 1
  | 151 => integer "stwx" 4
  | 183 => integer "stwux" 4
  | 215 => integer "stbx" 1
  | 247 => integer "stbux" 1
  | 279 => read "lhzx" 2
  | 311 => read "lhzux" 2
  | 343 => read "lhax" 2
  | 375 => read "lhaux" 2
  | 407 => integer "sthx" 2
  | 439 => integer "sthux" 2
  | 535 => read "lfsx" 4
  | 567 => read "lfsux" 4
  | 599 => read "lfdx" 8
  | 631 => read "lfdux" 8
  | 663 => write "stfsx" 4
  | 695 => write "stfsux" 4
  | 727 => write "stfdx" 8
  | 759 => write "stfdux" 8
  | _ => none

section Forms

variable (opcode : UInt32) (readGpr : GprRead) (readMemory : MemoryRead)

/-- The last part of both forms: an integer store reads the register it stores,
and the memory is read at the footprint. -/
def finishAccess (info : AccessInfo) (decoded : DecodedMemoryAccess) :
    Decoding DecodedMemoryAccess := do
  let rt := ppcRt opcode
  let decoded ←
    if info.integerStore then do
      let (decoded, value) ← readGprForDecode decoded readGpr rt "source"
      pure { decoded with
        valueReg := rt
        hasValueReg := true
        valueAvailable := true
        value := maskStoreValue value info.size
        valueSource := "source_gpr" }
    else pure decoded
  pure { readMemoryValueForDecode decoded readMemory with supported := true }

/-- The base register, which is not read when it is register 0. -/
def readBase (decoded : DecodedMemoryAccess) : Decoding (DecodedMemoryAccess × UInt32) :=
  if ppcRa opcode ≠ 0 then
    readGprForDecode decoded readGpr (ppcRa opcode) "base"
  else .ok (decoded, 0)

def decodeDForm (info : AccessInfo) (decoded : DecodedMemoryAccess) :
    Decoding DecodedMemoryAccess := do
  let (decoded, base) ← readBase opcode readGpr { decoded with
    mnemonic := info.mnemonic
    isMemoryAccess := true
    access := info.access
    accessSize :=
      if info.multipleStore then (32 - (ppcRt opcode).toUInt32) * 4
      else info.size
    baseReg := ppcRa opcode
    hasBaseReg := ppcRa opcode ≠ 0 }
  finishAccess opcode readGpr readMemory info { decoded with
    effectiveAddress := (base.toUInt64 + (ppcSimm16 opcode).toInt64.toUInt64).toUInt32 }

def decodeXForm (info : AccessInfo) (decoded : DecodedMemoryAccess) :
    Decoding DecodedMemoryAccess := do
  let rb := ppcRb opcode
  let (decoded, base) ← readBase opcode readGpr { decoded with
    mnemonic := info.mnemonic
    isMemoryAccess := true
    access := info.access
    accessSize := info.size
    baseReg := ppcRa opcode
    hasBaseReg := ppcRa opcode ≠ 0
    indexReg := rb
    hasIndexReg := true }
  let (decoded, index) ← readGprForDecode decoded readGpr rb "index"
  finishAccess opcode readGpr readMemory info { decoded with
    effectiveAddress := (base.toUInt64 + index.toUInt64).toUInt32 }

def decodeCurrentMemoryAccess (pc : UInt32) : DecodedMemoryAccess :=
  let decoded : DecodedMemoryAccess := { pc, opcode, decoded := true }
  let refused (mnemonic reason : String) : DecodedMemoryAccess :=
    { decoded with mnemonic, unsupportedReason := reason }
  let primary := (opcode >>> 26).toNat
  if primary = 18 then
    refused (if opcode &&& 1 ≠ 0 then "bl" else "b") "not a memory access"
  else if primary = 16 then refused "bc" "not a memory access"
  else if primary = 19 then refused "branch" "not a memory access"
  else
    match dFormAccessInfo primary with
    | some info => (decodeDForm opcode readGpr readMemory info decoded).reported
    | none =>
      if primary = 31 then
        match xFormAccessInfo (ppcXo opcode).toNat with
        | none => refused "opcode31" "unsupported opcode31 form"
        | some info => (decodeXForm opcode readGpr readMemory info decoded).reported
      else refused "unknown" "unsupported opcode"

end Forms

/-!
## The architecture

The loads and stores come in families of four, with immediate or indexed
displacement and with or without update of the base register.
-/

inductive Encoding where
  | immediate (primary : Nat)
  | indexed (extended : Nat)
  deriving DecidableEq

structure Instruction where
  mnemonic : String
  encoding : Encoding
  access : MemoryAccessKind
  /-- The bytes of one access, and whether it is repeated up to register 31. -/
  bytes : Nat
  multiple : Bool := false
  /-- The low bytes of an integer register are stored. -/
  stores : Bool := false

def loadsAndStores : List Instruction :=
  [{ mnemonic := "lmw", encoding := .immediate 46, access := .read, bytes := 4
     multiple := true },
    { mnemonic := "stmw", encoding := .immediate 47, access := .write
      bytes := 4, multiple := true }] ++
    [("lwz", 32, 23, .read, 4, false), ("lbz", 34, 87, .read, 1, false),
      ("stw", 36, 151, .write, 4, true), ("stb", 38, 215, .write, 1, true),
      ("lhz", 40, 279, .read, 2, false), ("lha", 42, 343, .read, 2, false),
      ("sth", 44, 407, .write, 2, true), ("lfs", 48, 535, .read, 4, false),
      ("lfd", 50, 599, .read, 8, false), ("stfs", 52, 663, .write, 4, false),
      ("stfd", 54, 727, .write, 8, false)].flatMap family
where
  family : String × Nat × Nat × MemoryAccessKind × Nat × Bool → List Instruction
    | (name, primary, extended, direction, bytes, stores) =>
      [("", .immediate primary), ("u", .immediate (primary + 1)),
        ("x", .indexed extended), ("ux", .indexed (extended + 32))].map
        fun (suffix, encoding) =>
          { mnemonic := name ++ suffix, encoding, access := direction
            bytes, stores }

/-- The register in the five bits from `low`. -/
def register (opcode : UInt32) (low : Nat) : UInt8 := UInt8.ofNat (opcode.toNat / 2 ^ low % 32)

/-- The sign-extended low half of the word. -/
def displacement (opcode : UInt32) : Int := Int.bmod opcode.toNat (2 ^ 16)

/-- Register 0 as a base is zero, also in the update forms, which may not have
it. -/
def baseValue (opcode : UInt32) (readGpr : GprRead) : Option UInt32 :=
  if register opcode 16 = 0 then some 0 else readGpr (register opcode 16)

namespace Instruction

variable (instruction : Instruction) (opcode : UInt32) (readGpr : GprRead)

def Encodes : Prop :=
  match instruction.encoding with
  | .immediate primary => opcode.toNat / 2 ^ 26 = primary
  | .indexed extended => opcode.toNat / 2 ^ 26 = 31 ∧ opcode.toNat / 2 % 1024 = extended

/-- The bytes that the instruction touches. -/
def size : Nat :=
  if instruction.multiple then
    instruction.bytes * (32 - (register opcode 21).toNat)
  else instruction.bytes

/-- The effective address, unless a register of it cannot be read. -/
def address : Option Nat := do
  let base ← baseValue opcode readGpr
  match instruction.encoding with
  | .immediate _ => some (((base.toNat : Int) + displacement opcode) % 2 ^ 32).toNat
  | .indexed _ => do
      let index ← readGpr (register opcode 11)
      some ((base.toNat + index.toNat) % 2 ^ 32)

/-- The registers without which the access cannot be reported. -/
def Needs (reg : UInt8) : Prop :=
  (reg ≠ 0 ∧ reg = register opcode 16) ∨
    (instruction.stores ∧ reg = register opcode 21) ∨
    match instruction.encoding with
    | .immediate _ => False
    | .indexed _ => reg = register opcode 11

end Instruction

/-- An entry that says what the architecture does. -/
def AccessInfo.Describes (info : AccessInfo) (instruction : Instruction) : Prop :=
  info.mnemonic = instruction.mnemonic ∧ info.access = instruction.access ∧
    info.size.toNat = instruction.bytes ∧ info.size.toNat ∈ [1, 2, 4, 8] ∧
    info.integerStore = instruction.stores ∧
    (instruction.stores = true → info.access = .write ∧ info.multipleStore = false) ∧
    info.multipleStore = (instruction.multiple && instruction.access = .write)

instance (info : AccessInfo) (instruction : Instruction) : Decidable (info.Describes instruction) :=
  inferInstanceAs (Decidable (_ ∧ _ ∧ _ ∧ _ ∧ _ ∧ _ ∧ _))

/-- The entry of an instruction in the tables. -/
def Encoding.info : Encoding → Option AccessInfo
  | .immediate primary => dFormAccessInfo primary
  | .indexed extended => xFormAccessInfo extended

section Exactness

variable (opcode : UInt32) (readGpr : GprRead) (readMemory : MemoryRead)
  (instruction : Instruction)

/-- The report is that of the instruction, with a footprint of `size` bytes. -/
structure Reports (size : Nat) (decoded : DecodedMemoryAccess) : Prop where
  mnemonic : decoded.mnemonic = instruction.mnemonic
  access : decoded.access = instruction.access
  address : instruction.address opcode readGpr = some decoded.effectiveAddress.toNat
  size : decoded.accessSize.toNat = size
  stored : decoded.access = .write → decoded.valueAvailable = true →
    ∃ value, readGpr (register opcode 21) = some value ∧
      decoded.value.toNat = value.toNat % 2 ^ (8 * decoded.accessSize.toNat)
  loaded : decoded.access = .read → decoded.valueAvailable = true →
    readMemory decoded.effectiveAddress decoded.accessSize = some decoded.value
  memory : decoded.memoryValueAvailable = true →
    readMemory decoded.effectiveAddress decoded.accessSize = some decoded.memoryValue

/-- What is reported as supported is an access of the architecture, and all
that it needs could be read. -/
def DecodesExactly (decoded : DecodedMemoryAccess) : Prop :=
  (decoded.supported = true → ∃ instruction ∈ loadsAndStores, instruction.Encodes opcode ∧
        Reports opcode readGpr readMemory instruction (instruction.size opcode) decoded) ∧
    ∀ instruction ∈ loadsAndStores, instruction.Encodes opcode →
      (∃ reg, instruction.Needs opcode reg ∧ readGpr reg = none) → decoded.supported = false

/-- A load of several registers whose base can be read. -/
def LoadsMultiple : Prop :=
  opcode.toNat / 2 ^ 26 = 46 ∧ (register opcode 21).toNat < 31 ∧
    (register opcode 16 = 0 ∨ (readGpr (register opcode 16)).isSome)

/-- Either a register is missing, or the report is that of the instruction. -/
def Outcome (size : Nat) (decoded : DecodedMemoryAccess) : Prop :=
  (decoded.supported = false ∧ ∃ reg, instruction.Needs opcode reg ∧ readGpr reg = none) ∨
    (∀ reg, instruction.Needs opcode reg → readGpr reg ≠ none) ∧ decoded.supported = true ∧
      Reports opcode readGpr readMemory instruction size decoded

end Exactness

section Fields

variable (opcode : UInt32)

theorem primary_toNat : (opcode >>> 26).toNat = opcode.toNat / 2 ^ 26 := by
  simp [Nat.shiftRight_eq_div_pow]

theorem field_eq (low : Nat) (fits : low < 32) : ((opcode >>> UInt32.ofNat low) &&& 0x1f).toUInt8 =
      register opcode low := by
  apply UInt8.toNat_inj.mp
  have mask (n : Nat) : n &&& 31 = n % 32 := Nat.and_two_pow_sub_one_eq_mod n 5
  have shift : low % 4294967296 % 32 = low := by omega
  simp only [register, UInt32.toNat_toUInt8, UInt32.toNat_and,
    UInt32.toNat_shiftRight, UInt32.toNat_ofNat, UInt32.toNat_ofNat', mask,
    shift, UInt8.toNat_ofNat', Nat.shiftRight_eq_div_pow]

theorem register_lt (low : Nat) : (register opcode low).toNat < 32 := by
  simp only [register, UInt8.toNat_ofNat']
  omega

theorem ppcXo_toNat : (ppcXo opcode).toNat = opcode.toNat / 2 % 1024 := by
  have mask (n : Nat) : n &&& 1023 = n % 1024 := Nat.and_two_pow_sub_one_eq_mod n 10
  simp [ppcXo, mask, Nat.shiftRight_eq_div_pow]

theorem ppcSimm16_toInt : (ppcSimm16 opcode).toInt = displacement opcode := by
  have mask (n : Nat) : n &&& 65535 = n % 65536 := Nat.and_two_pow_sub_one_eq_mod n 16
  have low : (opcode &&& 0xffff).toUInt16.toNat = opcode.toNat % 2 ^ 16 := by simp [mask]
  calc (ppcSimm16 opcode).toInt
      = (opcode &&& 0xffff).toUInt16.toInt16.toInt := Int16.toInt_toInt32 _
    _ = Int.bmod (opcode &&& 0xffff).toUInt16.toNat (2 ^ 16) := BitVec.toInt_eq_toNat_bmod _
    _ = Int.bmod opcode.toNat (2 ^ 16) := by rw [low, Int.natCast_emod, Int.emod_bmod]

theorem immediate_address (base : UInt32) :
    (base.toUInt64 + (ppcSimm16 opcode).toInt64.toUInt64).toUInt32.toNat =
      (((base.toNat : Int) + displacement opcode) % 2 ^ 32).toNat := by
  have wide : Int.bmod (ppcSimm16 opcode).toInt64.toUInt64.toNat (2 ^ 64) =
      displacement opcode := by
    rw [← ppcSimm16_toInt, ← Int32.toInt_toInt64]
    exact (BitVec.toInt_eq_toNat_bmod _).symm
  have narrow := Int.bmod_emod (x := (ppcSimm16 opcode).toInt64.toUInt64.toNat) (m := 2 ^ 64)
  rw [wide] at narrow
  simp only [UInt64.toNat_toUInt32, UInt64.toNat_add, UInt32.toNat_toUInt64]
  omega

end Fields

theorem maskStoreValue_toNat (value size : UInt32) (width : size.toNat ∈ [1, 2, 4, 8]) :
    (maskStoreValue value size).toNat = value.toNat % 2 ^ (8 * size.toNat) := by
  have byte (n : Nat) : n &&& 255 = n % 256 := Nat.and_two_pow_sub_one_eq_mod n 8
  have half (n : Nat) : n &&& 65535 = n % 65536 := Nat.and_two_pow_sub_one_eq_mod n 16
  have bound := value.toNat_lt
  obtain ⟨size, rfl⟩ : ∃ n : Nat, size = UInt32.ofNat n := ⟨size.toNat, by simp⟩
  have small := (UInt32.ofNat size).toNat_lt
  simp only [List.mem_cons, List.not_mem_nil, or_false] at width
  unfold maskStoreValue
  simp only [← UInt32.toNat_inj]
  obtain one | two | four | eight := width
  · simp [one, byte]
  · simp [two, half]
  · simp [four]
  · rw [eight, Nat.mod_eq_of_lt (by omega)]
    simp

section Tables

theorem described : ∀ instruction ∈ loadsAndStores,
    ∃ info ∈ instruction.encoding.info, info.Describes instruction := by
  have all : ∀ instruction ∈ loadsAndStores,
      instruction.encoding.info.any (·.Describes instruction) := by
    decide +kernel
  simpa [Option.any_eq_true] using all

theorem listed_of_info (encoding : Encoding) (info : AccessInfo)
    (entry : encoding.info = some info) :
    ∃ instruction ∈ loadsAndStores, instruction.encoding = encoding := by
  cases encoding with
  | immediate primary =>
    simp only [Encoding.info, dFormAccessInfo] at entry
    split at entry <;> first | contradiction | decide
  | indexed extended =>
    simp only [Encoding.info, xFormAccessInfo] at entry
    split at entry <;> first | contradiction | decide

theorem multiple_facts : ∀ instruction ∈ loadsAndStores, (instruction.encoding = .immediate 46 ↔
      instruction.multiple = true ∧ instruction.access = .read) ∧
    (instruction.multiple = true → instruction.bytes = 4 ∧ (instruction.encoding = .immediate 46 ∨
        instruction.encoding = .immediate 47 ∧ instruction.access = .write)) := by
  decide

end Tables

section Outcomes

variable {opcode : UInt32} {readGpr : GprRead} {readMemory : MemoryRead}
  {instruction : Instruction} {info : AccessInfo}

theorem reports_of_read (decoded : DecodedMemoryAccess)
    (mnemonic : decoded.mnemonic = instruction.mnemonic)
    (access : decoded.access = instruction.access) (address : instruction.address opcode readGpr =
      some decoded.effectiveAddress.toNat) (unread : decoded.memoryValueAvailable = false)
    (stored : decoded.valueAvailable = true → decoded.access = .write ∧
      ∃ value, readGpr (register opcode 21) = some value ∧
        decoded.value.toNat = value.toNat % 2 ^ (8 * decoded.accessSize.toNat)) :
    Reports opcode readGpr readMemory instruction decoded.accessSize.toNat
      { readMemoryValueForDecode decoded readMemory with
        supported := true } := by
  have kept : Reports opcode readGpr readMemory instruction
      decoded.accessSize.toNat { decoded with supported := true } :=
    ⟨mnemonic, access, address, rfl, fun _ available => (stored available).2,
      fun load available => by simp [(stored available).1] at load,
      fun available => by simp [unread] at available⟩
  unfold readMemoryValueForDecode
  split
  · exact kept
  split
  · exact kept
  rename_i value found
  dsimp only
  split
  · have load : decoded.access = .read := by simp_all
    exact { kept with
      stored := fun write => by simp [load] at write
      loaded := fun _ _ => found
      memory := fun _ => found }
  · exact { kept with memory := fun _ => found }

section Rules

variable {decoded : DecodedMemoryAccess}
  (unsupported : decoded.supported = false) (size : Nat)

include unsupported

theorem outcome_of_gpr (reg : UInt8) (role : String)
    (next : DecodedMemoryAccess × UInt32 → Decoding DecodedMemoryAccess)
    (needed : instruction.Needs opcode reg) (continued : ∀ value values, readGpr reg = some value →
      Outcome opcode readGpr readMemory instruction size
        (next ({ decoded with gprValues := values }, value)).reported) :
    Outcome opcode readGpr readMemory instruction size
      (readGprForDecode decoded readGpr reg role >>= next).reported := by
  unfold readGprForDecode
  cases reads : readGpr reg with
  | none => exact .inl ⟨unsupported, reg, needed, reads⟩
  | some value => exact continued value _ reads

theorem outcome_of_base (next : DecodedMemoryAccess × UInt32 → Decoding DecodedMemoryAccess)
    (continued : ∀ base values, baseValue opcode readGpr = some base →
      Outcome opcode readGpr readMemory instruction size
        (next ({ decoded with gprValues := values }, base)).reported) :
    Outcome opcode readGpr readMemory instruction size
      (readBase opcode readGpr decoded >>= next).reported := by
  have field : ppcRa opcode = register opcode 16 := field_eq opcode 16 (by decide)
  unfold readBase
  rw [field]
  unfold baseValue at continued
  by_cases zero : register opcode 16 = 0
  · rw [if_pos zero] at continued
    rw [if_neg (not_not.mpr zero)]
    exact continued 0 decoded.gprValues rfl
  · rw [if_neg zero] at continued
    rw [if_pos zero]
    exact outcome_of_gpr unsupported size _ _ next (.inl ⟨zero, rfl⟩) continued

theorem finishAccess_outcome (describes : info.Describes instruction)
    (fresh : decoded.valueAvailable = false) (unread : decoded.memoryValueAvailable = false)
    (mnemonic : decoded.mnemonic = info.mnemonic) (access : decoded.access = info.access)
    (sized : info.multipleStore = false → decoded.accessSize = info.size)
    (address : instruction.address opcode readGpr = some decoded.effectiveAddress.toNat)
    (readable : ∀ reg, instruction.Needs opcode reg →
      (instruction.stores = true ∧ reg = register opcode 21) ∨ readGpr reg ≠ none) :
    Outcome opcode readGpr readMemory instruction decoded.accessSize.toNat
      (finishAccess opcode readGpr readMemory info decoded).reported := by
  obtain ⟨sameName, sameAccess, -, width, stores, direction, -⟩ := describes
  have field : ppcRt opcode = register opcode 21 := field_eq opcode 21 (by decide)
  unfold finishAccess
  rw [field]
  cases integer : info.integerStore with
  | false =>
    refine .inr ⟨fun reg needed => (readable reg needed).resolve_left ?_, rfl, ?_⟩
    · simp [← stores, integer]
    · exact reports_of_read decoded (mnemonic.trans sameName)
        (access.trans sameAccess) address unread (by simp [fresh])
  | true =>
    simp only [if_true]
    refine outcome_of_gpr unsupported _ _ _ _
      (.inr (.inl ⟨stores ▸ integer, rfl⟩)) fun value values reads => ?_
    obtain ⟨write, single⟩ := direction (stores ▸ integer)
    refine .inr ⟨fun reg needed => ?_, rfl, ?_⟩
    · obtain ⟨-, rfl⟩ | readable := readable reg needed
      · simp [reads]
      · exact readable
    exact reports_of_read
      { decoded with
        gprValues := values
        valueReg := register opcode 21
        hasValueReg := true
        valueAvailable := true
        value := maskStoreValue value info.size
        valueSource := "source_gpr" }
      (mnemonic.trans sameName) (access.trans sameAccess) address unread
      fun _ => ⟨access.trans write, value, reads,
        sized single ▸ maskStoreValue_toNat value info.size width⟩

end Rules

variable (pc : UInt32) (describes : info.Describes instruction)

include describes

theorem decodeDForm_outcome (primary : Nat) (form : instruction.encoding = .immediate primary) :
    Outcome opcode readGpr readMemory instruction
      (if info.multipleStore then (32 - (register opcode 21).toUInt32) * 4
        else info.size).toNat
      (decodeDForm opcode readGpr readMemory info { pc, opcode, decoded := true }).reported := by
  have field : ppcRt opcode = register opcode 21 := field_eq opcode 21 (by decide)
  unfold decodeDForm
  rw [field]
  refine outcome_of_base rfl _ _ fun base values reads => ?_
  refine finishAccess_outcome rfl describes rfl rfl rfl rfl ?_ ?_ ?_
  · exact fun single => if_neg (by simp [single])
  · rw [Instruction.address, form, reads]
    exact congrArg some (immediate_address opcode base).symm
  · rintro reg (⟨nonzero, rfl⟩ | source | index)
    · exact .inr (by simp_all [baseValue])
    · exact .inl source
    · simp [form] at index

theorem decodeXForm_outcome (extended : Nat) (form : instruction.encoding = .indexed extended) :
    Outcome opcode readGpr readMemory instruction info.size.toNat
      (decodeXForm opcode readGpr readMemory info { pc, opcode, decoded := true }).reported := by
  have field : ppcRb opcode = register opcode 11 := field_eq opcode 11 (by decide)
  have indexed : instruction.Needs opcode (register opcode 11) := .inr (.inr (by rw [form]))
  unfold decodeXForm
  rw [field]
  refine outcome_of_base rfl _ _ fun base values reads => ?_
  refine outcome_of_gpr rfl _ _ _ _ indexed fun value values readsIndex => ?_
  refine finishAccess_outcome rfl describes rfl rfl rfl rfl (fun _ => rfl) ?_ ?_
  · rw [Instruction.address, form, reads, readsIndex]
    simp
  · rintro reg (⟨nonzero, rfl⟩ | source | index)
    · exact .inr (by simp_all [baseValue])
    · exact .inl source
    · exact .inr (by simp_all)

end Outcomes

section Decoding

variable (opcode : UInt32) (readGpr : GprRead) (readMemory : MemoryRead)
  (pc : UInt32)

theorem multiple_size (first : UInt8) (bound : first.toNat < 32) :
    ((32 - first.toUInt32) * 4).toNat = 4 * (32 - first.toNat) := by
  have below : first.toUInt32 ≤ 32 := by
    simp [UInt32.le_iff_toNat_le]
    omega
  rw [UInt32.toNat_mul, UInt32.toNat_sub_of_le _ _ below]
  simp
  omega

theorem decode_outcome (instruction : Instruction) (listed : instruction ∈ loadsAndStores)
    (encodes : instruction.Encodes opcode) : Outcome opcode readGpr readMemory instruction
      (if instruction.encoding = .immediate 46 then 4
        else instruction.size opcode)
      (decodeCurrentMemoryAccess opcode readGpr readMemory pc) := by
  obtain ⟨info, entry, describes⟩ := described instruction listed
  obtain ⟨load, several⟩ := multiple_facts instruction listed
  obtain ⟨-, -, bytes, -, -, -, multiple⟩ := id describes
  unfold decodeCurrentMemoryAccess
  rw [primary_toNat]
  cases form : instruction.encoding with
  | immediate primary =>
    simp only [Instruction.Encodes, form] at encodes
    simp only [form, Encoding.info, Option.mem_def] at entry
    have other (n : Nat) (absent : dFormAccessInfo n = none) :
        primary ≠ n := by
      rintro rfl
      simp [absent] at entry
    rw [encodes, if_neg (other 18 rfl), if_neg (other 16 rfl), if_neg (other 19 rfl), entry]
    convert decodeDForm_outcome pc describes primary form using 1
    rw [form] at load several
    rw [multiple]
    split
    · rename_i first
      obtain ⟨loads, read⟩ := load.mp first
      simp [read, bytes, (several loads).1]
    · rename_i other
      unfold Instruction.size
      cases loads : instruction.multiple with
      | false => exact bytes.symm
      | true =>
        obtain ⟨four, alternatives⟩ := several loads
        obtain ⟨-, write⟩ := alternatives.resolve_left other
        rw [four, if_pos rfl, if_pos (by simp [write])]
        exact (multiple_size _ (register_lt opcode 21)).symm
  | indexed extended =>
    simp only [Instruction.Encodes, form] at encodes
    simp only [form, Encoding.info, Option.mem_def] at entry
    rw [encodes.1, ppcXo_toNat, encodes.2]
    simp only [entry]
    have single : instruction.multiple = false := by simpa [form] using several
    have same : instruction.size opcode = info.size.toNat := by
      simp [Instruction.size, single, bytes]
    rw [if_neg nofun, same]
    exact decodeXForm_outcome pc describes extended form

theorem decode_unsupported
    (unlisted : ∀ instruction ∈ loadsAndStores, ¬instruction.Encodes opcode) :
    (decodeCurrentMemoryAccess opcode readGpr readMemory pc).supported = false := by
  unfold decodeCurrentMemoryAccess
  simp only
  split
  · rfl
  split
  · rfl
  split
  · rfl
  split
  · rename_i info entry
    obtain ⟨instruction, listed, form⟩ := listed_of_info (.immediate _) info entry
    refine absurd ?_ (unlisted instruction listed)
    simp only [Instruction.Encodes, form, primary_toNat]
  split
  · rename_i extended
    split
    · rfl
    · rename_i info entry
      obtain ⟨instruction, listed, form⟩ := listed_of_info (.indexed _) info entry
      refine absurd ?_ (unlisted instruction listed)
      rw [primary_toNat] at extended
      simpa only [Instruction.Encodes, form, ppcXo_toNat, and_true] using extended
  · rfl

theorem load_multiple_size (instruction : Instruction) (listed : instruction ∈ loadsAndStores)
    (encodes : instruction.Encodes opcode) (load : opcode.toNat / 2 ^ 26 = 46) :
    instruction.encoding = .immediate 46 ∧
      instruction.size opcode = 4 * (32 - (register opcode 21).toNat) := by
  have form : instruction.encoding = .immediate 46 := by
    unfold Instruction.Encodes at encodes
    split at encodes <;> simp_all
  obtain ⟨loads, several⟩ := multiple_facts instruction listed
  have multiple := (loads.mp form).1
  rw [Instruction.size, if_pos multiple, (several multiple).1]
  exact ⟨form, rfl⟩

end Decoding

/-- The report agrees with the architecture unless the instruction loads several
registers: its footprint is reported as one word. -/
theorem decodes_exactly_iff (pc opcode : UInt32) (readGpr : GprRead) (readMemory : MemoryRead) :
    DecodesExactly opcode readGpr readMemory
        (decodeCurrentMemoryAccess opcode readGpr readMemory pc) ↔
      ¬LoadsMultiple opcode readGpr := by
  have outcome := decode_outcome opcode readGpr readMemory pc
  constructor
  · rintro ⟨agrees, -⟩ ⟨load, below, base⟩
    let lmw : Instruction :=
      { mnemonic := "lmw", encoding := .immediate 46, access := .read
        bytes := 4, multiple := true }
    obtain ⟨-, reg, needed, missing⟩ | ⟨-, supported, four⟩ := outcome lmw List.mem_cons_self load
    · obtain ⟨nonzero, rfl⟩ | source | index := needed
      · simp_all
      · simp [lmw] at source
      · exact index
    · obtain ⟨other, listed, encodes, report⟩ := agrees supported
      have sized := four.size.symm.trans report.size
      rw [(load_multiple_size opcode other listed encodes load).2, if_pos rfl] at sized
      omega
  · refine fun single => ⟨fun supported => ?_, ?_⟩
    · by_cases listed : ∃ instruction ∈ loadsAndStores,
          instruction.Encodes opcode
      · obtain ⟨instruction, listed, encodes⟩ := listed
        obtain ⟨unsupported, -⟩ | ⟨readable, -, report⟩ := outcome instruction listed encodes
        · simp [unsupported] at supported
        refine ⟨instruction, listed, encodes, ?_⟩
        split at report
        · rename_i load
          have primary : opcode.toNat / 2 ^ 26 = 46 := by
            simpa [Instruction.Encodes, load] using encodes
          have last : ¬(register opcode 21).toNat < 31 := by
            refine fun below => single ⟨primary, below, ?_⟩
            by_cases zero : register opcode 16 = 0
            · exact .inl zero
            · exact .inr (Option.isSome_iff_ne_none.mpr (readable _ (.inl ⟨zero, rfl⟩)))
          have bound := register_lt opcode 21
          rw [(load_multiple_size opcode instruction listed encodes primary).2]
          convert report using 1
          omega
        · exact report
      · push Not at listed
        simp [decode_unsupported opcode readGpr readMemory pc listed] at supported
    · rintro instruction listed encodes ⟨reg, needed, missing⟩
      obtain ⟨unsupported, -⟩ | ⟨readable, -⟩ := outcome instruction listed encodes
      · exact unsupported
      · exact absurd missing (readable reg needed)

/-- `lmw r30, 0(0)` loads eight bytes, and four are reported. -/
theorem load_multiple_is_not_exact : ¬DecodesExactly 0xbbc00000 (fun _ => some 0) (fun _ _ => none)
      (decodeCurrentMemoryAccess 0xbbc00000 (fun _ => some 0) (fun _ _ => none) 0) := by
  rintro ⟨agrees, -⟩
  obtain ⟨instruction, listed, encodes, report⟩ := agrees (by decide)
  have sized := load_multiple_size _ instruction listed encodes (by decide)
  exact absurd (report.size.trans sized.2) (by decide)

end Savor.Ppc

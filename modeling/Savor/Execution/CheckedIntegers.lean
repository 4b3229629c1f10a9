import Savor.Execution.Resumption

/-!
# Checked integers on the machine

Every checked operation once more, with each intermediate result computed in
its own type.  None of them overflows, and what is left is the exact result if
the type has it.
-/

namespace Savor.Program

namespace IntegerFormat

variable (format : IntegerFormat) {value : Int}

/-- The value is one of the type. -/
def Holds (value : Int) : Prop := format.lowest ≤ value ∧ value ≤ format.highest

instance : DecidablePred format.Holds := fun _ => inferInstanceAs (Decidable (_ ∧ _))

/-- The value, if the type has it. -/
def represent (value : Int) : Option Int := if format.Holds value then some value else none

/-- The type that is computed in: smaller operands become `int`. -/
def promoted : IntegerFormat := if format.width < 32 then ⟨true, 32⟩ else format

/-- `make_unsigned_t`. -/
def unsigned : IntegerFormat := ⟨false, format.width⟩

/-- A result of the computation, cast back to the type. -/
def compute (value : Int) : Option Int := (format.promoted.represent value).bind format.represent

/-- The magnitude of a value, where the negation wraps around by definition. -/
def magnitude (value : Int) : Nat :=
  let bits := value % 2 ^ format.width
  (if value < 0 then (0 - bits) % 2 ^ format.width else bits).toNat

/-- The bounds of the integer types of programs. -/
structure Standard : Prop where
  positive : 0 < format.highest
  lowest : format.lowest = if format.signed then -(format.highest + 1) else 0
  modulus : format.signed = true → (2 : Int) ^ format.width = 2 * (format.highest + 1)
  largest : format.signed = true → format.unsigned.highest = 2 * format.highest + 1
  promotes : ∀ value, format.Holds value → format.promoted.Holds value

variable {format}

theorem standard_of_integerFormat {type : BuiltinType}
    (known : type.integerFormat = some format) : format.Standard := by
  cases type <;> simp only [BuiltinType.integerFormat, Option.some.injEq, reduceCtorEq] at known
  all_goals
    subst known
    refine ⟨by decide, by decide, by decide, by decide, ?_⟩
    rintro value ⟨least, most⟩
    exact ⟨le_trans (by decide) least, le_trans most (by decide)⟩

theorem represent_of_holds (holds : format.Holds value) :
    format.represent value = some value := if_pos holds

theorem compute_of_holds (standard : format.Standard)
    (holds : format.Holds value) : format.compute value = some value := by
  rw [compute, represent_of_holds (standard.promotes value holds),
    Option.bind_some, represent_of_holds holds]

end IntegerFormat

/-- A check that may itself overflow, and the result if it passes. -/
def guarded (exceeds : Option Bool) (result : Option Int) : Option (Option Int) :=
  exceeds.bind fun exceeds => if exceeds then some none else result.map some

section Machine

variable (format : IntegerFormat) (left right : Int)

/-- `CheckedAdd`. -/
def machineAdd : Option (Option Int) :=
  let room := format.promoted.represent
  guarded
    (if format.signed then
      if right > 0 then (room (format.highest - right)).map (left > ·)
      else if right < 0 then (room (format.lowest - right)).map (left < ·)
      else some false
    else (room (format.highest - right)).map (left > ·))
    (format.compute (left + right))

/-- `CheckedSubtract`. -/
def machineSubtract : Option (Option Int) :=
  let room := format.promoted.represent
  guarded
    (if format.signed then
      if right < 0 then (room (format.highest + right)).map (left > ·)
      else if right > 0 then (room (format.lowest + right)).map (left < ·)
      else some false
    else some (left < right))
    (format.compute (left - right))

/-- `CheckedMultiply`. -/
def machineMultiply : Option (Option Int) :=
  if format.signed then do
    let negative : Bool := decide (left < 0) != decide (right < 0)
    let lhs := format.magnitude left
    let rhs := format.magnitude right
    let negativeLimit ← format.unsigned.represent (format.highest + 1)
    let limit := if negative then negativeLimit.toNat else format.highest.toNat
    guarded (some (lhs ≠ 0 ∧ rhs > limit / lhs))
      ((format.unsigned.represent (lhs * rhs : Nat)).bind fun product =>
        if !negative then format.represent product
        else if product = negativeLimit then some format.lowest
        else (format.represent product).bind fun product => format.represent (-product))
  else
    guarded (some (left ≠ 0 ∧ right > format.highest / left)) (format.compute (left * right))

/-- `CheckedDivide`. -/
def machineDivide : Option (Option Int) :=
  guarded
    (some (right = 0 ∨ format.signed ∧ left = format.lowest ∧ right = -1))
    (format.compute (left.tdiv right))

/-- `CheckedRemainder`: a remainder is undefined where its quotient is. -/
def machineRemainder : Option (Option Int) :=
  if right ≠ 0 ∧ format.signed ∧ left = format.lowest ∧ right = -1 then
    some (some 0)
  else
    guarded (some (right = 0))
      ((format.compute (left.tdiv right)).bind fun _ =>
        format.compute (left.tmod right))

/-- `CheckedNegate`. -/
def machineNegate (value : Int) : Option (Option Int) :=
  if format.signed then
    guarded (some (value = format.lowest)) (format.compute (-value))
  else guarded (some (value ≠ 0)) (some 0)

end Machine

namespace IntegerFormat

variable {format : IntegerFormat} {left right value : Int}

/-- Both computations give the exact result where the type has it. -/
def Agree (format : IntegerFormat) (machine : Option (Option Int))
    (checked exact : Option Int) : Prop :=
  machine = some (exact.bind format.represent) ∧ checked = exact.bind format.represent

theorem guarded_eq {exceeds : Prop} [Decidable exceeds]
    {result checked : Option Int} (fails : exceeds ↔ ¬ format.Holds value)
    (computes : format.Holds value → result = some value)
    (checks : format.Holds value → checked = some value) :
    format.Agree (guarded (some exceeds) result)
      (if exceeds then none else checked) (some value) := by
  unfold guarded Agree
  rw [Option.bind_some, Option.bind_some, represent]
  by_cases holds : format.Holds value
  · simp [fails, holds, computes holds, checks holds]
  · simp [fails, holds]

theorem product_sign (left right : Int) :
    left * right = if decide (left < 0) != decide (right < 0) then
      -((left.natAbs * right.natAbs : Nat) : Int)
    else (left.natAbs * right.natAbs : Nat) := by
  rcases lt_or_ge left 0 with below | above <;>
    rcases lt_or_ge right 0 with below' | above' <;>
    simp [abs_of_neg, abs_of_nonneg, not_lt.mpr, *]

/-- The division of the limit decides whether a product exceeds it. -/
theorem exceeds_iff (lhs rhs limit : Nat) : (lhs ≠ 0 ∧ rhs > limit / lhs) ↔ limit < lhs * rhs := by
  by_cases zero : lhs = 0
  · simp [zero]
  rw [gt_iff_lt, Nat.div_lt_iff_lt_mul (Nat.pos_of_ne_zero zero), Nat.mul_comm rhs]
  simp [zero]

section

variable (standard : format.Standard) (lhs : format.Holds left)
include standard lhs

/-- The sum of a value and a change, which may be the negation of a value. -/
theorem machineAdd_eq {change : Int} (least : format.lowest ≤ change)
    (most : change ≤ format.highest ∨ change ≤ -format.lowest) :
    format.Agree (machineAdd format left change)
      (checkedAdd format left change) (some (left + change)) := by
  obtain ⟨leftLow, leftHigh⟩ := lhs
  have positive := standard.positive
  have lowest := standard.lowest
  have room : ∀ {bound}, format.Holds bound →
      format.promoted.represent bound = some bound := fun holds =>
    represent_of_holds (standard.promotes _ holds)
  unfold machineAdd checkedAdd
  cases sign : format.signed with
  | false =>
    simp only [sign, Bool.false_eq_true, if_false] at lowest ⊢
    have fails : left > format.highest - change ↔ ¬ format.Holds (left + change) := by
      unfold Holds
      omega
    rw [room ⟨by omega, by omega⟩]
    exact guarded_eq fails (compute_of_holds standard) fun _ => rfl
  | true =>
    simp only [sign, if_true] at lowest ⊢
    have fails : (change > 0 ∧ left > format.highest - change) ∨
        (change < 0 ∧ left < format.lowest - change) ↔ ¬ format.Holds (left + change) := by
      unfold Holds
      omega
    have checked := guarded_eq fails (compute_of_holds standard) fun _ => rfl
    refine ⟨?_, checked.2⟩
    rw [← checked.1]
    rcases lt_trichotomy change 0 with below | rfl | above
    · simp [below, below.not_gt, room (⟨by omega, by omega⟩ :
        format.Holds (format.lowest - change))]
    · simp
    · simp [above, above.not_gt, room (⟨by omega, by omega⟩ :
        format.Holds (format.highest - change))]

variable (rhs : format.Holds right)
include rhs

theorem machineSubtract_eq : format.Agree (machineSubtract format left right)
      (checkedSubtract format left right) (some (left - right)) := by
  obtain ⟨rightLow, rightHigh⟩ := rhs
  have lowest := standard.lowest
  cases sign : format.signed with
  | false =>
    obtain ⟨leftLow, leftHigh⟩ := lhs
    simp only [sign, Bool.false_eq_true, if_false] at lowest
    have fails : left < right ↔ ¬ format.Holds (left - right) := by
      unfold Holds
      omega
    simpa [machineSubtract, checkedSubtract, sign] using
      guarded_eq fails (compute_of_holds standard) fun _ => rfl
  | true =>
    simp only [sign, if_true] at lowest
    have negated := machineAdd_eq standard lhs (by omega : format.lowest ≤ -right) (.inr (by omega))
    simpa [machineAdd, checkedAdd, machineSubtract, checkedSubtract, sign,
      ← sub_eq_add_neg] using negated

omit rhs in
theorem machineNegate_eq : format.Agree (machineNegate format left) (checkedNegate format left)
      (some (-left)) := by
  obtain ⟨least, most⟩ := lhs
  have lowest := standard.lowest
  unfold machineNegate checkedNegate
  cases sign : format.signed with
  | false =>
    simp only [sign, Bool.false_eq_true, if_false] at lowest ⊢
    have fails : left ≠ 0 ↔ ¬ format.Holds (-left) := by
      unfold Holds
      omega
    have zero : format.Holds (-left) → some 0 = some (-left) := by
      intro holds
      rw [not_not.mp (mt fails.mp (not_not.mpr holds)), neg_zero]
    exact guarded_eq fails zero zero
  | true =>
    simp only [sign, if_true] at lowest ⊢
    have fails : left = format.lowest ↔ ¬ format.Holds (-left) := by
      unfold Holds
      omega
    exact guarded_eq fails (compute_of_holds standard) fun _ => rfl

/-- Only the quotient of the lowest value by minus one is missing. -/
theorem quotient_iff (apart : right ≠ 0) : (format.signed ∧ left = format.lowest ∧ right = -1) ↔
      ¬ format.Holds (left.tdiv right) := by
  obtain ⟨leftLow, leftHigh⟩ := lhs
  obtain ⟨rightLow, rightHigh⟩ := rhs
  have lowest := standard.lowest
  have positive := standard.positive
  unfold Holds
  by_cases opposite : right = -1
  · subst opposite
    rw [Int.tdiv_neg, Int.tdiv_one]
    cases sign : format.signed <;> simp [sign] at lowest ⊢ <;> omega
  by_cases one : right = 1
  · subst one
    rw [Int.tdiv_one]
    omega
  have smaller : left.natAbs / right.natAbs ≤ left.natAbs / 2 :=
    Nat.div_le_div_left (by omega) (by decide)
  have size : (left.tdiv right).natAbs = left.natAbs / right.natAbs := Int.natAbs_tdiv left right
  have nonneg : 0 ≤ left → 0 ≤ right → 0 ≤ left.tdiv right := Int.tdiv_nonneg
  cases sign : format.signed <;> simp [sign] at lowest ⊢ <;> omega

theorem machineDivide_eq : format.Agree (machineDivide format left right)
      (checkedDivide format left right)
      (if right = 0 then none else some (left.tdiv right)) := by
  unfold machineDivide checkedDivide
  by_cases zero : right = 0
  · simp [zero, guarded, Agree]
  simp only [zero, false_or, if_false]
  exact guarded_eq (quotient_iff standard lhs rhs zero) (compute_of_holds standard) fun _ => rfl

theorem machineRemainder_eq : format.Agree (machineRemainder format left right)
      (checkedRemainder format left right)
      (if right = 0 then none else some (left.tmod right)) := by
  unfold machineRemainder checkedRemainder Agree
  by_cases zero : right = 0
  · simp [zero, guarded]
  have quotient := quotient_iff standard lhs rhs zero
  have holds : format.Holds (left.tmod right) := by
    obtain ⟨leftLow, leftHigh⟩ := lhs
    obtain ⟨rightLow, rightHigh⟩ := rhs
    have lowest := standard.lowest
    have size := Int.natAbs_tmod left right
    have below := Nat.mod_lt left.natAbs (by omega : 0 < right.natAbs)
    have least := Nat.mod_le left.natAbs right.natAbs
    have nonneg : 0 ≤ left → 0 ≤ left.tmod right := Int.tmod_nonneg right
    unfold Holds
    cases sign : format.signed <;> simp [sign] at lowest <;> omega
  simp only [zero, if_false, Option.bind_some, represent_of_holds holds]
  by_cases lowestByOne : format.signed ∧ left = format.lowest ∧ right = -1
  · simp [lowestByOne]
  have computes := compute_of_holds standard (not_not.mp (mt quotient.mpr lowestByOne))
  simp [lowestByOne, guarded, computes, compute_of_holds standard holds]

omit rhs in
theorem magnitude_eq (sign : format.signed = true) : format.magnitude left = left.natAbs := by
  obtain ⟨least, most⟩ := lhs
  have positive := standard.positive
  have lowest := standard.lowest
  simp only [sign, if_true] at lowest
  unfold magnitude
  dsimp only
  rw [standard.modulus sign]
  split
  · rw [Int.sub_emod, Int.emod_emod, ← Int.sub_emod, Int.emod_eq_of_lt (by omega) (by omega)]
    omega
  · rw [Int.emod_eq_of_lt (by omega) (by omega)]
    omega

theorem machineMultiply_eq : format.Agree (machineMultiply format left right)
      (checkedMultiply format left right) (some (left * right)) := by
  have positive := standard.positive
  have lowest := standard.lowest
  unfold machineMultiply checkedMultiply
  cases sign : format.signed with
  | false =>
    obtain ⟨leftLow, leftHigh⟩ := lhs
    obtain ⟨rightLow, rightHigh⟩ := rhs
    simp only [sign, Bool.false_eq_true, if_false] at lowest ⊢
    have fails : (left ≠ 0 ∧ right > format.highest / left) ↔ ¬ format.Holds (left * right) := by
      unfold Holds
      by_cases zero : left = 0
      · subst zero
        simp only [zero_mul]
        omega
      have nonneg := mul_nonneg (by omega : 0 ≤ left) (by omega : 0 ≤ right)
      rw [gt_iff_lt, Int.ediv_lt_iff_lt_mul (by omega), mul_comm right]
      omega
    exact guarded_eq fails (compute_of_holds standard) fun _ => rfl
  | true =>
    have largest := standard.largest sign
    have unsignedLowest : format.unsigned.lowest = 0 := rfl
    have limit : format.unsigned.represent (format.highest + 1) = some (format.highest + 1) :=
      represent_of_holds ⟨by omega, by omega⟩
    rw [product_sign left right]
    simp only [sign, if_true, magnitude_eq standard lhs sign,
      magnitude_eq standard rhs sign, limit, Option.bind_eq_bind, Option.bind_some] at lowest ⊢
    obtain ⟨most, top⟩ := Int.eq_ofNat_of_zero_le positive.le
    simp only [top, Int.toNat_natCast, Int.toNat_natCast_add_one] at lowest largest ⊢
    generalize (decide (left < 0) != decide (right < 0)) = negative
    generalize left.natAbs = lhs
    generalize right.natAbs = rhs
    have fails : (lhs ≠ 0 ∧ rhs > (if negative then most + 1 else most) / lhs)
        ↔ ¬ format.Holds (if negative then -((lhs * rhs : Nat) : Int)
          else (lhs * rhs : Nat)) := by
      rw [exceeds_iff]
      generalize lhs * rhs = product
      unfold Holds
      cases negative <;> simp <;> omega
    generalize lhs * rhs = product at fails ⊢
    refine guarded_eq fails (fun holds => ?_) fun _ => ?_
    · have bounds := holds
      unfold Holds at bounds
      have whole : format.unsigned.Holds product := by
        unfold Holds
        cases negative <;> simp at bounds <;> omega
      rw [represent_of_holds whole, Option.bind_some]
      cases negative with
      | false => exact represent_of_holds holds
      | true =>
        rcases eq_or_ne product (most + 1) with rfl | other
        · simp [lowest]
        have kept : format.Holds product := by
          unfold Holds
          simp at bounds
          omega
        have below : (product : Int) ≠ most + 1 := by omega
        simpa [below, represent_of_holds kept] using represent_of_holds holds
    · cases negative with
      | false => rfl
      | true =>
        simp
        omega

end

end IntegerFormat

open IntegerFormat

/-! ## The instructions -/

/-- The result on the integers, where nothing is divided by zero. -/
def exactInteger (opcode : InstructionOpcode) (left right : Int) : Option Int :=
  match opcode with
  | .addChecked => some (left + right)
  | .subtractChecked => some (left - right)
  | .multiplyChecked => some (left * right)
  | .divideChecked => if right = 0 then none else some (left.tdiv right)
  | .remainderChecked => if right = 0 then none else some (left.tmod right)
  | _ => none

/-- The operation that an opcode selects, on the machine. -/
def machineInteger (opcode : InstructionOpcode) (format : IntegerFormat)
    (left right : Int) : Option (Option Int) :=
  match opcode with
  | .addChecked => machineAdd format left right
  | .subtractChecked => machineSubtract format left right
  | .multiplyChecked => machineMultiply format left right
  | .divideChecked => machineDivide format left right
  | .remainderChecked => machineRemainder format left right
  | _ => some none

theorem machineInteger_eq {format : IntegerFormat} {left right : Int}
    (standard : format.Standard) (lhs : format.Holds left)
    (rhs : format.Holds right) (opcode : InstructionOpcode) :
    format.Agree (machineInteger opcode format left right)
      (checkedInteger opcode format left right)
      (exactInteger opcode left right) := by
  cases opcode with
  | addChecked => exact machineAdd_eq standard lhs rhs.1 (.inl rhs.2)
  | subtractChecked => exact machineSubtract_eq standard lhs rhs
  | multiplyChecked => exact machineMultiply_eq standard lhs rhs
  | divideChecked => exact machineDivide_eq standard lhs rhs
  | remainderChecked => exact machineRemainder_eq standard lhs rhs
  | _ => exact ⟨rfl, rfl⟩

/-- The graph that spells an integer in its type. -/
def integerGraph (type : TypeRef) (value : Int) : Option ProgramValueGraph :=
  (type.builtin.integerPayload value).bind fun payload => some (scalarGraph type payload)

/-- The operand is an integer of exactly this type. -/
def Takes (executor : Executor) (instruction : Instruction)
    (type : BuiltinType) (index : Nat) (value : Int) : Prop :=
  ∃ graph, executor.operand instruction index = some graph ∧ rootInteger type graph = some value

/-- The evaluation succeeds exactly if there is a result and the type has it,
and then with its graph. -/
def Exactly (type : TypeRef) (format : IntegerFormat) (exact : Option Int)
    (evaluated : Option (Except ByteString ProgramValueGraph)) : Prop :=
  evaluated.map Except.toOption = some ((exact.bind format.represent).bind (integerGraph type))

/-- The checked arithmetic of an integer type, for all executors.  A conversion
between integer types compares and casts, and computes nothing else. -/
structure IntegerSemantics (floats : FloatUnit) (type : TypeRef)
    (format : IntegerFormat) : Prop where
  held : ∀ graph value, rootInteger type.builtin graph = some value → format.Holds value
  spelled : ∀ value, format.Holds value → ∃ graph,
    integerGraph type value = some graph ∧ rootInteger type.builtin graph = some value
  binary : ∀ executor instruction reducers left right,
    instruction.opcode ∈ [.addChecked, .subtractChecked, .multiplyChecked,
      .divideChecked, .remainderChecked] →
    Takes executor instruction type.builtin 0 left →
    Takes executor instruction type.builtin 1 right →
    instruction.result.map (·.type) = some type →
      machineInteger instruction.opcode format left right =
          some (checkedInteger instruction.opcode format left right) ∧
        Exactly type format (exactInteger instruction.opcode left right)
          (executor.evaluate floats instruction reducers)
  negation : ∀ executor instruction reducers value,
    instruction.opcode = .negateChecked →
    Takes executor instruction type.builtin 0 value →
    instruction.result.map (·.type) = some type →
      machineNegate format value = some (checkedNegate format value) ∧
        Exactly type format (some (-value)) (executor.evaluate floats instruction reducers)
  conversion : ∀ executor instruction reducers source value,
    instruction.opcode = .checkedConvert →
    Takes executor instruction source 0 value →
    instruction.result.map (·.type) = some type →
      Exactly type format (some value) (executor.evaluate floats instruction reducers)

section Graphs

variable {type : BuiltinType} {format : IntegerFormat} {value : Int}
  {payload : ProgramValuePayload}

theorem holds_of_readInteger (known : type.integerFormat = some format)
    (read : type.readInteger payload = some value) : format.Holds value := by
  cases type <;> simp only [BuiltinType.integerFormat, Option.some.injEq, reduceCtorEq] at known
  all_goals
    subst known
    cases payload <;> simp only [BuiltinType.readInteger, Option.some.injEq, reduceCtorEq] at read
    rename_i number
    subst read
    simp only [IntegerFormat.Holds, IntegerFormat.lowest, IntegerFormat.highest]
  iterate 4
    have below := number.toNat_lt
    grind
  all_goals
    have least := number.le_toInt
    have below := number.toInt_lt
    grind

theorem readInteger_integerPayload (known : type.integerFormat = some format)
    (holds : format.Holds value) : ∃ payload,
      type.integerPayload value = some payload ∧ type.readInteger payload = some value := by
  obtain ⟨least, most⟩ := holds
  cases type <;> simp only [BuiltinType.integerFormat, Option.some.injEq, reduceCtorEq] at known
  all_goals
    subst known
    refine ⟨_, rfl, congrArg some ?_⟩
    simp only [IntegerFormat.lowest, IntegerFormat.highest] at least most
  iterate 4
    simp [UInt8.ofInt, UInt16.ofInt, UInt32.ofInt, UInt64.ofInt]
    grind
  · exact Int32.toInt_ofInt_of_le least (by grind)
  · exact Int64.toInt_ofInt_of_le least (by grind)

theorem cast_of_holds (known : type.integerFormat = some format) (holds : format.Holds value) :
    format.cast value = value := by
  obtain ⟨least, most⟩ := holds
  cases type <;> simp only [BuiltinType.integerFormat, Option.some.injEq, reduceCtorEq] at known
  all_goals
    subst known
    simp only [IntegerFormat.cast, IntegerFormat.lowest, IntegerFormat.highest] at least most ⊢
    norm_num at least most ⊢
    first | (rw [Int.emod_eq_of_lt]; all_goals omega) | (rw [Int.bmod_eq_of_le]; all_goals omega)

/-- The bounds of the type as 64-bit integers. -/
theorem bounds_of_integerFormat (known : type.integerFormat = some format) :
    (UInt64.ofInt format.highest).toNat = format.highest ∧
      (Int64.ofInt format.lowest).toInt = format.lowest ∧
      (format.signed = true → (Int64.ofInt format.highest).toInt = format.highest) ∧
      (format.lowest < 0 ↔ format.signed = true) ∧ format.lowest ≤ 0 := by
  cases type <;> simp only [BuiltinType.integerFormat, Option.some.injEq, reduceCtorEq] at known
  all_goals
    subst known
    decide +kernel

/-- A check of the bounds, followed by a cast. -/
theorem cast_eq_represent (known : type.integerFormat = some format) {exceeds : Prop} [Decidable exceeds]
    (fails : exceeds ↔ ¬format.Holds value) :
    (if exceeds then none else some (format.cast value)) = format.represent value := by
  unfold represent
  by_cases holds : format.Holds value
  · rw [if_neg (fails.not.mpr (not_not.mpr holds)), if_pos holds, cast_of_holds known holds]
  · rw [if_pos (fails.mpr holds), if_neg holds]

/-- The comparisons on 64-bit integers find exactly the values that the type
has, and the casts lose nothing. -/
theorem exactIntegerConversion_eq (known : type.integerFormat = some format) {floats : FloatUnit} (number : Number floats)
    (whole : number.isFloating = false) :
    exactIntegerConversion floats format number = format.represent number.integer := by
  obtain ⟨top, bottom, signedTop, negatives, least⟩ := bounds_of_integerFormat known
  have exceeds : ∀ value : UInt64, value > UInt64.ofInt format.highest ↔
      ¬format.Holds value.toNat := by
    intro value
    rw [gt_iff_lt, UInt64.lt_iff_toNat_lt]
    unfold Holds
    omega
  cases number with
  | floating _ => cases whole
  | unsigned value => exact cast_eq_represent known (exceeds value)
  | signed value =>
    unfold exactIntegerConversion
    dsimp only [Number.integer]
    cases sign : format.signed with
    | true =>
      refine (if_pos rfl).trans (cast_eq_represent known ?_)
      rw [gt_iff_lt, Int64.lt_iff_toInt_lt, Int64.lt_iff_toInt_lt, bottom, signedTop sign]
      unfold Holds
      omega
    | false =>
      rw [if_neg (by decide)]
      by_cases negative : value < 0
      · have below := Int64.lt_iff_toInt_lt.mp negative
        have natural := negatives.not.mpr (by simp [sign])
        rw [if_pos negative, represent, if_neg]
        exact fun holds => natural (holds.1.trans_lt below)
      · have nonneg := Int64.not_lt.mp negative
        have same : (value.toUInt64.toNat : Int) = value.toInt := by
          rw [Int64.toNat_toUInt64_of_le nonneg]
          exact Int.toNat_of_nonneg (Int64.le_iff_toInt_le.mp nonneg)
        rw [if_neg negative, ← same]
        exact cast_eq_represent known (exceeds value.toUInt64)

theorem toNumber_of_rootInteger (floats : FloatUnit)
    {graph : ProgramValueGraph} (rooted : rootInteger type graph = some value) :
    ∃ number, toNumber floats graph = some number ∧
      number.isFloating = false ∧ number.integer = value := by
  obtain ⟨root, found, read⟩ := Option.bind_eq_some_iff.mp rooted
  unfold toNumber
  rw [found]
  cases type <;> cases payload : root.payload <;> rw [payload] at read <;>
    simp only [BuiltinType.readInteger, Option.some.injEq, reduceCtorEq] at read
  all_goals
    subst read
    simp [payload, Number.isFloating, Number.integer]

end Graphs

@[simp] theorem require_some {α : Type} (part : α) (message : String) :
    Executor.require (some part) message = .ok part := rfl

@[simp] theorem toOption_require {α : Type} (part : Option α)
    (message : String) : (Executor.require part message).toOption = part := by
  cases part <;> rfl

/-- The checked arithmetic of integer types is the arithmetic of the integers,
and no intermediate result overflows. -/
theorem integers_are_exact (floats : FloatUnit) {type : TypeRef} {format : IntegerFormat}
    (known : type.builtin.integerFormat = some format) : IntegerSemantics floats type format := by
  have standard := standard_of_integerFormat known
  have held : ∀ graph value, rootInteger type.builtin graph = some value →
      format.Holds value := by
    intro graph value rooted
    obtain ⟨root, -, read⟩ := Option.bind_eq_some_iff.mp rooted
    exact holds_of_readInteger known read
  refine ⟨held, ?_, ?_, ?_, ?_⟩
  · intro value holds
    obtain ⟨payload, spelled, read⟩ := readInteger_integerPayload known holds
    refine ⟨scalarGraph type payload, by rw [integerGraph, spelled]; rfl, ?_⟩
    exact read
  · rintro executor instruction reducers left right arithmetic
      ⟨lhs, lhsOperand, lhsRoot⟩ ⟨rhs, rhsOperand, rhsRoot⟩ typed
    obtain ⟨result, resulting, rfl⟩ := Option.map_eq_some_iff.mp typed
    obtain ⟨machine, checked⟩ := machineInteger_eq standard
      (held lhs left lhsRoot) (held rhs right rhsRoot) instruction.opcode
    refine ⟨by rw [machine, checked], ?_⟩
    have evaluated : executor.evaluate floats instruction reducers =
        some (executor.evaluateArithmetic floats instruction) := by
      unfold Executor.evaluate
      simp only [List.mem_cons, List.not_mem_nil, or_false] at arithmetic
      rcases arithmetic with opcode | opcode | opcode | opcode | opcode <;> rw [opcode]
    obtain ⟨_, lhsNumber, -⟩ := toNumber_of_rootInteger floats lhsRoot
    obtain ⟨_, rhsNumber, -⟩ := toNumber_of_rootInteger floats rhsRoot
    rw [Exactly, evaluated, ← checked]
    simp [Executor.evaluateArithmetic, checkedIntegerBinaryGraph, lhsOperand,
      rhsOperand, resulting, lhsNumber, rhsNumber, lhsRoot, rhsRoot, known, bind, Except.bind]
    rfl
  · rintro executor instruction reducers value opcode ⟨source, operand, rooted⟩
      typed
    obtain ⟨result, resulting, rfl⟩ := Option.map_eq_some_iff.mp typed
    obtain ⟨machine, checked⟩ := machineNegate_eq standard (held source value rooted)
    refine ⟨by rw [machine, checked], ?_⟩
    obtain ⟨_, number, -⟩ := toNumber_of_rootInteger floats rooted
    rw [Exactly, ← checked]
    simp [Executor.evaluate, Executor.evaluateNegation,
      checkedIntegerNegationGraph, opcode, operand, resulting, number, rooted,
      known, bind, Except.bind]
    rfl
  · rintro executor instruction reducers source value opcode
      ⟨graph, operand, rooted⟩ typed
    obtain ⟨result, resulting, rfl⟩ := Option.map_eq_some_iff.mp typed
    obtain ⟨number, numeric, whole, rfl⟩ := toNumber_of_rootInteger floats rooted
    have converts := exactIntegerConversion_eq known number whole
    simp [Exactly, Executor.evaluate, opcode, operand, resulting, numeric,
      convertNumber, known, converts, Option.map_eq_bind, bind, Except.bind]
    rfl

namespace Sample

/-- The lowest number, minus one, and a small one. -/
def computing : Executor where
  verified := verified
  invocation := invocation 64
  limits := budgets 64
  result :=
    { invocationId := ⟨1⟩
      attemptId := ⟨1⟩
      module := module.identity
      entrypoint := entrypoint.name
      resolvedDependencies := dependencyLock
      provenance := ⟨text "sample", [], []⟩ }
  activity := .runnable
  frames :=
    [{ module := module
       function := function
       block := some block
       values := ((AList.singleton ⟨1⟩ (scalarGraph (.ofBuiltin .i64) (.i64 Int64.minValue))).insert
        ⟨2⟩ (scalarGraph (.ofBuiltin .i64) (.i64 (-1)))).insert
          ⟨3⟩ (scalarGraph (.ofBuiltin .u8) (.u8 200)) }]
  scopes := []

/-- An instruction on some of them. -/
def compute (opcode : InstructionOpcode) (operands : List ProgramValueId)
    (type : BuiltinType) : Instruction where
  id := ⟨4⟩
  opcode := opcode
  sourceLocation := location
  operands := operands
  result := some ⟨⟨4⟩, .ofBuiltin type⟩

/-- The value that the instruction computes, if it does. -/
def computed (opcode : InstructionOpcode) (operands : List ProgramValueId)
    (type : BuiltinType) : Option (Option ProgramValueGraph) :=
  (computing.evaluate .integers (compute opcode operands type) none).map Except.toOption

end Sample

open Sample in
theorem integers_are_exact_i64 :
    computed .divideChecked [⟨1⟩, ⟨2⟩] .i64 = some none ∧
      computed .addChecked [⟨2⟩, ⟨2⟩] .i64 =
        some (some (scalarGraph (.ofBuiltin .i64) (.i64 (-2)))) ∧
      computed .negateChecked [⟨2⟩] .i64 = some (some (scalarGraph (.ofBuiltin .i64) (.i64 1))) ∧
      computed .checkedConvert [⟨3⟩] .i64 =
        some (some (scalarGraph (.ofBuiltin .i64) (.i64 200))) ∧
      computed .checkedConvert [⟨2⟩] .u64 = some none := by
  have exact64 : IntegerSemantics .integers (.ofBuiltin .i64) ⟨true, 64⟩ :=
    integers_are_exact .integers rfl
  have exactU64 : IntegerSemantics .integers (.ofBuiltin .u64) ⟨false, 64⟩ :=
    integers_are_exact .integers rfl
  refine ⟨?_, ?_, ?_, ?_, ?_⟩
  · exact ((exact64.binary computing (compute .divideChecked [⟨1⟩, ⟨2⟩] .i64) none _ (-1)
      (by decide) ⟨_, rfl, rfl⟩ ⟨_, rfl, rfl⟩ rfl).2).trans (by decide +kernel)
  · exact ((exact64.binary computing (compute .addChecked [⟨2⟩, ⟨2⟩] .i64) none _ _
      (by decide) ⟨_, rfl, rfl⟩ ⟨_, rfl, rfl⟩ rfl).2).trans (by decide +kernel)
  · exact ((exact64.negation computing (compute .negateChecked [⟨2⟩] .i64) none _ rfl
      ⟨_, rfl, rfl⟩ rfl).2).trans (by decide +kernel)
  · exact (exact64.conversion computing (compute .checkedConvert [⟨3⟩] .i64) none .u8 _ rfl
      ⟨_, rfl, rfl⟩ rfl).trans (by decide +kernel)
  · exact (exactU64.conversion computing (compute .checkedConvert [⟨2⟩] .u64) none .i64 _ rfl
      ⟨_, rfl, rfl⟩ rfl).trans (by decide +kernel)

end Savor.Program

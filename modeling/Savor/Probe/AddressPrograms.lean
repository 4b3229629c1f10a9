import Mathlib.Data.List.Chain
import Savor.Probe.ProbeSampling

/-!
# Valid address programs

A program is validated when its profile is read and interpreted when its probe
is hit.  The validator knows the sizes of the operands and nothing of the guest.
-/

namespace Savor.Probe

open Program (ByteString text)

def addressProgramOperationName (operation : UInt8) : ByteString :=
  match operation with
  | 0x00 => text "end"
  | 0x01 => text "base_key"
  | 0x02 => text "load_ptr32"
  | 0x03 => text "add_i32"
  | 0x04 => text "index_const"
  | 0x05 => text "add_u32"
  | 0x06 => text "base_gpr"
  | 0x07 => text "base_absolute"
  | 0x08 => text "index_gpr"
  | _ => text "unknown"

structure AddressProgramValidation where
  valid : Bool := false
  (operationCount failureOffset : Nat := 0)
  failure : AddressProgramFailure := .none
  message : ByteString := []

/-- How many bytes an operation takes that does not end the program. -/
def operandBytes (operation : UInt8) : Option Nat :=
  match operation with
  | 0x01 => some 2
  | 0x02 => some 0
  | 0x03 | 0x04 | 0x05 | 0x07 => some 4
  | 0x06 => some 1
  | 0x08 => some 5
  | _ => none

/-- The checks of an operation that does not end the program: what is wrong with
it, or the size of its operand. -/
def checkOperation (operation : UInt8) (bytes : ByteString) :
    Except (AddressProgramFailure × ByteString) Nat :=
  match operandBytes operation with
  | none =>
    .error (.unknownOperation, text "unknown operation 0x" ++
      text (String.ofList (Nat.toDigits 16 operation.toNat)))
  | some size =>
    if bytes.length < size then
      .error (.truncatedOperand, text "operation '" ++ addressProgramOperationName operation ++
          text "' has a truncated operand")
    else if (operation = 0x06 ∨ operation = 0x08) ∧ 32 ≤ bytes.headD 0 then
      .error (.invalidRegister, text "operation uses an invalid GPR")
    else .ok size

/-- The loop of `validate_address_program`, at an offset and after a number of
operations. -/
def validateOperations : Nat → ByteString → Nat → Nat → AddressProgramValidation
  | 0, _, failureOffset, operationCount
  | _ + 1, [], failureOffset, operationCount =>
    { operationCount, failureOffset, failure := .missingTerminator
      message := text "address program has no terminating operation" }
  | fuel + 1, operation :: bytes, offset, count =>
    if count = 64 then
      { operationCount := count, failureOffset := offset
        failure := .operationLimit
        message := text "address program exceeds 64 operations" }
    else if operation = 0x00 then
      if bytes.isEmpty then { valid := true, operationCount := count + 1 }
      else
        { operationCount := count + 1, failureOffset := offset + 1
          failure := .trailingBytes
          message := text "bytes follow the terminating operation" }
    else
      match checkOperation operation bytes with
      | .error (failure, message) =>
        { operationCount := count + 1, failureOffset := offset
          failure, message }
      | .ok size => validateOperations fuel (bytes.drop size) (offset + 1 + size) (count + 1)

def validateAddressProgram (program : ByteString) : AddressProgramValidation :=
  validateOperations (program.length + 1) program 0 0

/-- The loop over the operations without a trace, which has no limit. -/
def runUntraced (guest : Guest) : Nat → ByteString → UInt32 → Option UInt32
  | 0, _, _ | _ + 1, [], _ => none
  | fuel + 1, code :: bytes, address =>
    match operate guest address code bytes with
    | .move next _ rest => runUntraced guest fuel rest next
    | .finish => some address
    | .fail _ => none

/-- `evaluate_address_program`, without a trace. -/
def evaluateUntraced (guest : Guest) (program : ByteString) : Option UInt32 :=
  runUntraced guest (program.length + 1) program 0

/-- Every base key resolves and every read succeeds. -/
structure Guest.Answers (guest : Guest) : Prop where
  resolves : ∃ resolve, guest.baseKeyResolver = some resolve ∧ ∀ key, (resolve key).isSome
  reads : ∀ address width, (guest.readGuestValue address width).isSome

/-- The failures that only the guest causes. -/
def guestFailures : List AddressProgramFailure :=
  [.missingBaseResolver, .baseResolutionFailed, .guestReadFailed]

/-- Every step starts where the one before it ended. -/
def Linked (steps : List RawAddressTraceStep) : Prop :=
  steps.IsChain fun before after => after.addressBefore = before.addressAfter

/-- The steps of a trace lead to its final address.  A step that failed is the
last one and stays there. -/
structure RawAddressTrace.Chained (trace : RawAddressTrace) : Prop where
  linked : Linked trace.operations
  last : ∃ step ∈ trace.operations.getLast?,
    (if trace.success then step.addressAfter else step.addressBefore) = trace.finalAddress

variable {guest : Guest} {address : UInt32} {code : UInt8} {bytes : ByteString}

/-- What an operation does that does not end the program.  One that passes its
checks moves on behind its operand, unless the guest fails it. -/
def Operates (guest : Guest) (bytes : ByteString) (effect : OperationEffect) :
    Except (AddressProgramFailure × ByteString) Nat → Prop
  | .error _ => ∃ failure, effect = .fail failure
  | .ok size =>
    (∃ next value, effect = .move next value (bytes.drop size)) ∨
      ∃ failure ∈ guestFailures, effect = .fail failure ∧ ¬guest.Answers

theorem operate_operates (ends : code ≠ 0x00) :
    Operates guest bytes (operate guest address code bytes) (checkOperation code bytes) := by
  unfold checkOperation operate
  split
  · contradiction
  all_goals simp only [operandBytes, takeNumber, moveByWord]
  · by_cases short : bytes.length < 2
    · simp [short, Operates]
    cases resolver : guest.baseKeyResolver with
    | none =>
      have silent : ¬guest.Answers := fun answers => by simpa [resolver] using answers.resolves
      simp [short, Operates, guestFailures, silent]
    | some resolve =>
      cases base : resolve (UInt16.ofNat (Library.Wire.ofLittleEndian (bytes.take 2))) with
      | none =>
        have silent : ¬guest.Answers := fun answers => by
          obtain ⟨_, found, resolves⟩ := answers.resolves
          rw [resolver, Option.some.injEq] at found
          subst found
          exact absurd (resolves _) (Option.not_isSome_iff_eq_none.mpr base)
        simp [short, base, Operates, guestFailures, silent]
      | some _ => simp [short, base, Operates]
  · cases read : guest.readGuestValue address .u32 with
    | none =>
      have silent : ¬guest.Answers := fun answers => by
        simpa [read] using answers.reads address .u32
      simp [Operates, guestFailures, silent]
    | some _ => simp [Operates]
  · by_cases short : bytes.length < 4 <;> simp [short, Operates]
  · by_cases shorter : bytes.length < 2
    · have short : bytes.length < 4 := by omega
      simp [shorter, short, Operates]
    by_cases short : bytes.length < 4
    · have behind : bytes.length - 2 < 2 := by omega
      simp [shorter, short, behind, Operates]
    · have behind : ¬bytes.length - 2 < 2 := by omega
      simp [shorter, short, behind, Operates]
  · by_cases short : bytes.length < 4 <;> simp [short, Operates]
  · cases bytes with
    | nil => simp [Operates]
    | cons register rest => by_cases invalid : 32 ≤ register <;> simp [invalid, Operates]
  · by_cases short : bytes.length < 4 <;> simp [short, Operates]
  · cases bytes with
    | nil => simp [Operates]
    | cons register rest =>
      have size : rest.length + 1 < 5 ↔ rest.length < 4 := by omega
      by_cases invalid : 32 ≤ register <;>
        by_cases short : rest.length < 4 <;> simp [invalid, short, size, Operates]
  · simp [Operates]

theorem Linked.snoc {steps : List RawAddressTraceStep}
    {step : RawAddressTraceStep} (linked : Linked steps) (starts : ∀ before ∈ steps.getLast?,
      step.addressBefore = before.addressAfter) :
    Linked (steps ++ [step]) := by
  refine linked.append (.singleton step) ?_
  intro before last after first
  cases first
  exact starts before last

/-- The evaluation of a valid program, with and without its trace. -/
structure Agreed (guest : Guest) (untraced : Option UInt32)
    (traced : Option UInt32 × RawAddressTrace) : Prop where
  same : untraced = traced.1
  chained : traced.2.Chained
  fails : traced.1 = none → traced.2.failure ∈ guestFailures ∧ ¬guest.Answers

/-- The interpreter fails on what the validator refuses. -/
theorem run_agrees {fuel offset count : Nat} {steps : List RawAddressTraceStep}
    (counted : steps.length = count) (few : count ≤ maximumTraceOperations) (linked : Linked steps)
    (last : ∀ step ∈ steps.getLast?, address = step.addressAfter) :
    if (validateOperations fuel bytes offset count).valid then
      Agreed guest (runUntraced guest fuel bytes address)
        (runAddressProgram guest fuel bytes address steps)
    else (runAddressProgram guest fuel bytes address steps).1 = none := by
  induction fuel generalizing bytes offset count steps address with
  | zero => rfl
  | succ fuel ih =>
    cases bytes with
    | nil => rfl
    | cons code bytes =>
      unfold validateOperations runUntraced runAddressProgram
      by_cases full : count = 64
      · simp [counted, full, maximumTraceOperations]
      have room : ¬maximumTraceOperations ≤ steps.length :=
        fun more => full (Nat.le_antisymm few (counted ▸ more))
      rw [if_neg full, if_neg room]
      by_cases ends : code = 0x00
      · cases bytes with
        | nil =>
          subst ends
          exact ⟨rfl, ⟨linked.snoc last, by simp [operate]⟩, by rintro ⟨⟩⟩
        | cons _ _ => simp [operate, ends]
      rw [if_neg ends]
      have operates := @operate_operates guest address code bytes ends
      generalize checkOperation code bytes = checked at operates ⊢
      cases checked with
      | error refusal =>
        obtain ⟨failure, fails⟩ := operates
        simp [fails]
      | ok size =>
        rcases operates with ⟨next, value, moves⟩ | ⟨failure, guests, fails, silent⟩
        · rw [moves]
          refine ih ?_ ?_ (linked.snoc last) (by simp)
          · rw [List.length_append, counted]
            rfl
          · exact lt_of_le_of_ne few full
        rw [fails]
        dsimp only
        split
        · refine ⟨rfl, ⟨linked.snoc last, ?_⟩, fun _ => ⟨guests, silent⟩⟩
          simp [failedTrace]
        · rfl

/-- A guest that answers everything with zero. -/
def zeroGuest : Guest where
  gpr _ := 0
  linkRegister := 0
  readGuestValue _ _ := some 0
  baseKeyResolver := some fun _ => some 0

theorem zeroGuest_answers : zeroGuest.Answers := ⟨⟨_, rfl, fun _ => rfl⟩, fun _ _ => rfl⟩

/-- Without a trace any number of operations runs. -/
theorem evaluateUntraced_loads (answers : guest.Answers) (count : Nat) :
    (evaluateUntraced guest (List.replicate count 0x02 ++ [0x00])).isSome := by
  have loads : ∀ address, (runUntraced guest (count + 2)
      (List.replicate count 0x02 ++ [0x00]) address).isSome := by
    induction count with
    | zero => exact fun _ => rfl
    | succ count ih =>
      intro address
      obtain ⟨value, read⟩ := Option.isSome_iff_exists.mp (answers.reads address .u32)
      simpa [runUntraced, List.replicate_succ, operate, read] using ih _
  simpa [evaluateUntraced] using loads 0

/-- A program is valid if and only if its traced evaluation succeeds wherever the
guest answers; only the guest can fail a valid program, the trace changes
nothing, and its steps lead from each to the next. -/
theorem address_programs_agree (program : ByteString) :
    ((validateAddressProgram program).valid = true ↔ ∀ guest : Guest, guest.Answers →
        (evaluateAddressProgram guest program).1.isSome) ∧
    ((validateAddressProgram program).valid = true → ∀ guest : Guest,
      ((evaluateAddressProgram guest program).1 = none →
        (evaluateAddressProgram guest program).2.failure ∈ guestFailures) ∧
      evaluateUntraced guest program = (evaluateAddressProgram guest program).1 ∧
      (evaluateAddressProgram guest program).2.Chained) := by
  have run (guest : Guest) := @run_agrees guest 0 program (program.length + 1)
    0 0 [] rfl (Nat.zero_le _) .nil nofun
  cases validated : (validateAddressProgram program).valid with
  | true =>
    have agreed (guest : Guest) := (if_pos validated).mp (run guest)
    refine ⟨⟨fun _ guest answers => ?_, fun _ => rfl⟩,
      fun _ guest => ⟨fun none => ((agreed guest).fails none).1,
        (agreed guest).same, (agreed guest).chained⟩⟩
    exact Option.isSome_iff_ne_none.mpr fun none => ((agreed guest).fails none).2 answers
  | false =>
    refine ⟨⟨nofun, fun succeeds => ?_⟩, nofun⟩
    have failed := (if_neg (Bool.eq_false_iff.mp validated)).mp (run zeroGuest)
    have succeeded := succeeds zeroGuest zeroGuest_answers
    rw [evaluateAddressProgram, failed] at succeeded
    cases succeeded

/-- Without its trace the evaluation accepts programs that are too long, and an
evaluation that failed need not have ended its last step at its address. -/
theorem address_programs_differ :
    (¬∀ program : ByteString, (validateAddressProgram program).valid = true ↔
      ∀ guest : Guest, guest.Answers → (evaluateUntraced guest program).isSome) ∧
    ¬∀ program : ByteString, (validateAddressProgram program).valid = true → ∀ (guest : Guest),
        ∃ step ∈ (evaluateAddressProgram guest program).2.operations.getLast?,
          step.addressAfter = (evaluateAddressProgram guest program).2.finalAddress := by
  constructor
  · intro agree
    have accepted := (agree (List.replicate 64 0x02 ++ [0x00])).mpr
      fun _ answers => evaluateUntraced_loads answers 64
    revert accepted
    decide
  intro ends
  have last := ends [0x07, 1, 0, 0, 0, 0x02, 0x00] (by decide)
    { zeroGuest with readGuestValue := fun _ _ => none }
  revert last
  decide

end Savor.Probe

import Savor.Execution.Refinement

/-!
# Resuming an unwinding program

A completed deferred action whose output does not fit the remaining value
budget makes the program runnable again, although it unwinds: the failure that
the completion reports does nothing once the unwinding has begun.  The sample
program below defers three compensations and is cancelled after two of them.
-/

namespace Savor.Program

open Library

/-- No transition of the history resumes an unwinding program. -/
def continuesUnwinding (history : List ExecutorTransition) : Bool :=
  history.all fun transition => transition.before.executor?.all fun executor =>
    !transition.input.resumes executor

theorem continuesUnwinding_iff {history : List ExecutorTransition} :
    continuesUnwinding history = true ↔ ∀ transition ∈ history,
      UnwindingContinues transition.before transition.input := by
  simp [continuesUnwinding, UnwindingContinues, Option.all_eq_true]

/-- A platform whose only floating-point values are integers.  Programs without
floating-point values cannot tell it from any other. -/
def FloatUnit.integers : FloatUnit where
  LongDouble := Int
  ofF32 _ := 0
  ofF64 _ := 0
  ofInteger := id
  toF32 _ := ⟨0⟩
  toF64 _ := ⟨0⟩
  toInteger := id
  integerToF32 _ := ⟨0⟩
  integerToF64 _ := ⟨0⟩
  isFinite _ := true
  isIntegral _ := true
  equal left right := left == right
  less left right := left < right
  lessEqual left right := left ≤ right
  add := (· + ·)
  subtract := (· - ·)
  multiply := (· * ·)
  divide := Int.tdiv
  remainder := Int.tmod
  negate := (- ·)

theorem ExecutorRun.exists_of_replay (inputs : List ExecutorInput)
    (check : List ExecutorTransition → Machine → Bool)
    (checked : (replay (Machine.step .integers) .idle inputs).any
      (fun reached => check reached.1 reached.2) = true) :
    ∃ history machine, ExecutorRun .integers (fun _ _ => True) history machine ∧
      check history machine = true :=
  Run.exists_of_replay inputs (check · · = true) (by simpa using checked)

theorem ExecutorRun.exists_continuing_of_replay (inputs : List ExecutorInput)
    (check : List ExecutorTransition → Machine → Bool)
    (checked : (replay (Machine.step .integers) .idle inputs).any
      (fun reached => continuesUnwinding reached.1 && check reached.1 reached.2) = true) :
    ∃ history machine, ExecutorRun .integers UnwindingContinues history machine ∧
      check history machine = true := by
  obtain ⟨history, machine, run, -, passes⟩ := Run.exists_of_replay inputs
    (fun history machine => continuesUnwinding history = true ∧ check history machine = true)
    (by simpa using checked) fun _ _ passes => continuesUnwinding_iff.mp passes.1
  exact ⟨history, machine, run, passes⟩

/-! ## A program that defers compensations -/

namespace Sample

/-- The capability pack of the sample program. -/
def pack : CapabilityPackIdentity := ⟨text "sample", 1, .filled 1⟩

/-- The compensating action: from a number to a number. -/
def revert : ExactDependencyIdentity := ⟨text "revert", 1, .filled 2⟩

def number : TypeRef := .ofBuiltin .u64

/-- The source location of every instruction and terminator. -/
def location : ProgramSourceLocationId := ⟨1⟩

def sourceMap : ProgramSourceMap where
  version := 1
  entries := [⟨location, none, none, none, text "sample", [], 1, 1⟩]

def revertDescriptor : ActionDescriptor where
  identity := revert
  providingPack := pack
  inputType := number
  outputType := number
  effects := ActionEffect.mutateGuest.mask
  resourceBehavior := .none
  cleanup := .verifiedCompensation
  idempotency := .naturallyIdempotent

/-- `%id = constant value`, in the instruction of the same number. -/
def constant (id value : UInt64) : Instruction where
  id := ⟨id⟩
  opcode := .constant
  sourceLocation := location
  result := some ⟨⟨id⟩, number⟩
  literal := some ⟨number, .u64 value⟩

/-- Defer the compensation of a number in scope 1. -/
def defer (id operand : UInt64) : Instruction where
  id := ⟨id⟩
  opcode := .deferCompensation
  sourceLocation := location
  operands := [⟨operand⟩]
  target := { kind := .deferredAction, dependency := some revert }
  scope := ⟨1⟩

/-- Enter or leave scope 1. -/
def moveScope (id : UInt64) (opcode : InstructionOpcode) : Instruction where
  id := ⟨id⟩
  opcode := opcode
  sourceLocation := location
  scope := ⟨1⟩

def block : BasicBlock where
  id := ⟨1⟩
  arguments := []
  instructions :=
    [constant 2 10, constant 3 20, constant 4 30, moveScope 5 .enterScope,
      defer 6 2, defer 7 3, defer 8 4, moveScope 9 .exitScope]
  terminator :=
    { kind := .return
      sourceLocation := location
      returnValue := some ⟨2⟩
      domainOutcome := some ⟨1⟩ }

def function : ProgramFunction where
  id := ⟨1⟩
  name := text "main"
  arguments := [⟨⟨1⟩, .ofBuiltin .unit⟩]
  outputType := number
  domainOutcomeType := some (.ofBuiltin .unit)
  entryBlock := ⟨1⟩
  blocks := [block]
  exported := true

def policies : ProgramPolicySet where
  statePolicies := [.restoreBaseline]
  executionIntents := [.live]
  permitsMoviePlayback := false
  permitsMovieRecording := false
  permitsCapture := false
  permitsReplay := false
  permitsResourcePromotion := false

def entrypoint : ProgramEntrypoint where
  name := text "main"
  function := ⟨1⟩
  inputType := .ofBuiltin .unit
  outputType := number
  domainOutcomeType := .ofBuiltin .unit
  emissionSchemas := []
  artifactSchemas := []
  requiredCapabilityPacks := [pack]
  acceptedPolicies := policies
  narrowedBudgets := none

/-- Sixty-four bytes hold the input and the three numbers, with four bytes to
spare. -/
def budgets (instructions : UInt64) : ProgramBudgets where
  maximumInstructions := instructions
  maximumCalls := 1
  maximumCallDepth := 1
  maximumActionRequests := 8
  maximumEmissions := 1
  maximumArtifacts := 1
  maximumValues := 16
  maximumValueBytes := 64
  maximumTraceEvents := 1

def module : ProgramModule where
  identity := ⟨text "sample", 1, .filled 3⟩
  irVersion := canonicalIrVersionV1
  entrypoints := [entrypoint]
  functions := [function]
  localTypes := []
  moduleImports := []
  actionImports := [revert]
  reducerImports := []
  typeImports := []
  requiredCapabilityPacks := [pack]
  acceptedPolicies := policies
  budgets := budgets 64
  sourceMap := sourceMap

def dependencyLock : ProgramDependencyLock where
  irVersion := canonicalIrVersionV1
  moduleImports := []
  actionImports := [revert]
  reducerImports := []
  typeImports := []
  capabilityPacks := [pack]

/-- The lock of a module without dependencies. -/
def emptyLock : ProgramDependencyLock where
  irVersion := canonicalIrVersionV1
  moduleImports := []
  actionImports := []
  reducerImports := []
  typeImports := []
  capabilityPacks := []

def verified : VerifiedProgramModule where
  module := module
  dependencyLock := dependencyLock
  moduleClosure := [module]
  typeClosure := []
  actions := [⟨revert, revertDescriptor⟩]
  reducers := []
  capabilityPacks := [⟨pack, ⟨text "game", [], []⟩, []⟩]

/-- Run the sample with an instruction budget. -/
def invocation (instructions : UInt64) : ProgramInvocation where
  invocationId := ⟨1⟩
  attemptId := ⟨1⟩
  module := module.identity
  entrypoint := entrypoint.name
  dependencies := dependencyLock
  runtimeProfile := ⟨text "profile", text "game", [], [], [], [pack]⟩
  state := ⟨.restoreBaseline, [], ⟨1⟩, ⟨1⟩⟩
  execution := ⟨.live, false, false, false, false, false, 0⟩
  input := unitGraph
  limits := budgets instructions
  provenance := ⟨text "sample", [], []⟩

/-- The host's answer to the pending request of this number. -/
def answer (requestId : UInt64) (operation : ProgramHostOperation)
    (status : ProgramActionResolutionStatus) (output : ProgramValueGraph) : ExecutorInput :=
  .deliverHostCompletion
    { requestId := ⟨requestId⟩
      invocationId := ⟨1⟩
      attemptId := ⟨1⟩
      operation, status, output
      worksetEpoch := ⟨1⟩
      cleanupReceipts := []
      cleanup := .clean
      sessionDisposition := .clean
      code := []
      message := [] }

/-- A pump that is allowed these instructions and goes round so many times. -/
def pump (instructions : UInt64) (rounds : Nat) : List ExecutorInput :=
  .pump instructions .none :: List.replicate rounds (.iterate none)

/-- Bind the pending request to this number and answer it. -/
def complete (requestId : UInt64) (operation : ProgramHostOperation)
    (status : ProgramActionResolutionStatus) (output : ProgramValueGraph) : List ExecutorInput :=
  [.bindPendingAction ⟨requestId⟩, answer requestId operation status output]

/-- A value of the compensating action. -/
def numberGraph (value : UInt64) : ProgramValueGraph := scalarGraph number (.u64 value)

/-- Start the sample, defer two compensations, cancel, and answer the request
for the second with a number that exceeds the value budget. -/
def resumed (instructions : UInt64) : List ExecutorInput :=
  .start verified (invocation instructions) ::
    pump 4 4 ++ complete 1 .openScope .completed unitGraph ++
    pump 2 3 ++ [.requestCancellation .externalRequest] ++ pump 1 1 ++
    complete 2 .invokeAction .completed (numberGraph 0)

/-- Run on after the resumption: the third compensation is deferred and
requested, the program returns, and its cleanup ends. -/
def returned : List ExecutorInput :=
  resumed 64 ++ pump 3 3 ++ complete 3 .invokeAction .completed (numberGraph 0) ++ pump 2 2 ++
    complete 4 .invokeAction .failed unitGraph ++ pump 1 1 ++
    complete 5 .closeScope .completed unitGraph ++ pump 1 1 ++
    complete 6 .finishInvocation .completed unitGraph

/-- Start the sample, defer two compensations, cancel, and let both of them
fail. -/
def unwound : List ExecutorInput :=
  .start verified (invocation 64) :: pump 4 4 ++ complete 1 .openScope .completed unitGraph ++
    pump 2 3 ++ [.requestCancellation .externalRequest] ++ pump 1 1 ++
    complete 2 .invokeAction .failed unitGraph ++ pump 1 1 ++
    complete 3 .invokeAction .failed unitGraph ++ pump 1 1 ++
    complete 4 .closeScope .completed unitGraph ++ pump 1 1 ++
    complete 5 .finishInvocation .completed unitGraph

end Sample

end Savor.Program

import Savor.Execution.Accounts
import Savor.Value.Measure

/-!
# The value budget

The values held in the frames are accounted for when they are bound.  Calls and
branches copy values into frames without counting them, so the bound on what the
frames hold is a law of the runs that copy nothing.
-/

namespace Savor.Program

open Library

/-- The measure of a graph within some limits; none of its values count where
it has no measure. -/
def graphMeasure (limits : ProgramValueArenaLimits) (graph : ProgramValueGraph) :
    ProgramValueGraphMeasure :=
  match measureProgramValueGraph graph limits with
  | .ok measured => measured
  | .error _ => ⟨0, 0⟩

/-- The graph can be measured within the limits. -/
def Measurable (limits : ProgramValueArenaLimits) (graph : ProgramValueGraph) : Prop :=
  ∃ measured, measureProgramValueGraph graph limits = .ok measured

theorem graphMeasure_eq {limits : ProgramValueArenaLimits}
    {graph : ProgramValueGraph} {measured : ProgramValueGraphMeasure}
    (measures : measureProgramValueGraph graph limits = .ok measured) :
    graphMeasure limits graph = measured := by
  rw [graphMeasure, measures]

/-- The graphs that an environment holds. -/
def environmentGraphs (environment : Environment) : List ProgramValueGraph :=
  environment.entries.map (·.2)

/-- The graphs that all environments hold. -/
def heldGraphs (environments : List Environment) : List ProgramValueGraph :=
  environments.flatMap environmentGraphs

/-- What the graphs measure together, by one of the two measures. -/
def totalMeasure (limits : ProgramValueArenaLimits)
    (field : ProgramValueGraphMeasure → Nat) (graphs : List ProgramValueGraph) : Nat :=
  (graphs.map fun graph => field (graphMeasure limits graph)).sum

section Totals

variable {limits : ProgramValueArenaLimits}
variable {field : ProgramValueGraphMeasure → Nat}

@[simp] theorem totalMeasure_cons (graph : ProgramValueGraph) (graphs : List ProgramValueGraph) :
    totalMeasure limits field (graph :: graphs) =
      field (graphMeasure limits graph) + totalMeasure limits field graphs := by
  simp [totalMeasure]

@[simp] theorem totalMeasure_append (first second : List ProgramValueGraph) :
    totalMeasure limits field (first ++ second) =
      totalMeasure limits field first + totalMeasure limits field second := by
  simp [totalMeasure]

@[simp] theorem heldGraphs_cons (environment : Environment) (environments : List Environment) :
    heldGraphs (environment :: environments) =
      environmentGraphs environment ++ heldGraphs environments :=
  List.flatMap_cons

variable {environment : Environment}

theorem graphs_insert_fresh {id : ProgramValueId}
    (unbound : environment.lookup id = none) (value : ProgramValueGraph) :
    environmentGraphs (environment.insert id value) = value :: environmentGraphs environment := by
  unfold environmentGraphs
  rw [AList.entries_insert_of_notMem (AList.lookup_eq_none.mp unbound)]
  rfl

theorem graphs_insert_rebound {id : ProgramValueId} {existing : ProgramValueGraph}
    (bound : environment.lookup id = some existing) (value : ProgramValueGraph) : ∃ before after,
      environmentGraphs environment = before ++ existing :: after ∧
      environmentGraphs (environment.insert id value) = value :: (before ++ after) := by
  have present : id ∈ environment.entries.keys := by
    rw [← List.dlookup_isSome]
    exact Option.isSome_iff_exists.mpr ⟨existing, bound⟩
  obtain ⟨found, first, second, absent, entries, erased⟩ := List.exists_of_kerase present
  have same : found = existing := by
    have looked : environment.entries.dlookup id = some existing := bound
    rw [entries, List.dlookup_append, List.dlookup_eq_none.mpr absent] at looked
    simpa using looked
  subst same
  refine ⟨first.map (·.2), second.map (·.2), ?_, ?_⟩
  · unfold environmentGraphs
    rw [entries]
    simp
  unfold environmentGraphs
  rw [AList.entries_insert, erased]
  simp

end Totals

/-- The invariant of the value accounts: every held graph has a measure, and
what is held is accounted for within the limits. -/
structure ValueInvariant (accounts : Accounts) : Prop where
  measurable : ∀ graph ∈ heldGraphs accounts.environments, Measurable accounts.valueLimits graph
  count : totalMeasure accounts.valueLimits (·.valueCount)
    (heldGraphs accounts.environments) ≤ accounts.valueCount
  bytes : totalMeasure accounts.valueLimits (·.valueBytes)
    (heldGraphs accounts.environments) ≤ accounts.valueBytes
  countWithin : accounts.valueCount ≤ accounts.limits.maximumValues.toNat
  bytesWithin : accounts.valueBytes ≤ accounts.limits.maximumValueBytes.toNat

namespace ValueInvariant

variable {accounts after : Accounts}

theorem initial (opened : accounts.Initial) : ValueInvariant accounts := by
  obtain ⟨id, value, measured, environments, measures, count, bytes⟩ := opened.input
  have held : heldGraphs accounts.environments = [value] := by
    rw [environments]
    rfl
  have fits := measureProgramValueGraph_fits measures
  refine ⟨?_, ?_, ?_, ?_, ?_⟩
  · intro graph member
    rw [held, List.mem_singleton] at member
    rw [member]
    exact ⟨measured, measures⟩
  · rw [held, count]
    simp [totalMeasure, graphMeasure_eq measures]
  · rw [held, bytes]
    simp [totalMeasure, graphMeasure_eq measures]
  · rw [count]
    exact fits.1
  · rw [bytes]
    exact fits.2

theorem toNat_rest (limit : UInt64) (spent : Nat) :
    (UInt64.ofNat (limit.toNat - spent)).toNat = limit.toNat - spent :=
  UInt64.toNat_ofNat_of_lt' (lt_of_le_of_lt (Nat.sub_le _ _) limit.toNat_lt)

theorem remaining_within (count bytes : Nat) :
    (accounts.remaining count bytes).Within accounts.valueLimits where
  values := by
    simp only [Accounts.remaining, Accounts.valueLimits, toNat_rest]
    omega
  bytes := by
    simp only [Accounts.remaining, Accounts.valueLimits, toNat_rest]
    omega

theorem remaining_fits {count bytes : Nat} {value : ProgramValueGraph}
    {measured : ProgramValueGraphMeasure}
    (countWithin : count ≤ accounts.limits.maximumValues.toNat)
    (bytesWithin : bytes ≤ accounts.limits.maximumValueBytes.toNat)
    (measures : measureProgramValueGraph value (accounts.remaining count bytes) = .ok measured) :
    count + measured.valueCount ≤ accounts.limits.maximumValues.toNat ∧
      bytes + measured.valueBytes ≤ accounts.limits.maximumValueBytes.toNat := by
  have fits := measureProgramValueGraph_fits measures
  simp only [Accounts.remaining, toNat_rest] at fits
  omega

theorem retained (invariant : ValueInvariant accounts) {id : ProgramValueId} {count bytes : Nat}
    (retains : accounts.Retains id count bytes) (value : ProgramValueGraph) :
    count ≤ accounts.valueCount ∧ bytes ≤ accounts.valueBytes ∧
      (heldGraphs (accounts.environments.modifyHead (·.insert id value)) = [] ∨
      ∃ kept, heldGraphs (accounts.environments.modifyHead (·.insert id value)) = value :: kept ∧
        (∀ graph ∈ kept, graph ∈ heldGraphs accounts.environments) ∧
        totalMeasure accounts.valueLimits (·.valueCount) kept ≤ count ∧
        totalMeasure accounts.valueLimits (·.valueBytes) kept ≤ bytes) := by
  have heldCount := invariant.count
  have heldBytes := invariant.bytes
  cases stack : accounts.environments with
  | nil =>
    refine ⟨?_, ?_, .inl rfl⟩
    · cases retains <;> omega
    · cases retains <;> omega
  | cons environment environments =>
    rw [stack, heldGraphs_cons] at heldCount heldBytes
    simp only [List.modifyHead_cons, heldGraphs_cons]
    cases retains with
    | fresh unbound =>
      rw [stack] at unbound
      rw [graphs_insert_fresh unbound]
      exact ⟨le_refl _, le_refl _, .inr ⟨_, rfl, fun _ member => member, heldCount, heldBytes⟩⟩
    | @rebound existing measured bound measures countHeld bytesHeld =>
      rw [stack] at bound
      obtain ⟨before, rest, graphs, inserted⟩ := graphs_insert_rebound bound value
      rw [graphs] at heldCount heldBytes
      rw [inserted, graphs]
      simp only [totalMeasure_append, totalMeasure_cons,
        graphMeasure_eq measures] at heldCount heldBytes
      refine ⟨by omega, by omega, .inr
        ⟨before ++ rest ++ heldGraphs environments, by simp, ?_, ?_, ?_⟩⟩
      · intro graph member
        simp only [List.mem_append, List.mem_cons] at member ⊢
        tauto
      · simp only [totalMeasure_append]
        omega
      · simp only [totalMeasure_append]
        omega

theorem step (invariant : ValueInvariant accounts)
    {copies wraps : Prop} {request : Option ExecutorHostRequest}
    (step : AccountStep copies wraps accounts request after) (uncopied : ¬copies) :
    ValueInvariant after := by
  cases step with
  | @bound id value count bytes measured retains measures =>
    obtain ⟨countKept, bytesKept, held⟩ := invariant.retained retains value
    have fits := remaining_fits (le_trans countKept invariant.countWithin)
      (le_trans bytesKept invariant.bytesWithin) measures
    have measures' := measureProgramValueGraph_wider (remaining_within count bytes) measures
    rcases held with empty | ⟨kept, held, old, keptCount, keptBytes⟩
    · refine ⟨?_, ?_, ?_, fits.1, fits.2⟩
      · simp [empty]
      · simp [empty, totalMeasure]
      · simp [empty, totalMeasure]
    refine ⟨?_, ?_, ?_, fits.1, fits.2⟩
    · intro graph member
      rw [held, List.mem_cons] at member
      rcases member with rfl | member
      · exact ⟨measured, measures'⟩
      · exact invariant.measurable graph (old graph member)
    · show totalMeasure accounts.valueLimits _ _ ≤ _
      rw [held, totalMeasure_cons, graphMeasure_eq measures']
      simp only
      omega
    show totalMeasure accounts.valueLimits _ _ ≤ _
    rw [held, totalMeasure_cons, graphMeasure_eq measures']
    simp only
    omega
  | @called arguments values shallow uncounted =>
    have none : values = [] := by
      by_contra some
      exact uncopied (uncounted some)
    subst none
    have empty : Executor.callEnvironment arguments [] = ∅ := by simp [Executor.callEnvironment]
    have held : heldGraphs (∅ :: accounts.environments) =
        heldGraphs accounts.environments := by
      rw [heldGraphs_cons]
      rfl
    obtain ⟨measurable, count, bytes, countWithin, bytesWithin⟩ := invariant
    rw [← held] at measurable count bytes
    rw [empty]
    exact ⟨measurable, count, bytes, countWithin, bytesWithin⟩
  | @entered arguments values uncounted =>
    have none : values = [] := by
      by_contra some
      exact uncopied (uncounted some)
    subst none
    have same : accounts.environments.modifyHead
        (Executor.assignArguments · arguments []) =
        accounts.environments := by
      cases accounts.environments with
      | nil => rfl
      | cons environment environments => simp [Executor.assignArguments]
    rw [same]
    exact invariant
  | returned =>
    cases stack : accounts.environments with
    | nil =>
      rw [List.tail_nil, ← stack]
      exact invariant
    | cons environment environments =>
      obtain ⟨measurable, count, bytes, countWithin, bytesWithin⟩ := invariant
      rw [stack, heldGraphs_cons] at measurable count bytes
      simp only [totalMeasure_append] at count bytes
      refine ⟨?_, ?_, ?_, countWithin, bytesWithin⟩
      · intro graph member
        exact measurable graph (List.mem_append_right _ member)
      · exact le_trans (Nat.le_add_left _ _) count
      · exact le_trans (Nat.le_add_left _ _) bytes
  | traced | requestRefused | awaited | registered | issued | dropped
  | emissionRefused | emitted | artifactRefused | published =>
    exact
      { measurable := invariant.measurable
        count := invariant.count
        bytes := invariant.bytes
        countWithin := invariant.countWithin
        bytesWithin := invariant.bytesWithin }

theorem path (invariant : ValueInvariant accounts) {copies wraps : Prop} {requests : ActionRequests}
    (path : AccountPath copies wraps accounts requests after) (uncopied : ¬copies) :
    ValueInvariant after := by
  induction path with
  | refl => exact invariant
  | step first _ ih => exact ih (invariant.step first uncopied)

end ValueInvariant

/-- The graphs held in the live frames of an executor. -/
def Executor.heldGraphs (executor : Executor) : List ProgramValueGraph :=
  Program.heldGraphs (executor.frames.map (·.values))

/-- The values that the frames hold have a measure, and all of them together
are within the value limits. -/
structure HeldWithinBudget (executor : Executor) : Prop where
  measurable : ∀ graph ∈ executor.heldGraphs, Measurable executor.accounts.valueLimits graph
  values : totalMeasure executor.accounts.valueLimits (·.valueCount)
    executor.heldGraphs ≤ executor.limits.maximumValues.toNat
  bytes : totalMeasure executor.accounts.valueLimits (·.valueBytes)
    executor.heldGraphs ≤ executor.limits.maximumValueBytes.toNat

/-- The call copies no value into an environment without counting it. -/
def CopiesNothing (machine : Machine) (input : ExecutorInput) : Prop :=
  machine.copiesValues input = false

/-- In every run that copies nothing the frames stay within the value budget. -/
theorem ExecutorRun.heldWithinBudget {floats : FloatUnit}
    {history : List ExecutorTransition} {executor : Executor} {loop : Option PumpLoop}
    (run : ExecutorRun floats CopiesNothing history (.started executor loop)) :
    HeldWithinBudget executor := by
  let Inv : Machine → Prop := fun machine =>
    ∀ executor, machine.executor? = some executor → ValueInvariant executor.accounts
  have initial : Inv .idle := by
    intro executor absurd
    cases absurd
  have preserved : ∀ state input event next, Inv state →
      CopiesNothing state input →
      Machine.step floats input state = some (event, next) → Inv next := by
    intro state input event next invariant uncopied stepped executor reached
    cases state with
    | idle =>
      rcases Machine.step_idle stepped with
        rfl | ⟨verified, invocation, started, rfl, accepted, rfl⟩
      · cases reached
      cases reached
      obtain ⟨opened, initial, path⟩ := Executor.start_accounts accepted False False
      exact (ValueInvariant.initial initial).path path id
    | started before loop =>
      obtain ⟨executor', loop', rfl, path⟩ := Machine.step_accounts stepped
      cases reached
      refine (invariant before rfl).path path ?_
      rw [uncopied]
      simp
  have invariant := run.invariant initial preserved executor rfl
  exact
    { measurable := invariant.measurable
      values := le_trans invariant.count invariant.countWithin
      bytes := le_trans invariant.bytes invariant.bytesWithin }

/-- The run that cancels the sample and lets its compensations fail. -/
theorem ExecutorRun.heldWithinBudget_sample : ∃ history executor loop,
      ExecutorRun .integers CopiesNothing history (.started executor loop) ∧
      executor.heldGraphs.length = 4 ∧ HeldWithinBudget executor := by
  obtain ⟨history, machine, run, -, held⟩ : ∃ history machine,
      ExecutorRun .integers CopiesNothing history machine ∧
        (∀ transition ∈ history, transition.before.copiesValues transition.input = false) ∧
        machine.executor?.any (·.heldGraphs.length = 4) = true :=
    Run.exists_of_replay Sample.unwound _ (by decide +kernel) fun _ _ passes => passes.1
  cases machine with
  | idle => cases held
  | started executor loop =>
    have four : executor.heldGraphs.length = 4 := by simpa [Machine.executor?] using held
    exact ⟨history, executor, loop, run, four, ExecutorRun.heldWithinBudget run⟩

/-! ## A call that copies its argument -/

namespace Sample

/-- Pass the input on to another function, then return. -/
def passing : BasicBlock where
  id := ⟨1⟩
  arguments := []
  instructions :=
    [{ id := ⟨1⟩
       opcode := .callLocal
       sourceLocation := location
       operands := [⟨1⟩]
       target := { kind := .localFunction, localFunction := ⟨2⟩ } }]
  terminator := { kind := .return, sourceLocation := location, domainOutcome := some ⟨1⟩ }

def returning : BasicBlock where
  id := ⟨2⟩
  arguments := []
  instructions := []
  terminator := { kind := .return, sourceLocation := location }

def caller : ProgramFunction where
  id := ⟨1⟩
  name := text "main"
  arguments := [⟨⟨1⟩, number⟩]
  outputType := .ofBuiltin .unit
  domainOutcomeType := some number
  entryBlock := ⟨1⟩
  blocks := [passing]
  exported := true

def callee : ProgramFunction where
  id := ⟨2⟩
  name := text "ignore"
  arguments := [⟨⟨1⟩, number⟩]
  outputType := .ofBuiltin .unit
  domainOutcomeType := none
  entryBlock := ⟨2⟩
  blocks := [returning]
  exported := false

def callerEntrypoint : ProgramEntrypoint where
  name := text "main"
  function := ⟨1⟩
  inputType := number
  outputType := .ofBuiltin .unit
  domainOutcomeType := number
  emissionSchemas := []
  artifactSchemas := []
  requiredCapabilityPacks := []
  acceptedPolicies := policies
  narrowedBudgets := none

/-- One value of seventeen bytes. -/
def callerBudgets : ProgramBudgets where
  maximumInstructions := 8
  maximumCalls := 1
  maximumCallDepth := 2
  maximumActionRequests := 1
  maximumEmissions := 1
  maximumArtifacts := 1
  maximumValues := 1
  maximumValueBytes := 17
  maximumTraceEvents := 1

def callerModule : ProgramModule where
  identity := ⟨text "caller", 1, .filled 6⟩
  irVersion := canonicalIrVersionV1
  entrypoints := [callerEntrypoint]
  functions := [caller, callee]
  localTypes := []
  moduleImports := []
  actionImports := []
  reducerImports := []
  typeImports := []
  requiredCapabilityPacks := []
  acceptedPolicies := policies
  budgets := callerBudgets
  sourceMap := sourceMap

def verifiedCaller : VerifiedProgramModule where
  module := callerModule
  dependencyLock := emptyLock
  moduleClosure := [callerModule]
  typeClosure := []
  actions := []
  reducers := []
  capabilityPacks := []

def callerInvocation : ProgramInvocation where
  invocationId := ⟨1⟩
  attemptId := ⟨1⟩
  module := callerModule.identity
  entrypoint := callerEntrypoint.name
  dependencies := emptyLock
  runtimeProfile := ⟨text "profile", text "game", [], [], [], []⟩
  state := ⟨.restoreBaseline, [], ⟨1⟩, ⟨1⟩⟩
  execution := ⟨.live, false, false, false, false, false, 0⟩
  input := numberGraph 7
  limits := callerBudgets
  provenance := ⟨text "sample", [], []⟩

end Sample

/-- The argument of a call is held twice, but counted once. -/
theorem ExecutorRun.not_heldWithinBudget : ¬ ∀ floats history executor loop,
      ExecutorRun floats (fun _ _ => True) history (.started executor loop) →
      HeldWithinBudget executor := by
  intro within
  obtain ⟨history, machine, run, passes⟩ := ExecutorRun.exists_of_replay
    (.start Sample.verifiedCaller Sample.callerInvocation :: Sample.pump 1 1)
    (fun _ machine => machine.executor?.any fun executor =>
      executor.limits.maximumValues = 1 &&
        totalMeasure executor.accounts.valueLimits (·.valueCount) executor.heldGraphs = 2)
    (by decide +kernel)
  cases machine with
  | idle => cases passes
  | started executor loop =>
    simp only [Machine.executor?, Option.any_some, Bool.and_eq_true, decide_eq_true_eq] at passes
    obtain ⟨limit, held⟩ := passes
    have values := (within _ _ _ _ run).values
    rw [held, limit] at values
    exact absurd values (by decide)

end Savor.Program

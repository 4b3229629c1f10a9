import Savor.Execution.Resumption

/-!
# The accounts of an executor

The counters that an executor keeps against its budgets, next to what they
account for: the values in its frames, the actions deferred in its scopes, its
emissions, artifacts and trace.  Every step of the machine is a path of account
steps, each of which charges one counter at most.
-/

namespace Savor.Program

structure Accounts where
  limits : ProgramBudgets
  environments : List Environment
  deferred : Nat
  (actionRequests emissions artifacts : UInt64)
  (valueCount valueBytes : Nat)
  (nextTrace nextEmission nextArtifact : UInt64)
  emitted : List ProgramEmission
  published : List ProgramArtifact
  traced : List ProgramTraceEvent

/-- The number of actions deferred in a stack of scopes. -/
def deferredCount (scopes : List Scope) : Nat := (scopes.map (·.deferred.length)).sum

/-- The accounts of an executor. -/
def Executor.accounts (executor : Executor) : Accounts where
  limits := executor.limits
  environments := executor.frames.map (·.values)
  deferred := deferredCount executor.scopes
  actionRequests := executor.actionRequests
  emissions := executor.emissions
  artifacts := executor.artifacts
  valueCount := executor.valueCount
  valueBytes := executor.valueBytes
  nextTrace := executor.nextTrace
  nextEmission := executor.nextEmission
  nextArtifact := executor.nextArtifact
  emitted := executor.result.emissions
  published := executor.result.artifacts
  traced := executor.result.trace

namespace Accounts

/-- The value limits of the invocation. -/
def valueLimits (accounts : Accounts) : ProgramValueArenaLimits :=
  ⟨accounts.limits.maximumValues, accounts.limits.maximumValueBytes⟩

/-- What stays accounted for when an id of the current environment is bound
again. -/
inductive Retains (accounts : Accounts) (id : ProgramValueId) : Nat → Nat → Prop
  | fresh
      (unbound : accounts.environments.head?.bind (·.lookup id) = none) :
      Retains accounts id accounts.valueCount accounts.valueBytes
  | rebound {existing measured}
      (bound : accounts.environments.head?.bind (·.lookup id) = some existing)
      (measures : measureProgramValueGraph existing accounts.valueLimits = .ok measured)
      (count : measured.valueCount ≤ accounts.valueCount)
      (bytes : measured.valueBytes ≤ accounts.valueBytes) :
      Retains accounts id (accounts.valueCount - measured.valueCount)
        (accounts.valueBytes - measured.valueBytes)

/-- The value limits that are left beside retained values. -/
def remaining (accounts : Accounts) (count bytes : Nat) : ProgramValueArenaLimits where
  maximumValues := UInt64.ofNat (accounts.limits.maximumValues.toNat - count)
  maximumValueBytes := UInt64.ofNat (accounts.limits.maximumValueBytes.toNat - bytes)

end Accounts

/-- One step on the accounts, with the action request it makes.  `copies` holds
where values are copied into an environment without being counted, `wraps` where
a counter that is charged wraps around. -/
inductive AccountStep (copies wraps : Prop) (accounts : Accounts) :
    Option ExecutorHostRequest → Accounts → Prop
  | traced {event}
      (within : accounts.traced.length < accounts.limits.maximumTraceEvents.toNat)
      (numbered : event.sequence = ⟨accounts.nextTrace⟩) :
      AccountStep copies wraps accounts none
        { accounts with
          nextTrace := accounts.nextTrace + 1
          traced := accounts.traced ++ [event] }
  | bound {id value count bytes measured}
      (retains : accounts.Retains id count bytes)
      (measures : measureProgramValueGraph value (accounts.remaining count bytes) = .ok measured) :
      AccountStep copies wraps accounts none
        { accounts with
          environments := accounts.environments.modifyHead (·.insert id value)
          valueCount := count + measured.valueCount
          valueBytes := bytes + measured.valueBytes }
  | called {arguments values}
      (shallow : accounts.environments.length + 1 ≤ accounts.limits.maximumCallDepth.toNat)
      (uncounted : values ≠ [] → copies) :
      AccountStep copies wraps accounts none
        { accounts with
          environments := Executor.callEnvironment arguments values :: accounts.environments }
  | entered {arguments values}
      (uncounted : values ≠ [] → copies) :
      AccountStep copies wraps accounts none
        { accounts with
          environments := accounts.environments.modifyHead
            (Executor.assignArguments · arguments values) }
  | returned :
      AccountStep copies wraps accounts none
        { accounts with environments := accounts.environments.tail }
  | requestRefused
      (wrapped : accounts.actionRequests + 1 = 0 → wraps) :
      AccountStep copies wraps accounts none
        { accounts with actionRequests := accounts.actionRequests + 1 }
  | awaited {request}
      (within : accounts.actionRequests + 1 ≤ accounts.limits.maximumActionRequests)
      (wrapped : accounts.actionRequests + 1 = 0 → wraps) :
      AccountStep copies wraps accounts (some request)
        { accounts with actionRequests := accounts.actionRequests + 1 }
  | registered
      (within : accounts.actionRequests + 1 ≤ accounts.limits.maximumActionRequests)
      (wrapped : accounts.actionRequests + 1 = 0 → wraps) :
      AccountStep copies wraps accounts none
        { accounts with
          actionRequests := accounts.actionRequests + 1
          deferred := accounts.deferred + 1 }
  | issued {request fewer}
      (registered : accounts.deferred = fewer + 1) :
      AccountStep copies wraps accounts (some request) { accounts with deferred := fewer }
  | dropped {fewer}
      (closes : fewer ≤ accounts.deferred) :
      AccountStep copies wraps accounts none { accounts with deferred := fewer }
  | emissionRefused
      (wrapped : accounts.emissions + 1 = 0 → wraps) :
      AccountStep copies wraps accounts none { accounts with emissions := accounts.emissions + 1 }
  | emitted {emission}
      (within : accounts.emissions + 1 ≤ accounts.limits.maximumEmissions)
      (wrapped : accounts.emissions + 1 = 0 → wraps)
      (numbered : emission.sequence = ⟨accounts.nextEmission⟩) :
      AccountStep copies wraps accounts none
        { accounts with
          emissions := accounts.emissions + 1
          nextEmission := accounts.nextEmission + 1
          emitted := accounts.emitted ++ [emission] }
  | artifactRefused
      (wrapped : accounts.artifacts + 1 = 0 → wraps) :
      AccountStep copies wraps accounts none { accounts with artifacts := accounts.artifacts + 1 }
  | published {artifact}
      (within : accounts.artifacts + 1 ≤ accounts.limits.maximumArtifacts)
      (wrapped : accounts.artifacts + 1 = 0 → wraps)
      (numbered : artifact.sequence = ⟨accounts.nextArtifact⟩) :
      AccountStep copies wraps accounts none
        { accounts with
          artifacts := accounts.artifacts + 1
          nextArtifact := accounts.nextArtifact + 1
          published := accounts.published ++ [artifact] }

/-- The action requests of a step, as a list. -/
abbrev ActionRequests := List ExecutorHostRequest

/-- Account steps one after the other, with the action requests they make. -/
inductive AccountPath (copies wraps : Prop) : Accounts → ActionRequests → Accounts → Prop
  | refl (accounts) : AccountPath copies wraps accounts [] accounts
  | step {before middle after request requests}
      (first : AccountStep copies wraps before request middle)
      (rest : AccountPath copies wraps middle requests after) :
      AccountPath copies wraps before (request.toList ++ requests) after

namespace AccountPath

variable {copies wraps : Prop} {before middle after : Accounts}

theorem single {request : Option ExecutorHostRequest}
    (step : AccountStep copies wraps before request after) :
    AccountPath copies wraps before request.toList after := by
  have path := AccountPath.step step (.refl after)
  rwa [List.append_nil] at path

theorem trans {first second : ActionRequests}
    (earlier : AccountPath copies wraps before first middle)
    (later : AccountPath copies wraps middle second after) :
    AccountPath copies wraps before (first ++ second) after := by
  induction earlier with
  | refl => exact later
  | step head _ ih =>
    rw [List.append_assoc]
    exact .step head (ih later)

theorem quiet_trans {requests : ActionRequests}
    (earlier : AccountPath copies wraps before [] middle)
    (later : AccountPath copies wraps middle requests after) :
    AccountPath copies wraps before requests after :=
  earlier.trans later

end AccountPath

/-- The action request among the host requests. -/
def ExecutorHostRequest.asAction (request : ExecutorHostRequest) : ActionRequests :=
  if request.operation = .invokeAction then [request] else []

/-- The action requests that a pump result hands to the host. -/
def PumpResult.actionRequests (result : PumpResult) : ActionRequests :=
  (result.hostRequest.map ExecutorHostRequest.asAction).getD []

namespace Executor

/-- The call budgets admit another call. -/
def admitsCall (executor : Executor) : Bool :=
  executor.callsExecuted + 1 ≤ executor.limits.maximumCalls &&
    executor.frames.length + 1 ≤ executor.limits.maximumCallDepth.toNat

/-- The edge that a terminator takes. -/
def selectedEdge (executor : Executor) (terminator : Terminator) : Option BlockEdge :=
  match terminator.kind with
  | .branch =>
    match terminator.edges with
    | [edge] => some edge
    | _ => none
  | .conditionalBranch =>
    match terminator.conditionOrSelector, terminator.edges with
    | some condition, [whenTrue, whenFalse] =>
      ((executor.value condition).bind boolean).map fun value =>
        if value then whenTrue else whenFalse
    | _, _ => none
  | .enumSwitch =>
    terminator.conditionOrSelector.bind fun selector =>
      switchEdge terminator ((executor.value selector).bind rootPayload)
  | .return | .structuredFail => none

/-- The action copies values into an environment without counting them: the
operands of an admitted call, or the arguments of the edge that is taken. -/
def copiesValues (executor : Executor) : PumpAction → Bool
  | .instruction instruction =>
    (instruction.opcode = .callLocal || instruction.opcode = .callImported) &&
      executor.admitsCall && !instruction.operands.isEmpty
  | .terminator terminator => (executor.selectedEdge terminator).any (!·.arguments.isEmpty)
  | _ => false

/-- The action charges a 64-bit counter that is at its maximum. -/
def wrapsCounter (executor : Executor) : PumpAction → Bool
  | .instruction instruction =>
    match instruction.opcode with
    | .awaitAction | .deferCompensation => executor.actionRequests + 1 = 0
    | .emitRecord => executor.emissions + 1 = 0
    | .publishArtifact => executor.artifacts + 1 = 0
    | _ => false
  | _ => false

/-! ## Updates that leave the accounts alone -/

section Updates

variable (executor : Executor)

@[simp] theorem accounts_beginFailure (status : ProgramInfrastructureStatus)
    (code message : ByteString) (source : ProgramSourceLocationId) :
    (executor.beginFailure status code message source).accounts = executor.accounts := by
  unfold beginFailure
  split <;> rfl

@[simp] theorem accounts_beginReturn (terminator : Terminator) :
    (executor.beginReturn terminator).accounts = executor.accounts := rfl

@[simp] theorem accounts_failInstruction (instruction : Instruction) (message : ByteString) :
    (executor.failInstruction instruction message).2.accounts = executor.accounts :=
  executor.accounts_beginFailure _ _ _ _

@[simp] theorem accounts_suspend (request : ExecutorHostRequest)
    (success : PendingSuccess) (result : Option ProgramValueId) :
    (executor.suspend request success result).2.accounts = executor.accounts := rfl

theorem environments_modifyFrame (modify : Frame → Frame) (values : Environment → Environment)
    (same : ∀ frame, (modify frame).values = values frame.values) :
    (executor.modifyFrame modify).frames.map (·.values) =
      (executor.frames.map (·.values)).modifyHead values := by
  unfold modifyFrame
  cases executor.frames with
  | nil => rfl
  | cons frame callers => simp [same]

@[simp] theorem accounts_advance : executor.advance.accounts = executor.accounts := by
  have same := executor.environments_modifyFrame Frame.advance id (fun _ => rfl)
  have kept : ∀ environments : List Environment,
      environments.modifyHead id = environments := by
    intro environments
    cases environments <;> rfl
  rw [kept] at same
  unfold advance accounts
  rw [same]
  rfl

theorem accounts_pushFrame (frame : Frame) :
    ({ executor with frames := frame :: executor.frames } : Executor).accounts =
      { executor.accounts with
        environments := frame.values :: executor.accounts.environments } := rfl

end Updates

/-! ## Steps on the accounts -/

section Steps

variable {copies wraps : Prop} (executor : Executor)

/-- A step of the executor is a path on its accounts. -/
abbrev Charges (copies wraps : Prop) (step : PumpResult × Executor) : Prop :=
  AccountPath copies wraps executor.accounts step.1.actionRequests step.2.accounts

variable {executor} in
theorem failing_path {status : ProgramInfrastructureStatus}
    {code message : ByteString} {source : ProgramSourceLocationId} :
    AccountPath copies wraps executor.accounts []
      (executor.beginFailure status code message source).accounts := by
  rw [accounts_beginFailure]
  exact .refl _

/-- A trace event is counted, or not recorded. -/
theorem trace_path (kind : String) (source : ProgramSourceLocationId)
    (attributes : List ProvenanceEntry) : AccountPath copies wraps executor.accounts []
      (executor.trace kind source attributes).accounts := by
  unfold trace
  split
  · exact .refl _
  rename_i recorded
  simp only [Bool.or_eq_true, not_or, decide_eq_true_eq, not_le] at recorded
  exact .single (.traced recorded.2 rfl)

theorem bind_path (id : ProgramValueId) (type : TypeRef) (value : ProgramValueGraph) :
    AccountPath copies wraps executor.accounts [] (executor.bind id type value).2.accounts := by
  unfold bind
  split
  · exact .refl _
  split
  · exact .refl _
  rename_i count bytes retained
  simp only
  split
  · split
    · exact failing_path
    · exact failing_path
  split
  · exact failing_path
  rename_i measured measures
  have retains : executor.accounts.Retains id count bytes := by
    have looked : executor.accounts.environments.head?.bind
        (·.lookup id) = executor.frame?.bind (·.lookup id) := by
      simp only [accounts, frame?, List.head?_map]
      cases executor.frames.head? <;> rfl
    unfold retainedBudget at retained
    split at retained
    · rename_i unbound
      cases retained
      exact .fresh (looked.trans unbound)
    rename_i existing bound
    split at retained
    · cases retained
    rename_i existingMeasure existingMeasures
    split at retained
    · cases retained
    rename_i fits
    simp only [Bool.or_eq_true, decide_eq_true_eq, not_or, not_lt] at fits
    cases retained
    exact .rebound (looked.trans bound) existingMeasures fits.1 fits.2
  have stored := executor.environments_modifyFrame (·.store id value)
    (·.insert id value) (fun _ => rfl)
  have path : AccountPath copies wraps executor.accounts [] _ := .single (.bound retains measures)
  rw [show executor.accounts.environments =
    executor.frames.map (·.values) from rfl, ← stored] at path
  exact path

theorem path_of_bind {id : ProgramValueId} {type : TypeRef}
    {value : ProgramValueGraph} {accepted : Bool} {after : Executor}
    (binding : executor.bind id type value = (accepted, after)) :
    AccountPath copies wraps executor.accounts [] after.accounts := by
  have path := @bind_path copies wraps executor id type value
  rwa [binding] at path

theorem bindResult_path (instruction : Instruction) (failure : String) (value : ProgramValueGraph) :
    AccountPath copies wraps executor.accounts []
      (executor.bindResult instruction failure value).2.accounts := by
  unfold bindResult
  split
  · rw [accounts_failInstruction]
    exact .refl _
  split
  · rename_i binding
    rw [accounts_failInstruction]
    exact executor.path_of_bind binding
  rename_i binding
  rw [accounts_advance]
  exact executor.path_of_bind binding

section Instructions

variable (instruction : Instruction)

/-- A failed instruction leaves the accounts where the failure found them. -/
theorem failInstruction_path {failing : Executor} (message : ByteString)
    (reached : AccountPath copies wraps executor.accounts [] failing.accounts) :
    executor.Charges copies wraps (failing.failInstruction instruction message) := by
  rw [Charges, accounts_failInstruction]
  exact reached

variable {executor instruction} in
theorem refused_path {message : ByteString} : executor.Charges copies wraps
      (executor.failInstruction instruction message) :=
  executor.failInstruction_path instruction message (.refl _)

theorem pushCall_path (module : ProgramModule) (function : ProgramFunction) (unavailable : String)
    (copied : executor.admitsCall = true → instruction.operands ≠ [] → copies) :
    executor.Charges copies wraps (executor.pushCall instruction module function unavailable) := by
  have failed : ∀ failing : Executor, failing.accounts = executor.accounts →
      executor.Charges copies wraps (failing.failInstruction instruction (text unavailable)) := by
    intro failing same
    refine executor.failInstruction_path instruction _ ?_
    rw [same]
    exact .refl _
  unfold Charges pushCall
  simp only
  split
  · exact failed _ (accounts_beginFailure _ _ _ _ _)
  rename_i affordable
  simp only [Bool.or_eq_true, decide_eq_true_eq, not_or, UInt64.not_lt, not_lt] at affordable
  have admitted : executor.admitsCall = true := by simp [admitsCall, affordable]
  split
  · exact failed _ (accounts_beginFailure _ _ _ _ _)
  split
  · rename_i block values entry operands
    have uncounted : values ≠ [] → copies := by
      intro some
      refine copied admitted ?_
      intro none
      rw [none] at operands
      cases operands
      exact some rfl
    have shallow : executor.accounts.environments.length + 1 ≤
        executor.accounts.limits.maximumCallDepth.toNat := by
      simpa [accounts] using affordable.2
    generalize advanced : ({ executor with
      callsExecuted := executor.callsExecuted + 1 } : Executor).advance =
      caller
    have same : caller.accounts = executor.accounts := by
      rw [← advanced, accounts_advance]
      rfl
    refine AccountPath.quiet_trans ?_ (trace_path _ _ _ _)
    rw [accounts_pushFrame, same]
    exact .single (.called shallow uncounted)
  · exact failed _ rfl

theorem executeCallLocal_path
    (copied : executor.admitsCall = true → instruction.operands ≠ [] → copies) :
    executor.Charges copies wraps (executor.executeCallLocal instruction) := by
  unfold executeCallLocal
  split
  · exact refused_path
  split
  · exact refused_path
  · exact executor.pushCall_path instruction _ _ _ copied

theorem executeCallImported_path
    (copied : executor.admitsCall = true → instruction.operands ≠ [] → copies) :
    executor.Charges copies wraps (executor.executeCallImported instruction) := by
  unfold executeCallImported
  split
  · exact refused_path
  split
  · exact refused_path
  split
  · exact refused_path
  · exact executor.pushCall_path instruction _ _ _ copied

theorem executeAwaitAction_path (wrapped : executor.actionRequests + 1 = 0 → wraps) :
    executor.Charges copies wraps (executor.executeAwaitAction instruction) := by
  unfold Charges executeAwaitAction
  split
  · exact refused_path
  split
  · exact refused_path
  split
  · exact refused_path
  simp only
  split
  · unfold actionBudgetFailure
    rw [accounts_beginFailure]
    exact .single (.requestRefused wrapped)
  rename_i within
  rw [accounts_suspend, accounts_advance]
  exact .single (.awaited (UInt64.not_lt.mp within) wrapped)

theorem executeEmitRecord_path (wrapped : executor.emissions + 1 = 0 → wraps) :
    executor.Charges copies wraps (executor.executeEmitRecord instruction) := by
  unfold Charges executeEmitRecord
  split
  · exact refused_path
  simp only
  split
  · exact executor.failInstruction_path instruction _ (.single (.emissionRefused wrapped))
  rename_i within
  split
  · exact executor.failInstruction_path instruction _ (.single (.emissionRefused wrapped))
  rename_i value _ _ schema _
  show AccountPath copies wraps executor.accounts []
    { ({ executor with
        emissions := executor.emissions + 1 } : Executor).advance.accounts with
      nextEmission := executor.nextEmission + 1
      emitted := executor.result.emissions ++ [⟨⟨executor.nextEmission⟩, schema, value, true⟩] }
  rw [accounts_advance]
  exact .single (.emitted (UInt64.not_lt.mp within) wrapped rfl)

theorem executePublishArtifact_path (wrapped : executor.artifacts + 1 = 0 → wraps) :
    executor.Charges copies wraps (executor.executePublishArtifact instruction) := by
  unfold Charges executePublishArtifact
  split
  · exact refused_path
  simp only
  split
  · exact executor.failInstruction_path instruction _ (.single (.artifactRefused wrapped))
  rename_i within
  split
  · rename_i artifact _
    split
    · exact executor.failInstruction_path instruction _ (.single (.artifactRefused wrapped))
    show AccountPath copies wraps executor.accounts []
      { ({ executor with
          artifacts := executor.artifacts + 1 } : Executor).advance.accounts with
        nextArtifact := executor.nextArtifact + 1
        published := executor.result.artifacts ++ [⟨⟨executor.nextArtifact⟩, artifact⟩] }
    rw [accounts_advance]
    exact .single (.published (UInt64.not_lt.mp within) wrapped rfl)
  · exact executor.failInstruction_path instruction _ (.single (.artifactRefused wrapped))

theorem executeEnterScope_path :
    executor.Charges copies wraps (executor.executeEnterScope instruction) := by
  unfold Charges executeEnterScope
  split
  · exact refused_path
  · rw [accounts_suspend, accounts_advance]
    exact .refl _

theorem executeExitScope_path :
    executor.Charges copies wraps (executor.executeExitScope instruction) := by
  unfold Charges executeExitScope
  split
  · exact refused_path
  have same : ({ executor.advance with
      explicitScopeClose := true
      activity := .unwinding } : Executor).accounts =
      executor.advance.accounts := rfl
  rw [same, accounts_advance]
  exact .refl _

theorem executePromoteResource_path : executor.Charges copies wraps
      (executor.executePromoteResource instruction) := by
  unfold Charges executePromoteResource
  split
  · exact refused_path
  split
  · rw [accounts_suspend, accounts_advance]
    exact .refl _
  · exact refused_path

theorem executeDeferCompensation_path (wrapped : executor.actionRequests + 1 = 0 → wraps) :
    executor.Charges copies wraps (executor.executeDeferCompensation instruction) := by
  unfold Charges executeDeferCompensation
  split
  · exact refused_path
  split
  · exact refused_path
  rename_i enclosed
  split
  · exact refused_path
  split
  · exact refused_path
  simp only
  split
  · unfold actionBudgetFailure
    rw [accounts_beginFailure]
    exact .single (.requestRefused wrapped)
  rename_i within
  rw [accounts_advance]
  have counted : ∀ action : DeferredAction,
      deferredCount (executor.pushDeferred action).scopes = deferredCount executor.scopes + 1 := by
    intro action
    unfold pushDeferred deferredCount
    cases stack : executor.scopes with
    | nil => simp [stack] at enclosed
    | cons scope outer =>
      simp only [List.map_cons, List.length_cons, List.sum_cons]
      omega
  show AccountPath copies wraps executor.accounts []
    { executor.accounts with
      actionRequests := executor.actionRequests + 1
      deferred := deferredCount (executor.pushDeferred _).scopes }
  rw [counted]
  exact .single (.registered (UInt64.not_lt.mp within) wrapped)

theorem executeInstruction_path (floats : FloatUnit) (reducers : Option PureReducerInvoker)
    (copied : executor.copiesValues (.instruction instruction) = true → copies)
    (wrapped : executor.wrapsCounter (.instruction instruction) = true → wraps) :
    executor.Charges copies wraps (executeInstruction floats reducers executor instruction) := by
  unfold Charges executeInstruction
  refine (executor.trace_path "instruction" instruction.sourceLocation
    [⟨text "opcode", decimal instruction.opcode.ctorIdx⟩]).quiet_trans ?_
  generalize traced : executor.trace "instruction" instruction.sourceLocation
    [⟨text "opcode", decimal instruction.opcode.ctorIdx⟩] = begun
  have same : begun.admitsCall = executor.admitsCall ∧
      begun.actionRequests = executor.actionRequests ∧
      begun.emissions = executor.emissions ∧
      begun.artifacts = executor.artifacts := by
    rw [← traced]
    unfold trace
    split <;> exact ⟨rfl, rfl, rfl, rfl⟩
  obtain ⟨admits, requests, emissions, artifacts⟩ := same
  have called : instruction.opcode = .callLocal ∨
      instruction.opcode = .callImported →
      begun.admitsCall = true → instruction.operands ≠ [] → copies := by
    intro calls admitted operands
    refine copied ?_
    rw [admits] at admitted
    rcases calls with opcode | opcode <;> simp [copiesValues, opcode, admitted, operands]
  have charged : instruction.opcode = .awaitAction ∨
      instruction.opcode = .deferCompensation →
      begun.actionRequests + 1 = 0 → wraps := by
    intro charges full
    refine wrapped ?_
    rw [requests] at full
    rcases charges with opcode | opcode <;> simp [wrapsCounter, opcode, full]
  unfold executeOpcode
  split
  case h_1 opcode => exact begun.executeCallLocal_path instruction (called (.inl opcode))
  case h_2 opcode => exact begun.executeCallImported_path instruction (called (.inr opcode))
  case h_3 opcode => exact begun.executeAwaitAction_path instruction (charged (.inl opcode))
  case h_4 opcode =>
    refine begun.executeEmitRecord_path instruction fun full => wrapped ?_
    rw [emissions] at full
    simp [wrapsCounter, opcode, full]
  case h_5 opcode =>
    refine begun.executePublishArtifact_path instruction fun full => wrapped ?_
    rw [artifacts] at full
    simp [wrapsCounter, opcode, full]
  case h_6 => exact begun.executeEnterScope_path instruction
  case h_7 => exact begun.executeExitScope_path instruction
  case h_8 opcode => exact begun.executeDeferCompensation_path instruction (charged (.inr opcode))
  case h_9 => exact begun.executePromoteResource_path instruction
  case h_10 =>
    split
    · rename_i value _
      have silent : ∀ value, (begun.bindResult instruction
          (bindFailure instruction) value).1.actionRequests = [] := by
        intro value
        unfold bindResult
        split
        · rfl
        · split <;> rfl
      rw [silent]
      exact begun.bindResult_path instruction (bindFailure instruction) value
    · exact refused_path
    · exact refused_path

end Instructions

section Terminators

variable (terminator : Terminator)

theorem enterBlock_path {edge : BlockEdge} {after : Executor}
    (entered : executor.enterBlock edge = some after) (copied : edge.arguments ≠ [] → copies) :
    AccountPath copies wraps executor.accounts [] after.accounts := by
  unfold enterBlock at entered
  simp only [Option.bind_eq_bind, Option.pure_def] at entered
  obtain ⟨frame, _, entered⟩ := Option.bind_eq_some_iff.mp entered
  obtain ⟨target, _, entered⟩ := Option.bind_eq_some_iff.mp entered
  split at entered
  · cases entered
  obtain ⟨values, arguments, entered⟩ := Option.bind_eq_some_iff.mp entered
  cases entered
  have uncounted : values ≠ [] → copies := by
    intro some
    refine copied ?_
    intro none
    rw [none] at arguments
    cases arguments
    exact some rfl
  refine AccountPath.quiet_trans ?_ (trace_path _ _ _ _)
  have assigned := executor.environments_modifyFrame
    (enteredFrame target values)
    (assignArguments · target.arguments values) (fun _ => rfl)
  have path : AccountPath copies wraps executor.accounts [] _ :=
    .single (@AccountStep.entered copies wraps executor.accounts target.arguments values uncounted)
  rw [show executor.accounts.environments =
    executor.frames.map (·.values) from rfl, ← assigned] at path
  exact path

theorem takeEdge_path (code message : String) {edge : Option BlockEdge}
    (copied : ∀ taken, edge = some taken → taken.arguments ≠ [] → copies) :
    AccountPath copies wraps executor.accounts []
      (executor.takeEdge terminator code message edge).2.accounts := by
  unfold takeEdge
  split
  · rename_i after taken
    obtain ⟨edge, selected, entered⟩ := Option.bind_eq_some_iff.mp taken
    exact executor.enterBlock_path entered (copied edge selected)
  · exact failing_path

theorem executeReturn_path : AccountPath copies wraps executor.accounts []
      (executor.executeReturn terminator).2.accounts := by
  unfold executeReturn
  simp only
  split
  · exact failing_path
  split
  · rename_i callee caller frames stack
    have popped : AccountPath copies wraps executor.accounts []
        ({ executor with frames := caller :: frames } : Executor).accounts := by
      have path : AccountPath copies wraps executor.accounts [] _ := .single .returned
      rw [show executor.accounts.environments.tail =
        (caller :: frames).map (·.values) by simp [accounts, stack]] at path
      exact path
    generalize ({ executor with frames := caller :: frames } : Executor) = after at popped
    split
    · exact popped
    split
    · exact popped
    split
    · rename_i binding
      exact popped.quiet_trans (after.path_of_bind binding)
    · rename_i binding
      exact popped.quiet_trans (after.path_of_bind binding)
  · rw [accounts_beginReturn]
    exact .refl _

theorem executeTerminator_path
    (copied : executor.copiesValues (.terminator terminator) = true → copies) :
    AccountPath copies wraps executor.accounts []
      (executor.executeTerminator terminator).2.accounts := by
  have taken : ∀ edge, executor.selectedEdge terminator = edge →
      ∀ taken, edge = some taken → taken.arguments ≠ [] → copies := by
    intro edge selected taken is arguments
    refine copied ?_
    simp [copiesValues, selected, is, arguments]
  unfold executeTerminator
  split
  case h_1 kind =>
    have selected : executor.selectedEdge terminator =
        match terminator.edges with
        | [edge] => some edge
        | _ => none := by
      simp only [selectedEdge, kind]
    exact executor.takeEdge_path terminator _ _ (taken _ selected)
  case h_2 kind =>
    split
    · rename_i condition whenTrue whenFalse conditional edges
      refine executor.takeEdge_path terminator _ _ (taken _ ?_)
      simp only [selectedEdge, kind, conditional, edges]
    · exact failing_path
  case h_3 kind =>
    split
    · exact failing_path
    rename_i selector selects
    refine executor.takeEdge_path terminator _ _ (taken _ ?_)
    simp only [selectedEdge, kind, selects, Option.bind_some]
  case h_4 => exact executor.executeReturn_path terminator
  case h_5 => exact failing_path

end Terminators

/-! ## Cleanup, completions and pumps -/

theorem pumpCleanup_path : AccountPath copies wraps executor.accounts
      executor.pumpCleanup.1.actionRequests executor.pumpCleanup.2.accounts := by
  unfold pumpCleanup
  split
  · exact failing_path
  rename_i scope scopes stack
  split
  · rename_i deferred rest registered
    have counted : executor.accounts.deferred =
        deferredCount ({ scope with deferred := rest } :: scopes) + 1 := by
      simp only [accounts, deferredCount, stack, List.map_cons, registered,
        List.length_cons, List.sum_cons]
      omega
    exact .single (.issued counted)
  split
  · exact .refl _
  · split <;> exact .refl _

section Deliveries

variable (completion : ProgramActionResolution)

theorem deferredCount_tail (scopes : List Scope) :
    deferredCount scopes.tail ≤ deferredCount scopes := by
  cases scopes with
  | nil => exact le_refl _
  | cons scope outer =>
    simp only [deferredCount, List.tail_cons, List.map_cons, List.sum_cons]
    omega

theorem deliverSuccess_path (pending : PendingHost) (descriptor : Option ActionDescriptor) :
    AccountPath copies wraps executor.accounts []
      (executor.deliverSuccess pending descriptor completion).2.accounts := by
  unfold deliverSuccess
  split
  · split
    · exact .refl _
    · exact .refl _
    · exact bind_path ({ executor with activity := .runnable } : Executor) _ _ _
  · have opened : deferredCount (⟨pending.request.scope,
        pending.request.parentScope, []⟩ :: executor.scopes) =
        deferredCount executor.scopes := by
      simp [deferredCount]
    show AccountPath copies wraps executor.accounts []
      { executor.accounts with deferred := deferredCount (_ :: _) }
    rw [opened]
    exact .refl _
  · split
    · exact .single (.dropped (deferredCount_tail executor.scopes))
    · exact .single (.dropped (deferredCount_tail executor.scopes))
  · exact .refl _
  · exact .refl _
  · exact executor.trace_path _ _ _

theorem deliverFailure_path (success : PendingSuccess) :
    AccountPath copies wraps executor.accounts []
      (executor.deliverFailure success completion).accounts := by
  unfold deliverFailure deliverCleanupFailure
  cases success with
  | bindValue | pushScope | promote =>
    rw [accounts_beginFailure]
    exact .refl _
  | deferredCleanup | finishInvocation => exact .refl _
  | closeScope => exact .single (.dropped (deferredCount_tail executor.scopes))

theorem deliverHostCompletion_path : AccountPath copies wraps executor.accounts []
      (executor.deliverHostCompletion completion).2.accounts := by
  unfold deliverHostCompletion
  simp only
  split
  · exact .refl _
  rename_i pending _
  split
  · exact .refl _
  split
  · exact .refl _
  unfold acceptCompletion
  simp only
  split
  · exact .refl _
  have answered : ({ executor.recordCleanup completion with
      pending := none } : Executor).accounts = executor.accounts := rfl
  split
  · split
    · rw [accounts_beginFailure]
      exact .refl _
    · exact .refl _
  split
  · rw [← answered]
    exact deliverSuccess_path _ completion pending _
  · rw [← answered]
    exact deliverFailure_path _ completion pending.success

end Deliveries

theorem pumpIteration_path (floats : FloatUnit)
    (reducers : Option PureReducerInvoker) (loop : PumpLoop)
    (copied : executor.copiesValues (executor.pumpAction loop) = true → copies)
    (wrapped : executor.wrapsCounter (executor.pumpAction loop) = true → wraps) :
    AccountPath copies wraps executor.accounts
      (((executor.pumpIteration floats reducers loop).1.map PumpResult.actionRequests).getD [])
      (executor.pumpIteration floats reducers loop).2.1.accounts := by
  have handed : ∀ step : PumpResult × Executor,
      (((continueLoop loop step).1.map PumpResult.actionRequests).getD []) =
        step.1.actionRequests := by
    intro step
    have request := continueLoop_request loop step
    unfold continueLoop at request ⊢
    simp only at request ⊢
    split
    · rfl
    rename_i continues
    rw [if_neg continues] at request
    have unasked : step.1.hostRequest = none := request.symm
    simp [PumpResult.actionRequests, unasked]
  unfold pumpIteration
  split
  case h_1 => exact .refl _
  case h_2 => exact executor.pumpCleanup_path
  case h_3 => exact .refl _
  case h_4 =>
    rw [accounts_beginFailure]
    exact .refl _
  case h_5 =>
    rw [accounts_beginFailure]
    exact .refl _
  case h_6 instruction action =>
    rw [handed, continueLoop_executor]
    rw [action] at copied wrapped
    exact executor.countInstruction.executeInstruction_path instruction floats
      reducers copied wrapped
  case h_7 terminator action =>
    rw [handed, continueLoop_executor]
    rw [action] at copied
    obtain ⟨runnable, result⟩ := executor.countInstruction.executeTerminator_result terminator
    rw [result]
    exact executor.countInstruction.executeTerminator_path terminator copied

end Steps

end Executor

/-- The action requests that an event hands to the host. -/
def ExecutorEvent.actionRequests : ExecutorEvent → ActionRequests
  | .iterated _ (some result) => result.actionRequests
  | _ => []

namespace Machine

/-- The call copies values into an environment without counting them. -/
def copiesValues : Machine → ExecutorInput → Bool
  | .started executor (some loop), .iterate _ => executor.copiesValues (executor.pumpAction loop)
  | _, _ => false

/-- The call charges a 64-bit counter that is at its maximum. -/
def wrapsCounter : Machine → ExecutorInput → Bool
  | .started executor (some loop), .iterate _ => executor.wrapsCounter (executor.pumpAction loop)
  | _, _ => false

theorem step_accounts {floats : FloatUnit} {input : ExecutorInput}
    {executor : Executor} {loop : Option PumpLoop} {event : ExecutorEvent} {after : Machine}
    (stepped : Machine.step floats input (.started executor loop) = some (event, after)) :
    ∃ executor' loop', after = .started executor' loop' ∧ AccountPath
        (Machine.copiesValues (.started executor loop) input = true)
        (Machine.wrapsCounter (.started executor loop) input = true)
        executor.accounts event.actionRequests executor'.accounts := by
  obtain ⟨executor', loop', same, step⟩ := Machine.step_started stepped
  refine ⟨executor', loop', same, ?_⟩
  have silent (quiet : event.Quiet) : event.actionRequests = [] := by
    cases event with
    | iterated => cases quiet.1
    | startRejected | startAccepted | pumpReturned | pumpEntered | bound
        | delivered | cancellationRequested => rfl
  cases step with
  | refused quiet =>
    rw [silent quiet]
    exact .refl _
  | pumped maximum token quiet =>
    rw [silent quiet]
    unfold Executor.pump
    iterate 3 (split; · exact .refl _)
    split
    · rw [executor.accounts_beginFailure]
      exact .refl _
    · exact .refl _
  | iterated reducers loop =>
    have path := executor.pumpIteration_path floats reducers loop id id
    cases result : (executor.pumpIteration floats reducers loop).1 <;>
    · rw [result] at path
      exact path
  | delivered completion => exact executor.deliverHostCompletion_path completion
  | bound | cancelled => exact .refl _

end Machine

theorem Machine.step_idle_silent {floats : FloatUnit} {input : ExecutorInput}
    {event : ExecutorEvent} {after : Machine}
    (stepped : Machine.step floats input .idle = some (event, after)) :
    event.actionRequests = [] := by
  cases input with
  | start verified invocation =>
    simp only [Machine.step] at stepped
    split at stepped <;>
    · cases stepped
      rfl
  | pump | bindPendingAction | deliverHostCompletion | requestCancellation =>
    cases stepped
    rfl
  | iterate => cases stepped

/-- The accounts of an executor whose Start was accepted: its input is the only
value, and nothing was charged. -/
structure Accounts.Initial (accounts : Accounts) : Prop where
  input : ∃ id value measured, accounts.environments = [AList.singleton id value] ∧
    measureProgramValueGraph value accounts.valueLimits = .ok measured ∧
    accounts.valueCount = measured.valueCount ∧ accounts.valueBytes = measured.valueBytes
  depth : 0 < accounts.limits.maximumCallDepth.toNat
  deferred : accounts.deferred = 0
  emitted : accounts.emitted = []
  published : accounts.published = []
  traced : accounts.traced = []
  nextTrace : accounts.nextTrace = 1
  nextEmission : accounts.nextEmission = 1
  nextArtifact : accounts.nextArtifact = 1

/-- An accepted Start opens the accounts and may trace its beginning. -/
theorem Executor.start_accounts {verified : VerifiedProgramModule}
    {invocation : ProgramInvocation} {executor : Executor}
    (accepted : Executor.start verified invocation = .ok executor) (copies wraps : Prop) :
    ∃ accounts : Accounts, accounts.Initial ∧
      AccountPath copies wraps accounts [] executor.accounts := by
  obtain ⟨function, block, argument, measured, nonzero, measures, rfl⟩ := start_eq_ok accepted
  have depth : 0 < invocation.limits.maximumCallDepth.toNat := by
    simp only [startBudgetsNonzero, Bool.and_eq_true, bne_iff_ne, ne_eq] at nonzero
    have set := nonzero.1.1.1.1.2
    by_contra zero
    refine set (UInt64.toNat_inj.mp ?_)
    rw [UInt64.toNat_zero]
    omega
  refine ⟨(initial verified invocation function block argument
    measured).accounts, ?_, trace_path _ _ _ _⟩
  exact
    { input := ⟨argument.id, invocation.input, measured, rfl, measures, rfl, rfl⟩
      depth := depth
      deferred := rfl
      emitted := rfl
      published := rfl
      traced := rfl
      nextTrace := rfl
      nextEmission := rfl
      nextArtifact := rfl }

end Savor.Program

import Savor.Workflow.InstanceCommands

/-!
# Creating workflow instances

`SqliteWorkflowOrchestrationCommandService::CreateWorkflowInstance`.  The
checks and the inserts stand in the order of the source; every error rolls the
transaction back.
-/

namespace Savor.Workflow

open Library
open Program (ByteString text decimal)

/-- `WorkflowCreateUnitStepSpec`. -/
structure CreateUnitStepSpec where
  (stepKey stepKeySuffix stepKind : ByteString)
  dependencies : List ByteString
  (guardKind guardValue : Option ByteString)
  priority : Int
  maxAttempts : Nat
  inputRefKind : Option ByteString
  inputRefId : Option Nat

/-- `WorkflowCreateUnitActivationSpec`. -/
structure CreateUnitActivationSpec where
  activationKey : ByteString
  parentActivationKey : Option ByteString
  (graphNodeKey unitKind displayName activationParamsJson : ByteString)
  authoredRefKind : Option ByteString
  authoredRefId : Option Nat
  dependencies : List ByteString
  steps : List CreateUnitStepSpec

/-- `WorkflowCreateUnitActivationEdgeSpec`. -/
structure CreateUnitActivationEdgeSpec where
  (fromActivationKey toActivationKey : ByteString)
  (outputKey inputKey conditionKind conditionValue : Option ByteString)

/-- `WorkflowCreateInstanceInputBindingSpec`. -/
structure CreateInputBindingSpec where
  (nodeKey inputKey dataKind refKind : ByteString)
  refId : Nat
  sourceKind : ByteString
  deriving DecidableEq

/-- `WorkflowCreateInstanceArgumentSpec`. -/
structure CreateArgumentSpec where
  (nodeKey argumentKey valueType : ByteString)
  integerValue : Option Int
  textValue : Option ByteString
  sourceKind : ByteString
  deriving DecidableEq

/-- `WorkflowCreateInstanceCommand`. -/
structure CreateInstanceCommand where
  (workflowKind rootScopeKind : ByteString)
  (rootScopeId workflowGraphRevisionId : Option Nat)
  launchKey : Option ByteString
  createdBy : ByteString
  createdAt : Nat
  unitActivations : List CreateUnitActivationSpec
  activationEdges : List CreateUnitActivationEdgeSpec
  inputBindings : List CreateInputBindingSpec
  arguments : List CreateArgumentSpec

def stepKeyForActivation (activationKey : ByteString) (step : CreateUnitStepSpec) : ByteString :=
  if step.stepKey ≠ [] then step.stepKey
  else if step.stepKeySuffix = [] then activationKey
  else activationKey ++ text "/" ++ step.stepKeySuffix

/-- `node_key + "\n" + member`. -/
def memberKey (nodeKey member : ByteString) : ByteString :=
  nodeKey ++ text "\n" ++ member

/-- One round of the loop over the input bindings, with the keys of the
earlier ones. -/
def checkInputBinding (seen : List ByteString) (binding : CreateInputBindingSpec) :
    Except ByteString (List ByteString) :=
  if binding.nodeKey = [] ∨ binding.inputKey = [] then
    .error (text "input binding node_key and input_key are required")
  else if binding.dataKind = [] ∨ binding.refKind = [] ∨ binding.refId = 0 then
    .error (text "input binding data_kind, ref_kind, and ref_id are required")
  else if memberKey binding.nodeKey binding.inputKey ∈ seen then
    .error (text "duplicate input binding for node/input: " ++
      binding.nodeKey ++ text "/" ++ binding.inputKey)
  else .ok (seen ++ [memberKey binding.nodeKey binding.inputKey])

/-- The argument types that keep an integer. -/
def IntegerTyped (valueType : ByteString) : Prop :=
  valueType = text "integer" ∨ valueType = text "boolean"

instance : DecidablePred IntegerTyped := fun _ => inferInstanceAs (Decidable (_ ∨ _))

/-- The argument types that keep a text. -/
def TextTyped (valueType : ByteString) : Prop :=
  valueType = text "text" ∨ valueType = text "json" ∨ valueType = text "choice"

instance : DecidablePred TextTyped := fun _ => inferInstanceAs (Decidable (_ ∨ _ ∨ _))

/-- One round of the loop over the arguments, with the keys of the earlier
ones. -/
def checkArgument (seen : List ByteString) (argument : CreateArgumentSpec) :
    Except ByteString (List ByteString) :=
  if argument.argumentKey = [] then
    .error (text "argument_key is required")
  else if ¬ IntegerTyped argument.valueType ∧ ¬ TextTyped argument.valueType then
    .error (text <| "argument value_type must be integer, text, json, " ++ "boolean, or choice")
  else if IntegerTyped argument.valueType ∧ argument.integerValue = none then
    .error (text "integer and boolean arguments require integer_value")
  else if TextTyped argument.valueType ∧ argument.textValue = none then
    .error (text "text and json arguments require text_value")
  else if memberKey argument.nodeKey argument.argumentKey ∈ seen then
    .error (text "duplicate workflow argument for node/key: " ++
      argument.nodeKey ++ text "/" ++ argument.argumentKey)
  else .ok (seen ++ [memberKey argument.nodeKey argument.argumentKey])

variable (command : CreateInstanceCommand)

/-- The part of the command that is checked before the transaction begins. -/
def checkCreateCommand : Except ByteString Unit :=
  if command.workflowKind ≠ text "workflow_graph" then
    .error (text "workflow_kind must be workflow_graph")
  else if command.workflowGraphRevisionId.getD 0 = 0 then
    .error (text "workflow_graph_revision_id is required")
  else if command.rootScopeKind = [] then
    .error (text "root_scope_kind is required")
  else if command.unitActivations = [] then
    .error (text "at least one workflow unit activation is required")
  else
    match command.inputBindings.foldlM checkInputBinding [] with
    | .error message => .error message
    | .ok _ =>
      match command.arguments.foldlM checkArgument [] with
      | .error message => .error message
      | .ok _ => .ok ()

/-- The instance with a launch key. -/
def ExecutionDb.launchedAs (db : ExecutionDb)
    (launchKey : Option ByteString) : Option WorkflowInstanceRow :=
  match launchKey with
  | none => none
  | some launchKey => db.instances.rows.find? fun row => row.launchKey = some launchKey

/-- `exact`: what a launch with a known key is compared on. -/
def LaunchMatches (row : WorkflowInstanceRow) : Prop :=
  row.workflowGraphRevisionId = command.workflowGraphRevisionId ∧
    row.rootScopeKind = command.rootScopeKind ∧ row.rootScopeId = command.rootScopeId

instance (command : CreateInstanceCommand) : DecidablePred (LaunchMatches command) :=
  fun _ => inferInstanceAs (Decidable (_ ∧ _ ∧ _))

/-- What the inserts of a creation keep: the database, the ids of the inserted
activations and steps by key, the first step of every activation and the ids
of the steps that start ready. -/
structure Creation where
  db : ExecutionDb
  (activationIds firstSteps stepIds : List (ByteString × Nat))
  readySteps : List Nat

/-- One round of the loop that checks the activations, with the keys of the
earlier ones. -/
def checkActivation (seen : List ByteString) (activation : CreateUnitActivationSpec) :
    Except ByteString (List ByteString) :=
  if activation.activationKey = [] ∨ activation.unitKind = [] then
    .error (text "activation_key and unit_kind are required")
  else if activation.steps = [] then
    .error (text "unit activation requires at least one step: " ++ activation.activationKey)
  else if activation.activationKey ∈ seen then
    .error (text "duplicate activation_key: " ++ activation.activationKey)
  else .ok (seen ++ [activation.activationKey])

/-- The edge names two activations of the command. -/
def EdgeEndsKnown (activationKeys : List ByteString) (edge : CreateUnitActivationEdgeSpec) : Prop :=
  edge.fromActivationKey ≠ [] ∧ edge.toActivationKey ≠ [] ∧
    edge.fromActivationKey ∈ activationKeys ∧ edge.toActivationKey ∈ activationKeys

instance (activationKeys : List ByteString) : DecidablePred (EdgeEndsKnown activationKeys) :=
  fun _ => inferInstanceAs (Decidable (_ ∧ _ ∧ _ ∧ _))

variable (activation : CreateUnitActivationSpec)

/-- The activation starts ready: it has no dependencies and no incoming
edge. -/
def StartsReady : Prop :=
  activation.dependencies = [] ∧ ∀ edge ∈ command.activationEdges,
    edge.toActivationKey ≠ activation.activationKey

instance (command : CreateInstanceCommand) : DecidablePred (StartsReady command) :=
  fun _ => inferInstanceAs (Decidable (_ ∧ ∀ _ ∈ _, _))

/-- `graph_node_key.empty() ? activation_key : graph_node_key`. -/
def effectiveNodeKey : ByteString :=
  if activation.graphNodeKey = [] then activation.activationKey
  else activation.graphNodeKey

variable (workflowInstanceId : Nat)

/-- The inserted activation row. -/
def activationRow (parent : Option Nat) (now : Nat)
    (activation : CreateUnitActivationSpec) (id : Nat) : WorkflowUnitActivationRow where
  workflowUnitActivationId := id
  workflowInstanceId
  parentWorkflowUnitActivationId := parent
  activationKey := activation.activationKey
  graphNodeKey := effectiveNodeKey activation
  unitKind := activation.unitKind
  displayName :=
    if activation.displayName = [] then activation.unitKind
    else activation.displayName
  state := if StartsReady command activation then .ready else .waiting
  activationParamsJson := activation.activationParamsJson
  authoredRefKind := activation.authoredRefKind
  authoredRefId := activation.authoredRefId
  failureCode := none
  failureText := none
  createdAt := now
  readyAt := if StartsReady command activation then some now else none
  startedAt := none
  completedAt := none
  failedAt := none

/-- The id under which an activation names its parent: the parent has to be
inserted before. -/
def parentActivationId (creation : Creation) (activation : CreateUnitActivationSpec) :
    Except ByteString (Option Nat) :=
  match activation.parentActivationKey with
  | none => .ok none
  | some parentKey =>
    match creation.activationIds.lookup parentKey with
    | none => .error (text "parent activation not found: " ++ parentKey)
    | some id => .ok (some id)

variable (now : Nat)

/-- One round of the loop that inserts the activations. -/
def insertActivation (creation : Creation)
    (activation : CreateUnitActivationSpec) : Except ByteString Creation :=
  match parentActivationId creation activation with
  | .error message => .error message
  | .ok parent =>
    .ok { creation with
      db := { creation.db with
        activations := creation.db.activations.insert
          (activationRow command workflowInstanceId parent now activation)
          ⟨fun _ => rfl⟩ }
      activationIds := creation.activationIds ++
        [(activation.activationKey, creation.db.activations.nextId)] }

/-- The step starts ready. -/
def StepStartsReady (step : CreateUnitStepSpec) : Prop :=
  StartsReady command activation ∧ step.dependencies = []

instance (command : CreateInstanceCommand) (activation : CreateUnitActivationSpec) :
    DecidablePred (StepStartsReady command activation) :=
  fun _ => inferInstanceAs (Decidable (_ ∧ _))

/-- The inserted step row. -/
def stepRow (activationId : Option Nat) (activation : CreateUnitActivationSpec)
    (step : CreateUnitStepSpec) (id : Nat) : WorkflowStepRow where
  workflowStepId := id
  workflowInstanceId
  workflowUnitActivationId := activationId
  stepKey := stepKeyForActivation activation.activationKey step
  graphNodeKey := effectiveNodeKey activation
  stepKind := step.stepKind
  state := if StepStartsReady command activation step then .ready
    else .waiting
  guardKind := step.guardKind
  guardValue := step.guardValue
  priority := step.priority
  attempts := 0
  maxAttempts := if 0 < step.maxAttempts then step.maxAttempts else 1
  jobSetId := none
  inputRefKind := step.inputRefKind
  inputRefId := step.inputRefId
  outputRefKind := none
  outputRefId := none
  blockedReason := none
  createdAt := now
  readyAt := if StepStartsReady command activation step then some now
    else none
  startedAt := none
  completedAt := none
  failedAt := none

/-- One round of the loop that inserts the steps of an activation. -/
def insertStep (activation : CreateUnitActivationSpec) (creation : Creation)
    (step : CreateUnitStepSpec) : Except ByteString Creation :=
  let stepKey := stepKeyForActivation activation.activationKey step
  let stepId := creation.db.steps.nextId
  if stepKey = [] ∨ step.stepKind = [] then
    .error (text "step_key and step_kind are required")
  else if (creation.stepIds.lookup stepKey).isSome then
    .error (text "duplicate step_key: " ++ stepKey)
  else
    .ok { creation with
      db := { creation.db with
        steps := creation.db.steps.insert
          (stepRow command workflowInstanceId now
            (creation.activationIds.lookup activation.activationKey) activation step)
          ⟨fun _ => rfl⟩ }
      stepIds := creation.stepIds ++ [(stepKey, stepId)]
      firstSteps :=
        if (creation.firstSteps.lookup activation.activationKey).isSome then
          creation.firstSteps
        else creation.firstSteps ++ [(activation.activationKey, stepId)]
      readySteps :=
        if StepStartsReady command activation step then
          creation.readySteps ++ [stepId]
        else creation.readySteps }

/-- The inserts of the steps of an activation. -/
def insertStepsOf (creation : Creation)
    (activation : CreateUnitActivationSpec) : Except ByteString Creation :=
  activation.steps.foldlM (insertStep command workflowInstanceId now activation) creation

/-- The unique constraint on activation edges.  Null keys are different from
each other. -/
def ActivationEdgeTaken (db : ExecutionDb) (edge : WorkflowUnitActivationEdgeRow) : Prop :=
  edge.outputKey ≠ none ∧ edge.inputKey ≠ none ∧
    ∃ row ∈ db.activationEdges.rows,
      row.workflowInstanceId = edge.workflowInstanceId ∧
        row.fromActivationId = edge.fromActivationId ∧ row.toActivationId = edge.toActivationId ∧
        row.outputKey = edge.outputKey ∧ row.inputKey = edge.inputKey

instance (db : ExecutionDb) : DecidablePred (ActivationEdgeTaken db) :=
  fun _ => inferInstanceAs (Decidable (_ ∧ _ ∧ ∃ _ ∈ _, _))

/-- The unique constraint on step edges. -/
def StepEdgeTaken (db : ExecutionDb) (edge : WorkflowEdgeRow) : Prop :=
  ∃ row ∈ db.edges.rows,
    row.workflowInstanceId = edge.workflowInstanceId ∧
      row.fromStepId = edge.fromStepId ∧ row.toStepId = edge.toStepId

instance (db : ExecutionDb) : DecidablePred (StepEdgeTaken db) :=
  fun _ => inferInstanceAs (Decidable (∃ _ ∈ _, _))

/-- Insert an activation edge. -/
def insertActivationEdge (make : Nat → WorkflowUnitActivationEdgeRow)
    (named : MakesKey (·.workflowUnitActivationEdgeId) make)
    (db : ExecutionDb) : Except ByteString ExecutionDb :=
  if ActivationEdgeTaken db (make 0) then
    .error (text <| "UNIQUE constraint failed: " ++ "exec_workflow_unit_activation_edge")
  else .ok { db with activationEdges := db.activationEdges.insert make named }

/-- Insert a step edge. -/
def insertStepEdge (make : Nat → WorkflowEdgeRow) (named : MakesKey (·.workflowEdgeId) make)
    (db : ExecutionDb) : Except ByteString ExecutionDb :=
  if StepEdgeTaken db (make 0) then
    .error (text "UNIQUE constraint failed: exec_workflow_edge")
  else .ok { db with edges := db.edges.insert make named }

/-- The activation edge and the step edge between two activations. -/
def insertEdgePair (missing : ByteString) (edge : CreateUnitActivationEdgeSpec)
    (creation : Creation) : Except ByteString Creation :=
  match creation.firstSteps.lookup edge.fromActivationKey,
    creation.firstSteps.lookup edge.toActivationKey with
  | some fromStep, some toStep =>
    let fromId := (creation.activationIds.lookup edge.fromActivationKey).getD 0
    let toId := (creation.activationIds.lookup edge.toActivationKey).getD 0
    match insertActivationEdge (fun id =>
        ⟨id, workflowInstanceId, fromId, toId, edge.outputKey,
          edge.inputKey, edge.conditionKind, edge.conditionValue, now⟩)
        ⟨fun _ => rfl⟩ creation.db with
    | .error message => .error message
    | .ok db =>
      match insertStepEdge (fun id =>
          ⟨id, workflowInstanceId, fromStep, toStep, edge.conditionKind,
            edge.conditionValue, now⟩) ⟨fun _ => rfl⟩ db with
      | .error message => .error message
      | .ok db => .ok { creation with db }
  | _, _ => .error missing

/-- The edge that a dependency of an activation stands for. -/
def dependencyEdge (dependencyKey : ByteString) : CreateUnitActivationEdgeSpec where
  fromActivationKey := dependencyKey
  toActivationKey := activation.activationKey
  outputKey := none
  inputKey := none
  conditionKind := none
  conditionValue := none

/-- The inserts for the dependencies of an activation. -/
def insertDependenciesOf (creation : Creation)
    (activation : CreateUnitActivationSpec) : Except ByteString Creation :=
  activation.dependencies.foldlM
    (fun creation dependencyKey =>
      insertEdgePair workflowInstanceId now
        (text "activation dependency references unknown activation key")
        (dependencyEdge activation dependencyKey) creation)
    creation

/-- The inserts for an explicit edge. -/
def insertExplicitEdge (creation : Creation)
    (edge : CreateUnitActivationEdgeSpec) : Except ByteString Creation :=
  insertEdgePair workflowInstanceId now
    (text "workflow activation edge has no execution step endpoint") edge
    creation

/-- The step edge for a dependency of a step. -/
def insertStepDependency (stepKey : ByteString) (creation : Creation) (dependencyKey : ByteString) :
    Except ByteString Creation :=
  match creation.stepIds.lookup stepKey with
  | none => .ok creation
  | some toStep =>
    match creation.stepIds.lookup dependencyKey with
    | none =>
      .error (text "step dependency references unknown step key")
    | some fromStep =>
      match insertStepEdge (fun id =>
          ⟨id, workflowInstanceId, fromStep, toStep, none, none, now⟩)
          ⟨fun _ => rfl⟩ creation.db with
      | .error message => .error message
      | .ok db => .ok { creation with db }

/-- The step edges for the dependencies of the steps of an activation. -/
def insertStepDependenciesOf (creation : Creation) (activation : CreateUnitActivationSpec) :
    Except ByteString Creation :=
  activation.steps.foldlM
    (fun creation step => step.dependencies.foldlM
      (insertStepDependency workflowInstanceId now
        (stepKeyForActivation activation.activationKey step)) creation)
    creation

/-- The inserted binding row. -/
def inputBindingRow (revisionId now : Nat) (binding : CreateInputBindingSpec)
    (id : Nat) : InputBindingRow where
  inputBindingId := id
  workflowInstanceId
  workflowGraphRevisionId := revisionId
  nodeKey := binding.nodeKey
  inputKey := binding.inputKey
  dataKind := binding.dataKind
  refKind := binding.refKind
  refId := binding.refId
  sourceKind := if binding.sourceKind = [] then none else some binding.sourceKind
  createdAt := now

/-- The inserts of the bindings. -/
def insertInputBindings (revisionId now : Nat)
    (bindings : List CreateInputBindingSpec) (db : ExecutionDb) : ExecutionDb :=
  { db with
    inputBindings := bindings.foldl
      (fun table binding => table.insert
        (inputBindingRow workflowInstanceId revisionId now binding)
        ⟨fun _ => rfl⟩) db.inputBindings }

/-- The inserted argument row. -/
def argumentRow (argument : CreateArgumentSpec) (id : Nat) : ArgumentRow where
  argumentId := id
  workflowInstanceId
  nodeKey := argument.nodeKey
  argumentKey := argument.argumentKey
  valueType := argument.valueType
  integerValue := argument.integerValue
  textValue := argument.textValue
  sourceKind := if argument.sourceKind = [] then none else some argument.sourceKind
  createdAt := now

/-- The check constraint on argument rows: an integer or a text, by type. -/
def ArgumentShaped (argument : CreateArgumentSpec) : Prop :=
  IntegerTyped argument.valueType ∧ argument.integerValue ≠ none ∧ argument.textValue = none ∨
    TextTyped argument.valueType ∧ argument.integerValue = none ∧ argument.textValue ≠ none

instance : DecidablePred ArgumentShaped :=
  fun _ => inferInstanceAs (Decidable (_ ∧ _ ∧ _ ∨ _ ∧ _ ∧ _))

/-- The inserts of the arguments. -/
def insertArguments (arguments : List CreateArgumentSpec) (db : ExecutionDb) :
    Except ByteString ExecutionDb :=
  if ∀ argument ∈ arguments, ArgumentShaped argument then
    .ok { db with
      arguments := arguments.foldl
        (fun table argument => table.insert
          (argumentRow workflowInstanceId now argument) ⟨fun _ => rfl⟩)
        db.arguments }
  else
    .error (text <| "CHECK constraint failed: " ++ "exec_workflow_instance_argument")

/-- The inserted instance row. -/
def instanceRow (id : Nat) : WorkflowInstanceRow where
  workflowInstanceId := id
  workflowKind := command.workflowKind
  state := .running
  rootScopeKind := command.rootScopeKind
  rootScopeId := command.rootScopeId
  createdBy := command.createdBy
  createdAt := now
  startedAt := some now
  completedAt := none
  failureCode := none
  failureText := none
  workflowGraphRevisionId := command.workflowGraphRevisionId
  launchKey := command.launchKey

/-- The activations, steps and edges of a new instance. -/
def insertGraph (db : ExecutionDb) : Except ByteString Creation := do
  let activationKeys ← command.unitActivations.foldlM checkActivation []
  if ¬ ∀ edge ∈ command.activationEdges, EdgeEndsKnown activationKeys edge then
    .error (text "workflow activation edge references an unknown activation")
  else
    let activated ← command.unitActivations.foldlM
      (insertActivation command workflowInstanceId now) ⟨db, [], [], [], []⟩
    let stepped ← command.unitActivations.foldlM
      (insertStepsOf command workflowInstanceId now) activated
    let depending ← command.unitActivations.foldlM
      (insertDependenciesOf workflowInstanceId now) stepped
    let connected ← command.activationEdges.foldlM
      (insertExplicitEdge workflowInstanceId now) depending
    command.unitActivations.foldlM (insertStepDependenciesOf workflowInstanceId now) connected

/-- The bindings, arguments and events of a new instance. -/
def finishCreation (creation : Creation) : Except ByteString ExecutionDb :=
  match insertArguments workflowInstanceId now command.arguments
      (insertInputBindings workflowInstanceId
        (command.workflowGraphRevisionId.getD 0) now command.inputBindings creation.db) with
  | .error message => .error message
  | .ok db =>
    .ok (creation.readySteps.foldl
      (fun db stepId => emitLifecycleEvent workflowInstanceId (some stepId)
        (text "Execution.WorkflowStepReady.v1") (text "create") now db)
      (emitLifecycleEvent workflowInstanceId none
        (text "Execution.WorkflowInstanceCreated.v1") (text "create") now db))

/-- The root scopes that the check constraint on instances allows. -/
def RootScopeAllowed (rootScopeKind : ByteString) : Prop :=
  rootScopeKind ∈ [text "job_set", text "run", text "manual"]

instance : DecidablePred RootScopeAllowed := fun _ => inferInstanceAs (Decidable (_ ∈ _))

/-- Insert a new instance with everything that belongs to it. -/
def insertInstance (db : ExecutionDb) : Except ByteString (Nat × ExecutionDb) :=
  if ¬ RootScopeAllowed command.rootScopeKind then
    .error (text "CHECK constraint failed: root_scope_kind")
  else
    let workflowInstanceId := db.instances.nextId
    let inserted := { db with
      instances := db.instances.insert (instanceRow command now) ⟨fun _ => rfl⟩ }
    match insertGraph command workflowInstanceId now inserted with
    | .error message => .error message
    | .ok creation =>
      match finishCreation command workflowInstanceId now creation with
      | .error message => .error message
      | .ok created => .ok (workflowInstanceId, created)

/-- `CreateWorkflowInstance`, which answers the id of the instance. -/
def createWorkflowInstance (clock : Nat) (db : ExecutionDb) :
    Except ByteString (Nat × ExecutionDb) :=
  match checkCreateCommand command with
  | .error message => .error message
  | .ok () =>
    let now := if 0 < command.createdAt then command.createdAt else clock
    match db.launchedAs command.launchKey with
    | some row =>
      if LaunchMatches command row then .ok (row.workflowInstanceId, db)
      else
        .error (text "workflow launch key identifies a different immutable launch")
    | none => insertInstance command now db

end Savor.Workflow

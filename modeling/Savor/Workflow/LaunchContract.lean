import Savor.Library.Rounds
import Savor.Workflow.CreateInstance
import Savor.Workflow.DefaultUnits

/-!
# The launch contract

`WorkflowLaunchContractValidator::Validate`: the passes over the nodes, the
edges, the external inputs and the arguments of a launch, each with the issues
it reports.
-/

namespace Savor.Workflow

open Library
open Program (ByteString text)

structure WorkflowGraphNodeArgumentSnapshot where
  (argumentKey valueType : ByteString)
  required : Bool
  defaultValue : Option ByteString
  minimumInteger : Option Int
  maximumInteger : Option Nat
  choices : List WorkflowLaunchArgumentChoice
  /-- `binding_mode == BindingMode::Constant`. -/
  isConstant : Bool
  constantValue : Option ByteString

/-- `WorkflowGraphNodeSnapshot`; its inputs and outputs are ports. -/
structure WorkflowGraphNodeSnapshot where
  (nodeKey unitKind displayName : ByteString)
  authoredRefKind : Option ByteString
  authoredRefId : Option Nat
  (inputs possibleOutputs : List WorkflowPortDefinition)
  arguments : List WorkflowGraphNodeArgumentSnapshot
  argumentConstraints : List WorkflowLaunchArgumentConstraint

structure WorkflowGraphEdgeSnapshot where
  (fromNodeKey outputKey toNodeKey inputKey edgeKind : ByteString)
  (guardKind guardValue : Option ByteString)

structure WorkflowGraphSnapshot where
  workflowGraphRevisionId : Nat
  nodes : List WorkflowGraphNodeSnapshot
  edges : List WorkflowGraphEdgeSnapshot

variable (node : WorkflowGraphNodeSnapshot)

def WorkflowGraphNodeSnapshot.findInput (key : ByteString) : Option WorkflowPortDefinition :=
  node.inputs.find? (·.key = key)

def WorkflowGraphNodeSnapshot.findOutput (key : ByteString) : Option WorkflowPortDefinition :=
  node.possibleOutputs.find? (·.key = key)

def valueTypeName : WorkflowLaunchArgumentValueType → ByteString
  | .integer => text "integer"
  | .text => text "text"
  | .boolean => text "boolean"
  | .json => text "json"
  | .choice => text "choice"

/-- The issue of an input that the registered unit declares. -/
def inputContractIssue (expected : WorkflowPortDefinition) : List ByteString :=
  let issue := [text "saved workflow input contract mismatch: " ++
    node.nodeKey ++ text "." ++ expected.key]
  match node.findInput expected.key with
  | none => issue
  | some actual =>
    if actual.dataKind ≠ expected.dataKind ∨
        actual.refKind ≠ expected.refKind ∨
        actual.required ≠ expected.required then issue
    else []

/-- The issue of an output that the registered unit declares. -/
def outputContractIssue (expected : WorkflowPortDefinition) : List ByteString :=
  let issue := [text "saved workflow output contract mismatch: " ++
    node.nodeKey ++ text "." ++ expected.key]
  match node.findOutput expected.key with
  | none => issue
  | some actual =>
    if actual.dataKind ≠ expected.dataKind ∨ actual.refKind ≠ expected.refKind then issue
    else []

/-- The saved argument agrees with the declared one, apart from the choices
themselves. -/
def ArgumentAgrees (expected : WorkflowLaunchArgumentDefinition)
    (actual : WorkflowGraphNodeArgumentSnapshot) : Prop :=
  actual.valueType = valueTypeName expected.valueType ∧ actual.required = expected.required ∧
    actual.defaultValue = expected.defaultValue ∧ actual.minimumInteger = expected.minimumInteger ∧
    actual.maximumInteger = expected.maximumInteger ∧
    actual.choices.length = expected.choices.length

instance (expected : WorkflowLaunchArgumentDefinition) : DecidablePred (ArgumentAgrees expected) :=
  fun _ => inferInstanceAs (Decidable (_ ∧ _ ∧ _ ∧ _ ∧ _ ∧ _))

/-- The issue of an argument that the registered unit declares. -/
def argumentContractIssue (expected : WorkflowLaunchArgumentDefinition) : List ByteString :=
  let issue := [text "saved workflow argument contract mismatch: " ++
    node.nodeKey ++ text "." ++ expected.key]
  match node.arguments.find? (·.argumentKey = expected.key) with
  | none => issue
  | some actual =>
    if ¬ ArgumentAgrees expected actual then issue
    else if actual.choices ≠ expected.choices then
      [text "saved workflow argument choice contract mismatch: " ++
        node.nodeKey ++ text "." ++ expected.key]
    else []

/-- The issues of a node whose unit is registered. -/
def unitContractIssues (unit : WorkflowUnitDefinition)
    (node : WorkflowGraphNodeSnapshot) : List ByteString :=
  (if node.inputs.length ≠ unit.requiredInputs.length ∨
      node.possibleOutputs.length ≠ unit.possibleOutputs.length ∨
      node.arguments.length ≠ unit.launchArguments.length ∨
      node.argumentConstraints.length ≠ unit.launchArgumentConstraints.length then
    [text "saved workflow node contract does not match its registered " ++
      text "unit: " ++ node.nodeKey]
  else []) ++
  unit.requiredInputs.flatMap (inputContractIssue node) ++
  unit.possibleOutputs.flatMap (outputContractIssue node) ++
  unit.launchArguments.flatMap (argumentContractIssue node) ++
  unit.launchArgumentConstraints.flatMap (fun expected =>
    if expected ∈ node.argumentConstraints then []
    else [text "saved workflow argument constraint mismatch: " ++ node.nodeKey]) ++
  unit.authoredRefs.flatMap (fun requirement =>
    if requirement.required ∧
        (node.authoredRefKind ≠ some requirement.refKind ∨ node.authoredRefId.getD 0 = 0) then
      [text "required authored reference is unresolved: " ++ node.nodeKey ++
        text "." ++ requirement.refKind]
    else [])

/-- The registry that a launch is checked against. -/
abbrev LaunchRegistry := WorkflowUnitRegistry WorkflowOutputs.forStepKind

/-- One round of the pass over the nodes, with the nodes that have a key. -/
def checkNode (registry : LaunchRegistry) (nodes : List WorkflowGraphNodeSnapshot)
    (node : WorkflowGraphNodeSnapshot) : List ByteString × List WorkflowGraphNodeSnapshot :=
  if node.nodeKey = [] ∨ node.nodeKey ∈ nodes.map (·.nodeKey) then
    ([text "workflow graph has an empty or duplicate node key"], nodes)
  else
    match registry.find node.unitKind with
    | none =>
      ([text "unknown workflow unit: " ++ node.unitKind], nodes ++ [node])
    | some unit => (unitContractIssues unit node, nodes ++ [node])

variable (nodes : List WorkflowGraphNodeSnapshot)

/-- The node with a key. -/
def findNode (key : ByteString) : Option WorkflowGraphNodeSnapshot := nodes.find? (·.nodeKey = key)

/-- The ports of a data edge between two nodes. -/
def checkPorts (fromNode toNode : WorkflowGraphNodeSnapshot)
    (edgeInputs : List ByteString) (edge : WorkflowGraphEdgeSnapshot) :
    List ByteString × List ByteString :=
  match fromNode.findOutput edge.outputKey, toNode.findInput edge.inputKey with
  | some output, some input =>
    if output.dataKind ≠ input.dataKind ∨ output.refKind ≠ input.refKind
    then
      ([text "workflow edge data/ref kind mismatch: " ++ edge.toNodeKey ++
        text "." ++ edge.inputKey], edgeInputs)
    else if memberKey edge.toNodeKey edge.inputKey ∈ edgeInputs then
      ([text "workflow input has more than one upstream edge: " ++
        edge.toNodeKey ++ text "." ++ edge.inputKey], edgeInputs)
    else ([], edgeInputs ++ [memberKey edge.toNodeKey edge.inputKey])
  | _, _ =>
    ([text "workflow edge references an unknown port"], edgeInputs)

/-- One round of the pass over the edges, with the inputs that have an
edge. -/
def checkEdge (edgeInputs : List ByteString) (edge : WorkflowGraphEdgeSnapshot) :
    List ByteString × List ByteString :=
  match findNode nodes edge.fromNodeKey, findNode nodes edge.toNodeKey with
  | some fromNode, some toNode =>
    if edge.edgeKind = text "CONTROL" then
      (if edge.outputKey ≠ [] ∨ edge.inputKey ≠ [] then
        [text "workflow control edge must not declare data ports"]
      else [], edgeInputs)
    else if edge.edgeKind ≠ text "DATA" then
      ([text "workflow edge has an unsupported kind"], edgeInputs)
    else checkPorts fromNode toNode edgeInputs edge
  | _, _ =>
    ([text "workflow edge references an unknown node"], edgeInputs)

/-- `WorkflowLaunchInputValue`, which has the fields of a binding. -/
abbrev WorkflowLaunchInputValue := CreateInputBindingSpec

/-- The issue of an external input whose source does not fit to the edges. -/
def sourceIssue (edgeInputs : List ByteString)
    (supplied : WorkflowLaunchInputValue) : List ByteString :=
  let key := memberKey supplied.nodeKey supplied.inputKey
  if supplied.sourceKind = text "external_override" ∧ key ∉ edgeInputs then
    [text "external_override requires an authored edge: " ++
      supplied.nodeKey ++ text "." ++ supplied.inputKey]
  else if supplied.sourceKind ≠ text "external_override" ∧ key ∈ edgeInputs then
    [text "input is supplied by both an edge and an external binding: " ++
      supplied.nodeKey ++ text "." ++ supplied.inputKey]
  else []

/-- One round of the pass over the external inputs, with the earlier ones. -/
def checkExternalInput (edgeInputs externalInputs : List ByteString)
    (supplied : WorkflowLaunchInputValue) : List ByteString × List ByteString :=
  match findNode nodes supplied.nodeKey with
  | none =>
    ([text "external input references an unknown node or invalid id"], externalInputs)
  | some node =>
    if supplied.refId = 0 then
      ([text "external input references an unknown node or invalid id"], externalInputs)
    else
      match (node.findInput supplied.inputKey).filter fun input =>
          input.dataKind = supplied.dataKind ∧ input.refKind = supplied.refKind with
      | none =>
        ([text "external input data/ref kind mismatch: " ++
          supplied.nodeKey ++ text "." ++ supplied.inputKey], externalInputs)
      | some _ =>
        let key := memberKey supplied.nodeKey supplied.inputKey
        ((if key ∈ externalInputs then
          [text "duplicate external input: " ++ supplied.nodeKey ++ text "." ++ supplied.inputKey]
        else []) ++ sourceIssue edgeInputs supplied, if key ∈ externalInputs then externalInputs
          else externalInputs ++ [key])

/-- The issues of required inputs that nothing supplies. -/
def requiredInputIssues (edgeInputs externalInputs : List ByteString)
    (node : WorkflowGraphNodeSnapshot) : List ByteString :=
  node.inputs.flatMap fun input =>
    if input.required ∧ memberKey node.nodeKey input.key ∉ edgeInputs ∧
        memberKey node.nodeKey input.key ∉ externalInputs then
      [text "required input is not supplied: " ++ node.nodeKey ++ text "." ++ input.key]
    else []

/-- `WorkflowLaunchArgumentValue`, which has the fields of an argument. -/
abbrev WorkflowLaunchArgumentValue := CreateArgumentSpec

/-- The argument that a node defines under a key and that has a type. -/
def WorkflowGraphNodeSnapshot.findArgument (key valueType : ByteString) :
    Option WorkflowGraphNodeArgumentSnapshot :=
  (node.arguments.find? (·.argumentKey = key)).filter (·.valueType = valueType)

variable (supplied : List (ByteString × WorkflowLaunchArgumentValue))

/-- One round of the pass over the supplied arguments, with the earlier
ones. -/
def checkSuppliedArgument (argument : WorkflowLaunchArgumentValue) :
    List ByteString × List (ByteString × WorkflowLaunchArgumentValue) :=
  match findNode nodes argument.nodeKey with
  | none =>
    ([text "workflow argument references an unknown node"], supplied)
  | some node =>
    match node.findArgument argument.argumentKey argument.valueType with
    | none =>
      ([text "unknown or mistyped workflow argument: " ++
        argument.nodeKey ++ text "." ++ argument.argumentKey], supplied)
    | some definition =>
      if definition.isConstant then
        ([text "graph constant cannot be overridden: " ++
          argument.nodeKey ++ text "." ++ argument.argumentKey], supplied)
      else
        let key := memberKey argument.nodeKey argument.argumentKey
        if key ∈ supplied.map Prod.fst then
          ([text "duplicate workflow argument: " ++ argument.nodeKey ++
            text "." ++ argument.argumentKey], supplied)
        else ([], supplied ++ [(key, argument)])

variable (nodeKey : ByteString) (definition : WorkflowGraphNodeArgumentSnapshot)

/-- The argument value that a text stands for. -/
def writtenArgument (written sourceKind : ByteString) : WorkflowLaunchArgumentValue where
  nodeKey
  argumentKey := definition.argumentKey
  valueType := definition.valueType
  integerValue := if IntegerTyped definition.valueType then parseInteger written else none
  textValue := if IntegerTyped definition.valueType then none else some written
  sourceKind

/-- Where the value of an argument comes from: a value, nothing, or an
issue. -/
def resolveArgument : List ByteString × Option WorkflowLaunchArgumentValue :=
  if definition.isConstant then
    match definition.constantValue with
    | none =>
      ([text "workflow graph constant is missing: " ++ nodeKey ++
        text "." ++ definition.argumentKey], none)
    | some constant =>
      ([], some (writtenArgument nodeKey definition constant (text "graph_constant")))
  else
    match supplied.lookup (memberKey nodeKey definition.argumentKey) with
    | some argument =>
      ([], some { argument with
        sourceKind :=
          if argument.sourceKind = [] then text "launcher"
          else argument.sourceKind })
    | none =>
      match definition.defaultValue with
      | some written =>
        ([], some (writtenArgument nodeKey definition written (text "catalog_default")))
      | none =>
        (if definition.required then
          [text "required workflow argument is not supplied: " ++
            nodeKey ++ text "." ++ definition.argumentKey]
        else [], none)

/-- The number is outside of the bounds of the definition. -/
def OutsideBounds (value : Int) : Prop :=
  (∃ minimum ∈ definition.minimumInteger, value < minimum) ∨ value < 0 ∨
    ∃ maximum ∈ definition.maximumInteger, maximum < value.toNat

instance (definition : WorkflowGraphNodeArgumentSnapshot) (value : Int) :
    Decidable (OutsideBounds definition value) := by
  unfold OutsideBounds
  infer_instance

/-- The issue of an integer or boolean argument with a number. -/
def numberIssue (value : Int) : List ByteString :=
  if definition.valueType = text "boolean" ∧ value ≠ 0 ∧ value ≠ 1 then
    [text "boolean workflow argument must be 0 or 1: " ++ nodeKey ++
      text "." ++ definition.argumentKey]
  else if definition.valueType = text "integer" ∧ OutsideBounds definition value then
    [text "workflow argument is outside its numeric bounds: " ++ nodeKey ++
      text "." ++ definition.argumentKey]
  else []

/-- The issue of the value of an argument. -/
def valueIssue (argument : WorkflowLaunchArgumentValue) : List ByteString :=
  let place := nodeKey ++ text "." ++ definition.argumentKey
  if IntegerTyped definition.valueType then
    match argument.integerValue, argument.textValue with
    | some value, none => numberIssue nodeKey definition value
    | _, _ =>
      [definition.valueType ++ text " workflow argument has the wrong value shape: " ++ place]
  else
    match argument.integerValue, argument.textValue with
    | none, some chosen =>
      if definition.valueType = text "choice" ∧ chosen ∉ definition.choices.map (·.value) then
        [text "workflow choice is not in its saved catalog: " ++ place]
      else []
    | _, _ =>
      [text "workflow argument has the wrong value shape: " ++ place]

/-- What the normalization of the arguments keeps: the normalized arguments
and the numbers among them by key. -/
structure Normalization where
  arguments : List WorkflowLaunchArgumentValue
  integers : List (ByteString × Int)

/-- One round of the normalization of the arguments of a node. -/
def normalizeArgument (normalization : Normalization)
    (definition : WorkflowGraphNodeArgumentSnapshot) : List ByteString × Normalization :=
  match resolveArgument supplied nodeKey definition with
  | (issues, none) => (issues, normalization)
  | (issues, some argument) =>
    match valueIssue nodeKey definition argument with
    | [] =>
      (issues, {
        arguments := normalization.arguments ++ [argument]
        integers :=
          match argument.integerValue with
          | none => normalization.integers
          | some value =>
            (memberKey nodeKey definition.argumentKey, value) :: normalization.integers })
    | invalid => (issues ++ invalid, normalization)

/-- The issue of a constraint between two numbers of a node. -/
def constraintIssue (integers : List (ByteString × Int))
    (nodeKey : ByteString) (constraint : WorkflowLaunchArgumentConstraint) : List ByteString :=
  match integers.lookup (memberKey nodeKey constraint.lesserOrEqualKey),
    integers.lookup (memberKey nodeKey constraint.greaterOrEqualKey) with
  | some lesser, some greater => if greater < lesser then [constraint.message] else []
  | _, _ => [constraint.message]

/-- One round of the normalization of the arguments of the nodes. -/
def normalizeNode (normalization : Normalization) (node : WorkflowGraphNodeSnapshot) :
    List ByteString × Normalization :=
  let defined := pass (normalizeArgument supplied node.nodeKey) node.arguments normalization
  (defined.1 ++ node.argumentConstraints.flatMap
    (constraintIssue defined.2.integers node.nodeKey), defined.2)

/-- The order in which the map of the nodes is iterated. -/
structure IterationOrder where
  visit : List WorkflowGraphNodeSnapshot → List WorkflowGraphNodeSnapshot
  permutes : ∀ nodes, (visit nodes).Perm nodes

/-- `Validate`: the issues and the normalized arguments.  The launch is valid
when there are no issues. -/
def validate (registry : LaunchRegistry) (order : IterationOrder)
    (graph : WorkflowGraphSnapshot) (inputs : List WorkflowLaunchInputValue)
    (arguments : List WorkflowLaunchArgumentValue) :
    List ByteString × List WorkflowLaunchArgumentValue :=
  let (nodeIssues, nodes) := pass (checkNode registry) graph.nodes []
  let (edgeIssues, edgeInputs) := pass (checkEdge nodes) graph.edges []
  let (inputIssues, externalInputs) := pass (checkExternalInput nodes edgeInputs) inputs []
  let (suppliedIssues, supplied) := pass (checkSuppliedArgument nodes) arguments []
  let (argumentIssues, normalized) := pass (normalizeNode supplied) (order.visit nodes) ⟨[], []⟩
  (nodeIssues ++ edgeIssues ++ inputIssues ++
    (order.visit nodes).flatMap (requiredInputIssues edgeInputs externalInputs) ++
    suppliedIssues ++ argumentIssues, normalized.arguments)

/-!
## Launching workflow graphs

`WorkflowGraphLaunchService::Start`: a launch of a graph revision is checked
against the launch contract, turned into the command of a new instance, and
handed to `CreateWorkflowInstance`.
-/

structure WorkflowGraphLaunchRequest where
  workflowGraphRevisionId : Nat
  createdBy : ByteString
  launchKey : Option ByteString
  inputBindings : List WorkflowLaunchInputValue
  arguments : List WorkflowLaunchArgumentValue

/-- The published graph revisions, which never change:
`GetWorkflowGraphRevision`. -/
structure AuthoringDb where
  revision : Nat → Option WorkflowGraphSnapshot
  named : ∀ id, ∀ graph ∈ revision id, graph.workflowGraphRevisionId = id

/-- The step that a template stands for. -/
def WorkflowUnitStepTemplate.spec (template : WorkflowUnitStepTemplate) : CreateUnitStepSpec where
  stepKey := []
  stepKeySuffix := template.stepKeySuffix
  stepKind := template.stepKind
  dependencies := []
  guardKind := none
  guardValue := none
  priority := template.priority
  maxAttempts := template.maxAttempts
  inputRefKind := none
  inputRefId := none

/-- `BuildUnitActivationSpecFromDefinition` for a node of the graph, whose key
is the activation key. -/
def buildUnitActivationSpec (registry : LaunchRegistry) (node : WorkflowGraphNodeSnapshot) :
    Except ByteString CreateUnitActivationSpec :=
  match registry.find node.unitKind with
  | none => .error (text "unknown workflow unit: " ++ node.unitKind)
  | some unit =>
    if unit.stepTemplates = [] then
      .error (text "workflow unit has no step templates: " ++ node.unitKind)
    else
      .ok {
        activationKey := node.nodeKey
        parentActivationKey := none
        graphNodeKey := node.nodeKey
        unitKind := node.unitKind
        displayName :=
          if node.displayName = [] then unit.displayName
          else node.displayName
        activationParamsJson :=
          if unit.defaultActivationParamsJson = [] then text "{}"
          else unit.defaultActivationParamsJson
        authoredRefKind := node.authoredRefKind
        authoredRefId := node.authoredRefId
        dependencies := []
        steps := unit.stepTemplates.map (·.spec) }

/-- What the loop over the nodes collects: their keys and their inputs. -/
structure LaunchNodes where
  keys : List ByteString
  inputs : List (ByteString × WorkflowPortDefinition)

/-- One round of the loop over the nodes. -/
def checkLaunchNode (registry : LaunchRegistry) (nodes : LaunchNodes)
    (node : WorkflowGraphNodeSnapshot) : Except ByteString LaunchNodes :=
  if node.nodeKey = [] ∨ node.unitKind = [] ∨ node.nodeKey ∈ nodes.keys then
    .error (text "workflow graph contains an invalid or duplicate node")
  else
    match registry.find node.unitKind with
    | none =>
      .error (text "workflow instance graph contains an expansion node")
    | some unit =>
      if unit.executionShape ≠ .workflowInstance then
        .error (text "workflow instance graph contains an expansion node")
      else
        .ok {
          keys := nodes.keys ++ [node.nodeKey]
          inputs := nodes.inputs ++ node.inputs.map fun input =>
            (memberKey node.nodeKey input.key, input) }

/-- One round of the loop over the edges, with the inputs that have an
edge. -/
def checkLaunchEdge (nodes : LaunchNodes)
    (suppliedByEdge : List ByteString) (edge : WorkflowGraphEdgeSnapshot) :
    Except ByteString (List ByteString) :=
  if edge.fromNodeKey ∉ nodes.keys ∨ edge.toNodeKey ∉ nodes.keys then
    .error (text "workflow graph edge references an unknown node")
  else if edge.edgeKind = text "DATA" then
    .ok (suppliedByEdge ++ [memberKey edge.toNodeKey edge.inputKey])
  else if edge.edgeKind ≠ text "CONTROL" then
    .error (text "workflow graph edge has an unsupported kind")
  else .ok suppliedByEdge

/-- One round of the loop over the bindings, with the earlier ones. -/
def checkLaunchBinding (nodes : LaunchNodes) (suppliedInputs : List ByteString)
    (binding : WorkflowLaunchInputValue) : Except ByteString (List ByteString) :=
  let key := memberKey binding.nodeKey binding.inputKey
  let invalid := text "workflow input binding is invalid: " ++
    binding.nodeKey ++ text "." ++ binding.inputKey
  match nodes.inputs.lookup key with
  | none => .error invalid
  | some input =>
    if binding.refId = 0 ∨ input.dataKind ≠ binding.dataKind ∨
        input.refKind ≠ binding.refKind ∨ key ∈ suppliedInputs then
      .error invalid
    else .ok (suppliedInputs ++ [key])

/-- The activation of a node whose required inputs are supplied. -/
def launchActivation (registry : LaunchRegistry) (suppliedByEdge suppliedInputs : List ByteString)
    (node : WorkflowGraphNodeSnapshot) : Except ByteString CreateUnitActivationSpec :=
  match node.inputs.find? fun input => input.required ∧
      memberKey node.nodeKey input.key ∉ suppliedByEdge ∧
      memberKey node.nodeKey input.key ∉ suppliedInputs with
  | some input =>
    .error (text "required input is not supplied: " ++ node.nodeKey ++ text "." ++ input.key)
  | none => buildUnitActivationSpec registry node

/-- The activation edge of an edge of the graph. -/
def WorkflowGraphEdgeSnapshot.activationEdge
    (edge : WorkflowGraphEdgeSnapshot) : CreateUnitActivationEdgeSpec where
  fromActivationKey := edge.fromNodeKey
  toActivationKey := edge.toNodeKey
  outputKey := if edge.edgeKind = text "DATA" then some edge.outputKey else none
  inputKey := if edge.edgeKind = text "DATA" then some edge.inputKey else none
  conditionKind := edge.guardKind
  conditionValue := edge.guardValue

/-- The binding of the command, with the default source kind. -/
def launchBinding (binding : WorkflowLaunchInputValue) : CreateInputBindingSpec :=
  { binding with
    sourceKind :=
      if binding.sourceKind = [] then text "external"
      else binding.sourceKind }

/-- The argument of the command, with the default source kind. -/
def launchArgument (argument : WorkflowLaunchArgumentValue) : CreateArgumentSpec :=
  { argument with
    sourceKind :=
      if argument.sourceKind = [] then text "launcher"
      else argument.sourceKind }

/-- The command for a graph whose launch contract holds, with the normalized
arguments. -/
def graphCommand (registry : LaunchRegistry) (request : WorkflowGraphLaunchRequest) (now : Nat)
    (graph : WorkflowGraphSnapshot) (normalized : List WorkflowLaunchArgumentValue) :
    Except ByteString CreateInstanceCommand := do
  let nodes ← graph.nodes.foldlM (checkLaunchNode registry) ⟨[], []⟩
  let suppliedByEdge ← graph.edges.foldlM (checkLaunchEdge nodes) []
  let suppliedInputs ← request.inputBindings.foldlM (checkLaunchBinding nodes) []
  let unitActivations ← graph.nodes.mapM (launchActivation registry suppliedByEdge suppliedInputs)
  return {
    workflowKind := text "workflow_graph"
    rootScopeKind := text "manual"
    rootScopeId := none
    workflowGraphRevisionId := some graph.workflowGraphRevisionId
    launchKey := request.launchKey
    createdBy :=
      if request.createdBy = [] then text "SavorDb" else request.createdBy
    createdAt := now
    unitActivations
    activationEdges := graph.edges.map (·.activationEdge)
    inputBindings := request.inputBindings.map launchBinding
    arguments := normalized.map launchArgument }

section OtherUnits

variable {registry other : LaunchRegistry} {graph : WorkflowGraphSnapshot}

theorem validate_congr (same : ∀ node ∈ graph.nodes,
      registry.find node.unitKind = other.find node.unitKind)
    (order : IterationOrder) (inputs : List WorkflowLaunchInputValue)
    (arguments : List WorkflowLaunchArgumentValue) :
    validate registry order graph inputs arguments =
      validate other order graph inputs arguments := by
  have nodes : pass (checkNode registry) graph.nodes [] =
      pass (checkNode other) graph.nodes [] := by
    refine pass_congr fun node member nodes => ?_
    unfold checkNode
    rw [same node member]
  unfold validate
  rw [nodes]

theorem graphCommand_congr (same : ∀ node ∈ graph.nodes,
      registry.find node.unitKind = other.find node.unitKind)
    (request : WorkflowGraphLaunchRequest) (now : Nat)
    (normalized : List WorkflowLaunchArgumentValue) :
    graphCommand registry request now graph normalized =
      graphCommand other request now graph normalized := by
  have nodes : graph.nodes.foldlM (checkLaunchNode registry) ⟨[], []⟩ =
      graph.nodes.foldlM (checkLaunchNode other) ⟨[], []⟩ := by
    refine foldlM_congr fun node member nodes => ?_
    unfold checkLaunchNode
    rw [same node member]
  have activations : ∀ suppliedByEdge suppliedInputs,
      graph.nodes.mapM
          (launchActivation registry suppliedByEdge suppliedInputs) =
        graph.nodes.mapM (launchActivation other suppliedByEdge suppliedInputs) := by
    intro suppliedByEdge suppliedInputs
    refine mapM_congr fun node member => ?_
    unfold launchActivation buildUnitActivationSpec
    rw [same node member]
  unfold graphCommand
  simp only [nodes, activations]

end OtherUnits

/-- The command that `Start` makes of a request. -/
def launchCommand (authoring : AuthoringDb) (order : IterationOrder)
    (request : WorkflowGraphLaunchRequest) (now : Nat) : Except ByteString CreateInstanceCommand :=
  let registry := buildDefaultWorkflowUnitRegistry
  if request.workflowGraphRevisionId = 0 then
    .error (text "workflow graph launch dependencies are incomplete")
  else
    match authoring.revision request.workflowGraphRevisionId with
    | none =>
      .error (text "workflow graph revision was not found or has no nodes")
    | some graph =>
      if graph.nodes = [] then
        .error (text "workflow graph revision was not found or has no nodes")
      else
        match validate registry order graph request.inputBindings request.arguments with
        | (issue :: _, _) => .error issue
        | ([], normalized) =>
          graphCommand registry request now graph normalized

/-- The command of a launch whose contract has no issues with the units of
its nodes. -/
theorem launchCommand_eq {authoring : AuthoringDb} {order : IterationOrder}
    {request : WorkflowGraphLaunchRequest} {now : Nat}
    {graph : WorkflowGraphSnapshot} {units : LaunchRegistry}
    {normalized : List WorkflowLaunchArgumentValue} (named : request.workflowGraphRevisionId ≠ 0)
    (found : authoring.revision request.workflowGraphRevisionId = some graph)
    (nonempty : graph.nodes ≠ []) (same : ∀ node ∈ graph.nodes,
      buildDefaultWorkflowUnitRegistry.find node.unitKind = units.find node.unitKind)
    (valid : validate units order graph request.inputBindings
      request.arguments = ([], normalized)) :
    launchCommand authoring order request now =
      graphCommand units request now graph normalized := by
  unfold launchCommand
  dsimp only
  rw [if_neg named, found]
  dsimp only
  rw [if_neg nonempty, validate_congr same, valid]
  exact graphCommand_congr same request now normalized

/-- `Start`, which answers the id of the instance. -/
def startWorkflow (authoring : AuthoringDb) (order : IterationOrder)
    (request : WorkflowGraphLaunchRequest) (now : Nat) (db : ExecutionDb) :
    Except ByteString (Nat × ExecutionDb) :=
  match launchCommand authoring order request now with
  | .error message => .error message
  | .ok command => createWorkflowInstance command now db

end Savor.Workflow


import Savor.Library.Relations
import Savor.Workflow.LaunchFacts
import Savor.Workflow.LaunchFrame

/-!
# Runnable launches

The instance that a launch inserts: its activations stand in the order of the
graph, its required inputs are supplied and its arguments are sound, and it
can run when the graph has no cycle.
-/

namespace Savor.Workflow

open Library
open Program (ByteString text)

/-- An activation edge of the instance leads from one activation to the
other. -/
def Precedes (db : ExecutionDb) (workflowInstanceId source target : Nat) : Prop :=
  ∃ edge ∈ db.activationEdges.rows,
    edge.workflowInstanceId = workflowInstanceId ∧
      edge.fromActivationId = source ∧ edge.toActivationId = target

/-- The activations of an instance that are reached in dependency order from
the ones that are ready. -/
inductive Served (db : ExecutionDb) (workflowInstanceId : Nat) : Nat → Prop
  | starts {row : WorkflowUnitActivationRow}
      (member : row ∈ db.activations.rows)
      (owner : row.workflowInstanceId = workflowInstanceId)
      (ready : row.state = .ready) :
      Served db workflowInstanceId row.workflowUnitActivationId
  | follows {row : WorkflowUnitActivationRow} {source : Nat}
      (member : row ∈ db.activations.rows)
      (owner : row.workflowInstanceId = workflowInstanceId)
      (depends : Precedes db workflowInstanceId source row.workflowUnitActivationId)
      (served : ∀ source, Precedes db workflowInstanceId source
        row.workflowUnitActivationId → Served db workflowInstanceId source) :
      Served db workflowInstanceId row.workflowUnitActivationId

/-- An edge of the graph leads from one node to the other. -/
def GraphPrecedes (graph : WorkflowGraphSnapshot) (source target : ByteString) : Prop :=
  ∃ edge ∈ graph.edges, edge.fromNodeKey = source ∧ edge.toNodeKey = target

/-- A binding or an incoming edge of the instance supplies the input. -/
def InputSupplied (db : ExecutionDb) (workflowInstanceId : Nat)
    (nodeKey inputKey : ByteString) : Prop :=
  (∃ row ∈ db.inputBindings.rows,
    row.workflowInstanceId = workflowInstanceId ∧ row.nodeKey = nodeKey ∧ row.inputKey = inputKey) ∨
  ∃ edge ∈ db.activationEdges.rows,
    edge.workflowInstanceId = workflowInstanceId ∧
      edge.inputKey = some inputKey ∧
      ∃ target ∈ db.activations.rows,
        target.workflowInstanceId = workflowInstanceId ∧
          target.workflowUnitActivationId = edge.toActivationId ∧ target.activationKey = nodeKey

/-- A stored argument has the declared type and is within the declared bounds
or choices. -/
def ArgumentFits (expected : WorkflowLaunchArgumentDefinition) (row : ArgumentRow) : Prop :=
  row.valueType = valueTypeName expected.valueType ∧
    match expected.valueType with
    | .integer => ∃ value, row.integerValue = some value ∧
        row.textValue = none ∧ 0 ≤ value ∧
        (∀ minimum ∈ expected.minimumInteger, minimum ≤ value) ∧
        ∀ maximum ∈ expected.maximumInteger, value ≤ (maximum : Int)
    | .boolean => (row.integerValue = some 0 ∨ row.integerValue = some 1) ∧ row.textValue = none
    | .choice => ∃ chosen ∈ expected.choices.map (·.value),
        row.textValue = some chosen ∧ row.integerValue = none
    | .text | .json => row.textValue ≠ none ∧ row.integerValue = none

/-- The stored argument of a node under a key. -/
def ArgumentStored (db : ExecutionDb) (workflowInstanceId : Nat)
    (nodeKey argumentKey : ByteString) (row : ArgumentRow) : Prop :=
  row ∈ db.arguments.rows ∧ row.workflowInstanceId = workflowInstanceId ∧
    row.nodeKey = nodeKey ∧ row.argumentKey = argumentKey

/-- The stored arguments of an instance are complete, typed and within the
declared bounds and constraints. -/
structure ArgumentsSound (graph : WorkflowGraphSnapshot)
    (workflowInstanceId : Nat) (db : ExecutionDb) : Prop where
  complete : ∀ node ∈ graph.nodes,
    ∀ unit ∈ buildDefaultWorkflowUnitRegistry.find node.unitKind,
      ∀ expected ∈ unit.launchArguments,
        (expected.required = true ∨ expected.defaultValue ≠ none) →
          ∃ row, ArgumentStored db workflowInstanceId node.nodeKey expected.key row
  fit : ∀ row ∈ db.arguments.rows,
    row.workflowInstanceId = workflowInstanceId →
      ∃ node ∈ graph.nodes, node.nodeKey = row.nodeKey ∧
        ∃ unit ∈ buildDefaultWorkflowUnitRegistry.find node.unitKind,
          ∃ expected ∈ unit.launchArguments,
            expected.key = row.argumentKey ∧ ArgumentFits expected row
  single : ∀ nodeKey argumentKey row other,
    ArgumentStored db workflowInstanceId nodeKey argumentKey row →
      ArgumentStored db workflowInstanceId nodeKey argumentKey other → row = other
  constrained : ∀ node ∈ graph.nodes,
    ∀ unit ∈ buildDefaultWorkflowUnitRegistry.find node.unitKind,
      ∀ constraint ∈ unit.launchArgumentConstraints,
        ∃ lesser greater,
          ArgumentStored db workflowInstanceId node.nodeKey constraint.lesserOrEqualKey lesser ∧
          ArgumentStored db workflowInstanceId node.nodeKey constraint.greaterOrEqualKey greater ∧
          ∃ least ∈ lesser.integerValue, ∃ most ∈ greater.integerValue, least ≤ most

/-- A launched instance can run: every node has an activation that is served
in dependency order, required inputs are supplied, and the arguments are
sound. -/
structure RunnableInstance (graph : WorkflowGraphSnapshot)
    (workflowInstanceId : Nat) (db : ExecutionDb) : Prop where
  activated : ∀ node ∈ graph.nodes, ∃ row ∈ db.activations.rows,
    row.workflowInstanceId = workflowInstanceId ∧ row.activationKey = node.nodeKey
  served : ∀ row ∈ db.activations.rows,
    row.workflowInstanceId = workflowInstanceId →
      Served db workflowInstanceId row.workflowUnitActivationId
  supplied : ∀ node ∈ graph.nodes,
    ∀ unit ∈ buildDefaultWorkflowUnitRegistry.find node.unitKind,
      ∀ input ∈ unit.requiredInputs, input.required = true →
        InputSupplied db workflowInstanceId node.nodeKey input.key
  arguments : ArgumentsSound graph workflowInstanceId db

/-- A launch has inserted an instance. -/
structure Launch (graph : WorkflowGraphSnapshot) (request : WorkflowGraphLaunchRequest)
    (normalized : List WorkflowLaunchArgumentValue)
    (command : CreateInstanceCommand) (now : Nat) (db made : ExecutionDb)
    (rows : List WorkflowUnitActivationRow) (edgeRows : List WorkflowUnitActivationEdgeRow)
    (bindingRows : List InputBindingRow) (argumentRows : List ArgumentRow) : Prop where
  grounded : Grounded db
  accepted : Accepted graph request.inputBindings request.arguments normalized
  launched : LaunchedFrom request graph normalized command
  created : Created command now db made rows edgeRows bindingRows argumentRows
  distinct : (command.arguments.map fun argument =>
    memberKey argument.nodeKey argument.argumentKey).Nodup

section Rows

variable {graph : WorkflowGraphSnapshot}
  {request : WorkflowGraphLaunchRequest}
  {normalized : List WorkflowLaunchArgumentValue}
  {command : CreateInstanceCommand} {now : Nat} {db made : ExecutionDb}
  {rows : List WorkflowUnitActivationRow}
  {edgeRows : List WorkflowUnitActivationEdgeRow}
  {bindingRows : List InputBindingRow} {argumentRows : List ArgumentRow}

variable {row : WorkflowUnitActivationRow} {nodeKey : ByteString}
variable {definition : WorkflowGraphNodeArgumentSnapshot}

theorem lookup_activationIdsOf {rows : List WorkflowUnitActivationRow}
    (distinct : (rows.map (·.activationKey)).Nodup) (member : row ∈ rows) :
    (activationIdsOf rows).lookup row.activationKey = some row.workflowUnitActivationId := by
  induction rows with
  | nil => cases member
  | cons first rows ih =>
    obtain ⟨fresh, rest⟩ := List.nodup_cons.mp distinct
    rw [activationIdsOf, List.map_cons, List.lookup_cons]
    rcases List.mem_cons.mp member with rfl | later
    · rw [beq_self_eq_true]
    have unlike : row.activationKey ≠ first.activationKey := by
      intro same
      exact fresh (List.mem_map.mpr ⟨row, later, same⟩)
    rw [beq_eq_false_iff_ne.mpr unlike]
    exact ih rest later

/-- The row of an activation edge connects the activations of the ends of an
edge of the graph. -/
structure EdgeRowOf (rows : List WorkflowUnitActivationRow) (edge : WorkflowGraphEdgeSnapshot)
    (row : WorkflowUnitActivationEdgeRow) : Prop where
  source : ∃ source ∈ rows, source.activationKey = edge.fromNodeKey ∧
    row.fromActivationId = source.workflowUnitActivationId
  target : ∃ target ∈ rows, target.activationKey = edge.toNodeKey ∧
    row.toActivationId = target.workflowUnitActivationId
  inputKey : row.inputKey = edge.activationEdge.inputKey

/-- The argument row holds the value. -/
structure ArgumentRowOf (argument : WorkflowLaunchArgumentValue) (row : ArgumentRow) : Prop where
  nodeKey : row.nodeKey = argument.nodeKey
  argumentKey : row.argumentKey = argument.argumentKey
  valueType : row.valueType = argument.valueType
  integerValue : row.integerValue = argument.integerValue
  textValue : row.textValue = argument.textValue

theorem numberIssue_silent {value : Int} (silent : numberIssue nodeKey definition value = []) :
    (definition.valueType = text "boolean" → value = 0 ∨ value = 1) ∧
      (definition.valueType = text "integer" → ¬ OutsideBounds definition value) := by
  unfold numberIssue at silent
  split at silent
  · cases silent
  rename_i isBit
  split at silent
  · cases silent
  rename_i within
  constructor
  · intro isBoolean
    have bit := not_and.mp isBit isBoolean
    rwa [not_and_or, not_not, not_not] at bit
  · exact fun isInteger => not_and.mp within isInteger

theorem argumentFits_of_valueIssue {expected : WorkflowLaunchArgumentDefinition}
    (agrees : ArgumentAgrees expected definition) (choices : definition.choices = expected.choices)
    {argument : WorkflowLaunchArgumentValue} (typed : argument.valueType = definition.valueType)
    (silent : valueIssue nodeKey definition argument = [])
    {row : ArgumentRow} (holds : ArgumentRowOf argument row) : ArgumentFits expected row := by
  obtain ⟨sameType, -, -, minimum, maximum, -⟩ := agrees
  refine ⟨holds.valueType.trans (typed.trans sameType), ?_⟩
  rw [holds.integerValue, holds.textValue]
  unfold valueIssue at silent
  dsimp only at silent
  rw [sameType] at silent
  cases kind : expected.valueType with
  | integer =>
    have typed : IntegerTyped (valueTypeName .integer) := by decide
    rw [kind, if_pos typed] at silent
    split at silent
    · rename_i value number noText
      have inside := (numberIssue_silent silent).2 (sameType.trans (by rw [kind]; rfl))
      unfold OutsideBounds at inside
      push Not at inside
      refine ⟨value, number, noText, inside.2.1, ?_, ?_⟩
      · rw [← minimum]
        exact inside.1
      rw [← maximum]
      intro most held
      have below := inside.2.2 most held
      have positive := inside.2.1
      omega
    · cases silent
  | boolean =>
    have typed : IntegerTyped (valueTypeName .boolean) := by decide
    rw [kind, if_pos typed] at silent
    split at silent
    · rename_i value number noText
      have bit := (numberIssue_silent silent).1 (sameType.trans (by rw [kind]; rfl))
      refine ⟨?_, noText⟩
      rw [number]
      rcases bit with rfl | rfl
      · exact .inl rfl
      · exact .inr rfl
    · cases silent
  | choice =>
    have typed : ¬ IntegerTyped (valueTypeName .choice) := by decide
    rw [kind, if_neg typed] at silent
    split at silent
    · rename_i chosen noNumber isText
      split at silent
      · cases silent
      rename_i isChoice
      have chosenIn := not_not.mp (not_and.mp isChoice rfl)
      rw [choices] at chosenIn
      exact ⟨chosen, chosenIn, isText, noNumber⟩
    · cases silent
  | text =>
    have typed : ¬ IntegerTyped (valueTypeName .text) := by decide
    rw [kind, if_neg typed] at silent
    split at silent
    · rename_i chosen noNumber isText
      refine ⟨?_, noNumber⟩
      rw [isText]
      exact Option.some_ne_none _
    · cases silent
  | json =>
    have typed : ¬ IntegerTyped (valueTypeName .json) := by decide
    rw [kind, if_neg typed] at silent
    split at silent
    · rename_i chosen noNumber isText
      refine ⟨?_, noNumber⟩
      rw [isText]
      exact Option.some_ne_none _
    · cases silent

section

variable
    (launch : Launch graph request normalized command now db made rows
      edgeRows bindingRows argumentRows)
include launch

theorem Launch.mem_rows : row ∈ rows ↔ row ∈ made.activations.rows ∧
      row.workflowInstanceId = db.instances.nextId := by
  rw [launch.created.activationTable, List.mem_append]
  constructor
  · intro member
    obtain ⟨activation, -, inserted⟩ :=
      exists_left_of_forall₂ launch.created.activationsOf row member
    exact ⟨.inr member, inserted.owner⟩
  rintro ⟨old | new, owner⟩
  · have below := launch.grounded.owners row.owner (List.mem_map_of_mem old)
    exact absurd owner (Nat.ne_of_lt below)
  · exact new

theorem Launch.mem_edgeRows {row : WorkflowUnitActivationEdgeRow} :
    row ∈ edgeRows ↔ row ∈ made.activationEdges.rows ∧
      row.workflowInstanceId = db.instances.nextId := by
  rw [launch.created.edgeTable, List.mem_append]
  constructor
  · intro member
    obtain ⟨edge, -, inserted⟩ := exists_left_of_forall₂ launch.created.edgesOf row member
    exact ⟨.inr member, inserted.owner⟩
  rintro ⟨old | new, owner⟩
  · exact absurd owner (Nat.ne_of_lt (launch.grounded.edges row old))
  · exact new

theorem Launch.specKeys : graph.nodes.map (·.nodeKey) =
      command.unitActivations.map (·.activationKey) :=
  map_eq_of_forall₂ (·.nodeKey) (·.activationKey)
    (fun _ _ activation => activation.key.symm)
    launch.launched.activations

theorem Launch.keys : rows.map (·.activationKey) = graph.nodes.map (·.nodeKey) := by
  have ofRows : command.unitActivations.map (·.activationKey) =
      rows.map (·.activationKey) :=
    map_eq_of_forall₂ (·.activationKey) (·.activationKey)
      (fun _ _ inserted => inserted.key.symm)
      launch.created.activationsOf
  rw [launch.specKeys, ofRows]

theorem Launch.ids_nodup : (rows.map (·.workflowUnitActivationId)).Nodup := by
  have distinct := made.activations.keys_nodup
  rw [launch.created.activationTable, List.map_append] at distinct
  exact (List.nodup_append.mp distinct).2.1

theorem Launch.rowKeys_nodup : (rows.map (·.activationKey)).Nodup := by
  rw [launch.keys]
  exact launch.accepted.agree.nodup

theorem Launch.exists_row (known : nodeKey ∈ graph.nodes.map (·.nodeKey)) :
    ∃ row ∈ rows, row.activationKey = nodeKey := by
  rw [← launch.keys] at known
  exact List.mem_map.mp known

theorem Launch.edge_ends {edge : WorkflowGraphEdgeSnapshot} (member : edge ∈ graph.edges) :
    (∃ source ∈ rows, source.activationKey = edge.fromNodeKey) ∧
      ∃ target ∈ rows, target.activationKey = edge.toNodeKey := by
  have inCommand : edge.activationEdge ∈ command.activationEdges := by
    rw [launch.launched.edges]
    exact List.mem_map_of_mem member
  obtain ⟨-, -, source, target⟩ := launch.created.known _ inCommand
  rw [← launch.specKeys, ← launch.keys] at source target
  exact ⟨List.mem_map.mp source, List.mem_map.mp target⟩

theorem Launch.edgeRowsOf : (∀ edge ∈ graph.edges, ∃ row ∈ edgeRows, EdgeRowOf rows edge row) ∧
      ∀ row ∈ edgeRows, ∃ edge ∈ graph.edges, EdgeRowOf rows edge row := by
  have noDependencies : dependencyEdges command.unitActivations = [] := by
    unfold dependencyEdges
    rw [List.flatMap_eq_nil_iff]
    intro activation member
    obtain ⟨node, -, activationOf⟩ :=
      exists_left_of_forall₂ launch.launched.activations activation member
    rw [activationOf.independent, List.map_nil]
  have related := launch.created.edgesOf
  rw [noDependencies, List.nil_append, launch.launched.edges] at related
  have connects : ∀ edge ∈ graph.edges, ∀ row,
      EdgeInserted db.instances.nextId rows edge.activationEdge row → EdgeRowOf rows edge row := by
    intro edge member row inserted
    obtain ⟨⟨source, sourceMember, sourceKey⟩, target, targetMember,
      targetKey⟩ := launch.edge_ends member
    refine ⟨⟨source, sourceMember, sourceKey, ?_⟩,
      ⟨target, targetMember, targetKey, ?_⟩, inserted.inputKey⟩
    · rw [inserted.source]
      change ((activationIdsOf rows).lookup edge.fromNodeKey).getD 0 = _
      rw [← sourceKey, lookup_activationIdsOf launch.rowKeys_nodup sourceMember, Option.getD_some]
    rw [inserted.target]
    change ((activationIdsOf rows).lookup edge.toNodeKey).getD 0 = _
    rw [← targetKey, lookup_activationIdsOf launch.rowKeys_nodup targetMember, Option.getD_some]
  constructor
  · intro edge member
    obtain ⟨row, rowMember, inserted⟩ := exists_right_of_forall₂ related
      edge.activationEdge (List.mem_map_of_mem member)
    exact ⟨row, rowMember, connects edge member row inserted⟩
  intro row member
  obtain ⟨spec, specMember, inserted⟩ := exists_left_of_forall₂ related row member
  obtain ⟨edge, edgeMember, rfl⟩ := List.mem_map.mp specMember
  exact ⟨edge, edgeMember, connects edge edgeMember row inserted⟩

theorem Launch.precedes_of_graph {source target : WorkflowUnitActivationRow}
    (sourceMember : source ∈ rows) (targetMember : target ∈ rows)
    (precedes : GraphPrecedes graph source.activationKey target.activationKey) :
    Precedes made db.instances.nextId source.workflowUnitActivationId
      target.workflowUnitActivationId := by
  obtain ⟨edge, member, fromNode, toNode⟩ := precedes
  obtain ⟨row, rowMember, connects⟩ := launch.edgeRowsOf.1 edge member
  obtain ⟨inTable, owner⟩ := launch.mem_edgeRows.mp rowMember
  obtain ⟨first, firstMember, firstKey, firstId⟩ := connects.source
  obtain ⟨second, secondMember, secondKey, secondId⟩ := connects.target
  have sameSource : first = source := List.inj_on_of_nodup_map
    launch.rowKeys_nodup firstMember sourceMember (firstKey.trans fromNode)
  have sameTarget : second = target := List.inj_on_of_nodup_map
    launch.rowKeys_nodup secondMember targetMember (secondKey.trans toNode)
  rw [sameSource] at firstId
  rw [sameTarget] at secondId
  exact ⟨row, inTable, owner, firstId, secondId⟩

/-- What precedes an activation of the instance is the activation of a node
before its node. -/
theorem Launch.graph_of_precedes {source : Nat} {target : WorkflowUnitActivationRow}
    (targetMember : target ∈ rows) (precedes : Precedes made db.instances.nextId source
      target.workflowUnitActivationId) :
    ∃ first ∈ rows, first.workflowUnitActivationId = source ∧
      GraphPrecedes graph first.activationKey target.activationKey := by
  obtain ⟨row, inTable, owner, fromId, toId⟩ := precedes
  obtain ⟨edge, member, connects⟩ := launch.edgeRowsOf.2 row
    (launch.mem_edgeRows.mpr ⟨inTable, owner⟩)
  obtain ⟨first, firstMember, firstKey, firstId⟩ := connects.source
  obtain ⟨second, secondMember, secondKey, secondId⟩ := connects.target
  have sameTarget : second = target := List.inj_on_of_nodup_map
    launch.ids_nodup secondMember targetMember (secondId.symm.trans toId)
  rw [sameTarget] at secondKey
  exact ⟨first, firstMember, firstId.symm.trans fromId, edge, member, firstKey.symm, secondKey.symm⟩

/-- An activation is ready exactly when no node comes before its node. -/
theorem Launch.ready_iff (member : row ∈ rows) : row.state = .ready ↔
      ∀ source, ¬ GraphPrecedes graph source row.activationKey := by
  obtain ⟨activation, activationMember, inserted⟩ :=
    exists_left_of_forall₂ launch.created.activationsOf row member
  obtain ⟨node, -, activationOf⟩ := exists_left_of_forall₂
    launch.launched.activations activation activationMember
  have starts : StartsReady command activation ↔
      ∀ source, ¬ GraphPrecedes graph source row.activationKey := by
    unfold StartsReady
    rw [launch.launched.edges, inserted.key]
    constructor
    · rintro ⟨-, none⟩ source ⟨edge, edgeMember, -, toNode⟩
      exact none _ (List.mem_map_of_mem edgeMember) toNode
    intro none
    refine ⟨activationOf.independent, ?_⟩
    intro spec specMember toNode
    obtain ⟨edge, edgeMember, rfl⟩ := List.mem_map.mp specMember
    exact none edge.fromNodeKey ⟨edge, edgeMember, rfl, toNode⟩
  rw [inserted.state, ← starts]
  split
  · rename_i ready
    exact ⟨fun _ => ready, fun _ => rfl⟩
  · rename_i waiting
    exact ⟨fun same => (by cases same), fun ready => absurd ready waiting⟩

/-- Every activation of the new instance is served exactly when the graph has
no cycle. -/
theorem Launch.served_iff : (∀ row ∈ rows, Served made db.instances.nextId
      row.workflowUnitActivationId) ↔ Acyclic (GraphPrecedes graph) := by
  have sourceKnown : ∀ source target, GraphPrecedes graph source target →
      ∃ row ∈ rows, row.activationKey = source := by
    rintro source target ⟨edge, member, rfl, -⟩
    exact (launch.edge_ends member).1
  constructor
  · intro served
    have accessible : ∀ id, Served made db.instances.nextId id →
        ∀ row ∈ rows, row.workflowUnitActivationId = id →
          Acc (GraphPrecedes graph) row.activationKey := by
      intro id servedId
      induction servedId with
      | @starts first member owner ready =>
        intro row rowMember same
        have firstMember := launch.mem_rows.mpr ⟨member, owner⟩
        have sameRow : row = first := List.inj_on_of_nodup_map
          launch.ids_nodup rowMember firstMember same
        rw [sameRow]
        exact Acc.intro _ fun source precedes =>
          absurd precedes ((launch.ready_iff firstMember).mp ready source)
      | @follows first _ member owner depends _ ih =>
        intro row rowMember same
        refine Acc.intro _ fun source precedes => ?_
        obtain ⟨earlier, earlierMember, rfl⟩ := sourceKnown source _ precedes
        have before := launch.precedes_of_graph earlierMember rowMember precedes
        rw [same] at before
        exact ih _ before earlier earlierMember rfl
    refine acyclic_of_wellFounded fun key => ?_
    refine Acc.intro key fun source precedes => ?_
    obtain ⟨row, member, rfl⟩ := sourceKnown source key precedes
    exact accessible _ (served row member) row member rfl
  · intro acyclic row member
    have accessible := acyclic.acc (rows.map (·.activationKey))
      (fun source target precedes => List.mem_map.mpr (sourceKnown source target precedes))
      row.activationKey
    generalize keyed : row.activationKey = key at accessible
    induction accessible generalizing row with
    | intro key _ ih =>
      obtain ⟨inTable, owner⟩ := launch.mem_rows.mp member
      by_cases first : ∀ source, ¬ GraphPrecedes graph source key
      · rw [← keyed] at first
        exact .starts inTable owner ((launch.ready_iff member).mpr first)
      push Not at first
      obtain ⟨source, precedes⟩ := first
      obtain ⟨earlier, earlierMember, rfl⟩ := sourceKnown source key precedes
      rw [← keyed] at precedes
      refine .follows inTable owner (launch.precedes_of_graph earlierMember member precedes) ?_
      intro other before
      obtain ⟨otherRow, otherMember, rfl, otherPrecedes⟩ := launch.graph_of_precedes member before
      rw [keyed] at otherPrecedes
      exact ih _ otherPrecedes otherRow otherMember rfl

theorem Launch.inputSupplied {node : WorkflowGraphNodeSnapshot} (member : node ∈ graph.nodes)
    {input : WorkflowPortDefinition} (inside : input ∈ node.inputs)
    (required : input.required = true) :
    InputSupplied made db.instances.nextId node.nodeKey input.key := by
  rcases launch.launched.supplied launch.accepted member inside required with
    ⟨edge, edgeMember, isData, toNode, inputKey⟩ |
    ⟨binding, bindingMember, sameNode, sameKey⟩
  · obtain ⟨row, rowMember, connects⟩ := launch.edgeRowsOf.1 edge edgeMember
    obtain ⟨inTable, owner⟩ := launch.mem_edgeRows.mp rowMember
    obtain ⟨target, targetMember, targetKey, targetId⟩ := connects.target
    obtain ⟨targetInTable, targetOwner⟩ := launch.mem_rows.mp targetMember
    refine .inr ⟨row, inTable, owner, ?_, target, targetInTable, targetOwner,
      targetId.symm, targetKey.trans toNode⟩
    rw [connects.inputKey, ← inputKey]
    exact if_pos isData
  have inCommand : launchBinding binding ∈ command.inputBindings := by
    rw [launch.launched.bindings]
    exact List.mem_map_of_mem bindingMember
  obtain ⟨row, rowMember, id, rfl⟩ := exists_right_of_forall₂
    launch.created.bindingsOf (launchBinding binding) inCommand
  refine .inl ⟨inputBindingRow db.instances.nextId
    (command.workflowGraphRevisionId.getD 0) now (launchBinding binding)
    id, ?_, rfl, sameNode, sameKey⟩
  rw [launch.created.bindingTable]
  exact List.mem_append_right _ rowMember

theorem Launch.mem_argumentRows {row : ArgumentRow} :
    row ∈ argumentRows ↔ row ∈ made.arguments.rows ∧
      row.workflowInstanceId = db.instances.nextId := by
  rw [launch.created.argumentTable, List.mem_append]
  constructor
  · intro member
    obtain ⟨argument, -, id, rfl⟩ := exists_left_of_forall₂ launch.created.argumentsOf row member
    exact ⟨.inr member, rfl⟩
  rintro ⟨old | new, owner⟩
  · exact absurd owner (Nat.ne_of_lt (launch.grounded.arguments row old))
  · exact new

theorem Launch.exists_argumentRow {node : WorkflowGraphNodeSnapshot} (member : node ∈ graph.nodes)
    (inside : definition ∈ node.arguments) {argument : WorkflowLaunchArgumentValue}
    (value : argument ∈ effectiveArgument request.arguments node definition) :
    ∃ row ∈ argumentRows, ArgumentRowOf argument row := by
  have effective : argument ∈ effectiveArguments graph request.arguments :=
    List.mem_flatMap.mpr ⟨node, member, List.mem_filterMap.mpr ⟨definition, inside, value⟩⟩
  have inCommand : launchArgument argument ∈ command.arguments := by
    rw [launch.launched.arguments]
    exact List.mem_map_of_mem (launch.accepted.normalized.mem_iff.mpr effective)
  obtain ⟨row, rowMember, id, rfl⟩ := exists_right_of_forall₂
    launch.created.argumentsOf (launchArgument argument) inCommand
  exact ⟨_, rowMember, rfl, rfl, rfl, rfl, rfl⟩

theorem Launch.exists_effectiveArgument {row : ArgumentRow} (member : row ∈ argumentRows) :
    ∃ node ∈ graph.nodes, ∃ definition ∈ node.arguments,
      ∃ argument ∈ effectiveArgument request.arguments node definition,
        ArgumentRowOf argument row := by
  obtain ⟨stored, inCommand, id, rfl⟩ :=
    exists_left_of_forall₂ launch.created.argumentsOf row member
  rw [launch.launched.arguments] at inCommand
  obtain ⟨argument, normal, rfl⟩ := List.mem_map.mp inCommand
  obtain ⟨node, nodeMember, inNode⟩ := List.mem_flatMap.mp
    (launch.accepted.normalized.mem_iff.mp normal)
  obtain ⟨definition, inside, value⟩ := List.mem_filterMap.mp inNode
  exact ⟨node, nodeMember, definition, inside, argument, value, rfl, rfl, rfl, rfl, rfl⟩

theorem Launch.argumentsSound : ArgumentsSound graph db.instances.nextId made := by
  have agree := launch.accepted.agree
  have unitOf : ∀ node ∈ graph.nodes,
      ∀ unit ∈ buildDefaultWorkflowUnitRegistry.find node.unitKind, NodeAgrees unit node := by
    intro node member unit found
    obtain ⟨other, otherFound, agrees⟩ := agree.agree node member
    rw [Option.mem_def, otherFound, Option.some.injEq] at found
    rw [← found]
    exact agrees
  have stored : ∀ {node : WorkflowGraphNodeSnapshot},
      node ∈ graph.nodes → ∀ {definition}, definition ∈ node.arguments →
        ∀ {argument}, argument ∈ effectiveArgument request.arguments node
          definition → ∃ row, ArgumentStored made db.instances.nextId
            node.nodeKey definition.argumentKey row ∧ row.integerValue = argument.integerValue := by
    intro node member definition inside argument value
    obtain ⟨row, rowMember, holds⟩ := launch.exists_argumentRow member inside value
    obtain ⟨inTable, owner⟩ := launch.mem_argumentRows.mp rowMember
    have valueOf := (launch.accepted.valued node member definition inside argument value).1
    exact ⟨row, ⟨inTable, owner, holds.nodeKey.trans valueOf.nodeKey,
      holds.argumentKey.trans valueOf.argumentKey⟩, holds.integerValue⟩
  refine ⟨?_, ?_, ?_, ?_⟩
  · intro node member unit found expected declared needed
    obtain ⟨definition, inside, named, agrees, -⟩ :=
      (unitOf node member unit found).arguments expected declared
    obtain ⟨-, required, default, -⟩ := agrees
    have given := launch.accepted.given node member definition inside (by
      rw [required, default]
      exact needed)
    obtain ⟨argument, value⟩ := Option.isSome_iff_exists.mp given
    obtain ⟨row, isStored, -⟩ := stored member inside value
    rw [named] at isStored
    exact ⟨row, isStored⟩
  · intro row inTable owner
    obtain ⟨node, member, definition, inside, argument, value, holds⟩ :=
      launch.exists_effectiveArgument (launch.mem_argumentRows.mpr ⟨inTable, owner⟩)
    obtain ⟨valueOf, silent⟩ := launch.accepted.valued node member definition inside argument value
    obtain ⟨unit, found, agrees⟩ := agree.agree node member
    have declared := agrees.argumentKeys.subset (List.mem_map_of_mem inside)
    obtain ⟨expected, expectedMember, sameKey⟩ := List.mem_map.mp declared
    obtain ⟨actual, actualInside, actualKey, actualAgrees, choices⟩ :=
      agrees.arguments expected expectedMember
    have same : actual = definition := List.inj_on_of_nodup_map
      (agree.argumentKeys_nodup member) actualInside inside (actualKey.trans sameKey)
    rw [same] at actualAgrees choices
    refine ⟨node, member, (holds.nodeKey.trans valueOf.nodeKey).symm, unit,
      found, expected, expectedMember, ?_,
      argumentFits_of_valueIssue actualAgrees choices valueOf.valueType silent holds⟩
    rw [sameKey, holds.argumentKey, valueOf.argumentKey]
  · rintro nodeKey argumentKey row other
      ⟨inTable, owner, rfl, rfl⟩ ⟨otherInTable, otherOwner, sameNode, sameKey⟩
    have distinct : (argumentRows.map fun row =>
        memberKey row.nodeKey row.argumentKey).Nodup := by
      have same := map_eq_of_forall₂
        (fun argument : CreateArgumentSpec => memberKey argument.nodeKey argument.argumentKey)
        (fun row : ArgumentRow => memberKey row.nodeKey row.argumentKey)
        (fun argument row => by
          rintro ⟨id, rfl⟩
          rfl) launch.created.argumentsOf
      rw [← same]
      exact launch.distinct
    exact List.inj_on_of_nodup_map distinct
      (launch.mem_argumentRows.mpr ⟨inTable, owner⟩)
      (launch.mem_argumentRows.mpr ⟨otherInTable, otherOwner⟩)
      (by rw [sameNode, sameKey])
  · intro node member unit found constraint declared
    have registered := WorkflowUnitRegistry.mem_of_find found
    have plainKeys := (keysOnOneLine_of_find found).2
    have plain : ∀ key ∈ unit.launchArguments.map (·.key), 10 ∉ key := by
      intro key inside
      obtain ⟨expected, expectedMember, rfl⟩ := List.mem_map.mp inside
      exact plainKeys expected expectedMember
    obtain ⟨lesserKey, greaterKey⟩ := WorkflowUnitRegistry.constraint_keys registered declared
    obtain ⟨lesser, lesserInside, greater, greaterInside, lesserNamed,
      greaterNamed, least, leastValue, most, mostValue, low, lowIn, high,
      highIn, ordered⟩ := launch.accepted.constrained node member constraint
        ((unitOf node member unit found).constraints constraint declared)
        (plain _ lesserKey) (plain _ greaterKey)
    obtain ⟨lesserRow, lesserStored, lesserNumber⟩ := stored member lesserInside leastValue
    obtain ⟨greaterRow, greaterStored, greaterNumber⟩ := stored member greaterInside mostValue
    rw [lesserNamed] at lesserStored
    rw [greaterNamed] at greaterStored
    refine ⟨lesserRow, greaterRow, lesserStored, greaterStored, low, ?_, high, ?_, ordered⟩
    · rw [lesserNumber]
      exact lowIn
    · rw [greaterNumber]
      exact highIn

/-- A launched instance can run exactly when its graph has no cycle. -/
theorem Launch.runnable_iff : RunnableInstance graph db.instances.nextId made ↔
      Acyclic (GraphPrecedes graph) := by
  rw [← launch.served_iff]
  constructor
  · intro runnable row member
    obtain ⟨inTable, owner⟩ := launch.mem_rows.mp member
    exact runnable.served row inTable owner
  intro served
  refine ⟨?_, ?_, ?_, launch.argumentsSound⟩
  · intro node member
    obtain ⟨row, rowMember, key⟩ := launch.exists_row (List.mem_map_of_mem member)
    obtain ⟨inTable, owner⟩ := launch.mem_rows.mp rowMember
    exact ⟨row, inTable, owner, key⟩
  · intro row inTable owner
    exact served row (launch.mem_rows.mpr ⟨inTable, owner⟩)
  intro node member unit found input declared required
  obtain ⟨other, otherFound, agrees⟩ := launch.accepted.agree.agree node member
  rw [Option.mem_def, otherFound, Option.some.injEq] at found
  rw [← found] at declared
  exact launch.inputSupplied member (agrees.inputs.mem_iff.mpr declared) required

end

end Rows

end Savor.Workflow

import Mathlib.Data.List.Perm.Subperm
import Savor.Workflow.LaunchContract

/-!
# What an accepted launch satisfies

A launch contract without issues, pass by pass: the nodes agree with their
registered units, the edges and the bindings name inputs of nodes, and the
normalized arguments are the effective ones.
-/

namespace Savor.Workflow

open Library
open Program (ByteString text)

variable {nodeKey : ByteString} {node : WorkflowGraphNodeSnapshot}
variable {nodes : List WorkflowGraphNodeSnapshot} {edgeInputs : List ByteString}
variable {arguments : List WorkflowLaunchArgumentValue}
variable {definition : WorkflowGraphNodeArgumentSnapshot}

/-- A node key and a member without a line feed are determined by their
common key. -/
theorem memberKey_injective {otherKey member other : ByteString}
    (plain : 10 ∉ member) (otherPlain : 10 ∉ other)
    (same : memberKey nodeKey member = memberKey otherKey other) :
    nodeKey = otherKey ∧ member = other := by
  have lineFeed : text "\n" = [10] := by decide
  unfold memberKey at same
  rw [lineFeed, List.append_assoc, List.append_assoc] at same
  rcases List.append_eq_append_iff.mp same with
    ⟨between, longer, rest⟩ | ⟨between, longer, rest⟩
  · cases between with
    | nil =>
      rw [List.append_nil] at longer
      exact ⟨longer.symm, by simpa using rest⟩
    | cons first between =>
      have inside : member = between ++ [10] ++ other := by simpa using (List.cons.inj rest).2
      exact absurd (by rw [inside]; simp) plain
  cases between with
  | nil =>
    rw [List.append_nil] at longer
    exact ⟨longer, by simpa using rest.symm⟩
  | cons first between =>
    have inside : other = between ++ [10] ++ member := by simpa using (List.cons.inj rest).2
    exact absurd (by rw [inside]; simp) otherPlain

/-- A list that contains every element of another one without repetitions,
and is no longer, is a permutation of it. -/
theorem perm_of_subset {α : Type} {keys others : List α}
    (distinct : others.Nodup) (subset : ∀ other ∈ others, other ∈ keys)
    (length : keys.length = others.length) : keys.Perm others :=
  ((List.subperm_of_subset distinct subset).perm_of_length_le (le_of_eq length)).symm

/-- A saved node agrees with its registered unit. -/
structure NodeAgrees (unit : WorkflowUnitDefinition) (node : WorkflowGraphNodeSnapshot) : Prop where
  inputs : node.inputs.Perm unit.requiredInputs
  argumentKeys : (node.arguments.map (·.argumentKey)).Perm (unit.launchArguments.map (·.key))
  arguments : ∀ expected ∈ unit.launchArguments, ∃ actual ∈ node.arguments,
    actual.argumentKey = expected.key ∧ ArgumentAgrees expected actual ∧
      actual.choices = expected.choices
  constraints : ∀ expected ∈ unit.launchArgumentConstraints, expected ∈ node.argumentConstraints

theorem mem_inputs_of_silent {expected : WorkflowPortDefinition}
    (silent : inputContractIssue node expected = []) : expected ∈ node.inputs := by
  unfold inputContractIssue at silent
  dsimp only at silent
  split at silent
  · cases silent
  rename_i actual found
  split at silent
  · cases silent
  rename_i agrees
  push Not at agrees
  have named : actual.key = expected.key := by simpa using List.find?_some found
  have same : actual = expected := by
    cases actual
    cases expected
    simp_all
  rw [← same]
  exact List.mem_of_find?_eq_some found

theorem argument_of_silent {expected : WorkflowLaunchArgumentDefinition}
    (silent : argumentContractIssue node expected = []) :
    ∃ actual ∈ node.arguments, actual.argumentKey = expected.key ∧
      ArgumentAgrees expected actual ∧ actual.choices = expected.choices := by
  unfold argumentContractIssue at silent
  dsimp only at silent
  split at silent
  · cases silent
  rename_i actual found
  split at silent
  · cases silent
  rename_i agrees
  split at silent
  · cases silent
  rename_i choices
  refine ⟨actual, List.mem_of_find?_eq_some found, ?_, not_not.mp agrees, not_not.mp choices⟩
  simpa using List.find?_some found

variable {registry : LaunchRegistry}

theorem nodeAgrees_of_silent {unit : WorkflowUnitDefinition} (registered : unit ∈ registry.units)
    (silent : unitContractIssues unit node = []) : NodeAgrees unit node := by
  unfold unitContractIssues at silent
  simp only [List.append_eq_nil_iff, List.flatMap_eq_nil_iff] at silent
  obtain ⟨⟨⟨⟨⟨sizes, inputs⟩, -⟩, arguments⟩, constraints⟩, -⟩ := silent
  have lengths : node.inputs.length = unit.requiredInputs.length ∧
      node.arguments.length = unit.launchArguments.length := by
    split at sizes
    · cases sizes
    rename_i same
    push Not at same
    exact ⟨same.1, same.2.2.1⟩
  refine ⟨?_, ?_, fun expected member => argument_of_silent (arguments expected member), ?_⟩
  · exact perm_of_subset
      (WorkflowUnitRegistry.inputKeys_nodup registered).of_map
      (fun expected member => mem_inputs_of_silent (inputs expected member))
      lengths.1
  · refine perm_of_subset
      (WorkflowUnitRegistry.argumentKeys_nodup registered) ?_ ?_
    · intro key member
      obtain ⟨expected, expectedMember, rfl⟩ := List.mem_map.mp member
      obtain ⟨actual, actualMember, named, -⟩ :=
        argument_of_silent (arguments expected expectedMember)
      exact List.mem_map.mpr ⟨actual, actualMember, named⟩
    · rw [List.length_map, List.length_map]
      exact lengths.2
  · intro expected member
    have found := constraints expected member
    split at found
    · assumption
    · cases found

/-- What the pass over the nodes ensures. -/
structure NodesAgree (registry : LaunchRegistry)
    (nodes : List WorkflowGraphNodeSnapshot) : Prop where
  nodup : (nodes.map (·.nodeKey)).Nodup
  named : ∀ node ∈ nodes, node.nodeKey ≠ []
  agree : ∀ node ∈ nodes, ∃ unit, registry.find node.unitKind = some unit ∧ NodeAgrees unit node

/-- A pass over the nodes without issues keeps all of them. -/
theorem pass_checkNode (silent : (pass (checkNode registry) nodes []).1 = []) :
    (pass (checkNode registry) nodes []).2 = nodes ∧ NodesAgree registry nodes := by
  have nothing : NodesAgree registry [] :=
    ⟨List.nodup_nil, fun _ member => absurd member List.not_mem_nil,
      fun _ member => absurd member List.not_mem_nil⟩
  refine pass_induction
    (fun done state => state = done ∧ NodesAgree registry done)
    ?_ ⟨rfl, nothing⟩ silent
  rintro done node _ _ ⟨rfl, kept⟩ silent
  unfold checkNode at silent ⊢
  split at silent
  · cases silent
  rename_i fresh
  rw [if_neg fresh]
  push Not at fresh
  split at silent
  · cases silent
  rename_i unit found
  have agrees := nodeAgrees_of_silent (WorkflowUnitRegistry.mem_of_find found) silent
  refine ⟨rfl, ?_, ?_, ?_⟩
  · rw [List.map_append, List.nodup_append]
    refine ⟨kept.nodup, List.nodup_singleton _, ?_⟩
    rintro key member other here rfl
    rw [List.mem_singleton.mp here] at member
    exact fresh.2 member
  · intro other member
    rcases List.mem_append.mp member with early | here
    · exact kept.named other early
    · rw [List.mem_singleton.mp here]
      exact fresh.1
  intro other member
  rcases List.mem_append.mp member with early | here
  · exact kept.agree other early
  · rw [List.mem_singleton.mp here]
    exact ⟨unit, found, agrees⟩

theorem findNode_eq_some {key : ByteString} (found : findNode nodes key = some node) :
    node ∈ nodes ∧ node.nodeKey = key := by
  refine ⟨List.mem_of_find?_eq_some found, ?_⟩
  simpa using List.find?_some found

variable {input : WorkflowPortDefinition}

theorem findInput_eq_some {key : ByteString} (found : node.findInput key = some input) :
    input ∈ node.inputs ∧ input.key = key := by
  refine ⟨List.mem_of_find?_eq_some found, ?_⟩
  simpa using List.find?_some found

/-- The nodes have an input with these keys. -/
def HasInput (nodes : List WorkflowGraphNodeSnapshot) (nodeKey inputKey : ByteString) : Prop :=
  ∃ node ∈ nodes, node.nodeKey = nodeKey ∧ ∃ input ∈ node.inputs, input.key = inputKey

theorem hasInput_of_checkEdge {edge : WorkflowGraphEdgeSnapshot}
    (silent : (checkEdge nodes edgeInputs edge).1 = [])
    (isData : edge.edgeKind = text "DATA") :
    HasInput nodes edge.toNodeKey edge.inputKey := by
  unfold checkEdge at silent
  split at silent
  · rename_i fromNode toNode _ foundTo
    have different : text "DATA" ≠ text "CONTROL" := by decide
    rw [isData, if_neg different, if_neg (not_not.mpr rfl)] at silent
    unfold checkPorts at silent
    split at silent
    · rename_i output input _ foundInput
      obtain ⟨toMember, toNamed⟩ := findNode_eq_some foundTo
      obtain ⟨inputMember, inputNamed⟩ := findInput_eq_some foundInput
      exact ⟨toNode, toMember, toNamed, input, inputMember, inputNamed⟩
    · cases silent
  · cases silent

variable {edges : List WorkflowGraphEdgeSnapshot}

theorem hasInput_of_pass_checkEdge (silent : (pass (checkEdge nodes) edges []).1 = []) :
    ∀ edge ∈ edges, edge.edgeKind = text "DATA" →
      HasInput nodes edge.toNodeKey edge.inputKey := by
  refine pass_induction
    (fun done _ => ∀ edge ∈ done, edge.edgeKind = text "DATA" →
      HasInput nodes edge.toNodeKey edge.inputKey)
    ?_ (fun _ member => absurd member List.not_mem_nil) silent
  intro done edge _ _ kept silent other member
  rcases List.mem_append.mp member with early | here
  · exact kept other early
  · rw [List.mem_singleton.mp here]
    exact hasInput_of_checkEdge silent

theorem hasInput_of_checkExternalInput {externalInputs : List ByteString}
    {supplied : WorkflowLaunchInputValue}
    (silent : (checkExternalInput nodes edgeInputs externalInputs supplied).1 = []) :
    HasInput nodes supplied.nodeKey supplied.inputKey := by
  unfold checkExternalInput at silent
  split at silent
  · cases silent
  rename_i node found
  iterate 2 (split at silent; · cases silent)
  rename_i input matching
  obtain ⟨foundInput, _⟩ := Option.filter_eq_some_iff.mp matching
  obtain ⟨member, named⟩ := findNode_eq_some found
  obtain ⟨inputMember, inputNamed⟩ := findInput_eq_some foundInput
  exact ⟨node, member, named, input, inputMember, inputNamed⟩

variable {inputs : List WorkflowLaunchInputValue}

theorem hasInput_of_pass_checkExternalInput
    (silent : (pass (checkExternalInput nodes edgeInputs) inputs []).1 = []) : ∀ supplied ∈ inputs,
      HasInput nodes supplied.nodeKey supplied.inputKey := by
  refine pass_induction
    (fun done _ => ∀ supplied ∈ done, HasInput nodes supplied.nodeKey supplied.inputKey)
    ?_ (fun _ member => absurd member List.not_mem_nil) silent
  intro done supplied _ _ kept silent other member
  rcases List.mem_append.mp member with early | here
  · exact kept other early
  · rw [List.mem_singleton.mp here]
    exact hasInput_of_checkExternalInput silent

/-- The nodes define an argument with the keys and the type of the supplied
one. -/
def HasArgument (nodes : List WorkflowGraphNodeSnapshot)
    (argument : WorkflowLaunchArgumentValue) : Prop :=
  ∃ node ∈ nodes, node.nodeKey = argument.nodeKey ∧
    ∃ definition ∈ node.arguments,
      definition.argumentKey = argument.argumentKey ∧ definition.valueType = argument.valueType

/-- A supplied argument under its key. -/
def keyedArgument (argument : WorkflowLaunchArgumentValue) :
    ByteString × WorkflowLaunchArgumentValue :=
  (memberKey argument.nodeKey argument.argumentKey, argument)

/-- A pass over the supplied arguments without issues keeps all of them, and
they name arguments of nodes. -/
theorem pass_checkSuppliedArgument
    (silent : (pass (checkSuppliedArgument nodes) arguments []).1 = []) :
    (pass (checkSuppliedArgument nodes) arguments []).2 = arguments.map keyedArgument ∧
      ∀ argument ∈ arguments, HasArgument nodes argument := by
  refine pass_induction
    (fun done state => state = done.map keyedArgument ∧
      ∀ argument ∈ done, HasArgument nodes argument)
    ?_ ⟨rfl, fun _ member => absurd member List.not_mem_nil⟩ silent
  rintro done argument _ _ ⟨rfl, kept⟩ silent
  unfold checkSuppliedArgument at silent ⊢
  split at silent
  · cases silent
  rename_i node found
  split at silent
  · cases silent
  rename_i definition foundDefinition
  split at silent
  · cases silent
  rename_i notConstant
  rw [if_neg notConstant]
  dsimp only at silent ⊢
  split at silent
  · cases silent
  rename_i fresh
  rw [if_neg fresh]
  refine ⟨by rw [List.map_append]; rfl, ?_⟩
  intro other member
  rcases List.mem_append.mp member with early | here
  · exact kept other early
  rw [List.mem_singleton.mp here]
  obtain ⟨member, named⟩ := findNode_eq_some found
  obtain ⟨foundKey, typed⟩ := Option.filter_eq_some_iff.mp foundDefinition
  exact ⟨node, member, named, definition, List.mem_of_find?_eq_some foundKey, by
      simpa using List.find?_some foundKey, by simpa using typed⟩

section Normalizing

variable {supplied : List (ByteString × WorkflowLaunchArgumentValue)}

/-- The value that an argument of a node gets. -/
def resolved (supplied : List (ByteString × WorkflowLaunchArgumentValue))
    (nodeKey : ByteString) (definition : WorkflowGraphNodeArgumentSnapshot) :
    Option WorkflowLaunchArgumentValue :=
  (resolveArgument supplied nodeKey definition).2

/-- The argument is resolved without an issue. -/
def Resolves (supplied : List (ByteString × WorkflowLaunchArgumentValue)) (nodeKey : ByteString)
    (definition : WorkflowGraphNodeArgumentSnapshot) : Prop :=
  (resolveArgument supplied nodeKey definition).1 = [] ∧
    ∀ argument ∈ resolved supplied nodeKey definition, valueIssue nodeKey definition argument = []

/-- A number kept under a key comes from an argument with this key. -/
def IntegersResolved (supplied : List (ByteString × WorkflowLaunchArgumentValue))
    (nodes : List WorkflowGraphNodeSnapshot) (integers : List (ByteString × Int)) : Prop :=
  ∀ entry ∈ integers, ∃ node ∈ nodes, ∃ definition ∈ node.arguments,
    entry.1 = memberKey node.nodeKey definition.argumentKey ∧
      ∃ argument ∈ resolved supplied node.nodeKey definition, argument.integerValue = some entry.2

variable {normalization : Normalization}

theorem normalizeArgument_silent {nodeKey : ByteString}
    {definition : WorkflowGraphNodeArgumentSnapshot}
    (silent : (normalizeArgument supplied nodeKey normalization definition).1 = []) :
    Resolves supplied nodeKey definition ∧
      (normalizeArgument supplied nodeKey normalization definition).2.arguments =
        normalization.arguments ++ (resolved supplied nodeKey definition).toList ∧
      ∀ entry ∈ (normalizeArgument supplied nodeKey normalization definition).2.integers,
        entry ∈ normalization.integers ∨ entry.1 = memberKey nodeKey definition.argumentKey ∧
            ∃ argument ∈ resolved supplied nodeKey definition,
              argument.integerValue = some entry.2 := by
  unfold Resolves resolved
  unfold normalizeArgument at silent ⊢
  cases found : resolveArgument supplied nodeKey definition with
  | mk issues value =>
    rw [found] at silent
    cases value with
    | none =>
      refine ⟨⟨silent, fun _ member => by cases member⟩, ?_, fun _ member => .inl member⟩
      exact (List.append_nil _).symm
    | some argument =>
      dsimp only at silent ⊢
      cases invalid : valueIssue nodeKey definition argument with
      | cons issue rest =>
        rw [invalid] at silent
        simp at silent
      | nil =>
        rw [invalid] at silent
        refine ⟨⟨silent, ?_⟩, rfl, ?_⟩
        · intro other member
          cases member
          exact invalid
        intro entry member
        dsimp only at member
        cases number : argument.integerValue with
        | none =>
          rw [number] at member
          exact .inl member
        | some value =>
          rw [number] at member
          rcases List.mem_cons.mp member with rfl | later
          · exact .inr ⟨rfl, argument, rfl, number⟩
          · exact .inl later

theorem pass_normalizeArgument {nodeKey : ByteString}
    {definitions : List WorkflowGraphNodeArgumentSnapshot}
    (silent : (pass (normalizeArgument supplied nodeKey) definitions normalization).1 = []) :
    (∀ definition ∈ definitions, Resolves supplied nodeKey definition) ∧
      (pass (normalizeArgument supplied nodeKey) definitions normalization).2.arguments =
        normalization.arguments ++ definitions.filterMap (resolved supplied nodeKey) ∧
      ∀ entry ∈ (pass (normalizeArgument supplied nodeKey) definitions normalization).2.integers,
        entry ∈ normalization.integers ∨ ∃ definition ∈ definitions,
          entry.1 = memberKey nodeKey definition.argumentKey ∧
            ∃ argument ∈ resolved supplied nodeKey definition,
              argument.integerValue = some entry.2 := by
  refine pass_induction
    (fun done state =>
      (∀ definition ∈ done, Resolves supplied nodeKey definition) ∧
        state.arguments = normalization.arguments ++ done.filterMap (resolved supplied nodeKey) ∧
        ∀ entry ∈ state.integers,
          entry ∈ normalization.integers ∨ ∃ definition ∈ done,
            entry.1 = memberKey nodeKey definition.argumentKey ∧
              ∃ argument ∈ resolved supplied nodeKey definition,
                argument.integerValue = some entry.2)
    ?_ ?_ silent
  · rintro done definition _ state ⟨resolves, arguments, integers⟩ silent
    obtain ⟨here, grown, numbers⟩ := normalizeArgument_silent silent
    refine ⟨?_, ?_, ?_⟩
    · intro other member
      rcases List.mem_append.mp member with early | last
      · exact resolves other early
      · rw [List.mem_singleton.mp last]
        exact here
    · have last : [definition].filterMap (resolved supplied nodeKey) =
          (resolved supplied nodeKey definition).toList := by
        rw [List.filterMap_cons]
        cases resolved supplied nodeKey definition <;> rfl
      rw [grown, arguments, List.filterMap_append, last, List.append_assoc]
    intro entry member
    rcases numbers entry member with early | ⟨same, value⟩
    · rcases integers entry early with before | ⟨other, inside, known⟩
      · exact .inl before
      · exact .inr ⟨other, List.mem_append_left _ inside, known⟩
    · exact .inr ⟨definition, List.mem_concat_self, same, value⟩
  · refine ⟨fun _ member => absurd member List.not_mem_nil, ?_,
      fun _ member => .inl member⟩
    exact (List.append_nil _).symm

/-- The constraint holds between two numbers of the node. -/
def ConstraintHolds (supplied : List (ByteString × WorkflowLaunchArgumentValue))
    (nodes : List WorkflowGraphNodeSnapshot) (node : WorkflowGraphNodeSnapshot)
    (constraint : WorkflowLaunchArgumentConstraint) : Prop :=
  ∃ integers lesser greater, IntegersResolved supplied nodes integers ∧
    (memberKey node.nodeKey constraint.lesserOrEqualKey, lesser) ∈ integers ∧
    (memberKey node.nodeKey constraint.greaterOrEqualKey, greater) ∈ integers ∧ lesser ≤ greater

theorem mem_of_lookup {α β : Type} [BEq α] [LawfulBEq α]
    {entries : List (α × β)} {key : α} {value : β}
    (found : entries.lookup key = some value) : (key, value) ∈ entries := by
  induction entries with
  | nil => cases found
  | cons entry entries ih =>
    rw [List.lookup_cons] at found
    split at found
    · rename_i same
      rw [Option.some.injEq] at found
      rw [LawfulBEq.eq_of_beq same, ← found]
      exact List.mem_cons_self
    · exact List.mem_cons_of_mem _ (ih found)

theorem constraintHolds_of_silent
    {node : WorkflowGraphNodeSnapshot} {integers : List (ByteString × Int)}
    {constraint : WorkflowLaunchArgumentConstraint}
    (known : IntegersResolved supplied nodes integers)
    (silent : constraintIssue integers node.nodeKey constraint = []) :
    ConstraintHolds supplied nodes node constraint := by
  unfold constraintIssue at silent
  split at silent
  · rename_i lesser greater foundLesser foundGreater
    split at silent
    · cases silent
    rename_i ordered
    exact ⟨integers, lesser, greater, known, mem_of_lookup foundLesser,
      mem_of_lookup foundGreater, Int.not_lt.mp ordered⟩
  · cases silent

theorem pass_normalizeNode (silent : (pass (normalizeNode supplied) nodes ⟨[], []⟩).1 = []) :
    (∀ node ∈ nodes, ∀ definition ∈ node.arguments, Resolves supplied node.nodeKey definition) ∧
    (∀ node ∈ nodes, ∀ constraint ∈ node.argumentConstraints,
      ConstraintHolds supplied nodes node constraint) ∧
    (pass (normalizeNode supplied) nodes ⟨[], []⟩).2.arguments =
      nodes.flatMap fun node => node.arguments.filterMap (resolved supplied node.nodeKey) := by
  have carried := pass_induction
    (fun done state =>
      (∀ node ∈ done, ∀ definition ∈ node.arguments, Resolves supplied node.nodeKey definition) ∧
      (∀ node ∈ done, ∀ constraint ∈ node.argumentConstraints,
        ConstraintHolds supplied nodes node constraint) ∧
      state.arguments = done.flatMap (fun node =>
        node.arguments.filterMap (resolved supplied node.nodeKey)) ∧
      IntegersResolved supplied nodes state.integers)
    ?_ ⟨fun _ member => absurd member List.not_mem_nil,
      fun _ member => absurd member List.not_mem_nil, rfl,
      fun _ member => absurd member List.not_mem_nil⟩ silent
  · exact ⟨carried.1, carried.2.1, carried.2.2.1⟩
  rintro done node nodeMember state ⟨resolves, constraints, arguments, integers⟩ silent
  obtain ⟨defined, constrained⟩ := List.append_eq_nil_iff.mp silent
  obtain ⟨here, grown, numbers⟩ := pass_normalizeArgument defined
  have known : IntegersResolved supplied nodes
      (normalizeNode supplied state node).2.integers := by
    intro entry member
    rcases numbers entry member with early | ⟨definition, inside, value⟩
    · exact integers entry early
    · exact ⟨node, nodeMember, definition, inside, value⟩
  refine ⟨?_, ?_, ?_, known⟩
  · intro other member
    rcases List.mem_append.mp member with early | last
    · exact resolves other early
    · rw [List.mem_singleton.mp last]
      exact here
  · intro other member
    rcases List.mem_append.mp member with early | last
    · exact constraints other early
    rw [List.mem_singleton.mp last]
    intro constraint inside
    exact constraintHolds_of_silent known (List.flatMap_eq_nil_iff.mp constrained constraint inside)
  · rw [List.flatMap_append, List.flatMap_singleton, ← arguments]
    exact grown

end Normalizing

/-- The value that a launch gives to an argument of a node: the constant of
the graph, else the supplied argument, else the default. -/
def effectiveArgument (arguments : List WorkflowLaunchArgumentValue)
    (node : WorkflowGraphNodeSnapshot) (definition : WorkflowGraphNodeArgumentSnapshot) :
    Option WorkflowLaunchArgumentValue :=
  if definition.isConstant then
    definition.constantValue.map fun constant =>
      writtenArgument node.nodeKey definition constant
        (text "graph_constant")
  else
    ((arguments.find? fun argument => argument.nodeKey = node.nodeKey ∧
        argument.argumentKey = definition.argumentKey).map launchArgument).or
    (definition.defaultValue.map fun written =>
      writtenArgument node.nodeKey definition written (text "catalog_default"))

/-- The values that a launch gives to the arguments of a graph. -/
def effectiveArguments (graph : WorkflowGraphSnapshot)
    (arguments : List WorkflowLaunchArgumentValue) : List WorkflowLaunchArgumentValue :=
  graph.nodes.flatMap fun node => node.arguments.filterMap (effectiveArgument arguments node)

/-- The argument keys of the nodes have no line feed. -/
def ArgumentsOnOneLine (nodes : List WorkflowGraphNodeSnapshot) : Prop :=
  ∀ node ∈ nodes, ∀ definition ∈ node.arguments, 10 ∉ definition.argumentKey

theorem NodesAgree.argumentsOnOneLine (agree : NodesAgree buildDefaultWorkflowUnitRegistry nodes) :
    ArgumentsOnOneLine nodes := by
  intro node member definition inside
  obtain ⟨unit, found, agrees⟩ := agree.agree node member
  have declared := agrees.argumentKeys.subset (List.mem_map_of_mem inside)
  obtain ⟨expected, expectedMember, same⟩ := List.mem_map.mp declared
  rw [← same]
  exact (keysOnOneLine_of_find found).2 expected expectedMember

theorem NodesAgree.inputKey_onOneLine (agree : NodesAgree buildDefaultWorkflowUnitRegistry nodes)
    (member : node ∈ nodes) (inside : input ∈ node.inputs) : 10 ∉ input.key := by
  obtain ⟨unit, found, agrees⟩ := agree.agree node member
  exact (keysOnOneLine_of_find found).1 input (agrees.inputs.subset inside)

/-- The supplied argument that is found under a common key has the node and
the argument key. -/
theorem lookup_keyedArgument (plain : ArgumentsOnOneLine nodes)
    (known : ∀ argument ∈ arguments, HasArgument nodes argument)
    {argumentKey : ByteString} (onOneLine : 10 ∉ argumentKey) :
    (arguments.map keyedArgument).lookup (memberKey nodeKey argumentKey) =
      arguments.find? fun argument => argument.nodeKey = nodeKey ∧
        argument.argumentKey = argumentKey := by
  induction arguments with
  | nil => rfl
  | cons argument arguments ih =>
    have rest := ih fun other member => known other (List.mem_cons_of_mem _ member)
    obtain ⟨node, member, named, definition, inside, key, -⟩ := known argument List.mem_cons_self
    have argumentPlain : 10 ∉ argument.argumentKey := by
      rw [← key]
      exact plain node member definition inside
    rw [List.map_cons, keyedArgument, List.lookup_cons, List.find?_cons]
    by_cases same : memberKey nodeKey argumentKey = memberKey argument.nodeKey argument.argumentKey
    · obtain ⟨sameNode, sameKey⟩ :=
        memberKey_injective onOneLine argumentPlain same
      subst sameNode
      subst sameKey
      simp
    have unlike : ¬ (argument.nodeKey = nodeKey ∧ argument.argumentKey = argumentKey) := by
      rintro ⟨rfl, rfl⟩
      exact same rfl
    rw [beq_eq_false_iff_ne.mpr same, decide_eq_false unlike]
    exact rest

theorem resolved_eq_effectiveArgument (plain : ArgumentsOnOneLine nodes)
    (known : ∀ argument ∈ arguments, HasArgument nodes argument)
    (member : node ∈ nodes) (inside : definition ∈ node.arguments) :
    resolved (arguments.map keyedArgument) node.nodeKey definition =
      effectiveArgument arguments node definition := by
  unfold resolved resolveArgument effectiveArgument
  rw [lookup_keyedArgument plain known (plain node member definition inside)]
  split
  · cases definition.constantValue <;> rfl
  cases arguments.find? fun argument => argument.nodeKey = node.nodeKey ∧
      argument.argumentKey = definition.argumentKey with
  | some argument => rfl
  | none => cases definition.defaultValue <;> rfl

theorem resolved_isSome {supplied : List (ByteString × WorkflowLaunchArgumentValue)}
    (resolves : Resolves supplied nodeKey definition)
    (needed : definition.required = true ∨ definition.defaultValue ≠ none) :
    (resolved supplied nodeKey definition).isSome := by
  have silent := resolves.1
  unfold resolved
  unfold resolveArgument at silent ⊢
  split at silent
  · rename_i constant
    rw [if_pos constant]
    split at silent
    · cases silent
    · rfl
  rename_i constant
  rw [if_neg constant]
  split at silent
  · rfl
  split at silent
  · rfl
  rename_i absent
  rw [absent] at needed
  rcases needed with required | written
  · rw [if_pos required] at silent
    cases silent
  · exact absurd rfl written

/-- The effective values of a node satisfy a constraint of it. -/
def ConstraintMet (arguments : List WorkflowLaunchArgumentValue) (node : WorkflowGraphNodeSnapshot)
    (constraint : WorkflowLaunchArgumentConstraint) : Prop :=
  ∃ lesserDefinition ∈ node.arguments, ∃ greaterDefinition ∈ node.arguments,
    lesserDefinition.argumentKey = constraint.lesserOrEqualKey ∧
    greaterDefinition.argumentKey = constraint.greaterOrEqualKey ∧
    ∃ lesser ∈ effectiveArgument arguments node lesserDefinition,
      ∃ greater ∈ effectiveArgument arguments node greaterDefinition,
        ∃ least ∈ lesser.integerValue, ∃ most ∈ greater.integerValue, least ≤ most

/-- The value of an argument has its keys and its type. -/
structure ValueOf (node : WorkflowGraphNodeSnapshot)
    (definition : WorkflowGraphNodeArgumentSnapshot)
    (argument : WorkflowLaunchArgumentValue) : Prop where
  nodeKey : argument.nodeKey = node.nodeKey
  argumentKey : argument.argumentKey = definition.argumentKey
  valueType : argument.valueType = definition.valueType

theorem NodesAgree.argumentKeys_nodup (agree : NodesAgree buildDefaultWorkflowUnitRegistry nodes)
    (member : node ∈ nodes) : (node.arguments.map (·.argumentKey)).Nodup := by
  obtain ⟨unit, found, agrees⟩ := agree.agree node member
  exact agrees.argumentKeys.nodup_iff.mpr
    (WorkflowUnitRegistry.argumentKeys_nodup (WorkflowUnitRegistry.mem_of_find found))

theorem valueOf_effectiveArgument (agree : NodesAgree buildDefaultWorkflowUnitRegistry nodes)
    (known : ∀ argument ∈ arguments, HasArgument nodes argument)
    (member : node ∈ nodes) (inside : definition ∈ node.arguments)
    {argument : WorkflowLaunchArgumentValue}
    (value : argument ∈ effectiveArgument arguments node definition) :
    ValueOf node definition argument := by
  unfold effectiveArgument at value
  split at value
  · obtain ⟨constant, -, rfl⟩ := Option.map_eq_some_iff.mp value
    exact ⟨rfl, rfl, rfl⟩
  rcases Option.or_eq_some_iff.mp value with supplied | ⟨-, written⟩
  · obtain ⟨found, isFound, rfl⟩ := Option.map_eq_some_iff.mp supplied
    have keys : found.nodeKey = node.nodeKey ∧
        found.argumentKey = definition.argumentKey := by
      simpa using List.find?_some isFound
    obtain ⟨other, otherMember, sameNode, otherDefinition, otherInside,
      sameKey, sameType⟩ := known found (List.mem_of_find?_eq_some isFound)
    have nodesSame : other = node := List.inj_on_of_nodup_map agree.nodup
      otherMember member (sameNode.trans keys.1)
    rw [nodesSame] at otherInside
    have definitionsSame : otherDefinition = definition :=
      List.inj_on_of_nodup_map (agree.argumentKeys_nodup member)
        otherInside inside (sameKey.trans keys.2)
    rw [definitionsSame] at sameType
    exact ⟨keys.1, keys.2, sameType.symm⟩
  · obtain ⟨default, -, rfl⟩ := Option.map_eq_some_iff.mp written
    exact ⟨rfl, rfl, rfl⟩

/-- What a launch contract without issues ensures. -/
structure Accepted (graph : WorkflowGraphSnapshot) (inputs : List WorkflowLaunchInputValue)
    (arguments normalized : List WorkflowLaunchArgumentValue) : Prop where
  agree : NodesAgree buildDefaultWorkflowUnitRegistry graph.nodes
  edges : ∀ edge ∈ graph.edges, edge.edgeKind = text "DATA" →
    HasInput graph.nodes edge.toNodeKey edge.inputKey
  inputs : ∀ supplied ∈ inputs, HasInput graph.nodes supplied.nodeKey supplied.inputKey
  normalized : normalized.Perm (effectiveArguments graph arguments)
  valued : ∀ node ∈ graph.nodes, ∀ definition ∈ node.arguments,
    ∀ argument ∈ effectiveArgument arguments node definition,
      ValueOf node definition argument ∧ valueIssue node.nodeKey definition argument = []
  given : ∀ node ∈ graph.nodes, ∀ definition ∈ node.arguments,
    (definition.required = true ∨ definition.defaultValue ≠ none) →
      (effectiveArgument arguments node definition).isSome
  constrained : ∀ node ∈ graph.nodes,
    ∀ constraint ∈ node.argumentConstraints,
      10 ∉ constraint.lesserOrEqualKey → 10 ∉ constraint.greaterOrEqualKey →
        ConstraintMet arguments node constraint

variable {normalized : List WorkflowLaunchArgumentValue}
variable {graph : WorkflowGraphSnapshot} {order : IterationOrder}

theorem accepted_of_validate (valid : validate buildDefaultWorkflowUnitRegistry order graph inputs
      arguments = ([], normalized)) :
    Accepted graph inputs arguments normalized := by
  unfold validate at valid
  dsimp only at valid
  rw [Prod.mk.injEq] at valid
  simp only [List.append_eq_nil_iff] at valid
  obtain ⟨⟨⟨⟨⟨⟨nodes, edges⟩, external⟩, -⟩, supplied⟩, normalizes⟩, result⟩ := valid
  obtain ⟨sameNodes, agree⟩ := pass_checkNode nodes
  rw [sameNodes] at edges external supplied normalizes result
  obtain ⟨sameSupplied, known⟩ := pass_checkSuppliedArgument supplied
  rw [sameSupplied] at normalizes result
  have visited := order.permutes graph.nodes
  obtain ⟨resolves, constraints, values⟩ := pass_normalizeNode normalizes
  have plain := agree.argumentsOnOneLine
  have effective : ∀ node ∈ graph.nodes, ∀ definition ∈ node.arguments,
      resolved (arguments.map keyedArgument) node.nodeKey definition =
        effectiveArgument arguments node definition :=
    fun node member definition inside => resolved_eq_effectiveArgument plain known member inside
  have resolvesAll : ∀ node ∈ graph.nodes, ∀ definition ∈ node.arguments,
      Resolves (arguments.map keyedArgument) node.nodeKey definition :=
    fun node member => resolves node (visited.mem_iff.mpr member)
  refine ⟨agree, hasInput_of_pass_checkEdge edges,
    hasInput_of_pass_checkExternalInput external, ?_, ?_, ?_, ?_⟩
  · rw [← result, values]
    unfold effectiveArguments
    have same : graph.nodes.flatMap (fun node => node.arguments.filterMap
          (resolved (arguments.map keyedArgument) node.nodeKey)) =
        graph.nodes.flatMap (fun node => node.arguments.filterMap
          (effectiveArgument arguments node)) :=
      List.flatMap_congr fun node member =>
        List.filterMap_congr fun definition inside => effective node member definition inside
    rw [← same]
    exact visited.flatMap_right _
  · intro node member definition inside argument value
    refine ⟨valueOf_effectiveArgument agree known member inside value, ?_⟩
    rw [← effective node member definition inside] at value
    exact (resolvesAll node member definition inside).2 argument value
  · intro node member definition inside needed
    rw [← effective node member definition inside]
    exact resolved_isSome (resolvesAll node member definition inside) needed
  intro node member constraint inside lesserPlain greaterPlain
  obtain ⟨integers, least, most, known, lesserIn, greaterIn, ordered⟩ :=
    constraints node (visited.mem_iff.mpr member) constraint inside
  have number : ∀ {key : ByteString} {value : Int}, 10 ∉ key →
      (memberKey node.nodeKey key, value) ∈ integers →
        ∃ definition ∈ node.arguments, definition.argumentKey = key ∧
          ∃ argument ∈ effectiveArgument arguments node definition,
            value ∈ argument.integerValue := by
    intro key value keyPlain entry
    obtain ⟨other, otherMember, definition, defined, same, argument, held, value⟩ := known _ entry
    have otherKept := visited.mem_iff.mp otherMember
    obtain ⟨sameNode, sameKey⟩ := memberKey_injective keyPlain
      (plain other otherKept definition defined) same
    have sameOther : other = node :=
      List.inj_on_of_nodup_map agree.nodup otherKept member sameNode.symm
    subst sameOther
    rw [effective other member definition defined] at held
    exact ⟨definition, defined, sameKey.symm, argument, held, value⟩
  obtain ⟨lesser, lesserDefined, lesserNamed, least, leastHeld,
    leastNumber⟩ := number lesserPlain lesserIn
  obtain ⟨greater, greaterDefined, greaterNamed, most, mostHeld,
    mostNumber⟩ := number greaterPlain greaterIn
  exact ⟨lesser, lesserDefined, greater, greaterDefined, lesserNamed,
    greaterNamed, least, leastHeld, most, mostHeld, _, leastNumber, _, mostNumber, ordered⟩

/-!
## The command of a launch

What `Start` puts into the command of an instance: an activation for every
node, an activation edge for every edge, and the bindings and arguments of the
launch.
-/

/-- The activation of a node as a launch builds it. -/
structure ActivationOf (node : WorkflowGraphNodeSnapshot)
    (activation : CreateUnitActivationSpec) : Prop where
  key : activation.activationKey = node.nodeKey
  graphNode : activation.graphNodeKey = node.nodeKey
  independent : activation.dependencies = []

theorem activationOf_of_build {activation : CreateUnitActivationSpec}
    (built : buildUnitActivationSpec registry node = .ok activation) :
    ActivationOf node activation := by
  unfold buildUnitActivationSpec at built
  iterate 2 (split at built; · cases built)
  cases built
  exact ⟨rfl, rfl, rfl⟩

/-- The inputs that data edges end at. -/
def dataInputs (edges : List WorkflowGraphEdgeSnapshot) : List ByteString :=
  (edges.filter fun edge => edge.edgeKind = text "DATA").map fun edge =>
    memberKey edge.toNodeKey edge.inputKey

theorem foldlM_checkLaunchEdge {nodes : LaunchNodes} {supplied : List ByteString}
    (ended : edges.foldlM (checkLaunchEdge nodes) [] = .ok supplied) :
    supplied = dataInputs edges := by
  refine foldlM_induction (fun done state => state = dataInputs done) ?_ rfl ended
  rintro done edge _ _ next rfl checked
  unfold checkLaunchEdge at checked
  unfold dataInputs
  rw [List.filter_append, List.map_append]
  split at checked
  · cases checked
  split at checked
  · rename_i isData
    cases checked
    rw [List.filter_cons_of_pos (by simpa using isData)]
    rfl
  rename_i notData
  split at checked
  · cases checked
  cases checked
  rw [List.filter_cons_of_neg (by simpa using notData)]
  exact (List.append_nil _).symm

theorem foldlM_checkLaunchBinding {nodes : LaunchNodes}
    {bindings : List WorkflowLaunchInputValue} {supplied : List ByteString}
    (ended : bindings.foldlM (checkLaunchBinding nodes) [] = .ok supplied) :
    supplied = bindings.map fun binding => memberKey binding.nodeKey binding.inputKey := by
  refine foldlM_induction
    (fun done state => state = done.map fun binding =>
      memberKey binding.nodeKey binding.inputKey) ?_ rfl ended
  rintro done binding _ _ next rfl checked
  unfold checkLaunchBinding at checked
  dsimp only at checked
  iterate 2 (split at checked; · cases checked)
  cases checked
  rw [List.map_append]
  rfl

/-- A data edge or a binding supplies the input. -/
def Supplied (graph : WorkflowGraphSnapshot) (bindings : List WorkflowLaunchInputValue)
    (nodeKey inputKey : ByteString) : Prop :=
  (∃ edge ∈ graph.edges, edge.edgeKind = text "DATA" ∧
    edge.toNodeKey = nodeKey ∧ edge.inputKey = inputKey) ∨
  ∃ binding ∈ bindings, binding.nodeKey = nodeKey ∧ binding.inputKey = inputKey

/-- What the command of a launch consists of. -/
structure LaunchedFrom (request : WorkflowGraphLaunchRequest) (graph : WorkflowGraphSnapshot)
    (normalized : List WorkflowLaunchArgumentValue) (command : CreateInstanceCommand) : Prop where
  scopeKind : command.rootScopeKind = text "manual"
  scopeId : command.rootScopeId = none
  revision : command.workflowGraphRevisionId = some graph.workflowGraphRevisionId
  launchKey : command.launchKey = request.launchKey
  activations : List.Forall₂ ActivationOf graph.nodes command.unitActivations
  edges : command.activationEdges = graph.edges.map (·.activationEdge)
  bindings : command.inputBindings = request.inputBindings.map launchBinding
  arguments : command.arguments = normalized.map launchArgument
  required : ∀ node ∈ graph.nodes, ∀ input ∈ node.inputs,
    input.required = true →
      memberKey node.nodeKey input.key ∈ dataInputs graph.edges ∨
        memberKey node.nodeKey input.key ∈ request.inputBindings.map
          fun binding => memberKey binding.nodeKey binding.inputKey

variable {command : CreateInstanceCommand}
variable {request : WorkflowGraphLaunchRequest}

theorem launchedFrom_of_graphCommand {now : Nat}
    (made : graphCommand registry request now graph normalized = .ok command) :
    LaunchedFrom request graph normalized command := by
  unfold graphCommand at made
  obtain ⟨nodes, -, made⟩ := exists_of_bind_ok made
  obtain ⟨suppliedByEdge, edges, made⟩ := exists_of_bind_ok made
  obtain ⟨suppliedInputs, bindings, made⟩ := exists_of_bind_ok made
  obtain ⟨activations, built, made⟩ := exists_of_bind_ok made
  cases made
  rw [foldlM_checkLaunchEdge edges, foldlM_checkLaunchBinding bindings] at built
  have launched := forall₂_of_mapM_ok built
  refine ⟨rfl, rfl, rfl, rfl, ?_, rfl, rfl, rfl, ?_⟩
  · refine launched.imp ?_
    intro node activation built
    unfold launchActivation at built
    split at built
    · cases built
    exact activationOf_of_build built
  intro node member input inside required
  obtain ⟨activation, -, built⟩ := exists_right_of_forall₂ launched node member
  unfold launchActivation at built
  split at built
  · cases built
  rename_i complete
  have checked := List.find?_eq_none.mp complete input inside
  simp only [required, true_and, Bool.not_eq_true, decide_eq_false_iff_not] at checked
  by_contra unsupplied
  exact checked (not_or.mp unsupplied)

theorem LaunchedFrom.supplied (launched : LaunchedFrom request graph normalized command)
    (accepted : Accepted graph request.inputBindings request.arguments normalized)
    (member : node ∈ graph.nodes) (inside : input ∈ node.inputs)
    (required : input.required = true) :
    Supplied graph request.inputBindings node.nodeKey input.key := by
  have plain := accepted.agree.inputKey_onOneLine member inside
  have known : ∀ {nodeKey inputKey : ByteString},
      HasInput graph.nodes nodeKey inputKey → 10 ∉ inputKey := by
    rintro nodeKey inputKey ⟨other, otherMember, -, port, portInside, rfl⟩
    exact accepted.agree.inputKey_onOneLine otherMember portInside
  rcases launched.required node member input inside required with
    byEdge | byBinding
  · obtain ⟨edge, selected, same⟩ := List.mem_map.mp byEdge
    obtain ⟨edgeMember, isData⟩ := List.mem_filter.mp selected
    have data : edge.edgeKind = text "DATA" := by simpa using isData
    obtain ⟨sameNode, sameKey⟩ := memberKey_injective
      (known (accepted.edges edge edgeMember data)) plain same
    exact .inl ⟨edge, edgeMember, data, sameNode, sameKey⟩
  obtain ⟨binding, bindingMember, same⟩ := List.mem_map.mp byBinding
  obtain ⟨sameNode, sameKey⟩ := memberKey_injective
    (known (accepted.inputs binding bindingMember)) plain same
  exact .inr ⟨binding, bindingMember, sameNode, sameKey⟩

theorem exists_of_launchCommand {authoring : AuthoringDb} {now : Nat}
    (made : launchCommand authoring order request now = .ok command) : ∃ graph normalized,
      authoring.revision request.workflowGraphRevisionId = some graph ∧
        Accepted graph request.inputBindings request.arguments normalized ∧
        LaunchedFrom request graph normalized command := by
  unfold launchCommand at made
  dsimp only at made
  iterate 2 (split at made; · cases made)
  rename_i graph found
  iterate 2 (split at made; · cases made)
  rename_i normalized valid
  exact ⟨graph, normalized, found, accepted_of_validate valid, launchedFrom_of_graphCommand made⟩

end Savor.Workflow


import Savor.Library.Rounds
import Savor.Workflow.CreateInstance

/-!
# What the creation of an instance inserts

The rows that `CreateWorkflowInstance` appends to the tables: an activation
for every unit activation of the command, an edge for every dependency and
every explicit edge, and the bindings and arguments of the command.
-/

namespace Savor.Workflow

open Library
open Program (ByteString text)

/-- The row of a new activation of the instance. -/
structure ActivationInserted (command : CreateInstanceCommand)
    (workflowInstanceId : Nat) (activation : CreateUnitActivationSpec)
    (row : WorkflowUnitActivationRow) : Prop where
  owner : row.workflowInstanceId = workflowInstanceId
  key : row.activationKey = activation.activationKey
  graphNode : row.graphNodeKey = effectiveNodeKey activation
  state : row.state = if StartsReady command activation then .ready else .waiting

/-- The activation ids by key, as the rows have them. -/
def activationIdsOf (rows : List WorkflowUnitActivationRow) : List (ByteString × Nat) :=
  rows.map fun row => (row.activationKey, row.workflowUnitActivationId)

/-- The row of a new activation edge of the instance. -/
structure EdgeInserted (workflowInstanceId : Nat) (rows : List WorkflowUnitActivationRow)
    (edge : CreateUnitActivationEdgeSpec) (row : WorkflowUnitActivationEdgeRow) : Prop where
  owner : row.workflowInstanceId = workflowInstanceId
  source : row.fromActivationId = ((activationIdsOf rows).lookup edge.fromActivationKey).getD 0
  target : row.toActivationId = ((activationIdsOf rows).lookup edge.toActivationKey).getD 0
  inputKey : row.inputKey = edge.inputKey

/-- The edges that the dependencies of the activations stand for. -/
def dependencyEdges (activations : List CreateUnitActivationSpec) :
    List CreateUnitActivationEdgeSpec :=
  activations.flatMap fun activation => activation.dependencies.map (dependencyEdge activation)

/-- The tables that the inserts of the graph leave alone. -/
structure OutsideGraph (before after : ExecutionDb) : Prop where
  instances : after.instances = before.instances
  bindings : after.inputBindings = before.inputBindings
  arguments : after.arguments = before.arguments

/-- The activations and the activation edges that have been inserted. -/
structure GraphInserted (command : CreateInstanceCommand)
    (workflowInstanceId : Nat) (db : ExecutionDb) (activations : List CreateUnitActivationSpec)
    (edges : List CreateUnitActivationEdgeSpec) (rows : List WorkflowUnitActivationRow)
    (edgeRows : List WorkflowUnitActivationEdgeRow) (creation : Creation) : Prop where
  kept : OutsideGraph db creation.db
  activationTable : creation.db.activations.rows = db.activations.rows ++ rows
  activationsOf : List.Forall₂ (ActivationInserted command workflowInstanceId) activations rows
  ids : creation.activationIds = activationIdsOf rows
  edgeTable : creation.db.activationEdges.rows = db.activationEdges.rows ++ edgeRows
  edgesOf : List.Forall₂ (EdgeInserted workflowInstanceId rows) edges edgeRows

section Inserts

variable {command : CreateInstanceCommand} {workflowInstanceId now : Nat}
  {db : ExecutionDb} {activations : List CreateUnitActivationSpec}
  {edges : List CreateUnitActivationEdgeSpec}
  {rows : List WorkflowUnitActivationRow}
  {edgeRows : List WorkflowUnitActivationEdgeRow}
  {creation next : Creation}

variable {activation : CreateUnitActivationSpec}
variable {others : List CreateUnitActivationSpec}

theorem GraphInserted.after_insertActivation
    (inserted : GraphInserted command workflowInstanceId db activations [] rows [] creation)
    (ended : insertActivation command workflowInstanceId now creation activation = .ok next) :
    ∃ row, GraphInserted command workflowInstanceId db
      (activations ++ [activation]) [] (rows ++ [row]) [] next := by
  unfold insertActivation at ended
  split at ended
  · cases ended
  rename_i parent _
  cases ended
  refine ⟨activationRow command workflowInstanceId parent now activation
    creation.db.activations.nextId, ⟨inserted.kept.instances,
    inserted.kept.bindings, inserted.kept.arguments⟩, ?_, ?_, ?_, inserted.edgeTable, .nil⟩
  · dsimp only
    rw [Table.rows_insert, inserted.activationTable, List.append_assoc]
  · exact List.rel_append inserted.activationsOf (.cons ⟨rfl, rfl, rfl, rfl⟩ .nil)
  change creation.activationIds ++ _ = _
  rw [inserted.ids, activationIdsOf, activationIdsOf, List.map_append]
  rfl

theorem graphInserted_of_activations (ended : activations.foldlM
      (insertActivation command workflowInstanceId now) ⟨db, [], [], [], []⟩ = .ok next) :
    ∃ rows, GraphInserted command workflowInstanceId db activations [] rows [] next := by
  refine foldlM_induction
    (fun done creation => ∃ rows, GraphInserted command workflowInstanceId
      db done [] rows [] creation) ?_ ?_ ended
  · rintro done activation _ creation next ⟨rows, inserted⟩ ended
    obtain ⟨row, grown⟩ := inserted.after_insertActivation ended
    exact ⟨_, grown⟩
  · exact ⟨[], ⟨rfl, rfl, rfl⟩, (List.append_nil _).symm, .nil, rfl, (List.append_nil _).symm, .nil⟩

theorem insertStepEdge_eq_ok {make : Nat → WorkflowEdgeRow}
    {named : MakesKey (·.workflowEdgeId) make} {before after : ExecutionDb}
    (ended : insertStepEdge make named before = .ok after) :
    after = { before with edges := before.edges.insert make named } := by
  unfold insertStepEdge at ended
  split at ended
  · cases ended
  · cases ended
    rfl

theorem insertActivationEdge_eq_ok {make : Nat → WorkflowUnitActivationEdgeRow}
    {named : MakesKey (·.workflowUnitActivationEdgeId) make} {before after : ExecutionDb}
    (ended : insertActivationEdge make named before = .ok after) : after = { before with
      activationEdges := before.activationEdges.insert make named } := by
  unfold insertActivationEdge at ended
  split at ended
  · cases ended
  · cases ended
    rfl

section Kept

variable (inserted : GraphInserted command workflowInstanceId db activations
  edges rows edgeRows creation)
include inserted

theorem GraphInserted.after_insertStep {step : CreateUnitStepSpec}
    (ended : insertStep command workflowInstanceId now activation creation step = .ok next) :
    GraphInserted command workflowInstanceId db activations edges rows edgeRows next := by
  unfold insertStep at ended
  dsimp only at ended
  iterate 2 (split at ended; · cases ended)
  cases ended
  exact ⟨⟨inserted.kept.instances, inserted.kept.bindings,
    inserted.kept.arguments⟩, inserted.activationTable, inserted.activationsOf,
    inserted.ids, inserted.edgeTable, inserted.edgesOf⟩

theorem GraphInserted.after_insertSteps
    (ended : others.foldlM (insertStepsOf command workflowInstanceId now) creation = .ok next) :
    GraphInserted command workflowInstanceId db activations edges rows edgeRows next := by
  refine foldlM_invariant ended inserted ?_
  intro activation creation next inserted ended
  refine foldlM_invariant ended inserted ?_
  intro step creation next inserted ended
  exact inserted.after_insertStep ended

theorem GraphInserted.after_insertEdgePair
    {missing : ByteString} {edge : CreateUnitActivationEdgeSpec}
    (ended : insertEdgePair workflowInstanceId now missing edge creation = .ok next) :
    ∃ row, GraphInserted command workflowInstanceId db activations
      (edges ++ [edge]) rows (edgeRows ++ [row]) next := by
  unfold insertEdgePair at ended
  split at ended
  · rename_i fromStep toStep _ _
    dsimp only at ended
    split at ended
    · cases ended
    rename_i connected activationEdge
    split at ended
    · cases ended
    rename_i after stepEdge
    cases ended
    rw [insertStepEdge_eq_ok stepEdge, insertActivationEdge_eq_ok activationEdge]
    refine ⟨⟨creation.db.activationEdges.nextId, workflowInstanceId,
      (creation.activationIds.lookup edge.fromActivationKey).getD 0,
      (creation.activationIds.lookup edge.toActivationKey).getD 0,
      edge.outputKey, edge.inputKey, edge.conditionKind,
      edge.conditionValue, now⟩, ⟨inserted.kept.instances,
      inserted.kept.bindings, inserted.kept.arguments⟩,
      inserted.activationTable, inserted.activationsOf, inserted.ids, ?_, ?_⟩
    · dsimp only
      rw [Table.rows_insert, inserted.edgeTable, List.append_assoc]
    refine List.rel_append inserted.edgesOf (.cons ⟨rfl, ?_, ?_, rfl⟩ .nil)
    · rw [← inserted.ids]
    · rw [← inserted.ids]
  · cases ended

theorem GraphInserted.after_insertEdgePairs {missing : ByteString}
    {others : List CreateUnitActivationEdgeSpec} (ended : others.foldlM (fun creation edge =>
      insertEdgePair workflowInstanceId now missing edge creation) creation = .ok next) :
    ∃ edgeRows, GraphInserted command workflowInstanceId db activations
      (edges ++ others) rows edgeRows next := by
  refine foldlM_induction
    (fun done creation => ∃ edgeRows, GraphInserted command
      workflowInstanceId db activations (edges ++ done) rows edgeRows
      creation) ?_ ⟨edgeRows, by simpa using inserted⟩ ended
  rintro done edge _ creation next ⟨edgeRows, inserted⟩ ended
  obtain ⟨row, grown⟩ := inserted.after_insertEdgePair ended
  refine ⟨edgeRows ++ [row], ?_⟩
  rw [← List.append_assoc]
  exact grown

theorem GraphInserted.after_insertDependenciesOf
    (ended : insertDependenciesOf workflowInstanceId now creation activation = .ok next) :
    ∃ edgeRows, GraphInserted command workflowInstanceId db activations
      (edges ++ activation.dependencies.map (dependencyEdge activation)) rows edgeRows next :=
  inserted.after_insertEdgePairs (List.foldlM_map.trans ended)

theorem GraphInserted.after_insertStepDependencies (ended : others.foldlM
      (insertStepDependenciesOf workflowInstanceId now) creation = .ok next) :
    GraphInserted command workflowInstanceId db activations edges rows edgeRows next := by
  refine foldlM_invariant ended inserted ?_
  intro activation creation next inserted ended
  refine foldlM_invariant ended inserted ?_
  intro step creation next inserted ended
  refine foldlM_invariant ended inserted ?_
  intro dependency creation next inserted ended
  unfold insertStepDependency at ended
  split at ended
  · cases ended
    exact inserted
  iterate 2 (split at ended; · cases ended)
  rename_i after stepEdge
  cases ended
  rw [insertStepEdge_eq_ok stepEdge]
  exact ⟨⟨inserted.kept.instances, inserted.kept.bindings,
    inserted.kept.arguments⟩, inserted.activationTable, inserted.activationsOf,
    inserted.ids, inserted.edgeTable, inserted.edgesOf⟩

end Kept

theorem GraphInserted.after_insertDependencies
    (inserted : GraphInserted command workflowInstanceId db activations [] rows edgeRows creation)
    (ended : others.foldlM (insertDependenciesOf workflowInstanceId now) creation = .ok next) :
    ∃ edgeRows, GraphInserted command workflowInstanceId db activations
      (dependencyEdges others) rows edgeRows next := by
  refine foldlM_induction
    (fun done creation => ∃ edgeRows, GraphInserted command
      workflowInstanceId db activations (dependencyEdges done) rows edgeRows
      creation) ?_ ⟨edgeRows, inserted⟩ ended
  rintro done activation _ creation next ⟨edgeRows, inserted⟩ ended
  obtain ⟨edgeRows, grown⟩ := inserted.after_insertDependenciesOf ended
  refine ⟨edgeRows, ?_⟩
  rw [dependencyEdges, List.flatMap_append, List.flatMap_singleton]
  exact grown

theorem keys_of_checkActivation {keys : List ByteString}
    (ended : activations.foldlM checkActivation [] = .ok keys) :
    keys = activations.map (·.activationKey) := by
  refine foldlM_induction (fun done keys => keys = done.map (·.activationKey)) ?_ rfl ended
  rintro done activation _ keys next rfl ended
  unfold checkActivation at ended
  iterate 3 (split at ended; · cases ended)
  cases ended
  rw [List.map_append]
  rfl

theorem insertGraph_eq_ok (ended : insertGraph command workflowInstanceId now db = .ok creation) :
    (∀ edge ∈ command.activationEdges, EdgeEndsKnown
        (command.unitActivations.map (·.activationKey)) edge) ∧
      ∃ rows edgeRows, GraphInserted command workflowInstanceId db command.unitActivations
        (dependencyEdges command.unitActivations ++ command.activationEdges)
        rows edgeRows creation := by
  unfold insertGraph at ended
  obtain ⟨keys, checked, ended⟩ := exists_of_bind_ok ended
  have sameKeys := keys_of_checkActivation checked
  split at ended
  · cases ended
  rename_i known
  obtain ⟨activated, activations, ended⟩ := exists_of_bind_ok ended
  obtain ⟨stepped, steps, ended⟩ := exists_of_bind_ok ended
  obtain ⟨depending, dependencies, ended⟩ := exists_of_bind_ok ended
  obtain ⟨connected, edges, stepDependencies⟩ := exists_of_bind_ok ended
  rw [sameKeys] at known
  refine ⟨not_not.mp known, ?_⟩
  obtain ⟨rows, inserted⟩ := graphInserted_of_activations activations
  obtain ⟨edgeRows, withDependencies⟩ :=
    (inserted.after_insertSteps steps).after_insertDependencies dependencies
  obtain ⟨allEdgeRows, withEdges⟩ := withDependencies.after_insertEdgePairs edges
  exact ⟨rows, allEdgeRows, withEdges.after_insertStepDependencies stepDependencies⟩

end Inserts

theorem exists_events_of_foldl_emit (workflowInstanceId : Nat)
    (eventKind message : ByteString) (now : Nat) (stepIds : List Nat) (db : ExecutionDb) :
    ∃ events, stepIds.foldl
        (fun db stepId => emitLifecycleEvent workflowInstanceId (some stepId)
          eventKind message now db) db =
      { db with workflowEvents := events } := by
  induction stepIds generalizing db with
  | nil => exact ⟨db.workflowEvents, rfl⟩
  | cons stepId stepIds ih =>
    obtain ⟨events, same⟩ := ih
      (emitLifecycleEvent workflowInstanceId (some stepId) eventKind message now db)
    exact ⟨events, by rw [List.foldl_cons, same]; rfl⟩

/-- What a new instance has in the tables. -/
structure Created (command : CreateInstanceCommand) (now : Nat)
    (db after : ExecutionDb) (rows : List WorkflowUnitActivationRow)
    (edgeRows : List WorkflowUnitActivationEdgeRow)
    (bindingRows : List InputBindingRow) (argumentRows : List ArgumentRow) : Prop where
  instances : after.instances = db.instances.insert (instanceRow command now) ⟨fun _ => rfl⟩
  known : ∀ edge ∈ command.activationEdges, EdgeEndsKnown
    (command.unitActivations.map (·.activationKey)) edge
  activationTable : after.activations.rows = db.activations.rows ++ rows
  activationsOf : List.Forall₂ (ActivationInserted command db.instances.nextId)
    command.unitActivations rows
  edgeTable : after.activationEdges.rows = db.activationEdges.rows ++ edgeRows
  edgesOf : List.Forall₂ (EdgeInserted db.instances.nextId rows)
    (dependencyEdges command.unitActivations ++ command.activationEdges) edgeRows
  bindingTable : after.inputBindings.rows = db.inputBindings.rows ++ bindingRows
  bindingsOf : List.Forall₂
    (fun binding row => ∃ id, row = inputBindingRow db.instances.nextId
      (command.workflowGraphRevisionId.getD 0) now binding id)
    command.inputBindings bindingRows
  argumentTable : after.arguments.rows = db.arguments.rows ++ argumentRows
  argumentsOf : List.Forall₂
    (fun argument row => ∃ id, row = argumentRow db.instances.nextId now argument id)
    command.arguments argumentRows

variable {command : CreateInstanceCommand}

theorem created_of_insertInstance {now id : Nat} {db after : ExecutionDb}
    (ended : insertInstance command now db = .ok (id, after)) : id = db.instances.nextId ∧
      ∃ rows edgeRows bindingRows argumentRows, Created command now db after
        rows edgeRows bindingRows argumentRows := by
  unfold insertInstance at ended
  split at ended
  · cases ended
  dsimp only at ended
  split at ended
  · cases ended
  rename_i creation graph
  obtain ⟨known, rows, edgeRows, inserted⟩ := insertGraph_eq_ok graph
  split at ended
  · cases ended
  rename_i created finished
  cases ended
  refine ⟨rfl, rows, edgeRows, ?_⟩
  unfold finishCreation insertArguments at finished
  split at finished
  · cases finished
  rename_i argued arguments
  split at arguments
  · cases arguments
    cases finished
    obtain ⟨events, same⟩ := exists_events_of_foldl_emit
      db.instances.nextId (text "Execution.WorkflowStepReady.v1")
      (text "create") now creation.readySteps
      (emitLifecycleEvent db.instances.nextId none
        (text "Execution.WorkflowInstanceCreated.v1") (text "create") now
        { insertInputBindings db.instances.nextId
            (command.workflowGraphRevisionId.getD 0) now
            command.inputBindings creation.db with
          arguments := command.arguments.foldl
            (fun table argument => table.insert
              (argumentRow db.instances.nextId now argument)
              ⟨fun _ => rfl⟩)
            (insertInputBindings db.instances.nextId (command.workflowGraphRevisionId.getD 0) now
              command.inputBindings creation.db).arguments })
    obtain ⟨bindingRows, bindingTable, bindingsOf⟩ :=
      Table.rows_foldl_insert
        (inputBindingRow db.instances.nextId (command.workflowGraphRevisionId.getD 0) now)
        (fun _ => ⟨fun _ => rfl⟩) command.inputBindings
        creation.db.inputBindings
    obtain ⟨argumentRows, argumentTable, argumentsOf⟩ :=
      Table.rows_foldl_insert (argumentRow db.instances.nextId now)
        (fun _ => ⟨fun _ => rfl⟩) command.arguments creation.db.arguments
    rw [inserted.kept.bindings] at bindingTable
    rw [inserted.kept.arguments] at argumentTable
    refine ⟨bindingRows, argumentRows, ?_⟩
    rw [same]
    exact {
      instances := inserted.kept.instances
      known
      activationTable := inserted.activationTable
      activationsOf := inserted.activationsOf
      edgeTable := inserted.edgeTable
      edgesOf := inserted.edgesOf
      bindingTable := by
        dsimp only [emitLifecycleEvent, insertInputBindings]
        rw [inserted.kept.bindings]
        exact bindingTable
      bindingsOf
      argumentTable := by
        dsimp only [emitLifecycleEvent, insertInputBindings]
        rw [inserted.kept.arguments]
        exact argumentTable
      argumentsOf }
  · cases arguments

/-- A launch key that is taken answers the instance that has it, when the
revision and the scope are the same; otherwise an instance is created. -/
theorem createWorkflowInstance_cases {clock id : Nat} {db after : ExecutionDb}
    (ended : createWorkflowInstance command clock db = .ok (id, after)) :
    checkCreateCommand command = .ok () ∧ ((∃ row, db.launchedAs command.launchKey = some row ∧
      LaunchMatches command row ∧ id = row.workflowInstanceId ∧ after = db) ∨
    (db.launchedAs command.launchKey = none ∧ id = db.instances.nextId ∧
      ∃ now rows edgeRows bindingRows argumentRows, Created command now db
        after rows edgeRows bindingRows argumentRows)) := by
  unfold createWorkflowInstance at ended
  split at ended
  · cases ended
  rename_i checked
  refine ⟨checked, ?_⟩
  dsimp only at ended
  split at ended
  · rename_i row launched
    split at ended
    · rename_i same
      cases ended
      exact .inl ⟨row, launched, same, rfl, rfl⟩
    · cases ended
  rename_i launched
  obtain ⟨here, created⟩ := created_of_insertInstance ended
  exact .inr ⟨launched, here, _, created⟩

end Savor.Workflow

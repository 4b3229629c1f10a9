import Savor.Workflow.RunnableLaunch

/-!
# Launches

When a launch leaves a runnable instance behind, and when a launch key stands
for one launch only.
-/

namespace Savor.Workflow

open Library
open Program (ByteString text)
open DefaultUnits

/-- The binding that a row stores. -/
def InputBindingRow.spec (row : InputBindingRow) : CreateInputBindingSpec where
  nodeKey := row.nodeKey
  inputKey := row.inputKey
  dataKind := row.dataKind
  refKind := row.refKind
  refId := row.refId
  sourceKind := row.sourceKind.getD []

/-- The argument that a row stores. -/
def ArgumentRow.spec (row : ArgumentRow) : CreateArgumentSpec where
  nodeKey := row.nodeKey
  argumentKey := row.argumentKey
  valueType := row.valueType
  integerValue := row.integerValue
  textValue := row.textValue
  sourceKind := row.sourceKind.getD []

/-- The bindings of a launch. -/
def WorkflowGraphLaunchRequest.bindings
    (request : WorkflowGraphLaunchRequest) : List CreateInputBindingSpec :=
  request.inputBindings.map launchBinding

/-- The arguments of a launch: the effective values of its graph. -/
def WorkflowGraphLaunchRequest.values (request : WorkflowGraphLaunchRequest)
    (authoring : AuthoringDb) : List CreateArgumentSpec :=
  match authoring.revision request.workflowGraphRevisionId with
  | none => []
  | some graph => (effectiveArguments graph request.arguments).map launchArgument

/-- The instance is the one of the launch: revision, scope, bindings and
arguments are all equal. -/
structure StoredAs (authoring : AuthoringDb)
    (request : WorkflowGraphLaunchRequest) (workflowInstanceId : Nat)
    (db : ExecutionDb) : Prop where
  launch : (⟨workflowInstanceId, request.launchKey,
    some request.workflowGraphRevisionId, text "manual", none⟩ : LaunchIdentity) ∈ db.identities
  bindings : ((db.inputBindings.select fun row =>
    row.workflowInstanceId = workflowInstanceId).map (·.spec)).Perm request.bindings
  arguments : ((db.arguments.select fun row =>
    row.workflowInstanceId = workflowInstanceId).map (·.spec)).Perm (request.values authoring)

/-- The launch is accepted by the checks of `Start` and
`CreateWorkflowInstance`. -/
def Admissible (authoring : AuthoringDb) (order : IterationOrder)
    (request : WorkflowGraphLaunchRequest) (now : Nat) : Prop :=
  ∃ command, launchCommand authoring order request now = .ok command ∧
    checkCreateCommand command = .ok ()

/-- Two launches of one revision with different bindings or arguments. -/
def Confusable (authoring : AuthoringDb) (first second : WorkflowGraphLaunchRequest) : Prop :=
  first.workflowGraphRevisionId = second.workflowGraphRevisionId ∧
    ¬ (first.bindings.Perm second.bindings ∧
      (first.values authoring).Perm (second.values authoring))

/-- A launch under the key of an instance returns this instance only if it is
the launch of the instance, and changes nothing. -/
def RelaunchHonest (authoring : AuthoringDb) (order : IterationOrder)
    (request : WorkflowGraphLaunchRequest) (now workflowInstanceId : Nat)
    (db : ExecutionDb) : Prop :=
  ∀ id after, startWorkflow authoring order request now db = .ok (id, after) →
    id = workflowInstanceId ∧ after = db ∧ StoredAs authoring request workflowInstanceId db

theorem spec_inputBindingRow (workflowInstanceId revisionId now : Nat)
    (binding : CreateInputBindingSpec) (id : Nat) :
    (inputBindingRow workflowInstanceId revisionId now binding id).spec = binding := by
  unfold inputBindingRow InputBindingRow.spec
  dsimp only
  split
  · rename_i empty
    rw [Option.getD_none, ← empty]
  · rw [Option.getD_some]

theorem spec_argumentRow (workflowInstanceId now : Nat) (argument : CreateArgumentSpec) (id : Nat) :
    (argumentRow workflowInstanceId now argument id).spec = argument := by
  unfold argumentRow ArgumentRow.spec
  dsimp only
  split
  · rename_i empty
    rw [Option.getD_none, ← empty]
  · rw [Option.getD_some]

section Rows

variable {graph : WorkflowGraphSnapshot}
  {request : WorkflowGraphLaunchRequest}
  {normalized : List WorkflowLaunchArgumentValue}
  {command : CreateInstanceCommand} {now : Nat} {db made : ExecutionDb}
  {rows : List WorkflowUnitActivationRow}
  {edgeRows : List WorkflowUnitActivationEdgeRow}
  {bindingRows : List InputBindingRow} {argumentRows : List ArgumentRow}
  {authoring : AuthoringDb}

/-- The selected rows of a grown table are the added ones. -/
theorem filter_eq_added {Row : Type} {owner : Row → Nat} {id : Nat}
    {rows added : List Row} (older : ∀ row ∈ rows, owner row < id)
    (newer : ∀ row ∈ added, owner row = id) :
    ((rows ++ added).filter fun row => owner row = id) = added := by
  have none : (rows.filter fun row => owner row = id) = [] := by
    rw [List.filter_eq_nil_iff]
    intro row member
    have below := older row member
    simp only [decide_eq_true_eq]
    omega
  have all : (added.filter fun row => owner row = id) = added := by
    rw [List.filter_eq_self]
    intro row member
    simpa using newer row member
  rw [List.filter_append, none, all, List.nil_append]

theorem Launch.storedAs (launch : Launch graph request normalized command now db made rows
      edgeRows bindingRows argumentRows)
    (found : authoring.revision request.workflowGraphRevisionId = some graph) :
    StoredAs authoring request db.instances.nextId made := by
  refine ⟨?_, ?_, ?_⟩
  · rw [launch.created.identities]
    refine List.mem_append_right _ (List.mem_singleton.mpr ?_)
    unfold WorkflowInstanceRow.identity instanceRow
    dsimp only
    rw [launch.launched.launchKey, launch.launched.revision,
      launch.launched.scopeKind, launch.launched.scopeId, authoring.named _ graph found]
  · have selected : (made.inputBindings.select fun row =>
        row.workflowInstanceId = db.instances.nextId) = bindingRows := by
      unfold Table.select
      rw [launch.created.bindingTable]
      refine filter_eq_added launch.grounded.bindings ?_
      intro row member
      obtain ⟨binding, -, id, rfl⟩ := exists_left_of_forall₂ launch.created.bindingsOf row member
      rfl
    have specs : command.inputBindings.map id = bindingRows.map (·.spec) :=
      map_eq_of_forall₂ id (·.spec) (fun binding row => by
        rintro ⟨rowId, rfl⟩
        exact (spec_inputBindingRow _ _ _ binding rowId).symm)
        launch.created.bindingsOf
    rw [selected, ← specs, List.map_id, launch.launched.bindings]
    exact List.Perm.refl _
  · have selected : (made.arguments.select fun row =>
        row.workflowInstanceId = db.instances.nextId) = argumentRows := by
      unfold Table.select
      rw [launch.created.argumentTable]
      refine filter_eq_added launch.grounded.arguments ?_
      intro row member
      obtain ⟨argument, -, id, rfl⟩ := exists_left_of_forall₂ launch.created.argumentsOf row member
      rfl
    have specs : command.arguments.map id = argumentRows.map (·.spec) :=
      map_eq_of_forall₂ id (·.spec) (fun argument row => by
        rintro ⟨rowId, rfl⟩
        exact (spec_argumentRow _ _ argument rowId).symm)
        launch.created.argumentsOf
    have values : request.values authoring =
        (effectiveArguments graph request.arguments).map launchArgument := by
      unfold WorkflowGraphLaunchRequest.values
      rw [found]
    rw [selected, ← specs, List.map_id, launch.launched.arguments, values]
    exact launch.accepted.normalized.map _

end Rows

theorem launchedAs_of_identities {db : ExecutionDb}
    {before after : List LaunchIdentity} {identity : LaunchIdentity} {key : ByteString}
    (identities : db.identities = before ++ identity :: after)
    (fresh : ∀ earlier ∈ before, earlier.launchKey ≠ some key)
    (keyed : identity.launchKey = some key) : ∃ row, db.launchedAs (some key) = some row ∧
      row.identity = identity := by
  have found : (db.identities.find? fun identity =>
      identity.launchKey = some key) = some identity := by
    rw [identities, List.find?_append]
    have none : (before.find? fun identity =>
        identity.launchKey = some key) = none := by
      rw [List.find?_eq_none]
      intro earlier member
      simpa using fresh earlier member
    rw [none, Option.none_or, List.find?_cons_of_pos (by simpa using keyed)]
  unfold ExecutionDb.identities at found
  rw [List.find?_map] at found
  obtain ⟨row, isRow, same⟩ := Option.map_eq_some_iff.mp found
  exact ⟨row, isRow, same⟩

theorem fresh_of_launchedAs {db : ExecutionDb} {key : ByteString}
    (fresh : db.launchedAs (some key) = none) :
    ∀ earlier ∈ db.identities, earlier.launchKey ≠ some key := by
  intro earlier member
  obtain ⟨row, rowMember, rfl⟩ := List.mem_map.mp member
  have unlike := List.find?_eq_none.mp fresh row rowMember
  change row.launchKey ≠ some key
  simpa using unlike

theorem nodup_of_checkCreateCommand {command : CreateInstanceCommand}
    (checked : checkCreateCommand command = .ok ()) : (command.arguments.map fun argument =>
      memberKey argument.nodeKey argument.argumentKey).Nodup := by
  unfold checkCreateCommand at checked
  iterate 6 (split at checked; · cases checked)
  rename_i keys arguments
  have seen := foldlM_induction
    (fun done keys => keys = (done.map fun argument =>
      memberKey argument.nodeKey argument.argumentKey) ∧ keys.Nodup)
    ?_ ⟨rfl, List.nodup_nil⟩ arguments
  · rw [← seen.1]
    exact seen.2
  rintro done argument _ keys next ⟨rfl, distinct⟩ ended
  unfold checkArgument at ended
  iterate 5 (split at ended; · cases ended)
  rename_i fresh
  cases ended
  refine ⟨by rw [List.map_append]; rfl, ?_⟩
  exact List.concat_eq_append ▸ distinct.concat fresh

section Launches

variable {authoring : AuthoringDb} {order : IterationOrder}
  {request : WorkflowGraphLaunchRequest} {now : Nat}
  {db made : ExecutionDb} {workflowInstanceId : Nat}

theorem exists_launch (reachable : Reachable db)
    (started : startWorkflow authoring order request now db = .ok (workflowInstanceId, made))
    (fresh : db.launchedAs request.launchKey = none) : workflowInstanceId = db.instances.nextId ∧
      ∃ graph normalized command time rows edgeRows bindingRows argumentRows,
        authoring.revision request.workflowGraphRevisionId = some graph ∧
        Launch graph request normalized command time db made rows edgeRows
          bindingRows argumentRows := by
  unfold startWorkflow at started
  split at started
  · cases started
  rename_i command commanded
  obtain ⟨graph, normalized, found, accepted, launched⟩ := exists_of_launchCommand commanded
  obtain ⟨checked, ⟨row, taken, -⟩ | ⟨-, here, time, rows, edgeRows,
    bindingRows, argumentRows, created⟩⟩ := createWorkflowInstance_cases started
  · rw [launched.launchKey, fresh] at taken
    cases taken
  exact ⟨here, graph, normalized, command, time, rows, edgeRows,
    bindingRows, argumentRows, found, grounded_of_reachable reachable,
    accepted, launched, created, nodup_of_checkCreateCommand checked⟩

theorem LaunchKept.storedAs {later : ExecutionDb} (kept : LaunchKept workflowInstanceId made later)
    (stored : StoredAs authoring request workflowInstanceId made) :
    StoredAs authoring request workflowInstanceId later where
  launch := kept.identities.subset stored.launch
  bindings := by
    rw [kept.bindings]
    exact stored.bindings
  arguments := by
    rw [kept.arguments]
    exact stored.arguments

end Launches

/-- The property of two launches under one key, the first of which has
inserted an instance. -/
structure LaunchSound (authoring : AuthoringDb) (order : IterationOrder)
    (first second : WorkflowGraphLaunchRequest)
    (now workflowInstanceId : Nat) (made later : ExecutionDb) : Prop where
  runnable : ∀ graph,
    authoring.revision first.workflowGraphRevisionId = some graph →
      RunnableInstance graph workflowInstanceId made
  honest : first.launchKey ≠ none → second.launchKey = first.launchKey →
    RelaunchHonest authoring order second now workflowInstanceId later

/-- The graph of a launch has no cycle. -/
def GraphAcyclic (authoring : AuthoringDb) (request : WorkflowGraphLaunchRequest) : Prop :=
  ∀ graph, authoring.revision request.workflowGraphRevisionId = some graph →
    Acyclic (GraphPrecedes graph)

section Relaunch

variable {authoring : AuthoringDb} {firstOrder secondOrder : IterationOrder}
  {first second : WorkflowGraphLaunchRequest} {firstNow secondNow : Nat}
  {db made later : ExecutionDb} {workflowInstanceId : Nat}
  {history : List (Transition ExecutionDb WorkflowInput (Option ByteString))}

section

variable
    (reachable : Reachable db)
    (started : startWorkflow authoring firstOrder first firstNow db =
      .ok (workflowInstanceId, made))
include reachable started

theorem launchedAs_later {key : ByteString} (keyed : first.launchKey = some key)
    (fresh : db.launchedAs first.launchKey = none)
    (run : Run workflowStep (fun _ _ => True) made history later) :
    (∃ row, later.launchedAs (some key) = some row ∧ row.identity = ⟨workflowInstanceId, some key,
        some first.workflowGraphRevisionId, text "manual", none⟩) ∧
      StoredAs authoring first workflowInstanceId later := by
  obtain ⟨rfl, graph, normalized, command, time, rows, edgeRows, bindingRows,
    argumentRows, found, launch⟩ := exists_launch reachable started fresh
  have next := launch.created.nextId
  have kept : LaunchKept db.instances.nextId made later := launchKept_of_run (by omega) run
  refine ⟨?_, kept.storedAs (launch.storedAs found)⟩
  obtain ⟨added, identities⟩ := kept.identities
  rw [launch.created.identities, List.append_assoc] at identities
  rw [keyed] at fresh
  have identity : (instanceRow command time db.instances.nextId).identity =
      ⟨db.instances.nextId, some key, some first.workflowGraphRevisionId, text "manual", none⟩ := by
    unfold WorkflowInstanceRow.identity instanceRow
    dsimp only
    rw [launch.launched.launchKey, launch.launched.revision,
      launch.launched.scopeKind, launch.launched.scopeId, authoring.named _ graph found, keyed]
  rw [identity] at identities
  exact launchedAs_of_identities identities.symm (fresh_of_launchedAs fresh) rfl

/-- A second launch under the key is honest exactly when it is not an
accepted launch of the same revision with different bindings or
arguments. -/
theorem relaunchHonest_iff (fresh : db.launchedAs first.launchKey = none)
    (run : Run workflowStep (fun _ _ => True) made history later)
    (keyed : first.launchKey ≠ none) (sameKey : second.launchKey = first.launchKey) :
    RelaunchHonest authoring secondOrder second secondNow workflowInstanceId later ↔
      ¬ (Admissible authoring secondOrder second secondNow ∧
        Confusable authoring first second) := by
  obtain ⟨key, isKey⟩ := Option.ne_none_iff_exists'.mp keyed
  obtain ⟨⟨row, taken, identity⟩, stored⟩ := launchedAs_later reachable started isKey fresh run
  unfold WorkflowInstanceRow.identity at identity
  simp only [LaunchIdentity.mk.injEq] at identity
  obtain ⟨sameId, -, sameRevision, sameKind, sameScope⟩ := identity
  constructor
  · rintro honest ⟨⟨command, commanded, checked⟩, revision, different⟩
    obtain ⟨graph, normalized, found, accepted, launched⟩ := exists_of_launchCommand commanded
    have answered : startWorkflow authoring secondOrder second secondNow
        later = .ok (workflowInstanceId, later) := by
      unfold startWorkflow createWorkflowInstance
      rw [commanded]
      dsimp only
      rw [checked, launched.launchKey, sameKey, isKey, taken]
      dsimp only
      rw [if_pos, sameId]
      refine ⟨?_, ?_, ?_⟩
      · rw [sameRevision, launched.revision, authoring.named _ graph found, revision]
      · rw [sameKind, launched.scopeKind]
      · rw [sameScope, launched.scopeId]
    obtain ⟨-, -, again⟩ := honest _ _ answered
    exact different ⟨stored.bindings.symm.trans again.bindings,
      stored.arguments.symm.trans again.arguments⟩
  · intro clear id after answered
    unfold startWorkflow at answered
    split at answered
    · cases answered
    rename_i command commanded
    obtain ⟨graph, normalized, found, accepted, launched⟩ := exists_of_launchCommand commanded
    obtain ⟨checked, ⟨other, otherTaken, matching, rfl, rfl⟩ | ⟨none, -⟩⟩ :=
      createWorkflowInstance_cases answered
    · rw [launched.launchKey, sameKey, isKey, taken, Option.some.injEq]
        at otherTaken
      rw [← otherTaken] at matching ⊢
      have revision : first.workflowGraphRevisionId =
          second.workflowGraphRevisionId := by
        have same := matching.1
        rw [sameRevision, launched.revision,
          authoring.named _ graph found, Option.some.injEq] at same
        exact same
      have equal : first.bindings.Perm second.bindings ∧
          (first.values authoring).Perm (second.values authoring) := by
        by_contra different
        exact clear ⟨⟨command, commanded, checked⟩, revision, different⟩
      refine ⟨sameId, rfl, ?_, stored.bindings.trans equal.1, stored.arguments.trans equal.2⟩
      rw [sameKey, ← revision]
      exact stored.launch
    · rw [launched.launchKey, sameKey, isKey, taken] at none
      cases none

end

/-- A launch that inserts an instance leaves a runnable one exactly when its
graph has no cycle, and a later launch under its key is answered with it only
for an equal launch exactly when the later one is not an accepted launch of
the same revision with different bindings or arguments. -/
theorem launchSound_iff (reachable : Reachable db)
    (started : startWorkflow authoring firstOrder first firstNow db =
      .ok (workflowInstanceId, made)) (fresh : db.launchedAs first.launchKey = none)
    (run : Run workflowStep (fun _ _ => True) made history later) :
    LaunchSound authoring secondOrder first second secondNow workflowInstanceId made later ↔
      GraphAcyclic authoring first ∧ (first.launchKey ≠ none → second.launchKey = first.launchKey →
          ¬ (Admissible authoring secondOrder second secondNow ∧
            Confusable authoring first second)) := by
  have honest : (first.launchKey ≠ none → second.launchKey = first.launchKey →
        RelaunchHonest authoring secondOrder second secondNow workflowInstanceId later) ↔
      (first.launchKey ≠ none → second.launchKey = first.launchKey →
        ¬ (Admissible authoring secondOrder second secondNow ∧
          Confusable authoring first second)) :=
    forall_congr' fun keyed => forall_congr' fun sameKey =>
      relaunchHonest_iff reachable started fresh run keyed sameKey
  obtain ⟨rfl, graph, normalized, command, time, rows, edgeRows, bindingRows,
    argumentRows, found, launch⟩ := exists_launch reachable started fresh
  rw [← honest]
  constructor
  · rintro ⟨runnable, honest⟩
    refine ⟨?_, honest⟩
    intro other otherFound
    rw [found, Option.some.injEq] at otherFound
    rw [← otherFound]
    exact launch.runnable_iff.mp (runnable graph found)
  rintro ⟨acyclic, honest⟩
  refine ⟨?_, honest⟩
  intro other otherFound
  rw [found, Option.some.injEq] at otherFound
  rw [← otherFound]
  exact launch.runnable_iff.mpr (acyclic graph found)

end Relaunch

namespace Sample

/-- An argument that a launch gives. -/
def argument (definition : WorkflowLaunchArgumentDefinition) :
    WorkflowGraphNodeArgumentSnapshot where
  argumentKey := definition.key
  valueType := valueTypeName definition.valueType
  required := definition.required
  defaultValue := definition.defaultValue
  minimumInteger := definition.minimumInteger
  maximumInteger := definition.maximumInteger
  choices := definition.choices
  isConstant := false
  constantValue := none

/-- A node of a unit without argument constraints. -/
def node (nodeKey : ByteString) (unit : WorkflowUnitDefinition) : WorkflowGraphNodeSnapshot where
  nodeKey
  unitKind := unit.unitKind
  displayName := []
  authoredRefKind := none
  authoredRefId := none
  inputs := unit.requiredInputs
  possibleOutputs := unit.possibleOutputs
  arguments := unit.launchArguments.map argument
  argumentConstraints := []

/-- The edge on which an output is handed on to the input with the same key. -/
def dataEdge (fromNodeKey toNodeKey key : String) : WorkflowGraphEdgeSnapshot where
  fromNodeKey := text fromNodeKey
  outputKey := text key
  toNodeKey := text toNodeKey
  inputKey := text key
  edgeKind := text "DATA"
  guardKind := none
  guardValue := none

/-- Two recordings that wait for the branch of each other. -/
def recordingLoop : WorkflowGraphSnapshot where
  workflowGraphRevisionId := 1
  nodes := [node (text "first") cutscene, node (text "second") cutscene]
  edges := [dataEdge "first" "second" "tas_movie_tree", dataEdge "second" "first" "tas_movie_tree"]

/-- The root of a movie is established and then validated. -/
def rootValidation : WorkflowGraphSnapshot where
  workflowGraphRevisionId := 2
  nodes := [node (text "root") establishRootCursor, node (text "check") validateRoot]
  edges := [dataEdge "root" "check" "root_establishment"]

/-- The two graphs are published. -/
def authoring : AuthoringDb where
  revision := fun id =>
    if id = 1 then some recordingLoop
    else if id = 2 then some rootValidation
    else none
  named := by
    intro id graph found
    rw [Option.mem_def] at found
    split at found
    · rename_i one
      cases found
      exact one.symm
    split at found
    · rename_i two
      cases found
      exact two.symm
    · cases found

/-- The nodes are visited in their order. -/
def order : IterationOrder := ⟨id, fun _ => .refl _⟩

/-- The launch of the recordings. -/
def loopLaunch : WorkflowGraphLaunchRequest where
  workflowGraphRevisionId := 1
  createdBy := text "user"
  launchKey := none
  inputBindings := []
  arguments := []

/-- The launch of the validation for the root in an artifact. -/
def rootLaunch (dtmArtifactId : Nat) : WorkflowGraphLaunchRequest where
  workflowGraphRevisionId := 2
  createdBy := text "user"
  launchKey := some (text "launch")
  inputBindings := [⟨text "root", text "root_dtm", text "state_artifact.dtm_artifact_id",
    text "state_artifact", dtmArtifactId, []⟩]
  arguments := [⟨text "check", text "rtc", text "integer", some 5, none, text "launcher"⟩]

/-- The units of the two graphs. -/
def units : LaunchRegistry :=
  WorkflowUnitRegistry.empty.registerAll [cutscene, establishRootCursor, validateRoot]

/-- The instance that a launch with normalized arguments inserts first. -/
def inserted (registry : LaunchRegistry)
    (request : WorkflowGraphLaunchRequest) (graph : WorkflowGraphSnapshot) :
    Except ByteString (Nat × ExecutionDb) :=
  match graphCommand registry request 1 graph request.arguments with
  | .error message => .error message
  | .ok command => createWorkflowInstance command 1 ExecutionDb.empty

/-- A launch that is answered has an instance. -/
theorem exists_of_isOk {authoring : AuthoringDb} {order : IterationOrder}
    {registry : LaunchRegistry} {request : WorkflowGraphLaunchRequest}
    {graph : WorkflowGraphSnapshot} (commanded : launchCommand authoring order request 1 =
      graphCommand registry request 1 graph request.arguments)
    (isOk : (inserted registry request graph).isOk = true) :
    ∃ id made, startWorkflow authoring order request 1 ExecutionDb.empty = .ok (id, made) := by
  unfold startWorkflow
  rw [commanded]
  unfold inserted at isOk
  cases answered : graphCommand registry request 1 graph request.arguments with
  | error message =>
    rw [answered] at isOk
    cases isOk
  | ok command =>
    rw [answered] at isOk
    dsimp only at isOk ⊢
    cases created : createWorkflowInstance command 1 ExecutionDb.empty with
    | error message =>
      rw [created] at isOk
      cases isOk
    | ok answer => exact ⟨answer.1, answer.2, rfl⟩

theorem evaluated : (∀ unit ∈ [cutscene, establishRootCursor, validateRoot],
      units.find unit.unitKind = some unit) ∧
    (validate units order recordingLoop [] [] = ([], []) ∧
      ∀ dtmArtifactId ∈ [1, 2], validate units order rootValidation
        (rootLaunch dtmArtifactId).inputBindings (rootLaunch dtmArtifactId).arguments =
          ([], (rootLaunch dtmArtifactId).arguments)) ∧
    ((inserted units loopLaunch recordingLoop).isOk = true ∧
      (inserted units (rootLaunch 1) rootValidation).isOk = true) ∧
    (graphCommand units (rootLaunch 2) 1 rootValidation (rootLaunch 2).arguments >>=
      checkCreateCommand) = .ok () := by
  decide +kernel

theorem find_default_unit {unit : WorkflowUnitDefinition}
    (member : unit ∈ [cutscene, establishRootCursor, validateRoot]) :
    buildDefaultWorkflowUnitRegistry.find unit.unitKind = units.find unit.unitKind := by
  rw [evaluated.1 unit member]
  have registered : [cutscene, establishRootCursor, validateRoot] ⊆ all := by simp [all]
  obtain ⟨valid, launch⟩ :=
    units.valid unit (WorkflowUnitRegistry.mem_of_find (evaluated.1 unit member))
  exact find_default (registered member) valid launch

theorem launchCommand_loop : launchCommand authoring order loopLaunch 1 =
      graphCommand units loopLaunch 1 recordingLoop [] := by
  refine launchCommand_eq (by decide) rfl (List.cons_ne_nil _ _) ?_ evaluated.2.1.1
  intro node member
  rcases List.mem_pair.mp member with rfl | rfl <;> exact find_default_unit List.mem_cons_self

theorem launchCommand_root {dtmArtifactId : Nat} (known : dtmArtifactId ∈ [1, 2]) :
    launchCommand authoring order (rootLaunch dtmArtifactId) 1 = graphCommand units
      (rootLaunch dtmArtifactId) 1 rootValidation (rootLaunch dtmArtifactId).arguments := by
  refine launchCommand_eq (by decide : (2 : Nat) ≠ 0) rfl (List.cons_ne_nil _ _) ?_
    (evaluated.2.1.2 _ known)
  intro node member
  rcases List.mem_pair.mp member with rfl | rfl
  · exact find_default_unit (by simp)
  · exact find_default_unit (by simp)

theorem graphAcyclic_root (dtmArtifactId : Nat) :
    GraphAcyclic authoring (rootLaunch dtmArtifactId) := by
  intro graph found key loop
  cases found
  obtain ⟨_, ⟨first, firstMember, leaves, -⟩, -⟩ := Relation.TransGen.head'_iff.mp loop
  obtain ⟨_, -, last, lastMember, -, arrives⟩ := Relation.TransGen.tail'_iff.mp loop
  rw [List.mem_singleton.mp firstMember] at leaves
  rw [List.mem_singleton.mp lastMember] at arrives
  exact absurd (leaves.trans arrives.symm) (by decide)

theorem not_graphAcyclic_loop : ¬ GraphAcyclic authoring loopLaunch := by
  intro acyclic
  refine acyclic recordingLoop rfl (text "first") ?_
  have forth : GraphPrecedes recordingLoop (text "first") (text "second") :=
    ⟨_, List.mem_cons_self, rfl, rfl⟩
  have back : GraphPrecedes recordingLoop (text "second") (text "first") :=
    ⟨_, List.mem_cons_of_mem _ List.mem_cons_self, rfl, rfl⟩
  exact Relation.TransGen.head forth (Relation.TransGen.single back)

theorem started_loop : ∃ id made, startWorkflow authoring order loopLaunch 1 ExecutionDb.empty =
      .ok (id, made) :=
  exists_of_isOk launchCommand_loop evaluated.2.2.1.1

theorem started_root : ∃ id made,
    startWorkflow authoring order (rootLaunch 1) 1 ExecutionDb.empty = .ok (id, made) :=
  exists_of_isOk (launchCommand_root (by decide)) evaluated.2.2.1.2

theorem admissible_root : Admissible authoring order (rootLaunch 2) 1 := by
  unfold Admissible
  rw [launchCommand_root (by decide)]
  exact exists_of_bind_ok evaluated.2.2.2

/-- The two launches establish different roots. -/
theorem confusable_roots : Confusable authoring (rootLaunch 1) (rootLaunch 2) := by
  refine ⟨rfl, ?_⟩
  rintro ⟨bindings, -⟩
  have same := List.perm_singleton.mp bindings
  cases same

end Sample

/-- The launch of a graph whose recordings wait for each other is accepted,
and its instance cannot run; the launch for another root under the key of an
earlier one is answered with the earlier one. -/
theorem exists_launch_not_sound : (∃ id made,
      startWorkflow Sample.authoring Sample.order Sample.loopLaunch 1
        ExecutionDb.empty = .ok (id, made) ∧
      ¬ LaunchSound Sample.authoring Sample.order Sample.loopLaunch
        Sample.loopLaunch 1 id made made) ∧ ∃ id made,
      startWorkflow Sample.authoring Sample.order (Sample.rootLaunch 1) 1
        ExecutionDb.empty = .ok (id, made) ∧
      ¬ LaunchSound Sample.authoring Sample.order (Sample.rootLaunch 1)
        (Sample.rootLaunch 2) 1 id made made := by
  have empty : Reachable ExecutionDb.empty := ⟨[], .nil⟩
  constructor
  · obtain ⟨id, made, started⟩ := Sample.started_loop
    refine ⟨id, made, started, fun sound => ?_⟩
    obtain ⟨rfl, graph, normalized, command, time, rows, edgeRows,
      bindingRows, argumentRows, found, launch⟩ := exists_launch empty started rfl
    refine Sample.not_graphAcyclic_loop fun other otherFound => ?_
    rw [found, Option.some.injEq] at otherFound
    rw [← otherFound]
    exact launch.runnable_iff.mp (sound.runnable graph found)
  · obtain ⟨id, made, started⟩ := Sample.started_root
    refine ⟨id, made, started, fun sound => ?_⟩
    have keyed : (Sample.rootLaunch 1).launchKey ≠ none := Option.some_ne_none _
    have sameKey : (Sample.rootLaunch 2).launchKey = (Sample.rootLaunch 1).launchKey := rfl
    have honest : RelaunchHonest Sample.authoring Sample.order
        (Sample.rootLaunch 2) 1 id made := sound.honest keyed sameKey
    exact (relaunchHonest_iff empty started rfl .nil keyed sameKey).mp honest
      ⟨Sample.admissible_root, Sample.confusable_roots⟩

/-- The validation of a root that is launched twice. -/
theorem launchSound_sample : ∃ id made,
    startWorkflow Sample.authoring Sample.order (Sample.rootLaunch 1) 1
      ExecutionDb.empty = .ok (id, made) ∧
    LaunchSound Sample.authoring Sample.order (Sample.rootLaunch 1)
      (Sample.rootLaunch 1) 1 id made made := by
  obtain ⟨id, made, started⟩ := Sample.started_root
  refine ⟨id, made, started, ?_⟩
  refine (launchSound_iff ⟨[], .nil⟩ started rfl .nil).mpr
    ⟨Sample.graphAcyclic_root 1, fun _ _ clear => ?_⟩
  exact clear.2.2 ⟨.refl _, .refl _⟩

end Savor.Workflow

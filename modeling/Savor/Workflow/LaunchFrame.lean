import Savor.Workflow.CreationFacts
import Savor.Workflow.WorkflowRuns

/-!
# What commands keep of a launch

No command changes the launch of an instance, its bindings or its arguments,
and no command moves an activation to another instance.  Only the creation of
an instance and the scheduling of an activation add such rows.
-/

namespace Savor.Workflow

open Library
open Program (ByteString text)
open Table

/-- The columns of an instance that say how it was launched. -/
structure LaunchIdentity where
  workflowInstanceId : Nat
  launchKey : Option ByteString
  workflowGraphRevisionId : Option Nat
  rootScopeKind : ByteString
  rootScopeId : Option Nat

/-- How the instance was launched. -/
def WorkflowInstanceRow.identity (row : WorkflowInstanceRow) : LaunchIdentity :=
  ⟨row.workflowInstanceId, row.launchKey, row.workflowGraphRevisionId,
    row.rootScopeKind, row.rootScopeId⟩

/-- The activation and the instance it belongs to. -/
def WorkflowUnitActivationRow.owner (row : WorkflowUnitActivationRow) : Nat × Nat :=
  (row.workflowUnitActivationId, row.workflowInstanceId)

/-- The launches of a database. -/
def ExecutionDb.identities (db : ExecutionDb) : List LaunchIdentity :=
  db.instances.rows.map (·.identity)

/-- The activations of a database with their instances. -/
def ExecutionDb.owners (db : ExecutionDb) : List (Nat × Nat) := db.activations.rows.map (·.owner)

/-- A change that adds no launch, activation, edge, binding or argument. -/
structure Quiet (before after : ExecutionDb) : Prop where
  identities : after.identities = before.identities
  owners : after.owners = before.owners
  edges : after.activationEdges = before.activationEdges
  bindings : after.inputBindings = before.inputBindings
  arguments : after.arguments = before.arguments

namespace Quiet

variable {before after : ExecutionDb}

theorem refl (db : ExecutionDb) : Quiet db db := ⟨rfl, rfl, rfl, rfl, rfl⟩

theorem trans {later : ExecutionDb} (first : Quiet before after)
    (second : Quiet after later) : Quiet before later where
  identities := second.identities.trans first.identities
  owners := second.owners.trans first.owners
  edges := second.edges.trans first.edges
  bindings := second.bindings.trans first.bindings
  arguments := second.arguments.trans first.arguments

section

variable (quiet : Quiet before after)
include quiet

theorem emit {workflowInstanceId : Nat}
    {workflowStepId : Option Nat} {eventKind message : ByteString} {now : Nat} :
    Quiet before (emitLifecycleEvent workflowInstanceId workflowStepId
      eventKind message now after) :=
  ⟨quiet.identities, quiet.owners, quiet.edges, quiet.bindings, quiet.arguments⟩

theorem steps (steps : Table WorkflowStepRow (·.workflowStepId)) :
    Quiet before { after with steps } :=
  ⟨quiet.identities, quiet.owners, quiet.edges, quiet.bindings, quiet.arguments⟩

theorem instances {selected : WorkflowInstanceRow → Prop} [DecidablePred selected]
    {change : WorkflowInstanceRow → WorkflowInstanceRow}
    {keeps : KeepsKey (·.workflowInstanceId) change}
    (same : ∀ row, (change row).identity = row.identity) : Quiet before { after with
      instances := after.instances.update selected change keeps } :=
  ⟨(map_update _ _ keeps same).trans quiet.identities, quiet.owners,
    quiet.edges, quiet.bindings, quiet.arguments⟩

theorem activations {selected : WorkflowUnitActivationRow → Prop} [DecidablePred selected]
    {change : WorkflowUnitActivationRow → WorkflowUnitActivationRow}
    {keeps : KeepsKey (·.workflowUnitActivationId) change}
    (same : ∀ row, (change row).owner = row.owner) : Quiet before { after with
      activations := after.activations.update selected change keeps } :=
  ⟨quiet.identities, (map_update _ _ keeps same).trans quiet.owners,
    quiet.edges, quiet.bindings, quiet.arguments⟩

/-- States are recomputed, but no row is added. -/
theorem recompute {activationId : Option Nat} {now : Nat} :
    Quiet before (recomputeActivationOf activationId now after) := by
  unfold recomputeActivationOf
  split
  · exact quiet
  · exact quiet.activations fun _ => rfl

end

end Quiet

section Commands

variable {db after : ExecutionDb} {now : Nat}

variable {workflowStepId workflowInstanceId : Nat}

theorem quiet_retryFailedStep (ended : retryFailedStep workflowStepId now db = .ok after) :
    Quiet db after := by
  unfold retryFailedStep at ended
  iterate 2 (split at ended; · cases ended)
  dsimp only at ended
  split at ended
  · cases ended
  cases ended
  exact ((Quiet.refl db).steps _).emit

theorem quiet_skipStep {reason : ByteString}
    (ended : skipStep workflowStepId reason now db = .ok after) : Quiet db after := by
  unfold skipStep at ended
  iterate 2 (split at ended; · cases ended)
  dsimp only at ended
  split at ended
  · cases ended
  cases ended
  exact ((Quiet.refl db).steps _).recompute.emit

variable {command : MarkStepMaterializedCommand}

theorem quiet_materializeStep (ended : materializeStep command now db = .ok after) :
    Quiet db after := by
  unfold materializeStep at ended
  iterate 3 (split at ended; · cases ended)
  cases ended
  exact (Quiet.refl db).steps _

variable {before : ExecutionDb} {activationId : Option Nat}

theorem Quiet.startActivation (quiet : Quiet before db) :
    Quiet before (startActivation activationId now db) := by
  unfold Workflow.startActivation
  split
  · exact quiet
  · exact quiet.activations fun _ => rfl

theorem quiet_markStepMaterialized (ended : markStepMaterialized command now db = .ok after) :
    Quiet db after := by
  unfold markStepMaterialized at ended
  iterate 5 (split at ended; · cases ended)
  split at ended
  · split at ended
    · cases ended
    rename_i materialized written
    cases ended
    exact (quiet_materializeStep written).startActivation.emit
  · cases ended
    exact (Quiet.refl db).startActivation

theorem quiet_completeWorkflowStep {command : CompleteStepCommand}
    (ended : completeWorkflowStep command now db = .ok after) : Quiet db after := by
  unfold completeWorkflowStep at ended
  iterate 3 (split at ended; · cases ended)
  split at ended
  · cases ended
    exact .refl db
  iterate 2 (split at ended; · cases ended)
  cases ended
  exact ((Quiet.refl db).steps _).emit.recompute

theorem quiet_markStepBlocked {blockedReason : Option ByteString}
    (ended : markStepBlocked workflowStepId blockedReason now db = .ok after) : Quiet db after := by
  unfold markStepBlocked at ended
  iterate 2 (split at ended; · cases ended)
  dsimp only at ended
  split at ended
  · cases ended
    exact (Quiet.refl db).steps _
  · cases ended
    exact ((Quiet.refl db).steps _).emit

theorem Quiet.readyActivation (quiet : Quiet before db) :
    Quiet before (readyActivation activationId now db) := by
  unfold Workflow.readyActivation
  split
  · exact quiet
  · exact quiet.activations fun _ => rfl

theorem quiet_markStepReady {command : MarkStepReadyCommand}
    (ended : markStepReady command now db = .ok after) : Quiet db after := by
  unfold markStepReady at ended
  iterate 3 (split at ended; · cases ended)
  split at ended
  · cases ended
    exact .refl db
  split at ended
  · cases ended
  cases ended
  exact ((Quiet.refl db).steps _).readyActivation.emit

theorem Quiet.finalizeCancellation (quiet : Quiet before db) :
    Quiet before (finalizeCancellation workflowInstanceId now db) := by
  unfold Workflow.finalizeCancellation
  dsimp only
  split
  · refine Quiet.emit ?_
    exact quiet.instances fun _ => rfl
  · exact quiet.instances fun _ => rfl

theorem quiet_cancelWorkflowInstance {command : CancelInstanceCommand}
    (ended : cancelWorkflowInstance command now db = .ok after) : Quiet db after := by
  unfold cancelWorkflowInstance at ended
  iterate 2 (split at ended; · cases ended)
  cases ended
  have begun : Quiet db (beginCancellation command db) := (Quiet.refl db).instances fun _ => rfl
  have requested : Quiet db (requestActive command now
      (cancelUnstarted command now (beginCancellation command db))) :=
    ⟨begun.identities, begun.owners, begun.edges, begun.bindings, begun.arguments⟩
  have waiting : Quiet db (cancelSteps command.workflowInstanceId now
      (requestActive command now (cancelUnstarted command now (beginCancellation command db)))) :=
    requested.steps _
  have materialized : Quiet db
      (cancelMaterializedSteps command.workflowInstanceId now
        (cancelSteps command.workflowInstanceId now (requestActive command now
            (cancelUnstarted command now (beginCancellation command db))))) :=
    waiting.steps _
  have cancelled : Quiet db (cancelActivations command now
      (cancelMaterializedSteps command.workflowInstanceId now
        (cancelSteps command.workflowInstanceId now (requestActive command now
            (cancelUnstarted command now (beginCancellation command db)))))) :=
    materialized.activations fun _ => rfl
  exact cancelled.finalizeCancellation

theorem quiet_resumeWorkflowInstance
    (ended : resumeWorkflowInstance workflowInstanceId now db = .ok after) : Quiet db after := by
  unfold resumeWorkflowInstance at ended
  split at ended
  · cases ended
  cases ended
  refine Quiet.emit ?_
  exact (Quiet.refl db).instances fun _ => rfl

theorem quiet_completeWorkflowInstance
    (ended : completeWorkflowInstance workflowInstanceId now db = .ok after) : Quiet db after := by
  unfold completeWorkflowInstance at ended
  iterate 2 (split at ended; · cases ended)
  split at ended
  · cases ended
    exact .refl db
  iterate 3 (split at ended; · cases ended)
  cases ended
  refine Quiet.emit ?_
  exact (Quiet.refl db).instances fun _ => rfl

theorem quiet_failStep (ended : failStep workflowInstanceId workflowStepId now db = .ok after) :
    Quiet db after := by
  unfold failStep at ended
  iterate 4 (split at ended; · cases ended)
  split at ended
  · cases ended
    exact (Quiet.refl db).recompute
  split at ended
  · cases ended
  cases ended
  exact ((Quiet.refl db).steps _).emit.recompute

theorem quiet_failWorkflowInstance {command : FailInstanceCommand}
    (ended : failWorkflowInstance command now db = .ok after) : Quiet db after := by
  unfold failWorkflowInstance at ended
  iterate 2 (split at ended; · cases ended)
  dsimp only at ended
  split at ended
  · cases ended
  rename_i failed stepFailed
  split at ended
  · cases ended
  cases ended
  have quiet : Quiet db failed := by
    split at stepFailed
    · cases stepFailed
      exact .refl db
    · exact quiet_failStep stepFailed
  refine Quiet.emit ?_
  exact quiet.instances fun _ => rfl

variable {command : InterruptInstanceCommand}

theorem quiet_interruptStep (ended : interruptStep command workflowStepId now db = .ok after) :
    Quiet db after := by
  unfold interruptStep at ended
  iterate 2 (split at ended; · cases ended)
  cases ended
  exact ((Quiet.refl db).steps _).emit.activations fun _ => rfl

theorem quiet_interruptWorkflowInstance
    (ended : interruptWorkflowInstance command now db = .ok after) : Quiet db after := by
  unfold interruptWorkflowInstance at ended
  split at ended
  · cases ended
  dsimp only at ended
  split at ended
  · cases ended
  rename_i interrupted stepInterrupted
  split at ended
  · cases ended
  cases ended
  have quiet : Quiet db interrupted := by
    split at stepInterrupted
    · cases stepInterrupted
      exact .refl db
    · exact quiet_interruptStep stepInterrupted
  refine Quiet.emit ?_
  exact quiet.instances fun _ => rfl

theorem quiet_recoverStep (found : WorkflowStepRow × WorkflowStepState) :
    Quiet db (recoverStep now db found) := by
  unfold recoverStep
  dsimp only
  split
  · exact ⟨rfl, rfl, rfl, rfl, rfl⟩
  have recorded : Quiet db (recordDedupe (recoveryKey found.1.workflowStepId found.2) now db) :=
    ⟨rfl, rfl, rfl, rfl, rfl⟩
  have settled : Quiet db (settleRecoveredStep found.1.workflowStepId
      found.2 now (recordDedupe (recoveryKey found.1.workflowStepId found.2) now db)) :=
    recorded.steps _
  unfold parkInstance
  split
  · refine Quiet.emit ?_
    exact settled.instances fun _ => rfl
  · exact settled.emit

theorem quiet_reconcileInFlightInstances : Quiet db (reconcileInFlightInstances now db) := by
  have recovered : ∀ (found : List (WorkflowStepRow × WorkflowStepState))
      (start : ExecutionDb), Quiet db start → Quiet db (found.foldl (recoverStep now) start) := by
    intro found
    induction found with
    | nil => exact fun start quiet => quiet
    | cons first found ih => exact fun start quiet => ih _ (quiet.trans (quiet_recoverStep first))
  exact (recovered db.recoverable db (.refl db)).instances fun _ => rfl

theorem quiet_insertOrIgnoreStepEdge {fromStep toStep : Nat}
    (ended : insertOrIgnoreStepEdge workflowInstanceId fromStep toStep now db = .ok after) :
    Quiet db after := by
  unfold insertOrIgnoreStepEdge at ended
  split at ended
  · cases ended
  split at ended
  · cases ended
    exact .refl db
  · cases ended
    exact ⟨rfl, rfl, rfl, rfl, rfl⟩

variable {command : AppendDynamicStepsCommand} {step : CreateUnitStepSpec}

theorem quiet_appendStep {parent : AppendParent} {stepId : Nat} {isNew : Bool}
    (ended : appendStep command parent now step db = .ok (after, stepId, isNew)) :
    Quiet db after := by
  unfold appendStep at ended
  split at ended
  · split at ended
    · cases ended
    · cases ended
      exact .refl db
  · cases ended
    exact (Quiet.refl db).steps _

theorem quiet_appendRound {parent : AppendParent} {appended next : ExecutionDb × List Nat}
    (ended : appendRound command parent now appended step = .ok next) :
    Quiet appended.1 next.1 := by
  unfold appendRound at ended
  split at ended
  · cases ended
  rename_i grown stepId isNew stepAppended
  have quiet := quiet_appendStep stepAppended
  dsimp only at ended
  split at ended
  · cases ended
    exact quiet
  split at ended
  · cases ended
  rename_i connected edge
  cases ended
  exact quiet.trans (quiet_insertOrIgnoreStepEdge edge)

theorem quiet_emitReadyEvents (quiet : Quiet before db)
    {message : ByteString} {stepIds : List Nat} :
    Quiet before (emitReadyEvents workflowInstanceId message now stepIds db) := by
  unfold emitReadyEvents
  obtain ⟨events, same⟩ := exists_events_of_foldl_emit workflowInstanceId
    (text "Execution.WorkflowStepReady.v1") message now stepIds db
  rw [same]
  exact ⟨quiet.identities, quiet.owners, quiet.edges, quiet.bindings, quiet.arguments⟩

theorem quiet_appendDynamicSteps (ended : appendDynamicSteps command now db = .ok after) :
    Quiet db after := by
  unfold appendDynamicSteps at ended
  split at ended
  · cases ended
  split at ended
  · cases ended
    exact .refl db
  iterate 5 (split at ended; · cases ended)
  rename_i parent _
  split at ended
  · cases ended
  rename_i appended rounds
  cases ended
  have quiet : Quiet db appended.1 := by
    refine foldlM_induction (fun _ state => Quiet db state.1) ?_ (.refl db) rounds
    intro _ _ _ _ _ quiet ended
    exact quiet.trans (quiet_appendRound ended)
  refine quiet_emitReadyEvents ?_
  unfold reopenActivation
  split
  · exact quiet
  split
  · exact quiet
  · exact quiet.activations fun _ => rfl

end Commands

theorem nextId_eq (db : ExecutionDb) : db.instances.nextId =
      (db.identities.map (·.workflowInstanceId)).getLast?.getD 0 + 1 := by
  unfold nextId ExecutionDb.identities
  rw [List.map_map]
  rfl

/-- A change that adds launches, and rows for instances that exist.  Bindings
and arguments are added for new instances only. -/
structure Grows (before after : ExecutionDb) : Prop where
  identities : before.identities <+: after.identities
  nextId : before.instances.nextId ≤ after.instances.nextId
  owners : ∃ added, after.owners = before.owners ++ added ∧
    ∀ owner ∈ added, owner.2 < after.instances.nextId
  edges : ∃ added,
    after.activationEdges.rows = before.activationEdges.rows ++ added ∧
      ∀ row ∈ added, row.workflowInstanceId < after.instances.nextId
  bindings : ∃ added,
    after.inputBindings.rows = before.inputBindings.rows ++ added ∧
      ∀ row ∈ added, before.instances.nextId ≤ row.workflowInstanceId ∧
        row.workflowInstanceId < after.instances.nextId
  arguments : ∃ added,
    after.arguments.rows = before.arguments.rows ++ added ∧
      ∀ row ∈ added, before.instances.nextId ≤ row.workflowInstanceId ∧
        row.workflowInstanceId < after.instances.nextId

variable {after before : ExecutionDb}

theorem Quiet.grows (quiet : Quiet before after) : Grows before after where
  identities := ⟨[], by rw [quiet.identities, List.append_nil]⟩
  nextId := Nat.le_of_eq (by rw [nextId_eq, nextId_eq after, quiet.identities])
  owners := ⟨[], by rw [quiet.owners, List.append_nil],
    fun _ member => absurd member List.not_mem_nil⟩
  edges := ⟨[], by rw [quiet.edges, List.append_nil],
    fun _ member => absurd member List.not_mem_nil⟩
  bindings := ⟨[], by rw [quiet.bindings, List.append_nil],
    fun _ member => absurd member List.not_mem_nil⟩
  arguments := ⟨[], by rw [quiet.arguments, List.append_nil],
    fun _ member => absurd member List.not_mem_nil⟩

variable {argumentRows : List ArgumentRow} {bindingRows : List InputBindingRow}
variable {edgeRows : List WorkflowUnitActivationEdgeRow}
variable {rows : List WorkflowUnitActivationRow} {workflowInstanceId : Nat}
variable {db : ExecutionDb} {command : CreateInstanceCommand} {now : Nat}

theorem Created.identities (created : Created command now db after rows edgeRows bindingRows
      argumentRows) :
    after.identities = db.identities ++
      [(instanceRow command now db.instances.nextId).identity] := by
  unfold ExecutionDb.identities
  rw [created.instances, rows_insert, List.map_append]
  rfl

theorem Created.nextId (created : Created command now db after rows edgeRows bindingRows
      argumentRows) :
    after.instances.nextId = db.instances.nextId + 1 := by
  rw [nextId_eq after, created.identities, List.map_append, List.map_singleton,
    List.getLast?_concat, Option.getD_some]
  rfl

theorem Created.grows (created : Created command now db after rows edgeRows bindingRows
      argumentRows) :
    Grows db after := by
  have next := created.nextId
  refine ⟨?_, by omega, ⟨rows.map (·.owner), ?_, ?_⟩,
    ⟨edgeRows, created.edgeTable, ?_⟩,
    ⟨bindingRows, created.bindingTable, ?_⟩,
    ⟨argumentRows, created.argumentTable, ?_⟩⟩
  · rw [created.identities]
    exact List.prefix_append _ _
  · unfold ExecutionDb.owners
    rw [created.activationTable, List.map_append]
  · intro owner member
    obtain ⟨row, rowMember, rfl⟩ := List.mem_map.mp member
    obtain ⟨activation, -, inserted⟩ := exists_left_of_forall₂ created.activationsOf row rowMember
    change row.workflowInstanceId < _
    rw [inserted.owner]
    omega
  · intro row member
    obtain ⟨edge, -, inserted⟩ := exists_left_of_forall₂ created.edgesOf row member
    rw [inserted.owner]
    omega
  · intro row member
    obtain ⟨binding, -, id, rfl⟩ := exists_left_of_forall₂ created.bindingsOf row member
    change db.instances.nextId ≤ db.instances.nextId ∧ db.instances.nextId < _
    omega
  intro row member
  obtain ⟨argument, -, id, rfl⟩ := exists_left_of_forall₂ created.argumentsOf row member
  change db.instances.nextId ≤ db.instances.nextId ∧ db.instances.nextId < _
  omega

section Scheduling

variable {command : ScheduleUnitActivationCommand}

/-- What the activation insert of a schedule adds. -/
structure ScheduledInto (command : ScheduleUnitActivationCommand)
    (db after : ExecutionDb) : Prop where
  instances : after.instances = db.instances
  owners : ∃ id, after.owners = db.owners ++ [(id, command.workflowInstanceId)]
  edges : ∃ added, after.activationEdges.rows =
    db.activationEdges.rows ++ added ∧
      ∀ row ∈ added, row.workflowInstanceId = command.workflowInstanceId
  bindings : after.inputBindings = db.inputBindings
  arguments : after.arguments = db.arguments

theorem scheduledInto_of_insert (ended : insertScheduledActivation command now db = .ok after) :
    ScheduledInto command db after := by
  unfold insertScheduledActivation at ended
  iterate 2 (split at ended; · cases ended)
  dsimp only at ended
  have owners : (db.activations.insert (scheduledActivationRow command now) ⟨fun _ => rfl⟩).rows.map
        (·.owner) = db.owners ++ [(db.activations.nextId, command.workflowInstanceId)] := by
    rw [rows_insert, List.map_append]
    rfl
  split at ended
  · cases ended
    exact ⟨rfl, ⟨_, owners⟩, ⟨[], (List.append_nil _).symm,
      fun _ member => absurd member List.not_mem_nil⟩, rfl, rfl⟩
  split at ended
  · cases ended
  cases ended
  refine ⟨rfl, ⟨_, owners⟩, ⟨_, rows_insert _ _ _, ?_⟩, rfl, rfl⟩
  intro row member
  rw [List.mem_singleton.mp member]

theorem grows_scheduleUnitActivation (ended : scheduleUnitActivation command now db = .ok after) :
    Grows db after := by
  unfold scheduleUnitActivation at ended
  iterate 4 (split at ended; · cases ended)
  rename_i row found
  iterate 2 (split at ended; · cases ended)
  rename_i activated activation
  split at ended
  · cases ended
  rename_i stepped steps
  split at ended
  · cases ended
  rename_i connected edge
  cases ended
  have scheduled := scheduledInto_of_insert activation
  have quietSteps : Quiet activated stepped.1 := by
    refine foldlM_induction (fun _ state => Quiet activated state.1) ?_ (.refl activated) steps
    intro _ step _ state next quiet ended
    unfold insertScheduledStep at ended
    dsimp only at ended
    iterate 2 (split at ended; · cases ended)
    cases ended
    exact quiet.steps _
  have quietEdge : Quiet activated connected := by
    unfold insertSourceEdge at edge
    split at edge
    · exact quietSteps.trans (quiet_insertOrIgnoreStepEdge edge)
    · cases edge
      exact quietSteps
  have quiet : Quiet activated (emitReadyEvents command.workflowInstanceId
      (text "unit_activation_scheduled") now stepped.2 connected) :=
    quiet_emitReadyEvents quietEdge
  have below : command.workflowInstanceId < db.instances.nextId := by
    rw [← key_of_find found]
    exact db.instances.key_lt_nextId (mem_of_find found)
  have identities : activated.identities = db.identities := by
    unfold ExecutionDb.identities
    rw [scheduled.instances]
  have next : (emitReadyEvents command.workflowInstanceId
      (text "unit_activation_scheduled") now stepped.2
      connected).instances.nextId = db.instances.nextId := by
    rw [nextId_eq, quiet.identities, identities, ← nextId_eq]
  obtain ⟨id, owners⟩ := scheduled.owners
  obtain ⟨added, edges, ofInstance⟩ := scheduled.edges
  refine ⟨⟨[], ?_⟩, Nat.le_of_eq next.symm, ⟨[(id, command.workflowInstanceId)], ?_, ?_⟩,
    ⟨added, ?_, ?_⟩, ⟨[], ?_, fun _ member => absurd member
      List.not_mem_nil⟩, ⟨[], ?_, fun _ member => absurd member
      List.not_mem_nil⟩⟩
  · rw [quiet.identities, identities, List.append_nil]
  · rw [quiet.owners, owners]
  · intro owner member
    rw [List.mem_singleton.mp member, next]
    exact below
  · rw [quiet.edges, edges]
  · intro row member
    rw [ofInstance row member, next]
    exact below
  · rw [quiet.bindings, scheduled.bindings, List.append_nil]
  · rw [quiet.arguments, scheduled.arguments, List.append_nil]

end Scheduling

/-- A command keeps the launches or adds one. -/
theorem grows_apply {command : WorkflowCommand}
    (ended : command.apply now db = .ok after) : Grows db after := by
  cases command with
  | createInstance command =>
    change (createWorkflowInstance command now db).map Prod.snd = _ at ended
    cases answered : createWorkflowInstance command now db with
    | error message =>
      rw [answered] at ended
      cases ended
    | ok answer =>
      rw [answered] at ended
      cases ended
      rcases createWorkflowInstance_cases answered with
        ⟨_, ⟨_, _, _, _, same⟩ | ⟨_, _, _, _, _, _, _, created⟩⟩
      · rw [same]
        exact (Quiet.refl db).grows
      · exact created.grows
  | markReady command => exact (quiet_markStepReady ended).grows
  | markBlocked workflowStepId reason => exact (quiet_markStepBlocked ended).grows
  | skip workflowStepId reason => exact (quiet_skipStep ended).grows
  | materialize command => exact (quiet_markStepMaterialized ended).grows
  | completeStep command => exact (quiet_completeWorkflowStep ended).grows
  | failInstance command => exact (quiet_failWorkflowInstance ended).grows
  | interruptInstance command => exact (quiet_interruptWorkflowInstance ended).grows
  | retry workflowStepId => exact (quiet_retryFailedStep ended).grows
  | cancelInstance command => exact (quiet_cancelWorkflowInstance ended).grows
  | resumeInstance workflowInstanceId => exact (quiet_resumeWorkflowInstance ended).grows
  | completeInstance workflowInstanceId => exact (quiet_completeWorkflowInstance ended).grows
  | scheduleActivation command => exact grows_scheduleUnitActivation ended
  | appendSteps command => exact (quiet_appendDynamicSteps ended).grows
  | recover =>
    cases ended
    exact quiet_reconcileInFlightInstances.grows
  | jobStore jobSets jobs =>
    cases ended
    have quiet : Quiet db { db with jobSets, jobs } := ⟨rfl, rfl, rfl, rfl, rfl⟩
    exact quiet.grows

/-- The rows of launches belong to instances that exist. -/
structure Grounded (db : ExecutionDb) : Prop where
  owners : ∀ owner ∈ db.owners, owner.2 < db.instances.nextId
  edges : ∀ row ∈ db.activationEdges.rows, row.workflowInstanceId < db.instances.nextId
  bindings : ∀ row ∈ db.inputBindings.rows, row.workflowInstanceId < db.instances.nextId
  arguments : ∀ row ∈ db.arguments.rows, row.workflowInstanceId < db.instances.nextId

theorem Grows.grounded (grows : Grows before after) (grounded : Grounded before) :
    Grounded after := by
  have next := grows.nextId
  obtain ⟨owners, ownerTable, ownersBelow⟩ := grows.owners
  obtain ⟨edges, edgeTable, edgesBelow⟩ := grows.edges
  obtain ⟨bindings, bindingTable, bindingsBelow⟩ := grows.bindings
  obtain ⟨arguments, argumentTable, argumentsBelow⟩ := grows.arguments
  refine ⟨?_, ?_, ?_, ?_⟩
  · intro owner member
    rw [ownerTable] at member
    rcases List.mem_append.mp member with old | new
    · exact Nat.lt_of_lt_of_le (grounded.owners owner old) next
    · exact ownersBelow owner new
  · intro row member
    rw [edgeTable] at member
    rcases List.mem_append.mp member with old | new
    · exact Nat.lt_of_lt_of_le (grounded.edges row old) next
    · exact edgesBelow row new
  · intro row member
    rw [bindingTable] at member
    rcases List.mem_append.mp member with old | new
    · exact Nat.lt_of_lt_of_le (grounded.bindings row old) next
    · exact (bindingsBelow row new).2
  intro row member
  rw [argumentTable] at member
  rcases List.mem_append.mp member with old | new
  · exact Nat.lt_of_lt_of_le (grounded.arguments row old) next
  · exact (argumentsBelow row new).2

/-- In every run the rows have their instances. -/
theorem grounded_of_reachable (reachable : Reachable db) : Grounded db := by
  obtain ⟨history, run⟩ := reachable
  refine Run.invariant ?_ ?_ run
  · exact ⟨fun _ member => absurd member List.not_mem_nil,
      fun _ member => absurd member List.not_mem_nil,
      fun _ member => absurd member List.not_mem_nil,
      fun _ member => absurd member List.not_mem_nil⟩
  intro db input event next grounded _ stepped
  rcases workflowStep_cases stepped with rfl | applied
  · exact grounded
  · exact (grows_apply applied).grounded grounded

/-- The launch of an instance is as it was. -/
structure LaunchKept (workflowInstanceId : Nat) (before after : ExecutionDb) : Prop where
  identities : before.identities <+: after.identities
  nextId : before.instances.nextId ≤ after.instances.nextId
  bindings : (after.inputBindings.select fun row =>
      row.workflowInstanceId = workflowInstanceId) =
    before.inputBindings.select fun row => row.workflowInstanceId = workflowInstanceId
  arguments : (after.arguments.select fun row =>
      row.workflowInstanceId = workflowInstanceId) =
    before.arguments.select fun row => row.workflowInstanceId = workflowInstanceId

theorem LaunchKept.refl (workflowInstanceId : Nat) (db : ExecutionDb) :
    LaunchKept workflowInstanceId db db :=
  ⟨List.prefix_rfl, Nat.le_refl _, rfl, rfl⟩

theorem LaunchKept.trans {later : ExecutionDb} (first : LaunchKept workflowInstanceId before after)
    (second : LaunchKept workflowInstanceId after later) :
    LaunchKept workflowInstanceId before later where
  identities := first.identities.trans second.identities
  nextId := Nat.le_trans first.nextId second.nextId
  bindings := second.bindings.trans first.bindings
  arguments := second.arguments.trans first.arguments

theorem filter_append_of_newer {Row : Type} {owner : Row → Nat}
    {bound : Nat} (old : workflowInstanceId < bound) {rows added : List Row}
    (newer : ∀ row ∈ added, bound ≤ owner row) :
    ((rows ++ added).filter fun row => owner row = workflowInstanceId) =
      rows.filter fun row => owner row = workflowInstanceId := by
  have none : (added.filter fun row => owner row = workflowInstanceId) =
      [] := by
    rw [List.filter_eq_nil_iff]
    intro row member
    have later := newer row member
    simp only [decide_eq_true_eq]
    omega
  rw [List.filter_append, none, List.append_nil]

/-- Added rows belong to other instances. -/
theorem Grows.launchKept (grows : Grows before after)
    (old : workflowInstanceId < before.instances.nextId) :
    LaunchKept workflowInstanceId before after := by
  obtain ⟨bindings, bindingTable, newBindings⟩ := grows.bindings
  obtain ⟨arguments, argumentTable, newArguments⟩ := grows.arguments
  refine ⟨grows.identities, grows.nextId, ?_, ?_⟩
  · unfold select
    rw [bindingTable]
    exact filter_append_of_newer old fun row member => (newBindings row member).1
  unfold select
  rw [argumentTable]
  exact filter_append_of_newer old fun row member => (newArguments row member).1

/-- No run changes the launch of an instance. -/
theorem launchKept_of_run {Allowed : ExecutionDb → WorkflowInput → Prop} {later : ExecutionDb}
    {history : List (Transition ExecutionDb WorkflowInput (Option ByteString))}
    (old : workflowInstanceId < db.instances.nextId)
    (run : Run workflowStep Allowed db history later) : LaunchKept workflowInstanceId db later := by
  refine Run.invariant (.refl workflowInstanceId db) ?_ run
  intro state input event next kept _ stepped
  rcases workflowStep_cases stepped with rfl | applied
  · exact kept
  · exact kept.trans ((grows_apply applied).launchKept (Nat.lt_of_lt_of_le old kept.nextId))

end Savor.Workflow

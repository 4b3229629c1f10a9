import Savor.Workflow.CreateInstance
import Savor.Library.Transition

/-!
# Runs of the workflow commands

`ScheduleUnitActivation` and `AppendDynamicSteps`, which extend a running
instance, the recovery pass after a restart, and the runs of all commands.
-/

namespace Savor.Workflow

open Library
open Program (ByteString text decimal)

section Scheduling

/-- `WorkflowScheduleUnitActivationCommand`. -/
structure ScheduleUnitActivationCommand where
  workflowInstanceId : Nat
  (parentWorkflowUnitActivationId sourceWorkflowStepId : Option Nat)
  sourceWorkflowUnitActivationId : Option Nat
  (activationKey graphNodeKey unitKind displayName : ByteString)
  activationParamsJson : ByteString
  authoredRefKind : Option ByteString
  authoredRefId : Option Nat
  steps : List CreateUnitStepSpec

variable (command : ScheduleUnitActivationCommand) (db : ExecutionDb)
variable (workflowInstanceId : Nat) (now : Nat)

/-- The instance accepts new activations and steps. -/
def WorkflowInstanceState.Extensible (state : WorkflowInstanceState) : Prop :=
  state ∈ [.running, .pending]

instance : DecidablePred WorkflowInstanceState.Extensible :=
  fun _ => inferInstanceAs (Decidable (_ ∈ _))

/-- An activation of the instance has the key. -/
def ExecutionDb.ActivationKeyTaken (activationKey : ByteString) : Prop :=
  ∃ row ∈ db.activations.rows, row.workflowInstanceId = workflowInstanceId ∧
    row.activationKey = activationKey

instance (db : ExecutionDb) (workflowInstanceId : Nat) (activationKey : ByteString) :
    Decidable (db.ActivationKeyTaken workflowInstanceId activationKey) :=
  inferInstanceAs (Decidable (∃ _ ∈ _, _))

/-- The node key of a scheduled activation and of its steps. -/
def ScheduleUnitActivationCommand.nodeKey : ByteString :=
  if command.graphNodeKey = [] then command.activationKey
  else command.graphNodeKey

/-- The row of a scheduled activation. -/
def scheduledActivationRow (id : Nat) : WorkflowUnitActivationRow where
  workflowUnitActivationId := id
  workflowInstanceId := command.workflowInstanceId
  parentWorkflowUnitActivationId := command.parentWorkflowUnitActivationId
  activationKey := command.activationKey
  graphNodeKey := command.nodeKey
  unitKind := command.unitKind
  displayName :=
    if command.displayName = [] then command.unitKind
    else command.displayName
  state := .ready
  activationParamsJson := command.activationParamsJson
  authoredRefKind := command.authoredRefKind
  authoredRefId := command.authoredRefId
  failureCode := none
  failureText := none
  createdAt := now
  readyAt := some now
  startedAt := none
  completedAt := none
  failedAt := none

/-- The id is absent or names an activation. -/
def ExecutionDb.ActivationExists (id : Option Nat) : Prop :=
  ∀ activationId ∈ id, db.activations.find activationId ≠ none

instance (db : ExecutionDb) : DecidablePred db.ActivationExists :=
  fun id => by unfold ExecutionDb.ActivationExists; infer_instance

/-- The activation row and its edge from the source activation. -/
def insertScheduledActivation (db : ExecutionDb) : Except ByteString ExecutionDb :=
  if db.ActivationKeyTaken command.workflowInstanceId
      command.activationKey then
    .error (text "UNIQUE constraint failed: exec_workflow_unit_activation")
  else if ¬ db.ActivationExists command.parentWorkflowUnitActivationId then
    .error (text "FOREIGN KEY constraint failed")
  else
    let activationId := db.activations.nextId
    let inserted := { db with
      activations := db.activations.insert (scheduledActivationRow command now) ⟨fun _ => rfl⟩ }
    match command.sourceWorkflowUnitActivationId with
    | none => .ok inserted
    | some source =>
      if inserted.activations.find source = none then
        .error (text "FOREIGN KEY constraint failed")
      else
        .ok { inserted with
          activationEdges := inserted.activationEdges.insert
            (fun id => ⟨id, command.workflowInstanceId, source,
              activationId, none, none, none, none, now⟩) ⟨fun _ => rfl⟩ }

/-- The row of a step that is inserted ready. -/
def readyStepRow (activationId : Option Nat) (stepKey nodeKey : ByteString)
    (now : Nat) (step : CreateUnitStepSpec) (id : Nat) : WorkflowStepRow where
  workflowStepId := id
  workflowInstanceId
  workflowUnitActivationId := activationId
  stepKey
  graphNodeKey := nodeKey
  stepKind := step.stepKind
  state := .ready
  guardKind := step.guardKind
  guardValue := step.guardValue
  priority := step.priority
  attempts := 0
  maxAttempts := if 0 < step.maxAttempts then step.maxAttempts else 1
  jobSetId := none
  inputRefKind := step.inputRefKind
  inputRefId := step.inputRefId
  outputRefKind := none
  outputRefId := none
  blockedReason := none
  createdAt := now
  readyAt := some now
  startedAt := none
  completedAt := none
  failedAt := none

/-- One round of the loop that inserts scheduled steps, with the ids of the
steps inserted so far. -/
def insertScheduledStep (activationId now : Nat)
    (inserted : ExecutionDb × List Nat) (step : CreateUnitStepSpec) :
    Except ByteString (ExecutionDb × List Nat) :=
  let stepKey := stepKeyForActivation command.activationKey step
  if stepKey = [] ∨ step.stepKind = [] then
    .error (text "scheduled step_key and step_kind are required")
  else if (inserted.1.stepWithKey command.workflowInstanceId stepKey).isSome then
    .error (text "UNIQUE constraint failed: exec_workflow_step")
  else
    .ok ({ inserted.1 with
      steps := inserted.1.steps.insert
        (readyStepRow command.workflowInstanceId (some activationId) stepKey
          command.nodeKey now step)
        ⟨fun _ => rfl⟩ }, inserted.2 ++ [inserted.1.steps.nextId])

/-- `INSERT OR IGNORE` of a step edge. -/
def insertOrIgnoreStepEdge (fromStep toStep now : Nat) (db : ExecutionDb) :
    Except ByteString ExecutionDb :=
  if db.steps.find fromStep = none then
    .error (text "FOREIGN KEY constraint failed")
  else if StepEdgeTaken db
      ⟨0, workflowInstanceId, fromStep, toStep, none, none, now⟩ then
    .ok db
  else
    .ok { db with
      edges := db.edges.insert
        (fun id => ⟨id, workflowInstanceId, fromStep, toStep, none, none, now⟩) ⟨fun _ => rfl⟩ }

/-- The edge from the source step to the first scheduled step. -/
def insertSourceEdge (inserted : ExecutionDb × List Nat) : Except ByteString ExecutionDb :=
  match command.sourceWorkflowStepId, inserted.2 with
  | some source, first :: _ =>
    insertOrIgnoreStepEdge command.workflowInstanceId source first now inserted.1
  | _, _ => .ok inserted.1

/-- The events of steps that became ready. -/
def emitReadyEvents (message : ByteString) (now : Nat) (stepIds : List Nat)
    (db : ExecutionDb) : ExecutionDb :=
  stepIds.foldl
    (fun db stepId => emitLifecycleEvent workflowInstanceId (some stepId)
      (text "Execution.WorkflowStepReady.v1") message now db) db

def scheduleUnitActivation (db : ExecutionDb) : Except ByteString ExecutionDb :=
  if command.workflowInstanceId = 0 then
    .error (text "workflow_instance_id must be > 0")
  else if command.activationKey = [] ∨ command.unitKind = [] then
    .error (text "activation_key and unit_kind are required")
  else if command.steps = [] then
    .error (text "scheduled unit activation requires at least one step")
  else
    match db.instances.find command.workflowInstanceId with
    | none => .error (text "workflow instance not found")
    | some row =>
      if ¬ row.state.Extensible then
        .error (text <| "schedule unit activation precondition failed " ++
          "(workflow instance is not active)")
      else
        match insertScheduledActivation command now db with
        | .error message => .error message
        | .ok activated =>
          match command.steps.foldlM
              (insertScheduledStep command db.activations.nextId now)
              (activated, []) with
          | .error message => .error message
          | .ok stepped =>
            match insertSourceEdge command now stepped with
            | .error message => .error message
            | .ok connected =>
              .ok (emitReadyEvents command.workflowInstanceId
                (text "unit_activation_scheduled") now stepped.2 connected)

/-- `WorkflowAppendDynamicStepsCommand`; the suffix and the dependencies of a
step are not read. -/
structure AppendDynamicStepsCommand where
  workflowInstanceId : Nat
  parentWorkflowStepId : Option Nat
  steps : List CreateUnitStepSpec

/-- What appended steps take from the parent step: its node key, which is
empty without a parent, and its activation. -/
structure AppendParent where
  stepId : Option Nat
  graphNodeKey : ByteString
  activationId : Option Nat

/-- The parent of appended steps. -/
def appendParent (command : AppendDynamicStepsCommand) (db : ExecutionDb) :
    Except ByteString AppendParent :=
  match command.parentWorkflowStepId with
  | none => .ok ⟨none, [], none⟩
  | some parentId =>
    match db.steps.find parentId with
    | none => .error (text "parent workflow step not found for instance")
    | some parent =>
      if parent.workflowInstanceId ≠ command.workflowInstanceId then
        .error (text "parent workflow step not found for instance")
      else
        .ok ⟨some parentId, parent.graphNodeKey, parent.workflowUnitActivationId⟩

/-- A step that is already there has another shape than the appended one. -/
def ShapeDiffers (parent : AppendParent) (step : CreateUnitStepSpec)
    (row : WorkflowStepRow) : Prop :=
  row.stepKind ≠ step.stepKind ∨ row.inputRefKind ≠ step.inputRefKind ∨
    row.inputRefId ≠ step.inputRefId ∨
    parent.graphNodeKey ≠ [] ∧ row.graphNodeKey ≠ parent.graphNodeKey ∨
    parent.activationId ≠ none ∧ row.workflowUnitActivationId ≠ parent.activationId

instance (parent : AppendParent) (step : CreateUnitStepSpec) :
    DecidablePred (ShapeDiffers parent step) :=
  fun _ => inferInstanceAs (Decidable (_ ∨ _ ∨ _ ∨ _ ∧ _ ∨ _ ∧ _))

/-- Find or insert an appended step: the database, the id of the step and
whether it is new. -/
def appendStep (command : AppendDynamicStepsCommand) (parent : AppendParent)
    (now : Nat) (step : CreateUnitStepSpec) (db : ExecutionDb) :
    Except ByteString (ExecutionDb × Nat × Bool) :=
  match db.stepWithKey command.workflowInstanceId step.stepKey with
  | some row =>
    if ShapeDiffers parent step row then
      .error (text "dynamic step key already exists with incompatible shape")
    else .ok (db, row.workflowStepId, false)
  | none =>
    .ok ({ db with
      steps := db.steps.insert
        (readyStepRow command.workflowInstanceId parent.activationId step.stepKey
          (if parent.graphNodeKey = [] then step.stepKey
            else parent.graphNodeKey) now step)
        ⟨fun _ => rfl⟩ }, db.steps.nextId, true)

/-- One round of the loop over the appended steps, with the ids of the new
ones. -/
def appendRound (command : AppendDynamicStepsCommand) (parent : AppendParent) (now : Nat)
    (appended : ExecutionDb × List Nat) (step : CreateUnitStepSpec) :
    Except ByteString (ExecutionDb × List Nat) :=
  match appendStep command parent now step appended.1 with
  | .error message => .error message
  | .ok (db, stepId, isNew) =>
    let newSteps := if isNew then appended.2 ++ [stepId] else appended.2
    match parent.stepId with
    | none => .ok (db, newSteps)
    | some parentId =>
      match insertOrIgnoreStepEdge command.workflowInstanceId parentId stepId now db with
      | .error message => .error message
      | .ok db => .ok (db, newSteps)

/-- The columns that the activation update of `AppendDynamicSteps`
writes. -/
def WorkflowUnitActivationRow.reopen (activation : WorkflowUnitActivationRow) :
    WorkflowUnitActivationRow :=
  { activation with
    state := .running
    completedAt := none
    failedAt := none
    failureCode := none
    failureText := none
    startedAt := activation.startedAt <|> some now }

/-- The activation update of `AppendDynamicSteps`. -/
def reopenActivation (activationId : Option Nat) (newSteps : List Nat)
    (now : Nat) (db : ExecutionDb) : ExecutionDb :=
  match activationId with
  | none => db
  | some activationId =>
    if newSteps = [] then db
    else
      { db with
        activations := db.activations.update
          (fun activation => activation.workflowUnitActivationId = activationId)
          (·.reopen now) ⟨fun _ => rfl⟩ }

def appendDynamicSteps (command : AppendDynamicStepsCommand) (now : Nat)
    (db : ExecutionDb) : Except ByteString ExecutionDb :=
  if command.workflowInstanceId = 0 then
    .error (text "workflow_instance_id must be > 0")
  else if command.steps = [] then .ok db
  else if ∃ step ∈ command.steps, step.stepKey = [] ∨ step.stepKind = [] then
    .error (text "dynamic step_key and step_kind are required")
  else if ∃ step ∈ command.steps, step.maxAttempts = 0 then
    .error (text "dynamic max_attempts must be > 0")
  else
    match db.instances.find command.workflowInstanceId with
    | none => .error (text "workflow instance not found")
    | some row =>
      if ¬ row.state.Extensible then
        .error (text <| "append dynamic step precondition failed " ++
          "(workflow instance is not active)")
      else
        match appendParent command db with
        | .error message => .error message
        | .ok parent =>
          match command.steps.foldlM (appendRound command parent now) (db, []) with
          | .error message => .error message
          | .ok appended =>
            .ok (emitReadyEvents command.workflowInstanceId (text "dynamic_spawn") now appended.2
              (reopenActivation parent.activationId appended.2 now appended.1))

end Scheduling

/-!
## The recovery pass

`WorkflowRecoveryService::ReconcileInFlightInstances` settles the steps of live
instances from their jobs after a restart.
-/

section Recovery

variable (db : ExecutionDb) (workflowInstanceId now : Nat)

/-- The jobs of a job set. -/
def ExecutionDb.jobsOf (jobSetId : Nat) : List JobRow :=
  db.jobs.select fun job => job.jobSetId = jobSetId

/-- The `terminal_state` of the recovery query. -/
def recoveryVerdict (jobs : List JobRow) : Option WorkflowStepState :=
  if ∃ job ∈ jobs, job.state = .failed then some .failed
  else if ∃ job ∈ jobs, job.state = .interrupted then some .interrupted
  else if ∃ job ∈ jobs, job.state = .canceled then some .canceled
  else if jobs ≠ [] ∧
      (∀ job ∈ jobs, job.state.Succeeded ∨ job.state = .superseded) ∧
      ∃ job ∈ jobs, job.state.Succeeded then
    some .completed
  else if jobs ≠ [] ∧ ∀ job ∈ jobs, job.state = .superseded then
    some .failed
  else none

/-- A step in flight of an instance that recovery looks at. -/
def ExecutionDb.InFlight (step : WorkflowStepRow) : Prop :=
  (∃ row ∈ db.instances.rows, row.workflowInstanceId = step.workflowInstanceId ∧
      row.state ∈ [.pending, .running, .cancelling]) ∧
    step.state ∈ [.materialized, .running] ∧ step.jobSetId ≠ none

instance (db : ExecutionDb) : DecidablePred db.InFlight :=
  fun _ => inferInstanceAs (Decidable ((∃ _ ∈ _, _) ∧ _ ∧ _))

/-- The word for a terminal step state in dedupe keys. -/
def terminalWord : WorkflowStepState → ByteString
  | .completed => text "COMPLETED"
  | .failed => text "FAILED"
  | .interrupted => text "INTERRUPTED"
  | _ => text "CANCELED"

/-- The dedupe key of a recovered step. -/
def recoveryKey (workflowStepId : Nat) (verdict : WorkflowStepState) : ByteString :=
  text "workflow_step:" ++ decimal workflowStepId ++ text ":terminal:" ++ terminalWord verdict

/-- The handler name of the recovery pass. -/
def recoveryHandler : ByteString := text "workflow_recovery_reconcile"

/-- A dedupe row of the recovery pass has the key. -/
def ExecutionDb.Recovered (semanticKey : ByteString) : Prop :=
  ∃ row ∈ db.dedupe.rows, row.handlerName = recoveryHandler ∧ row.semanticKey = semanticKey

instance (db : ExecutionDb) : DecidablePred db.Recovered :=
  fun _ => inferInstanceAs (Decidable (∃ _ ∈ _, _))

/-- `TryRecordHandlerDedupeSemantic` for a key that is there: only the time
changes. -/
def touchDedupe (semanticKey : ByteString) (now : Nat) (db : ExecutionDb) : ExecutionDb :=
  { db with
    dedupe := db.dedupe.update
      (fun row => row.handlerName = recoveryHandler ∧ row.semanticKey = semanticKey)
      (fun row => { row with lastSeenAt := now }) ⟨fun _ => rfl⟩ }

/-- `TryRecordHandlerDedupeSemantic` for a new key. -/
def recordDedupe (semanticKey : ByteString) (now : Nat) (db : ExecutionDb) : ExecutionDb :=
  { db with
    dedupe := db.dedupe.insert
      (fun id => ⟨id, recoveryHandler, semanticKey, now, now⟩) ⟨fun _ => rfl⟩ }

/-- The event kind of a recovered step. -/
def recoveryEventKind : WorkflowStepState → ByteString
  | .completed => text "Execution.WorkflowStepCompleted.v1"
  | .failed => text "Execution.WorkflowStepFailed.v1"
  | .interrupted => text "Execution.WorkflowStepInterrupted.v1"
  | _ => text "Execution.WorkflowStepCanceled.v1"

/-- The message of the event of a recovered step. -/
def recoveryMessage : WorkflowStepState → ByteString
  | .completed => text "recovery_reconciled_completed"
  | .failed => text "recovery_reconciled_failed"
  | .interrupted => text "recovery_reconciled_interrupted"
  | _ => text "recovery_reconciled_canceled"

/-- The columns that the step update of the recovery pass writes. -/
def WorkflowStepRow.recover (verdict : WorkflowStepState) (now : Nat)
    (step : WorkflowStepRow) : WorkflowStepRow :=
  { step with
    state := verdict
    completedAt := if verdict = .completed then some now else step.completedAt
    failedAt :=
      if verdict ∈ [.failed, .interrupted, .canceled] then some now
      else step.failedAt }

/-- The step update of the recovery pass. -/
def settleRecoveredStep (workflowStepId : Nat) (verdict : WorkflowStepState)
    (now : Nat) (db : ExecutionDb) : ExecutionDb :=
  { db with
    steps := db.steps.update
      (fun step => step.workflowStepId = workflowStepId)
      (·.recover verdict now) ⟨fun _ => rfl⟩ }

/-- The columns that the instance update of the recovery pass writes. -/
def WorkflowInstanceRow.park (verdict : WorkflowStepState)
    (row : WorkflowInstanceRow) : WorkflowInstanceRow :=
  { row with
    state := if verdict = .failed then .failed else .interrupted
    completedAt := none
    failureCode := row.failureCode <|> some
      (if verdict = .interrupted then text "WORKFLOW_INTERRUPTED"
        else text "WORKFLOW_STEP_FAILED")
    failureText := row.failureText <|> some
      (if verdict = .interrupted then text "workflow step was interrupted"
        else text "workflow step failed") }

/-- The instance update of the recovery pass. -/
def parkInstance (verdict : WorkflowStepState) (db : ExecutionDb) : ExecutionDb :=
  if verdict ∈ [.failed, .interrupted] then
    { db with
      instances := db.instances.update
        (fun row => row.workflowInstanceId = workflowInstanceId ∧ row.state ∈ [.pending, .running])
        (·.park verdict) ⟨fun _ => rfl⟩ }
  else db

/-- One round of the recovery loop, on a step and its verdict. -/
def recoverStep (db : ExecutionDb) (found : WorkflowStepRow × WorkflowStepState) : ExecutionDb :=
  let semanticKey := recoveryKey found.1.workflowStepId found.2
  if db.Recovered semanticKey then touchDedupe semanticKey now db
  else
    emitLifecycleEvent found.1.workflowInstanceId
      (some found.1.workflowStepId) (recoveryEventKind found.2)
      (recoveryMessage found.2) now
      (parkInstance found.1.workflowInstanceId found.2
        (settleRecoveredStep found.1.workflowStepId found.2 now (recordDedupe semanticKey now db)))

/-- The rows of the recovery query that have a verdict. -/
def ExecutionDb.recoverable : List (WorkflowStepRow × WorkflowStepState) :=
  (db.steps.select db.InFlight).filterMap fun step =>
    (step.jobSetId.bind fun jobSetId =>
      recoveryVerdict (db.jobsOf jobSetId)).map fun verdict => (step, verdict)

/-- The columns that the last statement of the recovery pass writes. -/
def WorkflowInstanceRow.concludeCancel (row : WorkflowInstanceRow) : WorkflowInstanceRow :=
  { row with
    state := .canceled
    completedAt := row.completedAt <|> some now }

/-- The instances that the last statement of the recovery pass cancels. -/
def ExecutionDb.ConcludesCancel (row : WorkflowInstanceRow) : Prop :=
  row.state = .cancelling ∧ db.StepsSettled row.workflowInstanceId

instance (db : ExecutionDb) : DecidablePred db.ConcludesCancel :=
  fun _ => inferInstanceAs (Decidable (_ ∧ _))

/-- The last statement of the recovery pass: instances in cancellation whose
steps have settled are canceled. -/
def finishCancellations (db : ExecutionDb) : ExecutionDb :=
  { db with
    instances := db.instances.update db.ConcludesCancel (·.concludeCancel now) ⟨fun _ => rfl⟩ }

/-- `ReconcileInFlightInstances`.  The query is answered as a whole before the
first update. -/
def reconcileInFlightInstances (db : ExecutionDb) : ExecutionDb :=
  finishCancellations now (db.recoverable.foldl (recoverStep now) db)

/-- An activation state that is final. -/
def WorkflowUnitActivationState.Terminal (state : WorkflowUnitActivationState) : Prop :=
  state ∈ [.completed, .failed, .interrupted, .skipped, .canceled]

instance : DecidablePred WorkflowUnitActivationState.Terminal :=
  fun _ => inferInstanceAs (Decidable (_ ∈ _))

end Recovery

/-!
## Runs of the workflow commands

A run interleaves the orchestration commands, the recovery pass and the writes
of the job store, which owns the job sets and the jobs.
-/

section Runs

variable (now : Nat) (db : ExecutionDb)

/-- What can happen to the execution database. -/
inductive WorkflowCommand
  | createInstance (command : CreateInstanceCommand)
  | markReady (command : MarkStepReadyCommand)
  | markBlocked (workflowStepId : Nat) (blockedReason : Option ByteString)
  | skip (workflowStepId : Nat) (reason : ByteString)
  | materialize (command : MarkStepMaterializedCommand)
  | completeStep (command : CompleteStepCommand)
  | failInstance (command : FailInstanceCommand)
  | interruptInstance (command : InterruptInstanceCommand)
  | retry (workflowStepId : Nat)
  | cancelInstance (command : CancelInstanceCommand)
  | resumeInstance (workflowInstanceId : Nat)
  | completeInstance (workflowInstanceId : Nat)
  | scheduleActivation (command : ScheduleUnitActivationCommand)
  | appendSteps (command : AppendDynamicStepsCommand)
  | recover
  /-- The job store leaves these job sets and jobs behind. -/
  | jobStore (jobSets : Table JobSetRow (·.jobSetId)) (jobs : Table JobRow (·.jobId))

/-- What a command makes of the database at a time. -/
def WorkflowCommand.apply (db : ExecutionDb) : WorkflowCommand → Except ByteString ExecutionDb
  | .createInstance command => (createWorkflowInstance command now db).map Prod.snd
  | .markReady command => markStepReady command now db
  | .markBlocked workflowStepId reason => markStepBlocked workflowStepId reason now db
  | .skip workflowStepId reason => skipStep workflowStepId reason now db
  | .materialize command => markStepMaterialized command now db
  | .completeStep command => completeWorkflowStep command now db
  | .failInstance command => failWorkflowInstance command now db
  | .interruptInstance command => interruptWorkflowInstance command now db
  | .retry workflowStepId => retryFailedStep workflowStepId now db
  | .cancelInstance command => cancelWorkflowInstance command now db
  | .resumeInstance workflowInstanceId => resumeWorkflowInstance workflowInstanceId now db
  | .completeInstance workflowInstanceId => completeWorkflowInstance workflowInstanceId now db
  | .scheduleActivation command => scheduleUnitActivation command now db
  | .appendSteps command => appendDynamicSteps command now db
  | .recover => .ok (reconcileInFlightInstances now db)
  | .jobStore jobSets jobs => .ok { db with jobSets, jobs }

/-- A command issued at a time. -/
structure WorkflowInput where
  now : Nat
  command : WorkflowCommand

/-- One command: its error, or none, and the database after it. -/
def workflowStep (input : WorkflowInput) (db : ExecutionDb) :
    Option (Option ByteString × ExecutionDb) :=
  match input.command.apply input.now db with
  | .error message => some (some message, db)
  | .ok next => some (none, next)

/-- Some commands lead from the empty database to this one. -/
def Reachable : Prop := ∃ history, Run workflowStep (fun _ _ => True) ExecutionDb.empty history db

/-- A step of a run is an error that leaves the database alone, or a command
that succeeds. -/
theorem workflowStep_cases {input : WorkflowInput} {db next : ExecutionDb}
    {event : Option ByteString} (stepped : workflowStep input db = some (event, next)) :
    next = db ∨ input.command.apply input.now db = .ok next := by
  unfold workflowStep at stepped
  split at stepped
  · cases stepped
    exact .inl rfl
  rename_i after applied
  cases stepped
  exact .inr applied

end Runs

end Savor.Workflow

import Savor.Workflow.ExecutionRows

/-!
# The commands on workflow steps

The commands of `SqliteWorkflowOrchestrationCommandService` that name a step.
Every command is one transaction: it answers an error and leaves the database
alone, or it answers the database it has committed.
-/

namespace Savor.Workflow

open Library
open Program (ByteString text decimal)

/-- `EmitLifecycleEvent`: every event kind that the commands use is in the
catalog. -/
def emitLifecycleEvent (workflowInstanceId : Nat)
    (workflowStepId : Option Nat) (eventKind message : ByteString)
    (now : Nat) (db : ExecutionDb) : ExecutionDb :=
  { db with
    workflowEvents := db.workflowEvents.insert
      (fun id => ⟨id, workflowInstanceId, workflowStepId, eventKind, now,
        some message⟩) ⟨fun _ => rfl⟩ }

section Events

variable (workflowInstanceId : Nat) (workflowStepId : Option Nat)
  (eventKind message : ByteString) (now : Nat) (db : ExecutionDb)

@[simp]
theorem emitLifecycleEvent_steps :
    (emitLifecycleEvent workflowInstanceId workflowStepId eventKind message
      now db).steps = db.steps := rfl

end Events

/-- The steps of an activation. -/
def ExecutionDb.stepsOf (db : ExecutionDb) (activationId : Nat) : List WorkflowStepRow :=
  db.steps.select fun step => step.workflowUnitActivationId = some activationId

/-- The state that `RecomputeUnitActivationState` gives to an activation with
the given steps. -/
def recomputedState (steps : List WorkflowStepRow) (current : Option WorkflowUnitActivationState) :
    WorkflowUnitActivationState :=
  let total := steps.length
  let failed := steps.countP fun step => step.state = .failed
  let terminal := steps.countP fun step => step.state ∈ [.completed, .failed, .skipped]
  let active := steps.countP fun step => step.state ∈ [.materialized, .running]
  let skipped := steps.countP fun step => step.state = .skipped
  if 0 < failed then .failed
  else if 0 < total ∧ skipped = total then .skipped
  else if 0 < total ∧ terminal = total then .completed
  else if 0 < active then .running
  else if current = some .ready then .ready
  else .waiting

/-- The columns that `RecomputeUnitActivationState` writes. -/
def WorkflowUnitActivationRow.recompute (state : WorkflowUnitActivationState)
    (now : Nat) (activation : WorkflowUnitActivationRow) : WorkflowUnitActivationRow :=
  { activation with
    state
    startedAt :=
      if state = .running then activation.startedAt <|> some now
      else activation.startedAt
    completedAt :=
      if state ∈ [.completed, .skipped] then
        activation.completedAt <|> some now
      else activation.completedAt
    failedAt :=
      if state = .failed then activation.failedAt <|> some now
      else activation.failedAt
    failureCode :=
      if state = .failed then
        activation.failureCode <|> some (text "CHILD_STEP_FAILED")
      else activation.failureCode
    failureText :=
      if state = .failed then
        activation.failureText <|> some (text "child workflow step failed")
      else activation.failureText }

def recomputeUnitActivationState (activationId now : Nat) (db : ExecutionDb) : ExecutionDb :=
  let current := (db.activations.find activationId).map (·.state)
  let state := recomputedState (db.stepsOf activationId) current
  { db with
    activations := db.activations.update
      (fun activation => activation.workflowUnitActivationId = activationId)
      (·.recompute state now) ⟨fun _ => rfl⟩ }

/-- Recompute the activation of a step that has one. -/
def recomputeActivationOf (activationId : Option Nat) (now : Nat)
    (db : ExecutionDb) : ExecutionDb :=
  match activationId with
  | none => db
  | some activationId => recomputeUnitActivationState activationId now db

/-- The rows that `RetryFailedStep` updates. -/
def Retryable (workflowStepId : Nat) (step : WorkflowStepRow) : Prop :=
  step.workflowStepId = workflowStepId ∧ step.state = .failed ∧ step.attempts < step.maxAttempts

instance (workflowStepId : Nat) : DecidablePred (Retryable workflowStepId) :=
  fun _ => inferInstanceAs (Decidable (_ ∧ _ ∧ _))

/-- The columns that `RetryFailedStep` writes. -/
def WorkflowStepRow.retry (now : Nat) (step : WorkflowStepRow) : WorkflowStepRow :=
  { step with
    state := .ready
    blockedReason := none
    failedAt := none
    attempts := step.attempts + 1
    readyAt := some now }

def retryFailedStep (workflowStepId now : Nat) (db : ExecutionDb) : Except ByteString ExecutionDb :=
  if workflowStepId = 0 then
    .error (text "workflow_step_id must be > 0")
  else if db.steps.count (Retryable workflowStepId) = 0 then
    .error (text <| "retry precondition failed " ++
      "(step must be FAILED and attempts < max_attempts)")
  else
    let retried := { db with
      steps := db.steps.update (Retryable workflowStepId) (·.retry now) ⟨fun _ => rfl⟩ }
    match retried.steps.find workflowStepId with
    | none => .error (text "failed to resolve workflow_instance_id")
    | some step =>
      .ok (emitLifecycleEvent step.workflowInstanceId (some workflowStepId)
        (text "Execution.WorkflowStepReady.v1") (text "retry") now retried)

/-- The rows that `SkipStep` updates. -/
def Skippable (workflowStepId : Nat) (step : WorkflowStepRow) : Prop :=
  step.workflowStepId = workflowStepId ∧ step.state ∈ [.waiting, .ready, .failed]

instance (workflowStepId : Nat) : DecidablePred (Skippable workflowStepId) :=
  fun _ => inferInstanceAs (Decidable (_ ∧ _))

/-- The columns that `SkipStep` writes. -/
def WorkflowStepRow.skip (reason : ByteString) (now : Nat)
    (step : WorkflowStepRow) : WorkflowStepRow :=
  { step with
    state := .skipped
    blockedReason := some reason
    completedAt := some now }

def skipStep (workflowStepId : Nat) (reason : ByteString) (now : Nat)
    (db : ExecutionDb) : Except ByteString ExecutionDb :=
  if workflowStepId = 0 then
    .error (text "workflow_step_id must be > 0")
  else if db.steps.count (Skippable workflowStepId) = 0 then
    .error (text "skip precondition failed")
  else
    let skipped := { db with
      steps := db.steps.update (Skippable workflowStepId) (·.skip reason now) ⟨fun _ => rfl⟩ }
    match skipped.steps.find workflowStepId with
    | none => .error (text "failed to resolve workflow_instance_id")
    | some step =>
      .ok (emitLifecycleEvent step.workflowInstanceId (some workflowStepId)
        (text "Execution.WorkflowStepCompleted.v1") (text "skip") now
        (recomputeActivationOf step.workflowUnitActivationId now skipped))

/-- `WorkflowMarkStepMaterializedCommand`. -/
structure MarkStepMaterializedCommand where
  (workflowStepId jobSetId : Nat)
  inputRefKind : Option ByteString
  inputRefId : Option Nat

/-- The rows that `MarkStepMaterialized` updates. -/
def Materializable (workflowStepId : Nat) (step : WorkflowStepRow) : Prop :=
  step.workflowStepId = workflowStepId ∧ step.state ∈ [.ready, .materialized, .running]

instance (workflowStepId : Nat) : DecidablePred (Materializable workflowStepId) :=
  fun _ => inferInstanceAs (Decidable (_ ∧ _))

/-- Another step is mapped to the job set, which the unique index on
`job_set_id` does not allow. -/
def ExecutionDb.JobSetTaken (db : ExecutionDb) (workflowStepId jobSetId : Nat) : Prop :=
  ∃ step ∈ db.steps.rows, step.workflowStepId ≠ workflowStepId ∧ step.jobSetId = some jobSetId

instance (db : ExecutionDb) (workflowStepId jobSetId : Nat) :
    Decidable (db.JobSetTaken workflowStepId jobSetId) :=
  inferInstanceAs (Decidable (∃ _ ∈ _, _))

/-- The columns that `MarkStepMaterialized` writes. -/
def WorkflowStepRow.materialize (command : MarkStepMaterializedCommand)
    (now : Nat) (step : WorkflowStepRow) : WorkflowStepRow :=
  { step with
    state := .materialized
    jobSetId := some command.jobSetId
    startedAt := step.startedAt <|> some now
    inputRefKind := step.inputRefKind <|> command.inputRefKind
    inputRefId := step.inputRefId <|> command.inputRefId }

/-- The step update of `MarkStepMaterialized`, with the checks of the
constraints on `job_set_id`. -/
def materializeStep (command : MarkStepMaterializedCommand) (now : Nat)
    (db : ExecutionDb) : Except ByteString ExecutionDb :=
  if db.steps.count (Materializable command.workflowStepId) = 0 then
    .error (text "materialize precondition failed")
  else if db.JobSetTaken command.workflowStepId command.jobSetId then
    .error (text "UNIQUE constraint failed: exec_workflow_step.job_set_id")
  else if db.jobSets.find command.jobSetId = none then
    .error (text "FOREIGN KEY constraint failed")
  else
    .ok { db with
      steps := db.steps.update (Materializable command.workflowStepId)
        (·.materialize command now) ⟨fun _ => rfl⟩ }

/-- The columns that a started activation gets. -/
def WorkflowUnitActivationRow.start (now : Nat)
    (activation : WorkflowUnitActivationRow) : WorkflowUnitActivationRow :=
  { activation with
    state := .running
    startedAt := activation.startedAt <|> some now }

/-- The activation update of `MarkStepMaterialized`. -/
def startActivation (activationId : Option Nat) (now : Nat) (db : ExecutionDb) : ExecutionDb :=
  match activationId with
  | none => db
  | some activationId =>
    { db with
      activations := db.activations.update
        (fun activation =>
          activation.workflowUnitActivationId = activationId ∧
            activation.state ∈ [.waiting, .ready])
        (·.start now) ⟨fun _ => rfl⟩ }

def markStepMaterialized (command : MarkStepMaterializedCommand) (now : Nat)
    (db : ExecutionDb) : Except ByteString ExecutionDb :=
  if command.workflowStepId = 0 then
    .error (text "workflow_step_id must be > 0")
  else if command.jobSetId = 0 then
    .error (text "job_set_id must be > 0")
  else
    match db.steps.find command.workflowStepId with
    | none => .error (text "workflow step not found")
    | some step =>
      if step.jobSetId ≠ none ∧ step.jobSetId ≠ some command.jobSetId then
        .error (text <| "materialize precondition failed " ++
          "(step already mapped to a different job_set_id)")
      else if step.state ∈ [.completed, .failed, .skipped] then
        .error (text "materialize precondition failed (step is terminal)")
      else if step.state ≠ .materialized ∨ step.jobSetId = none then
        match materializeStep command now db with
        | .error message => .error message
        | .ok materialized =>
          .ok (emitLifecycleEvent step.workflowInstanceId (some command.workflowStepId)
            (text "Execution.WorkflowStepMaterialized.v1") (text "materialized") now
            (startActivation step.workflowUnitActivationId now materialized))
      else
        .ok (startActivation step.workflowUnitActivationId now db)

/-- `WorkflowCompleteStepCommand`. -/
structure CompleteStepCommand where
  workflowStepId : Nat
  completionState : ByteString
  outputRefKind : Option ByteString
  outputRefId : Option Nat

/-- The rows that `CompleteWorkflowStep` updates. -/
def Completable (workflowStepId : Nat) (step : WorkflowStepRow) : Prop :=
  step.workflowStepId = workflowStepId ∧ step.state ∈ [.materialized, .running, .ready]

instance (workflowStepId : Nat) : DecidablePred (Completable workflowStepId) :=
  fun _ => inferInstanceAs (Decidable (_ ∧ _))

/-- The columns that `CompleteWorkflowStep` writes. -/
def WorkflowStepRow.complete (command : CompleteStepCommand) (now : Nat)
    (step : WorkflowStepRow) : WorkflowStepRow :=
  { step with
    state := .completed
    completedAt := some now
    outputRefKind := step.outputRefKind <|> command.outputRefKind
    outputRefId := step.outputRefId <|> command.outputRefId }

def completeWorkflowStep (command : CompleteStepCommand) (now : Nat)
    (db : ExecutionDb) : Except ByteString ExecutionDb :=
  if command.workflowStepId = 0 then
    .error (text "workflow_step_id must be > 0")
  else if command.completionState ≠ text "COMPLETED" then
    .error (text "completion_state must be COMPLETED")
  else
    match db.steps.find command.workflowStepId with
    | none => .error (text "workflow step not found")
    | some step =>
      if step.state = .completed then .ok db
      else if step.state ∈ [.failed, .skipped] then
        .error (text <| "terminal precondition failed " ++
          "(step already terminal with different outcome)")
      else if db.steps.count (Completable command.workflowStepId) = 0 then
        .error (text "terminal precondition failed")
      else
        .ok (recomputeActivationOf step.workflowUnitActivationId now
          (emitLifecycleEvent step.workflowInstanceId (some command.workflowStepId)
            (text "Execution.WorkflowStepCompleted.v1") (text "terminal_completed") now
            { db with
              steps := db.steps.update (Completable command.workflowStepId)
                (·.complete command now) ⟨fun _ => rfl⟩ }))

def markStepBlocked (workflowStepId : Nat)
    (blockedReason : Option ByteString) (now : Nat) (db : ExecutionDb) :
    Except ByteString ExecutionDb :=
  if workflowStepId = 0 then
    .error (text "workflow_step_id must be > 0")
  else
    match db.steps.find workflowStepId with
    | none => .error (text "workflow step not found")
    | some step =>
      let blocked := { db with
        steps := db.steps.update
          (fun step => step.workflowStepId = workflowStepId)
          (fun step => { step with blockedReason }) ⟨fun _ => rfl⟩ }
      match blockedReason with
      | none => .ok blocked
      | some reason =>
        .ok (emitLifecycleEvent step.workflowInstanceId (some workflowStepId)
          (text "Execution.WorkflowStepBlocked.v1") reason now blocked)

/-- `WorkflowMarkStepReadyCommand`. -/
structure MarkStepReadyCommand where
  workflowInstanceId : Nat
  stepKey : ByteString
  priorityDelta : Int
  readyPriority : Option Int

/-- The step of an instance with a key. -/
def ExecutionDb.stepWithKey (db : ExecutionDb) (workflowInstanceId : Nat)
    (stepKey : ByteString) : Option WorkflowStepRow :=
  db.steps.rows.find? fun step =>
    step.workflowInstanceId = workflowInstanceId ∧ step.stepKey = stepKey

/-- The columns that an activation gets when one of its steps becomes
ready. -/
def WorkflowUnitActivationRow.makeReady (now : Nat)
    (activation : WorkflowUnitActivationRow) : WorkflowUnitActivationRow :=
  { activation with
    state := .ready
    readyAt := activation.readyAt <|> some now }

/-- The activation update of `MarkStepReady`. -/
def readyActivation (activationId : Option Nat) (now : Nat) (db : ExecutionDb) : ExecutionDb :=
  match activationId with
  | none => db
  | some activationId =>
    { db with
      activations := db.activations.update
        (fun activation =>
          activation.workflowUnitActivationId = activationId ∧ activation.state = .waiting)
        (·.makeReady now) ⟨fun _ => rfl⟩ }

/-- The columns that `MarkStepReady` writes. -/
def WorkflowStepRow.makeReady (now : Nat) (priority : Int)
    (step : WorkflowStepRow) : WorkflowStepRow :=
  { step with
    state := .ready
    readyAt := some now
    blockedReason := none
    priority }

/-- The rows that `MarkStepReady` updates. -/
def MadeReady (command : MarkStepReadyCommand) (step : WorkflowStepRow) : Prop :=
  step.workflowInstanceId = command.workflowInstanceId ∧
    step.stepKey = command.stepKey ∧ step.state = .waiting ∧ step.jobSetId = none

instance (command : MarkStepReadyCommand) : DecidablePred (MadeReady command) :=
  fun _ => inferInstanceAs (Decidable (_ ∧ _ ∧ _ ∧ _))

def markStepReady (command : MarkStepReadyCommand) (now : Nat)
    (db : ExecutionDb) : Except ByteString ExecutionDb :=
  if command.workflowInstanceId = 0 then
    .error (text "workflow_instance_id must be > 0")
  else if command.stepKey = [] then
    .error (text "step_key is required")
  else
    match db.stepWithKey command.workflowInstanceId command.stepKey with
    | none => .error (text "workflow step not found")
    | some step =>
      if step.state = .ready ∧ step.jobSetId = none then .ok db
      else if step.state ≠ .waiting ∨ step.jobSetId ≠ none then
        .error (text "ready precondition failed")
      else
        .ok (emitLifecycleEvent command.workflowInstanceId (some step.workflowStepId)
          (text "Execution.WorkflowStepReady.v1") (text "ready") now
          (readyActivation step.workflowUnitActivationId now
            { db with
              steps := db.steps.update (MadeReady command)
                (·.makeReady now (command.readyPriority.getD
                  (step.priority + command.priorityDelta)))
                ⟨fun _ => rfl⟩ }))

/-!
## The commands on workflow instances

The commands of `SqliteWorkflowOrchestrationCommandService` that name an
instance: cancel, resume, complete, fail and interrupt.
-/

/-- `WorkflowCancelInstanceCommand`. -/
structure CancelInstanceCommand where
  workflowInstanceId : Nat
  (reason requestedBy : ByteString)

variable (command : CancelInstanceCommand)

/-- The instances that `CancelWorkflowInstance` updates. -/
def Cancellable (workflowInstanceId : Nat) (row : WorkflowInstanceRow) : Prop :=
  row.workflowInstanceId = workflowInstanceId ∧
    row.state ∈ [.pending, .running, .failed, .interrupted, .cancelling]

instance (workflowInstanceId : Nat) : DecidablePred (Cancellable workflowInstanceId) :=
  fun _ => inferInstanceAs (Decidable (_ ∧ _))

/-- The columns that a beginning cancellation writes. -/
def WorkflowInstanceRow.beginCancel (reason : ByteString)
    (row : WorkflowInstanceRow) : WorkflowInstanceRow :=
  { row with state := .cancelling, failureText := some reason }

/-- The first update of `CancelWorkflowInstance`. -/
def beginCancellation (db : ExecutionDb) : ExecutionDb :=
  { db with
    instances := db.instances.update (Cancellable command.workflowInstanceId)
      (·.beginCancel command.reason) ⟨fun _ => rfl⟩ }

/-- The jobs that `cancel_unstarted` updates: `job_set_id=?1` is bound to the
id of the workflow instance. -/
def CancelsUnstarted (workflowInstanceId : Nat) (job : JobRow) : Prop :=
  job.jobSetId = workflowInstanceId ∧ job.state ∈ [.pendingWorkset, .queued]

instance (workflowInstanceId : Nat) : DecidablePred (CancelsUnstarted workflowInstanceId) :=
  fun _ => inferInstanceAs (Decidable (_ ∧ _))

/-- The columns that `cancel_unstarted` writes. -/
def JobRow.cancelUnstarted (reason : ByteString) (now : Nat) (job : JobRow) : JobRow :=
  { job with
    state := .canceled
    endedAt := some now
    errorCode := some (text "WORKFLOW_CANCELLED_BY_USER")
    errorText := some reason
    cancellation := { job.cancellation with
      state := some .resolved
      resolvedAt := some now
      resolutionCode := some (text "WORKFLOW_CANCELLED_BY_USER") } }

/-- `cancel_unstarted`. -/
def cancelUnstarted (command : CancelInstanceCommand) (now : Nat)
    (db : ExecutionDb) : ExecutionDb :=
  { db with
    jobs := db.jobs.update (CancelsUnstarted command.workflowInstanceId)
      (·.cancelUnstarted command.reason now) ⟨fun _ => rfl⟩ }

/-- The job is of a job set of the instance's steps. -/
def ExecutionDb.JobOf (db : ExecutionDb) (workflowInstanceId : Nat) (job : JobRow) : Prop :=
  ∃ step ∈ db.steps.rows, step.workflowInstanceId = workflowInstanceId ∧
    step.jobSetId = some job.jobSetId

instance (db : ExecutionDb) (workflowInstanceId : Nat) :
    DecidablePred (db.JobOf workflowInstanceId) :=
  fun _ => inferInstanceAs (Decidable (∃ _ ∈ _, _))

/-- The request row that `request_active` inserts for a job. -/
def cancellationRequestFor (now : Nat) (job : JobRow) (id : Nat) : CancellationRequestRow where
  cancellationRequestId := id
  jobId := job.jobId
  requestKey := text "workflow-cancel:" ++
    decimal command.workflowInstanceId ++ text ":" ++ decimal job.jobId
  reasonCode := text "WORKFLOW_CANCELLED_BY_USER"
  reasonText := some command.reason
  requestedBy := command.requestedBy
  causedByJobId := none
  terminalDisposition := .userWorkflowCancel
  requestedAt := now
  state := .requested
  deliveryAttempts := 0
  lastDeliveryErrorCode := none
  lastDeliveryErrorText := none
  lastDeliveryFailedAt := none
  deliveredAt := none
  resolvedAt := none
  resolutionCode := none

/-- The unique indexes on requests: one request for a job and a key, and one
open request for a job. -/
def RequestConflicts (request row : CancellationRequestRow) : Prop :=
  row.jobId = request.jobId ∧
    (row.requestKey = request.requestKey ∨ row.state ∈ [.requested, .delivered])

instance (request : CancellationRequestRow) : DecidablePred (RequestConflicts request) :=
  fun _ => inferInstanceAs (Decidable (_ ∧ _))

/-- `INSERT OR IGNORE` of the request for a job. -/
def insertOrIgnoreRequest (now : Nat)
    (requests : Table CancellationRequestRow (·.cancellationRequestId))
    (job : JobRow) : Table CancellationRequestRow (·.cancellationRequestId) :=
  if requests.count
      (RequestConflicts (cancellationRequestFor command now job 0)) = 0 then
    requests.insert (cancellationRequestFor command now job) ⟨fun _ => rfl⟩
  else requests

/-- The jobs that `request_active` selects. -/
def ExecutionDb.ActiveJobOf (db : ExecutionDb) (workflowInstanceId : Nat) (job : JobRow) : Prop :=
  db.JobOf workflowInstanceId job ∧ job.state ∈ [.claimed, .running]

instance (db : ExecutionDb) (workflowInstanceId : Nat) :
    DecidablePred (db.ActiveJobOf workflowInstanceId) :=
  fun _ => inferInstanceAs (Decidable (_ ∧ _))

/-- `request_active`. -/
def requestActive (now : Nat) (db : ExecutionDb) : ExecutionDb :=
  { db with
    requests := (db.jobs.select (db.ActiveJobOf command.workflowInstanceId)).foldl
      (insertOrIgnoreRequest command now) db.requests }

/-- A job of the step's job set that has not settled. -/
def ExecutionDb.HasUnsettledJob (db : ExecutionDb) (step : WorkflowStepRow) : Prop :=
  ∃ job ∈ db.jobs.rows, step.jobSetId = some job.jobSetId ∧ ¬ job.state.Settled

instance (db : ExecutionDb) : DecidablePred db.HasUnsettledJob :=
  fun _ => inferInstanceAs (Decidable (∃ _ ∈ _, _))

/-- The columns that the step updates of a cancellation write. -/
def WorkflowStepRow.cancel (now : Nat) (step : WorkflowStepRow) : WorkflowStepRow :=
  { step with
    state := .canceled
    blockedReason := some (text "WORKFLOW_CANCELLED_BY_USER")
    completedAt := some now }

/-- The steps that `cancel_steps` updates. -/
def CancelsStep (workflowInstanceId : Nat) (step : WorkflowStepRow) : Prop :=
  step.workflowInstanceId = workflowInstanceId ∧ step.state ∈ [.waiting, .ready]

instance (workflowInstanceId : Nat) : DecidablePred (CancelsStep workflowInstanceId) :=
  fun _ => inferInstanceAs (Decidable (_ ∧ _))

/-- `cancel_steps`. -/
def cancelSteps (workflowInstanceId now : Nat) (db : ExecutionDb) : ExecutionDb :=
  { db with
    steps := db.steps.update (CancelsStep workflowInstanceId) (·.cancel now) ⟨fun _ => rfl⟩ }

/-- The steps that `cancel_materialized_steps` updates. -/
def ExecutionDb.CancelsMaterializedStep (db : ExecutionDb)
    (workflowInstanceId : Nat) (step : WorkflowStepRow) : Prop :=
  step.workflowInstanceId = workflowInstanceId ∧
    step.state ∈ [.materialized, .running] ∧ ¬ db.HasUnsettledJob step

instance (db : ExecutionDb) (workflowInstanceId : Nat) :
    DecidablePred (db.CancelsMaterializedStep workflowInstanceId) :=
  fun _ => inferInstanceAs (Decidable (_ ∧ _ ∧ _))

/-- `cancel_materialized_steps`. -/
def cancelMaterializedSteps (workflowInstanceId now : Nat) (db : ExecutionDb) : ExecutionDb :=
  { db with
    steps := db.steps.update (db.CancelsMaterializedStep workflowInstanceId)
      (·.cancel now) ⟨fun _ => rfl⟩ }

/-- The activations that `cancel_activations` updates. -/
def CancelsActivation (workflowInstanceId : Nat) (activation : WorkflowUnitActivationRow) : Prop :=
  activation.workflowInstanceId = workflowInstanceId ∧ activation.state ∈ [.waiting, .ready]

instance (workflowInstanceId : Nat) : DecidablePred (CancelsActivation workflowInstanceId) :=
  fun _ => inferInstanceAs (Decidable (_ ∧ _))

/-- The columns that `cancel_activations` writes. -/
def WorkflowUnitActivationRow.cancel (reason : ByteString) (now : Nat)
    (activation : WorkflowUnitActivationRow) : WorkflowUnitActivationRow :=
  { activation with
    state := .canceled
    failureCode := some (text "WORKFLOW_CANCELLED_BY_USER")
    failureText := some reason
    completedAt := some now }

/-- `cancel_activations`. -/
def cancelActivations (now : Nat) (db : ExecutionDb) : ExecutionDb :=
  { db with
    activations := db.activations.update
      (CancelsActivation command.workflowInstanceId)
      (·.cancel command.reason now) ⟨fun _ => rfl⟩ }

/-- Every step of the instance has settled. -/
def ExecutionDb.StepsSettled (db : ExecutionDb) (workflowInstanceId : Nat) : Prop :=
  ∀ step ∈ db.steps.rows, step.workflowInstanceId = workflowInstanceId → step.state.Settled

instance (db : ExecutionDb) : DecidablePred db.StepsSettled :=
  fun _ => inferInstanceAs (Decidable (∀ _ ∈ _, _))

/-- The instances that a cancellation finalizes. -/
def ExecutionDb.FinalizesCancellation (db : ExecutionDb)
    (workflowInstanceId : Nat) (row : WorkflowInstanceRow) : Prop :=
  row.workflowInstanceId = workflowInstanceId ∧ row.state = .cancelling ∧
    db.StepsSettled workflowInstanceId

instance (db : ExecutionDb) (workflowInstanceId : Nat) :
    DecidablePred (db.FinalizesCancellation workflowInstanceId) :=
  fun _ => inferInstanceAs (Decidable (_ ∧ _ ∧ _))

/-- The columns that `finalize` writes. -/
def WorkflowInstanceRow.finishCancel (now : Nat) (row : WorkflowInstanceRow) :
    WorkflowInstanceRow :=
  { row with state := .canceled, completedAt := some now }

/-- `finalize`, with the event of a finalized cancellation. -/
def finalizeCancellation (workflowInstanceId now : Nat) (db : ExecutionDb) : ExecutionDb :=
  let finalized := { db with
    instances := db.instances.update
      (db.FinalizesCancellation workflowInstanceId)
      (·.finishCancel now) ⟨fun _ => rfl⟩ }
  if db.instances.count (db.FinalizesCancellation workflowInstanceId) = 1 then
    emitLifecycleEvent workflowInstanceId none
      (text "Execution.WorkflowInstanceCanceled.v1") (text "canceled") now
      finalized
  else finalized

/-- `CancelWorkflowInstance`. -/
def cancelWorkflowInstance (now : Nat) (db : ExecutionDb) : Except ByteString ExecutionDb :=
  if command.workflowInstanceId = 0 ∨ command.requestedBy = [] then
    .error (text "workflow cancellation requires an instance id and requester")
  else if db.instances.count (Cancellable command.workflowInstanceId) = 0 then
    .error (text "cancel precondition failed")
  else
    let begun := beginCancellation command db
    let unstarted := cancelUnstarted command now begun
    let requested := requestActive command now unstarted
    let waiting := cancelSteps command.workflowInstanceId now requested
    let materialized := cancelMaterializedSteps command.workflowInstanceId now waiting
    let activations := cancelActivations command now materialized
    .ok (finalizeCancellation command.workflowInstanceId now activations)

/-- The instances that `ResumeWorkflowInstance` updates. -/
def Resumable (workflowInstanceId : Nat) (row : WorkflowInstanceRow) : Prop :=
  row.workflowInstanceId = workflowInstanceId ∧ row.state ∈ [.failed, .interrupted]

instance (workflowInstanceId : Nat) : DecidablePred (Resumable workflowInstanceId) :=
  fun _ => inferInstanceAs (Decidable (_ ∧ _))

/-- The columns that `ResumeWorkflowInstance` writes. -/
def WorkflowInstanceRow.resume (now : Nat) (row : WorkflowInstanceRow) : WorkflowInstanceRow :=
  { row with
    state := .running
    failureText := none
    startedAt := row.startedAt <|> some now }

/-- `ResumeWorkflowInstance`. -/
def resumeWorkflowInstance (workflowInstanceId now : Nat)
    (db : ExecutionDb) : Except ByteString ExecutionDb :=
  if db.instances.count (Resumable workflowInstanceId) = 0 then
    .error (text "resume precondition failed")
  else
    .ok (emitLifecycleEvent workflowInstanceId none
      (text "Execution.WorkflowInstanceResumed.v1") (text "resumed") now
      { db with
        instances := db.instances.update (Resumable workflowInstanceId)
          (·.resume now) ⟨fun _ => rfl⟩ })

/-- What `CompleteWorkflowInstance` asks of the instance. -/
def ExecutionDb.Completes (db : ExecutionDb) (workflowInstanceId : Nat)
    (row : WorkflowInstanceRow) : Prop :=
  row.workflowInstanceId = workflowInstanceId ∧
    row.state ∈ [.pending, .running] ∧
    (∀ step ∈ db.steps.rows, step.workflowInstanceId = workflowInstanceId →
      step.state ∈ [.completed, .skipped]) ∧
    (∀ activation ∈ db.activations.rows, activation.workflowInstanceId = workflowInstanceId →
        activation.state ∉ [.failed, .interrupted, .canceled]) ∧
    (∀ job ∈ db.jobs.rows, db.JobOf workflowInstanceId job →
      job.state ∉ [.failed, .interrupted, .canceled])

instance (db : ExecutionDb) (workflowInstanceId : Nat) :
    DecidablePred (db.Completes workflowInstanceId) :=
  fun _ => inferInstanceAs (Decidable (_ ∧ _ ∧ _ ∧ _ ∧ _))

/-- The columns that `CompleteWorkflowInstance` writes. -/
def WorkflowInstanceRow.complete (now : Nat) (row : WorkflowInstanceRow) : WorkflowInstanceRow :=
  { row with state := .completed, completedAt := some now }

/-- `CompleteWorkflowInstance`. -/
def completeWorkflowInstance (workflowInstanceId now : Nat)
    (db : ExecutionDb) : Except ByteString ExecutionDb :=
  if workflowInstanceId = 0 then
    .error (text "workflow_instance_id must be > 0")
  else
    match db.instances.find workflowInstanceId with
    | none => .error (text "workflow instance not found")
    | some row =>
      if row.state = .completed then .ok db
      else if row.state ∈ [.failed, .interrupted] then
        .error (text <| "complete precondition failed " ++ "(instance must be resumed)")
      else if row.state = .canceled then
        .error (text "complete precondition failed (instance is final)")
      else if db.instances.count (db.Completes workflowInstanceId) = 0 then
        .error (text "complete precondition failed")
      else
        .ok (emitLifecycleEvent workflowInstanceId none
          (text "Execution.WorkflowInstanceCompleted.v1") (text "completed") now
          { db with
            instances := db.instances.update
              (db.Completes workflowInstanceId)
              (·.complete now) ⟨fun _ => rfl⟩ })

/-- `WorkflowFailInstanceCommand`. -/
structure FailInstanceCommand where
  workflowInstanceId : Nat
  workflowStepId : Option Nat
  (failureCode failureMessage : ByteString)

/-- The rows that the step update of `FailWorkflowInstance` selects. -/
def Failable (workflowStepId : Nat) (step : WorkflowStepRow) : Prop :=
  step.workflowStepId = workflowStepId ∧ step.state ∈ [.materialized, .running, .ready]

instance (workflowStepId : Nat) : DecidablePred (Failable workflowStepId) :=
  fun _ => inferInstanceAs (Decidable (_ ∧ _))

/-- The columns that the step update of `FailWorkflowInstance` writes. -/
def WorkflowStepRow.fail (now : Nat) (step : WorkflowStepRow) : WorkflowStepRow :=
  { step with
    state := .failed
    failedAt := step.failedAt <|> some now }

/-- The step part of `FailWorkflowInstance`. -/
def failStep (workflowInstanceId workflowStepId now : Nat)
    (db : ExecutionDb) : Except ByteString ExecutionDb :=
  if workflowStepId = 0 then
    .error (text "workflow_step_id must be > 0")
  else
    match db.steps.find workflowStepId with
    | none => .error (text "workflow step not found")
    | some step =>
      if step.workflowInstanceId ≠ workflowInstanceId then
        .error (text "workflow step does not belong to workflow instance")
      else if step.state ∈ [.completed, .skipped] then
        .error (text <| "terminal fail precondition failed " ++
          "(step already terminal with different outcome)")
      else if step.state = .failed then
        .ok (recomputeActivationOf step.workflowUnitActivationId now db)
      else if db.steps.count (Failable workflowStepId) = 0 then
        .error (text "terminal fail precondition failed for workflow step")
      else
        .ok (recomputeActivationOf step.workflowUnitActivationId now
          (emitLifecycleEvent workflowInstanceId (some workflowStepId)
            (text "Execution.WorkflowStepFailed.v1") (text "workflow_failed") now
            { db with
              steps := db.steps.update (Failable workflowStepId) (·.fail now) ⟨fun _ => rfl⟩ }))

/-- The instances that `FailWorkflowInstance` updates. -/
def InstanceFails (workflowInstanceId : Nat) (row : WorkflowInstanceRow) : Prop :=
  row.workflowInstanceId = workflowInstanceId ∧ row.state ∈ [.pending, .running, .failed]

instance (workflowInstanceId : Nat) : DecidablePred (InstanceFails workflowInstanceId) :=
  fun _ => inferInstanceAs (Decidable (_ ∧ _))

/-- The columns that `FailWorkflowInstance` writes. -/
def WorkflowInstanceRow.fail (command : FailInstanceCommand)
    (row : WorkflowInstanceRow) : WorkflowInstanceRow :=
  { row with
    state := .failed
    failureCode := some command.failureCode
    failureText := some command.failureMessage
    completedAt := none }

/-- `FailWorkflowInstance`. -/
def failWorkflowInstance (command : FailInstanceCommand) (now : Nat)
    (db : ExecutionDb) : Except ByteString ExecutionDb :=
  if command.workflowInstanceId = 0 then
    .error (text "workflow_instance_id must be > 0")
  else if command.failureCode = [] then
    .error (text "failure_code is required")
  else
    let stepFailed : Except ByteString ExecutionDb :=
      match command.workflowStepId with
      | none => .ok db
      | some workflowStepId => failStep command.workflowInstanceId workflowStepId now db
    match stepFailed with
    | .error message => .error message
    | .ok failed =>
      if failed.instances.count
          (InstanceFails command.workflowInstanceId) = 0 then
        .error (text "terminal fail precondition failed")
      else
        .ok (emitLifecycleEvent command.workflowInstanceId none
          (text "Execution.WorkflowInstanceFailed.v1") command.failureMessage now
          { failed with
            instances := failed.instances.update
              (InstanceFails command.workflowInstanceId)
              (·.fail command) ⟨fun _ => rfl⟩ })

/-- `WorkflowInterruptInstanceCommand`. -/
structure InterruptInstanceCommand where
  workflowInstanceId : Nat
  workflowStepId : Option Nat
  (interruptionCode interruptionMessage : ByteString)

/-- The rows that the step update of `InterruptWorkflowInstance` selects. -/
def StepInterrupts (workflowInstanceId workflowStepId : Nat) (step : WorkflowStepRow) : Prop :=
  step.workflowStepId = workflowStepId ∧ step.workflowInstanceId = workflowInstanceId ∧
    step.state ∈ [.ready, .materialized, .running, .interrupted]

instance (workflowInstanceId workflowStepId : Nat) :
    DecidablePred (StepInterrupts workflowInstanceId workflowStepId) :=
  fun _ => inferInstanceAs (Decidable (_ ∧ _ ∧ _))

/-- The columns that the activation update of `InterruptWorkflowInstance`
writes. -/
def WorkflowUnitActivationRow.interrupt (command : InterruptInstanceCommand)
    (activation : WorkflowUnitActivationRow) : WorkflowUnitActivationRow :=
  { activation with
    state := .interrupted
    failureCode := some command.interruptionCode
    failureText := some command.interruptionMessage
    completedAt := none }

/-- The activation update of `InterruptWorkflowInstance`. -/
def interruptActivation (command : InterruptInstanceCommand)
    (activationId : Option Nat) (db : ExecutionDb) : ExecutionDb :=
  { db with
    activations := db.activations.update
      (fun activation =>
        activationId = some activation.workflowUnitActivationId ∧
          activation.state ∈ [.waiting, .ready, .running, .interrupted])
      (·.interrupt command) ⟨fun _ => rfl⟩ }

/-- The columns that the step update of `InterruptWorkflowInstance` writes. -/
def WorkflowStepRow.interrupt (now : Nat) (step : WorkflowStepRow) : WorkflowStepRow :=
  { step with
    state := .interrupted
    failedAt := step.failedAt <|> some now }

/-- The step part of `InterruptWorkflowInstance`.  An update that selects no
row leaves the error text as it was, which is empty. -/
def interruptStep (command : InterruptInstanceCommand)
    (workflowStepId now : Nat) (db : ExecutionDb) : Except ByteString ExecutionDb :=
  match db.steps.find workflowStepId with
  | none => .error []
  | some step =>
    if db.steps.count (StepInterrupts command.workflowInstanceId workflowStepId) = 0 then
      .error []
    else
      .ok (interruptActivation command step.workflowUnitActivationId
        (emitLifecycleEvent command.workflowInstanceId (some workflowStepId)
          (text "Execution.WorkflowStepInterrupted.v1") command.interruptionMessage now
          { db with
            steps := db.steps.update
              (StepInterrupts command.workflowInstanceId workflowStepId)
              (·.interrupt now) ⟨fun _ => rfl⟩ }))

/-- The instances that `InterruptWorkflowInstance` updates. -/
def InstanceInterrupts (workflowInstanceId : Nat) (row : WorkflowInstanceRow) : Prop :=
  row.workflowInstanceId = workflowInstanceId ∧ row.state ∈ [.pending, .running, .interrupted]

instance (workflowInstanceId : Nat) : DecidablePred (InstanceInterrupts workflowInstanceId) :=
  fun _ => inferInstanceAs (Decidable (_ ∧ _))

/-- The columns that `InterruptWorkflowInstance` writes. -/
def WorkflowInstanceRow.interrupt (command : InterruptInstanceCommand)
    (row : WorkflowInstanceRow) : WorkflowInstanceRow :=
  { row with
    state := .interrupted
    failureCode := some command.interruptionCode
    failureText := some command.interruptionMessage
    completedAt := none }

/-- `InterruptWorkflowInstance`. -/
def interruptWorkflowInstance (command : InterruptInstanceCommand)
    (now : Nat) (db : ExecutionDb) : Except ByteString ExecutionDb :=
  if command.workflowInstanceId = 0 ∨ command.interruptionCode = [] then
    .error (text "workflow interruption identity is required")
  else
    let stepInterrupted : Except ByteString ExecutionDb :=
      match command.workflowStepId with
      | none => .ok db
      | some workflowStepId => interruptStep command workflowStepId now db
    match stepInterrupted with
    | .error message => .error message
    | .ok interrupted =>
      if interrupted.instances.count
          (InstanceInterrupts command.workflowInstanceId) = 0 then
        .error []
      else
        .ok (emitLifecycleEvent command.workflowInstanceId none
          (text "Execution.WorkflowInstanceInterrupted.v1") command.interruptionMessage now
          { interrupted with
            instances := interrupted.instances.update
              (InstanceInterrupts command.workflowInstanceId)
              (·.interrupt command) ⟨fun _ => rfl⟩ })

end Savor.Workflow


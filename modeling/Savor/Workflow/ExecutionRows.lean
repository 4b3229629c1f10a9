import Savor.Library.Table
import Savor.Model.Identifiers

/-!
# The tables of the execution database

The rows of the `exec_*` tables with the columns that the modelled commands
read or write.  Enumerated text columns are inductive types, a nullable column
is an `Option`, and times are milliseconds.
-/

namespace Savor.Workflow

open Library
open Program (ByteString)

/-- `exec_workflow_instance.state`. -/
inductive WorkflowInstanceState
  | pending
  | running
  | cancelling
  | completed
  | failed
  | interrupted
  | canceled
  deriving DecidableEq

/-- `exec_workflow_unit_activation.state`. -/
inductive WorkflowUnitActivationState
  | waiting
  | ready
  | running
  | completed
  | failed
  | interrupted
  | skipped
  | canceled
  deriving DecidableEq

/-- `exec_workflow_step.state`. -/
inductive WorkflowStepState
  | waiting
  | ready
  | materialized
  | running
  | completed
  | failed
  | interrupted
  | skipped
  | canceled
  deriving DecidableEq

/-- `exec_job.state`. -/
inductive JobState
  | pendingWorkset
  | queued
  | claimed
  | running
  | executionFinished
  | succeeded
  | succeededWinner
  | succeededDuplicate
  | failed
  | canceled
  | interrupted
  | superseded
  deriving DecidableEq

/-- A row of `exec_workflow_instance`. -/
structure WorkflowInstanceRow where
  workflowInstanceId : Nat
  workflowKind : ByteString
  state : WorkflowInstanceState
  rootScopeKind : ByteString
  rootScopeId : Option Nat
  createdBy : ByteString
  createdAt : Nat
  (startedAt completedAt : Option Nat)
  (failureCode failureText : Option ByteString)
  workflowGraphRevisionId : Option Nat
  launchKey : Option ByteString

/-- A row of `exec_workflow_unit_activation`. -/
structure WorkflowUnitActivationRow where
  (workflowUnitActivationId workflowInstanceId : Nat)
  parentWorkflowUnitActivationId : Option Nat
  (activationKey graphNodeKey unitKind displayName : ByteString)
  state : WorkflowUnitActivationState
  activationParamsJson : ByteString
  authoredRefKind : Option ByteString
  authoredRefId : Option Nat
  (failureCode failureText : Option ByteString)
  createdAt : Nat
  (readyAt startedAt completedAt failedAt : Option Nat)

/-- A row of `exec_workflow_step`. -/
structure WorkflowStepRow where
  (workflowStepId workflowInstanceId : Nat)
  workflowUnitActivationId : Option Nat
  (stepKey graphNodeKey stepKind : ByteString)
  state : WorkflowStepState
  (guardKind guardValue : Option ByteString)
  priority : Int
  (attempts maxAttempts : Nat)
  jobSetId : Option Nat
  inputRefKind : Option ByteString
  inputRefId : Option Nat
  outputRefKind : Option ByteString
  outputRefId : Option Nat
  blockedReason : Option ByteString
  createdAt : Nat
  (readyAt startedAt completedAt failedAt : Option Nat)
deriving DecidableEq

/-- A row of `exec_workflow_edge`. -/
structure WorkflowEdgeRow where
  (workflowEdgeId workflowInstanceId fromStepId toStepId : Nat)
  (conditionKind conditionValue : Option ByteString)
  createdAt : Nat

/-- A row of `exec_workflow_unit_activation_edge`. -/
structure WorkflowUnitActivationEdgeRow where
  (workflowUnitActivationEdgeId workflowInstanceId fromActivationId : Nat)
  toActivationId : Nat
  (outputKey inputKey conditionKind conditionValue : Option ByteString)
  createdAt : Nat

/-- A row of `exec_workflow_instance_input_binding`. -/
structure InputBindingRow where
  (inputBindingId workflowInstanceId workflowGraphRevisionId : Nat)
  (nodeKey inputKey dataKind refKind : ByteString)
  refId : Nat
  sourceKind : Option ByteString
  createdAt : Nat

/-- A row of `exec_workflow_instance_argument`. -/
structure ArgumentRow where
  (argumentId workflowInstanceId : Nat)
  (nodeKey argumentKey valueType : ByteString)
  integerValue : Option Int
  (textValue sourceKind : Option ByteString)
  createdAt : Nat

/-- A row of `exec_workflow_event`. -/
structure WorkflowEventRow where
  (workflowEventId workflowInstanceId : Nat)
  workflowStepId : Option Nat
  eventKind : ByteString
  eventAt : Nat
  message : Option ByteString

/-- A row of `exec_handler_dedupe`, written with a semantic key. -/
structure HandlerDedupeRow where
  dedupeId : Nat
  (handlerName semanticKey : ByteString)
  (firstSeenAt lastSeenAt : Nat)

inductive MaterializationState
  | materializing
  | populationSealed
  | publishingWorksets
  | worksetPublicationComplete

/-- A row of `exec_job_set`. -/
structure JobSetRow where
  (jobSetId programKind : Nat)
  expectedTotal : Option Nat
  materializationState : Option MaterializationState

inductive ResultProcessingState
  | pending
  | processing
  | processed

/-- `exec_job_cancellation_request.state` and `exec_job.cancellation_state`. -/
inductive CancellationState
  | requested
  | delivered
  | resolved
  deriving DecidableEq

/-- The `cancellation_*` columns of `exec_job`, the summary of its requests. -/
structure CancellationSummary where
  state : Option CancellationState
  (requestKey reasonCode reasonText requestedBy : Option ByteString)
  (causedByJobId requestedAt : Option Nat)
  deliveryAttempts : Nat
  (lastDeliveryErrorCode lastDeliveryErrorText : Option ByteString)
  (lastDeliveryFailedAt deliveredAt resolvedAt : Option Nat)
  resolutionCode : Option ByteString

/-- The summary of a job without requests. -/
def CancellationSummary.unset : CancellationSummary :=
  ⟨none, none, none, none, none, none, none, 0, none, none, none, none, none, none⟩

/-- The `worker_terminal_*` columns of `exec_job`. -/
structure WorkerTerminalColumns where
  executionFinishedAt : Option Nat
  (status fingerprint terminalId errorCode errorText : Option ByteString)
  unstarted : Option Bool
  resultBlobId : Option Nat

/-- The terminal columns of a job without a staged terminal. -/
def WorkerTerminalColumns.unset : WorkerTerminalColumns :=
  ⟨none, none, none, none, none, none, none, none⟩

/-- The `result_processing_*` columns of `exec_job`. -/
structure ResultProcessingColumns where
  state : Option ResultProcessingState
  (attempts failures : Nat)
  (errorCode errorText : Option ByteString)
  (failedAt processedAt : Option Nat)

/-- The processing columns of a job without a staged terminal. -/
def ResultProcessingColumns.unset : ResultProcessingColumns := ⟨none, 0, 0, none, none, none, none⟩

/-- A row of `exec_job`. -/
structure JobRow where
  (jobId jobSetId programKind programVersion : Nat)
  priority : Int
  state : JobState
  (attempts maxAttempts : Nat)
  claimedByToken : Option ByteString
  leaseExpiresAt : Option Nat
  queuedAt : Nat
  (startedAt endedAt : Option Nat)
  (errorCode errorText : Option ByteString)
  (worksetId worksetItemOrdinal dispatchAttemptId : Option Nat)
  reservedAttemptId : Option Nat
  terminal : WorkerTerminalColumns
  processing : ResultProcessingColumns
  cancellation : CancellationSummary

/-- A row of `exec_job_event`. -/
structure JobEventRow where
  (jobEventId jobId : Nat)
  eventKind : ByteString
  eventAt : Nat
  message : ByteString

/-- The columns of a progress row that a repeated report is compared on. -/
structure JobProgressReport where
  (dispatchAttemptId worksetItemOrdinal worksetId itemId invocationId : Nat)
  libraryId : ByteString
  libraryRevision : Nat
  progressPointId : ByteString
  /-- The routed sequence, the sample snapshot and the trigger epoch. -/
  routedProvenance : Option (Nat × Nat × Nat)
  schemaId : ByteString
  schemaRevision : Nat
  (schemaSha256 typedPayload displayText : ByteString)

/-- A row of `exec_job_progress`. -/
structure JobProgressRow where
  (jobProgressId jobId attemptId ordinal : Nat)
  report : JobProgressReport
  recordedAt : Nat

/-- A row of `exec_job_output`. -/
structure JobOutputRow where
  (jobOutputId jobId : Nat)
  (outputKey dataKind refKind : ByteString)
  (refId createdAt : Nat)

/-- What a workset keeps of its contract and bindings: columns that are copied
and compared as a whole. -/
structure WorksetContract where
  (contractKey moduleCanonicalId : ByteString)
  moduleVersion : Nat
  (moduleSha256 entrypoint verifiedDependencySha256 : ByteString)
  (runtimeProfileSha256 programPackageSha256 : ByteString)
  (derivedStateBinding captureBinding progressPlan : ByteString × ByteString)
  executionAffinityKey : Option ByteString
  estimatedPayloadBytes : Nat

/-- A row of `exec_workset`. -/
structure WorksetRow where
  (worksetId jobSetId workflowStepId : Nat)
  worksetKey : ByteString
  (programKind programVersion : Nat)
  contract : WorksetContract
  priority : Int
  (itemCount publishedAt : Nat)

/-- `exec_workset_dispatch_attempt.state`. -/
inductive DispatchState
  | claimed
  | active
  | draining
  | closed

/-- A row of `exec_workset_dispatch_attempt`. -/
structure DispatchRow where
  (dispatchAttemptId worksetId dispatchSequence : Nat)
  state : DispatchState
  claimToken : ByteString
  leaseExpiresAt : Option Nat
  claimedAt : Nat
  (dispatchedAt drainingAt closedAt : Option Nat)
  (closeReasonCode closeReasonText : Option ByteString)

/-- `exec_temp_blob.cleanup_state`. -/
inductive BlobCleanupState
  | live
  | deletePending
  | deleted

/-- A row of `exec_temp_blob`. -/
structure TempBlobRow where
  tempBlobId : Nat
  (relativePath sha256 : ByteString)
  sizeBytes : Nat
  format : ByteString
  cleanupState : BlobCleanupState
  createdAt : Nat
  deletePendingAt : Option Nat

inductive TerminalDisposition
  | userWorkflowCancel
  | automaticSupersession
  | automaticFailureCascade
deriving DecidableEq

/-- A row of `exec_job_cancellation_request`. -/
structure CancellationRequestRow where
  (cancellationRequestId jobId : Nat)
  (requestKey reasonCode : ByteString)
  reasonText : Option ByteString
  requestedBy : ByteString
  causedByJobId : Option Nat
  terminalDisposition : TerminalDisposition
  requestedAt : Nat
  state : CancellationState
  deliveryAttempts : Nat
  (lastDeliveryErrorCode lastDeliveryErrorText : Option ByteString)
  (lastDeliveryFailedAt deliveredAt resolvedAt : Option Nat)
  resolutionCode : Option ByteString
deriving DecidableEq

/-- A row of `exec_result_staging_cleanup`. -/
structure StagingCleanupRow where
  (cleanupId jobId : Nat)
  terminalSha256 : ByteString
  programKind : Nat
  (relativePath expectedSha256 : ByteString)
  (expectedSizeBytes createdAt : Nat)

/-- The execution database, without the row of `exec_work_availability`, which
no command reads. -/
structure ExecutionDb where
  instances : Table WorkflowInstanceRow (·.workflowInstanceId)
  activations : Table WorkflowUnitActivationRow (·.workflowUnitActivationId)
  activationEdges : Table WorkflowUnitActivationEdgeRow (·.workflowUnitActivationEdgeId)
  steps : Table WorkflowStepRow (·.workflowStepId)
  edges : Table WorkflowEdgeRow (·.workflowEdgeId)
  inputBindings : Table InputBindingRow (·.inputBindingId)
  arguments : Table ArgumentRow (·.argumentId)
  workflowEvents : Table WorkflowEventRow (·.workflowEventId)
  dedupe : Table HandlerDedupeRow (·.dedupeId)
  jobSets : Table JobSetRow (·.jobSetId)
  jobs : Table JobRow (·.jobId)
  jobEvents : Table JobEventRow (·.jobEventId)
  jobProgress : Table JobProgressRow (·.jobProgressId)
  jobOutputs : Table JobOutputRow (·.jobOutputId)
  worksets : Table WorksetRow (·.worksetId)
  dispatches : Table DispatchRow (·.dispatchAttemptId)
  blobs : Table TempBlobRow (·.tempBlobId)
  requests : Table CancellationRequestRow (·.cancellationRequestId)
  stagingCleanups : Table StagingCleanupRow (·.cleanupId)

/-- The database after the migrations, before the first command. -/
def ExecutionDb.empty : ExecutionDb where
  instances := .empty
  activations := .empty
  activationEdges := .empty
  steps := .empty
  edges := .empty
  inputBindings := .empty
  arguments := .empty
  workflowEvents := .empty
  dedupe := .empty
  jobSets := .empty
  jobs := .empty
  jobEvents := .empty
  jobProgress := .empty
  jobOutputs := .empty
  worksets := .empty
  dispatches := .empty
  blobs := .empty
  requests := .empty
  stagingCleanups := .empty

/-- A job in one of these states never runs again. -/
def JobState.Settled : JobState → Prop
  | .succeeded | .succeededWinner | .succeededDuplicate | .failed
  | .interrupted | .superseded | .canceled => True
  | _ => False

instance : DecidablePred JobState.Settled := fun state => by
  cases state <;> unfold JobState.Settled <;> infer_instance

/-- The states of a job that counts as succeeded. -/
def JobState.Succeeded : JobState → Prop
  | .succeeded | .succeededWinner | .succeededDuplicate => True
  | _ => False

instance : DecidablePred JobState.Succeeded := fun state => by
  cases state <;> unfold JobState.Succeeded <;> infer_instance

/-- `IsSettled` of a step state. -/
def WorkflowStepState.Settled : WorkflowStepState → Prop
  | .completed | .failed | .interrupted | .skipped | .canceled => True
  | _ => False

instance : DecidablePred WorkflowStepState.Settled := fun state => by
  cases state <;> unfold WorkflowStepState.Settled <;> infer_instance

end Savor.Workflow

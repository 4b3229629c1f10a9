import Mathlib.Data.List.Sort
import Savor.Workflow.WorkflowRuns

/-!
# Retried steps

The steps that the coordinator materializes next, and why a retried step of a
resumed instance is never one of them.
-/

namespace Savor.Workflow

open Library
open Program (ByteString text)

/-- `WorkflowReadyStepRecord`. -/
structure ReadyStepRecord where
  (workflowInstanceId workflowStepId : Nat)
  workflowUnitActivationId : Option Nat
  (stepKey graphNodeKey stepKind : ByteString)
  priority : Int
  inputRefKind : Option ByteString
  inputRefId : Option Nat

/-- The conditions of `ListReadySteps` on a step. -/
def ExecutionDb.ReadyToMaterialize (db : ExecutionDb) (step : WorkflowStepRow) : Prop :=
  (∃ row ∈ db.instances.rows,
    row.workflowInstanceId = step.workflowInstanceId ∧ row.state = .running) ∧
    step.state = .ready ∧ step.blockedReason = none ∧ step.jobSetId = none

instance (db : ExecutionDb) : DecidablePred db.ReadyToMaterialize :=
  fun _ => inferInstanceAs (Decidable ((∃ _ ∈ _, _) ∧ _))

/-- A time that is absent comes before every time. -/
def readyAtKey (step : WorkflowStepRow) : Nat :=
  match step.readyAt with
  | none => 0
  | some time => time + 1

/-- `ORDER BY s.priority DESC, s.ready_at_utc ASC, s.workflow_step_id ASC`. -/
def ReadyBefore (left right : WorkflowStepRow) : Prop :=
  right.priority < left.priority ∨
    left.priority = right.priority ∧
      (readyAtKey left < readyAtKey right ∨
        readyAtKey left = readyAtKey right ∧ left.workflowStepId ≤ right.workflowStepId)

instance : DecidableRel ReadyBefore := fun _ _ => inferInstanceAs (Decidable (_ ∨ _ ∧ (_ ∨ _ ∧ _)))

def listReadySteps (limit : Nat) (db : ExecutionDb) : List ReadyStepRecord :=
  (((db.steps.select db.ReadyToMaterialize).insertionSort ReadyBefore).take limit).map fun step =>
      { workflowInstanceId := step.workflowInstanceId
        workflowStepId := step.workflowStepId
        workflowUnitActivationId := step.workflowUnitActivationId
        stepKey := step.stepKey
        graphNodeKey := step.graphNodeKey
        stepKind := step.stepKind
        priority := step.priority
        inputRefKind := step.inputRefKind
        inputRefId := step.inputRefId }

variable {db : ExecutionDb} {record : ReadyStepRecord} {limit : Nat}

theorem ready_of_listed (listed : record ∈ listReadySteps limit db) :
    ∃ step ∈ db.steps.rows, step.workflowStepId = record.workflowStepId ∧
      db.ReadyToMaterialize step := by
  obtain ⟨step, taken, rfl⟩ := List.mem_map.mp listed
  have sorted := List.mem_of_mem_take taken
  rw [List.mem_insertionSort] at sorted
  obtain ⟨member, ready⟩ := (db.steps.mem_select _).mp sorted
  exact ⟨step, member, rfl, ready⟩

/-!
## Running again

What a retried step would have to do to run again, and that it never does:
`RetryFailedStep` keeps the job set of the failed attempt, and only steps
without one are listed.
-/

variable {workflowStepId : Nat} {step : WorkflowStepRow}

/-- The completion of the step for its jobs. -/
def completion (workflowStepId : Nat) : CompleteStepCommand :=
  ⟨workflowStepId, text "COMPLETED", none, none⟩

/-- Completing the step completes it, its activation when the other steps of
the activation are done, and the instance when all other steps are. -/
def Finishes (db : ExecutionDb) (workflowStepId : Nat) : Prop :=
  ∀ now, ∃ done step,
    completeWorkflowStep (completion workflowStepId) now db = .ok done ∧
      done.steps.find workflowStepId = some step ∧ step.state = .completed ∧
      ((∀ other ∈ done.steps.rows, other.workflowUnitActivationId = step.workflowUnitActivationId →
            other.state = .completed) → ∀ activation ∈ done.activations.rows,
          step.workflowUnitActivationId = some activation.workflowUnitActivationId →
            activation.state = .completed) ∧
      ((∀ other ∈ done.steps.rows,
          other.workflowInstanceId = step.workflowInstanceId → other.state = .completed) →
        ∃ finished row, completeWorkflowInstance step.workflowInstanceId now done = .ok finished ∧
            finished.instances.find step.workflowInstanceId = some row ∧ row.state = .completed)

/-- The step runs again: it is listed, it is materialized with every new job
set, and it finishes when the jobs of that job set succeed. -/
structure RunsAgain (db : ExecutionDb) (workflowStepId : Nat) : Prop where
  listed : ∃ limit, ∃ record ∈ listReadySteps limit db, record.workflowStepId = workflowStepId
  runs : ∀ (now jobSetId : Nat) (jobSets : Table JobSetRow (·.jobSetId))
    (jobs : Table JobRow (·.jobId)),
    jobSets.find jobSetId ≠ none →
    (∀ step ∈ db.steps.rows, step.jobSetId ≠ some jobSetId) →
    ∃ materialized,
      markStepMaterialized ⟨workflowStepId, jobSetId, none, none⟩ now
          { db with jobSets, jobs } = .ok materialized ∧
        ∀ settled : Table JobRow (·.jobId),
          (∀ job ∈ settled.rows, job.jobSetId = jobSetId → job.state.Succeeded) →
          Finishes { materialized with jobs := settled } workflowStepId

theorem jobSetId_of_retryFailedStep {now : Nat} {retried : ExecutionDb}
    (found : db.steps.find workflowStepId = some step)
    (retry : retryFailedStep workflowStepId now db = .ok retried) :
    ∃ row, retried.steps.find workflowStepId = some row ∧ row.jobSetId = step.jobSetId := by
  unfold retryFailedStep at retry
  iterate 2 (split at retry; · cases retry)
  dsimp only at retry
  split at retry
  · cases retry
  obtain rfl := Except.ok.inj retry
  rw [emitLifecycleEvent_steps]
  refine ⟨_, db.steps.find_update_of_some (Retryable workflowStepId)
    (·.retry now) ⟨fun _ => rfl⟩ found, ?_⟩
  split
  · rfl
  · rfl

theorem steps_of_resumeWorkflowInstance {workflowInstanceId now : Nat} {resumed : ExecutionDb}
    (resume : resumeWorkflowInstance workflowInstanceId now db = .ok resumed) :
    resumed.steps = db.steps := by
  unfold resumeWorkflowInstance at resume
  split at resume
  · cases resume
  · obtain rfl := Except.ok.inj resume
    rw [emitLifecycleEvent_steps]

theorem not_listed_of_jobSet (found : db.steps.find workflowStepId = some step)
    (mapped : step.jobSetId ≠ none) (listed : record ∈ listReadySteps limit db) :
    record.workflowStepId ≠ workflowStepId := by
  intro same
  obtain ⟨row, member, named, ready⟩ := ready_of_listed listed
  have here : db.steps.find workflowStepId = some row := by
    rw [← same, ← named]
    exact db.steps.find_key member
  obtain rfl := Option.some.inj (found.symm.trans here)
  exact mapped ready.2.2.2

/-- Some job of the step has failed or was interrupted. -/
def AttemptFailed (db : ExecutionDb) (step : WorkflowStepRow) : Prop :=
  ∃ job ∈ db.jobs.rows, step.jobSetId = some job.jobSetId ∧ job.state ∈ [.failed, .interrupted]

instance (db : ExecutionDb) : DecidablePred (AttemptFailed db) :=
  fun _ => inferInstanceAs (Decidable (∃ _ ∈ _, _))

theorem not_listed_of_retried {retryTime resumeTime : Nat} {retried resumed : ExecutionDb}
    (found : db.steps.find workflowStepId = some step) (failed : AttemptFailed db step)
    (retry : retryFailedStep workflowStepId retryTime db = .ok retried)
    (resume : resumeWorkflowInstance step.workflowInstanceId resumeTime retried = .ok resumed)
    (listed : record ∈ listReadySteps limit resumed) : record.workflowStepId ≠ workflowStepId := by
  obtain ⟨job, _, mapped, _⟩ := failed
  obtain ⟨row, rowFound, kept⟩ := jobSetId_of_retryFailedStep found retry
  rw [← steps_of_resumeWorkflowInstance resume] at rowFound
  have rowMapped : row.jobSetId ≠ none := by
    rw [kept, mapped]
    exact Option.some_ne_none _
  exact not_listed_of_jobSet rowFound rowMapped listed

/-- A step whose jobs failed never runs again, whatever state the database was
in when it was retried. -/
theorem not_runsAgain_of_retried {workflowStepId retryTime resumeTime : Nat}
    {db retried resumed : ExecutionDb} {step : WorkflowStepRow}
    (found : db.steps.find workflowStepId = some step) (failed : AttemptFailed db step)
    (retry : retryFailedStep workflowStepId retryTime db = .ok retried)
    (resume : resumeWorkflowInstance step.workflowInstanceId resumeTime retried = .ok resumed) :
    ¬ RunsAgain resumed workflowStepId := by
  intro again
  obtain ⟨limit, record, listed, named⟩ := again.listed
  exact not_listed_of_retried found failed retry resume listed named

namespace Sample

/-- An instance of one step with two attempts. -/
def singleStep : CreateInstanceCommand where
  workflowKind := text "workflow_graph"
  rootScopeKind := text "manual"
  rootScopeId := none
  workflowGraphRevisionId := some 1
  launchKey := none
  createdBy := text "test"
  createdAt := 0
  unitActivations := [{
    activationKey := text "a"
    parentActivationKey := none
    graphNodeKey := []
    unitKind := text "unit"
    displayName := []
    activationParamsJson := []
    authoredRefKind := none
    authoredRefId := none
    dependencies := []
    steps := [{
      stepKey := []
      stepKeySuffix := []
      stepKind := text "kind"
      dependencies := []
      guardKind := none
      guardValue := none
      priority := 0
      maxAttempts := 2
      inputRefKind := none
      inputRefId := none }] }]
  activationEdges := []
  inputBindings := []
  arguments := []

/-- A job of the first job set. -/
def job (state : JobState) : JobRow where
  jobId := 1
  jobSetId := 1
  programKind := 1
  programVersion := 1
  priority := 0
  state
  attempts := 1
  maxAttempts := 1
  claimedByToken := none
  leaseExpiresAt := none
  queuedAt := 1
  startedAt := none
  endedAt := none
  errorCode := none
  errorText := none
  worksetId := none
  worksetItemOrdinal := none
  dispatchAttemptId := none
  reservedAttemptId := none
  terminal := .unset
  processing := .unset
  cancellation := .unset

/-- A job set of the first step. -/
def jobSet (id : Nat) : JobSetRow := ⟨id, 1, some 1, some .worksetPublicationComplete⟩

theorem makesKey_jobSet : MakesKey JobSetRow.jobSetId jobSet := ⟨fun _ => rfl⟩

/-- The first job set. -/
def jobSets : Table JobSetRow (·.jobSetId) := Table.empty.insert jobSet makesKey_jobSet

/-- The job store with one job in a state. -/
def jobIn (state : JobState) : WorkflowCommand :=
  .jobStore jobSets ⟨[job state], List.pairwise_singleton _ _, by
    intro row member
    obtain rfl := List.mem_singleton.mp member
    exact Nat.succ_pos 0⟩

/-- The step is materialized, its job ends in a state, and the instance
fails. -/
def failedAttempt (state : JobState) : List WorkflowInput :=
  [⟨1, .createInstance singleStep⟩, ⟨2, jobIn .queued⟩, ⟨3, .materialize ⟨1, 1, none, none⟩⟩,
    ⟨4, jobIn state⟩, ⟨5, .failInstance ⟨1, some 1, text "WORKFLOW_STEP_FAILED", []⟩⟩]

end Sample

/-- A step whose attempt failed is retried, and its instance is resumed. -/
structure Retried (db resumed : ExecutionDb) (step : WorkflowStepRow)
    (workflowStepId : Nat) : Prop where
  found : db.steps.find workflowStepId = some step
  failed : AttemptFailed db step
  succeeds : ∃ retried, retryFailedStep workflowStepId 6 db = .ok retried ∧
    resumeWorkflowInstance step.workflowInstanceId 7 retried = .ok resumed

/-- The retry of the step and the resumption of its instance succeed. -/
def CanRetry (db : ExecutionDb) (workflowStepId : Nat) : Prop :=
  ∃ step ∈ db.steps.rows, step.workflowStepId = workflowStepId ∧
    AttemptFailed db step ∧
    ((retryFailedStep workflowStepId 6 db).bind
      (resumeWorkflowInstance step.workflowInstanceId 7)).isOk = true

instance (db : ExecutionDb) : DecidablePred (CanRetry db) :=
  fun _ => inferInstanceAs (Decidable (∃ _ ∈ _, _))

theorem CanRetry.retried (can : CanRetry db workflowStepId) :
    ∃ resumed step, Retried db resumed step workflowStepId := by
  obtain ⟨step, member, named, failed, succeeded⟩ := can
  have found : db.steps.find workflowStepId = some step := by
    rw [← named]
    exact db.steps.find_key member
  rcases retry : retryFailedStep workflowStepId 6 db with message | retried
  · rw [retry] at succeeded
    cases succeeded
  rw [retry, Except.bind] at succeeded
  rcases resume : resumeWorkflowInstance step.workflowInstanceId 7 retried
    with message | resumed
  · rw [resume] at succeeded
    cases succeeded
  · exact ⟨resumed, step, found, failed, retried, retry, resume⟩

/-- Commands that end with a retried step of a resumed instance reach the
state before the retry. -/
theorem reachable_of_replay (inputs : List WorkflowInput) (workflowStepId : Nat)
    (checked : (replay workflowStep ExecutionDb.empty inputs).any
      (fun reached => decide (CanRetry reached.2 workflowStepId)) = true) :
    ∃ db resumed step, Reachable db ∧ Retried db resumed step workflowStepId := by
  obtain ⟨history, db, run, can⟩ : ∃ history db,
      Run workflowStep (fun _ _ => True) ExecutionDb.empty history db ∧
        CanRetry db workflowStepId :=
    Run.exists_of_replay inputs _ checked
  obtain ⟨resumed, step, retried⟩ := can.retried
  exact ⟨db, resumed, step, ⟨history, run⟩, retried⟩

/-- A retried step of a resumed instance need not run again: the first attempt
leaves its job set behind. -/
theorem exists_retried_not_runsAgain : ∃ db resumed step, Reachable db ∧ Retried db resumed step 1 ∧
      ¬ RunsAgain resumed 1 := by
  obtain ⟨db, resumed, step, reachable, retried⟩ :=
    reachable_of_replay (Sample.failedAttempt .failed) 1 (by decide +kernel)
  refine ⟨db, resumed, step, reachable, retried, fun again => ?_⟩
  obtain ⟨retriedDb, retry, resume⟩ := retried.succeeds
  obtain ⟨limit, record, listed, named⟩ := again.listed
  exact not_listed_of_retried retried.found retried.failed retry resume listed named

/-- After an interrupted attempt the retried step does not run again
either. -/
theorem exists_interrupted_not_runsAgain :
    ∃ db resumed step, Reachable db ∧ Retried db resumed step 1 ∧ ¬ RunsAgain resumed 1 := by
  obtain ⟨db, resumed, step, reachable, retried⟩ :=
    reachable_of_replay (Sample.failedAttempt .interrupted) 1 (by decide +kernel)
  obtain ⟨retriedDb, retry, resume⟩ := retried.succeeds
  exact ⟨db, resumed, step, reachable, retried,
    not_runsAgain_of_retried retried.found retried.failed retry resume⟩

end Savor.Workflow


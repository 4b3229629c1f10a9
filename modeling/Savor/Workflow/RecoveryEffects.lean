import Savor.Workflow.WorkflowRuns
import Savor.Model.TextForms

/-!
# What a cancellation does

The effect of `CancelWorkflowInstance` on every table, row by row: jobs,
requests, steps, activations and the instance.
-/

namespace Savor.Workflow

open Library
open Program (ByteString text decimal)
open Table

/-- The database before the last statement of `CancelWorkflowInstance`. -/
def cancelledWork (command : CancelInstanceCommand) (now : Nat) (db : ExecutionDb) : ExecutionDb :=
  cancelActivations command now
    (cancelMaterializedSteps command.workflowInstanceId now
      (cancelSteps command.workflowInstanceId now
        (requestActive command now (cancelUnstarted command now (beginCancellation command db)))))

/-- When `CancelWorkflowInstance` succeeds, and with what. -/
theorem cancelWorkflowInstance_eq_ok
    {command : CancelInstanceCommand} (now : Nat) {db after : ExecutionDb} :
    cancelWorkflowInstance command now db = .ok after ↔
      command.workflowInstanceId ≠ 0 ∧ command.requestedBy ≠ [] ∧
        (∃ row ∈ db.instances.rows, Cancellable command.workflowInstanceId row) ∧
        after = finalizeCancellation command.workflowInstanceId now
          (cancelledWork command now db) := by
  unfold cancelWorkflowInstance
  split
  · rename_i refused
    constructor
    · nofun
    rintro ⟨named, requested, _⟩
    rcases refused with zero | empty
    · exact absurd zero named
    · exact absurd empty requested
  rename_i accepted
  rw [not_or] at accepted
  split
  · rename_i none
    rw [count_eq_zero_iff] at none
    constructor
    · nofun
    · rintro ⟨_, _, ⟨row, member, cancellable⟩, _⟩
      exact absurd cancellable (none row member)
  rename_i some
  rw [count_eq_zero_iff] at some
  push Not at some
  constructor
  · intro ended
    exact ⟨accepted.1, accepted.2, some, (Except.ok.inj ended).symm⟩
  · rintro ⟨_, _, _, rfl⟩
    rfl

section Finalize

variable (workflowInstanceId now : Nat) (db : ExecutionDb)

@[simp]
theorem finalizeCancellation_jobs :
    (finalizeCancellation workflowInstanceId now db).jobs = db.jobs := by
  unfold finalizeCancellation
  dsimp only
  split <;> rfl

@[simp]
theorem finalizeCancellation_requests : (finalizeCancellation workflowInstanceId now db).requests =
      db.requests := by
  unfold finalizeCancellation
  dsimp only
  split <;> rfl

@[simp]
theorem finalizeCancellation_steps :
    (finalizeCancellation workflowInstanceId now db).steps = db.steps := by
  unfold finalizeCancellation
  dsimp only
  split <;> rfl

@[simp]
theorem finalizeCancellation_activations :
    (finalizeCancellation workflowInstanceId now db).activations = db.activations := by
  unfold finalizeCancellation
  dsimp only
  split <;> rfl

@[simp]
theorem finalizeCancellation_dedupe :
    (finalizeCancellation workflowInstanceId now db).dedupe = db.dedupe := by
  unfold finalizeCancellation
  dsimp only
  split <;> rfl

@[simp]
theorem finalizeCancellation_instances :
    (finalizeCancellation workflowInstanceId now db).instances =
      db.instances.update (db.FinalizesCancellation workflowInstanceId)
        (·.finishCancel now) ⟨fun _ => rfl⟩ := by
  unfold finalizeCancellation
  dsimp only
  split <;> rfl

end Finalize

section Rows

variable (command : CancelInstanceCommand) (now : Nat) (db : ExecutionDb)

/-- What `cancel_unstarted` makes of a job. -/
def cancelledJob (job : JobRow) : JobRow :=
  if CancelsUnstarted command.workflowInstanceId job then
    job.cancelUnstarted command.reason now
  else job

theorem cancelledWork_jobs : (cancelledWork command now db).jobs.rows =
      db.jobs.rows.map (cancelledJob command now) := rfl

/-- A job of the step's job set that has not settled and that
`cancel_unstarted` leaves alone. -/
def ExecutionDb.Lingers (workflowInstanceId : Nat) (step : WorkflowStepRow) : Prop :=
  ∃ job ∈ db.jobs.rows, step.jobSetId = some job.jobSetId ∧
    ¬ job.state.Settled ∧ ¬ CancelsUnstarted workflowInstanceId job

instance (workflowInstanceId : Nat) : DecidablePred (db.Lingers workflowInstanceId) :=
  fun _ => inferInstanceAs (Decidable (∃ _ ∈ _, _))

theorem not_settled_cancelledJob {job : JobRow} : ¬ (cancelledJob command now job).state.Settled ↔
      ¬ job.state.Settled ∧ ¬ CancelsUnstarted command.workflowInstanceId job := by
  unfold cancelledJob
  split
  · rename_i unstarted
    constructor
    · intro running
      exact absurd trivial running
    · rintro ⟨_, started⟩
      exact absurd unstarted started
  · rename_i started
    exact ⟨fun running => ⟨running, started⟩, And.left⟩

theorem cancelledJob_jobId (job : JobRow) : (cancelledJob command now job).jobId = job.jobId := by
  unfold cancelledJob
  split <;> rfl

theorem cancelledJob_jobSetId (job : JobRow) :
    (cancelledJob command now job).jobSetId = job.jobSetId := by
  unfold cancelledJob
  split <;> rfl

variable {step : WorkflowStepRow}

theorem hasUnsettledJob_iff_lingers : (cancelledWork command now db).HasUnsettledJob step ↔
      db.Lingers command.workflowInstanceId step := by
  unfold ExecutionDb.HasUnsettledJob ExecutionDb.Lingers
  rw [cancelledWork_jobs]
  constructor
  · rintro ⟨job, member, mapped, running⟩
    obtain ⟨old, oldMember, rfl⟩ := List.mem_map.mp member
    rw [cancelledJob_jobSetId] at mapped
    exact ⟨old, oldMember, mapped, (not_settled_cancelledJob command now).mp running⟩
  rintro ⟨job, member, mapped, running⟩
  refine ⟨cancelledJob command now job, List.mem_map_of_mem member, ?_,
    (not_settled_cancelledJob command now).mpr running⟩
  rw [cancelledJob_jobSetId]
  exact mapped

/-- The steps that a cancellation cancels. -/
def ExecutionDb.StepCancels (workflowInstanceId : Nat) (step : WorkflowStepRow) : Prop :=
  step.workflowInstanceId = workflowInstanceId ∧
    (step.state ∈ [.waiting, .ready] ∨
      step.state ∈ [.materialized, .running] ∧ ¬ db.Lingers workflowInstanceId step)

instance (workflowInstanceId : Nat) : DecidablePred (db.StepCancels workflowInstanceId) :=
  fun _ => inferInstanceAs (Decidable (_ ∧ (_ ∨ _ ∧ _)))

/-- What a cancellation makes of a step. -/
def cancelledStep (step : WorkflowStepRow) : WorkflowStepRow :=
  if db.StepCancels command.workflowInstanceId step then step.cancel now
  else step

/-- The two step updates together. -/
theorem cancelledWork_steps : (cancelledWork command now db).steps.rows =
      db.steps.rows.map (cancelledStep command now db) := by
  have composed : (cancelledWork command now db).steps.rows =
      (db.steps.rows.map fun step =>
        if CancelsStep command.workflowInstanceId step then step.cancel now
        else step).map fun step =>
          if (cancelledWork command now db).CancelsMaterializedStep
              command.workflowInstanceId step then step.cancel now
          else step := rfl
  rw [composed, List.map_map]
  apply List.map_congr_left
  intro step _
  rw [Function.comp_apply]
  unfold cancelledStep
  by_cases waiting : CancelsStep command.workflowInstanceId step
  · simp only [if_pos waiting]
    have cancels : db.StepCancels command.workflowInstanceId step := ⟨waiting.1, .inl waiting.2⟩
    rw [if_neg, if_pos cancels]
    rintro ⟨_, inFlight, _⟩
    exact absurd inFlight (by decide : WorkflowStepState.canceled ∉ [.materialized, .running])
  simp only [if_neg waiting]
  congr 1
  unfold ExecutionDb.CancelsMaterializedStep ExecutionDb.StepCancels
  rw [hasUnsettledJob_iff_lingers, eq_iff_iff]
  constructor
  · rintro ⟨own, inFlight, idle⟩
    exact ⟨own, .inr ⟨inFlight, idle⟩⟩
  rintro ⟨own, waits | ⟨inFlight, idle⟩⟩
  · exact absurd ⟨own, waits⟩ waiting
  · exact ⟨own, inFlight, idle⟩

theorem cancelledStep_id (step : WorkflowStepRow) :
    (cancelledStep command now db step).workflowStepId = step.workflowStepId := by
  unfold cancelledStep
  split <;> rfl

theorem cancelledStep_instance (step : WorkflowStepRow) :
    (cancelledStep command now db step).workflowInstanceId = step.workflowInstanceId := by
  unfold cancelledStep
  split <;> rfl

theorem cancelledStep_jobSetId (step : WorkflowStepRow) :
    (cancelledStep command now db step).jobSetId = step.jobSetId := by
  unfold cancelledStep
  split <;> rfl

theorem cancelledStep_settled_iff (own : step.workflowInstanceId = command.workflowInstanceId) :
    (cancelledStep command now db step).state.Settled ↔
      ¬ (step.state ∈ [.materialized, .running] ∧ db.Lingers command.workflowInstanceId step) := by
  unfold cancelledStep
  split
  · rename_i cancels
    constructor
    · rintro - ⟨inFlight, lingers⟩
      rcases cancels.2 with waiting | ⟨_, idle⟩
      · revert waiting inFlight
        cases step.state <;> decide
      · exact idle lingers
    · intro _
      trivial
  · rename_i stays
    unfold ExecutionDb.StepCancels at stays
    constructor
    · rintro settled ⟨inFlight, _⟩
      revert settled inFlight
      cases step.state <;> decide
    intro idle
    by_contra running
    apply stays
    refine ⟨own, ?_⟩
    by_cases waiting : step.state ∈ [.waiting, .ready]
    · exact .inl waiting
    have inFlight : step.state ∈ [.materialized, .running] := by
      revert running waiting
      cases step.state <;> decide
    exact .inr ⟨inFlight, fun lingers => idle ⟨inFlight, lingers⟩⟩

theorem cancelledStep_of_lingers (inFlight : step.state ∈ [.materialized, .running])
    (lingers : db.Lingers command.workflowInstanceId step) :
    cancelledStep command now db step = step := by
  unfold cancelledStep
  rw [if_neg]
  rintro ⟨_, waiting | ⟨_, idle⟩⟩
  · revert waiting inFlight
    cases step.state <;> decide
  · exact idle lingers

/-- What a cancellation makes of an activation. -/
def cancelledActivation (activation : WorkflowUnitActivationRow) : WorkflowUnitActivationRow :=
  if CancelsActivation command.workflowInstanceId activation then
    activation.cancel command.reason now
  else activation

theorem cancelledWork_activations : (cancelledWork command now db).activations.rows =
      db.activations.rows.map (cancelledActivation command now) := rfl

end Rows

/-! ## Requests -/

/-- The requests of a job. -/
def requestsOf (requests : Table CancellationRequestRow (·.cancellationRequestId))
    (jobId : Nat) : List CancellationRequestRow :=
  requests.rows.filter fun row => row.jobId = jobId

/-- A request blocks the request of a cancellation for its job: it has the
same key or is open. -/
def BlocksRequest (command : CancelInstanceCommand) (job : JobRow)
    (row : CancellationRequestRow) : Prop :=
  row.requestKey = (cancellationRequestFor command 0 job 0).requestKey ∨
    row.state ∈ [.requested, .delivered]

instance (command : CancelInstanceCommand) (job : JobRow) :
    DecidablePred (BlocksRequest command job) :=
  fun _ => inferInstanceAs (Decidable (_ ∨ _))

/-- The request that a cancellation adds for a job, under an id, to the
requests that the job has. -/
def requestAdded (command : CancelInstanceCommand) (now : Nat)
    (requests : List CancellationRequestRow) (job : JobRow) (id : Nat) :
    List CancellationRequestRow :=
  if ∀ row ∈ requests, ¬ BlocksRequest command job row then
    [cancellationRequestFor command now job id]
  else []

section Requests

variable (command : CancelInstanceCommand) (now : Nat)
  (requests : Table CancellationRequestRow (·.cancellationRequestId))

/-- A request conflicts with the new one exactly if it is of the same job and
blocks it. -/
theorem requestConflicts_iff (job : JobRow) (row : CancellationRequestRow) :
    RequestConflicts (cancellationRequestFor command now job 0) row ↔
      row.jobId = job.jobId ∧ BlocksRequest command job row :=
  Iff.rfl

theorem requestsOf_insertOrIgnoreRequest_of_ne {job : JobRow} {jobId : Nat}
    (elsewhere : job.jobId ≠ jobId) :
    requestsOf (insertOrIgnoreRequest command now requests job) jobId =
      requestsOf requests jobId := by
  unfold insertOrIgnoreRequest
  split
  · change List.filter _ (requests.rows ++
      [cancellationRequestFor command now job requests.nextId]) = _
    rw [List.filter_append, List.filter_cons_of_neg, List.filter_nil, List.append_nil]
    · rfl
    · intro own
      exact elsewhere (of_decide_eq_true own)
  · rfl

/-- The requests of the job get the new one, unless one of them blocks it. -/
theorem requestsOf_insertOrIgnoreRequest (job : JobRow) :
    requestsOf (insertOrIgnoreRequest command now requests job) job.jobId =
      requestsOf requests job.jobId ++
        requestAdded command now (requestsOf requests job.jobId) job requests.nextId := by
  unfold insertOrIgnoreRequest requestAdded
  split
  · rename_i free
    rw [count_eq_zero_iff] at free
    rw [if_pos]
    · change List.filter _ (requests.rows ++
        [cancellationRequestFor command now job requests.nextId]) = _
      rw [List.filter_append, List.filter_cons_of_pos, List.filter_nil]
      · rfl
      · exact decide_eq_true rfl
    intro row member blocks
    obtain ⟨member, named⟩ := List.mem_filter.mp member
    exact free row member ((requestConflicts_iff command now job row).mpr
      ⟨of_decide_eq_true named, blocks⟩)
  · rename_i taken
    rw [count_eq_zero_iff] at taken
    rw [if_neg, List.append_nil]
    intro free
    apply taken
    intro row member conflicts
    obtain ⟨named, blocks⟩ := (requestConflicts_iff command now job row).mp conflicts
    exact free row (List.mem_filter.mpr ⟨member, decide_eq_true named⟩) blocks

theorem requestsOf_foldl_of_notMem {jobs : List JobRow} {jobId : Nat}
    (absent : ∀ job ∈ jobs, job.jobId ≠ jobId) :
    requestsOf (jobs.foldl (insertOrIgnoreRequest command now) requests)
      jobId = requestsOf requests jobId := by
  induction jobs generalizing requests with
  | nil => rfl
  | cons first rest ih =>
    rw [List.foldl_cons, ih _ fun job member => absent job (List.mem_cons_of_mem _ member)]
    exact requestsOf_insertOrIgnoreRequest_of_ne command now requests
      (absent first List.mem_cons_self)

/-- The requests of a job of the list after those of all jobs of the list were
inserted. -/
theorem requestsOf_foldl {jobs : List JobRow} (distinct : (jobs.map (·.jobId)).Nodup)
    {job : JobRow} (member : job ∈ jobs) : ∃ id, requestsOf
        (jobs.foldl (insertOrIgnoreRequest command now) requests) job.jobId =
      requestsOf requests job.jobId ++
        requestAdded command now (requestsOf requests job.jobId) job id := by
  induction jobs generalizing requests with
  | nil => cases member
  | cons first rest ih =>
    rw [List.map_cons, List.nodup_cons] at distinct
    rw [List.foldl_cons]
    rcases List.mem_cons.mp member with rfl | later
    · refine ⟨requests.nextId, ?_⟩
      rw [requestsOf_foldl_of_notMem command now, requestsOf_insertOrIgnoreRequest]
      rintro other otherMember same
      apply distinct.1
      rw [← same]
      exact List.mem_map_of_mem otherMember
    have elsewhere : first.jobId ≠ job.jobId := by
      intro same
      apply distinct.1
      rw [same]
      exact List.mem_map_of_mem later
    obtain ⟨id, ended⟩ := ih (insertOrIgnoreRequest command now requests first) distinct.2 later
    rw [requestsOf_insertOrIgnoreRequest_of_ne command now requests elsewhere] at ended
    exact ⟨id, ended⟩

end Requests

/-!
## What the recovery pass does

Every step with a verdict gets it once: the dedupe key of a step and a verdict
is recorded when the step is settled, and a step whose key is recorded is left
as it is.
-/

variable {found : WorkflowStepRow × WorkflowStepState}

open Program (ByteString text decimal decimal_append_cons_injective)

variable {verdict : WorkflowStepState} {jobs : List JobRow}

theorem recoveryKey_injective {stepId otherId : Nat} {otherVerdict : WorkflowStepState}
    (same : recoveryKey stepId verdict = recoveryKey otherId otherVerdict) : stepId = otherId := by
  unfold recoveryKey at same
  have spelled : text ":terminal:" = 58 :: text "terminal:" := by decide
  rw [spelled, List.append_assoc, List.append_assoc, List.append_assoc,
    List.append_assoc, List.append_cancel_left_eq] at same
  exact decimal_append_cons_injective (by decide) same

/-! ## Verdicts -/

/-- Job states that keep a step from getting a verdict. -/
def Forestalls : WorkflowStepState → JobState → Prop
  | .failed, _ => False
  | .interrupted, state => state = .failed
  | .canceled, state => state ∈ [.failed, .interrupted]
  | .completed, state => state ∈ [.failed, .interrupted, .canceled]
  | _, _ => True

instance : DecidableRel Forestalls := fun verdict state => by
  cases verdict <;> unfold Forestalls <;> infer_instance

/-- The verdicts of the recovery query. -/
def recoveryVerdicts : List WorkflowStepState := [.failed, .interrupted, .canceled, .completed]

/-- The job state that brings a verdict about. -/
def decidingState : WorkflowStepState → JobState
  | .failed => .failed
  | .interrupted => .interrupted
  | .canceled => .canceled
  | _ => .succeeded

theorem not_forestalls_of_recoveryVerdict (decided : recoveryVerdict jobs = some verdict) :
    verdict ∈ recoveryVerdicts ∧ ∀ job ∈ jobs, ¬ Forestalls verdict job.state := by
  unfold recoveryVerdict at decided
  split at decided
  · cases decided
    exact ⟨by decide, fun _ _ => id⟩
  rename_i noneFailed
  split at decided
  · cases decided
    exact ⟨by decide, fun job member failed => noneFailed ⟨job, member, failed⟩⟩
  rename_i noneInterrupted
  split at decided
  · cases decided
    refine ⟨by decide, fun job member worse => ?_⟩
    rcases List.mem_pair.mp worse with failed | interrupted
    · exact noneFailed ⟨job, member, failed⟩
    · exact noneInterrupted ⟨job, member, interrupted⟩
  rename_i noneCanceled
  split at decided
  · cases decided
    refine ⟨by decide, fun job member worse => ?_⟩
    rcases List.mem_cons.mp worse with failed | worse
    · exact noneFailed ⟨job, member, failed⟩
    rcases List.mem_pair.mp worse with interrupted | canceled
    · exact noneInterrupted ⟨job, member, interrupted⟩
    · exact noneCanceled ⟨job, member, canceled⟩
  split at decided
  · cases decided
    exact ⟨by decide, fun _ _ => id⟩
  · cases decided

/-- Settled jobs of which none forestalls a verdict, and one brings it about,
have it. -/
theorem recoveryVerdict_of_deciding (known : verdict ∈ recoveryVerdicts)
    (settled : ∀ job ∈ jobs, job.state.Settled)
    (unblocked : ∀ job ∈ jobs, ¬ Forestalls verdict job.state) (job : JobRow) (member : job ∈ jobs)
    (decides : job.state = decidingState verdict) : recoveryVerdict jobs = some verdict := by
  unfold recoveryVerdict
  simp only [recoveryVerdicts, List.mem_cons, List.not_mem_nil, or_false] at known
  rcases known with rfl | rfl | rfl | rfl
  · rw [if_pos ⟨job, member, decides⟩]
  · rw [if_neg, if_pos ⟨job, member, decides⟩]
    rintro ⟨other, otherMember, failed⟩
    exact unblocked other otherMember failed
  · rw [if_neg, if_neg, if_pos ⟨job, member, decides⟩]
    · rintro ⟨other, otherMember, interrupted⟩
      exact unblocked other otherMember (List.mem_pair.mpr (.inr interrupted))
    · rintro ⟨other, otherMember, failed⟩
      exact unblocked other otherMember (List.mem_pair.mpr (.inl failed))
  have clean : ∀ other ∈ jobs, other.state ≠ .failed ∧
      other.state ≠ .interrupted ∧ other.state ≠ .canceled := by
    intro other otherMember
    have free := unblocked other otherMember
    revert free
    cases other.state <;> decide
  rw [if_neg, if_neg, if_neg, if_pos]
  · refine ⟨List.ne_nil_of_mem member, ?_, job, member, ?_⟩
    · intro other otherMember
      have ended := settled other otherMember
      have free := unblocked other otherMember
      revert ended free
      cases other.state <;> decide
    · rw [decides]
      exact trivial
  · rintro ⟨other, otherMember, canceled⟩
    exact (clean other otherMember).2.2 canceled
  · rintro ⟨other, otherMember, interrupted⟩
    exact (clean other otherMember).2.1 interrupted
  · rintro ⟨other, otherMember, failed⟩
    exact (clean other otherMember).1 failed

theorem exists_recoveryVerdict (nonempty : jobs ≠ []) (settled : ∀ job ∈ jobs, job.state.Settled) :
    ∃ verdict, recoveryVerdict jobs = some verdict := by
  unfold recoveryVerdict
  split
  · exact ⟨_, rfl⟩
  rename_i noneFailed
  split
  · exact ⟨_, rfl⟩
  rename_i noneInterrupted
  split
  · exact ⟨_, rfl⟩
  rename_i noneCanceled
  have rest : ∀ job ∈ jobs,
      job.state.Succeeded ∨ job.state = .superseded := by
    intro job member
    have ended := settled job member
    have failed : job.state ≠ .failed := fun failed => noneFailed ⟨job, member, failed⟩
    have interrupted : job.state ≠ .interrupted := fun interrupted =>
      noneInterrupted ⟨job, member, interrupted⟩
    have canceled : job.state ≠ .canceled := fun canceled => noneCanceled ⟨job, member, canceled⟩
    revert ended failed interrupted canceled
    cases job.state <;> decide
  split
  · exact ⟨_, rfl⟩
  rename_i noneSucceeded
  rw [if_pos]
  · exact ⟨_, rfl⟩
  refine ⟨nonempty, fun job member => ?_⟩
  rcases rest job member with succeeded | superseded
  · exact absurd ⟨nonempty, rest, job, member, succeeded⟩ noneSucceeded
  · exact superseded

/-! ## The loop -/

/-- What a round of the recovery loop keeps. -/
structure KeptByRecovery (before after : ExecutionDb) : Prop where
  jobs : after.jobs = before.jobs
  activations : after.activations = before.activations
  edges : after.edges = before.edges
  activationEdges : after.activationEdges = before.activationEdges

namespace KeptByRecovery

theorem refl (db : ExecutionDb) : KeptByRecovery db db := ⟨rfl, rfl, rfl, rfl⟩

theorem trans {first second third : ExecutionDb} (earlier : KeptByRecovery first second)
    (later : KeptByRecovery second third) : KeptByRecovery first third where
  jobs := later.jobs.trans earlier.jobs
  activations := later.activations.trans earlier.activations
  edges := later.edges.trans earlier.edges
  activationEdges := later.activationEdges.trans earlier.activationEdges

end KeptByRecovery

section Round

variable (now : Nat) (db : ExecutionDb)

/-- A round for a recorded key changes only the dedupe rows. -/
theorem recoverStep_of_recovered
    (recovered : db.Recovered (recoveryKey found.1.workflowStepId found.2)) :
    recoverStep now db found = touchDedupe (recoveryKey found.1.workflowStepId found.2) now db :=
  if_pos recovered

theorem recovered_touchDedupe (touched semanticKey : ByteString) :
    (touchDedupe touched now db).Recovered semanticKey ↔ db.Recovered semanticKey := by
  unfold ExecutionDb.Recovered touchDedupe
  constructor
  · rintro ⟨row, member, handler, named⟩
    obtain ⟨old, oldMember, rfl⟩ := List.mem_map.mp member
    refine ⟨old, oldMember, ?_, ?_⟩
    · revert handler
      split <;> exact id
    · revert named
      split <;> exact id
  rintro ⟨row, member, handler, named⟩
  refine ⟨_, List.mem_map.mpr ⟨row, member, rfl⟩, ?_, ?_⟩
  · split <;> exact handler
  · split <;> exact named

/-- A round for a new key. -/
theorem recoverStep_of_not_recovered
    (fresh : ¬ db.Recovered (recoveryKey found.1.workflowStepId found.2)) :
    (recoverStep now db found).steps = db.steps.update
        (fun step => step.workflowStepId = found.1.workflowStepId)
        (·.recover found.2 now) ⟨fun _ => rfl⟩ ∧
      (recoverStep now db found).instances =
        (parkInstance found.1.workflowInstanceId found.2 db).instances ∧
      (recoverStep now db found).dedupe = db.dedupe.insert
        (fun id => ⟨id, recoveryHandler, recoveryKey found.1.workflowStepId found.2, now, now⟩)
        ⟨fun _ => rfl⟩ := by
  unfold recoverStep
  dsimp only
  rw [if_neg fresh]
  unfold parkInstance
  split
  · exact ⟨rfl, rfl, rfl⟩
  · exact ⟨rfl, rfl, rfl⟩

/-- The keys that are recorded after a round. -/
theorem recovered_recoverStep
    (found : WorkflowStepRow × WorkflowStepState) (semanticKey : ByteString) :
    (recoverStep now db found).Recovered semanticKey ↔
      db.Recovered semanticKey ∨ semanticKey = recoveryKey found.1.workflowStepId found.2 := by
  by_cases recovered : db.Recovered (recoveryKey found.1.workflowStepId found.2)
  · rw [recoverStep_of_recovered now db recovered, recovered_touchDedupe]
    constructor
    · exact .inl
    rintro (here | rfl)
    · exact here
    · exact recovered
  obtain ⟨_, _, dedupe⟩ := recoverStep_of_not_recovered now db recovered
  unfold ExecutionDb.Recovered
  rw [dedupe]
  constructor
  · rintro ⟨row, member, handler, named⟩
    rcases (mem_insert _ _ _).mp member with old | rfl
    · exact .inl ⟨row, old, handler, named⟩
    · exact .inr named.symm
  rintro (⟨row, member, handler, named⟩ | rfl)
  · exact ⟨row, (mem_insert _ _ _).mpr (.inl member), handler, named⟩
  · exact ⟨_, (mem_insert _ _ _).mpr (.inr rfl), rfl, rfl⟩

theorem recoverStep_kept (found : WorkflowStepRow × WorkflowStepState) :
    KeptByRecovery db (recoverStep now db found) := by
  unfold recoverStep
  dsimp only
  split
  · exact ⟨rfl, rfl, rfl, rfl⟩
  unfold parkInstance
  split
  · exact ⟨rfl, rfl, rfl, rfl⟩
  · exact ⟨rfl, rfl, rfl, rfl⟩

/-- A round leaves the other steps alone. -/
theorem find_recoverStep_of_ne {stepId : Nat} (elsewhere : found.1.workflowStepId ≠ stepId) :
    (recoverStep now db found).steps.find stepId = db.steps.find stepId := by
  by_cases recovered : db.Recovered (recoveryKey found.1.workflowStepId found.2)
  · rw [recoverStep_of_recovered now db recovered]
    rfl
  rw [(recoverStep_of_not_recovered now db recovered).1]
  cases row : db.steps.find stepId with
  | none => rw [find_update, row, Option.map_none]
  | some step =>
    rw [find_update_of_some _ _ _ _ row, if_neg]
    rintro named
    exact elsewhere (named.symm.trans (key_of_find row))

/-- A round leaves an instance in cancellation alone. -/
theorem find_instance_recoverStep (found : WorkflowStepRow × WorkflowStepState) {instanceId : Nat}
    {row : WorkflowInstanceRow} (here : db.instances.find instanceId = some row)
    (parked : row.state ∉ [.pending, .running]) :
    (recoverStep now db found).instances.find instanceId = some row := by
  by_cases recovered : db.Recovered (recoveryKey found.1.workflowStepId found.2)
  · rw [recoverStep_of_recovered now db recovered]
    exact here
  rw [(recoverStep_of_not_recovered now db recovered).2.1]
  unfold parkInstance
  split
  · rw [find_update_of_some _ _ _ _ here, if_neg]
    exact fun selected => parked selected.2
  · exact here

end Round

section Loop

variable (now : Nat)
  {found : List (WorkflowStepRow × WorkflowStepState)}

theorem foldl_recoverStep_kept (db : ExecutionDb) :
    KeptByRecovery db (found.foldl (recoverStep now) db) := by
  induction found generalizing db with
  | nil => exact .refl db
  | cons first rest ih => exact (recoverStep_kept now db first).trans (ih _)

theorem find_instance_foldl_recoverStep (db : ExecutionDb)
    {instanceId : Nat} {row : WorkflowInstanceRow} (here : db.instances.find instanceId = some row)
    (parked : row.state ∉ [.pending, .running]) :
    (found.foldl (recoverStep now) db).instances.find instanceId = some row := by
  induction found generalizing db with
  | nil => exact here
  | cons first rest ih => exact ih _ (find_instance_recoverStep now db first here parked)

/-- The loop leaves the steps alone that are not in its list. -/
theorem find_foldl_recoverStep_of_notMem {db : ExecutionDb} {stepId : Nat}
    (absent : ∀ entry ∈ found, entry.1.workflowStepId ≠ stepId) :
    (found.foldl (recoverStep now) db).steps.find stepId = db.steps.find stepId := by
  induction found generalizing db with
  | nil => rfl
  | cons first rest ih =>
    rw [List.foldl_cons, ih fun entry member => absent entry (List.mem_cons_of_mem _ member)]
    exact find_recoverStep_of_ne now db (absent first List.mem_cons_self)

/-- What the loop makes of a step of its list: it gets the verdict, unless the
key was recorded before. -/
theorem find_foldl_recoverStep (db : ExecutionDb)
    (distinct : (found.map (·.1.workflowStepId)).Nodup)
    {entry : WorkflowStepRow × WorkflowStepState} (member : entry ∈ found) {row : WorkflowStepRow}
    (here : db.steps.find entry.1.workflowStepId = some row) :
    (found.foldl (recoverStep now) db).steps.find entry.1.workflowStepId =
      some (if db.Recovered (recoveryKey entry.1.workflowStepId entry.2) then
          row
        else row.recover entry.2 now) := by
  induction found generalizing db with
  | nil => cases member
  | cons first rest ih =>
    rw [List.map_cons, List.nodup_cons] at distinct
    rw [List.foldl_cons]
    rcases List.mem_cons.mp member with rfl | later
    · rw [find_foldl_recoverStep_of_notMem]
      · split
        · rename_i recovered
          rw [recoverStep_of_recovered now db recovered]
          exact here
        rename_i fresh
        rw [(recoverStep_of_not_recovered now db fresh).1, find_update_of_some _ _ _ _ here,
          if_pos (key_of_find here)]
      rintro other otherMember same
      apply distinct.1
      rw [← same]
      exact List.mem_map_of_mem otherMember
    · have elsewhere : first.1.workflowStepId ≠ entry.1.workflowStepId := by
        intro same
        apply distinct.1
        rw [same]
        exact List.mem_map_of_mem later
      rw [ih _ distinct.2 later ((find_recoverStep_of_ne now db elsewhere).trans here)]
      congr 1
      apply if_congr _ rfl rfl
      rw [recovered_recoverStep, or_iff_left]
      intro same
      exact elsewhere (recoveryKey_injective same).symm

end Loop

/-- The list of the recovery query names every step once. -/
theorem recoverable_nodup (db : ExecutionDb) : (db.recoverable.map (·.1.workflowStepId)).Nodup := by
  have rows : ∀ steps : List WorkflowStepRow,
      (steps.map (·.workflowStepId)).Nodup →
      ((steps.filterMap fun step => (step.jobSetId.bind fun jobSetId =>
        recoveryVerdict (db.jobsOf jobSetId)).map fun verdict =>
          (step, verdict)).map (·.1.workflowStepId)).Nodup := by
    intro steps distinct
    refine List.Nodup.sublist ?_ distinct
    induction steps with
    | nil => exact .slnil
    | cons step rest ih =>
      rw [List.map_cons, List.nodup_cons] at distinct
      rw [List.filterMap_cons]
      split
      · exact (ih distinct.2).cons _
      rename_i entry verdict
      obtain ⟨_, _, rfl⟩ := Option.map_eq_some_iff.mp verdict
      exact (ih distinct.2).cons_cons _
  apply rows
  exact List.Nodup.sublist (List.filter_sublist.map _) db.steps.keys_nodup

/-- The entries of the recovery query. -/
theorem mem_recoverable {db : ExecutionDb} {step : WorkflowStepRow} :
    (step, verdict) ∈ db.recoverable ↔ step ∈ db.steps.rows ∧ db.InFlight step ∧
        ∃ jobSetId, step.jobSetId = some jobSetId ∧
          recoveryVerdict (db.jobsOf jobSetId) = some verdict := by
  unfold ExecutionDb.recoverable
  rw [List.mem_filterMap]
  constructor
  · rintro ⟨found, member, mapped⟩
    obtain ⟨inTable, inFlight⟩ := (db.steps.mem_select _).mp member
    obtain ⟨answer, bound, same⟩ := Option.map_eq_some_iff.mp mapped
    obtain ⟨jobSetId, named, decided⟩ := Option.bind_eq_some_iff.mp bound
    cases same
    exact ⟨inTable, inFlight, jobSetId, named, decided⟩
  rintro ⟨inTable, inFlight, jobSetId, named, decided⟩
  refine ⟨step, (db.steps.mem_select _).mpr ⟨inTable, inFlight⟩, ?_⟩
  rw [named, Option.bind_some, decided, Option.map_some]

end Savor.Workflow


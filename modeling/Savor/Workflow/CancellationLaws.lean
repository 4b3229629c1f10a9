import Savor.Workflow.RecoveryEffects
import Savor.Workflow.RetryLaws

/-!
# Cancellation and its own work

When a cancellation reaches exactly the work of its instance: the jobs, the
requests, the other instances, and the state in which the instance ends.
-/

namespace Savor.Workflow

open Library
open Program (ByteString text decimal)
open Table
open Sample
open ExecutionDb

/-- The unique indexes that the laws rest on: a job set belongs to one step,
and a job has one open request. -/
@[mk_iff]
structure ExecutionDb.Indexed (db : ExecutionDb) : Prop where
  jobSet : ∀ step ∈ db.steps.rows, ∀ other ∈ db.steps.rows,
    step.jobSetId ≠ none → step.jobSetId = other.jobSetId → step = other
  openRequest : ∀ request ∈ db.requests.rows, ∀ other ∈ db.requests.rows,
    request.jobId = other.jobId →
      request.state ∈ [.requested, .delivered] →
        other.state ∈ [.requested, .delivered] → request = other

instance : DecidablePred ExecutionDb.Indexed := fun db =>
  decidable_of_iff' _ (ExecutionDb.indexed_iff db)

/-- The open requests of a job. -/
def openRequests (requests : Table CancellationRequestRow (·.cancellationRequestId))
    (jobId : Nat) : List CancellationRequestRow :=
  (requestsOf requests jobId).filter fun row => row.state ∈ [.requested, .delivered]

/-- Nothing of the other instances changes. -/
structure LeavesOthers (workflowInstanceId : Nat) (db after : ExecutionDb) : Prop where
  jobs : ∀ other ≠ workflowInstanceId, ∀ job ∈ db.jobs.rows,
    db.JobOf other job → after.jobs.find job.jobId = some job
  requests : ∀ other ≠ workflowInstanceId, ∀ job ∈ db.jobs.rows,
    db.JobOf other job → requestsOf after.requests job.jobId = requestsOf db.requests job.jobId
  steps : ∀ step ∈ db.steps.rows,
    step.workflowInstanceId ≠ workflowInstanceId → after.steps.find step.workflowStepId = some step
  activations : ∀ activation ∈ db.activations.rows,
    activation.workflowInstanceId ≠ workflowInstanceId →
      after.activations.find activation.workflowUnitActivationId = some activation

/-- The instance is canceled and nothing of it is open. -/
structure Concluded (workflowInstanceId : Nat) (db : ExecutionDb) : Prop where
  canceled : ∃ row, db.instances.find workflowInstanceId = some row ∧ row.state = .canceled
  steps : db.StepsSettled workflowInstanceId
  activations : ∀ activation ∈ db.activations.rows,
    activation.workflowInstanceId = workflowInstanceId → activation.state.Terminal

/-- The jobs go on: settled jobs stay as they are, and none appears or
disappears. -/
structure Settles (before later : Table JobRow (·.jobId)) : Prop where
  kept : ∀ job ∈ before.rows, ∃ row ∈ later.rows,
    row.jobId = job.jobId ∧ row.jobSetId = job.jobSetId ∧
      (job.state.Settled → row.state = job.state)
  known : ∀ row ∈ later.rows, ∃ job ∈ before.rows,
    job.jobId = row.jobId ∧ job.jobSetId = row.jobSetId

/-- Every job of the instance has settled. -/
def ExecutionDb.JobsSettled (db : ExecutionDb) (workflowInstanceId : Nat) : Prop :=
  ∀ job ∈ db.jobs.rows, db.JobOf workflowInstanceId job → job.state.Settled

/-- What another cancellation makes of the database. -/
def cancelAgain (command : CancelInstanceCommand) (now : Nat) (db : ExecutionDb) : ExecutionDb :=
  match cancelWorkflowInstance command now db with
  | .error _ => db
  | .ok after => after

/-- The cancellation of an instance reaches exactly its own work. -/
structure CancelsOwnWork (command : CancelInstanceCommand) (db after : ExecutionDb) : Prop where
  unstarted : ∀ job ∈ db.jobs.rows,
    db.JobOf command.workflowInstanceId job →
      job.state ∈ [.pendingWorkset, .queued] →
        ∃ row, after.jobs.find job.jobId = some row ∧
          row.state = .canceled ∧ row.cancellation.state = some .resolved
  requested : ∀ job ∈ db.jobs.rows,
    db.ActiveJobOf command.workflowInstanceId job →
      (openRequests after.requests job.jobId).length = 1
  others : LeavesOthers command.workflowInstanceId db after
  idle : ∀ row, after.instances.find command.workflowInstanceId = some row →
    row.state = .canceled → after.JobsSettled command.workflowInstanceId
  again : ∀ jobs, Settles after.jobs jobs →
    ({ after with jobs }).JobsSettled command.workflowInstanceId →
      ∀ other : CancelInstanceCommand, ∀ now,
        other.workflowInstanceId = command.workflowInstanceId →
        other.requestedBy ≠ [] →
          Concluded command.workflowInstanceId (cancelAgain other now { after with jobs })
  recovery : ∀ jobs, Settles after.jobs jobs →
    ({ after with jobs }).JobsSettled command.workflowInstanceId →
      ∀ now, Concluded command.workflowInstanceId
        (reconcileInFlightInstances now { after with jobs })

/-- The state before the cancellation is one in which it reaches exactly the
work of the instance. -/
@[mk_iff]
structure CancellationCovers (workflowInstanceId : Nat) (db : ExecutionDb) : Prop where
  /-- The unstarted jobs are in the job set with the number of the
  instance. -/
  unstarted : ∀ job ∈ db.jobs.rows, db.JobOf workflowInstanceId job →
    job.state ∈ [.pendingWorkset, .queued] → job.jobSetId = workflowInstanceId
  /-- No other instance has unstarted jobs in that job set. -/
  others : ∀ job ∈ db.jobs.rows, CancelsUnstarted workflowInstanceId job →
    ∀ other ≠ workflowInstanceId, ¬ db.JobOf other job
  /-- An active job has an open request, or none with the key of the
  cancellation. -/
  requestable : ∀ job ∈ db.jobs.rows, db.ActiveJobOf workflowInstanceId job →
    openRequests db.requests job.jobId ≠ [] ∨
      ∀ row ∈ requestsOf db.requests job.jobId,
        row.requestKey ≠ text "workflow-cancel:" ++
          decimal workflowInstanceId ++ text ":" ++ decimal job.jobId
  /-- When only steps that are not in flight have lingering jobs, the instance
  would be canceled too early. -/
  idle : (∃ step ∈ db.steps.rows, step.workflowInstanceId = workflowInstanceId ∧
        step.state ∈ [.materialized, .running] ∧ db.Lingers workflowInstanceId step) ∨
    ∀ step ∈ db.steps.rows, step.workflowInstanceId = workflowInstanceId →
      ¬ db.Lingers workflowInstanceId step
  /-- A cancellation leaves running activations alone. -/
  notRunning : ∀ activation ∈ db.activations.rows,
    activation.workflowInstanceId = workflowInstanceId → activation.state ≠ .running
  /-- No verdict that a step in flight can still get was recovered before. -/
  notRecovered : ∀ step ∈ db.steps.rows,
    step.workflowInstanceId = workflowInstanceId →
    step.state ∈ [.materialized, .running] →
    db.Lingers workflowInstanceId step →
      ∀ verdict ∈ recoveryVerdicts,
        db.Recovered (recoveryKey step.workflowStepId verdict) →
          ∃ job ∈ db.jobs.rows, step.jobSetId = some job.jobSetId ∧
            (Forestalls verdict job.state ∨ verdict = .completed ∧
              CancelsUnstarted workflowInstanceId job)

/-- The steps of the job's job set tell whether another instance has it. -/
instance (db : ExecutionDb) (workflowInstanceId : Nat) (job : JobRow) :
    Decidable (∀ other ≠ workflowInstanceId, ¬ db.JobOf other job) :=
  decidable_of_iff (∀ step ∈ db.steps.rows, step.jobSetId = some job.jobSetId →
      step.workflowInstanceId = workflowInstanceId)
    ⟨fun own _ different ⟨step, member, ofOther, mapped⟩ =>
      different (ofOther.symm.trans (own step member mapped)),
    fun alone step member mapped => by_contra fun different =>
      alone _ different ⟨step, member, rfl, mapped⟩⟩

set_option synthInstance.maxSize 200 in
instance (workflowInstanceId : Nat) : DecidablePred (CancellationCovers workflowInstanceId) :=
  fun db => decidable_of_iff' _ (cancellationCovers_iff workflowInstanceId db)

/-! ## Jobs and requests -/

section Effects

variable {command : CancelInstanceCommand} {now : Nat}
  {db after : ExecutionDb}

theorem find_of_rows_map {Row : Type} {key : Row → Nat}
    {before later : Table Row key} {change : Row → Row} (rows : later.rows = before.rows.map change)
    (keeps : ∀ row, key (change row) = key row) {row : Row} (member : row ∈ before.rows) :
    later.find (key row) = some (change row) := by
  rw [find_eq_some_iff, rows]
  exact ⟨List.mem_map_of_mem member, keeps row⟩

/-- A successful cancellation, table by table. -/
structure Cancelled (command : CancelInstanceCommand) (now : Nat)
    (db after : ExecutionDb) : Prop where
  named : command.workflowInstanceId ≠ 0
  jobs : after.jobs.rows = db.jobs.rows.map (cancelledJob command now)
  requests : after.requests =
    (db.jobs.select (db.ActiveJobOf command.workflowInstanceId)).foldl
      (insertOrIgnoreRequest command now) db.requests
  steps : after.steps.rows = db.steps.rows.map (cancelledStep command now db)
  activations : after.activations.rows = db.activations.rows.map (cancelledActivation command now)
  instances : ∃ row,
    after.instances.find command.workflowInstanceId = some row ∧
      row.state = if after.StepsSettled command.workflowInstanceId then
        .canceled else .cancelling
  dedupe : after.dedupe = db.dedupe

/-- The jobs that a cancellation requests are the active ones of the
instance: canceling the unstarted ones changes none of them. -/
theorem select_activeJobOf (now : Nat) :
    (cancelUnstarted command now (beginCancellation command db)).jobs.select
        ((cancelUnstarted command now
          (beginCancellation command db)).ActiveJobOf command.workflowInstanceId) =
      db.jobs.select (db.ActiveJobOf command.workflowInstanceId) := by
  have rows : ∀ jobs : List JobRow,
      (jobs.map (cancelledJob command now)).filter (fun job =>
        decide (db.ActiveJobOf command.workflowInstanceId job)) =
      jobs.filter fun job => decide (db.ActiveJobOf command.workflowInstanceId job) := by
    intro jobs
    induction jobs with
    | nil => rfl
    | cons job rest ih =>
      rw [List.map_cons, List.filter_cons, List.filter_cons, ih]
      unfold cancelledJob
      split
      · rename_i unstarted
        have inactive : ¬ db.ActiveJobOf command.workflowInstanceId job := by
          rintro ⟨_, active⟩
          revert active
          rcases unstarted with ⟨_, unstarted⟩
          revert unstarted
          cases job.state <;> decide
        have canceled : ¬ db.ActiveJobOf command.workflowInstanceId
            (job.cancelUnstarted command.reason now) := by
          rintro ⟨_, active⟩
          revert active
          exact (by decide : JobState.canceled ∉ [.claimed, .running])
        rw [if_neg (fun yes => canceled (of_decide_eq_true yes)),
          if_neg (fun yes => inactive (of_decide_eq_true yes))]
      · rfl
  exact rows db.jobs.rows

theorem cancelled_of_ok (ended : cancelWorkflowInstance command now db = .ok after) :
    Cancelled command now db after := by
  obtain ⟨named, _, ⟨row, member, own, cancellable⟩, rfl⟩ :=
    (cancelWorkflowInstance_eq_ok now).mp ended
  have found : db.instances.find command.workflowInstanceId = some row := by
    rw [← own]
    exact db.instances.find_key member
  have begun : (cancelledWork command now db).instances.find
      command.workflowInstanceId = some (row.beginCancel command.reason) := by
    have updated := db.instances.find_update_of_some
      (Cancellable command.workflowInstanceId)
      (·.beginCancel command.reason) ⟨fun _ => rfl⟩ found
    rwa [if_pos ⟨own, cancellable⟩] at updated
  refine ⟨named, ?_, ?_, ?_, ?_, ?_, ?_⟩
  · rw [finalizeCancellation_jobs, cancelledWork_jobs]
  · rw [finalizeCancellation_requests, ← select_activeJobOf now]
    rfl
  · rw [finalizeCancellation_steps, cancelledWork_steps]
  · rw [finalizeCancellation_activations, cancelledWork_activations]
  · rw [finalizeCancellation_instances, find_update_of_some _ _ _ _ begun]
    refine ⟨_, rfl, ?_⟩
    have settled : (finalizeCancellation command.workflowInstanceId now
        (cancelledWork command now db)).StepsSettled command.workflowInstanceId ↔
        (cancelledWork command now db).StepsSettled command.workflowInstanceId := by
      unfold ExecutionDb.StepsSettled
      rw [finalizeCancellation_steps]
    by_cases all : (cancelledWork command now db).StepsSettled command.workflowInstanceId
    · rw [if_pos (settled.mpr all), if_pos ⟨own, rfl, all⟩]
      rfl
    rw [if_neg (fun here => all (settled.mp here)), if_neg (fun here => all here.2.2)]
    rfl
  · rw [finalizeCancellation_dedupe]
    rfl

variable (cancelled : Cancelled command now db after)

include cancelled

variable {job : JobRow}

theorem Cancelled.job_mem (member : job ∈ db.jobs.rows) :
    cancelledJob command now job ∈ after.jobs.rows :=
  cancelled.jobs ▸ List.mem_map_of_mem member

theorem Cancelled.find_job (member : job ∈ db.jobs.rows) :
    after.jobs.find job.jobId = some (cancelledJob command now job) :=
  find_of_rows_map cancelled.jobs (cancelledJob_jobId command now) member

theorem Cancelled.find_step {step : WorkflowStepRow} (member : step ∈ db.steps.rows) :
    after.steps.find step.workflowStepId = some (cancelledStep command now db step) :=
  find_of_rows_map cancelled.steps (cancelledStep_id command now db) member

theorem Cancelled.find_activation {activation : WorkflowUnitActivationRow}
    (member : activation ∈ db.activations.rows) :
    after.activations.find activation.workflowUnitActivationId =
      some (cancelledActivation command now activation) := by
  refine find_of_rows_map cancelled.activations ?_ member
  intro row
  unfold cancelledActivation
  split <;> rfl

theorem Cancelled.jobOf_iff {workflowInstanceId : Nat} : after.JobOf workflowInstanceId job ↔
      db.JobOf workflowInstanceId job := by
  unfold ExecutionDb.JobOf
  rw [cancelled.steps]
  constructor
  · rintro ⟨step, member, own, mapped⟩
    obtain ⟨old, oldMember, rfl⟩ := List.mem_map.mp member
    rw [cancelledStep_instance] at own
    rw [cancelledStep_jobSetId] at mapped
    exact ⟨old, oldMember, own, mapped⟩
  rintro ⟨step, member, own, mapped⟩
  refine ⟨_, List.mem_map_of_mem member, ?_, ?_⟩
  · rw [cancelledStep_instance]
    exact own
  · rw [cancelledStep_jobSetId]
    exact mapped

/-- The unstarted jobs of the instance are canceled exactly if they are in the
job set with the number of the instance. -/
theorem Cancelled.unstarted_iff (member : job ∈ db.jobs.rows)
    (unstarted : job.state ∈ [.pendingWorkset, .queued]) :
    (∃ row, after.jobs.find job.jobId = some row ∧
      row.state = .canceled ∧ row.cancellation.state = some .resolved) ↔
        job.jobSetId = command.workflowInstanceId := by
  rw [cancelled.find_job member]
  unfold cancelledJob
  constructor
  · rintro ⟨row, found, canceled, _⟩
    by_contra elsewhere
    rw [if_neg (fun both => elsewhere both.1)] at found
    obtain rfl := Option.some.inj found
    rw [canceled] at unstarted
    exact absurd unstarted (by decide : JobState.canceled ∉ [.pendingWorkset, .queued])
  · intro own
    exact ⟨_, rfl, by rw [if_pos ⟨own, unstarted⟩]; exact ⟨rfl, rfl⟩⟩

/-- A job of another instance stays exactly if it is not among those that
`cancel_unstarted` selects. -/
theorem Cancelled.job_kept_iff (member : job ∈ db.jobs.rows) :
    after.jobs.find job.jobId = some job ↔ ¬ CancelsUnstarted command.workflowInstanceId job := by
  rw [cancelled.find_job member]
  unfold cancelledJob
  constructor
  · intro same unstarted
    rw [if_pos unstarted] at same
    have states := congrArg JobRow.state (Option.some.inj same)
    have here := unstarted.2
    rw [← states] at here
    exact absurd here (by decide : JobState.canceled ∉ [.pendingWorkset, .queued])
  · intro started
    rw [if_neg started]

theorem Cancelled.requestsOf_of_not_active (member : job ∈ db.jobs.rows)
    (inactive : ¬ db.ActiveJobOf command.workflowInstanceId job) :
    requestsOf after.requests job.jobId = requestsOf db.requests job.jobId := by
  rw [cancelled.requests, requestsOf_foldl_of_notMem]
  intro other selected same
  obtain ⟨otherMember, active⟩ := (db.jobs.mem_select _).mp selected
  obtain rfl := db.jobs.eq_of_key_eq otherMember member same
  exact inactive active

theorem Cancelled.requestsOf_of_active (member : job ∈ db.jobs.rows)
    (active : db.ActiveJobOf command.workflowInstanceId job) :
    ∃ id, requestsOf after.requests job.jobId = requestsOf db.requests job.jobId ++
        requestAdded command now (requestsOf db.requests job.jobId) job id := by
  rw [cancelled.requests]
  apply requestsOf_foldl
  · exact List.Nodup.sublist (List.filter_sublist.map _) db.jobs.keys_nodup
  · exact (db.jobs.mem_select _).mpr ⟨member, active⟩

end Effects

theorem ExecutionDb.Indexed.openRequests_le {db : ExecutionDb}
    (indexed : db.Indexed) (jobId : Nat) : (openRequests db.requests jobId).length ≤ 1 := by
  have distinct : (openRequests db.requests jobId).Nodup :=
    ((List.Nodup.of_map _ db.requests.keys_nodup).filter _).filter _
  have same : ∀ left ∈ openRequests db.requests jobId,
      ∀ right ∈ openRequests db.requests jobId, left = right := by
    intro left leftMember right rightMember
    obtain ⟨leftOf, leftOpen⟩ := List.mem_filter.mp leftMember
    obtain ⟨rightOf, rightOpen⟩ := List.mem_filter.mp rightMember
    obtain ⟨leftRow, leftJob⟩ := List.mem_filter.mp leftOf
    obtain ⟨rightRow, rightJob⟩ := List.mem_filter.mp rightOf
    exact indexed.openRequest left leftRow right rightRow
      ((of_decide_eq_true leftJob).trans (of_decide_eq_true rightJob).symm)
      (of_decide_eq_true leftOpen) (of_decide_eq_true rightOpen)
  rcases requests : openRequests db.requests jobId with - | ⟨first, rest⟩
  · exact Nat.zero_le _
  rcases rest with - | ⟨second, rest⟩
  · exact Nat.le_refl _
  rw [requests] at same distinct
  have equal := same first List.mem_cons_self second (List.mem_cons_of_mem _ List.mem_cons_self)
  rw [equal, List.nodup_cons] at distinct
  exact absurd List.mem_cons_self distinct.1

variable {command : CancelInstanceCommand}

/-- After the cancellation an active job has one open request exactly if it
had one or none of its requests has the key of the cancellation. -/
theorem Cancelled.requested_iff {now : Nat} {db after : ExecutionDb}
    (cancelled : Cancelled command now db after) (indexed : db.Indexed)
    {job : JobRow} (member : job ∈ db.jobs.rows)
    (active : db.ActiveJobOf command.workflowInstanceId job) :
    (openRequests after.requests job.jobId).length = 1 ↔ openRequests db.requests job.jobId ≠ [] ∨
        ∀ row ∈ requestsOf db.requests job.jobId,
          row.requestKey ≠ text "workflow-cancel:" ++
            decimal command.workflowInstanceId ++ text ":" ++
              decimal job.jobId := by
  obtain ⟨id, requests⟩ := cancelled.requestsOf_of_active member active
  have few := indexed.openRequests_le job.jobId
  have opened : openRequests after.requests job.jobId =
      openRequests db.requests job.jobId ++
        requestAdded command now (requestsOf db.requests job.jobId) job id := by
    unfold openRequests
    rw [requests, List.filter_append]
    congr 1
    unfold requestAdded
    split
    · rfl
    · rfl
  rw [opened]
  by_cases none : openRequests db.requests job.jobId = []
  · have closed : ∀ row ∈ requestsOf db.requests job.jobId,
        row.state ∉ [.requested, .delivered] := by
      intro row rowMember isOpen
      have here : row ∈ openRequests db.requests job.jobId :=
        List.mem_filter.mpr ⟨rowMember, decide_eq_true isOpen⟩
      rw [none] at here
      cases here
    rw [none, List.nil_append]
    unfold requestAdded
    split
    · rename_i free
      refine ⟨fun _ => .inr fun row rowMember named => ?_, fun _ => rfl⟩
      exact free row rowMember (.inl named)
    rename_i blocked
    constructor
    · nofun
    rintro (some | unnamed)
    · exact absurd rfl some
    apply absurd _ blocked
    rintro row rowMember (named | isOpen)
    · exact unnamed row rowMember named
    · exact closed row rowMember isOpen
  · have one : (openRequests db.requests job.jobId).length = 1 := by
      have positive := List.length_pos_iff.mpr none
      omega
    have blocked : requestAdded command now
        (requestsOf db.requests job.jobId) job id = [] := by
      obtain ⟨row, rowMember⟩ := List.exists_mem_of_ne_nil _ none
      obtain ⟨rowOf, isOpen⟩ := List.mem_filter.mp rowMember
      unfold requestAdded
      rw [if_neg]
      intro free
      exact free row rowOf (.inr (of_decide_eq_true isOpen))
    rw [blocked, List.append_nil]
    exact ⟨fun _ => .inl none, fun _ => one⟩

/-! ## The end of the instance -/

/-- A cancellation leaves an activation of the instance in a terminal state
unless it is running. -/
theorem terminal_cancelledActivation_iff {now : Nat} {activation : WorkflowUnitActivationRow}
    (own : activation.workflowInstanceId = command.workflowInstanceId) :
    (cancelledActivation command now activation).state.Terminal ↔ activation.state ≠ .running := by
  unfold cancelledActivation
  split
  · rename_i waiting
    constructor
    · rintro - running
      have here := waiting.2
      rw [running] at here
      exact absurd here (by decide : WorkflowUnitActivationState.running ∉ [.waiting, .ready])
    · intro _
      exact (by decide : WorkflowUnitActivationState.canceled.Terminal)
  · rename_i stays
    have going : activation.state ∉ [.waiting, .ready] := fun waiting => stays ⟨own, waiting⟩
    revert going
    cases activation.state <;> decide

section Ending

variable {now : Nat} {db after : ExecutionDb} (cancelled : Cancelled command now db after)

include cancelled

theorem Cancelled.stepsSettled_iff : after.StepsSettled command.workflowInstanceId ↔
      ∀ step ∈ db.steps.rows, step.workflowInstanceId = command.workflowInstanceId →
          step.state ∈ [.materialized, .running] →
            ¬ db.Lingers command.workflowInstanceId step := by
  unfold ExecutionDb.StepsSettled
  rw [cancelled.steps]
  constructor
  · intro settled step member own inFlight lingers
    have here := settled _ (List.mem_map_of_mem member)
      ((cancelledStep_instance command now db step).trans own)
    exact (cancelledStep_settled_iff command now db own).mp here ⟨inFlight, lingers⟩
  rintro idle step member own
  obtain ⟨old, oldMember, rfl⟩ := List.mem_map.mp member
  rw [cancelledStep_instance] at own
  rw [cancelledStep_settled_iff command now db own]
  rintro ⟨inFlight, lingers⟩
  exact idle old oldMember own inFlight lingers

theorem Cancelled.jobsSettled_iff : after.JobsSettled command.workflowInstanceId ↔
      ∀ step ∈ db.steps.rows, step.workflowInstanceId = command.workflowInstanceId →
          ¬ db.Lingers command.workflowInstanceId step := by
  constructor
  · rintro settled step member own ⟨job, jobMember, mapped, running⟩
    apply (not_settled_cancelledJob command now).mpr running
    apply settled
    · exact cancelled.job_mem jobMember
    rw [cancelled.jobOf_iff]
    refine ⟨step, member, own, ?_⟩
    rw [cancelledJob_jobSetId]
    exact mapped
  intro idle job member ofInstance
  rw [cancelled.jobs] at member
  obtain ⟨old, oldMember, rfl⟩ := List.mem_map.mp member
  rw [cancelled.jobOf_iff] at ofInstance
  obtain ⟨step, stepMember, own, mapped⟩ := ofInstance
  rw [cancelledJob_jobSetId] at mapped
  by_contra running
  exact idle step stepMember own ⟨old, oldMember, mapped,
    (not_settled_cancelledJob command now).mp running⟩

/-- The instance is canceled only with all its jobs settled, exactly if a step
in flight has a lingering job or no step has one. -/
theorem Cancelled.idle_iff : (∀ row, after.instances.find command.workflowInstanceId = some row →
      row.state = .canceled → after.JobsSettled command.workflowInstanceId) ↔
    ((∃ step ∈ db.steps.rows, step.workflowInstanceId = command.workflowInstanceId ∧
          step.state ∈ [.materialized, .running] ∧ db.Lingers command.workflowInstanceId step) ∨
      ∀ step ∈ db.steps.rows, step.workflowInstanceId = command.workflowInstanceId →
          ¬ db.Lingers command.workflowInstanceId step) := by
  obtain ⟨row, found, state⟩ := cancelled.instances
  rw [cancelled.jobsSettled_iff]
  constructor
  · intro idle
    by_cases settled : after.StepsSettled command.workflowInstanceId
    · rw [if_pos settled] at state
      exact .inr (idle row found state)
    rw [cancelled.stepsSettled_iff] at settled
    push Not at settled
    obtain ⟨step, member, own, inFlight, lingers⟩ := settled
    exact .inl ⟨step, member, own, inFlight, lingers⟩
  rintro (⟨step, member, own, inFlight, lingers⟩ | idle) other otherFound canceled
  · obtain rfl := Option.some.inj (found.symm.trans otherFound)
    rw [if_neg] at state
    · rw [state] at canceled
      cases canceled
    rw [cancelled.stepsSettled_iff]
    intro none
    exact none step member own inFlight lingers
  · exact idle

theorem Cancelled.terminal_iff : (∀ activation ∈ after.activations.rows,
      activation.workflowInstanceId = command.workflowInstanceId → activation.state.Terminal) ↔
    ∀ activation ∈ db.activations.rows,
      activation.workflowInstanceId = command.workflowInstanceId → activation.state ≠ .running := by
  have sameInstance : ∀ activation : WorkflowUnitActivationRow,
      (cancelledActivation command now activation).workflowInstanceId =
        activation.workflowInstanceId := by
    intro activation
    unfold cancelledActivation
    split <;> rfl
  rw [cancelled.activations]
  constructor
  · intro ended activation member own
    have here := ended _ (List.mem_map_of_mem member) ((sameInstance activation).trans own)
    exact (terminal_cancelledActivation_iff own).mp here
  rintro going activation member own
  obtain ⟨old, oldMember, rfl⟩ := List.mem_map.mp member
  rw [sameInstance] at own
  exact (terminal_cancelledActivation_iff own).mpr (going old oldMember own)

/-- After the cancellation a step of the instance has settled, or it is in
flight with a lingering job and as it was before. -/
theorem Cancelled.step_cases {step : WorkflowStepRow} (member : step ∈ after.steps.rows)
    (own : step.workflowInstanceId = command.workflowInstanceId) : step.state.Settled ∨
      step ∈ db.steps.rows ∧ step.state ∈ [.materialized, .running] ∧
        db.Lingers command.workflowInstanceId step := by
  rw [cancelled.steps] at member
  obtain ⟨old, oldMember, rfl⟩ := List.mem_map.mp member
  rw [cancelledStep_instance] at own
  by_cases settled : (cancelledStep command now db old).state.Settled
  · exact .inl settled
  right
  rw [cancelledStep_settled_iff command now db own, not_not] at settled
  rw [cancelledStep_of_lingers command now db settled.1 settled.2]
  exact ⟨oldMember, settled⟩

theorem Cancelled.canceled_or (later : Table JobRow (·.jobId)) :
    ∃ row, ({ after with jobs := later }).instances.find
        command.workflowInstanceId = some row ∧
      (row.state = .cancelling ∨ row.state = .canceled ∧
        after.StepsSettled command.workflowInstanceId) := by
  obtain ⟨row, found, state⟩ := cancelled.instances
  refine ⟨row, found, ?_⟩
  by_cases settled : after.StepsSettled command.workflowInstanceId
  · rw [if_pos settled] at state
    exact .inr ⟨state, settled⟩
  · rw [if_neg settled] at state
    exact .inl state

/-- With all jobs settled another cancellation concludes the instance, unless
an activation was running. -/
theorem Cancelled.concluded_cancelAgain (covers : CancellationCovers command.workflowInstanceId db)
    {later : Table JobRow (·.jobId)} (settled : ({ after with jobs := later }).JobsSettled
      command.workflowInstanceId)
    {other : CancelInstanceCommand} {time : Nat}
    (same : other.workflowInstanceId = command.workflowInstanceId)
    (requester : other.requestedBy ≠ []) :
    Concluded command.workflowInstanceId (cancelAgain other time { after with jobs := later }) := by
  have terminal := cancelled.terminal_iff.mpr covers.notRunning
  obtain ⟨row, found, state⟩ := cancelled.canceled_or later
  unfold cancelAgain
  split
  · rename_i message failed
    rcases state with cancelling | ⟨canceled, stepsSettled⟩
    · have succeeds := (cancelWorkflowInstance_eq_ok time).mpr
        ⟨same ▸ cancelled.named, requester,
          ⟨row, mem_of_find found, by
            rw [same]
            refine ⟨key_of_find found, ?_⟩
            rw [cancelling]
            decide⟩, rfl⟩
      rw [failed] at succeeds
      cases succeeds
    · exact ⟨⟨row, found, canceled⟩, stepsSettled, terminal⟩
  · rename_i next ended
    have again := cancelled_of_ok ended
    have stepsSettled : next.StepsSettled other.workflowInstanceId := by
      rw [again.stepsSettled_iff]
      rintro step member own _ ⟨job, jobMember, mapped, running, _⟩
      exact running (settled job jobMember ⟨step, member, own.trans same, mapped⟩)
    obtain ⟨last, lastFound, lastState⟩ := again.instances
    rw [if_pos stepsSettled] at lastState
    rw [same] at lastFound stepsSettled
    refine ⟨⟨last, lastFound, lastState⟩, stepsSettled, ?_⟩
    rw [← same, again.terminal_iff]
    intro activation member own running
    have ended := terminal activation member (own.trans same)
    rw [running] at ended
    exact absurd ended (by decide : ¬ WorkflowUnitActivationState.running.Terminal)

end Ending

/-- Canceling finished instances leaves the instance that has been in
cancellation canceled when its steps have settled. -/
theorem finishCancellations_canceled {db : ExecutionDb}
    {workflowInstanceId : Nat} (now : Nat) {row : WorkflowInstanceRow}
    (found : db.instances.find workflowInstanceId = some row)
    (settled : db.StepsSettled workflowInstanceId)
    (state : row.state = .cancelling ∨ row.state = .canceled) :
    ∃ last, (finishCancellations now db).instances.find workflowInstanceId =
      some last ∧ last.state = .canceled := by
  refine ⟨_, db.instances.find_update_of_some db.ConcludesCancel
    (·.concludeCancel now) ⟨fun _ => rfl⟩ found, ?_⟩
  rcases state with cancelling | canceled
  · rw [if_pos]
    · rfl
    · exact ⟨cancelling, (key_of_find found).symm ▸ settled⟩
  rw [if_neg]
  · exact canceled
  rintro ⟨cancelling, _⟩
  rw [canceled] at cancelling
  cases cancelling

section Recovery

variable {now : Nat} {db after : ExecutionDb} (cancelled : Cancelled command now db after)
variable {later : Table JobRow (·.jobId)}

include cancelled

variable {step : WorkflowStepRow}

theorem Cancelled.recoverable_of_lingers (settles : Settles after.jobs later)
    (settled : ({ after with jobs := later }).JobsSettled command.workflowInstanceId)
    (member : step ∈ after.steps.rows)
    (own : step.workflowInstanceId = command.workflowInstanceId)
    (inFlight : step.state ∈ [.materialized, .running])
    (lingers : db.Lingers command.workflowInstanceId step) :
    ∃ verdict, (step, verdict) ∈ ({ after with jobs := later }).recoverable := by
  obtain ⟨job, jobMember, mapped, _⟩ := lingers
  obtain ⟨row, rowMember, _, sameSet, _⟩ := settles.kept _ (cancelled.job_mem jobMember)
  rw [cancelledJob_jobSetId] at sameSet
  have listed : row ∈ ({ after with jobs := later }).jobsOf job.jobSetId :=
    (later.mem_select _).mpr ⟨rowMember, sameSet⟩
  obtain ⟨verdict, decided⟩ := exists_recoveryVerdict
    (List.ne_nil_of_mem listed) (by
      intro other otherListed
      obtain ⟨otherMember, otherSet⟩ := (later.mem_select _).mp otherListed
      refine settled other otherMember ⟨step, member, own, ?_⟩
      rw [mapped, otherSet])
  obtain ⟨instance_, found, state⟩ := cancelled.canceled_or later
  refine ⟨verdict, mem_recoverable.mpr ⟨member, ⟨?_, inFlight, ?_⟩, job.jobSetId, mapped, decided⟩⟩
  · refine ⟨instance_, mem_of_find found, (key_of_find found).trans own.symm, ?_⟩
    rcases state with cancelling | ⟨_, allSettled⟩
    · rw [cancelling]
      decide
    have ended := allSettled step member own
    exfalso
    revert ended inFlight
    cases step.state <;> decide
  · rw [mapped]
    exact Option.some_ne_none _

/-- No recorded key stands in the way of a verdict that can come out. -/
theorem Cancelled.not_recovered (settles : Settles after.jobs later)
    (covers : CancellationCovers command.workflowInstanceId db) (member : step ∈ db.steps.rows)
    (own : step.workflowInstanceId = command.workflowInstanceId)
    (inFlight : step.state ∈ [.materialized, .running])
    (lingers : db.Lingers command.workflowInstanceId step) {verdict : WorkflowStepState}
    (decided : (step, verdict) ∈ ({ after with jobs := later }).recoverable) :
    ¬ ({ after with jobs := later }).Recovered (recoveryKey step.workflowStepId verdict) := by
  intro recovered
  obtain ⟨_, _, jobSetId, mapped, decided⟩ := mem_recoverable.mp decided
  obtain ⟨known, free⟩ := not_forestalls_of_recoveryVerdict decided
  have before : db.Recovered (recoveryKey step.workflowStepId verdict) := by
    unfold ExecutionDb.Recovered at recovered ⊢
    rw [← cancelled.dedupe]
    exact recovered
  obtain ⟨job, jobMember, ofStep, worse⟩ := covers.notRecovered step member
    own inFlight lingers verdict known before
  obtain ⟨row, rowMember, _, sameSet, kept⟩ := settles.kept _ (cancelled.job_mem jobMember)
  rw [cancelledJob_jobSetId] at sameSet
  have listed : row ∈
      ({ after with jobs := later }).jobsOf jobSetId := by
    refine (later.mem_select _).mpr ⟨rowMember, ?_⟩
    rw [sameSet]
    exact Option.some.inj (ofStep.symm.trans mapped)
  apply free row listed
  have blocks : Forestalls verdict (cancelledJob command now job).state ∧
      (cancelledJob command now job).state.Settled := by
    unfold cancelledJob
    rcases worse with forestalls | ⟨rfl, unstarted⟩
    · have ended : job.state.Settled := by
        revert forestalls
        simp only [recoveryVerdicts, List.mem_cons, List.not_mem_nil, or_false] at known
        rcases known with rfl | rfl | rfl | rfl
        all_goals cases job.state <;> decide
      rw [if_neg]
      · exact ⟨forestalls, ended⟩
      rintro ⟨_, unstarted⟩
      revert unstarted ended
      cases job.state <;> decide
    · rw [if_pos unstarted]
      exact ⟨(by decide : Forestalls .completed .canceled), trivial⟩
  rw [kept blocks.2]
  exact blocks.1

/-- With all jobs settled recovery concludes the instance, unless an
activation was running or a recorded key stands in the way. -/
theorem Cancelled.concluded_recovery (settles : Settles after.jobs later)
    (settled : ({ after with jobs := later }).JobsSettled command.workflowInstanceId)
    (covers : CancellationCovers command.workflowInstanceId db)
    (time : Nat) :
    Concluded command.workflowInstanceId
      (reconcileInFlightInstances time { after with jobs := later }) := by
  obtain ⟨row, found, state⟩ := cancelled.canceled_or later
  have parked : row.state ∉ [.pending, .running] := by
    rcases state with cancelling | ⟨canceled, _⟩
    · rw [cancelling]
      decide
    · rw [canceled]
      decide
  have kept : KeptByRecovery { after with jobs := later }
      ((recoverable { after with jobs := later }).foldl
        (recoverStep time) { after with jobs := later }) :=
    foldl_recoverStep_kept time _
  have allSettled :
      ((recoverable { after with jobs := later }).foldl
        (recoverStep time) { after with jobs := later }).StepsSettled
          command.workflowInstanceId := by
    intro step member own
    have here := find_key _ member
    by_cases listed : ∃ entry ∈
        recoverable { after with jobs := later },
        entry.1.workflowStepId = step.workflowStepId
    · obtain ⟨⟨old, verdict⟩, entryMember, same⟩ := listed
      obtain ⟨oldMember, inFlight, _⟩ := mem_recoverable.mp entryMember
      have oldFound := find_key _ oldMember
      have ended := find_foldl_recoverStep time _
        (recoverable_nodup { after with jobs := later }) entryMember oldFound
      rw [← same] at here
      obtain rfl := Option.some.inj (here.symm.trans ended)
      have ownOld : old.workflowInstanceId = command.workflowInstanceId := by
        revert own
        split <;> exact id
      rcases cancelled.step_cases oldMember ownOld with
        oldSettled | ⟨dbMember, running, lingers⟩
      · have inFlightState := inFlight.2.1
        exfalso
        revert oldSettled inFlightState
        cases old.state <;> decide
      rw [if_neg (cancelled.not_recovered settles covers dbMember ownOld
        running lingers entryMember)]
      obtain ⟨_, _, jobSetId, _, decided⟩ := mem_recoverable.mp entryMember
      have known := (not_forestalls_of_recoveryVerdict decided).1
      simp only [recoveryVerdicts, List.mem_cons, List.not_mem_nil, or_false] at known
      rcases known with rfl | rfl | rfl | rfl
      all_goals trivial
    · rw [find_foldl_recoverStep_of_notMem time
        (fun entry entryMember same => listed ⟨entry, entryMember, same⟩)]
        at here
      rcases cancelled.step_cases (mem_of_find here) own with
        ended | ⟨dbMember, running, lingers⟩
      · exact ended
      obtain ⟨verdict, entryMember⟩ := cancelled.recoverable_of_lingers
        settles settled (mem_of_find here) own running lingers
      exact absurd ⟨_, entryMember, rfl⟩ listed
  obtain ⟨last, lastFound, canceled⟩ := finishCancellations_canceled
    time (find_instance_foldl_recoverStep time _ found parked) allSettled (state.imp_right And.left)
  refine ⟨⟨last, lastFound, canceled⟩, allSettled, ?_⟩
  have activations : (reconcileInFlightInstances time
      { after with jobs := later }).activations = after.activations :=
    kept.activations
  rw [activations]
  exact cancelled.terminal_iff.mpr covers.notRunning

end Recovery

/-! ## The law -/

/-- Every unsettled job ends in a state. -/
def settleAs (state : JobState) (jobs : Table JobRow (·.jobId)) : Table JobRow (·.jobId) :=
  jobs.update (fun job => ¬ job.state.Settled) (fun job => { job with state }) ⟨fun _ => rfl⟩

theorem settles_settleAs (state : JobState)
    (jobs : Table JobRow (·.jobId)) : Settles jobs (settleAs state jobs) where
  kept := by
    intro job member
    refine ⟨_, List.mem_map_of_mem member, ?_, ?_, ?_⟩
    · split <;> rfl
    · split <;> rfl
    · intro settled
      rw [if_neg (not_not_intro settled)]
  known := by
    intro row member
    obtain ⟨job, jobMember, rfl⟩ := List.mem_map.mp member
    refine ⟨job, jobMember, ?_, ?_⟩
    · split <;> rfl
    · split <;> rfl

theorem settled_of_mem_settleAs {state : JobState} (settles : state.Settled)
    {jobs : Table JobRow (·.jobId)} {row : JobRow} (member : row ∈ (settleAs state jobs).rows) :
    row.state.Settled := by
  obtain ⟨job, _, rfl⟩ := List.mem_map.mp member
  split
  · exact settles
  · rename_i settled
    exact not_not.mp settled

section Law

variable {now : Nat} {db after : ExecutionDb}

theorem settled_decidingState (verdict : WorkflowStepState) : (decidingState verdict).Settled := by
  cases verdict <;> trivial

variable {verdict : WorkflowStepState}

theorem not_forestalls_decidingState (known : verdict ∈ recoveryVerdicts) :
    ¬ Forestalls verdict (decidingState verdict) := by
  revert known
  cases verdict <;> decide

/-- A job of the step that the cancellation leaves settled does not forestall
a verdict that no job of the step forestalls. -/
theorem not_forestalls_cancelledJob (known : verdict ∈ recoveryVerdicts) {job : JobRow}
    (free : ¬ (Forestalls verdict job.state ∨ verdict = .completed ∧
      CancelsUnstarted command.workflowInstanceId job)) :
    ¬ Forestalls verdict (cancelledJob command now job).state := by
  rw [not_or] at free
  unfold cancelledJob
  split
  · rename_i unstarted
    intro forestalls
    have completed : verdict = .completed := by
      change Forestalls verdict .canceled at forestalls
      revert known forestalls
      cases verdict <;> decide
    exact free.2 ⟨completed, unstarted⟩
  · exact free.1

/-- The jobs of a step with a lingering job can end so that recovery finds a
verdict that none of them forestalls. -/
theorem Cancelled.recoveryVerdict_settleAs (cancelled : Cancelled command now db after)
    {jobSetId : Nat} {job : JobRow} (member : job ∈ db.jobs.rows) (ofSet : job.jobSetId = jobSetId)
    (running : ¬ job.state.Settled ∧ ¬ CancelsUnstarted command.workflowInstanceId job)
    (known : verdict ∈ recoveryVerdicts)
    (unblocked : ∀ job ∈ db.jobs.rows, job.jobSetId = jobSetId →
      ¬ (Forestalls verdict job.state ∨ verdict = .completed ∧
        CancelsUnstarted command.workflowInstanceId job)) :
    recoveryVerdict (jobsOf { after with
      jobs := settleAs (decidingState verdict) after.jobs } jobSetId) = some verdict := by
  refine recoveryVerdict_of_deciding known ?_ ?_
    { cancelledJob command now job with state := decidingState verdict }
    ?_ rfl
  · intro other listed
    exact settled_of_mem_settleAs (settled_decidingState verdict) ((mem_select _ _).mp listed).1
  · intro other listed
    obtain ⟨otherMember, otherSet⟩ := (mem_select _ _).mp listed
    obtain ⟨middle, middleMember, rfl⟩ := List.mem_map.mp otherMember
    split
    · exact not_forestalls_decidingState known
    rename_i ended
    rw [if_neg ended] at otherSet
    rw [cancelled.jobs] at middleMember
    obtain ⟨old, oldMember, rfl⟩ := List.mem_map.mp middleMember
    rw [cancelledJob_jobSetId] at otherSet
    exact not_forestalls_cancelledJob known (unblocked old oldMember otherSet)
  · refine (mem_select _ _).mpr ⟨?_, ?_⟩
    · refine List.mem_map.mpr ⟨_, cancelled.job_mem member, ?_⟩
      rw [if_pos ((not_settled_cancelledJob command now).mpr running)]
    · exact (cancelledJob_jobSetId command now job).trans ofSet

/-- A recorded key that no job forestalls leaves a step in flight: the jobs
can end so that recovery finds the verdict of the key. -/
theorem Cancelled.not_concluded_of_recovered (cancelled : Cancelled command now db after)
    {step : WorkflowStepRow} (member : step ∈ db.steps.rows)
    (own : step.workflowInstanceId = command.workflowInstanceId)
    (inFlight : step.state ∈ [.materialized, .running])
    (lingers : db.Lingers command.workflowInstanceId step) (known : verdict ∈ recoveryVerdicts)
    (recovered : db.Recovered (recoveryKey step.workflowStepId verdict))
    (unblocked : ∀ job ∈ db.jobs.rows, step.jobSetId = some job.jobSetId →
      ¬ (Forestalls verdict job.state ∨ verdict = .completed ∧
        CancelsUnstarted command.workflowInstanceId job))
    (time : Nat) : ¬ Concluded command.workflowInstanceId (reconcileInFlightInstances time
      { after with jobs := settleAs (decidingState verdict) after.jobs }) := by
  have stepMember : step ∈ after.steps.rows := by
    rw [cancelled.steps, ← cancelledStep_of_lingers command now db inFlight lingers]
    exact List.mem_map_of_mem member
  obtain ⟨found, entryMember⟩ := cancelled.recoverable_of_lingers
    (settles_settleAs (decidingState verdict) after.jobs)
    (fun job jobMember _ => settled_of_mem_settleAs (settled_decidingState verdict) jobMember)
    stepMember own inFlight lingers
  obtain ⟨_, _, jobSetId, mapped, decided⟩ := mem_recoverable.mp entryMember
  obtain ⟨job, jobMember, ofStep, running⟩ := lingers
  have deciding := cancelled.recoveryVerdict_settleAs jobMember
    (Option.some.inj (ofStep.symm.trans mapped)) running known
    fun other otherMember ofSet => unblocked other otherMember (by rw [mapped, ofSet])
  obtain rfl := Option.some.inj (deciding.symm.trans decided)
  have recorded : ExecutionDb.Recovered { after with
      jobs := settleAs (decidingState verdict) after.jobs }
        (recoveryKey step.workflowStepId verdict) := by
    unfold ExecutionDb.Recovered at recovered ⊢
    rw [← cancelled.dedupe] at recovered
    exact recovered
  have here := find_foldl_recoverStep time
    { after with jobs := settleAs (decidingState verdict) after.jobs }
    (recoverable_nodup _) entryMember (find_key _ stepMember)
  rw [if_pos recorded] at here
  intro concluded
  have ended := concluded.steps step (mem_of_find here) own
  revert ended inFlight
  cases step.state <;> decide

/-- A cancellation reaches exactly the work of its instance if and only if the
state before it is one that it covers. -/
theorem cancelsOwnWork_iff (indexed : db.Indexed)
    (ended : cancelWorkflowInstance command now db = .ok after) : CancelsOwnWork command db after ↔
      CancellationCovers command.workflowInstanceId db := by
  have cancelled := cancelled_of_ok ended
  constructor
  · intro whole
    refine ⟨?_, ?_, ?_, ?_, ?_, ?_⟩
    · intro job member ofInstance unstarted
      exact (cancelled.unstarted_iff member unstarted).mp
        (whole.unstarted job member ofInstance unstarted)
    · intro job member unstarted other different ofOther
      exact (cancelled.job_kept_iff member).mp
        (whole.others.jobs other different job member ofOther) unstarted
    · intro job member active
      exact (cancelled.requested_iff indexed member active).mp (whole.requested job member active)
    · exact cancelled.idle_iff.mp whole.idle
    · rw [← cancelled.terminal_iff]
      have concluded := whole.recovery _ (settles_settleAs .failed _)
        (fun job member _ => settled_of_mem_settleAs (settled_decidingState .failed) member) 0
      have kept : (reconcileInFlightInstances 0 { after with
          jobs := settleAs .failed after.jobs }).activations = after.activations :=
        (foldl_recoverStep_kept 0 _).activations
      rw [← kept]
      exact concluded.activations
    · intro step member own inFlight lingers verdict known recovered
      by_contra unblocked
      push Not at unblocked
      refine cancelled.not_concluded_of_recovered member own inFlight lingers
        known recovered ?_ 0 (whole.recovery _ (settles_settleAs _ _)
          (fun job jobMember _ => settled_of_mem_settleAs
            (settled_decidingState verdict) jobMember) 0)
      rintro job jobMember ofStep (forestalls | ⟨completed, unstarted⟩)
      · exact (unblocked job jobMember ofStep).1 forestalls
      · exact (unblocked job jobMember ofStep).2 completed unstarted
  · intro covers
    refine ⟨?_, ?_, ⟨?_, ?_, ?_, ?_⟩, ?_, ?_, ?_⟩
    · intro job member ofInstance unstarted
      exact (cancelled.unstarted_iff member unstarted).mpr
        (covers.unstarted job member ofInstance unstarted)
    · intro job member active
      exact (cancelled.requested_iff indexed member active).mpr
        (covers.requestable job member active)
    · intro other different job member ofOther
      exact (cancelled.job_kept_iff member).mpr fun unstarted =>
        covers.others job member unstarted other different ofOther
    · rintro other different job member ⟨step, stepMember, own, mapped⟩
      apply cancelled.requestsOf_of_not_active member
      rintro ⟨⟨mine, mineMember, mineOwn, mineMapped⟩, _⟩
      obtain rfl := indexed.jobSet step stepMember mine mineMember
        (by rw [mapped]; exact Option.some_ne_none _)
        (mapped.trans mineMapped.symm)
      exact different (own.symm.trans mineOwn)
    · intro step member elsewhere
      rw [cancelled.find_step member]
      unfold cancelledStep
      rw [if_neg fun cancels => elsewhere cancels.1]
    · intro activation member elsewhere
      rw [cancelled.find_activation member]
      unfold cancelledActivation
      rw [if_neg fun cancels => elsewhere cancels.1]
    · exact cancelled.idle_iff.mpr covers.idle
    · intro later _ settled other time same requester
      exact cancelled.concluded_cancelAgain covers settled same requester
    · intro later settles settled time
      exact cancelled.concluded_recovery settles settled covers time

end Law

namespace Sample

/-- The user cancels the first instance. -/
def cancelFirst : CancelInstanceCommand := ⟨1, text "stop", text "user"⟩

/-- The step is materialized with the second job set, whose job is queued. -/
def materializedElsewhere : List WorkflowInput :=
  [⟨1, .createInstance singleStep⟩, ⟨2, .jobStore (jobSets.insert jobSet makesKey_jobSet)
      (empty.insert (fun id => { job .queued with
        jobId := id, jobSetId := 2 }) ⟨fun _ => rfl⟩)⟩, ⟨3, .materialize ⟨1, 2, none, none⟩⟩]

end Sample

/-- A queued job of the first instance is in a job set with another number. -/
def QueuedElsewhere (db : ExecutionDb) : Prop :=
  (cancelWorkflowInstance cancelFirst 9 db).isOk = true ∧
    ∃ job ∈ db.jobs.rows, db.JobOf 1 job ∧ job.state ∈ [.pendingWorkset, .queued] ∧ job.jobSetId ≠ 1

instance : DecidablePred QueuedElsewhere := fun _ => inferInstanceAs (Decidable (_ ∧ ∃ _ ∈ _, _))

/-- A cancellation need not cancel the queued jobs of its instance: it looks
for them in the job set with the number of the instance. -/
theorem exists_cancellation_not_covering : ∃ db after, Reachable db ∧
      cancelWorkflowInstance cancelFirst 9 db = .ok after ∧
        ¬ CancelsOwnWork cancelFirst db after := by
  have reached : ∃ history db,
      Run workflowStep (fun _ _ => True) empty history db ∧ QueuedElsewhere db :=
    Run.exists_of_replay materializedElsewhere _ (by decide +kernel)
  obtain ⟨history, db, run, succeeds, job, member, ofInstance, unstarted, elsewhere⟩ := reached
  rcases ended : cancelWorkflowInstance cancelFirst 9 db with message | after
  · rw [ended] at succeeds
    cases succeeds
  have reachable : Reachable db := ⟨history, run⟩
  refine ⟨db, after, reachable, ended, fun whole => ?_⟩
  exact elsewhere (((cancelled_of_ok ended).unstarted_iff member
    unstarted).mp (whole.unstarted job member ofInstance unstarted))

namespace Sample

/-- The first instance has two steps: one has a queued and a running job, the
other fails.  The second instance has a queued job. -/
def failedBeside : List WorkflowInput :=
  let insert (jobs : Table JobRow (·.jobId)) state jobSetId := jobs.insert
    (fun id => { job state with jobId := id, jobSetId }) ⟨fun _ => rfl⟩
  let again (unit : CreateUnitActivationSpec) := { unit with
    steps := unit.steps ++ unit.steps.map ({ · with stepKeySuffix := text "again" }) }
  [⟨1, .createInstance { singleStep with
      unitActivations := singleStep.unitActivations.map again }⟩,
    ⟨2, .createInstance singleStep⟩,
    ⟨3, .jobStore (jobSets.insert jobSet makesKey_jobSet)
      (insert (insert (insert Table.empty .queued 1) .running 1) .queued 2)⟩,
    ⟨4, .materialize ⟨1, 1, none, none⟩⟩, ⟨5, .materialize ⟨3, 2, none, none⟩⟩,
    ⟨6, .failInstance ⟨1, some 2, text "WORKFLOW_STEP_FAILED", []⟩⟩]

end Sample

/-- The first instance has a queued and an active job, and the second a queued
one. -/
def Occupied (db : ExecutionDb) : Prop :=
  (∃ job ∈ db.jobs.rows, db.JobOf 1 job ∧ job.state = .queued) ∧
    (∃ job ∈ db.jobs.rows, db.ActiveJobOf 1 job) ∧
    ∃ job ∈ db.jobs.rows, db.JobOf 2 job ∧ job.state = .queued

instance : DecidablePred Occupied := fun _ =>
  inferInstanceAs (Decidable ((∃ _ ∈ _, _) ∧ (∃ _ ∈ _, _) ∧ ∃ _ ∈ _, _))

/-- A cancellation reaches exactly the work of its instance beside the work of
another one. -/
theorem exists_cancellation_covering : ∃ db after, Reachable db ∧ Occupied db ∧
      cancelWorkflowInstance cancelFirst 9 db = .ok after ∧
        CancelsOwnWork cancelFirst db after := by
  obtain ⟨history, db, run, succeeds, occupied, indexed, covers⟩ : ∃ history db,
      Run workflowStep (fun _ _ => True) empty history db ∧
        (cancelWorkflowInstance cancelFirst 9 db).isOk = true ∧
        Occupied db ∧ db.Indexed ∧ CancellationCovers 1 db :=
    Run.exists_of_replay failedBeside _ (by decide +kernel)
  rcases ended : cancelWorkflowInstance cancelFirst 9 db with message | after
  · rw [ended] at succeeds
    cases succeeds
  exact ⟨db, after, ⟨history, run⟩, occupied, ended, (cancelsOwnWork_iff indexed ended).mpr covers⟩

end Savor.Workflow

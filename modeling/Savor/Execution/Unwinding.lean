import Savor.Execution.Resumption

/-!
# Unwinding is final

Once a program unwinds, an executor only cleans up, unless the host delivers
the one completion that makes it runnable again.  The invariant ties the
activity, the unwinding flag, the explicit scope close and the pending request
together.
-/

namespace Savor.Program

open ExecutorRun
open ExecutorEvent

/-- The program unwinds, or closes a scope explicitly. -/
def Control.stopping (control : Control) : Bool := control.unwinding || control.explicitScopeClose

/-- The relation between the unwinding flags, the activity and the pending
request. -/
structure Control.UnwindingInvariant (control : Control) : Prop where
  /-- A stopping program is not runnable. -/
  activity : control.stopping = true → control.activity ≠ .runnable
  /-- A stopping program waits for cleanup, and no other program does. -/
  cleanup : control.activity = .awaitingHost →
    ∀ pending, control.pending = some pending → pending.success.isOrdinary = !control.stopping
  /-- The cleanup is pumped for a stopping program only. -/
  stops : control.activity = .unwinding → control.stopping = true
  /-- A scope is closed explicitly only before the unwinding. -/
  explicitClose : control.explicitScopeClose = true → control.unwinding = false
  /-- An action is invoked either for its value or as deferred cleanup. -/
  invoked : ∀ pending, control.pending = some pending → pending.request.operation = .invokeAction →
    pending.success = .bindValue ∨ pending.success = .deferredCleanup

namespace Control.UnwindingInvariant

variable {control after : Control}

theorem fail (invariant : control.UnwindingInvariant) (status : ProgramInfrastructureStatus) :
    (control.fail status).UnwindingInvariant := by
  unfold Control.fail
  split
  · exact invariant
  exact
    { activity := by simp
      cleanup := by simp
      stops := by simp [Control.stopping]
      explicitClose := by simp
      invoked := invariant.invoked }

/-- Resuming a program that does not stop keeps the invariant. -/
theorem resume (invariant : control.UnwindingInvariant) (steady : control.stopping = false) :
    control.resume.UnwindingInvariant where
  activity stopping := by
    have steady' : control.resume.stopping = false := steady
    rw [steady'] at stopping
    cases stopping
  cleanup := by simp [Control.resume]
  stops := by simp [Control.resume]
  explicitClose := invariant.explicitClose
  invoked := by simp [Control.resume]

theorem resume_fail (steady : control.unwinding = false) (status : ProgramInfrastructureStatus) :
    (control.resume.fail status).UnwindingInvariant := by
  unfold Control.fail
  rw [if_neg (by simp [Control.resume, steady])]
  exact
    { activity := by simp
      cleanup := by simp
      stops := by simp [Control.stopping]
      explicitClose := by simp
      invoked := by simp [Control.resume] }

section

variable (invariant : control.UnwindingInvariant)
include invariant

/-- A program that does not stop suspends for an ordinary request, a stopping
one for cleanup. -/
theorem suspend {request : ExecutorHostRequest} {success : PendingSuccess}
    (ordinary : success.isOrdinary = !control.stopping)
    (invoked : request.operation = .invokeAction →
      success = .bindValue ∨ success = .deferredCleanup) (result : Option ProgramValueId) :
    (control.suspend request success result).UnwindingInvariant where
  activity := by simp [Control.suspend]
  cleanup _ pending waiting := by
    cases waiting
    exact ordinary
  stops := by simp [Control.suspend]
  explicitClose := invariant.explicitClose
  invoked pending waiting := by
    cases waiting
    exact invoked

/-- The invariant does not look at frames and scopes. -/
theorem congr (activity : after.activity = control.activity)
    (unwinding : after.unwinding = control.unwinding)
    (explicitClose : after.explicitScopeClose = control.explicitScopeClose)
    (pending : after.pending = control.pending) : after.UnwindingInvariant := by
  have stopping : after.stopping = control.stopping := by
    rw [Control.stopping, unwinding, explicitClose, Control.stopping]
  obtain ⟨first, second, third, fourth, fifth⟩ := invariant
  rw [← activity, ← stopping] at first third
  rw [← activity, ← stopping, ← pending] at second
  rw [← unwinding, ← explicitClose] at fourth
  rw [← pending] at fifth
  exact ⟨first, second, third, fourth, fifth⟩

theorem withFrames (frames : List Frame) :
    ({ control with frames := frames } : Control).UnwindingInvariant :=
  invariant.congr rfl rfl rfl rfl

theorem withScopes (scopes : List Scope) :
    ({ control with scopes := scopes } : Control).UnwindingInvariant :=
  invariant.congr rfl rfl rfl rfl

/-- A runnable program does not stop. -/
theorem steady (runnable : control.activity = .runnable) : control.stopping = false := by
  by_contra stopping
  exact invariant.activity (by simpa using stopping) runnable

theorem unwinding_false (runnable : control.activity = .runnable) : control.unwinding = false := by
  have steady := invariant.steady runnable
  simp only [Control.stopping, Bool.or_eq_false_iff] at steady
  exact steady.1

theorem ordinary_steady (awaiting : control.activity = .awaitingHost)
    {pending : PendingHost} (waiting : control.pending = some pending)
    (ordinary : pending.success.isOrdinary = true) : control.stopping = false := by
  have cleanup := invariant.cleanup awaiting pending waiting
  rw [ordinary] at cleanup
  simpa using cleanup.symm

theorem cleanup_stopping (awaiting : control.activity = .awaitingHost)
    {pending : PendingHost} (waiting : control.pending = some pending)
    (cleanup : pending.success.isOrdinary = false) : control.stopping = true := by
  have stopping := invariant.cleanup awaiting pending waiting
  rw [cleanup] at stopping
  simpa using stopping.symm

theorem instructionStep (runnable : control.activity = .runnable)
    {frame : Frame} {callers : List Frame} {instruction : Instruction}
    {request : Option ExecutorHostRequest}
    (step : InstructionStep control frame callers instruction request after) :
    after.UnwindingInvariant := by
  have steady := invariant.steady runnable
  have ordinary : ∀ (success : PendingSuccess) frames,
      success.isOrdinary = true →
      success.isOrdinary = !({ control with frames := frames } : Control).stopping := by
    intro success frames isOrdinary
    have same : ({ control with frames := frames } : Control).stopping = false := steady
    rw [isOrdinary, same]
    rfl
  cases step with
  | failed status => exact invariant.fail status
  | bound | called | effected => exact invariant.withFrames _
  | deferred => exact invariant.congr rfl rfl rfl rfl
  | scopeExited =>
    simp only [Control.stopping, Bool.or_eq_false_iff] at steady
    exact
      { activity := by simp
        cleanup := by simp
        stops := by simp [Control.stopping]
        explicitClose := fun _ => steady.1
        invoked := invariant.invoked }
  | awaited => exact suspend (invariant.withFrames _) (ordinary _ _ (by rfl)) (fun _ => .inl rfl) _
  | scopeEntered _ _ _ asked =>
    exact suspend (invariant.withFrames _) (ordinary _ _ (by rfl)) (by simp [asked]) _
  | promoted _ asked =>
    exact suspend (invariant.withFrames _) (ordinary _ _ (by rfl)) (by simp [asked]) _

theorem terminatorStep {frame : Frame} {callers : List Frame} {terminator : Terminator}
    (step : TerminatorStep control frame callers terminator after) : after.UnwindingInvariant := by
  cases step with
  | failed status => exact invariant.fail status
  | entered | returned | returnBound => exact invariant.withFrames _
  | returnFailed status => exact fail (invariant.withFrames _) status
  | finished =>
    exact
      { activity := by simp [Control.finish]
        cleanup := by simp [Control.finish]
        stops := by simp [Control.finish, Control.stopping]
        explicitClose := by simp [Control.finish]
        invoked := invariant.invoked }

theorem cleanupStep (unwinding : control.activity = .unwinding)
    {request : Option ExecutorHostRequest} (step : CleanupStep control request after) :
    after.UnwindingInvariant := by
  have cleanup : ∀ (success : PendingSuccess) scopes,
      success.isOrdinary = false →
      success.isOrdinary = !({ control with scopes := scopes } : Control).stopping := by
    intro success scopes isCleanup
    have same : ({ control with scopes := scopes } : Control).stopping = true :=
      invariant.stops unwinding
    rw [isCleanup, same]
    rfl
  cases step with
  | underflow => exact invariant.fail _
  | deferred => exact suspend (invariant.withScopes _) (cleanup _ _ (by rfl)) (fun _ => .inr rfl) _
  | close _ _ _ asked | finish _ _ _ asked =>
    exact invariant.suspend (cleanup _ control.scopes (by rfl))
      (by simp [asked, Executor.cleanupRequest]) _

end

/-- Answering a cleanup request without resuming the program. -/
theorem answered (activity : after.activity ≠ .runnable) (waits : after.activity ≠ .awaitingHost)
    (stops : after.activity = .unwinding → after.stopping = true)
    (explicitClose : after.explicitScopeClose = true → after.unwinding = false)
    (pending : after.pending = none) : after.UnwindingInvariant where
  activity _ := activity
  cleanup awaiting := absurd awaiting waits
  stops := stops
  explicitClose := explicitClose
  invoked := by simp [pending]

theorem deliveryStep (invariant : control.UnwindingInvariant)
    (awaiting : control.activity = .awaitingHost)
    {pending : PendingHost} (waiting : control.pending = some pending)
    {completion : ProgramActionResolution} {resumes : Prop}
    (step : DeliveryStep control pending completion resumes after) (final : ¬resumes) :
    after.UnwindingInvariant := by
  have steadyOf := invariant.ordinary_steady awaiting waiting
  have stoppingOf := invariant.cleanup_stopping awaiting waiting
  have unwindingOf : pending.success.isOrdinary = true →
      control.unwinding = false := by
    intro ordinary
    have steady := steadyOf ordinary
    simp only [Control.stopping, Bool.or_eq_false_iff] at steady
    exact steady.1
  cases step with
  | overBudget completed operation unwinds =>
    rcases invariant.invoked pending waiting operation with value | deferred
    · exact resume_fail (unwindingOf (by rw [value]; rfl)) _
    have steady : control.unwinding = false := by
      by_contra unwinding
      exact final (unwinds (by simpa using unwinding) deferred)
    exact resume_fail steady _
  | actionFailed status _ ordinary => exact resume_fail (unwindingOf ordinary) status
  | deferredFailed _ cleanup | deferredDone _ cleanup =>
    exact answered (by simp) (by simp)
      (fun _ => stoppingOf (by rw [cleanup]; rfl)) invariant.explicitClose rfl
  | closeFailed => exact answered (by simp) (by simp) (by simp [Control.stopping]) (by simp) rfl
  | finishFailed | finished =>
    exact answered (by simp) (by simp) (by simp) invariant.explicitClose rfl
  | unbound _ value => exact invariant.resume (steadyOf (by rw [value]; rfl))
  | bound _ value => exact (invariant.resume (steadyOf (by rw [value]; rfl))).congr rfl rfl rfl rfl
  | bindFailed status _ value => exact resume_fail (unwindingOf (by rw [value]; rfl)) status
  | scopePushed _ push =>
    exact (invariant.resume (steadyOf (by rw [push]; rfl))).congr rfl rfl rfl rfl
  | scopeClosed _ close =>
    exact answered (by simp) (by simp)
      (fun _ => stoppingOf (by rw [close]; rfl)) invariant.explicitClose rfl
  | scopeClosedExplicitly _ _ explicitly =>
    have steady := invariant.explicitClose explicitly
    exact
      { activity := by simp [Control.stopping, Control.resume, steady]
        cleanup := by simp [Control.resume]
        stops := by simp [Control.resume]
        explicitClose := by simp
        invoked := by simp [Control.resume] }
  | promoted _ promote => exact invariant.resume (steadyOf (by rw [promote]; rfl))

theorem controlStep (invariant : control.UnwindingInvariant)
    {resumes : Prop} {input : ExecutorInput} {event : ExecutorEvent}
    (step : ControlStep control resumes input event after) (final : ¬resumes) :
    after.UnwindingInvariant := by
  cases step with
  | quiet => exact invariant
  | identified waiting =>
    exact
      { activity := invariant.activity
        cleanup := by
          intro awaiting pending identified
          cases identified
          have held := invariant.cleanup awaiting _ waiting
          exact held
        stops := invariant.stops
        explicitClose := invariant.explicitClose
        invoked := by
          intro pending identified
          cases identified
          have held := invariant.invoked _ waiting
          exact held }
  | failed status => exact invariant.fail status
  | cleanup unwinding step => exact invariant.cleanupStep unwinding step
  | instruction runnable _ _ _ step => exact invariant.instructionStep runnable step
  | terminator _ _ _ _ step => exact invariant.terminatorStep step
  | delivered awaiting waiting _ _ step => exact invariant.deliveryStep awaiting waiting step final

end Control.UnwindingInvariant

namespace Control

variable {control after : Control} {resumes : Prop}

/-- Failing again changes nothing. -/
theorem fail_of_unwinding (unwinding : control.unwinding = true)
    (status : ProgramInfrastructureStatus) : control.fail status = control := by
  simp [fail, unwinding]

/-- Answering a completion keeps an unwinding program unwinding, and its status
unless a close or the finish failed. -/
theorem deliveryStep_final (unwinding : control.unwinding = true)
    {pending : PendingHost} {completion : ProgramActionResolution}
    (step : DeliveryStep control pending completion resumes after) : after.unwinding = true ∧
      (after.infrastructure = control.infrastructure ∨ after.infrastructure = .backendFailed ∧
          completion.status ≠ .completed ∧ pending.success = .finishInvocation) := by
  have kept : ∀ status, (control.resume.fail status).unwinding = true ∧
      (control.resume.fail status).infrastructure = control.infrastructure := by
    intro status
    rw [@fail_of_unwinding control.resume unwinding status]
    exact ⟨unwinding, rfl⟩
  cases step with
  | overBudget | actionFailed | bindFailed => exact ⟨(kept _).1, .inl (kept _).2⟩
  | closeFailed => exact ⟨rfl, .inl (by simp [unwinding])⟩
  | finishFailed unsuccessful finish => exact ⟨unwinding, .inr ⟨rfl, unsuccessful, finish⟩⟩
  | deferredFailed | unbound | bound | scopePushed | scopeClosed
  | scopeClosedExplicitly | promoted | deferredDone | finished => exact ⟨unwinding, .inl rfl⟩

end Control

/-- A new executor satisfies the invariant. -/
theorem Executor.start_unwindingInvariant {verified : VerifiedProgramModule}
    {invocation : ProgramInvocation} {executor : Executor}
    (accepted : Executor.start verified invocation = .ok executor) :
    executor.control.UnwindingInvariant := by
  obtain ⟨function, block, argument, measured, -, -, rfl⟩ := start_eq_ok accepted
  rw [control_trace]
  exact
    { activity := by simp [initial, control, Control.stopping]
      cleanup := by simp [initial, control]
      stops := by simp [initial, control]
      explicitClose := by simp [initial, control]
      invoked := by simp [initial, control] }

/-- A request to clean up: a deferred action, a scope close or the end of the
invocation. -/
def ExecutorHostRequest.IsCleanup (request : ExecutorHostRequest) : Prop :=
  request.cleanupOnly = true ∧
    (request.operation = .invokeAction ∨ request.operation = .closeScope ∨
      request.operation = .finishInvocation)

/-- The transition delivers the failure of a close or of the finish. -/
def CleanupRequestFailed (before : Executor) (input : ExecutorInput) : Prop :=
  ∃ completion pending, input = .deliverHostCompletion completion ∧
    before.pending = some pending ∧ completion.status ≠ .completed ∧
    (pending.success = .closeScope ∨ pending.success = .finishInvocation)

/-- What a transition may do once the program unwinds: execute nothing, ask the
host for cleanup only, stay unwinding, and keep the recorded status unless a
close or the finish fails. -/
structure UnwindingIsFinal (before after : Executor) (transition : ExecutorTransition) : Prop where
  noInstruction : ∀ instruction, transition.event.action ≠ some (.instruction instruction)
  noTerminator : ∀ terminator, transition.event.action ≠ some (.terminator terminator)
  requests : ∀ request, transition.event.request = some request → request.IsCleanup
  unwinding : after.unwinding = true
  infrastructure :
    after.result.infrastructure = before.result.infrastructure ∨
      after.result.infrastructure = .backendFailed ∧ CleanupRequestFailed before transition.input

/-- A run all of whose unwinding transitions are final, and in which a status
once recorded stays unless it becomes `BackendFailed`. -/
structure RunUnwindsFinally (history : List ExecutorTransition) (machine : Machine) : Prop where
  transitions : ∀ transition ∈ history, ∀ before after, transition.before.executor? = some before →
    transition.after.executor? = some after →
    before.unwinding = true → UnwindingIsFinal before after transition
  status : ∀ transition ∈ history, ∀ recorded final,
    transition.after.executor? = some recorded → recorded.unwinding = true →
    machine.executor? = some final →
    final.result.infrastructure = recorded.result.infrastructure ∨
      final.result.infrastructure = .backendFailed

/-- The requests of a cleanup are cleanup requests, and pumping it changes
neither the unwinding nor the status. -/
theorem CleanupStep.final {control after : Control} {request : Option ExecutorHostRequest}
    (unwinding : control.unwinding = true) (step : CleanupStep control request after) :
    (∀ asked, request = some asked → asked.IsCleanup) ∧ after.unwinding = true ∧
      after.infrastructure = control.infrastructure := by
  cases step with
  | underflow =>
    rw [Control.fail_of_unwinding unwinding]
    exact ⟨by simp, unwinding, rfl⟩
  | deferred _ _ asked =>
    refine ⟨?_, unwinding, rfl⟩
    rintro _ ⟨⟩
    rw [asked]
    exact ⟨rfl, .inl rfl⟩
  | close _ _ _ asked =>
    refine ⟨?_, unwinding, rfl⟩
    rintro _ ⟨⟩
    rw [asked]
    exact ⟨rfl, .inr (.inl rfl)⟩
  | finish _ _ _ asked =>
    refine ⟨?_, unwinding, rfl⟩
    rintro _ ⟨⟩
    rw [asked]
    exact ⟨rfl, .inr (.inr rfl)⟩

/-- A step of the control relation from an unwinding state executes nothing,
asks for cleanup only and keeps the status unless the finish fails. -/
theorem ControlStep.final {control after : Control} {resumes : Prop}
    {input : ExecutorInput} {event : ExecutorEvent} (invariant : control.UnwindingInvariant)
    (unwinding : control.unwinding = true) (step : ControlStep control resumes input event after) :
    (∀ action, event.action = some action → action = .cleanup ∨ action.isInert) ∧
    (∀ request, event.request = some request → request.IsCleanup) ∧ after.unwinding = true ∧
    (after.infrastructure = control.infrastructure ∨ after.infrastructure = .backendFailed ∧
        ∃ completion pending, input = .deliverHostCompletion completion ∧
          control.pending = some pending ∧ completion.status ≠ .completed ∧
          pending.success = .finishInvocation) := by
  have stopping : control.stopping = true := by simp [Control.stopping, unwinding]
  cases step with
  | quiet inert unasked =>
    exact ⟨fun action is => .inr (inert action is), by simp [unasked], unwinding, .inl rfl⟩
  | identified => exact ⟨by simp [action], by simp [request], unwinding, .inl rfl⟩
  | failed status inert unasked =>
    rw [Control.fail_of_unwinding unwinding]
    exact ⟨fun action is => .inr (inert action is), by simp [unasked], unwinding, .inl rfl⟩
  | cleanup _ step =>
    obtain ⟨requests, unwinding', infrastructure⟩ := step.final unwinding
    refine ⟨?_, requests, unwinding', .inl infrastructure⟩
    rintro _ ⟨⟩
    exact .inl rfl
  | instruction runnable | terminator runnable =>
    exact absurd runnable (invariant.activity stopping)
  | delivered _ waiting _ _ step =>
    obtain ⟨unwinding', kept | ⟨failed, unsuccessful, finish⟩⟩ :=
      Control.deliveryStep_final unwinding step
    · exact ⟨by simp [action], by simp [request], unwinding', .inl kept⟩
    · exact ⟨by simp [action], by simp [request],
        unwinding', .inr ⟨failed, _, _, rfl, waiting, unsuccessful, finish⟩⟩

theorem UnwindingIsFinal.of_step {before after : Executor} {transition : ExecutorTransition}
    (invariant : before.control.UnwindingInvariant) (unwinding : before.unwinding = true)
    (step : ControlStep before.control (transition.input.resumes before = true) transition.input
      transition.event after.control) :
    UnwindingIsFinal before after transition := by
  obtain ⟨actions, requests, unwinding', infrastructure⟩ := step.final invariant unwinding
  exact
    { noInstruction := by
        intro instruction executed
        rcases actions _ executed with absurd | absurd <;> cases absurd
      noTerminator := by
        intro terminator executed
        rcases actions _ executed with absurd | absurd <;> cases absurd
      requests := requests
      unwinding := unwinding'
      infrastructure := by
        rcases infrastructure with
          kept | ⟨failed, completion, pending, input, waiting, unsuccessful, finish⟩
        · exact .inl kept
        · exact .inr ⟨failed, completion, pending, input, waiting, unsuccessful, .inr finish⟩ }

section Runs

variable {floats : FloatUnit} {history : List ExecutorTransition}
variable {machine : Machine}

/-- In a run that resumes no unwinding program every transition of a started
machine starts in the invariant and is a step of the control relation. -/
theorem ExecutorRun.unwindingInvariant (run : ExecutorRun floats UnwindingContinues history machine)
    {transition : ExecutorTransition} (member : transition ∈ history)
    {before : Executor} (started : transition.before.executor? = some before) :
    before.control.UnwindingInvariant ∧ transition.input.resumes before = false ∧
      ∃ after, transition.after.executor? = some after ∧
        ControlStep before.control (transition.input.resumes before = true)
          transition.input transition.event after.control := by
  obtain ⟨invariant, continues, step⟩ := @forall_step floats
    UnwindingContinues Control.UnwindingInvariant
    (fun _ _ _ _ accepted => Executor.start_unwindingInvariant accepted)
    (fun executor _ _ _ _ continues invariant step =>
      invariant.controlStep step (by simp [continues executor rfl]))
    _ _ _ run member _ started
  exact ⟨invariant, continues before started, step⟩

theorem ExecutorRun.transition_final (run : ExecutorRun floats UnwindingContinues history machine)
    {transition : ExecutorTransition} (member : transition ∈ history)
    {before : Executor} (started : transition.before.executor? = some before)
    (unwinding : before.unwinding = true) : ∃ after, transition.after.executor? = some after ∧
      UnwindingIsFinal before after transition := by
  obtain ⟨invariant, _, after, reached, step⟩ := unwindingInvariant run member started
  exact ⟨after, reached, .of_step invariant unwinding step⟩

/-- A status recorded while unwinding stays to the end of the run, unless it
becomes `BackendFailed`. -/
theorem ExecutorRun.status_stays (run : ExecutorRun floats UnwindingContinues history machine) :
    ∀ transition ∈ history, ∀ recorded,
      transition.after.executor? = some recorded → recorded.unwinding = true →
      ∃ final, machine.executor? = some final ∧ final.unwinding = true ∧
        (final.result.infrastructure = recorded.result.infrastructure ∨
          final.result.infrastructure = .backendFailed) := by
  induction run with
  | nil => simp
  | @snoc earlier state input event next run allowed stepped
      ih =>
      intro transition member recorded after unwinding
      rcases List.mem_append.mp member with old | new
      · obtain ⟨mid, reached, midUnwinding, status⟩ :=
          ih transition old recorded after unwinding
        have last : (⟨state, input, event, next⟩ : ExecutorTransition) ∈
            earlier ++ [⟨state, input, event, next⟩] := by simp
        obtain ⟨final, ends, isFinal⟩ := transition_final
          (run.snoc allowed stepped) last reached midUnwinding
        refine ⟨final, ends, isFinal.unwinding, ?_⟩
        rcases isFinal.infrastructure with kept | ⟨failed, _⟩
        · rw [kept]
          exact status
        · exact .inr failed
      · rw [List.mem_singleton] at new
        subst new
        exact ⟨recorded, after, unwinding, .inl rfl⟩

/-- Unwinding is final in every run in which no completion of a deferred
action makes an unwinding program runnable again. -/
theorem ExecutorRun.unwindsFinally (run : ExecutorRun floats UnwindingContinues history machine) :
    RunUnwindsFinally history machine where
  transitions transition member before after started reached unwinding := by
    obtain ⟨after', reached', isFinal⟩ := transition_final run member started unwinding
    rw [reached] at reached'
    cases reached'
    exact isFinal
  status transition member recorded final reached unwinding ends := by
    obtain ⟨final', ends', _, status⟩ :=
      status_stays run transition member recorded reached unwinding
    rw [ends] at ends'
    cases ends'
    exact status

end Runs

/-- The run that cancels the sample and lets its compensations fail unwinds
finally. -/
theorem ExecutorRun.unwindsFinally_sample : ∃ history machine,
      ExecutorRun .integers UnwindingContinues history machine ∧
      (history.any fun transition => transition.before.executor?.any (·.unwinding)) = true ∧
      RunUnwindsFinally history machine := by
  obtain ⟨history, machine, run, unwinds⟩ :=
    exists_continuing_of_replay Sample.unwound
      (fun history _ => history.any fun transition => transition.before.executor?.any (·.unwinding))
      (by decide +kernel)
  exact ⟨history, machine, run, unwinds, unwindsFinally run⟩

/-- An instruction is executed after the unwinding began: the sample defers its
third compensation after it was cancelled. -/
theorem ExecutorRun.not_unwindsFinally : ¬ ∀ floats history machine,
      ExecutorRun floats (fun _ _ => True) history machine →
      RunUnwindsFinally history machine := by
  intro final
  obtain ⟨history, machine, run, passes⟩ :=
    exists_of_replay Sample.returned
      (fun history _ => history.any fun transition =>
        transition.before.executor?.any (·.unwinding) && transition.after.executor?.isSome &&
          transition.event.action = some (.instruction (Sample.defer 8 4)))
      (by decide +kernel)
  simp only [List.any_eq_true, Bool.and_eq_true, decide_eq_true_eq,
    Option.any_eq_true, Option.isSome_iff_exists] at passes
  obtain ⟨transition, member, ⟨⟨before, started, unwinding⟩, after, reached⟩, executed⟩ := passes
  have isFinal := (final _ _ _ run).transitions transition member before after
    started reached unwinding
  exact isFinal.noInstruction _ executed

end Savor.Program

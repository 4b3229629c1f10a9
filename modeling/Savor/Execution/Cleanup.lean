import Mathlib.Data.List.Chain
import Savor.Execution.Unwinding

/-!
# The cleanup discipline

What a run opens, registers and requests is recorded as a log.  The log of a
complete run is well bracketed: every scope that was opened is closed after the
actions deferred in it were requested, newest first, and the invocation is
finished last.
-/

namespace Savor.Program

open ExecutorEvent
open Executor
open PumpResult
open ExecutorRun

/-- An event of the cleanup discipline. -/
inductive ScopeEvent
  /-- The host opened a scope. -/
  | opened (scope parent : ProgramScopeId)
  /-- An action was deferred in the innermost scope. -/
  | registered (deferred : DeferredAction)
  /-- The host was asked for something. -/
  | requested (request : ExecutorHostRequest)

/-- The scope that an accepted completion reports as opened. -/
def Control.openedScope (control : Control) : ExecutorInput → ExecutorEvent → List ScopeEvent
  | .deliverHostCompletion completion, event =>
    match control.pending with
    | some pending =>
      if event.accepts && completion.status = .completed && pending.success = .pushScope then
        [.opened pending.request.scope pending.request.parentScope]
      else []
    | none => []
  | _, _ => []

/-- The action that a successful `DeferCompensation` put on the innermost
scope. -/
def Control.registeredAction (after : Control) : ExecutorEvent → List ScopeEvent
  | .iterated (.instruction instruction) _ =>
    if instruction.opcode = .deferCompensation && after.activity = .runnable then
      match after.scopes with
      | scope :: _ => (scope.deferred.head?.map ScopeEvent.registered).toList
      | [] => []
    else []
  | _ => []

/-- What a step adds to the log. -/
def Control.scopeEvents (before after : Control) (input : ExecutorInput)
    (event : ExecutorEvent) : List ScopeEvent :=
  before.openedScope input event ++ after.registeredAction event ++
    (event.request.map ScopeEvent.requested).toList

/-- What a transition adds to the log. -/
def transitionScopeEvents (transition : ExecutorTransition) : List ScopeEvent :=
  match transition.before.executor?, transition.after.executor? with
  | some before, some after =>
    before.control.scopeEvents after.control transition.input transition.event
  | _, _ => []

/-- The log of a run. -/
def scopeLog (history : List ExecutorTransition) : List ScopeEvent :=
  history.flatMap transitionScopeEvents

/-- A request that the program makes for itself. -/
structure ExecutorHostRequest.IsOrdinary (request : ExecutorHostRequest) : Prop where
  uncleaned : request.cleanupOnly = false
  operation : request.operation = .invokeAction ∨
    request.operation = .openScope ∨ request.operation = .promoteResource

/-- The requests for the actions deferred in a scope. -/
def Scope.deferredRequests (scope : Scope) (deferred : List DeferredAction) : List ScopeEvent :=
  deferred.map fun action => .requested
    (cleanupRequest scope .invokeAction (some action.action) action.input)

/-- The request to close a scope. -/
def Scope.closing (scope : Scope) : ScopeEvent :=
  .requested (cleanupRequest scope .closeScope none unitGraph)

/-- The request to finish the invocation. -/
def Scope.finishing (scope : Scope) : ScopeEvent :=
  .requested (cleanupRequest scope .finishInvocation none unitGraph)

/-- What is logged inside a scope before its cleanup, and the actions it leaves
deferred, newest first.  A nested scope is complete: it is opened, its deferred
actions are requested newest first, and it is closed. -/
inductive ScopeBody : List DeferredAction → List ScopeEvent → Prop
  | nil : ScopeBody [] []
  | ordinary {deferred log request}
      (body : ScopeBody deferred log)
      (ordinary : request.IsOrdinary) :
      ScopeBody deferred (log ++ [.requested request])
  | registered {deferred log} (action)
      (body : ScopeBody deferred log) :
      ScopeBody (action :: deferred) (log ++ [.registered action])
  | nested {deferred log inner innerLog} (scope : Scope)
      (body : ScopeBody deferred log)
      (innerBody : ScopeBody inner innerLog) :
      ScopeBody deferred
        (log ++ (.opened scope.id scope.parent :: innerLog ++
          scope.deferredRequests inner ++ [scope.closing]))

/-- The log of a complete run: the body of the invocation scope, the actions
deferred in it, and the end of the invocation as the last request. -/
def CompleteLog (log : List ScopeEvent) : Prop :=
  ∃ (scope : Scope) (deferred : List DeferredAction) (body : List ScopeEvent),
    scope.id = invocationScope ∧ ScopeBody deferred body ∧
    log = body ++ scope.deferredRequests deferred ++ [scope.finishing]

/-- The log of a run whose open scopes have begun no cleanup. -/
inductive OpenLog : List Scope → List ScopeEvent → Prop
  | invocation {scope log}
      (identifier : scope.id = invocationScope)
      (body : ScopeBody scope.deferred log) :
      OpenLog [scope] log
  | nested {scope outer scopes outerLog log}
      (enclosing : OpenLog (outer :: scopes) outerLog)
      (body : ScopeBody scope.deferred log) :
      OpenLog (scope :: outer :: scopes) (outerLog ++ (.opened scope.id scope.parent :: log))

/-- The log of a run whose innermost scope may have begun its cleanup:
`drained` are the deferred actions already requested. -/
structure CleaningLog (drained : List DeferredAction) (scope : Scope)
    (outer : List Scope) (log : List ScopeEvent) : Prop where
  split : ∃ opened,
    OpenLog ({ scope with deferred := drained ++ scope.deferred } :: outer) opened ∧
    log = opened ++ scope.deferredRequests drained

namespace OpenLog

variable {scope : Scope} {outer scopes : List Scope} {log suffix : List ScopeEvent}

theorem single (opened : OpenLog [scope] log) : scope.id = invocationScope := by
  cases opened with
  | invocation identifier => exact identifier

variable {deferred : List DeferredAction}

theorem extend (opened : OpenLog (scope :: outer) log)
    (extends' : ∀ body, ScopeBody scope.deferred body → ScopeBody deferred (body ++ suffix)) :
    OpenLog ({ scope with deferred := deferred } :: outer) (log ++ suffix) := by
  cases opened with
  | invocation identifier body => exact .invocation identifier (extends' _ body)
  | nested enclosing body =>
    rw [List.append_assoc, List.cons_append]
    have longer : ScopeBody
        ({ scope with deferred := deferred } : Scope).deferred _ :=
      extends' _ body
    exact .nested enclosing longer

theorem ordinary {request : ExecutorHostRequest}
    (opened : OpenLog (scope :: outer) log) (isOrdinary : request.IsOrdinary) :
    OpenLog (scope :: outer) (log ++ [.requested request]) :=
  opened.extend fun _ body => body.ordinary isOrdinary

theorem close {next : Scope}
    (opened : OpenLog ({ scope with deferred := deferred } :: next :: outer) log) :
    OpenLog (next :: outer) (log ++ scope.deferredRequests deferred ++ [scope.closing]) := by
  cases opened with
  | nested enclosing body =>
    have complete := enclosing.extend fun _ outerBody => ScopeBody.nested scope outerBody body
    have same : ∀ left middle requests closing : List ScopeEvent,
        left ++ (.opened scope.id scope.parent :: middle) ++ requests ++ closing =
        left ++ (.opened scope.id scope.parent :: middle ++ requests ++ closing) := by
      intros
      simp
    rw [same]
    exact complete

end OpenLog

namespace CleaningLog

variable {drained : List DeferredAction} {scope : Scope}
variable {outer : List Scope} {log : List ScopeEvent}

theorem of_open (opened : OpenLog (scope :: outer) log) : CleaningLog [] scope outer log :=
  ⟨log, opened, by simp [Scope.deferredRequests]⟩

theorem to_open (cleaning : CleaningLog [] scope outer log) : OpenLog (scope :: outer) log := by
  obtain ⟨opened, isOpen, rfl⟩ := cleaning.split
  simpa [Scope.deferredRequests] using isOpen

theorem drain {action : DeferredAction} {rest : List DeferredAction}
    (cleaning : CleaningLog drained scope outer log)
    (registered : scope.deferred = action :: rest) :
    CleaningLog (drained ++ [action]) { scope with deferred := rest } outer
      (log ++ scope.deferredRequests [action]) := by
  obtain ⟨opened, isOpen, rfl⟩ := cleaning.split
  refine ⟨opened, ?_, ?_⟩
  · rw [registered] at isOpen
    simpa using isOpen
  rw [List.append_assoc]
  unfold Scope.deferredRequests
  rw [List.map_append]
  rfl

theorem close {next : Scope} (cleaning : CleaningLog drained scope (next :: outer) log)
    (exhausted : scope.deferred = []) : OpenLog (next :: outer) (log ++ [scope.closing]) := by
  obtain ⟨opened, isOpen, rfl⟩ := cleaning.split
  rw [exhausted, List.append_nil] at isOpen
  exact isOpen.close

theorem finish (cleaning : CleaningLog drained scope [] log) (exhausted : scope.deferred = []) :
    CompleteLog (log ++ [scope.finishing]) := by
  obtain ⟨opened, isOpen, rfl⟩ := cleaning.split
  rw [exhausted, List.append_nil] at isOpen
  cases isOpen with
  | invocation identifier body => exact ⟨scope, drained, opened, identifier, body, rfl⟩

end CleaningLog

/-- The relation between the log and the control state: what the innermost
scope has requested already, and what the pending request is about. -/
inductive Control.Logged (control : Control) (log : List ScopeEvent) : Prop
  /-- The scopes are open; the innermost one is drained only while the program
  stops. -/
  | cleaning {drained scope outer}
      (live : control.activity ≠ .terminal)
      (waits : control.activity = .awaitingHost → ∀ pending, control.pending = some pending →
          pending.success ≠ .closeScope ∧ pending.success ≠ .finishInvocation)
      (stack : control.scopes = scope :: outer)
      (cleans : CleaningLog drained scope outer log)
      (stops : drained ≠ [] → control.stopping = true)
  /-- The innermost scope is being closed. -/
  | closing {scope next outer pending}
      (awaiting : control.activity = .awaitingHost)
      (waiting : control.pending = some pending)
      (close : pending.success = .closeScope)
      (stack : control.scopes = scope :: next :: outer)
      (closed : OpenLog (next :: outer) log)
  /-- The invocation is being finished. -/
  | finishing {scope pending}
      (awaiting : control.activity = .awaitingHost)
      (waiting : control.pending = some pending)
      (finish : pending.success = .finishInvocation)
      (stack : control.scopes = [scope])
      (complete : CompleteLog log)
  /-- The invocation is finished. -/
  | finished {scope}
      (terminal : control.activity = .terminal)
      (stack : control.scopes = [scope])
      (complete : CompleteLog log)

/-- The invariant of the cleanup discipline. -/
structure Control.CleanupInvariant (control : Control) (log : List ScopeEvent) : Prop where
  unwinding : control.UnwindingInvariant
  /-- The invocation scope is not closed explicitly. -/
  enclosed : control.explicitScopeClose = true → control.scopes.length > 1
  logged : control.Logged log

section Events

variable {before after : Control} {input : ExecutorInput} {event : ExecutorEvent}

theorem Control.openedScope_of_refused (refused : event.accepts = false) :
    before.openedScope input event = [] := by
  unfold Control.openedScope
  split
  · split <;> simp [refused]
  · rfl

theorem Control.registeredAction_of_inert
    (inert : ∀ action, event.action = some action → action.isInert) :
    after.registeredAction event = [] := by
  unfold Control.registeredAction
  split
  · exact absurd (inert _ rfl) (by simp [PumpAction.isInert])
  · rfl

variable {instruction : Instruction} {returned : Option PumpResult}
variable {reducers : Option PureReducerInvoker}

theorem Control.registeredAction_of_opcode (opcode : instruction.opcode ≠ .deferCompensation) :
    after.registeredAction (.iterated (.instruction instruction) returned) = [] := by
  simp [Control.registeredAction, opcode]

/-- A step that is refused, inert and asks for nothing logs nothing. -/
theorem Control.scopeEvents_of_inert (inert : ∀ action, event.action = some action → action.isInert)
    (unasked : event.request = none) (refused : event.accepts = false) :
    before.scopeEvents after input event = [] := by
  unfold Control.scopeEvents
  rw [Control.openedScope_of_refused refused, Control.registeredAction_of_inert inert, unasked]
  rfl

theorem Control.scopeEvents_of_opcode (opcode : instruction.opcode ≠ .deferCompensation) :
    before.scopeEvents after (.iterate reducers) (.iterated (.instruction instruction) returned) =
      ((returned.bind hostRequest).map ScopeEvent.requested).toList := by
  unfold Control.scopeEvents
  rw [Control.registeredAction_of_opcode opcode]
  cases returned <;> rfl

/-- An instruction that stops the program logs nothing without a request. -/
theorem Control.scopeEvents_of_stopped (unasked : returned.bind hostRequest = none)
    (stops : after.activity ≠ .runnable) : before.scopeEvents after (.iterate reducers)
      (.iterated (.instruction instruction) returned) = [] := by
  unfold Control.scopeEvents Control.registeredAction
  cases returned with
  | none => simp [stops, Control.openedScope, request]
  | some result =>
    have unasked' : result.hostRequest = none := unasked
    simp [stops, Control.openedScope, request, unasked']

theorem Control.scopeEvents_of_deferred
    (scope : Scope) (outer : List Scope) (action : DeferredAction)
    (opcode : instruction.opcode = .deferCompensation) (unasked : returned.bind hostRequest = none)
    (runnable : after.activity = .runnable) (stack : after.scopes =
      { scope with deferred := action :: scope.deferred } :: outer) :
    before.scopeEvents after (.iterate reducers)
      (.iterated (.instruction instruction) returned) =
      [.registered action] := by
  unfold Control.scopeEvents Control.registeredAction
  cases returned with
  | none => simp [opcode, runnable, stack, Control.openedScope, request]
  | some result =>
    have unasked' : result.hostRequest = none := unasked
    simp [opcode, runnable, stack, Control.openedScope, request, unasked']

variable {completion : ProgramActionResolution}

theorem Control.scopeEvents_of_answer {delivery : Delivery} {pending : PendingHost}
    (waiting : before.pending = some pending)
    (unopened : completion.status = .completed → pending.success ≠ .pushScope) :
    before.scopeEvents after (.deliverHostCompletion completion) (.delivered delivery) = [] := by
  have closed : before.openedScope (.deliverHostCompletion completion)
      (.delivered delivery) = [] := by
    unfold Control.openedScope
    simp only [waiting]
    split
    · rename_i completed
      simp only [Bool.and_eq_true, decide_eq_true_eq] at completed
      exact absurd completed.2 (unopened completed.1.2)
    · rfl
  unfold Control.scopeEvents
  rw [closed]
  rfl

theorem Control.scopeEvents_of_opening {delivery : Delivery} {pending : PendingHost}
    (waiting : before.pending = some pending) (accepted : delivery.accepted = true)
    (completed : completion.status = .completed) (push : pending.success = .pushScope) :
    before.scopeEvents after (.deliverHostCompletion completion) (.delivered delivery) =
      [.opened pending.request.scope pending.request.parentScope] := by
  simp [Control.scopeEvents, Control.openedScope, Control.registeredAction,
    waiting, accepts, request, accepted, completed, push]

end Events

namespace Control.CleanupInvariant

variable {control after : Control} {log : List ScopeEvent}

/-- The scope stack is never empty. -/
theorem scopes_ne_nil (invariant : control.CleanupInvariant log) : control.scopes ≠ [] := by
  cases invariant.logged with
  | cleaning _ _ stack | closing _ _ _ stack | finishing _ _ _ stack
  | finished _ stack => simp [stack]

theorem runnable_open (invariant : control.CleanupInvariant log)
    (runnable : control.activity = .runnable) : ∃ scope outer, control.scopes = scope :: outer ∧
      OpenLog (scope :: outer) log := by
  have steady := invariant.unwinding.steady runnable
  cases invariant.logged with
  | @cleaning drained scope outer _ _ stack cleans stops =>
    have undrained : drained = [] := by
      by_contra some
      rw [stops some] at steady
      cases steady
    subst undrained
    exact ⟨scope, outer, stack, cleans.to_open⟩
  | closing awaiting | finishing awaiting => rw [runnable] at awaiting; cases awaiting
  | finished terminal => rw [runnable] at terminal; cases terminal

variable {pending : PendingHost}

section

variable (invariant : control.CleanupInvariant log)
variable (awaiting : control.activity = .awaitingHost)
variable (waiting : control.pending = some pending)
include invariant awaiting waiting

/-- A program that waits for something other than a close or the finish is
cleaning at most. -/
theorem awaiting_cleaning (open' : pending.success ≠ .closeScope)
    (running : pending.success ≠ .finishInvocation) :
    ∃ drained scope outer, control.scopes = scope :: outer ∧ CleaningLog drained scope outer log ∧
      (drained ≠ [] → control.stopping = true) := by
  cases invariant.logged with
  | cleaning _ _ stack cleans stops => exact ⟨_, _, _, stack, cleans, stops⟩
  | closing _ waiting' close =>
    rw [waiting] at waiting'
    cases waiting'
    exact absurd close open'
  | finishing _ waiting' finish =>
    rw [waiting] at waiting'
    cases waiting'
    exact absurd finish running
  | finished terminal => rw [awaiting] at terminal; cases terminal

/-- A program that waits for an ordinary request has begun no cleanup. -/
theorem ordinary_open (ordinary : pending.success.isOrdinary = true) :
    ∃ scope outer, control.scopes = scope :: outer ∧ OpenLog (scope :: outer) log := by
  have steady := invariant.unwinding.ordinary_steady awaiting waiting ordinary
  obtain ⟨drained, scope, outer, stack, cleans, stops⟩ :=
    invariant.awaiting_cleaning awaiting waiting
      (by intro close; rw [close] at ordinary; cases ordinary)
      (by intro finish; rw [finish] at ordinary; cases ordinary)
  have undrained : drained = [] := by
    by_contra some
    rw [stops some] at steady
    cases steady
  subst undrained
  exact ⟨scope, outer, stack, cleans.to_open⟩

end

variable {outer : List Scope} {scope : Scope}

theorem of_open (unwinding : after.UnwindingInvariant)
    (enclosed : after.explicitScopeClose = true → after.scopes.length > 1)
    (live : after.activity ≠ .terminal) (waits : after.activity = .awaitingHost →
      ∀ pending, after.pending = some pending →
        pending.success ≠ .closeScope ∧ pending.success ≠ .finishInvocation)
    (stack : after.scopes = scope :: outer) (opened : OpenLog (scope :: outer) log) :
    after.CleanupInvariant log where
  unwinding := unwinding
  enclosed := enclosed
  logged := .cleaning live waits stack (.of_open opened) (by simp)

section

variable (invariant : control.CleanupInvariant log)
include invariant

theorem runnable_implicit (runnable : control.activity = .runnable) :
    control.explicitScopeClose = false := by
  have steady := invariant.unwinding.steady runnable
  simp only [Control.stopping, Bool.or_eq_false_iff] at steady
  exact steady.2

/-- A failure leaves the log as it is. -/
theorem fail (active : control.activity = .runnable ∨ control.activity = .unwinding)
    (status : ProgramInfrastructureStatus) : (control.fail status).CleanupInvariant log := by
  refine ⟨invariant.unwinding.fail status, ?_, ?_⟩
  · unfold Control.fail
    split
    · exact invariant.enclosed
    · simp
  cases invariant.logged with
  | cleaning live waits stack cleans stops =>
    unfold Control.fail
    split
    · exact .cleaning live waits stack cleans stops
    · exact .cleaning (by simp) (by simp) stack cleans (by simp [Control.stopping])
  | closing awaiting | finishing awaiting =>
    rw [awaiting] at active
    rcases active with absurd | absurd <;> cases absurd
  | finished terminal =>
    rw [terminal] at active
    rcases active with absurd | absurd <;> cases absurd

/-- Executing an instruction keeps the invariant. -/
theorem instructionStep (runnable : control.activity = .runnable)
    {frame : Frame} {callers : List Frame} {instruction : Instruction}
    {reducers : Option PureReducerInvoker} {returned : Option PumpResult}
    (step : InstructionStep control frame callers instruction (returned.bind hostRequest) after) :
    after.CleanupInvariant (log ++ control.scopeEvents after (.iterate reducers)
        (.iterated (.instruction instruction) returned)) := by
  have unwinding := invariant.unwinding.instructionStep runnable step
  have implicit := invariant.runnable_implicit runnable
  obtain ⟨scope, outer, stack, opened⟩ := invariant.runnable_open runnable
  generalize asks : returned.bind hostRequest = request at step
  -- What is logged by an instruction that defers nothing.
  have logs : instruction.opcode ≠ .deferCompensation →
      control.scopeEvents after (.iterate reducers)
        (.iterated (.instruction instruction) returned) =
        (request.map ScopeEvent.requested).toList := by
    intro opcode
    rw [Control.scopeEvents_of_opcode opcode, asks]
  cases step with
  | failed status =>
    have steady := invariant.unwinding.unwinding_false runnable
    have stops : (control.fail status).activity ≠ .runnable := by
      simp [Control.fail, steady, runnable]
    rw [Control.scopeEvents_of_stopped asks stops, List.append_nil]
    exact invariant.fail (.inl runnable) status
  | bound opcode =>
    rw [logs (by rintro absurd; rw [absurd] at opcode; cases opcode)]
    rw [Option.map_none, Option.toList_none, List.append_nil]
    exact of_open unwinding (by simp [implicit]) (by simp [runnable])
      (by simp [runnable]) stack opened
  | called target =>
    have opcode : instruction.opcode ≠ .deferCompensation := by
      intro absurd
      cases target with
      | «local» opcode | imported opcode =>
        rw [absurd] at opcode
        cases opcode
    rw [logs opcode, Option.map_none, Option.toList_none, List.append_nil]
    exact of_open unwinding (by simp [implicit]) (by simp [runnable])
      (by simp [runnable]) stack opened
  | effected opcode =>
    rw [logs (by rcases opcode with is | is <;> simp [is])]
    rw [Option.map_none, Option.toList_none, List.append_nil]
    exact of_open unwinding (by simp [implicit]) (by simp [runnable])
      (by simp [runnable]) stack opened
  | awaited opcode _ _ asked | scopeEntered opcode _ _ asked
  | promoted opcode asked =>
    rw [logs (by simp [opcode])]
    exact of_open unwinding (by simp [Control.suspend, implicit])
      (by simp [Control.suspend]) (by simp [Control.suspend]) stack
      (opened.ordinary (by rw [asked]; exact ⟨rfl, by simp⟩))
  | scopeExited opcode exited enclosed =>
    rw [logs (by simp [opcode])]
    rw [Option.map_none, Option.toList_none, List.append_nil]
    refine of_open unwinding ?_ (by simp) (by simp) stack opened
    intro _
    have deep := List.length_pos_of_ne_nil enclosed
    simp only [exited, List.length_cons]
    omega
  | @deferred dependency _ input deepest enclosing opcode _ _ innermost =>
    rw [stack] at innermost
    cases innermost
    rw [Control.scopeEvents_of_deferred scope outer ⟨dependency, input⟩ opcode asks]
    · exact of_open unwinding (by simp [implicit]) (by simp [runnable])
        (by simp [runnable]) rfl
        (opened.extend fun _ body => body.registered _)
    · exact runnable
    · rfl

/-- Executing a terminator keeps the invariant and logs nothing. -/
theorem terminatorStep (runnable : control.activity = .runnable)
    {frame : Frame} {callers : List Frame} {terminator : Terminator}
    (step : TerminatorStep control frame callers terminator after) :
    after.CleanupInvariant log := by
  have unwinding := invariant.unwinding.terminatorStep step
  have implicit := invariant.runnable_implicit runnable
  obtain ⟨scope, outer, stack, opened⟩ := invariant.runnable_open runnable
  cases step with
  | failed status => exact invariant.fail (.inl runnable) status
  | entered | returned | returnBound =>
    exact of_open unwinding (by simp [implicit]) (by simp [runnable])
      (by simp [runnable]) stack opened
  | @returnFailed caller rest status =>
    have reframed : Control.CleanupInvariant
        { control with frames := caller :: rest } log :=
      of_open (invariant.unwinding.withFrames _) (by simp [implicit])
        (by simp [runnable]) (by simp [runnable]) stack opened
    exact reframed.fail (.inl runnable) status
  | finished =>
    exact of_open unwinding (by simp [Control.finish])
      (by simp [Control.finish]) (by simp [Control.finish]) stack opened

theorem cleanupStep (active : control.activity = .unwinding) {request : Option ExecutorHostRequest}
    (step : CleanupStep control request after) : after.CleanupInvariant
      (log ++ (request.map ScopeEvent.requested).toList) := by
  have unwinding := invariant.unwinding.cleanupStep active step
  have stopping := invariant.unwinding.stops active
  have nonempty := invariant.scopes_ne_nil
  have enclosed := invariant.enclosed
  cases invariant.logged with
  | closing awaiting | finishing awaiting =>
    rw [active] at awaiting
    cases awaiting
  | finished terminal =>
    rw [active] at terminal
    cases terminal
  | @cleaning drained scope outer _ _ stack cleans =>
    cases step with
    | underflow empty => exact absurd empty nonempty
    | deferred innermost registered asked =>
      rw [stack] at innermost
      cases innermost
      refine ⟨unwinding, ?_, ?_⟩
      · simpa [Control.suspend, stack] using enclosed
      rw [asked]
      exact .cleaning (by simp [Control.suspend])
        (by simp [Control.suspend]) rfl (cleans.drain registered)
        (fun _ => stopping)
    | close innermost exhausted deep asked =>
      rw [stack] at innermost
      cases innermost
      refine ⟨unwinding, enclosed, ?_⟩
      cases outer with
      | nil =>
        rcases deep with explicitly | absurd'
        · have long := enclosed explicitly
          simp [stack] at long
        · exact absurd rfl absurd'
      | cons next outer =>
        rw [asked]
        exact .closing rfl rfl rfl stack (cleans.close exhausted)
    | finish innermost exhausted _ asked =>
      rw [stack] at innermost
      cases innermost
      refine ⟨unwinding, enclosed, ?_⟩
      rw [asked]
      exact .finishing rfl rfl rfl stack (cleans.finish exhausted)

theorem awaiting_closing (awaiting : control.activity = .awaitingHost)
    (waiting : control.pending = some pending) (close : pending.success = .closeScope) :
    ∃ scope next outer, control.scopes = scope :: next :: outer ∧ OpenLog (next :: outer) log := by
  cases invariant.logged with
  | cleaning _ waits => exact absurd close (waits awaiting pending waiting).1
  | closing _ _ _ stack closed => exact ⟨_, _, _, stack, closed⟩
  | finishing _ waiting' finish =>
    rw [waiting] at waiting'
    cases waiting'
    rw [close] at finish
    cases finish
  | finished terminal =>
    rw [awaiting] at terminal
    cases terminal

theorem awaiting_finishing (awaiting : control.activity = .awaitingHost)
    (waiting : control.pending = some pending) (finish : pending.success = .finishInvocation) :
    ∃ scope, control.scopes = [scope] ∧ CompleteLog log := by
  cases invariant.logged with
  | cleaning _ waits => exact absurd finish (waits awaiting pending waiting).2
  | closing _ waiting' close =>
    rw [waiting] at waiting'
    cases waiting'
    rw [finish] at close
    cases close
  | finishing _ _ _ stack complete => exact ⟨_, stack, complete⟩
  | finished terminal =>
    rw [awaiting] at terminal
    cases terminal

end

theorem resume {frames : List Frame} (unwinding : ({ control.resume with frames := frames } :
      Control).UnwindingInvariant) (steady : control.stopping = false)
    (stack : control.scopes = scope :: outer) (opened : OpenLog (scope :: outer) log) :
    ({ control.resume with frames := frames } : Control).CleanupInvariant log := by
  simp only [Control.stopping, Bool.or_eq_false_iff] at steady
  exact of_open unwinding (by simp [Control.resume, steady.2])
    (by simp [Control.resume]) (by simp [Control.resume]) stack opened

variable {drained : List DeferredAction}

theorem resume_fail (steady : control.unwinding = false) (stack : control.scopes = scope :: outer)
    (cleans : CleaningLog drained scope outer log) (status : ProgramInfrastructureStatus) :
    (control.resume.fail status).CleanupInvariant log := by
  refine ⟨Control.UnwindingInvariant.resume_fail steady status, ?_, ?_⟩
  · simp [Control.fail, Control.resume, steady]
  unfold Control.fail
  rw [if_neg (by simp [Control.resume, steady])]
  exact .cleaning (by simp) (by simp) stack cleans (by simp [Control.stopping])

theorem unwind (unwinding : after.UnwindingInvariant)
    (enclosed : after.explicitScopeClose = true → after.scopes.length > 1)
    (active : after.activity = .unwinding) (stack : after.scopes = scope :: outer)
    (cleans : CleaningLog drained scope outer log) : after.CleanupInvariant log :=
  ⟨unwinding, enclosed,
    .cleaning (by simp [active]) (by simp [active]) stack cleans fun _ => unwinding.stops active⟩

theorem deliveryStep (invariant : control.CleanupInvariant log)
    (awaiting : control.activity = .awaitingHost) (waiting : control.pending = some pending)
    {completion : ProgramActionResolution} {delivery : Delivery}
    (accepted : pending.success ≠ .bindValue → delivery.accepted = true) {resumes : Prop}
    (step : DeliveryStep control pending completion resumes after) (final : ¬resumes) :
    after.CleanupInvariant (log ++
      control.scopeEvents after (.deliverHostCompletion completion) (.delivered delivery)) := by
  have unwinding := invariant.unwinding.deliveryStep awaiting waiting step final
  have enclosed := invariant.enclosed
  have opens : pending.success.isOrdinary = true → _ := invariant.ordinary_open awaiting waiting
  have steadyOf := invariant.unwinding.ordinary_steady awaiting waiting
  have unwindingOf : pending.success.isOrdinary = true →
      control.unwinding = false := by
    intro ordinary
    have steady := steadyOf ordinary
    simp only [Control.stopping, Bool.or_eq_false_iff] at steady
    exact steady.1
  -- Every completion but the opening of a scope logs nothing.
  have logs : (completion.status = .completed → pending.success ≠ .pushScope) →
      log ++ control.scopeEvents after (.deliverHostCompletion completion)
        (.delivered delivery) = log := by
    intro unopened
    rw [Control.scopeEvents_of_answer waiting unopened, List.append_nil]
  cases step with
  | overBudget completed operation unwinds =>
    rcases invariant.unwinding.invoked pending waiting operation with
      value | deferred
    · rw [logs (by simp [value])]
      obtain ⟨scope, outer, stack, opened⟩ := opens (by rw [value]; rfl)
      exact resume_fail (unwindingOf (by rw [value]; rfl)) stack (.of_open opened) _
    rw [logs (by simp [deferred])]
    have steady : control.unwinding = false := by
      by_contra unwinding
      exact final (unwinds (by simpa using unwinding) deferred)
    obtain ⟨drained, scope, outer, stack, cleans, _⟩ :=
      invariant.awaiting_cleaning awaiting waiting (by simp [deferred]) (by simp [deferred])
    exact resume_fail steady stack cleans _
  | actionFailed status unsuccessful ordinary =>
    rw [logs (absurd · unsuccessful)]
    obtain ⟨scope, outer, stack, opened⟩ := opens ordinary
    exact resume_fail (unwindingOf ordinary) stack (.of_open opened) status
  | deferredFailed unsuccessful cleanup =>
    rw [logs (absurd · unsuccessful)]
    obtain ⟨drained, scope, outer, stack, cleans, _⟩ :=
      invariant.awaiting_cleaning awaiting waiting (by simp [cleanup]) (by simp [cleanup])
    exact unwind unwinding enclosed rfl stack cleans
  | closeFailed unsuccessful close =>
    rw [logs (absurd · unsuccessful)]
    obtain ⟨scope, next, outer, stack, closed⟩ := invariant.awaiting_closing awaiting waiting close
    exact unwind unwinding (by simp) rfl (by simp [stack]) (.of_open closed)
  | finishFailed unsuccessful finish =>
    rw [logs (absurd · unsuccessful)]
    obtain ⟨scope, stack, complete⟩ := invariant.awaiting_finishing awaiting waiting finish
    exact ⟨unwinding, enclosed, .finished rfl stack complete⟩
  | unbound _ value | bound _ value =>
    rw [logs (by simp [value])]
    obtain ⟨scope, outer, stack, opened⟩ := opens (by rw [value]; rfl)
    exact resume unwinding (steadyOf (by rw [value]; rfl)) stack opened
  | bindFailed status _ value =>
    rw [logs (by simp [value])]
    obtain ⟨scope, outer, stack, opened⟩ := opens (by rw [value]; rfl)
    exact resume_fail (unwindingOf (by rw [value]; rfl)) stack (.of_open opened) status
  | scopePushed completed push =>
    rw [Control.scopeEvents_of_opening waiting (accepted (by simp [push])) completed push]
    obtain ⟨scope, outer, stack, opened⟩ := opens (by rw [push]; rfl)
    have steady := steadyOf (by rw [push]; rfl)
    simp only [Control.stopping, Bool.or_eq_false_iff] at steady
    have pushed : OpenLog (⟨pending.request.scope,
        pending.request.parentScope, []⟩ :: scope :: outer)
        (log ++ [.opened pending.request.scope pending.request.parentScope]) :=
      .nested opened .nil
    rw [← stack] at pushed
    exact of_open unwinding (by simp [Control.resume, steady.2])
      (by simp [Control.resume]) (by simp [Control.resume]) rfl pushed
  | scopeClosed _ close implicit =>
    rw [logs (by simp [close])]
    obtain ⟨scope, next, outer, stack, closed⟩ := invariant.awaiting_closing awaiting waiting close
    exact unwind unwinding (by simp [implicit]) rfl (by simp [stack]) (.of_open closed)
  | scopeClosedExplicitly _ close =>
    rw [logs (by simp [close])]
    obtain ⟨scope, next, outer, stack, closed⟩ := invariant.awaiting_closing awaiting waiting close
    exact of_open unwinding (by simp) (by simp [Control.resume])
      (by simp [Control.resume]) (by simp [stack]) closed
  | promoted _ promote =>
    rw [logs (by simp [promote])]
    obtain ⟨scope, outer, stack, opened⟩ := opens (by rw [promote]; rfl)
    exact resume unwinding (steadyOf (by rw [promote]; rfl)) stack opened
  | deferredDone _ cleanup =>
    rw [logs (by simp [cleanup])]
    obtain ⟨drained, scope, outer, stack, cleans, _⟩ :=
      invariant.awaiting_cleaning awaiting waiting (by simp [cleanup]) (by simp [cleanup])
    exact unwind unwinding enclosed rfl stack cleans
  | finished _ finish =>
    rw [logs (by simp [finish])]
    obtain ⟨scope, stack, complete⟩ := invariant.awaiting_finishing awaiting waiting finish
    exact ⟨unwinding, enclosed, .finished rfl stack complete⟩

theorem identified (invariant : control.CleanupInvariant log)
    (waiting : control.pending = some pending) {requestId : ProgramActionRequestId}
    (unwinding : ({ control with
      pending := some { pending with requestId := some requestId } } :
        Control).UnwindingInvariant) :
    ({ control with
      pending := some { pending with requestId := some requestId } } :
        Control).CleanupInvariant log := by
  refine ⟨unwinding, invariant.enclosed, ?_⟩
  cases invariant.logged with
  | cleaning live waits stack cleans stops =>
    refine .cleaning live ?_ stack cleans stops
    rintro awaiting _ ⟨⟩
    exact waits awaiting pending waiting
  | closing awaiting waiting' close stack closed =>
    rw [waiting] at waiting'
    cases waiting'
    exact .closing awaiting rfl close stack closed
  | finishing awaiting waiting' finish stack complete =>
    rw [waiting] at waiting'
    cases waiting'
    exact .finishing awaiting rfl finish stack complete
  | finished terminal stack complete => exact .finished terminal stack complete

/-- Every step that does not resume an unwinding program keeps the
invariant. -/
theorem controlStep (invariant : control.CleanupInvariant log)
    {resumes : Prop} {input : ExecutorInput} {event : ExecutorEvent}
    (step : ControlStep control resumes input event after) (final : ¬resumes) :
    after.CleanupInvariant (log ++ control.scopeEvents after input event) := by
  have unwinding := invariant.unwinding.controlStep step final
  cases step with
  | quiet inert unasked refused =>
    rw [Control.scopeEvents_of_inert inert unasked refused, List.append_nil]
    exact invariant
  | identified waiting =>
    rw [Control.scopeEvents_of_inert (by simp [action]) rfl rfl, List.append_nil]
    exact invariant.identified waiting unwinding
  | failed status inert unasked refused active =>
    rw [Control.scopeEvents_of_inert inert unasked refused, List.append_nil]
    exact invariant.fail active status
  | cleanup active step => exact invariant.cleanupStep active step
  | instruction runnable _ _ _ step => exact invariant.instructionStep runnable step
  | terminator runnable _ _ _ step =>
    have kept := invariant.terminatorStep runnable step
    rw [← List.append_nil log] at kept
    exact kept
  | delivered awaiting waiting _ accepted step =>
    exact invariant.deliveryStep awaiting waiting accepted step final

end Control.CleanupInvariant

/-- A new executor satisfies the invariant. -/
theorem Executor.start_cleanupInvariant {verified : VerifiedProgramModule}
    {invocation : ProgramInvocation} {executor : Executor}
    (accepted : start verified invocation = .ok executor) :
    executor.control.CleanupInvariant [] := by
  have unwinding := start_unwindingInvariant accepted
  obtain ⟨function, block, argument, measured, -, -, rfl⟩ := start_eq_ok accepted
  rw [control_trace] at unwinding ⊢
  exact .of_open unwinding (by simp [initial, control]) (by simp [initial, control])
    (by simp [initial, control]) rfl (.invocation rfl .nil)

theorem ControlStep.finishing {control after : Control} {resumes : Prop}
    {log : List ScopeEvent} (invariant : control.CleanupInvariant log)
    {input : ExecutorInput} {event : ExecutorEvent}
    (step : ControlStep control resumes input event after)
    {request : ExecutorHostRequest} (asked : event.request = some request)
    (finish : request.operation = .finishInvocation) :
    ∃ scope, control.scopes = [scope] ∧ scope.id = invocationScope ∧ scope.deferred = [] := by
  cases step with
  | quiet _ unasked | failed _ _ unasked =>
    rw [unasked] at asked
    cases asked
  | identified | terminator | delivered => cases asked
  | @cleanup reducers result _ active step =>
    have asked' : result.hostRequest = some request := asked
    rw [asked'] at step
    cases step with
    | deferred _ _ is | close _ _ _ is =>
      rw [is] at finish
      cases finish
    | @finish scope _ stack exhausted =>
      refine ⟨scope, stack, ?_, exhausted⟩
      cases invariant.logged with
      | closing awaiting | finishing awaiting =>
        rw [active] at awaiting
        cases awaiting
      | finished terminal =>
        rw [active] at terminal
        cases terminal
      | cleaning _ _ stack' cleans =>
        rw [stack] at stack'
        cases stack'
        obtain ⟨_, opened, _⟩ := cleans.split
        exact opened.single
  | @instruction _ returned _ _ _ _ _ _ _ _ _ step =>
    have asked' : returned.bind hostRequest = some request := by
      cases returned with
      | none => cases asked
      | some result => exact asked
    rw [asked'] at step
    cases step with
    | awaited _ _ _ is | scopeEntered _ _ _ is | promoted _ is =>
      rw [is] at finish
      cases finish

/-- What a run that reached `Terminal` has done: the scope stack was never
empty, the log is complete, and the invocation was finished when only the
invocation scope remained, with nothing deferred. -/
structure CleanupDiscipline (history : List ExecutorTransition) : Prop where
  scopes : ∀ transition ∈ history, ∀ executor,
    transition.after.executor? = some executor → executor.scopes ≠ []
  log : CompleteLog (scopeLog history)
  finish : ∀ transition ∈ history, ∀ executor request, transition.before.executor? = some executor →
    transition.event.request = some request → request.operation = .finishInvocation →
    ∃ scope, executor.scopes = [scope] ∧ scope.id = invocationScope ∧ scope.deferred = []

section Runs

variable {floats : FloatUnit} {history : List ExecutorTransition}
variable {machine : Machine}

/-- The log of a run that resumes no unwinding program is the log of its last
control state. -/
theorem ExecutorRun.cleanupInvariant (run : ExecutorRun floats UnwindingContinues history machine) :
    (machine = .idle ∧ scopeLog history = []) ∨ ∃ executor loop, machine = .started executor loop ∧
        executor.control.CleanupInvariant (scopeLog history) := by
  induction run with
  | nil => exact .inl ⟨rfl, rfl⟩
  | @snoc earlier state input event next run continues stepped
      ih =>
      unfold scopeLog at ih ⊢
      rw [List.flatMap_append, List.flatMap_singleton]
      rcases ih with
        ⟨rfl, empty⟩ | ⟨executor, loop, rfl, invariant⟩
      · rw [empty]
        have silent : transitionScopeEvents ⟨.idle, input, event, next⟩ = [] := rfl
        rw [silent]
        rcases Machine.step_idle stepped with
          rfl | ⟨verified, invocation, executor, rfl, accepted, rfl⟩
        · exact .inl ⟨rfl, rfl⟩
        · exact .inr ⟨executor, none, rfl, start_cleanupInvariant accepted⟩
      obtain ⟨executor', loop', rfl, step⟩ := Machine.step_control stepped
      exact .inr ⟨executor', loop', rfl,
        invariant.controlStep step (by simp [continues executor rfl])⟩

/-- The cleanup discipline holds of every run that reaches `Terminal` and in
which no completion of a deferred action makes an unwinding program runnable
again. -/
theorem ExecutorRun.cleanupDiscipline {executor : Executor} {loop : Option PumpLoop}
    (run : ExecutorRun floats UnwindingContinues history (.started executor loop))
    (terminal : executor.activity = .terminal) : CleanupDiscipline history := by
  let predicate : Control → Prop := fun control => ∃ log, control.CleanupInvariant log
  have started : ∀ verified invocation executor,
      UnwindingContinues .idle (.start verified invocation) →
      start verified invocation = .ok executor →
      predicate executor.control :=
    fun _ _ _ _ accepted => ⟨_, start_cleanupInvariant accepted⟩
  have preserved : ∀ executor loop input event after,
      UnwindingContinues (.started executor loop) input →
      predicate executor.control →
      ControlStep executor.control (input.resumes executor = true) input event after →
      predicate after := by
    rintro executor _ input event after continues ⟨log, invariant⟩ step
    exact ⟨_, invariant.controlStep step (by simp [continues executor rfl])⟩
  refine ⟨?_, ?_, ?_⟩
  · intro transition member executor reached
    obtain ⟨_, invariant⟩ := forall_after started preserved run member executor reached
    exact invariant.scopes_ne_nil
  · rcases run.cleanupInvariant with ⟨absurd, _⟩ | ⟨_, _, same, invariant⟩
    · cases absurd
    cases same
    cases invariant.logged with
    | cleaning live => exact absurd terminal live
    | closing awaiting | finishing awaiting =>
      have awaiting' : executor.activity = .awaitingHost := awaiting
      rw [terminal] at awaiting'
      cases awaiting'
    | finished _ _ complete => exact complete
  · intro transition member before request start asked finish
    obtain ⟨⟨_, invariant⟩, _, _, _, step⟩ := forall_step started preserved run member start
    exact step.finishing invariant asked finish

end Runs

/-- The run that cancels the sample and lets its compensations fail cleans up
in order. -/
theorem ExecutorRun.cleanupDiscipline_sample : ∃ history, (∃ executor loop,
        ExecutorRun .integers UnwindingContinues history (.started executor loop) ∧
        executor.activity = .terminal) ∧ CleanupDiscipline history := by
  obtain ⟨history, machine, run, ended⟩ :=
    exists_continuing_of_replay Sample.unwound
      (fun _ machine => machine.executor?.any (·.activity = .terminal))
      (by decide +kernel)
  cases machine with
  | idle => cases ended
  | started executor loop =>
    have terminal : executor.activity = .terminal := by simpa [Machine.executor?] using ended
    exact ⟨history, ⟨executor, loop, run, terminal⟩, cleanupDiscipline run terminal⟩

/-- The event requests a deferred action. -/
def ScopeEvent.isDeferredRequest : ScopeEvent → Bool
  | .requested request => request.cleanupOnly && request.operation = .invokeAction
  | _ => false

def ScopeEvent.isRegistration : ScopeEvent → Bool
  | .registered _ => true
  | _ => false

/-- Nothing is deferred directly after the request of a deferred action. -/
def ScopeEvent.MayPrecede (first second : ScopeEvent) : Prop :=
  second.isRegistration = true → first.isDeferredRequest = false

instance : DecidableRel ScopeEvent.MayPrecede := fun _ _ => inferInstanceAs (Decidable (_ → _))

section Order

variable {log suffix : List ScopeEvent}

theorem chain_append_of_unregistered (chain : log.IsChain ScopeEvent.MayPrecede)
    (unregistered : ∀ event ∈ suffix, event.isRegistration = false) :
    (log ++ suffix).IsChain ScopeEvent.MayPrecede := by
  have precedes : ∀ first, ∀ second ∈ suffix,
      ScopeEvent.MayPrecede first second := by
    intro first second member registers
    rw [unregistered second member] at registers
    cases registers
  have quiet : suffix.IsChain ScopeEvent.MayPrecede := by
    apply List.Pairwise.isChain
    rw [List.pairwise_iff_forall_sublist]
    intro first second pair
    exact precedes first second (pair.subset (by simp))
  exact chain.append quiet fun first _ second head =>
    precedes first second (List.mem_of_mem_head? head)

theorem Scope.deferredRequests_unregistered (scope : Scope) (deferred : List DeferredAction) :
    ∀ event ∈ scope.deferredRequests deferred, event.isRegistration = false := by
  intro event member
  obtain ⟨action, -, rfl⟩ := List.mem_map.mp member
  rfl

theorem ScopeBody.chain {deferred : List DeferredAction} (body : ScopeBody deferred log) :
    log.IsChain ScopeEvent.MayPrecede ∧
      ∀ event ∈ log.getLast?, event.isDeferredRequest = false := by
  induction body with
  | nil => simp
  | ordinary _ ordinary ih =>
    refine ⟨chain_append_of_unregistered ih.1 (by simp [ScopeEvent.isRegistration]), ?_⟩
    simp [ScopeEvent.isDeferredRequest, ordinary.uncleaned]
  | registered action _ ih =>
    refine ⟨ih.1.append (.singleton _) ?_, ?_⟩
    · intro first last second _ _
      exact ih.2 first last
    · simp [ScopeEvent.isDeferredRequest]
  | @nested _ log inner innerLog scope _ _ outerChain innerChain =>
    have opened : (ScopeEvent.opened scope.id scope.parent ::
        innerLog).IsChain ScopeEvent.MayPrecede := by
      rw [← List.singleton_append]
      refine List.IsChain.append (.singleton _) innerChain.1 ?_
      rintro first ⟨⟩ second _ _
      rfl
    have joined : (log ++ ScopeEvent.opened scope.id scope.parent ::
        innerLog).IsChain ScopeEvent.MayPrecede := by
      refine outerChain.1.append opened ?_
      rintro first _ second ⟨⟩ registers
      cases registers
    have drained := chain_append_of_unregistered joined (scope.deferredRequests_unregistered inner)
    have closing : ∀ event ∈ [scope.closing],
        event.isRegistration = false := by
      simp [Scope.closing, ScopeEvent.isRegistration]
    have closed := chain_append_of_unregistered drained closing
    have regrouped : log ++ (ScopeEvent.opened scope.id scope.parent ::
        innerLog ++ scope.deferredRequests inner ++ [scope.closing]) =
        log ++ ScopeEvent.opened scope.id scope.parent :: innerLog ++
          scope.deferredRequests inner ++ [scope.closing] := by
      simp
    rw [regrouped]
    refine ⟨closed, ?_⟩
    rw [List.getLast?_concat]
    rintro event ⟨⟩
    rfl

/-- In a complete log nothing is deferred directly after the request of a
deferred action. -/
theorem CompleteLog.chain (complete : CompleteLog log) : log.IsChain ScopeEvent.MayPrecede := by
  obtain ⟨scope, deferred, body, -, inside, rfl⟩ := complete
  exact chain_append_of_unregistered
    (chain_append_of_unregistered inside.chain.1 (scope.deferredRequests_unregistered deferred))
    (by simp [Scope.finishing, ScopeEvent.isRegistration])

end Order

/-- The resumed sample defers its third compensation after the second one was
requested, so that the first is requested after the third. -/
theorem ExecutorRun.not_cleanupDiscipline : ¬ ∀ floats history executor loop,
      ExecutorRun floats (fun _ _ => True) history (.started executor loop) →
      executor.activity = .terminal → CleanupDiscipline history := by
  intro disciplined
  obtain ⟨history, machine, run, passes⟩ :=
    exists_of_replay Sample.returned
      (fun history machine =>
        machine.executor?.any (·.activity = .terminal) &&
          !decide ((scopeLog history).IsChain ScopeEvent.MayPrecede))
      (by decide +kernel)
  simp only [Bool.and_eq_true, Bool.not_eq_true', decide_eq_false_iff_not] at passes
  obtain ⟨ended, unchained⟩ := passes
  cases machine with
  | idle => cases ended
  | started executor loop =>
    have terminal : executor.activity = .terminal := by simpa [Machine.executor?] using ended
    exact unchained (disciplined _ _ _ _ run terminal).log.chain

end Savor.Program

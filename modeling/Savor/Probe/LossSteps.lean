import Savor.Probe.LossAccounts

/-!
# Steps keep the account

A step whose losses are counted keeps the runtime's account of what was lost.
-/

namespace Savor.Probe

open Capture (CaptureHost Event)
open Library (RingQueue)
open Program (ByteString text)

variable {lost : List UInt64} {before after : CaptureRuntime}

/-! ## Events that are not lost -/

/-- Nothing was lost: there was no event, or the queue took it. -/
inductive Captures (due : Option RawProbeEvent) (before after : CaptureRuntime) : Prop
  | nothing (none : due = none) (same : SameLosses before after)
  | queued (same : SameLosses before after)
      (moved : after.captureQueue.enqueuePosition ≠ before.captureQueue.enqueuePosition)

namespace Captures

variable {due : Option RawProbeEvent}

theorem same (captures : Captures due before after) : SameLosses before after := by
  cases captures with
  | nothing _ same | queued same => exact same

theorem of_same {middle : CaptureRuntime} (same : SameLosses before middle)
    (queue : middle.captureQueue = before.captureQueue)
    (captures : Captures due middle after) : Captures due before after := by
  cases captures with
  | nothing none later => exact .nothing none (same.trans later)
  | queued later moved => exact .queued (same.trans later) (queue ▸ moved)

theorem push (event : RawProbeEvent) (captureSequence : UInt64) (free : before.refuses = false) :
    Captures due before (before.pushOrMark event captureSequence) := by
  rw [CaptureRuntime.refuses, Bool.or_eq_false_iff, RingQueue.isNone_tryPush _ _ event] at free
  obtain ⟨queue, pushed⟩ := Option.isSome_iff_exists.mp (Option.isNone_eq_false_iff.mp free.2)
  unfold CaptureRuntime.pushOrMark
  rw [pushed]
  refine .queued ⟨rfl, rfl, rfl, rfl, rfl, rfl⟩ ?_
  dsimp only
  rw [RingQueue.enqueuePosition_tryPush pushed]
  omega

theorem pushIf (accounts : Accounts lost before) (event : RawProbeEvent)
    (captureSequence : UInt64) (wanted : Bool)
    (free : before.options.capturePath.isSome = true → wanted = true → before.refuses = false) :
    Captures
      (if before.options.capturePath.isSome && wanted then some event else none)
      before
      (if before.captureEnabled && wanted then
        before.pushOrMark event captureSequence
      else before) := by
  by_cases due : (before.options.capturePath.isSome && wanted) = true
  · obtain ⟨path, isWanted⟩ := Bool.and_eq_true_iff.mp due
    have accepted := free path isWanted
    have enabled : before.captureEnabled = true := by
      rw [CaptureRuntime.refuses, Bool.or_eq_false_iff] at accepted
      simpa using accepted.1
    rw [if_pos due, if_pos (by rw [enabled, isWanted, Bool.and_self])]
    exact push event captureSequence accepted
  have disabled : ¬(before.captureEnabled && wanted) = true := by
    intro both
    obtain ⟨enabled, isWanted⟩ := Bool.and_eq_true_iff.mp both
    rw [accounts.enabled, Bool.and_eq_true_iff] at enabled
    exact due (by rw [enabled.1, isWanted, Bool.and_self])
  rw [if_neg due, if_neg disabled]
  exact .nothing rfl (.refl before)

end Captures

namespace Accounts

theorem captures {input : RuntimeInput} (accounts : Accounts lost before)
    (captures : Captures (before.due input) before after) (event : List Appended) :
    Accounts (lost ++ lostInQueue ⟨before, input, event, after⟩) after := by
  have none : lostInQueue ⟨before, input, event, after⟩ = [] := by
    unfold lostInQueue
    cases captures with
    | nothing none _ => rw [none]
    | queued _ moved =>
      dsimp only
      split
      · rfl
      · exact if_neg moved
  rw [none, List.append_nil]
  exact accounts.congr captures.same

end Accounts

/-! ## Acts -/

variable {acts : List CpuAct}

/-- An act that is not that of a probe loses nothing. -/
theorem perform_captures (accounts : Accounts lost before) {act : CpuAct}
    (pending : before.cpu = act :: acts) (kept : ∀ event ∈ before.due .cpu, before.refuses = false)
    (binds : ∀ reason, act ≠ .bindingFailure reason) (other : ∀ accepted, act ≠ .sampled accepted) :
    Captures (before.due .cpu) before ({ before with cpu := acts }.perform act) := by
  have popped : SameLosses before { before with cpu := acts } := ⟨rfl, rfl, rfl, rfl, rfl, rfl⟩
  have due (wanted : Bool) (event : RawProbeEvent)
      (own : act.due = if wanted then some event else none) :
      before.due .cpu =
        if before.options.capturePath.isSome && wanted then some event
        else none := by
    unfold CaptureRuntime.due
    rw [pending]
    cases before.options.capturePath with
    | none => rfl
    | some path => exact own
  have pushed (wanted : Bool) (event : RawProbeEvent) (sequence : UInt64)
      (own : act.due = if wanted then some event else none) :
      Captures (before.due .cpu) before
        (if before.captureEnabled && wanted then
          { before with cpu := acts }.pushOrMark event sequence
        else { before with cpu := acts }) := by
    refine .of_same popped rfl ?_
    rw [due wanted event own]
    refine .pushIf (accounts.congr popped) event sequence wanted fun path isWanted => ?_
    refine kept event ?_
    rw [due wanted event own, isWanted, Bool.and_true]
    exact if_pos path
  cases act with
  | frameMarker event =>
    have captures := pushed true event 0 rfl
    rwa [Bool.and_true] at captures
  | addressResolution probe event => exact pushed probe.subscriptions.capture event _ rfl
  | control event =>
    have captures := pushed true event event.captureSequence rfl
    rwa [Bool.and_true] at captures
  | bindingFailure reason => exact absurd rfl (binds reason)
  | sampled accepted => exact absurd rfl (other accepted)

theorem queue_markCaptureIncomplete (state : CaptureRuntime)
    (reason : ByteString) (captureSequence : UInt64) :
    (state.markCaptureIncomplete reason captureSequence).captureQueue = state.captureQueue := by
  unfold CaptureRuntime.markCaptureIncomplete
  dsimp only
  split <;> rfl

theorem lostInQueue_of_same {input : RuntimeInput} {event : RawProbeEvent}
    (due : before.due input = some event) (same : after.captureQueue = before.captureQueue)
    (appended : List Appended) :
    lostInQueue ⟨before, input, appended, after⟩ = [event.captureSequence] := by
  unfold lostInQueue
  rw [due]
  exact if_pos (by rw [same])

theorem enqueueEvent_cases (state : CaptureRuntime) (probe : ProbeDefinition)
    (event : RawProbeEvent) : (∃ queue, state.captureEnabled = true ∧
        probe.subscriptions.capturing = true ∧ state.captureQueue.tryPush event = some queue ∧
        state.enqueueEvent probe event = { state with captureQueue := queue }) ∨
      (state.captureEnabled = true ∧ probe.subscriptions.capturing = true ∧
        state.captureQueue.tryPush event = none ∧
        state.enqueueEvent probe event = { state with
          captureDrops := state.captureDrops + 1 }.markCaptureIncomplete
            (text "capture queue overflow") event.captureSequence) ∨
      (state.captureEnabled = false ∧ probe.subscriptions.capturing = true ∧
        state.options.capturePath.isSome = true ∧ state.captureComplete = false ∧
        state.enqueueEvent probe event = { state with
          captureDrops := state.captureDrops + 1
          captureGapLastSequence := event.captureSequence }) ∨
      ((state.captureEnabled && probe.subscriptions.capturing) = false ∧
        (probe.subscriptions.capturing && state.options.capturePath.isSome &&
          !state.captureComplete) = false ∧ state.enqueueEvent probe event = state) := by
  unfold CaptureRuntime.enqueueEvent
  split
  · rename_i capture
    obtain ⟨enabled, capturing⟩ := Bool.and_eq_true_iff.mp capture
    split
    · rename_i queue pushed
      exact Or.inl ⟨queue, enabled, capturing, pushed, rfl⟩
    · rename_i full
      exact Or.inr (Or.inl ⟨enabled, capturing, full, rfl⟩)
  rename_i capture
  split
  · rename_i later
    simp only [Bool.and_eq_true, Bool.not_eq_true'] at later
    obtain ⟨⟨capturing, path⟩, incomplete⟩ := later
    rw [capturing, Bool.and_true, Bool.not_eq_true] at capture
    exact Or.inr (Or.inr (Or.inl ⟨capture, capturing, path, incomplete, rfl⟩))
  rename_i none
  rw [Bool.not_eq_true] at capture none
  exact Or.inr (Or.inr (Or.inr ⟨capture, none, rfl⟩))

theorem perform_sampled (accounts : Accounts lost before)
    {accepted : Option (ProbeDefinition × RawProbeEvent)}
    (pending : before.cpu = .sampled accepted :: acts)
    (counted : ∀ event ∈ before.due .cpu, before.refuses = true → before.Counts event) :
    let after := { before with cpu := acts }.perform (.sampled accepted)
    Accounts (lost ++ lostInQueue ⟨before, .cpu, [], after⟩) after := by
  intro after
  have popped : SameLosses before { before with
      cpu := acts, nextCaptureSequence := before.nextCaptureSequence + 1 } :=
    ⟨rfl, rfl, rfl, rfl, rfl, rfl⟩
  have due : before.due .cpu = if before.options.capturePath.isNone then none
      else (CpuAct.sampled accepted).due := by
    unfold CaptureRuntime.due
    rw [pending]
    rfl
  cases accepted with
  | none =>
    refine accounts.captures (.nothing ?_ popped) []
    rw [due]
    exact ite_self none
  | some accepted =>
    obtain ⟨probe, event⟩ := accepted
    have isDue (capturing : probe.subscriptions.capturing = true)
        (path : before.options.capturePath.isSome = true) :
        before.due .cpu = some event := by
      rw [due, if_neg (by simpa [Option.isNone_iff_eq_none] using
        Option.isSome_iff_ne_none.mp path)]
      exact if_pos capturing
    rcases enqueueEvent_cases { before with
        cpu := acts, nextCaptureSequence := before.nextCaptureSequence + 1 }
        probe event with
      ⟨queue, -, -, pushed, result⟩ | ⟨enabled, capturing, full, result⟩ |
      ⟨disabled, capturing, path, incomplete, result⟩ | ⟨off, none, result⟩
    · have same : after = _ := result
      have kept : SameLosses before after := by
        rw [same]
        exact ⟨rfl, rfl, rfl, rfl, rfl, rfl⟩
      refine accounts.captures (.queued kept ?_) []
      rw [same]
      dsimp only at pushed ⊢
      rw [RingQueue.enqueuePosition_tryPush pushed]
      omega
    · have same : after = _ := result
      have both := accounts.enabled
      rw [show before.captureEnabled = true from enabled, eq_comm, Bool.and_eq_true_iff] at both
      have refused : before.refuses = true := by
        rw [CaptureRuntime.refuses, RingQueue.isNone_tryPush _ _ event,
          show before.captureQueue.tryPush event = none from full]
        exact Bool.or_true _
      have counts := counted event (isDue capturing both.1) refused
      rw [lostInQueue_of_same (isDue capturing both.1)
        (same ▸ queue_markCaptureIncomplete _ _ _), same]
      exact (accounts.congr popped).first both.2 both.1 counts _
    · have same : after = _ := result
      have refused : before.refuses = true := by
        rw [CaptureRuntime.refuses, show before.captureEnabled = false from disabled]
        rfl
      have counts := counted event (isDue capturing path) refused
      rw [lostInQueue_of_same (isDue capturing path) (by rw [same]), same]
      exact (accounts.congr popped).next incomplete path counts
    have same : after = _ := result
    rw [same]
    refine accounts.captures (.nothing ?_ popped) []
    rw [due]
    cases path : before.options.capturePath with
    | none => rfl
    | some capture =>
      change (if probe.subscriptions.capturing = true then some event
        else Option.none) = Option.none
      refine if_neg fun capturing => ?_
      have enabled := accounts.enabled
      simp only [capturing, path, Option.isSome_some, Bool.and_true,
        Bool.true_and, Bool.not_eq_false'] at off none enabled
      rw [off, none] at enabled
      cases enabled

/-! ## Markers -/

theorem emitMarker_captures (accounts : Accounts lost before) (id : ByteString)
    (value monotonicNs : UInt64) (kept : before.options.capturePath.isSome = true →
      before.takesMarker id = true → before.refuses = false) :
    Captures
      (if before.options.capturePath.isNone then none
      else before.dueMarker id value monotonicNs)
      before (before.emitMarker id value monotonicNs) := by
  unfold CaptureRuntime.emitMarker CaptureRuntime.dueMarker
  cases takes : before.takesMarker id with
  | false => exact .nothing (by simp) (.refl before)
  | true =>
    have counted : SameLosses before { before with
        nextCaptureSequence := before.nextCaptureSequence + 1
        nextSnapshotId := before.nextSnapshotId + 1 } :=
      ⟨rfl, rfl, rfl, rfl, rfl, rfl⟩
    have captures := Captures.pushIf (accounts.congr counted)
      (before.marker id value monotonicNs) 0 true
      fun path _ => kept path takes
    refine .of_same counted rfl ?_
    rw [Bool.and_true, Bool.and_true] at captures
    have due : (if before.options.capturePath.isSome = true then
          some (before.marker id value monotonicNs) else none) =
        if before.options.capturePath.isNone = true then none
        else some (before.marker id value monotonicNs) := by
      cases before.options.capturePath <;> rfl
    dsimp only at captures
    rw [due] at captures
    exact captures

theorem Captures.then_same {due : Option RawProbeEvent}
    {middle : CaptureRuntime} (captures : Captures due before middle)
    (same : SameLosses middle after) (queue : after.captureQueue = middle.captureQueue) :
    Captures due before after := by
  cases captures with
  | nothing none earlier => exact .nothing none (earlier.trans same)
  | queued earlier moved => exact .queued (earlier.trans same) (queue ▸ moved)

/-! ## Steps -/

variable {host : CaptureHost} {input : RuntimeInput}

/-- A step that has nothing to do with the capture. -/
theorem Accounts.idle (accounts : Accounts lost before) (input : RuntimeInput)
    (due : before.due input = none) (same : SameLosses before after) (appended : List Appended) :
    Accounts (lost ++ lostInQueue ⟨before, input, appended, after⟩) after :=
  accounts.captures (.nothing due same) appended

/-- A capture that becomes incomplete in a step without a due event. -/
theorem Accounts.marked (accounts : Accounts lost before)
    (input : RuntimeInput) (due : before.due input = none)
    (same : SameLosses before after) {reason : ByteString} {last : CaptureRuntime}
    (marked : SameLosses (after.markCaptureIncomplete reason 0) last) (appended : List Appended) :
    Accounts (lost ++ lostInQueue ⟨before, input, appended, last⟩) last := by
  have none : lostInQueue ⟨before, input, appended, last⟩ = [] := by
    unfold lostInQueue
    rw [due]
  rw [none, List.append_nil]
  exact ((accounts.congr same).mark reason).congr marked

theorem Accounts.cpu (accounts : Accounts lost before) {act : CpuAct}
    (pending : before.cpu = act :: acts)
    (counted : ∀ event ∈ before.due .cpu, before.refuses = true →
      before.samples .cpu = true ∧ before.Counts event) :
    let after := { before with cpu := acts }.perform act
    Accounts (lost ++ lostInQueue ⟨before, .cpu, [], after⟩) after := by
  have kept (other : ∀ accepted, act ≠ .sampled accepted) :
      ∀ event ∈ before.due .cpu, before.refuses = false := by
    intro event due
    by_contra refused
    have sampled := (counted event due (by simpa using refused)).1
    unfold CaptureRuntime.samples at sampled
    rw [pending] at sampled
    cases act with
    | sampled accepted => exact other accepted rfl
    | _ => cases sampled
  cases act with
  | bindingFailure reason =>
    have popped : SameLosses before { before with cpu := acts } := ⟨rfl, rfl, rfl, rfl, rfl, rfl⟩
    refine accounts.marked .cpu ?_ popped (.refl _) []
    unfold CaptureRuntime.due
    rw [pending]
    exact ite_self none
  | sampled accepted =>
    exact perform_sampled accounts pending fun event due refused => (counted event due refused).2
  | frameMarker | addressResolution | control =>
    exact accounts.captures (perform_captures accounts pending
      (kept fun _ => nofun) (fun _ => nofun) fun _ => nofun) []

theorem Accounts.marker (accounts : Accounts lost before) (id : ByteString)
    (value monotonicNs : UInt64)
    (due : before.due input = if before.options.capturePath.isNone then none
      else before.dueMarker id value monotonicNs)
    (samples : before.samples input = false)
    (counted : ∀ event ∈ before.due input, before.refuses = true →
      before.samples input = true ∧ before.Counts event)
    (same : SameLosses (before.emitMarker id value monotonicNs) after) (queue : after.captureQueue =
      (before.emitMarker id value monotonicNs).captureQueue) :
    Accounts (lost ++ lostInQueue ⟨before, input, [], after⟩) after := by
  refine accounts.captures (.then_same ?_ same queue) []
  rw [due]
  refine emitMarker_captures accounts id value monotonicNs fun path takes => ?_
  by_contra refused
  have own : before.due input = some (before.marker id value monotonicNs) := by
    rw [due, if_neg (by simpa [Option.isNone_iff_eq_none] using Option.isSome_iff_ne_none.mp path)]
    exact if_pos takes
  have sampled := (counted _ own (by simpa using refused)).1
  rw [samples] at sampled
  cases sampled

/-- A step of the recorder whose events are written loses nothing. -/
theorem record_losses {progressPending : Bool} {appending : Appending}
    (stepped : before.record host progressPending = some appending)
    (written : ∀ appended ∈ appending.1, appended.accepted = true) :
    SameLosses before appending.2 := by
  unfold CaptureRuntime.record at stepped
  cases phase : before.recorder.phase with
  | triggering =>
    rw [phase] at stepped
    cases stepped
    unfold CaptureRuntime.recordTrigger at written ⊢
    split at written
    · rename_i triggered
      rw [if_pos triggered]
      refine .trans ?_ ((CaptureRuntime.emit_appends host _ _).losses written)
      exact ⟨rfl, rfl, rfl, rfl, rfl, rfl⟩
    rename_i triggered
    rw [if_neg triggered]
    exact ⟨rfl, rfl, rfl, rfl, rfl, rfl⟩
  | draining =>
    rw [phase] at stepped
    cases stepped
    unfold CaptureRuntime.recordEvent at written ⊢
    cases popped : before.captureQueue.tryPop with
    | none => exact ⟨rfl, rfl, rfl, rfl, rfl, rfl⟩
    | some taken =>
      rw [popped] at written
      refine .trans ?_ ((CaptureRuntime.emit_appends host _ _).losses written)
      exact ⟨rfl, rfl, rfl, rfl, rfl, rfl⟩
  | marking =>
    rw [phase] at stepped
    cases stepped
    unfold CaptureRuntime.recordMark
    dsimp only
    split <;> exact ⟨rfl, rfl, rfl, rfl, rfl, rfl⟩
  | checking =>
    rw [phase] at stepped
    cases stepped
    unfold CaptureRuntime.recordCheck
    dsimp only
    split <;> exact ⟨rfl, rfl, rfl, rfl, rfl, rfl⟩
  | finishing | finished => rw [phase] at stepped; cases stepped

theorem finishRecorder_losses (report : MetricsReport)
    (written : ∀ appended ∈ (before.finishRecorder host report).1, appended.accepted = true) :
    SameLosses before (before.finishRecorder host report).2 := by
  rw [CaptureRuntime.finishRecorder_eq] at written ⊢
  obtain ⟨first, -⟩ := List.forall_mem_append.mp written
  obtain ⟨second, reported⟩ := List.forall_mem_append.mp first
  obtain ⟨retained, gap⟩ := List.forall_mem_append.mp second
  have retention := (CaptureRuntime.emit_appends host _ before).losses retained
  have shown := (CaptureRuntime.appendGap_appends host _).losses gap
  have reports := (CaptureRuntime.appendReports_appends host _ _ _).losses reported
  exact ((retention.trans shown).trans reports).trans ⟨rfl, rfl, rfl, rfl, rfl, rfl⟩

theorem finishReload_losses (profile : CaptureProfile)
    (profileJson : ByteString) (armed : Bool) (monotonicNs : UInt64)
    (written : ∀ appended ∈ (before.finishReload host profile profileJson armed
      monotonicNs).1, appended.accepted = true) :
    SameLosses before (before.finishReload host profile profileJson armed monotonicNs).2 ∨
      armed = false ∧ ∃ reason middle, SameLosses before middle ∧
        SameLosses (middle.markCaptureIncomplete reason 0)
          (before.finishReload host profile profileJson armed monotonicNs).2 := by
  have replaced : SameLosses before
      (before.withProfile profile profileJson) := ⟨rfl, rfl, rfl, rfl, rfl, rfl⟩
  unfold CaptureRuntime.finishReload at written ⊢
  cases armed with
  | false =>
    refine Or.inr ⟨rfl, text "capture profile reload arm failed", _, replaced, ?_⟩
    exact ⟨rfl, rfl, rfl, rfl, rfl, rfl⟩
  | true =>
    refine Or.inl (replaced.trans ?_)
    simp only [if_true] at written ⊢
    unfold CaptureRuntime.recordReload at written ⊢
    split at written
    · rename_i closed
      rw [if_pos closed]
      exact ⟨rfl, rfl, rfl, rfl, rfl, rfl⟩
    rename_i opened
    rw [if_neg opened]
    dsimp only at written ⊢
    split at written
    · rename_i accepted
      rw [if_pos accepted]
      exact ⟨rfl, rfl, rfl, rfl, rfl, rfl⟩
    · simp at written

theorem processRoutedPc_losses (hit : RoutedPc) :
    SameLosses before (before.processRoutedPc hit) := by
  unfold CaptureRuntime.processRoutedPc
  split <;> exact ⟨rfl, rfl, rfl, rfl, rfl, rfl⟩

theorem processRoutedMemory_losses (hit : RoutedMemory) :
    SameLosses before (before.processRoutedMemory hit) := by
  unfold CaptureRuntime.processRoutedMemory
  split
  · exact .refl before
  · split <;> exact ⟨rfl, rfl, rfl, rfl, rfl, rfl⟩

theorem finishStop_losses : SameLosses before (before.finishStop host) := by
  unfold CaptureRuntime.finishStop
  split <;> exact ⟨rfl, rfl, rfl, rfl, rfl, rfl⟩

theorem Accounts.step {appended : List Appended}
    (accounts : Accounts lost before) (counted : before.LossCounted host input)
    (stepped : before.step host input = some (appended, after)) :
    Accounts (lost ++ lostInQueue ⟨before, input, appended, after⟩) after := by
  have written := counted.written _ stepped
  have account := counted.counted
  unfold CaptureRuntime.step at stepped
  cases input with
    try simp only [Option.ite_none_right_eq_some] at stepped
  | routedPc hit =>
    obtain ⟨-, ⟨⟩⟩ := stepped
    exact accounts.idle (.routedPc hit) (ite_self none) (processRoutedPc_losses hit) _
  | routedMemory hit =>
    obtain ⟨-, ⟨⟩⟩ := stepped
    exact accounts.idle (.routedMemory hit) (ite_self none) (processRoutedMemory_losses hit) _
  | cpu =>
    split at stepped
    · cases stepped
    rename_i act acts pending
    cases stepped
    exact accounts.cpu pending account
  | emitMarker id value monotonicNs =>
    cases stepped
    exact accounts.marker id value monotonicNs rfl rfl account (.refl _) rfl
  | setGroupEnabled rebound =>
    split at stepped
    · cases stepped
      exact accounts.marked (.setGroupEnabled rebound) (ite_self none) (.refl before) (.refl _) _
    cases stepped
    exact accounts.idle (.setGroupEnabled rebound) (ite_self none) (.refl before) _
  | triggerFlightRecorder postEvents =>
    cases stepped
    refine accounts.idle (.triggerFlightRecorder postEvents) (ite_self none) ?_ _
    exact ⟨rfl, rfl, rfl, rfl, rfl, rfl⟩
  | setFrameIndex frame =>
    cases stepped
    refine accounts.idle (.setFrameIndex frame) (ite_self none) ?_ _
    exact ⟨rfl, rfl, rfl, rfl, rfl, rfl⟩
  | setGuestWorksetEpoch epoch =>
    cases stepped
    refine accounts.idle (.setGuestWorksetEpoch epoch) (ite_self none) ?_ _
    exact ⟨rfl, rfl, rfl, rfl, rfl, rfl⟩
  | record progressPending =>
    exact accounts.idle (.record progressPending) (ite_self none) (record_losses stepped written) _
  | finishRecorder report =>
    have same := Option.some.inj stepped.2
    have losses := @finishRecorder_losses before host report (by rw [same]; exact written)
    rw [same] at losses
    exact accounts.idle (.finishRecorder report) (ite_self none) losses _
  | beginReload _ _ monotonicNs | endReload monotonicNs =>
    obtain ⟨-, ⟨⟩⟩ := stepped
    exact accounts.marker _ _ monotonicNs rfl rfl account ⟨rfl, rfl, rfl, rfl, rfl, rfl⟩ rfl
  | finishReload armed monotonicNs =>
    split at stepped
    · rename_i profile profileJson reloading
      split at stepped
      · have same := Option.some.inj stepped
        have losses := @finishReload_losses before host profile profileJson
          armed monotonicNs (by rw [same]; exact written)
        rw [same] at losses
        rcases losses with kept | ⟨-, reason, middle, replaced, marked⟩
        · exact accounts.idle (.finishReload armed monotonicNs) (ite_self none) kept _
        · exact accounts.marked (.finishReload armed monotonicNs) (ite_self none) replaced marked _
      · cases stepped
    · cases stepped
  | beginStop =>
    obtain ⟨-, ⟨⟩⟩ := stepped
    refine accounts.idle .beginStop (ite_self none) ?_ _
    exact ⟨rfl, rfl, rfl, rfl, rfl, rfl⟩
  | finishStop =>
    obtain ⟨-, ⟨⟩⟩ := stepped
    exact accounts.idle .finishStop (ite_self none) finishStop_losses _

end Savor.Probe

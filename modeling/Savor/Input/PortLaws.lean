import Savor.Input.PortInvariant

/-!
# Ports end neutral

What the records of the leases are worth: the active lease that is recorded as
neutral stands on a quiet port, and when every lease is closed, or the arbiter is
shut down, every port that can be reached is quiet.
-/

namespace Savor.Input

open Library Program
open InputArbiter

/-- Ports end neutral over a run of the arbiter. -/
structure PortsEndNeutral (history : List InputTransition) (arbiter : InputArbiter) : Prop where
  /-- The active lease is recorded as neutral only on a quiet port. -/
  recorded : ∀ id lease, arbiter.active = some id →
    arbiter.findLease id = some lease → lease.backendNeutral = true →
      Quiet history lease.request.port
  /-- A resumed lease is recorded as neutral only on a quiet port. -/
  resumed : ∀ earlier transition later,
    history = earlier ++ transition :: later →
      ∀ receipt id lease, transition.event.reply = .close receipt →
        receipt.resumedLease = some id →
          transition.after.findLease id = some lease →
            lease.backendNeutral = true → Quiet (earlier ++ [transition]) lease.request.port
  /-- Once every lease is closed, every port that can be reached is quiet. -/
  closed : ∀ earlier transition later,
    history = earlier ++ transition :: later →
      transition.after.leases = [] → transition.after.stopped = false →
        ∀ port, transition.input.backend.isAvailable port = true →
          Quiet (earlier ++ [transition]) port
  /-- Once a shutdown reported its cleanup as complete, every port that can be
  reached is quiet. -/
  shutDown : ∀ earlier transition later,
    history = earlier ++ transition :: later →
      ∀ receipt, transition.event.reply = .shutdown receipt →
        receipt.cleanupComplete = true →
          ∀ port, transition.input.backend.isAvailable port = true →
            Quiet (earlier ++ [transition]) port

variable {history : List InputTransition} {arbiter after : InputArbiter}
variable {call : InputCall} {event : InputEvent}
variable {transition : InputTransition}

/-- The records of the leases stay right over a run. -/
theorem ported_of_run {ownerThread : ThreadId}
    (run : Run step AnyCall (new ownerThread) history arbiter)
    (keeps : Everywhere KeepsPorts history) : Ported history arbiter := by
  refine Everywhere.invariant (ported_new ownerThread) ?_ run keeps
  rintro earlier ⟨before, input, event, after⟩ ported - met stepped
  exact ported.step met (step_of_stepped stepped)

theorem Ported.recorded {id : InputLeaseId} {lease : LeaseState}
    (ported : Ported history arbiter) (active : arbiter.active = some id)
    (found : arbiter.findLease id = some lease) (neutral : lease.backendNeutral = true) :
    Quiet history lease.request.port := by
  obtain ⟨rest, listed⟩ := ported.stacked.top active found
  cases isAnswered : arbiter.shutdownReceipt with
  | some receipt =>
    rw [(ported.ended receipt isAnswered).2.1] at listed
    cases listed
  | none =>
    have settled := ported.settled isAnswered
    rw [listed] at settled
    exact settled.1 neutral

theorem active_of_resumed {receipt : InputLeaseCloseReceipt} {id : InputLeaseId}
    (stacked : arbiter.Stacked) (step : InputArbiter.ArbiterStep arbiter call (event, after))
    (reply : event.reply = .close receipt) (resumed : receipt.resumedLease = some id) :
    after.active = some id := by
  have finishes : ∀ {closing : InputArbiter} {state : LeaseState}
      {rest : List LeaseState}, closing.Stacked →
      closing.leases = state :: rest →
      (closing.finishClose state).1.resumedLease = some id →
        (closing.finishClose state).2.active = some id := by
    intro closing state rest closingStacked listed isResumed
    cases rest with
    | nil =>
      rw [closingStacked.finishClose_last listed rfl] at isResumed
      cases isResumed
    | cons parent below =>
      obtain ⟨resumedParent, result⟩ := closingStacked.finishClose_parent listed rfl
      rw [result]
      exact resumedParent.1.symm.trans isResumed
  have granted : event.reply.grants = true := by simp [reply, InputReply.grants, resumed]
  cases step with
  | refused quiet | initialized _ quiet | unrelated _ quiet => simp [quiet] at granted
  | closed state serves found active =>
    obtain ⟨rest, listed⟩ := stacked.top active found
    cases reply
    exact finishes stacked listed resumed
  | neutralized state serves found active =>
    obtain ⟨rest, listed⟩ := stacked.top active found
    obtain ⟨leases, neutralized⟩ := stacked.neutralize listed
    cases reply
    exact finishes neutralized leases resumed
  | _ => cases reply

theorem kept_of_complete {receipt : InputArbiterShutdownReceipt}
    (step : InputArbiter.ArbiterStep arbiter call (event, after))
    (reply : event.reply = .shutdown receipt) (complete : receipt.cleanupComplete = true) :
    after.shutdownReceipt = some receipt := by
  have granted : event.reply.grants = true := by rw [reply, InputReply.grants, complete]
  cases step with
  | refused quiet | initialized _ quiet | unrelated _ quiet => simp [quiet] at granted
  | answered other answer =>
    cases reply
    exact answer
  | shutDown other =>
    cases reply
    rfl
  | _ => cases reply

/-- A port that a call can reach and that is free after it is quiet. -/
theorem quiet_of_free {port : InputPort} (keeps : KeepsPorts history transition)
    (available : transition.input.backend.isAvailable port = true)
    (free : Free (history ++ [transition]) port) : Quiet (history ++ [transition]) port := by
  obtain quiet | abandoned := free
  · exact quiet
  obtain ⟨givenUp, unpublished⟩ | abandons := mem_abandonedPorts_snoc.mp abandoned
  · have quiet := keeps.abandoned.quiet (.inr givenUp) (.inl available)
    rw [Quiet, lastFrame_snoc, unpublished]
    exact quiet
  simp only [InputTransition.abandons, List.mem_filter, Bool.and_eq_true,
    Bool.not_eq_true'] at abandons
  rw [abandons.2.2] at available
  cases available

/-- Ports end neutral as long as every call keeps to the ports that the arbiter
remembers. -/
theorem ports_end_neutral {ownerThread : ThreadId}
    (run : Run step AnyCall (new ownerThread) history arbiter)
    (keeps : Everywhere KeepsPorts history) : PortsEndNeutral history arbiter := by
  have ended : ∀ earlier transition later,
      history = earlier ++ transition :: later →
        Ported earlier transition.before ∧ KeepsPorts earlier transition ∧
          InputArbiter.ArbiterStep transition.before transition.input
            (transition.event, transition.after) ∧
          Ported (earlier ++ [transition]) transition.after := by
    intro earlier transition later position
    obtain ⟨before, -, stepped⟩ := run.split position
    have met := keeps earlier transition later position
    have ported := ported_of_run before (keeps.earlier position)
    exact ⟨ported, met, step_of_stepped stepped, ported.step met (step_of_stepped stepped)⟩
  constructor
  · intro id lease active found neutral
    exact (ported_of_run run keeps).recorded active found neutral
  · intro earlier transition later position receipt id lease reply resumed
      found neutral
    obtain ⟨before, -, step, ported⟩ := ended earlier transition later position
    exact ported.recorded (active_of_resumed before.stacked step reply resumed) found neutral
  · intro earlier transition later position empty running port available
    obtain ⟨-, met, -, ported⟩ := ended earlier transition later position
    apply quiet_of_free met available
    cases isAnswered : transition.after.shutdownReceipt with
    | some receipt =>
      rw [(ported.ended receipt isAnswered).1] at running
      cases running
    | none =>
      have settled := ported.settled isAnswered
      rw [empty] at settled
      exact settled port
  · intro earlier transition later position receipt reply complete port
      available
    obtain ⟨-, met, step, ported⟩ := ended earlier transition later position
    apply quiet_of_free met available
    have kept := kept_of_complete step reply complete
    exact (ported.ended receipt kept).2.2 complete port

/-- A frame is held on the first port.  A borrower holds one on another port and
is closed, and then the first lease is closed. -/
def Sample.borrowed (port : InputPort) : List InputCall :=
  [ Sample.call (.acquire (Sample.request 0) Sample.epoch),
    Sample.call (.applyState ⟨1⟩ Sample.pressed Sample.epoch),
    Sample.call (.borrow ⟨1⟩ (Sample.request port) Sample.epoch),
    Sample.call (.applyState ⟨2⟩ Sample.pressed Sample.epoch),
    Sample.call (.closeLease ⟨2⟩ Sample.epoch), Sample.call (.closeLease ⟨1⟩ Sample.epoch) ]

/-- Ports do not always end neutral: the lease that a borrower of another port
was closed above is recorded as neutral, and is closed without publishing. -/
theorem ports_do_not_end_neutral : ¬∀ ownerThread history arbiter,
      Run step AnyCall (new ownerThread) history arbiter → PortsEndNeutral history arbiter := by
  intro always
  obtain ⟨history, arbiter, run, index, empty, running, available, held⟩ :
      ∃ history arbiter, Run step AnyCall (new 0) history arbiter ∧
        ∃ index : Fin history.length, history[index].after.leases = [] ∧
          history[index].after.stopped = false ∧ history[index].input.backend.isAvailable 0 = true ∧
          ¬Quiet (history.take (index + 1)) 0 :=
    Run.exists_of_replay (Sample.borrowed 1) _ (by decide +kernel)
  apply held
  have position : history = history.take index ++
      history[index] :: history.drop (index + 1) := by
    rw [Fin.getElem_fin, List.getElem_cons_drop, List.take_append_drop]
  have quiet := (always 0 history arbiter run).closed _ _ _ position empty running 0 available
  rw [Fin.getElem_fin, List.take_append_getElem] at quiet
  exact quiet

/-- A borrower of the same port leaves nothing behind. -/
theorem ports_end_neutral_sample : ∃ history arbiter, Run step AnyCall (new 0) history arbiter ∧
        arbiter.leases = [] ∧ 5 ≤ history.length ∧ PortsEndNeutral history arbiter := by
  obtain ⟨history, arbiter, run, empty, long, keeps⟩ : ∃ history arbiter,
      Run step AnyCall (new 0) history arbiter ∧
        arbiter.leases = [] ∧ 5 ≤ history.length ∧ Everywhere KeepsPorts history :=
    Run.exists_of_replay (Sample.borrowed 0) _ (by decide +kernel)
  exact ⟨history, arbiter, run, empty, long, ports_end_neutral run keeps⟩

end Savor.Input

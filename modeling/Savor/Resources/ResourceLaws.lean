import Savor.Library.Transition
import Savor.Resources.ResourceSteps

/-!
# What holds over the histories of the resource ledger

The laws of releasing, of the scope tree, of identity and of the disposition,
for any calls and any answers of the dispatchers.
-/

namespace Savor.Resources

open Library Library.Ancestry Program

abbrev ResourceTransition := Transition SessionResourceLedger ResourceLedgerCall ResourceLedgerEvent

/-- The runs of the ledger of one thread. -/
abbrev ResourceRun (sorting : UnstableSort) (ownerThread : ThreadId) :=
  Run (SessionResourceLedger.step sorting) (fun _ _ => True) (SessionResourceLedger.new ownerThread)

/-- Everything that a dispatcher was asked. -/
def askedSteps (history : List ResourceTransition) : List ResourceUnwindStep :=
  history.flatMap (·.event.asked)

/-- The last unwind: what it had to release, and what it asked. -/
structure UnwindRecord where
  targets : ResourceReceipt → Prop
  asked : List ResourceUnwindStep

/-- A call while an unwind is pending belongs to that unwind; otherwise it may
begin another. -/
def UnwindRecord.extend (record : UnwindRecord) (transition : ResourceTransition) : UnwindRecord :=
  if transition.before.pendingUnwind.isSome then
    { record with asked := record.asked ++ transition.event.asked }
  else
    { targets := fun resource => transition.event.reply.unwinds ∧
        transition.input.operation.targets transition.before resource
      asked := transition.event.asked }

def lastUnwind (history : List ResourceTransition) : UnwindRecord :=
  history.foldl UnwindRecord.extend ⟨fun _ => False, []⟩

/-- The laws of a history that led to `ledger`. -/
structure SessionResourceLaws (history : List ResourceTransition) (ledger : SessionResourceLedger) :
    Prop where
  /-- What a dispatcher released it is not asked for again. -/
  releasedOnce : (askedSteps history).Pairwise fun earlier later =>
    earlier.result.status = .released → later.request.receipt.id ≠ earlier.request.receipt.id
  /-- An unwind asks for its live resources newest first, a resource again only
  when it required a cleanup execution, and skips none. -/
  unwinds : UnwindOrder (lastUnwind history).targets (lastUnwind history).asked
    (ledger.pendingUnwind = none)
  ancestorsOpen : ∀ inner ∈ ledger.scopes, ∀ outer ∈ ledger.scopes,
    inner.opened → Within (scopeLinks ledger.scopes) inner.id outer.id → outer.opened
  closedEmpty : ledger.state ≠ .closed →
    ∀ scope ∈ ledger.scopes, ¬scope.opened →
      ∀ resource ∈ ledger.resources, resource.status.isLive →
        ¬Within (scopeLinks ledger.scopes) resource.scope scope.id
  uniqueLive : ledger.resources.Pairwise fun earlier later =>
    earlier.status.isLive → later.status.isLive → ¬earlier.SameResource later
  severity : ∀ transition ∈ history,
    transition.before.disposition.severity ≤ transition.after.disposition.severity
  /-- After a failed mandatory release nothing is accepted. -/
  taint : ∀ earlier transition later,
    history = earlier ++ transition :: later →
      (∃ step ∈ transition.event.asked, step.failedMandatory) →
        ∀ other ∈ later, ¬other.event.reply.accepts
  rejected : ∀ transition ∈ history, transition.event.reply.rejected →
    transition.after = transition.before

/-- The invariant that relates a history to the ledger it led to. -/
structure HistoryInvariant (history : List ResourceTransition) (ledger : SessionResourceLedger) :
    Prop where
  base : ResourceInvariant ledger
  idle : ledger.pendingUnwind = none →
    UnwindOrder (lastUnwind history).targets (lastUnwind history).asked True
  suspended : ∀ pending, ledger.pendingUnwind = some pending →
    ∃ all remaining, UnwindInvariant ledger pending all remaining ∧
      Asking all remaining (lastUnwind history).asked ∧
      ∀ resource, resource ∈ all ↔ (lastUnwind history).targets resource
  released : ∀ step ∈ askedSteps history, step.result.status = .released →
    ∃ resource ∈ ledger.resources, resource.id = step.request.receipt.id ∧ ¬resource.status.isLive
  releasedOnce : (askedSteps history).Pairwise fun earlier later =>
    earlier.result.status = .released → later.request.receipt.id ≠ earlier.request.receipt.id
  tainted : (∃ step ∈ askedSteps history, step.failedMandatory) →
    ledger.disposition = .taintRequired

namespace HistoryInvariant

variable {history : List ResourceTransition}
variable {ledger after : SessionResourceLedger}
variable {call : ResourceLedgerCall} {event : ResourceLedgerEvent}

theorem askedSteps_snoc (transition : ResourceTransition) : askedSteps (history ++ [transition]) =
      askedSteps history ++ transition.event.asked := by
  simp [askedSteps]

theorem lastUnwind_snoc (transition : ResourceTransition) : lastUnwind (history ++ [transition]) =
      (lastUnwind history).extend transition := by
  simp [lastUnwind]

theorem new (ownerThread : ThreadId) : HistoryInvariant [] (.new ownerThread) where
  base := .new ownerThread
  idle _ := ⟨.nil, by simp [lastUnwind], by simp [lastUnwind], by simp [lastUnwind]⟩
  suspended := by simp [SessionResourceLedger.new]
  released := by simp [askedSteps]
  releasedOnce := .nil
  tainted := by simp [askedSteps]

theorem noUnwind {targets : ResourceReceipt → Prop} {finished : Prop}
    (empty : ∀ resource, ¬targets resource) : UnwindOrder targets [] finished := by
  refine ⟨.nil, by simp, by simp, ?_⟩
  intro _ resource target
  exact absurd target (empty resource)

theorem quiet (invariant : HistoryInvariant history ledger)
    {reply : ResourceLedgerReply} (base : ResourceInvariant after)
    (idle : ∀ resource, ¬(reply.unwinds ∧ call.operation.targets ledger resource))
    (pending : after = ledger ∨ ledger.pendingUnwind = none ∧ after.pendingUnwind = none)
    (released : ∀ resource ∈ ledger.resources, ¬resource.status.isLive → resource ∈ after.resources)
    (disposition : after.disposition = ledger.disposition) :
    HistoryInvariant (history ++ [⟨ledger, call, ⟨reply, []⟩, after⟩]) after := by
  refine ⟨base, ?_, ?_, ?_, ?_, ?_⟩
  · intro noneAfter
    rw [lastUnwind_snoc, UnwindRecord.extend]
    have noneBefore : ledger.pendingUnwind = none := by
      rcases pending with same | ⟨none, -⟩
      · rw [← same, noneAfter]
      · exact none
    rw [if_neg (by simp [noneBefore])]
    exact noUnwind idle
  · intro left someAfter
    rcases pending with same | ⟨-, none⟩
    · subst same
      obtain ⟨all, remaining, unwind, asking, covers⟩ := invariant.suspended left someAfter
      refine ⟨all, remaining, unwind, ?_, ?_⟩ <;>
      · rw [lastUnwind_snoc, UnwindRecord.extend, if_pos (by simp [someAfter])]
        simpa using by assumption
    · rw [none] at someAfter
      cases someAfter
  · intro step member answered
    rw [askedSteps_snoc, List.append_nil] at member
    obtain ⟨resource, known, same, dead⟩ := invariant.released step member answered
    exact ⟨resource, released resource known dead, same, dead⟩
  · rw [askedSteps_snoc, List.append_nil]
    exact invariant.releasedOnce
  · rw [askedSteps_snoc, List.append_nil, disposition]
    exact invariant.tainted

theorem pumps (invariant : HistoryInvariant history ledger)
    {started : SessionResourceLedger} {pending : PendingUnwind}
    {all remaining : List ResourceReceipt} {result : ResourceUnwindResult}
    {asked steps : List ResourceUnwindStep} (base : ResourceInvariant started)
    (unwinding : started.state = .unwinding)
    (unwind : UnwindInvariant started pending all remaining) (asking : Asking all remaining asked)
    (resources : started.resources = ledger.resources)
    (disposition : started.disposition = ledger.disposition)
    (pumped : Pumped started pending remaining result steps after)
    (record : (lastUnwind history).extend ⟨ledger, call, ⟨.unwind result, steps⟩, after⟩ =
        ⟨fun resource => resource ∈ all, asked ++ steps⟩) :
    HistoryInvariant (history ++ [⟨ledger, call, ⟨.unwind result, steps⟩, after⟩]) after := by
  obtain ⟨base', course⟩ := pumped.keeps base unwinding unwind asking
  obtain ⟨stays, done⟩ := pumped.released base unwinding unwind
  obtain ⟨grows, taints⟩ := pumped.severity
  rw [resources] at stays
  rw [disposition] at grows
  have remainingLive := pumped.mem_remaining
  have newest : (asked ++ steps).Pairwise fun earlier later =>
      later.request.receipt.sequence < earlier.request.receipt.sequence ∨
        later.request.receipt = earlier.request.receipt ∧
          earlier.result.status = .cleanupExecutionRequired := by
    rcases course with ⟨-, asking'⟩ | ⟨_, _, _, -, asking'⟩ <;>
      exact asking'.pairwise unwind.descending
  refine ⟨base', ?_, ?_, ?_, ?_, ?_⟩
  · intro noneAfter
    rw [lastUnwind_snoc, record]
    rcases course with ⟨-, asking'⟩ | ⟨left, _, someAfter, -⟩
    · exact asking'.order unwind.descending (fun _ => Iff.rfl) fun _ => rfl
    · rw [someAfter] at noneAfter
      cases noneAfter
  · intro left someAfter
    rw [lastUnwind_snoc, record]
    rcases course with ⟨noneAfter, -⟩ | ⟨found, rest, foundAfter, unwind', asking'⟩
    · rw [noneAfter] at someAfter
      cases someAfter
    rw [foundAfter, Option.some.injEq] at someAfter
    subst someAfter
    exact ⟨all, rest, unwind', asking', fun _ => Iff.rfl⟩
  · intro step member answered
    rw [askedSteps_snoc] at member
    rcases List.mem_append.mp member with old | new
    · obtain ⟨resource, known, same, dead⟩ :=
        invariant.released step old answered
      exact ⟨resource, stays resource known dead, same, dead⟩
    · exact done step new answered
  · rw [askedSteps_snoc]
    refine List.pairwise_append.mpr ⟨invariant.releasedOnce, ?_, ?_⟩
    · have descends := newest.sublist (List.sublist_append_right asked steps)
      refine descends.imp_of_mem ?_
      intro earlier later member member' order answered same
      rcases order with older | ⟨-, required⟩
      · have registered := (unwind.live _ (remainingLive earlier member)).1
        have registered' := (unwind.live _ (remainingLive later member')).1
        rw [List.inj_on_of_nodup_map base.distinct registered' registered same] at older
        exact UInt64.lt_irrefl _ older
      · rw [answered] at required
        cases required
    · intro earlier old later new answered same
      obtain ⟨resource, known, named, dead⟩ := invariant.released earlier old answered
      obtain ⟨registered, live⟩ := unwind.live _ (remainingLive later new)
      rw [resources] at registered
      rw [List.inj_on_of_nodup_map invariant.base.distinct known registered
        (named.trans same.symm)] at dead
      exact dead live
  · rintro ⟨step, member, failed⟩
    rw [askedSteps_snoc] at member
    rcases List.mem_append.mp member with old | new
    · rw [invariant.tainted ⟨step, old, failed⟩] at grows
      cases reached : after.disposition <;> rw [reached] at grows
      · simp [ResourceCleanupDisposition.severity] at grows
      · simp [ResourceCleanupDisposition.severity] at grows
    · exact taints step new failed

theorem step (invariant : HistoryInvariant history ledger)
    (stepped : ResourceStep ledger call.operation event after) :
    HistoryInvariant (history ++ [⟨ledger, call, event, after⟩]) after := by
  cases stepped with
  | unchanged idle =>
    exact invariant.quiet invariant.base (fun _ both => idle both.1)
      (.inl rfl) (fun _ member _ => member) rfl
  | changed idle _ _ base pending pending' disposition released =>
    exact invariant.quiet base (fun _ both => idle both.1)
      (.inr ⟨pending, pending'⟩) released disposition
  | unused blank =>
    obtain ⟨-, resources, clean, -⟩ := invariant.base.blank blank
    have suspended := invariant.base.suspended
    rw [blank] at suspended
    have none : ledger.pendingUnwind = none := by simpa using suspended
    refine invariant.quiet ?_ ?_ (.inr ⟨none, none⟩) (fun _ member _ => member) rfl
    · exact { invariant.base with
        closedEmpty := by simp
        suspended := by simp [none]
        tainted := by simp
        blank := by simp }
    rintro resource ⟨-, registered, -⟩
    rw [resources] at registered
    cases registered
  | began idle base unwinding unwind covers resources disposition pumped =>
    refine invariant.pumps base unwinding unwind .start resources disposition pumped ?_
    rw [UnwindRecord.extend, if_neg (by simp [idle]), List.nil_append]
    congr 1
    funext resource
    rw [covers]
    exact propext (and_iff_right pumped.unwinds)
  | continued suspended pumps =>
    obtain ⟨all, remaining, unwind, asking, covers⟩ := invariant.suspended _ suspended
    have unwinding := invariant.base.suspended.mpr (by simp [suspended])
    refine invariant.pumps invariant.base unwinding unwind asking rfl rfl
      (pumps all remaining unwind) ?_
    rw [UnwindRecord.extend, if_pos (by simp [suspended])]
    congr 1
    funext resource
    exact propext (covers resource).symm

/-- The invariant holds over every run. -/
theorem of_run {sorting : UnstableSort} {ownerThread : ThreadId}
    (run : ResourceRun sorting ownerThread history ledger) : HistoryInvariant history ledger := by
  apply run.historyInvariant (HistoryInvariant.new ownerThread)
  intro history ledger call event after invariant _ stepped
  exact invariant.step (SessionResourceLedger.step_resourceStep invariant.base stepped)

variable {operation : ResourceLedgerOperation}

theorem pumped (invariant : HistoryInvariant history ledger)
    {pending : PendingUnwind} {result : ResourceUnwindResult} {steps : List ResourceUnwindStep}
    (suspended : ledger.pendingUnwind = some pending)
    (pumps : ∀ all remaining, UnwindInvariant ledger pending all remaining →
      Pumped ledger pending remaining result steps after) :
    ∃ remaining, Pumped ledger pending remaining result steps after := by
  obtain ⟨all, remaining, unwind, -⟩ := invariant.suspended pending suspended
  exact ⟨remaining, pumps all remaining unwind⟩

/-- A rejected call changes nothing. -/
theorem rejected_unchanged (invariant : HistoryInvariant history ledger)
    (stepped : ResourceStep ledger operation event after) (rejected : event.reply.rejected) :
    after = ledger := by
  cases stepped with
  | unchanged => rfl
  | changed _ accepted => exact absurd rejected accepted
  | unused _ completed =>
    have outcome : _ = ResourceUnwindOutcome.rejected := rejected
    rw [completed] at outcome
    cases outcome
  | began _ _ _ _ _ _ _ pumped => exact absurd rejected pumped.unwinds.1
  | continued suspended pumps =>
    obtain ⟨_, pumped⟩ := invariant.pumped suspended pumps
    exact absurd rejected pumped.unwinds.1

/-- The disposition gets no less severe. -/
theorem severity_le (invariant : HistoryInvariant history ledger)
    (stepped : ResourceStep ledger operation event after) :
    ledger.disposition.severity ≤ after.disposition.severity := by
  cases stepped with
  | unchanged | unused => exact Nat.le_refl _
  | changed _ _ _ _ _ _ disposition => rw [disposition]
  | began _ _ _ _ _ _ disposition pumped =>
    rw [← disposition]
    exact pumped.severity.1
  | continued suspended pumps =>
    obtain ⟨_, pumped⟩ := invariant.pumped suspended pumps
    exact pumped.severity.1

theorem accepting (stepped : ResourceStep ledger operation event after)
    (accepts : event.reply.accepts) : ledger.state = .accepting := by
  cases stepped with
  | unchanged _ accepting | changed _ _ accepting => exact accepting accepts
  | unused | began | continued => cases accepts

end HistoryInvariant

/-- Every history of the ledger keeps the laws. -/
theorem sessionResourceLaws {sorting : UnstableSort} {ownerThread : ThreadId}
    {history : List ResourceTransition} {ledger : SessionResourceLedger}
    (run : ResourceRun sorting ownerThread history ledger) :
    SessionResourceLaws history ledger := by
  have invariant := HistoryInvariant.of_run run
  have at_transition {earlier later : List ResourceTransition}
      {transition : ResourceTransition}
      (position : history = earlier ++ transition :: later) :
      HistoryInvariant earlier transition.before ∧
        ResourceStep transition.before transition.input.operation
          transition.event transition.after := by
    obtain ⟨shorter, -, stepped⟩ := run.split position
    have known := HistoryInvariant.of_run shorter
    exact ⟨known, SessionResourceLedger.step_resourceStep known.base stepped⟩
  refine ⟨invariant.releasedOnce, ?_, ?_, invariant.base.closedEmpty,
    invariant.base.uniqueLive, ?_, ?_, ?_⟩
  · cases pending : ledger.pendingUnwind with
    | none => simpa using invariant.idle pending
    | some _ =>
      obtain ⟨all, remaining, unwind, asking, covers⟩ := invariant.suspended _ pending
      exact asking.order unwind.descending covers fun finished => by cases finished
  · intro inner member outer member' opened
    exact invariant.base.open_above member member' opened
  · intro transition member
    obtain ⟨earlier, later, position⟩ := List.append_of_mem member
    obtain ⟨known, stepped⟩ := at_transition position
    exact known.severity_le stepped
  · intro earlier transition later position failed other member accepts
    obtain ⟨between, rest, split⟩ := List.append_of_mem member
    rw [split, ← List.cons_append, ← List.append_assoc] at position
    obtain ⟨known, stepped⟩ := at_transition position
    obtain ⟨step, asked, mandatory⟩ := failed
    have taint := known.tainted ⟨step, by
      simp only [askedSteps, List.flatMap_append, List.flatMap_cons, List.mem_append]
      exact .inr (.inl asked), mandatory⟩
    exact known.base.tainted taint (HistoryInvariant.accepting stepped accepts)
  · intro transition member rejected
    obtain ⟨earlier, later, position⟩ := List.append_of_mem member
    obtain ⟨known, stepped⟩ := at_transition position
    exact known.rejected_unchanged stepped rejected

namespace Sample

/-- A dispatcher whose first answer for a resource needs a cleanup. -/
def dispatcher (status : ResourceReleaseStatus) : ResourceReleaseDispatcher :=
  ⟨1, fun _ => ⟨status, []⟩⟩

/-- A resource of one service under one external identity. -/
def definition (kind : ResourceKind) : ResourceAcquisitionDefinition where
  owner := ⟨1⟩
  service := ⟨1⟩
  release := ⟨kind, ⟨1⟩⟩

def call (status : ResourceReleaseStatus) (operation : ResourceLedgerOperation) :
    ResourceLedgerCall :=
  ⟨0, dispatcher status, operation⟩

/-- Two resources share the external identity, and the release of the newer
one needs a cleanup execution. -/
def calls : List ResourceLedgerCall :=
  [call .released (.initializeSession ⟨1⟩ ⟨1⟩ ⟨1⟩), call .released (.openSyntheticScope ⟨1⟩ ⟨1⟩ []),
    call .released (.acquire ⟨2⟩ [definition .inputLease, definition .stopPointGroup]),
    call .cleanupExecutionRequired (.closeScope ⟨2⟩),
    call .cleanupExecutionRequired (.continueCleanup ⟨1⟩)]

end Sample

theorem sessionResourceLaws_sample : ∃ history ledger, SessionResourceLaws history ledger ∧
      (lastUnwind history).asked.length = 2 ∧ ledger.resources.length = 2 := by
  have replayed : ∃ history ledger,
      ResourceRun .insertion 0 history ledger ∧ _ :=
    Run.exists_of_replay Sample.calls
      (fun history ledger => (lastUnwind history).asked.length = 2 ∧ ledger.resources.length = 2)
      (by decide +kernel)
  obtain ⟨history, ledger, run, checked⟩ := replayed
  exact ⟨history, ledger, sessionResourceLaws run, checked⟩

/-- Taken to the letter the laws fail: two live resources of a service may have
the same external identity when their kinds differ, and a suspended unwind asks
again for the resource that suspended it. -/
theorem not_sessionResourceLaws : ¬∀ sorting ownerThread history ledger,
      ResourceRun sorting ownerThread history ledger →
        (ledger.resources.Pairwise fun earlier later =>
          earlier.status.isLive → later.status.isLive → ¬(earlier.service = later.service ∧
              earlier.release.externalId = later.release.externalId)) ∨
        (lastUnwind history).asked.Pairwise fun earlier later =>
          later.request.receipt.sequence < earlier.request.receipt.sequence := by
  intro claimed
  have replayed : ∃ history ledger,
      ResourceRun .insertion 0 history ledger ∧ _ :=
    Run.exists_of_replay Sample.calls
      (fun history ledger =>
        ((ledger.resources.map fun resource => (resource.status.isLive,
          resource.service, resource.release.externalId)) = List.replicate 2 (true, ⟨1⟩, ⟨1⟩)) ∧
          (lastUnwind history).asked.map (·.request.receipt.sequence) = [⟨2⟩, ⟨2⟩])
      (by decide +kernel)
  obtain ⟨history, ledger, run, live, asked⟩ := replayed
  rcases claimed _ _ _ _ run with unique | descending
  · have keys : (ledger.resources.map fun resource =>
        (resource.status.isLive, resource.service,
          resource.release.externalId)).Pairwise fun earlier later =>
        earlier.1 = true → later.1 = true → ¬(earlier.2.1 = later.2.1 ∧ earlier.2.2 = later.2.2) :=
      List.pairwise_map.mpr unique
    rw [live] at keys
    simp [List.replicate] at keys
  have sequences : ((lastUnwind history).asked.map
      (·.request.receipt.sequence)).Pairwise fun earlier later => later < earlier :=
    List.pairwise_map.mpr descending
  rw [asked] at sequences
  exact absurd (List.rel_of_pairwise_cons sequences List.mem_cons_self) (UInt64.lt_irrefl _)

end Savor.Resources

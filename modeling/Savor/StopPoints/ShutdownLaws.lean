import Savor.StopPoints.PlanLaws
import Savor.StopPoints.ShutdownInvariant

/-!
# Shutdown is final and leases are safe

After a successful cleanup nothing is installed, delivered or let in any more,
and a lease whose registration ended can be released once more without any
effect.  Both fail in a corner: the check of the control thread lets the owner
restart a stopped router, and of the registrations of one group id only the last
one is remembered.
-/

namespace Savor.StopPoints

open Program PhysicalStopPointManager Library
open Sample

abbrev RouterTransition := Transition StopPointRouter RouterCall RouterEvent

/-- The lease that a call releases. -/
def RouterOperation.released : RouterOperation → Option StopSubscriptionGroupLease
  | .releaseGroup lease | .releaseGroupNoThrow lease => some lease
  | _ => none

/-- The lease whose group a call replaces. -/
def RouterOperation.replaced : RouterOperation → Option StopSubscriptionGroupLease
  | .replaceGroup lease _ => some lease
  | _ => none

/-- The lease that a call issued. -/
def issuedLease (transition : RouterTransition) : Option StopSubscriptionGroupLease :=
  match transition.input.operation, transition.event.reply with
  | .registerGroup _ _, .registered receipt _ => if receipt.ok then some receipt.lease else none
  | _, _ => none

/-- The leases that were issued, the last one last. -/
def issuedLeases (history : List RouterTransition) : List StopSubscriptionGroupLease :=
  history.filterMap issuedLease

/-- The number of the newest registration of a group id. -/
def newestRegistration (history : List RouterTransition) (id : StopSubscriptionGroupId) :
    Option UInt64 :=
  ((issuedLeases history).reverse.find? (·.groupId = id)).map
    (·.registrationSequence)

/-- The lease is one that was issued, whatever became of it. -/
def Issued (history : List RouterTransition) (lease : StopSubscriptionGroupLease) : Prop :=
  ∃ issued ∈ issuedLeases history, issued.groupId = lease.groupId ∧
    issued.sourceId = lease.sourceId ∧ issued.registrationSequence = lease.registrationSequence

/-- The registration that a lease names. -/
def StopSubscriptionGroupLease.registration (lease : StopSubscriptionGroupLease) :
    StopSubscriptionGroupId × UInt64 :=
  (lease.groupId, lease.registrationSequence)

/-- The registration of a lease is active no more. -/
def StopPointRouter.Ended (router : StopPointRouter) (lease : StopSubscriptionGroupLease) : Prop :=
  ∀ group ∈ router.groups, group.registration ≠ lease.registration

instance (history : List RouterTransition) (lease : StopSubscriptionGroupLease) :
    Decidable (Issued history lease) :=
  inferInstanceAs (Decidable (∃ issued ∈ issuedLeases history, _))

instance (router : StopPointRouter) (lease : StopSubscriptionGroupLease) :
    Decidable (router.Ended lease) :=
  inferInstanceAs (Decidable (∀ group ∈ router.groups, _))

/-- The call was a cleanup that succeeded. -/
def Stops (transition : RouterTransition) : Prop :=
  match transition.input.operation, transition.event.reply with
  | .stopIngressDrainAndCleanup, .lifecycle receipt => receipt.ok = true
  | _, _ => False

instance (transition : RouterTransition) : Decidable (Stops transition) := by
  unfold Stops
  split <;> infer_instance

theorem stops_iff (transition : RouterTransition) : Stops transition ↔
      transition.input.operation = .stopIngressDrainAndCleanup ∧
        ∃ receipt, transition.event.reply = .lifecycle receipt ∧ receipt.ok = true := by
  unfold Stops
  constructor
  · intro stops
    split at stops
    · rename_i receipt asked replied
      exact ⟨asked, receipt, replied, stops⟩
    · cases stops
  rintro ⟨asked, receipt, replied, ok⟩
  rw [asked, replied]
  exact ok

/-- Nothing is installed, and nothing is let in. -/
structure StopPointRouter.ShutDown (router : StopPointRouter) : Prop where
  currentPlan : router.manager.currentPlan = {}
  ingressEnabled : router.ingressEnabled = false

/-- The release succeeded without an effect. -/
structure ReleasesNothing (transition : RouterTransition) : Prop where
  succeeds : ∃ receipt lease, transition.event.reply = .released receipt lease ∧
    receipt.ok = true ∧ receipt.alreadyReleased = true
  unchanged : transition.after = transition.before

/-- What a run tells about shutdown and leases. -/
structure ShutdownLaws (history : List RouterTransition) : Prop where
  final : ∀ earlier stop later, history = earlier ++ stop :: later →
    Stops stop → stop.after.ShutDown ∧ ∀ transition ∈ later,
      transition.after.ShutDown ∧ transition.event.notified = []
  ended : ∀ earlier transition later,
    history = earlier ++ transition :: later →
      ∀ lease ∈ transition.input.operation.released,
        Issued earlier lease → transition.before.Ended lease → ReleasesNothing transition
  own : ∀ transition ∈ history, ∀ lease,
    lease ∈ transition.input.operation.released ∨ lease ∈ transition.input.operation.replaced →
    ∀ group ∈ transition.before.groups,
      group.registration ≠ lease.registration → group ∈ transition.after.groups

/-- A call leaves a stopped router stopped, and the owner releases a lease that
ended while no later registration of its group id was made. -/
def Orderly (earlier : List RouterTransition) (transition : RouterTransition) : Prop :=
  (transition.before.stopped = true → ¬transition.input.Restarts transition.before) ∧
  ∀ lease ∈ transition.input.operation.released,
    lease.active = true → Issued earlier lease →
      transition.before.Ended lease →
        (transition.before.stopping = true ∨ transition.before.stopped = true ∨
          transition.input.thread = transition.before.ownerThread) ∧
        newestRegistration earlier lease.groupId = some lease.registrationSequence

instance (earlier : List RouterTransition) (transition : RouterTransition) :
    Decidable (Orderly earlier transition) :=
  instDecidableAnd

theorem AppliesCandidate.groups_eq {router : StopPointRouter}
    {candidate : Groups} {backend : PhysicalStopPointBackend}
    {result : CandidateApplyReceipt × StopPointRouter}
    (applies : AppliesCandidate router candidate backend result) :
    result.2.groups = router.groups ∨ result.2.groups = candidate := by
  cases applies with
  | kept => exact .inl rfl
  | published | torn => exact .inr rfl

namespace StopPointRouter

variable {router next : StopPointRouter} {call : RouterCall}

variable {label : MoveLabel} {lease : StopSubscriptionGroupLease}
variable {group : GroupRecord}

theorem move_stopped (move : Move call router label next) :
    (router.initialized = true → router.stopped = true → next.stopped = true) ∧
    (next.stopped = true → router.stopped = true ∨
      next.Finished ∧ call.operation = .stopIngressDrainAndCleanup) := by
  have of_same {next : StopPointRouter} (same : next.stopped = router.stopped) :
      (router.initialized = true → router.stopped = true → next.stopped = true) ∧
      (next.stopped = true → router.stopped = true ∨
        next.Finished ∧ call.operation = .stopIngressDrainAndCleanup) :=
    ⟨fun _ => same.trans, fun stopped => .inl (same.symm.trans stopped)⟩
  cases move with
  | control change => exact of_same change.stopped
  | initialized firstEpoch fresh =>
    have outcome := initializeRouter_cases call firstEpoch fresh
    generalize router.initializeRouter call firstEpoch = result at outcome ⊢
    cases outcome with
    | refused | failed => exact of_same rfl
    | started => exact ⟨fun used => absurd (used.symm.trans fresh) (by decide), nofun⟩
  | closed | reopened | accepted => exact of_same rfl
  | reapplied | inserted => exact of_same (applyCandidate_keeps _ _ _ _).stopped
  | erased _ lease =>
    apply of_same
    have kept := applyCandidate_keeps router (router.groups.erase lease.groupId) false call.backend
    unfold eraseGroup
    dsimp only
    split <;> exact kept.stopped
  | revalidated => exact of_same (revalidate_keeps router call).stopped
  | drained => exact of_same (drainIngress_keeps _ _ _ _).stopped
  | hit hit readerFree => exact of_same (routeNative_gatesChange router readerFree hit).stopped
  | injected hit authoritative =>
    exact of_same (injected_gatesChange router hit authoritative call.consumers).stopped
  | cleaned active drained closed asked =>
    have cleans := cleanUp_cases router call
    refine ⟨fun _ => cleans.stopped, fun stopped => ?_⟩
    obtain earlier | ⟨groups, currentPlan, silent⟩ := cleans.finished stopped
    · exact .inl earlier
    · exact .inr ⟨⟨cleans.initialized.trans active, groups, currentPlan,
        silent, cleans.pending, cleans.ingressEnabled.trans closed⟩, asked⟩

/-- A router that was stopped is finished. -/
def StoppedIsFinished (router : StopPointRouter) : Prop := router.stopped = true → router.Finished

theorem move_constants (move : Move call router label next) :
    next.ownerThread = router.ownerThread ∧ next.ports = router.ports := by
  cases move with
  | control change => exact ⟨change.ownerThread, change.ports⟩
  | initialized firstEpoch fresh =>
    have outcome := initializeRouter_cases call firstEpoch fresh
    generalize router.initializeRouter call firstEpoch = result at outcome ⊢
    cases outcome <;> exact ⟨rfl, rfl⟩
  | closed | reopened | accepted => exact ⟨rfl, rfl⟩
  | reapplied =>
    have kept := applyCandidate_keeps router router.groups true call.backend
    exact ⟨kept.ownerThread, kept.ports⟩
  | inserted _ definition sequence following =>
    have kept := applyCandidate_keeps
      { router with
        nextRegistrationSequence := following
        gates := (makeGroupRecord router.gates definition sequence router.worksetEpoch).2 }
      (router.groups.insert (makeGroupRecord router.gates definition sequence
        router.worksetEpoch).1) false call.backend
    exact ⟨kept.ownerThread, kept.ports⟩
  | erased _ lease =>
    have kept := applyCandidate_keeps router (router.groups.erase lease.groupId) false call.backend
    unfold eraseGroup
    dsimp only
    split <;> exact ⟨kept.ownerThread, kept.ports⟩
  | revalidated =>
    have kept := revalidate_keeps router call
    exact ⟨kept.ownerThread, kept.ports⟩
  | drained =>
    have kept := drainIngress_keeps router call.thread call.drainBackend call.consumers
    exact ⟨kept.ownerThread, kept.ports⟩
  | hit hit readerFree =>
    have change := routeNative_gatesChange router readerFree hit
    exact ⟨change.ownerThread, change.ports⟩
  | injected hit authoritative =>
    have change := injected_gatesChange router hit authoritative call.consumers
    exact ⟨change.ownerThread, change.ports⟩
  | cleaned =>
    have cleans := cleanUp_cases router call
    exact ⟨cleans.ownerThread, cleans.ports⟩

theorem restarts_of_move (move : Move call router label next) (restarts : call.Restarts next) :
    call.Restarts router := by
  obtain ⟨owner, ports⟩ := move_constants move
  unfold RouterCall.Restarts at restarts ⊢
  rwa [owner, ports] at restarts

theorem not_restarts_of_stop (asked : call.operation = .stopIngressDrainAndCleanup) :
    ¬call.Restarts router := by
  unfold RouterCall.Restarts
  rw [asked]
  exact fun restarts => restarts.2

variable {labels : List MoveLabel}

theorem moves_finished (moves : Moves call router labels next)
    (finished : router.Finished) (kept : ¬call.Restarts router) :
    next.Finished ∧ labels.flatMap MoveLabel.notified = [] := by
  induction moves with
  | done => exact ⟨finished, rfl⟩
  | move first _ ih =>
    obtain ⟨later, silent⟩ := finished.move kept first
    obtain ⟨last, rest⟩ := ih later (kept ∘ restarts_of_move first)
    refine ⟨last, ?_⟩
    rw [List.flatMap_cons, silent, rest]
    rfl

/-- A call that does not restart a stopped router leaves a router finished that
is stopped. -/
theorem moves_stoppedIsFinished (moves : Moves call router labels next)
    (kept : router.stopped = true → ¬call.Restarts router) (holds : router.StoppedIsFinished) :
    next.StoppedIsFinished := by
  have stays {router next : StopPointRouter} {label : MoveLabel}
      (move : Move call router label next)
      (before : router.stopped = true → router.Finished ∧ ¬call.Restarts router) :
      next.stopped = true → next.Finished ∧ ¬call.Restarts next := by
    intro stopped
    rcases (move_stopped move).2 stopped with earlier | ⟨finished, asked⟩
    · obtain ⟨finished, kept⟩ := before earlier
      exact ⟨(finished.move kept move).1, kept ∘ restarts_of_move move⟩
    · exact ⟨finished, not_restarts_of_stop asked⟩
  have both : next.stopped = true → next.Finished ∧ ¬call.Restarts next :=
    moves.invariant stays fun stopped => ⟨holds stopped, kept stopped⟩
  exact fun stopped => (both stopped).1

/-- A router that was stopped, and not restarted, stays stopped and delivers
nothing. -/
theorem perform_shutDown (holds : router.StoppedIsFinished) (stopped : router.stopped = true)
    (kept : ¬call.Restarts router) : (router.perform call).2.stopped = true ∧
      (router.perform call).2.ShutDown ∧ (router.perform call).1.notified = [] := by
  obtain ⟨labels, moves, records⟩ := perform_moves router call
  have finished := holds stopped
  obtain ⟨later, silent⟩ := moves_finished moves finished kept
  have stays {router next : StopPointRouter} {label : MoveLabel}
      (move : Move call router label next)
      (before : (router.Finished ∧ ¬call.Restarts router) ∧ router.stopped = true) :
      (next.Finished ∧ ¬call.Restarts next) ∧ next.stopped = true := by
    obtain ⟨⟨finished, kept⟩, stopped⟩ := before
    exact ⟨⟨(finished.move kept move).1, kept ∘ restarts_of_move move⟩,
      (move_stopped move).1 finished.initialized stopped⟩
  have last := moves.invariant stays ⟨⟨finished, kept⟩, stopped⟩
  exact ⟨last.2, ⟨later.currentPlan, later.ingressEnabled⟩, records.notified.trans silent⟩

theorem stopped_of_stops (asked : call.operation = .stopIngressDrainAndCleanup)
    (succeeds : ∃ receipt, (router.perform call).1.reply = .lifecycle receipt ∧ receipt.ok = true) :
    (router.perform call).2.stopped = true := by
  simp only [perform, asked] at succeeds ⊢
  unfold stopIngressDrainAndCleanup at succeeds ⊢
  split
  · assumption
  rename_i running
  rw [if_neg running] at succeeds
  split
  · rename_i unused
    rw [if_pos unused] at succeeds
    obtain ⟨receipt, ⟨⟩, ⟨⟩⟩ := succeeds
  rename_i used
  rw [if_neg used] at succeeds
  split
  · rename_i foreign
    rw [if_pos foreign] at succeeds
    obtain ⟨receipt, ⟨⟩, ⟨⟩⟩ := succeeds
  rename_i owner
  rw [if_neg owner] at succeeds
  dsimp only at succeeds ⊢
  obtain ⟨receipt, ⟨⟩, ok⟩ := succeeds
  have cleaned : ((({ router with ingressEnabled := false } :
      StopPointRouter).drain call).router.cleanUp call).1.ok = true := by
    split at ok
    · assumption
    · exact ok
  unfold cleanUp at cleaned ⊢
  dsimp only at cleaned ⊢
  split at cleaned
  · rename_i both
    rw [if_pos both]
  · cases cleaned

theorem perform_carries (faithful : call.Faithful) (quiet : ∀ definition policy,
      call.operation ≠ .registerGroup definition policy) :
    Carries router (router.perform call).2 := by
  obtain ⟨labels, moves, -⟩ := perform_moves router call
  have stays {middle next : StopPointRouter} {label : MoveLabel}
      (move : Move call middle label next)
      (before : Carries router middle) :
      Carries router next :=
    before.trans (.move faithful quiet move)
  exact moves.invariant stays (.refl router)

theorem releaseGroup_ended (newest : router.Newest lease.groupId lease.registrationSequence)
    (ended : router.Ended lease) (used : router.initialized = true)
    (owner : router.stopping = true ∨ router.stopped = true ∨ call.thread = router.ownerThread) :
    (∃ receipt after, (router.releaseGroup call lease).1.reply = .released receipt after ∧
      receipt.ok = true ∧ receipt.alreadyReleased = true) ∧
      (router.releaseGroup call lease).2 = router := by
  obtain ⟨absent, released⟩ : router.groups.find lease.groupId = none ∧
      router.releasedRegistrationSequences lease.groupId = some lease.registrationSequence := by
    rcases newest with active | released
    · rw [Option.map_eq_some_iff] at active
      obtain ⟨group, found, sequence⟩ := active
      obtain ⟨member, named⟩ := Groups.mem_of_find found
      refine absurd ?_ (ended group member)
      unfold GroupRecord.registration StopSubscriptionGroupLease.registration
      rw [named, sequence]
    · exact released
  have remembered : router.wasReleased lease = true := by simp [wasReleased, released]
  unfold releaseGroup
  dsimp only
  split
  · exact ⟨⟨_, _, rfl, rfl, rfl⟩, rfl⟩
  rw [remembered, Bool.and_true]
  split
  · exact ⟨⟨_, _, rfl, rfl, rfl⟩, rfl⟩
  rename_i running
  simp only [Bool.or_eq_true, not_or, Bool.not_eq_true] at running
  have checked : router.checkControlThread call = none := by
    unfold checkControlThread
    rcases owner with stopping | stopped | owner
    · exact absurd (stopping.symm.trans running.1) (by decide)
    · exact absurd (stopped.symm.trans running.2) (by decide)
    · simp [used, owner, running.1]
  rw [checked, absent]
  dsimp only
  exact ⟨⟨_, _, rfl, rfl, rfl⟩, rfl⟩

theorem releaseGroup_released (inactive : lease.active = false) :
    (∃ receipt after, (router.releaseGroup call lease).1.reply = .released receipt after ∧
      receipt.ok = true ∧ receipt.alreadyReleased = true) ∧
      (router.releaseGroup call lease).2 = router := by
  unfold releaseGroup
  dsimp only
  rw [if_pos (by simp [inactive])]
  exact ⟨⟨_, _, rfl, rfl, rfl⟩, rfl⟩

theorem releaseGroupNoThrow_ended
    (released : (∃ receipt after, (router.releaseGroup call lease).1.reply =
        .released receipt after ∧ receipt.ok = true ∧ receipt.alreadyReleased = true) ∧
      (router.releaseGroup call lease).2 = router) :
    (∃ receipt after, (router.releaseGroupNoThrow call lease).1.reply = .released receipt after ∧
      receipt.ok = true ∧ receipt.alreadyReleased = true) ∧
      (router.releaseGroupNoThrow call lease).2 = router := by
  obtain ⟨⟨receipt, after, replied, ok, already⟩, unchanged⟩ := released
  have same : router.releaseGroupNoThrow call lease =
      router.releaseGroup call lease := by
    unfold releaseGroupNoThrow
    dsimp only
    rw [replied]
    dsimp only
    rw [if_pos ok]
  rw [same]
  exact ⟨⟨receipt, after, replied, ok, already⟩, unchanged⟩

theorem releaseGroup_own (sorted : router.groups.Sorted)
    (lease : StopSubscriptionGroupLease) (member : group ∈ router.groups)
    (other : group.registration ≠ lease.registration) :
    group ∈ (router.releaseGroup call lease).2.groups := by
  unfold releaseGroup
  dsimp only
  split
  · exact member
  split
  · exact member
  split
  · exact member
  split
  · split <;> exact member
  rename_i existing found
  split
  · exact member
  rename_i owned
  rw [not_or, not_not, not_not] at owned
  have applies := applyCandidate_applies router
    (router.groups.erase lease.groupId) false call.backend
  have kept : group ∈ (router.applyCandidate
      (router.groups.erase lease.groupId) false call.backend).2.groups := by
    rcases applies.groups_eq with same | erased
    · rw [same]
      exact member
    rw [erased]
    refine List.mem_filter.mpr ⟨member, ?_⟩
    rw [decide_eq_true_eq]
    intro named
    have again := sorted.find_of_mem member
    rw [named, found, Option.some.injEq] at again
    subst again
    exact other (Prod.ext named owned.2)
  split
  · unfold distrustPhysical
    split <;> exact kept
  · exact kept

theorem releaseGroupNoThrow_own (sorted : router.groups.Sorted)
    (lease : StopSubscriptionGroupLease) (member : group ∈ router.groups)
    (other : group.registration ≠ lease.registration) :
    group ∈ (router.releaseGroupNoThrow call lease).2.groups := by
  have kept : group ∈ (router.releaseGroup call lease).2.groups :=
    releaseGroup_own sorted lease member other
  unfold releaseGroupNoThrow
  dsimp only
  split
  · split <;> exact kept
  · exact kept

theorem replaceGroup_own (sorted : router.groups.Sorted) (lease : StopSubscriptionGroupLease)
    (definition : StopSubscriptionGroupDefinition) (member : group ∈ router.groups)
    (other : group.registration ≠ lease.registration) :
    group ∈ (router.replaceGroup call lease definition).2.groups := by
  unfold replaceGroup
  dsimp only
  split
  · exact member
  split
  · exact member
  split
  · exact member
  rename_i existing found
  split
  · exact member
  rename_i owned
  split
  · exact member
  rename_i named
  split
  · exact member
  rw [not_or, not_not, not_not] at owned named
  have applies := insertGroup_applies router definition
    lease.registrationSequence router.nextRegistrationSequence call.backend
  unfold insertGroup at applies
  dsimp only at applies
  have kept := applies.groups_eq
  generalize StopPointRouter.applyCandidate _ _ _ _ = result at kept ⊢
  have stays : group ∈ result.2.groups := by
    rcases kept with same | inserted
    · rw [same]
      exact member
    rw [inserted]
    apply Groups.mem_insert member
    intro same
    have again := sorted.find_of_mem member
    have named : group.id = lease.groupId := same.trans named.1
    rw [named, found, Option.some.injEq] at again
    subst again
    exact other (Prod.ext named owned.2)
  split
  · unfold distrustPhysical
    split <;> exact stays
  · exact stays

end StopPointRouter

/-- What holds of a run whose calls are orderly. -/
structure LeasesTracked (history : List RouterTransition) (router : StopPointRouter) : Prop where
  sorted : router.groups.Sorted
  newest : ∀ id sequence, newestRegistration history id = some sequence → router.Newest id sequence
  used : issuedLeases history ≠ [] → router.initialized = true
  finished : router.StoppedIsFinished
  stopped : (∃ transition ∈ history, Stops transition) → router.stopped = true

namespace LeasesTracked

variable {history : List RouterTransition} {router : StopPointRouter}

theorem new (ownerThread : ThreadId) (ports : StopPointPorts) :
    LeasesTracked [] (.new ownerThread ports) where
  sorted := List.Pairwise.nil
  newest := nofun
  used none := absurd rfl none
  finished := nofun
  stopped := by simp

theorem issuedLeases_snoc (history : List RouterTransition) (transition : RouterTransition) :
    issuedLeases (history ++ [transition]) =
      issuedLeases history ++ (issuedLease transition).toList := by
  unfold issuedLeases
  rw [List.filterMap_append]
  cases issued : issuedLease transition <;> simp [issued]

variable {transition : RouterTransition}

section

variable (tracked : LeasesTracked history transition.before)
include tracked

theorem unissued (silent : issuedLease transition = none)
    (carries : transition.before.Carries transition.after)
    (finished : transition.after.StoppedIsFinished)
    (stopped : (∃ other ∈ history ++ [transition], Stops other) → transition.after.stopped = true) :
    LeasesTracked (history ++ [transition]) transition.after := by
  have same : issuedLeases (history ++ [transition]) = issuedLeases history := by
    rw [issuedLeases_snoc, silent, Option.toList_none, List.append_nil]
  refine ⟨carries.sorted tracked.sorted, ?_, ?_, finished, stopped⟩
  · intro id sequence newest
    apply carries.newest tracked.sorted
    apply tracked.newest
    unfold newestRegistration at newest ⊢
    rwa [same] at newest
  intro some
  rw [same] at some
  exact carries.initialized (tracked.used some)

theorem issued {lease : StopSubscriptionGroupLease} (issues : issuedLease transition = some lease)
    (registers : transition.before.Registers lease transition.after)
    (finished : transition.after.StoppedIsFinished)
    (stopped : (∃ other ∈ history ++ [transition], Stops other) → transition.after.stopped = true) :
    LeasesTracked (history ++ [transition]) transition.after := by
  refine ⟨registers.sorted tracked.sorted, ?_, fun _ => registers.initialized, finished, stopped⟩
  intro id sequence newest
  unfold newestRegistration at newest
  rw [issuedLeases_snoc, issues, Option.toList_some, List.reverse_append,
    List.reverse_singleton, List.singleton_append, List.find?_cons] at newest
  by_cases named : lease.groupId = id
  · subst named
    simp only [decide_true, Option.map_some, Option.some.injEq] at newest
    subst newest
    exact registers.issued tracked.sorted
  simp only [named, decide_false] at newest
  exact registers.newest tracked.sorted id sequence (Ne.symm named)
    (tracked.newest id sequence newest)

/-- A call keeps what is tracked, whether it issues a lease or not. -/
theorem perform (faithful : transition.input.Faithful) (orderly : Orderly history transition)
    (stepped : StopPointRouter.step transition.input transition.before =
      some (transition.event, transition.after)) :
    LeasesTracked (history ++ [transition]) transition.after := by
  have performed := StopPointRouter.perform_of_step stepped
  have finished : transition.after.StoppedIsFinished := by
    obtain ⟨labels, moves, -⟩ := StopPointRouter.perform_moves transition.before transition.input
    rw [performed] at moves
    exact StopPointRouter.moves_stoppedIsFinished moves orderly.1 tracked.finished
  have stopped : (∃ other ∈ history ++ [transition], Stops other) →
      transition.after.stopped = true := by
    rintro ⟨other, member, stops⟩
    rcases List.mem_append.mp member with old | new
    · have before := tracked.stopped ⟨other, old, stops⟩
      have stays := StopPointRouter.perform_shutDown tracked.finished before (orderly.1 before)
      rw [performed] at stays
      exact stays.1
    rw [List.mem_singleton] at new
    subst new
    have event : (other.before.perform other.input).1 = other.event := congrArg Prod.fst performed
    obtain ⟨asked, succeeds⟩ := (stops_iff other).mp stops
    have stops := StopPointRouter.stopped_of_stops asked (event ▸ succeeds)
    rwa [performed] at stops
  by_cases registers : ∃ definition policy,
      transition.input.operation = .registerGroup definition policy
  · obtain ⟨definition, policy, asked⟩ := registers
    have registration : StopPointRouter.Registration transition.before
        (transition.before.registerGroup transition.input definition policy) :=
      StopPointRouter.registerGroup_registration faithful definition policy
    simp only [StopPointRouter.perform, asked] at performed
    rw [performed] at registration
    obtain ⟨before, input, event, after⟩ := transition
    dsimp only at *
    cases registration with
    | refused failed carries =>
      exact tracked.unissued (by simp [issuedLease, asked, failed]) carries finished stopped
    | registered ok registers =>
      exact tracked.issued (by simp [issuedLease, asked, ok]) registers finished stopped
  · have quiet : ∀ definition policy, transition.input.operation ≠
        .registerGroup definition policy :=
      fun definition policy asked => registers ⟨definition, policy, asked⟩
    have carries : transition.before.Carries
        (transition.before.perform transition.input).2 :=
      StopPointRouter.perform_carries faithful quiet
    rw [performed] at carries
    refine tracked.unissued ?_ carries finished stopped
    unfold issuedLease
    split
    · rename_i asked _
      exact absurd asked (quiet _ _)
    · rfl

end

end LeasesTracked

/-- Shutdown is final and leases are safe in every orderly run. -/
theorem shutdown_is_final (ownerThread : ThreadId) (ports : StopPointPorts)
    (history : List RouterTransition) (router : StopPointRouter)
    (run : Run StopPointRouter.step (fun _ call => call.Faithful)
      (StopPointRouter.new ownerThread ports) history router)
    (orderly : Everywhere Orderly history) :
    ShutdownLaws history := by
  have upTo {earlier later : List RouterTransition}
      {transition : RouterTransition}
      (position : history = earlier ++ transition :: later) :
      LeasesTracked earlier transition.before ∧
        transition.input.Faithful ∧ Orderly earlier transition ∧
        transition.before.perform transition.input = (transition.event, transition.after) := by
    obtain ⟨before, faithful, stepped⟩ := run.split position
    have tracked : LeasesTracked earlier transition.before :=
      (orderly.earlier position).invariant (.new ownerThread ports)
        (fun _ _ tracked faithful met stepped => tracked.perform faithful met stepped) before
    exact ⟨tracked, faithful, orderly _ _ _ position, StopPointRouter.perform_of_step stepped⟩
  refine ⟨?_, ?_, ?_⟩
  · intro earlier stop later position stops
    obtain ⟨tracked, faithful, met, performed⟩ := upTo position
    constructor
    · have after := tracked.perform faithful met (congrArg some performed)
      have finished := after.finished (after.stopped ⟨stop, by simp, stops⟩)
      exact ⟨finished.currentPlan, finished.ingressEnabled⟩
    intro transition member
    obtain ⟨middle, last, rfl⟩ := List.append_of_mem member
    rw [← List.cons_append, ← List.append_assoc] at position
    obtain ⟨tracked, -, met, performed⟩ := upTo position
    have stopped := tracked.stopped ⟨stop, by simp, stops⟩
    have kept := StopPointRouter.perform_shutDown tracked.finished stopped (met.1 stopped)
    rw [performed] at kept
    exact kept.2
  · intro earlier transition later position lease released issued ended
    obtain ⟨tracked, faithful, met, performed⟩ := upTo position
    have used : transition.before.initialized = true := by
      apply tracked.used
      obtain ⟨other, member, -⟩ := issued
      exact List.ne_nil_of_mem member
    have nothing : (∃ receipt after,
          (transition.before.releaseGroup transition.input lease).1.reply =
            .released receipt after ∧ receipt.ok = true ∧ receipt.alreadyReleased = true) ∧
        (transition.before.releaseGroup transition.input lease).2 = transition.before := by
      cases active : lease.active with
      | false => exact StopPointRouter.releaseGroup_released active
      | true =>
        obtain ⟨owner, newest⟩ := met.2 lease released active issued ended
        exact StopPointRouter.releaseGroup_ended (tracked.newest _ _ newest) ended used owner
    have performs : (∃ receipt after, (transition.before.perform transition.input).1.reply =
            .released receipt after ∧ receipt.ok = true ∧ receipt.alreadyReleased = true) ∧
        (transition.before.perform transition.input).2 = transition.before := by
      unfold StopPointRouter.perform
      cases asked : transition.input.operation with
      | releaseGroup other =>
        rw [asked] at released
        cases released
        exact nothing
      | releaseGroupNoThrow other =>
        rw [asked] at released
        cases released
        exact StopPointRouter.releaseGroupNoThrow_ended nothing
      | _ =>
        rw [asked] at released
        cases released
    rw [performed] at performs
    exact ⟨performs.1, performs.2⟩
  · intro transition member lease named group active other
    obtain ⟨earlier, later, position⟩ := List.append_of_mem member
    obtain ⟨tracked, -, -, performed⟩ := upTo position
    have kept :
        group ∈ (transition.before.perform transition.input).2.groups := by
      unfold StopPointRouter.perform
      cases asked : transition.input.operation with
      | releaseGroup released =>
        rw [asked] at named
        rcases named with ⟨⟨⟩⟩ | ⟨⟨⟩⟩
        exact StopPointRouter.releaseGroup_own tracked.sorted _ active other
      | releaseGroupNoThrow released =>
        rw [asked] at named
        rcases named with ⟨⟨⟩⟩ | ⟨⟨⟩⟩
        exact StopPointRouter.releaseGroupNoThrow_own tracked.sorted _ active other
      | replaceGroup replaced definition =>
        rw [asked] at named
        rcases named with ⟨⟨⟩⟩ | ⟨⟨⟩⟩
        exact StopPointRouter.replaceGroup_own tracked.sorted _ _ active other
      | _ =>
        rw [asked] at named
        rcases named with ⟨⟨⟩⟩ | ⟨⟨⟩⟩
    rw [performed] at kept
    exact kept

theorem shutdown_is_final_sample : ∃ history, ShutdownLaws history ∧ history.length = 8 ∧
      (∃ transition ∈ history, Stops transition) ∧
      ∃ transition ∈ history, transition.input.operation.released.any
        fun lease => Issued history lease ∧ transition.before.Ended lease := by
  have reached : ∃ history router, Run StopPointRouter.step
      (fun _ call => call.Faithful)
      (StopPointRouter.new 0 ports) history router ∧ _ :=
    Run.exists_of_replay_inputs
      ([.initializeRouter ⟨1⟩, register 1 (.passive {}) .oneShot, hit, .drainIngress,
        .releaseGroupNoThrow ⟨⟨1⟩, ⟨1⟩, 1, ⟨1⟩, true⟩, .stopIngressDrainAndCleanup, hit,
        .quiesceForWorksetBaselineRestore].map call)
      (fun _ member => faithful member)
      (fun history _ => Everywhere Orderly history ∧ history.length = 8 ∧
        (∃ transition ∈ history, Stops transition) ∧
        ∃ transition ∈ history, transition.input.operation.released.any
          fun lease => Issued history lease ∧ transition.before.Ended lease)
      (by decide +kernel) (fun _ _ _ _ _ faithful => faithful)
  obtain ⟨history, router, run, orderly, length, stops, released⟩ := reached
  exact ⟨history, shutdown_is_final 0 ports history router run orderly, length, stops, released⟩

/-- The second call stops the router and the third installs a stop. -/
def installsAfterStop : List RouterTransition → Bool
  | [_, stop, registration] => decide (Stops stop) && registration.after.manager.currentPlan ≠ {}
  | _ => false

/-- Shutdown is not final in every run: the owner registers a group with a
router that was stopped, and its stop is installed. -/
theorem shutdown_is_not_final : ¬∀ (ownerThread : ThreadId) (ports : StopPointPorts)
      (history : List RouterTransition) (router : StopPointRouter),
      Run StopPointRouter.step (fun _ call => call.Faithful)
        (StopPointRouter.new ownerThread ports) history router → ShutdownLaws history := by
  intro always
  have reached : ∃ history router, Run StopPointRouter.step
      (fun _ call => call.Faithful)
      (StopPointRouter.new 0 ports) history router ∧ _ :=
    Run.exists_of_replay_inputs
      ([.initializeRouter ⟨1⟩, .stopIngressDrainAndCleanup,
        register 1 (.passive {}) .scoped].map call)
      (fun _ member => faithful member)
      (fun history _ => installsAfterStop history = true)
      (by decide +kernel) (fun _ _ _ _ _ faithful => faithful)
  obtain ⟨history, router, run, differs⟩ := reached
  have laws := always 0 ports history router run
  unfold installsAfterStop at differs
  split at differs
  · rename_i first stop registration
    rw [Bool.and_eq_true, decide_eq_true_eq, decide_eq_true_eq] at differs
    obtain ⟨-, later⟩ := laws.final [first] stop [registration] rfl differs.1
    have kept := later registration (List.mem_singleton.mpr rfl)
    exact differs.2 kept.1.currentPlan
  · cases differs

end Savor.StopPoints

import Savor.StopPoints.PublishFacts

/-!
# What the router remembers of a registration

The newest registration of a group id is the active one, or with none active the
one that was released last.  With a faithful backend no call but a registration
changes which one that is, so that a lease can be told to have ended.
-/

namespace Savor.StopPoints

open Program PhysicalStopPointManager

namespace Groups

variable {groups : Groups} {group : GroupRecord} {gates : Gates}
variable {id : StopSubscriptionGroupId}

/-- The ids increase, as the keys of a map do. -/
def Sorted (groups : Groups) : Prop :=
  List.Pairwise (fun first second : GroupRecord => first.id.value < second.id.value) groups

theorem find_erase (groups : Groups) (erased id : StopSubscriptionGroupId) :
    (groups.erase erased).find id = if id = erased then none else groups.find id := by
  unfold erase find
  rw [List.find?_filter]
  split
  · rename_i same
    simp [same]
  rename_i other
  congr 1
  funext candidate
  by_cases named : candidate.id = id
  · simp [named, other]
  · simp [named]

theorem find_insert (groups : Groups) (group : GroupRecord) (id : StopSubscriptionGroupId) :
    (groups.insert group).find id = if group.id = id then some group else groups.find id := by
  unfold find
  induction groups with
  | nil => by_cases named : group.id = id <;> simp [insert, named]
  | cons head rest ih =>
    unfold insert
    split
    · by_cases named : group.id = id <;> simp [named]
    split
    · rename_i same
      by_cases named : group.id = id
      · simp [named]
      · simp [named, ← same]
    rename_i other
    by_cases named : group.id = id
    · have passed : head.id ≠ id := fun heads => other (named.trans heads.symm)
      simpa [List.find?_cons, named, passed] using ih
    · simp only [List.find?_cons, ih, named, if_false]

theorem mem_insert {other : GroupRecord} (member : other ∈ groups)
    (distinct : other.id ≠ group.id) : other ∈ groups.insert group := by
  induction groups with
  | nil => cases member
  | cons head rest ih =>
    unfold insert
    split
    · exact List.mem_cons_of_mem group member
    split
    · rename_i same
      rcases List.mem_cons.mp member with rfl | later
      · exact absurd same.symm distinct
      · exact List.mem_cons_of_mem group later
    rcases List.mem_cons.mp member with rfl | later
    · exact List.mem_cons_self
    · exact List.mem_cons_of_mem head (ih later)

theorem mem_of_mem_insert {other : GroupRecord} (member : other ∈ groups.insert group) :
    other = group ∨ other ∈ groups := by
  induction groups with
  | nil => exact .inl (List.mem_singleton.mp member)
  | cons head rest ih =>
    unfold insert at member
    split at member
    · exact List.mem_cons.mp member
    split at member
    · exact (List.mem_cons.mp member).imp_right (List.mem_cons_of_mem head)
    rcases List.mem_cons.mp member with rfl | later
    · exact .inr List.mem_cons_self
    · exact (ih later).imp_right (List.mem_cons_of_mem head)

theorem Sorted.erase (sorted : groups.Sorted) (id : StopSubscriptionGroupId) :
    (groups.erase id).Sorted :=
  List.Pairwise.sublist List.filter_sublist sorted

theorem Sorted.insert (sorted : groups.Sorted) (group : GroupRecord) :
    (groups.insert group).Sorted := by
  induction groups with
  | nil => exact List.pairwise_singleton _ _
  | cons head rest ih =>
    obtain ⟨first, tail⟩ := List.pairwise_cons.mp sorted
    unfold Groups.insert
    split
    · rename_i smaller
      apply List.pairwise_cons.mpr
      refine ⟨fun other member => ?_, sorted⟩
      rcases List.mem_cons.mp member with rfl | later
      · exact smaller
      · exact UInt64.lt_trans smaller (first other later)
    split
    · rename_i same
      apply List.pairwise_cons.mpr
      exact ⟨fun other member => same ▸ first other member, tail⟩
    rename_i above distinct
    apply List.pairwise_cons.mpr
    refine ⟨fun other member => ?_, ih tail⟩
    rcases mem_of_mem_insert member with rfl | later
    · apply UInt64.lt_of_le_of_ne (UInt64.not_lt.mp above)
      intro same
      apply distinct
      cases idle : other.id
      cases kept : head.id
      simp_all
    · exact first other later

theorem Sorted.find_of_mem (sorted : groups.Sorted) (member : group ∈ groups) :
    groups.find group.id = some group := by
  unfold find
  induction groups with
  | nil => cases member
  | cons head rest ih =>
    obtain ⟨first, tail⟩ := List.pairwise_cons.mp sorted
    rcases List.mem_cons.mp member with rfl | later
    · simp
    have smaller := first group later
    have passed : head.id ≠ group.id := by
      intro same
      rw [same] at smaller
      exact UInt64.lt_irrefl _ smaller
    rw [List.find?_cons_of_neg (by simpa using passed)]
    exact ih tail later

theorem mem_of_find {groups : Groups} {group : GroupRecord}
    {id : StopSubscriptionGroupId} (found : groups.find id = some group) :
    group ∈ groups ∧ group.id = id :=
  ⟨List.mem_of_find?_eq_some found, by simpa using List.find?_some found⟩

end Groups

/-- The group without its fired one-shot subscriptions. -/
def GroupRecord.withoutFired (group : GroupRecord) (gates : Gates) : GroupRecord :=
  { group with subscriptions := group.subscriptions.filter (!·.hasFired gates) }

variable {groups : Groups}

theorem removeFired_sorted (gates : Gates) (sorted : groups.Sorted) :
    (removeFiredOneShotsCandidate gates groups).candidate.Sorted := by
  refine List.Pairwise.sublist List.filter_sublist ?_
  exact List.pairwise_map.mpr (sorted.imp fun smaller => smaller)

theorem removeFired_find (gates : Gates) (sorted : groups.Sorted) (id : StopSubscriptionGroupId) :
    (removeFiredOneShotsCandidate gates groups).candidate.find id =
      (groups.find id).bind fun group =>
        if (group.withoutFired gates).subscriptions.isEmpty then none
        else some (group.withoutFired gates) := by
  have kept := removeFired_sorted gates sorted
  cases found : groups.find id with
  | none =>
    unfold Groups.find at found ⊢
    rw [List.find?_eq_none] at found
    simp only [Option.bind_none, List.find?_eq_none]
    intro group member
    obtain ⟨listed, -⟩ := List.mem_filter.mp member
    obtain ⟨original, earlier, rfl⟩ := List.mem_map.mp listed
    exact found original earlier
  | some group =>
    obtain ⟨member, named⟩ := Groups.mem_of_find found
    rw [Option.bind_some]
    split
    · rename_i spent
      unfold Groups.find
      rw [List.find?_eq_none]
      intro other candidate same
      obtain ⟨listed, left⟩ := List.mem_filter.mp candidate
      obtain ⟨original, earlier, rfl⟩ := List.mem_map.mp listed
      have again := sorted.find_of_mem earlier
      rw [show original.id = id by simpa using same, found] at again
      cases again
      have spent : (group.subscriptions.filter (!·.hasFired gates)).isEmpty = true := spent
      simp [spent] at left
    · rename_i left
      have stays : group.withoutFired gates ∈
          (removeFiredOneShotsCandidate gates groups).candidate :=
        List.mem_filter.mpr ⟨List.mem_map_of_mem member, by simpa using left⟩
      have again := kept.find_of_mem stays
      rw [← again]
      exact congrArg _ named.symm

theorem removeFired_ended (gates : Gates) (id : StopSubscriptionGroupId) (sequence : UInt64) :
    (id, sequence) ∈ (removeFiredOneShotsCandidate gates groups).endedGroups ↔
      ∃ group ∈ groups, group.registration = (id, sequence) ∧
        (group.withoutFired gates).subscriptions.isEmpty = true := by
  unfold removeFiredOneShotsCandidate
  simp only [List.mem_map, List.mem_filter]
  constructor
  · rintro ⟨_, ⟨⟨group, member, rfl⟩, spent⟩, registration⟩
    exact ⟨group, member, registration, spent⟩
  · rintro ⟨group, member, registration, spent⟩
    exact ⟨_, ⟨⟨group, member, rfl⟩, spent⟩, registration⟩

namespace StopPointRouter

variable {router next : StopPointRouter} {call : RouterCall}
variable {ended : List (StopSubscriptionGroupId × UInt64)}
variable {id : StopSubscriptionGroupId}

theorem markReleased_of_mem {sequence : UInt64} (member : (id, sequence) ∈ ended)
    (unique : ∀ other, (id, other) ∈ ended → other = sequence) :
    (router.markReleased ended).releasedRegistrationSequences id = some sequence := by
  unfold markReleased
  dsimp only
  split
  · rename_i released found
    have named : released.1 = id := by simpa using List.find?_some found
    have listed := List.mem_reverse.mp (List.mem_of_find?_eq_some found)
    rw [← unique released.2 (named ▸ listed)]
  rename_i missing
  rw [List.find?_eq_none] at missing
  exact absurd (by simp) (missing (id, sequence) (List.mem_reverse.mpr member))

theorem markReleased_of_not_mem (missing : ∀ sequence, (id, sequence) ∉ ended) :
    (router.markReleased ended).releasedRegistrationSequences id =
      router.releasedRegistrationSequences id := by
  unfold markReleased
  dsimp only
  split
  · rename_i released found
    have named : released.1 = id := by simpa using List.find?_some found
    have listed := List.mem_reverse.mp (List.mem_of_find?_eq_some found)
    exact absurd (named ▸ listed) (missing released.2)
  · rfl

/-- The number of the newest registration of a group id, as far as the router
knows it. -/
def Newest (router : StopPointRouter) (id : StopSubscriptionGroupId) (sequence : UInt64) : Prop :=
  (router.groups.find id).map (·.registrationSequence) = some sequence ∨
    router.groups.find id = none ∧ router.releasedRegistrationSequences id = some sequence

/-- The groups stay sorted, and the newest registrations stay known. -/
structure Carries (router next : StopPointRouter) : Prop where
  sorted : router.groups.Sorted → next.groups.Sorted
  newest : router.groups.Sorted → ∀ id sequence, router.Newest id sequence → next.Newest id sequence
  initialized : router.initialized = true → next.initialized = true

namespace Carries

theorem refl (router : StopPointRouter) : Carries router router := ⟨id, fun _ _ _ => id, id⟩

theorem trans {middle : StopPointRouter}
    (first : Carries router middle) (second : Carries middle next) : Carries router next where
  sorted := second.sorted ∘ first.sorted
  newest sorted id sequence newest :=
    second.newest (first.sorted sorted) id sequence (first.newest sorted id sequence newest)
  initialized := second.initialized ∘ first.initialized

theorem of_same (groups : next.groups = router.groups)
    (released : next.releasedRegistrationSequences = router.releasedRegistrationSequences)
    (initialized : next.initialized = router.initialized) : Carries router next where
  sorted sorted := groups ▸ sorted
  newest _ id sequence newest := by
    unfold Newest at newest ⊢
    rwa [groups, released]
  initialized used := initialized.trans used

theorem of_control (change : ControlChange router next) : Carries router next :=
  .of_same change.groups change.releasedRegistrationSequences change.initialized

variable {backend : PhysicalStopPointBackend}

theorem of_applies {candidate : Groups} {result : CandidateApplyReceipt × StopPointRouter}
    (faithful : backend.Faithful) (applies : AppliesCandidate router candidate backend result)
    (published : Carries router { router with groups := candidate }) :
    Carries router result.2 := by
  cases applies with
  | kept => exact .of_same rfl rfl rfl
  | published => exact published.trans (.of_same rfl rfl rfl)
  | torn _ _ _ unfaithful => exact absurd faithful unfaithful

theorem of_replaced {group existing : GroupRecord}
    (found : router.groups.find group.id = some existing)
    (sequence : group.registrationSequence = existing.registrationSequence) :
    Carries router { router with groups := router.groups.insert group } where
  sorted sorted := sorted.insert group
  newest _ id number newest := by
    unfold Newest at newest ⊢
    dsimp only
    rw [Groups.find_insert]
    by_cases named : group.id = id
    · subst named
      rw [found] at newest
      simpa [sequence] using newest
    · rwa [if_neg named]
  initialized := id

theorem of_marked (active : ∀ registration ∈ ended,
      ∃ group ∈ router.groups, group.registration = registration) :
    Carries router (router.markReleased ended) where
  sorted := id
  newest sorted id sequence newest := by
    rcases newest with named | ⟨absent, released⟩
    · exact .inl named
    refine .inr ⟨absent, ?_⟩
    rw [markReleased_of_not_mem]
    · exact released
    intro number member
    obtain ⟨group, listed, registration⟩ := active _ member
    have named : group.id = id := congrArg Prod.fst registration
    have found := sorted.find_of_mem listed
    rw [named, absent] at found
    cases found
  initialized := id

/-- A candidate that lost groups loses no registration, when these are marked
as released. -/
theorem of_ended {candidate : Groups} (candidateSorted : router.groups.Sorted → candidate.Sorted)
    (active : ∀ registration ∈ ended, ∃ group ∈ router.groups, group.registration = registration)
    (ends : router.groups.Sorted → ∀ group ∈ router.groups,
      (candidate.find group.id).map (·.registrationSequence) = some group.registrationSequence ∨
        candidate.find group.id = none ∧ group.registration ∈ ended)
    (absent : router.groups.Sorted → ∀ id,
      router.groups.find id = none → candidate.find id = none) :
    Carries router (StopPointRouter.markReleased { router with groups := candidate } ended) where
  sorted := candidateSorted
  newest sorted id sequence newest := by
    rcases newest with known | ⟨unknown, released⟩
    · rw [Option.map_eq_some_iff] at known
      obtain ⟨group, found, rfl⟩ := known
      obtain ⟨member, rfl⟩ := Groups.mem_of_find found
      rcases ends sorted group member with stays | ⟨gone, marked⟩
      · exact .inl stays
      refine .inr ⟨gone, markReleased_of_mem marked ?_⟩
      intro other listed
      obtain ⟨twin, twinMember, registration⟩ := active _ listed
      have named : twin.id = group.id := congrArg Prod.fst registration
      have again := sorted.find_of_mem twinMember
      rw [named, found, Option.some.injEq] at again
      subst again
      exact (congrArg Prod.snd registration).symm
    · refine .inr ⟨absent sorted id unknown, ?_⟩
      rw [markReleased_of_not_mem]
      · exact released
      intro number member
      obtain ⟨group, listed, registration⟩ := active _ member
      have named : group.id = id := congrArg Prod.fst registration
      have found := sorted.find_of_mem listed
      rw [named, unknown] at found
      cases found
  initialized := id

theorem eraseGroup {lease : StopSubscriptionGroupLease} {group : GroupRecord}
    (faithful : backend.Faithful) (owned : router.Owns lease group) :
    Carries router (router.eraseGroup lease backend).2 := by
  have ended : Carries router
      (StopPointRouter.markReleased { router with groups := router.groups.erase lease.groupId }
        [(lease.groupId, lease.registrationSequence)]) := by
    obtain ⟨found, -, sequence⟩ := owned
    obtain ⟨member, named⟩ := Groups.mem_of_find found
    apply of_ended
    · exact fun sorted => sorted.erase lease.groupId
    · intro registration listed
      rw [List.mem_singleton] at listed
      exact ⟨group, member, by rw [listed, ← named, ← sequence]; rfl⟩
    · intro sorted other present
      rw [Groups.find_erase]
      by_cases erased : other.id = lease.groupId
      · have again := sorted.find_of_mem present
        rw [erased, found, Option.some.injEq] at again
        subst again
        refine .inr ⟨if_pos erased, ?_⟩
        rw [List.mem_singleton, ← named, ← sequence]
        rfl
      · rw [if_neg erased, sorted.find_of_mem present]
        exact .inl rfl
    · intro _ id unknown
      rw [Groups.find_erase, unknown, ite_self]
  have applies := applyCandidate_applies router (router.groups.erase lease.groupId) false backend
  unfold StopPointRouter.eraseGroup
  dsimp only
  generalize router.applyCandidate (router.groups.erase lease.groupId) false
    backend = result at applies ⊢
  cases applies with
  | kept failed =>
    simp only [failed, Bool.false_eq_true, if_false]
    exact .of_same rfl rfl rfl
  | published ok =>
    simp only [ok, if_true]
    exact ended.trans (.of_same rfl rfl rfl)
  | torn _ _ _ unfaithful => exact absurd faithful unfaithful

theorem removeFired (router : StopPointRouter) : Carries router (StopPointRouter.markReleased
        { router with
          groups := (removeFiredOneShotsCandidate router.gates router.groups).candidate }
        (removeFiredOneShotsCandidate router.gates router.groups).endedGroups) := by
  apply of_ended
  · exact removeFired_sorted router.gates
  · rintro ⟨id, sequence⟩ listed
    obtain ⟨group, member, registration, -⟩ :=
      (removeFired_ended router.gates id sequence).mp listed
    exact ⟨group, member, registration⟩
  · intro sorted group member
    rw [removeFired_find router.gates sorted, sorted.find_of_mem member, Option.bind_some]
    split
    · rename_i spent
      exact .inr ⟨rfl, (removeFired_ended router.gates _ _).mpr ⟨group, member, rfl, spent⟩⟩
    · exact .inl rfl
  intro sorted id unknown
  rw [removeFired_find router.gates sorted, unknown]
  rfl

theorem drain (faithful : call.drainBackend.Faithful) :
    Carries router (router.drain call).router := by
  by_cases served : router.initialized = true ∧ router.ownerThread = call.thread
  · obtain ⟨trailing, drains⟩ := drainIngress_drainsTo call.drainBackend
      call.consumers served.1 served.2
    obtain ⟨-, -, change⟩ | ⟨middle, receipt, applied, first, applies, last, -⟩ := drains.outcome
    · exact .of_same change.groups change.releasedRegistrationSequences change.initialized
    generalize outcome : (receipt, applied) = result at applies
    cases applies with
    | kept failed =>
      cases outcome
      simp only [markEnded, failed, Bool.false_eq_true, if_false] at last
      exact .of_same (last.groups.trans first.groups)
        (last.releasedRegistrationSequences.trans first.releasedRegistrationSequences)
        (last.initialized.trans first.initialized)
    | published ok =>
      cases outcome
      simp only [markEnded, ok, if_true] at last
      refine (removeFired router).trans (.of_same last.groups ?_
        (last.initialized.trans first.initialized))
      refine last.releasedRegistrationSequences.trans ?_
      have same : middle.releasedRegistrationSequences =
          router.releasedRegistrationSequences :=
        first.releasedRegistrationSequences
      simp only [markReleased, StopPointRouter.withReported, same]
    | torn _ _ _ unfaithful => exact absurd faithful unfaithful
  · obtain ⟨receipt, refused⟩ :=
      drainIngress_refused router call.drainBackend call.consumers served
    unfold StopPointRouter.drain
    rw [refused]
    exact .refl router

/-- The cleanup remembers every group that was active. -/
theorem cleanUp : Carries router (router.cleanUp call).2 := by
  have cleans := cleanUp_cases router call
  have active : ∀ registration ∈ List.map GroupRecord.registration router.groups,
      ∃ group ∈ router.groups, group.registration = registration :=
    fun registration => List.mem_map.mp
  obtain ⟨groups, -⟩ | ⟨groups, -⟩ := cleans.outcome
  · exact (of_marked active).trans (.of_same groups cleans.released cleans.initialized)
  have ended : Carries router (StopPointRouter.markReleased { router with groups := [] }
      (List.map GroupRecord.registration router.groups)) := by
    apply of_ended
    · exact fun _ => List.Pairwise.nil
    · exact active
    · exact fun _ group member => .inr ⟨rfl, List.mem_map_of_mem member⟩
    · exact fun _ _ _ => rfl
  exact ended.trans (.of_same groups cleans.released cleans.initialized)

theorem move {label : MoveLabel} (faithful : call.Faithful) (quiet : ∀ definition policy,
      call.operation ≠ .registerGroup definition policy)
    (move : Move call router label next) : Carries router next := by
  cases move with
  | control change => exact .of_control change
  | initialized firstEpoch fresh =>
    have outcome := initializeRouter_cases call firstEpoch fresh
    generalize router.initializeRouter call firstEpoch = result at outcome ⊢
    cases outcome with
    | refused => exact .refl router
    | failed => exact .of_same rfl rfl rfl
    | started => exact ⟨id, fun _ _ _ => id, fun _ => rfl⟩
  | closed | reopened | accepted => exact .of_same rfl rfl rfl
  | reapplied =>
    exact .of_applies faithful.backend
      (applyCandidate_applies router router.groups true call.backend) (.refl router)
  | inserted _ definition _ _ _ named =>
    cases named with
    | registers asked => exact absurd asked (quiet _ _)
    | @replaces existing found =>
      have made : Carries router
          { router with
            gates := (makeGroupRecord router.gates definition
              existing.registrationSequence router.worksetEpoch).2 } :=
        .of_same rfl rfl rfl
      exact made.trans (.of_applies faithful.backend
        (insertGroup_applies router definition existing.registrationSequence _ call.backend)
        (of_replaced found rfl))
  | erased _ lease group owned => exact .eraseGroup faithful.backend owned
  | revalidated =>
    have outcome := revalidate_cases router call
    generalize router.revalidate call = result at outcome ⊢
    cases outcome <;> exact .of_same rfl rfl rfl
  | drained => exact .drain faithful.drainBackend
  | hit hit readerFree =>
    have change := routeNative_gatesChange router readerFree hit
    exact .of_same change.groups change.releasedRegistrationSequences change.initialized
  | injected hit authoritative =>
    have change := injected_gatesChange router hit authoritative call.consumers
    exact .of_same change.groups change.releasedRegistrationSequences change.initialized
  | cleaned => exact .cleanUp

theorem acceptRetained (faithful : call.drainBackend.Faithful)
    (current : RoutedStopEvent) (groupId : StopSubscriptionGroupId) :
    Carries router (router.acceptRetained call current groupId).2.1.router := by
  unfold StopPointRouter.acceptRetained
  dsimp only
  have accepted {gates : Gates} {receipt : StopRouteReceipt} :
      Carries router (StopPointRouter.appendHistory { router with gates } receipt) :=
    .of_same rfl rfl rfl
  split
  · exact accepted.trans (.drain faithful)
  · exact accepted

end Carries

/-- A lease was issued: it names the newest registration of its group id, and
the other registrations were carried on. -/
structure Registers (router : StopPointRouter)
    (lease : StopSubscriptionGroupLease) (next : StopPointRouter) : Prop where
  sorted : router.groups.Sorted → next.groups.Sorted
  issued : router.groups.Sorted → next.Newest lease.groupId lease.registrationSequence
  newest : router.groups.Sorted → ∀ id sequence, id ≠ lease.groupId →
    router.Newest id sequence → next.Newest id sequence
  initialized : next.initialized = true

variable {lease : StopSubscriptionGroupLease}

theorem Registers.trans {middle : StopPointRouter} (registers : Registers router lease middle)
    (carries : Carries middle next) : Registers router lease next where
  sorted := carries.sorted ∘ registers.sorted
  issued sorted := carries.newest (registers.sorted sorted) _ _ (registers.issued sorted)
  newest sorted id sequence other newest :=
    carries.newest (registers.sorted sorted) id sequence
      (registers.newest sorted id sequence other newest)
  initialized := carries.initialized registers.initialized

theorem Registers.of_published {group : GroupRecord}
    (groups : next.groups = router.groups.insert group)
    (released : next.releasedRegistrationSequences = router.releasedRegistrationSequences)
    (initialized : next.initialized = true) (id : group.id = lease.groupId)
    (sequence : group.registrationSequence = lease.registrationSequence) :
    Registers router lease next where
  sorted sorted := by
    rw [groups]
    exact sorted.insert group
  issued _ := by
    apply Or.inl
    rw [groups, Groups.find_insert, if_pos id, Option.map_some, sequence]
  newest _ other number distinct newest := by
    unfold Newest at newest ⊢
    rw [groups, released, Groups.find_insert, if_neg fun same => distinct (same.symm.trans id)]
    exact newest
  initialized := initialized

variable {backend : PhysicalStopPointBackend}

theorem insertGroup_carries (faithful : backend.Faithful)
    (definition : StopSubscriptionGroupDefinition) (sequence following : UInt64)
    (refused : (router.insertGroup definition sequence following backend).1.ok = false) :
    Carries router (router.insertGroup definition sequence following backend).2 := by
  have applies := insertGroup_applies router definition sequence following backend
  generalize router.insertGroup definition sequence following backend = result at applies refused ⊢
  cases applies with
  | kept => exact .of_same rfl rfl rfl
  | published ok => exact absurd (ok.symm.trans refused) (by decide)
  | torn _ _ _ unfaithful => exact absurd faithful unfaithful

theorem insertGroup_registers (faithful : backend.Faithful)
    (definition : StopSubscriptionGroupDefinition) (sequence following : UInt64)
    (active : router.initialized = true)
    (accepted : (router.insertGroup definition sequence following backend).1.ok = true)
    (lease : StopSubscriptionGroupLease) (id : definition.id = lease.groupId)
    (numbered : sequence = lease.registrationSequence) : Registers router lease
      (router.insertGroup definition sequence following backend).2 := by
  have applies := insertGroup_applies router definition sequence following backend
  generalize router.insertGroup definition sequence following backend = result at applies accepted ⊢
  cases applies with
  | kept failed => exact absurd (accepted.symm.trans failed) (by decide)
  | published ok => exact .of_published rfl rfl active id numbered
  | torn _ _ _ unfaithful => exact absurd faithful unfaithful

/-- How `RegisterGroup` can end with a faithful backend. -/
inductive Registration (router : StopPointRouter) : RouterEvent × StopPointRouter → Prop
  | refused {receipt currentPoint next}
      (failed : receipt.ok = false)
      (carries : Carries router next) :
      Registration router ({ reply := .registered receipt currentPoint }, next)
  | registered {receipt currentPoint build fate drain notified next}
      (ok : receipt.ok = true)
      (registers : Registers router receipt.lease next) :
      Registration router
        ({ reply := .registered receipt currentPoint
           build, fate, drain, notified }, next)

theorem registerGroup_registration (faithful : call.Faithful)
    (definition : StopSubscriptionGroupDefinition) (policy : StopCurrentPointPolicy) :
    Registration router (router.registerGroup call definition policy) := by
  unfold registerGroup failRegistration
  dsimp only
  split
  · exact .refused rfl (.refl router)
  rename_i checked
  split
  · exact .refused rfl (.refl router)
  split
  · exact .refused rfl (.refl router)
  split
  · exact .refused rfl (.refl router)
  split
  · exact .refused rfl (.refl router)
  have refused := router.insertGroup_carries faithful.backend
    definition router.nextRegistrationSequence (router.nextRegistrationSequence + 1)
  have registers := router.insertGroup_registers faithful.backend
    definition router.nextRegistrationSequence
    (router.nextRegistrationSequence + 1) (initialized_of_check checked)
  unfold insertGroup at refused registers
  dsimp only at refused registers
  generalize StopPointRouter.applyCandidate _ _ _ _ = result at refused registers ⊢
  split
  · rename_i failed
    rw [Bool.not_eq_true'] at failed
    exact .refused rfl ((refused failed).trans (.of_control (controlChange_distrustPhysical _)))
  rename_i succeeded
  have ok : result.1.ok = true := by simpa using succeeded
  split
  · exact .registered rfl (registers ok _ rfl rfl)
  split
  · exact .registered rfl (registers ok _ rfl rfl)
  · exact .registered rfl ((registers ok _ rfl rfl).trans
      (.acceptRetained faithful.drainBackend _ _))

end StopPointRouter

end Savor.StopPoints

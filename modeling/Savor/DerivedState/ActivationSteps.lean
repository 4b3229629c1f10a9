import Savor.DerivedState.DerivedInvariant

/-!
# Steps of the derived-state service

Every publication is of what its group shows at its event, and every step keeps
the invariant.
-/

namespace Savor.DerivedState

open Library
open Program (ByteString WorksetEpoch text)
open StopPoints (RoutedStopIdentity RoutedStopEvent StopPointSpec
  StopSubscriptionGroupDefinition StopSubscriptionDefinition)
open Worksets (WorkerWorksetItemId)
open DerivedStateService

variable {registry : DerivedStateRegistry} {ledger : ItemLedger}
variable {service : DerivedStateService} {event : RoutedStopEvent}
variable {group : BattleGroup}

/-- The snapshot that is published next is genuine when the event was captured
in the item. -/
theorem genuine_nextSnapshot {descriptor : DerivedStateRefreshGroupDescriptor}
    {turn : UInt32} {value : group.Value} {capture : Capture} (active : service.active = true)
    (battleCoreActive : service.battleCoreActive = true)
    (groupId : battleEvidenceKindFor descriptor.groupId = group.kind)
    (member : capture ∈ ledger.captures service.epoch)
    (identity : capture.event.identity = event.identity)
    (hitPc : capture.event.evidence.hitPc = event.evidence.hitPc)
    (epoch : capture.event.identity.worksetEpoch = service.epoch)
    (derived : group.derive capture.view = some (turn, value)) : Genuine ledger service group
      (service.nextSnapshot event descriptor group turn value) where
  active := active
  battleCoreActive := battleCoreActive
  worksetEpoch := rfl
  itemId := rfl
  block := rfl
  groupId := groupId
  captured := ⟨capture, member, identity, hitPc, epoch, derived⟩

variable {replacements : Replacements}

/-- Publishing keeps the invariant when every replacement is genuine and has the
next generation. -/
theorem Valid.publish (valid : Valid ledger service)
    (replaced : ∀ group snapshot, replacements.of group = some snapshot →
      Genuine ledger service group snapshot ∧
        snapshot.provenance.generation = (service.group group).generation + 1) :
    Valid ledger (service.publish replacements) where
  idle := valid.idle
  plan plan active := (valid.plan plan active).transfer ⟨rfl, rfl, rfl, rfl, rfl⟩
  queue := valid.queue
  numbered group := by
    rw [group_publish]
    cases pending : replacements.of group with
    | none => exact valid.numbered group
    | some snapshot =>
      have next := (replaced group snapshot pending).2
      refine ⟨?_, rfl⟩
      change 0 < snapshot.provenance.generation
      omega
  genuine group snapshot found := by
    rw [group_publish] at found
    cases pending : replacements.of group with
    | none =>
      rw [pending] at found
      exact (valid.genuine group snapshot found).transfer
        ⟨rfl, rfl, rfl, rfl, rfl⟩ fun _ => List.Subset.refl _
    | some replacement =>
      rw [pending] at found
      cases found
      exact (replaced group snapshot pending).1.transfer
        ⟨rfl, rfl, rfl, rfl, rfl⟩ fun _ => List.Subset.refl _

/-! ## Deliveries -/

theorem derive_of_evidence {plan : CpuItemPlan} {hit : Hit} {evidence : BattleGroupEvidenceRecord}
    {value : group.Value} (planned : Planned service plan)
    (member : evidence ∈ (plan.evidenceOf hit.memory hit.event).groups)
    (clean : evidence.failure = .none) (kind : evidence.kind = group.kind)
    (parsed : group.parse evidence.payload = .ok value) :
    hit.event.identity.worksetEpoch = service.epoch ∧
      battleEvidenceKindFor evidence.group.groupId = group.kind ∧
      group.derive hit.memory.view = some (evidence.currentTurn.toUInt32, value) := by
  obtain ⟨entry, inPlan, made⟩ := List.mem_map.mp member
  have listed := List.mem_of_mem_filter inPlan
  obtain ⟨named, known⟩ := planned.kinds entry listed
  by_cases epoch : hit.event.identity.worksetEpoch = plan.epoch
  · rw [if_pos epoch] at made
    obtain ⟨entryGroup, entryKind⟩ := BattleGroup.exists_of_kind known
    have same := CpuRefreshPlanEntry.sameGroup_captureGroup entryKind hit.memory
    rw [made] at same
    have here : entryGroup = group :=
      BattleGroup.kind_injective (entryKind.symm.trans (same.kind.symm.trans kind))
    subst here
    have holds := CpuRefreshPlanEntry.holds_captureGroup entryKind hit.memory
    rw [made] at holds
    refine ⟨epoch.trans planned.epoch, ?_, ?_⟩
    · rw [same.group, ← entryKind, named]
      rfl
    cases read : entryGroup.payload hit.memory.view with
    | none =>
      rw [read] at holds
      exact absurd clean holds
    | some found =>
      rw [read] at holds
      obtain ⟨-, turn, payload⟩ := holds
      apply BattleGroup.derive_eq_some_iff.mpr
      refine ⟨_, _, read, ?_, ?_⟩
      · rw [← payload]
        exact parsed
      · rw [turn]
  · rw [if_neg epoch] at made
    rw [← made] at clean
    cases clean

theorem Valid.genuine_of_derived {plan : CpuItemPlan} {hit : Hit}
    (planned : Planned service plan) (shown : hit ∈ ledger.hits)
    (derived : service.deriveRecord registry event
      (plan.evidenceOf hit.memory hit.event) = .ok replacements)
    (group : BattleGroup) (snapshot : BattleSnapshot group.Value)
    (replaced : replacements.of group = some snapshot) : Genuine ledger service group snapshot ∧
      snapshot.provenance.generation = (service.group group).generation + 1 := by
  obtain ⟨agrees, prepared⟩ := deriveRecord_ok derived
  obtain ⟨evidence, member, kind, clean, -, value, parsed, rfl⟩ :=
    prepared.origin group snapshot replaced
  obtain ⟨epoch, groupId, shows⟩ := derive_of_evidence planned member clean kind parsed
  have captured : (⟨hit.event, hit.memory.view⟩ : Capture) ∈ ledger.captures service.epoch :=
    List.mem_append_left _ (List.mem_map.mpr ⟨hit, shown, rfl⟩)
  exact ⟨genuine_nextSnapshot planned.active planned.battleCoreActive groupId
    captured agrees.routedStop agrees.triggerPc epoch shows, rfl⟩

/-- The service after the oldest evidence was taken. -/
def DerivedStateService.popped (service : DerivedStateService)
    (rest : List DerivedEventEvidenceRecord) : DerivedStateService :=
  { service with cpu := { service.cpu with queue := rest } }

theorem Valid.popped {record : DerivedEventEvidenceRecord}
    {rest : List DerivedEventEvidenceRecord} (valid : Valid ledger service)
    (queued : service.cpu.queue = record :: rest) : Valid ledger (service.popped rest) := by
  refine valid.transfer ⟨rfl, rfl, rfl, rfl, rfl⟩ rfl ?_
    (fun group => by cases group <;> rfl) (List.Subset.refl _)
    fun _ => List.Subset.refl _
  rw [queued]
  exact List.subset_cons_self record rest

theorem Valid.commit (valid : Valid ledger service) (event : RoutedStopEvent) :
    Valid ledger (service.commitNativeEvidence registry event).2 := by
  rcases commitNativeEvidence_cases registry service event with
    ⟨-, thrown, overflowed, same⟩ |
      ⟨record, rest, queued, ⟨thrown, same⟩ | ⟨replacements, derived, same⟩⟩
  · rw [same]
    exact valid.transfer ⟨rfl, rfl, rfl, rfl, rfl⟩ rfl (List.Subset.refl _)
      (fun group => by cases group <;> rfl) (List.Subset.refl _)
      fun _ => List.Subset.refl _
  · rw [same]
    exact valid.popped queued
  rw [same]
  obtain ⟨plan, active, hit, shown, rfl⟩ :=
    valid.queue record (by rw [queued]; exact List.mem_cons_self)
  have planned := (valid.popped queued).plan plan active
  exact (valid.popped queued).publish (Valid.genuine_of_derived planned shown derived)

/-- The ids of the groups name them. -/
theorem battleEvidenceKindFor_groupId (group : BattleGroup) :
    battleEvidenceKindFor group.groupId = group.kind := by
  cases group <;> decide +kernel

variable {memory : PausedMemory} {refreshed : DerivedStateService}

/-- A refresh publishes what its group shows of the paused guest. -/
theorem Valid.refresh (valid : Valid ledger service) (active : service.active = true)
    (battleCoreActive : service.battleCoreActive = true)
    (epoch : event.identity.worksetEpoch = service.epoch)
    (retained : ledger.retained = some (event, memory))
    (ended : service.refreshFromRetainedCurrentPoint registry memory event = .ok refreshed) :
    Valid ledger refreshed := by
  obtain ⟨group, -, descriptor, turn, value, found, derived, rfl⟩ := exists_of_refresh ended
  have groupId : battleEvidenceKindFor descriptor.groupId = group.kind := by
    have named : descriptor.groupId = group.groupId := by
      unfold DerivedStateRegistry.findGroup at found
      split at found
      · cases found
      · have same := List.find?_some found
        exact of_decide_eq_true same
    rw [named, battleEvidenceKindFor_groupId]
  have captured : (⟨event, memory.view service.epoch⟩ : Capture) ∈
      ledger.captures service.epoch := by
    apply List.mem_append_right
    simp [retained]
  apply valid.publish
  intro other snapshot replaced
  by_cases same : other = group
  · subst same
    rw [Replacements.of_set, Option.some.injEq] at replaced
    subst replaced
    exact ⟨genuine_nextSnapshot active battleCoreActive groupId captured rfl rfl epoch derived, rfl⟩
  · rw [Replacements.of_set_of_ne _ same, Replacements.of_empty] at replaced
    cases replaced

/-- A delivery keeps the invariant, also while a retained point is accepted. -/
theorem Valid.onStopPoint (valid : Valid ledger service)
    (retained : service.acceptingCurrentPoint = true → ledger.retained = some (event, memory)) :
    Valid ledger (service.onStopPoint registry memory event).2 := by
  unfold DerivedStateService.onStopPoint
  split
  · exact valid
  rename_i current
  simp only [Bool.or_eq_true, Bool.not_eq_true', decide_eq_true_eq, not_or,
    Bool.not_eq_false, ne_eq, not_not] at current
  obtain ⟨⟨active, battleCoreActive⟩, epoch⟩ := current
  split
  · rename_i accepting
    split
    · exact valid
    rename_i refreshed ended
    exact valid.refresh active battleCoreActive epoch (retained accepting) ended
  · exact valid.commit event

/-- A delivery changes neither the item nor what is accepted. -/
theorem sameItem_onStopPoint (registry : DerivedStateRegistry)
    (service : DerivedStateService) (memory : PausedMemory) (event : RoutedStopEvent) :
    SameItem (service.onStopPoint registry memory event).2 service ∧
      (service.onStopPoint registry memory event).2.acceptingCurrentPoint =
        service.acceptingCurrentPoint := by
  unfold DerivedStateService.onStopPoint
  split
  · exact ⟨⟨rfl, rfl, rfl, rfl, rfl⟩, rfl⟩
  split
  · split
    · exact ⟨⟨rfl, rfl, rfl, rfl, rfl⟩, rfl⟩
    rename_i refreshed ended
    obtain ⟨group, -, descriptor, turn, value, -, -, rfl⟩ := exists_of_refresh ended
    exact ⟨⟨rfl, rfl, rfl, rfl, rfl⟩, rfl⟩
  rcases commitNativeEvidence_cases registry service event with
    ⟨-, thrown, overflowed, same⟩ | ⟨record, rest, -, ⟨thrown, same⟩ | ⟨replacements, -, same⟩⟩ <;>
    rw [same] <;> exact ⟨⟨rfl, rfl, rfl, rfl, rfl⟩, rfl⟩

/-!
## Activating an item

An activation starts from a service without evidence and snapshots.  It gives a
retained point to at most one subscription, so it publishes at most once.
-/

variable {entries : List CpuRefreshPlanEntry}
variable {subscriptions : List StopSubscriptionDefinition}

/-! ## The subscriptions of a definition -/

theorem pairwise_insertPc {pcs : List UInt32} (pc : UInt32) (sorted : pcs.Pairwise (· < ·)) :
    (insertPc pc pcs).Pairwise (· < ·) ∧ ∀ other ∈ insertPc pc pcs, other = pc ∨ other ∈ pcs := by
  induction pcs with
  | nil => simp [insertPc]
  | cons first rest ih =>
    obtain ⟨smallest, restSorted⟩ := List.pairwise_cons.mp sorted
    obtain ⟨inserted, members⟩ := ih restSorted
    unfold insertPc
    split
    · rename_i below
      refine ⟨List.pairwise_cons.mpr ⟨?_, sorted⟩, ?_⟩
      · intro other member
        rcases List.mem_cons.mp member with rfl | later
        · exact below
        · exact UInt32.lt_trans below (smallest other later)
      · intro other member
        exact List.mem_cons.mp member
    split
    · rename_i same
      refine ⟨sorted, ?_⟩
      intro other member
      exact Or.inr member
    rename_i notBelow different
    have above : first < pc := by
      rcases UInt32.lt_or_lt_of_ne different with below | above
      · exact absurd below notBelow
      · exact above
    refine ⟨List.pairwise_cons.mpr ⟨?_, inserted⟩, ?_⟩
    · intro other member
      rcases members other member with rfl | later
      · exact above
      · exact smallest other later
    intro other member
    rcases List.mem_cons.mp member with rfl | later
    · exact Or.inr List.mem_cons_self
    rcases members other later with same | old
    · exact Or.inl same
    · exact Or.inr (List.mem_cons_of_mem _ old)

/-- The triggers of a definition are different. -/
theorem nodup_triggerPcs (groups : List DerivedStateRefreshGroupDescriptor)
    (accepting : Bool) : (triggerPcs groups accepting).Nodup := by
  have sorted : ∀ (pcs sortedPcs : List UInt32),
      sortedPcs.Pairwise (· < ·) →
        (pcs.foldl (fun pcs pc => insertPc pc pcs) sortedPcs).Pairwise (· < ·) := by
    intro pcs
    induction pcs with
    | nil => exact fun sortedPcs sorted => sorted
    | cons pc pcs ih =>
      intro sortedPcs sorted
      exact ih _ (pairwise_insertPc pc sorted).1
  unfold triggerPcs
  exact (sorted _ [] List.Pairwise.nil).imp fun below => UInt32.ne_of_lt below

theorem points_subscriptionsFor (ordinal : Nat) (pcs : List UInt32) :
    (subscriptionsFor ordinal pcs).map (·.point) = pcs.map .pc := by
  unfold subscriptionsFor
  rw [List.map_map]
  have points : ((fun subscription : StopSubscriptionDefinition =>
      subscription.point) ∘ fun (pair : UInt32 × Nat) =>
        ({ id := ⟨kSubscriptionIdBase + UInt64.ofNat (ordinal + pair.2)⟩
           point := .pc pair.1
           route := .passive
            { cpuObserverDescriptorId := derivedStateObserverId
              lossless := true }
           lifetime := .scoped
           priority := Int32.maxValue
           consumer := some 0 } : StopSubscriptionDefinition)) =
      StopPointSpec.pc ∘ Prod.fst := rfl
  have mapped : (pcs.zipIdx.map (StopPointSpec.pc ∘ Prod.fst)) = pcs.map .pc := by
    rw [← List.map_map, List.zipIdx_map_fst]
  exact (congrArg (fun function => pcs.zipIdx.map function) points).trans mapped

theorem acceptSubscriptions_of_unmatched {definition : StopSubscriptionGroupDefinition}
    (unmatched : ∀ subscription ∈ subscriptions,
      subscription.point.pointMatchesEvidence event.evidence = false) :
    acceptSubscriptions registry memory event definition subscriptions
      service = (none, service) := by
  induction subscriptions with
  | nil => rfl
  | cons subscription subscriptions ih =>
    unfold acceptSubscriptions
    rw [unmatched subscription List.mem_cons_self]
    exact ih fun other member => unmatched other (List.mem_cons_of_mem _ member)

theorem eq_of_matches {first second : UInt32} (matchesFirst :
      (StopPointSpec.pc first).pointMatchesEvidence event.evidence = true)
    (matchesSecond : (StopPointSpec.pc second).pointMatchesEvidence event.evidence = true) :
    first = second := by
  unfold StopPointSpec.pointMatchesEvidence at matchesFirst matchesSecond
  cases point : event.evidence.point with
  | pc address =>
    simp only [point, decide_eq_true_eq] at matchesFirst matchesSecond
    exact matchesFirst.trans matchesSecond.symm
  | memory | synthetic => simp [point] at matchesFirst

/-- A retained point is given to at most one of the subscriptions to different
program counters. -/
theorem acceptSubscriptions_cases (registry : DerivedStateRegistry)
    (service : DerivedStateService) (memory : PausedMemory)
    (event : RoutedStopEvent) (definition : StopSubscriptionGroupDefinition)
    {pcs : List UInt32} (distinct : pcs.Nodup)
    (points : subscriptions.map (·.point) = pcs.map .pc) :
    (acceptSubscriptions registry memory event definition subscriptions service).2 = service ∨
      (acceptSubscriptions registry memory event definition subscriptions
        service).2 = (service.onStopPoint registry memory event).2 := by
  induction subscriptions generalizing pcs with
  | nil => exact Or.inl rfl
  | cons subscription subscriptions ih =>
    cases pcs with
    | nil => cases points
    | cons pc pcs =>
      rw [List.map_cons, List.map_cons, List.cons.injEq] at points
      obtain ⟨here, later⟩ := points
      obtain ⟨fresh, restDistinct⟩ := List.nodup_cons.mp distinct
      unfold acceptSubscriptions
      split
      · rename_i matched
        rw [here] at matched
        have unmatched : ∀ other ∈ subscriptions,
            other.point.pointMatchesEvidence event.evidence = false := by
          intro other member
          have listed : other.point ∈ pcs.map StopPointSpec.pc := by
            rw [← later]
            exact List.mem_map.mpr ⟨other, member, rfl⟩
          obtain ⟨otherPc, inRest, same⟩ := List.mem_map.mp listed
          rw [← same]
          by_contra matches_
          rw [Bool.not_eq_false] at matches_
          rw [eq_of_matches matched matches_] at fresh
          exact fresh inRest
        split
        · rename_i thrown after delivered
          rw [delivered]
          exact Or.inr rfl
        rename_i after delivered
        rw [acceptSubscriptions_of_unmatched unmatched, delivered]
        exact Or.inr rfl
      · exact ih restDistinct later

/-! ## Publishing at most once -/

/-- A group is kept, or it has the next generation. -/
def Moved {Value : Type} (before after : RefreshedGroup Value) : Prop :=
  after = before ∨ ∃ snapshot, after = ⟨before.generation + 1, some snapshot⟩

/-- Every group is kept or has the next generation, or the item has ended. -/
def MovedOrEnded (before after : DerivedStateService) : Prop :=
  (∀ group, Moved (before.group group) (after.group group)) ∨
    (after.active = false ∧ ∀ group, after.group group = {})

theorem moved_publish (next : ∀ snapshot, replacements.of group = some snapshot →
      snapshot.provenance.generation = (service.group group).generation + 1) :
    Moved (service.group group) ((service.publish replacements).group group) := by
  rw [group_publish]
  cases pending : replacements.of group with
  | none => exact Or.inl rfl
  | some snapshot =>
    refine Or.inr ⟨snapshot, ?_⟩
    rw [← next snapshot pending]
    rfl

theorem moved_commit (registry : DerivedStateRegistry)
    (service : DerivedStateService) (event : RoutedStopEvent) (group : BattleGroup) :
    Moved (service.group group) ((service.commitNativeEvidence registry event).2.group group) := by
  have kept : ∀ cpu, ({ service with cpu } : DerivedStateService).group group =
      service.group group := fun cpu => by cases group <;> rfl
  rcases commitNativeEvidence_cases registry service event with
    ⟨-, thrown, overflowed, same⟩ |
      ⟨record, rest, -, ⟨thrown, same⟩ | ⟨replacements, derived, same⟩⟩
  · rw [same]
    exact Or.inl (kept _)
  · rw [same]
    exact Or.inl (kept _)
  rw [same]
  rw [← kept { service.cpu with queue := rest }]
  obtain ⟨-, prepared⟩ := deriveRecord_ok derived
  apply moved_publish
  intro snapshot replaced
  obtain ⟨evidence, -, -, -, -, value, -, rfl⟩ := prepared.origin group snapshot replaced
  rfl

theorem moved_refresh (ended : service.refreshFromRetainedCurrentPoint registry memory event =
      .ok refreshed) (group : BattleGroup) :
    Moved (service.group group) (refreshed.group group) := by
  obtain ⟨other, -, descriptor, turn, value, -, -, rfl⟩ := exists_of_refresh ended
  apply moved_publish
  intro snapshot replaced
  by_cases same : group = other
  · subst same
    rw [Replacements.of_set, Option.some.injEq] at replaced
    rw [← replaced]
    rfl
  · rw [Replacements.of_set_of_ne _ same, Replacements.of_empty] at replaced
    cases replaced

/-- A delivery publishes each group at most once. -/
theorem moved_onStopPoint (registry : DerivedStateRegistry)
    (service : DerivedStateService) (memory : PausedMemory)
    (event : RoutedStopEvent) (group : BattleGroup) : Moved (service.group group)
      ((service.onStopPoint registry memory event).2.group group) := by
  unfold onStopPoint
  split
  · exact Or.inl rfl
  split
  · split
    · exact Or.inl rfl
    · rename_i refreshed ended
      exact moved_refresh ended group
  · exact moved_commit registry service event group

/-! ## The registrations -/

/-- What an activation has reached: the invariant, with every group published
at most once. -/
structure Reached (ledger : ItemLedger) (service : DerivedStateService) : Prop where
  valid : Valid ledger service
  settled : service.acceptingCurrentPoint = false
  moved : ∀ group, Moved {} (service.group group)

/-- What an activation ends with: it may also have ended the item. -/
structure Finished (ledger : ItemLedger) (service : DerivedStateService) : Prop where
  valid : Valid ledger service
  settled : service.acceptingCurrentPoint = false
  moved : (∀ group, Moved {} (service.group group)) ∨
    (service.active = false ∧ ∀ group, service.group group = {})

theorem Reached.finished (reached : Reached ledger service) : Finished ledger service :=
  ⟨reached.valid, reached.settled, Or.inl reached.moved⟩

theorem Reached.fail (reached : Reached ledger service)
    (answers : ActivationAnswers) (code : DerivedStateErrorCode) (message : ByteString) :
    Finished ledger (service.failActivation answers code message).2 := by
  have valid := reached.valid.closeItem answers.close
  unfold failActivation
  obtain ⟨initialization, native, same | same⟩ := closeItem_cases service answers.close
  · refine ⟨valid, ?_, Or.inl ?_⟩
    · rw [same]
      exact reached.settled
    intro group
    have kept : (service.closeItem answers.close).2.group group = service.group group := by
      rw [same]
      cases group <;> rfl
    rw [kept]
    exact reached.moved group
  · refine ⟨valid, ?_, Or.inr ⟨?_, ?_⟩⟩
    · rw [same]
      rfl
    · rw [same]
      rfl
    · rw [same]
      exact (blank_clearItem _).groups

theorem Reached.registerNative (reached : Reached ledger service) (answers : ActivationAnswers)
    (definition : StopSubscriptionGroupDefinition) :
    Finished ledger (service.registerNative answers definition).2 := by
  unfold DerivedStateService.registerNative
  split
  · exact reached.finished
  split
  · exact reached.fail answers _ _
  refine ⟨?_, reached.settled, Or.inl ?_⟩
  · exact reached.valid.flags service.initializationSubscriptions true service.acceptingCurrentPoint
  intro group
  have moved := reached.moved group
  cases group <;> exact moved

theorem Reached.registerInitialization (registry : DerivedStateRegistry)
    {answers : ActivationAnswers} (reached : Reached (.ofAnswers answers) service)
    (fresh : ∀ group, service.group group = {}) (block : DerivedStateBlockDescriptor) :
    Reached (.ofAnswers answers)
      (service.registerInitialization registry answers (initializationDefinition block)).2 := by
  unfold DerivedStateService.registerInitialization
  split
  · exact reached
  split
  · exact reached
  split
  · refine ⟨reached.valid.flags true service.nativeSubscriptions
      service.acceptingCurrentPoint, reached.settled, ?_⟩
    intro group
    have moved := reached.moved group
    cases group <;> exact moved
  rename_i event retained
  have current : answers.currentPoint = some event := by
    unfold ActivationAnswers.retainedFor at retained
    exact (Option.filter_eq_some_iff.mp retained).1
  have ledgered : (ItemLedger.ofAnswers answers).retained = some (event, answers.memory) := by
    unfold ItemLedger.ofAnswers
    rw [current]
    rfl
  have accepting : Valid (.ofAnswers answers)
      { service with acceptingCurrentPoint := true } :=
    reached.valid.flags service.initializationSubscriptions service.nativeSubscriptions true
  have points : (initializationDefinition block).subscriptions.map (·.point) =
      (triggerPcs block.groups true).map .pc :=
    points_subscriptionsFor 1 (triggerPcs block.groups true)
  have once := acceptSubscriptions_cases registry
    { service with acceptingCurrentPoint := true } answers.memory event
    (initializationDefinition block) (nodup_triggerPcs block.groups true)
    points
  generalize acceptSubscriptions registry answers.memory event
    (initializationDefinition block)
    (initializationDefinition block).subscriptions
    { service with acceptingCurrentPoint := true } = accepted at once ⊢
  obtain ⟨failed, after⟩ := accepted
  have afterReached : Valid (.ofAnswers answers) after ∧
      ∀ group, Moved {} (after.group group) := by
    rcases once with same | same
    · subst same
      refine ⟨accepting, ?_⟩
      intro group
      have moved := reached.moved group
      cases group <;> exact moved
    subst same
    refine ⟨accepting.onStopPoint fun _ => ledgered, ?_⟩
    intro group
    have moved := moved_onStopPoint registry
      { service with acceptingCurrentPoint := true } answers.memory event
      group
    have empty : ({ service with acceptingCurrentPoint := true } :
        DerivedStateService).group group = {} := by
      rw [← fresh group]
      cases group <;> rfl
    rw [empty] at moved
    exact moved
  have flagged : Reached (.ofAnswers answers)
      { after with
        acceptingCurrentPoint := false
        initializationSubscriptions := true } := by
    refine ⟨afterReached.1.flags true after.nativeSubscriptions false, rfl, ?_⟩
    intro group
    have moved := afterReached.2 group
    cases group <;> exact moved
  dsimp only
  split
  · exact flagged
  split
  · exact flagged
  · exact flagged

/-! ## The plan -/

/-- The entries of a plan have the kinds of their groups. -/
def Kinded (entries : List CpuRefreshPlanEntry) : Prop :=
  ∀ entry ∈ entries, entry.kind = battleEvidenceKindFor entry.group.groupId ∧ entry.kind ≠ .none

theorem kinded_fillPlan {filled : List CpuRefreshPlanEntry} {groups :
      List (DerivedStateBlockDescriptor × DerivedStateRefreshGroupDescriptor)}
    (kinded : Kinded entries) (ended : fillPlan entries groups = .ok filled) : Kinded filled := by
  induction groups generalizing entries with
  | nil =>
    cases ended
    exact kinded
  | cons pair groups ih =>
    obtain ⟨block, group⟩ := pair
    unfold fillPlan at ended
    dsimp only at ended
    split at ended
    · cases ended
    rename_i known
    split at ended
    · cases ended
    refine ih ?_ ended
    intro entry member
    rcases List.mem_append.mp member with old | new
    · exact kinded entry old
    · obtain ⟨trigger, -, rfl⟩ := List.mem_map.mp new
      exact ⟨rfl, known⟩

theorem kinded_refreshPlan {binding : WorksetDerivedStateBindingV1}
    (planned : refreshPlan registry binding = .ok entries) : Kinded entries := by
  unfold refreshPlan at planned
  obtain ⟨filled, ended, rest⟩ := exists_of_bind_ok planned
  have kinded := kinded_fillPlan (fun _ member => absurd member List.not_mem_nil) ended
  split at rest
  · cases rest
  · cases rest
    exact kinded

theorem observeHits_eq (service : DerivedStateService) (hits : List Hit) :
    ∃ queue overflowed, service.observeHits hits =
      { service with cpu := { service.cpu with queue, overflowed } } := by
  induction hits generalizing service with
  | nil => exact ⟨_, _, rfl⟩
  | cons hit hits ih =>
    obtain ⟨added, overflowed, same, -⟩ := observeRoutedHit_cases service
      derivedStateObserverId hit.memory hit.event
    obtain ⟨queue, finally_, rest⟩ := ih
      (service.observeRoutedHit derivedStateObserverId hit.memory hit.event).2
    refine ⟨queue, finally_, ?_⟩
    change (service.observeRoutedHit derivedStateObserverId hit.memory
      hit.event).2.observeHits hits = _
    rw [rest, same]

theorem finished_subscribe (blank : Blank service) (settled : service.acceptingCurrentPoint = false)
    (active : service.active = true) (battleCoreActive : service.battleCoreActive = true)
    (kinded : Kinded entries) (registry : DerivedStateRegistry) (answers : ActivationAnswers) :
    Finished (.ofAnswers answers) (service.subscribe registry answers entries).2 := by
  have planned : Valid { ItemLedger.ofAnswers answers with hits := [] }
      { service with
        cpu :=
          { activePlan := some ⟨service.epoch, service.itemId, entries⟩
            queue := []
            overflowed := false } } := by
    have valid := blank.valid { ItemLedger.ofAnswers answers with hits := [] }
    constructor
    case idle => exact blank.idle
    case plan =>
      intro plan found
      cases found
      exact ⟨active, battleCoreActive, rfl, rfl, kinded⟩
    case queue => exact fun record member => absurd member List.not_mem_nil
    case numbered =>
      intro group
      have numbered := valid.numbered group
      cases group <;> exact numbered
    case genuine =>
      intro group snapshot found
      have empty := blank.groups group
      cases group <;>
      · change (service.group _).snapshot = some snapshot at found
        rw [empty] at found
        cases found
  have observing := planned.observeHits answers.hits
  obtain ⟨queue, overflowed, same⟩ := observeHits_eq
    { service with
      cpu :=
        { activePlan := some ⟨service.epoch, service.itemId, entries⟩
          queue := []
          overflowed := false } } answers.hits
  have empty : ∀ cpu group,
      ({ service with cpu } : DerivedStateService).group group = {} := by
    intro cpu group
    rw [← blank.groups group]
    cases group <;> rfl
  have reached : Reached (.ofAnswers answers)
      ({ service with
        cpu :=
          { activePlan := some ⟨service.epoch, service.itemId, entries⟩
            queue := []
            overflowed := false } }.observeHits answers.hits) := by
    refine ⟨observing, ?_, ?_⟩
    · rw [same]
      exact settled
    intro group
    rw [same]
    exact Or.inl (empty _ group)
  unfold DerivedStateService.subscribe
  dsimp only
  split
  · exact reached.finished
  rename_i block found
  have registered := reached.registerInitialization registry
    (fun group => by
      rw [same]
      exact empty _ group) block
  split
  · rename_i message after ended
    rw [ended] at registered
    exact registered.fail answers _ _
  rename_i after ended
  rw [ended] at registered
  exact registered.registerNative answers _

theorem bindBlocks_eq (registry : DerivedStateRegistry)
    (blocks : List DerivedStateBlockBindingV1) (service : DerivedStateService) :
    ∃ bound identity, (bindBlocks registry blocks service).2 =
      { service with
        battleCoreActive := bound
        battleCoreIdentity := identity } := by
  induction blocks generalizing service with
  | nil => exact ⟨_, _, rfl⟩
  | cons block blocks ih =>
    unfold bindBlocks
    split
    · exact ⟨_, _, rfl⟩
    split
    · exact ⟨_, _, rfl⟩
    split
    · split
      · exact ⟨_, _, rfl⟩
      obtain ⟨bound, identity, same⟩ := ih
        { service with
          battleCoreActive := true
          battleCoreIdentity := block.identity }
      exact ⟨bound, identity, same⟩
    · exact ih service

/-- Activating an item: the service refuses and does not change, or it starts
from nothing. -/
theorem activateItem_cases (sha256 : ByteString → ByteString)
    (registry : DerivedStateRegistry) {service : DerivedStateService} (valid : Valid ledger service)
    (settled : service.acceptingCurrentPoint = false)
    (binding : WorksetDerivedStateBindingV1) (epoch : WorksetEpoch)
    (itemId : WorkerWorksetItemId) (answers : ActivationAnswers) :
    (service.activateItem sha256 registry binding epoch itemId answers).2 = service ∨
      (service.active = false ∧ (∀ group, service.group group = {}) ∧ Finished (.ofAnswers answers)
          (service.activateItem sha256 registry binding epoch itemId answers).2) := by
  unfold activateItem
  split
  · exact Or.inl rfl
  rename_i accepted
  split
  · exact Or.inl rfl
  split
  · exact Or.inl rfl
  have idle : service.active = false := by
    simp only [Bool.or_eq_true, not_or, Bool.not_eq_true] at accepted
    exact accepted.1.1.1
  have blank := valid.blank idle
  refine Or.inr ⟨idle, blank.groups, ?_⟩
  obtain ⟨bound, identity, same⟩ := bindBlocks_eq registry binding.blocks
    { service with active := true, epoch, itemId }
  have boundBlank : Blank
      (bindBlocks registry binding.blocks { service with active := true, epoch, itemId }).2 := by
    rw [same]
    refine ⟨fun inactive => Bool.noConfusion inactive, blank.plan, blank.queue, ?_⟩
    intro group
    have empty := blank.groups group
    cases group <;> exact empty
  have boundSettled : (bindBlocks registry binding.blocks
      { service with active := true, epoch, itemId }).2.acceptingCurrentPoint =
        false := by
    rw [same]
    exact settled
  have boundActive : (bindBlocks registry binding.blocks
      { service with active := true, epoch, itemId }).2.active = true := by
    rw [same]
  have reached : Reached (.ofAnswers answers)
      (bindBlocks registry binding.blocks { service with active := true, epoch, itemId }).2 :=
    ⟨boundBlank.valid _, boundSettled, fun group => Or.inl (boundBlank.groups group)⟩
  split
  · rename_i message after ended
    rw [ended] at reached
    exact reached.fail answers _ _
  rename_i after ended
  rw [ended] at reached boundBlank boundSettled boundActive
  split
  · exact reached.finished
  rename_i battle
  rw [Bool.not_eq_true', Bool.not_eq_false] at battle
  split
  · exact reached.fail answers _ _
  rename_i entries planned
  exact finished_subscribe boundBlank boundSettled boundActive battle
    (kinded_refreshPlan planned) registry answers

end Savor.DerivedState


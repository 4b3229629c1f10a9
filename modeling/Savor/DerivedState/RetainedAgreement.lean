import Savor.DerivedState.ActivationSteps

/-!
# A retained point and a native hit

For the production registry the two ways to refresh a group agree: a trigger
that is accepted as the retained point publishes what a native hit would publish
that sees the same memory.
-/

namespace Savor.DerivedState

open Library
open Program (ByteString WorksetEpoch text)
open StopPoints (RoutedStopIdentity RoutedStopEvent)
open Worksets (WorkerWorksetItemId)
open DerivedStateService

namespace BattleGroup

/-- The descriptor of a group in the production registry. -/
def descriptor : BattleGroup → DerivedStateRefreshGroupDescriptor
  | turnEntry => turnEntryGroup
  | turnOrder => turnOrderGroup
  | rewards => rewardsGroup

/-- The entry of a plan for a trigger of a group. -/
def entry (group : BattleGroup) (descriptorSha256 : ByteString) (pc : UInt32) :
    CpuRefreshPlanEntry where
  triggerPc := pc
  block := battleCoreDescriptor descriptorSha256
  group := group.descriptor
  kind := group.kind

end BattleGroup

variable (descriptorSha256 : ByteString)

/-- The entries of a plan for the battle block. -/
def battleEntries : List CpuRefreshPlanEntry :=
  [BattleGroup.turnEntry.entry descriptorSha256 0x80071740,
    BattleGroup.turnOrder.entry descriptorSha256 0x800715EC,
    BattleGroup.rewards.entry descriptorSha256 0x800702A0,
    BattleGroup.rewards.entry descriptorSha256 0x800706D8]

variable {group : BattleGroup} {service after : DerivedStateService}
variable {registry : DerivedStateRegistry} {event : RoutedStopEvent}
variable {sha256 : ByteString → ByteString} {answers : ActivationAnswers}
variable {receipt : DerivedStateReceipt}

theorem entriesAt_battleEntries {pc : UInt32}
    (trigger : pc ∈ group.retainedPcs) (epoch : WorksetEpoch) (itemId : WorkerWorksetItemId) :
    CpuItemPlan.entriesAt ⟨epoch, itemId, battleEntries descriptorSha256⟩ pc =
      [group.entry descriptorSha256 pc] := by
  cases group <;>
    simp only [BattleGroup.retainedPcs, List.mem_cons, List.not_mem_nil, or_false] at trigger
  · subst trigger
    rfl
  · subst trigger
    rfl
  · rcases trigger with rfl | rfl <;> rfl

theorem findBlock_production : (productionDerivedStateRegistry descriptorSha256).findBlock
        kBattleCoreBlockId = some (battleCoreDescriptor descriptorSha256) := by
  simp [productionDerivedStateRegistry, DerivedStateRegistry.findBlock, battleCoreDescriptor]

variable {block : DerivedStateBlockDescriptor}

theorem findBlock_production_iff {canonicalId : ByteString} :
    (productionDerivedStateRegistry descriptorSha256).findBlock canonicalId = some block ↔
      canonicalId = kBattleCoreBlockId ∧ block = battleCoreDescriptor descriptorSha256 := by
  simp only [productionDerivedStateRegistry, DerivedStateRegistry.findBlock,
    battleCoreDescriptor, List.find?_cons, List.find?_nil]
  split
  · rename_i same
    rw [decide_eq_true_eq] at same
    simp [← same, eq_comm]
  rename_i different
  rw [decide_eq_false_iff_not] at different
  simp [Ne.symm different]

theorem findGroup_production (group : BattleGroup) :
    (productionDerivedStateRegistry descriptorSha256).findGroup
        kBattleCoreBlockId group.groupId = some group.descriptor := by
  have order : kBattleTurnEntryGroupId ≠ kBattleTurnOrderGroupId ∧
      kBattleTurnEntryGroupId ≠ kBattleRewardsGroupId ∧
      kBattleTurnOrderGroupId ≠ kBattleRewardsGroupId := by
    decide +kernel
  unfold DerivedStateRegistry.findGroup
  rw [findBlock_production]
  cases group <;>
    simp [battleCoreDescriptor, BattleGroup.groupId, BattleGroup.descriptor,
      turnEntryGroup, turnOrderGroup, rewardsGroup, order]

variable {evidence : BattleGroupEvidenceRecord}

theorem namesGroup_production {pc : UInt32} (trigger : pc ∈ group.retainedPcs)
    (block : evidence.block = battleCoreDescriptor descriptorSha256)
    (named : evidence.group = group.descriptor) :
    namesGroup (productionDerivedStateRegistry descriptorSha256) pc evidence = true := by
  have found := findBlock_production descriptorSha256
  have identity : (battleCoreDescriptor descriptorSha256).identity.canonicalId =
      kBattleCoreBlockId := rfl
  have listed : group.descriptor ∈
      (battleCoreDescriptor descriptorSha256).groups := by
    cases group <;> simp [battleCoreDescriptor, BattleGroup.descriptor]
  have triggered : ∃ trigger ∈ group.descriptor.triggers, trigger.pc = pc := by
    cases group <;>
      simpa [BattleGroup.descriptor, turnEntryGroup, turnOrderGroup,
        rewardsGroup, BattleGroup.retainedPcs, eq_comm] using trigger
  unfold namesGroup
  rw [block, named, identity, found]
  simp [listed, triggered]

/-! ## A native hit -/

/-- A native hit and its delivery. -/
def DerivedStateService.nativeRefresh (registry : DerivedStateRegistry)
    (service : DerivedStateService) (hit : Hit) : Option ByteString × DerivedStateService :=
  (service.observeRoutedHit derivedStateObserverId hit.memory
    hit.event).2.commitNativeEvidence registry hit.event

variable {descriptorSha256}

/-- The record of a hit that captures one group. -/
def DerivedStateService.recordOf (service : DerivedStateService)
    (event : RoutedStopEvent) (evidence : BattleGroupEvidenceRecord) :
    DerivedEventEvidenceRecord where
  routedStop := event.identity
  epoch := service.epoch
  itemId := service.itemId
  triggerPc := event.evidence.hitPc
  groups := [evidence]

theorem observeRoutedHit_production {hit : Hit} (planned : service.cpu.activePlan =
      some ⟨service.epoch, service.itemId, battleEntries descriptorSha256⟩)
    (empty : service.cpu.queue = []) (epoch : hit.event.identity.worksetEpoch = service.epoch)
    (trigger : hit.event.evidence.hitPc ∈ group.retainedPcs) :
    (service.observeRoutedHit derivedStateObserverId hit.memory hit.event).2 = service.popped
        [service.recordOf hit.event ((group.entry descriptorSha256
            hit.event.evidence.hitPc).captureGroup hit.memory)] := by
  have evidence : CpuItemPlan.evidenceOf
      ⟨service.epoch, service.itemId, battleEntries descriptorSha256⟩ hit.memory
      hit.event =
        service.recordOf hit.event
          ((group.entry descriptorSha256 hit.event.evidence.hitPc).captureGroup hit.memory) := by
    unfold CpuItemPlan.evidenceOf recordOf
    dsimp only
    rw [entriesAt_battleEntries descriptorSha256 trigger, epoch]
    simp
  unfold observeRoutedHit CpuState.observe
  rw [if_neg (not_not_intro rfl), planned]
  dsimp only
  rw [evidence, empty]
  have one : (service.recordOf hit.event ((group.entry descriptorSha256
        hit.event.evidence.hitPc).captureGroup hit.memory)).groups.length = 1 :=
    rfl
  generalize service.recordOf hit.event _ = record at one ⊢
  rw [if_neg (by rw [one]; decide), if_neg (by rw [one]; decide), if_neg (by decide), ← planned]
  rfl

theorem commit_popped {record : DerivedEventEvidenceRecord} (empty : service.cpu.queue = []) :
    (service.popped [record]).commitNativeEvidence registry event =
      match service.deriveRecord registry event record with
      | .error thrown => (some thrown, service)
      | .ok replacements => (none, service.publish replacements) := by
  have back : { service.popped [record] with
      cpu := { (service.popped [record]).cpu with queue := [] } } = service := by
    unfold popped
    rw [← empty]
  unfold commitNativeEvidence
  change (match ({ service.popped [record] with
      cpu := { (service.popped [record]).cpu with queue := [] } } :
        DerivedStateService).deriveRecord registry event record with
    | .error thrown => _
    | .ok replacements => _) = _
  rw [back]

theorem deriveRecord_recordOf :
    service.deriveRecord registry event (service.recordOf event evidence) =
      service.replaceGroup registry event event.evidence.hitPc {} evidence := by
  unfold deriveRecord recordOf
  rw [if_neg (by simp), if_neg (by simp [kMaximumRefreshGroupsPerHit])]
  exact bind_pure _

theorem nativeRefresh_of_shown {hit : Hit} {turn : UInt32} {value : group.Value}
    (planned : service.cpu.activePlan =
      some ⟨service.epoch, service.itemId, battleEntries descriptorSha256⟩)
    (empty : service.cpu.queue = []) (epoch : hit.event.identity.worksetEpoch = service.epoch)
    (trigger : hit.event.evidence.hitPc ∈ group.retainedPcs)
    (shown : group.derive hit.memory.view = some (turn, value)) :
    service.nativeRefresh (productionDerivedStateRegistry descriptorSha256) hit =
      (none, service.publishOne group
        (service.nextSnapshot hit.event group.descriptor group turn value)) := by
  have kind : (group.entry descriptorSha256 hit.event.evidence.hitPc).kind = group.kind := rfl
  have same := CpuRefreshPlanEntry.sameGroup_captureGroup kind hit.memory
  have holds := CpuRefreshPlanEntry.holds_captureGroup kind hit.memory
  obtain ⟨byte, bytes, read, parsed, rfl⟩ := BattleGroup.derive_eq_some_iff.mp shown
  rw [read] at holds
  unfold nativeRefresh
  rw [observeRoutedHit_production planned empty epoch trigger,
    commit_popped empty, deriveRecord_recordOf]
  generalize (group.entry descriptorSha256
    hit.event.evidence.hitPc).captureGroup hit.memory = evidence at same holds ⊢
  obtain ⟨clean, current, payload⟩ := holds
  have names := namesGroup_production descriptorSha256 trigger same.block same.group
  have named : evidence.group = group.descriptor := same.group
  rw [replaceGroup_eq names clean (same.kind.trans kind),
    Replacements.of_empty, payload, parsed, current, named]
  rfl

/-! ## The plan of the battle block -/

variable {blocks : List DerivedStateBlockBindingV1}

theorem battle_of_bound (bound : bindBlocks (productionDerivedStateRegistry descriptorSha256) blocks
      service = (none, after)) :
    ∀ block ∈ blocks, block.identity.canonicalId = kBattleCoreBlockId := by
  induction blocks generalizing service with
  | nil => exact fun block member => absurd member List.not_mem_nil
  | cons first blocks ih =>
    unfold bindBlocks at bound
    split at bound
    · cases bound
    rename_i descriptor found
    have named := ((findBlock_production_iff descriptorSha256).mp found).1
    iterate 2 (split at bound; · cases bound)
    intro block member
    rcases List.mem_cons.mp member with rfl | later
    · exact named
    · exact ih bound block later

theorem eq_singleton_of_validated
    (battle : ∀ block ∈ blocks, block.identity.canonicalId = kBattleCoreBlockId)
    (valid : validateBlocks sha256 [] blocks = none) : blocks = [] ∨ ∃ block, blocks = [block] := by
  match blocks with
  | [] => exact Or.inl rfl
  | [block] => exact Or.inr ⟨block, rfl⟩
  | first :: second :: rest =>
    have firstNamed := battle first List.mem_cons_self
    have secondNamed := battle second (by simp)
    have named : kBattleCoreBlockId.isEmpty = false := by decide +kernel
    simp only [validateBlocks, firstNamed, secondNamed] at valid
    rw [named] at valid
    simp at valid
    split at valid
    · cases valid
    split at valid
    · split at valid
      · split at valid <;> cases valid
      · cases valid
    · cases valid

theorem fillPlan_production : fillPlan []
        ((battleCoreDescriptor descriptorSha256).groups.map fun group =>
          (battleCoreDescriptor descriptorSha256, group)) =
      .ok (battleEntries descriptorSha256) := by
  have kinds := battleEvidenceKindFor_groupId
  have entry : battleEvidenceKindFor kBattleTurnEntryGroupId = .turnEntry := kinds .turnEntry
  have order : battleEvidenceKindFor kBattleTurnOrderGroupId = .turnOrder := kinds .turnOrder
  have rewards : battleEvidenceKindFor kBattleRewardsGroupId = .rewards := kinds .rewards
  simp [battleCoreDescriptor, fillPlan, entry, order, rewards,
    kMaximumRefreshGroupsPerItem, turnEntryGroup, turnOrderGroup, rewardsGroup,
    battleEntries, BattleGroup.entry, BattleGroup.descriptor, BattleGroup.kind]

variable {binding : WorksetDerivedStateBindingV1}

theorem refreshPlan_production {entries : List CpuRefreshPlanEntry}
    (valid : validateWorksetDerivedStateBindingV1 sha256 binding = none)
    (bound : bindBlocks (productionDerivedStateRegistry descriptorSha256)
      binding.blocks service = (none, after))
    (idle : service.battleCoreActive = false) (battle : after.battleCoreActive = true)
    (planned : refreshPlan (productionDerivedStateRegistry descriptorSha256)
      binding = .ok entries) :
    entries = battleEntries descriptorSha256 := by
  have named := battle_of_bound bound
  have blocksValid : validateBlocks sha256 [] binding.blocks = none := by
    unfold validateWorksetDerivedStateBindingV1 at valid
    iterate 3 (split at valid; · cases valid)
    · assumption
  rcases eq_singleton_of_validated named blocksValid with
    none_ | ⟨block, one⟩
  · rw [none_] at bound
    cases bound
    rw [idle] at battle
    cases battle
  have blockNamed := named block (by rw [one]; exact List.mem_cons_self)
  have blocks : battleBlocks
      (productionDerivedStateRegistry descriptorSha256) binding =
        [battleCoreDescriptor descriptorSha256] := by
    unfold battleBlocks
    rw [one, List.filterMap_cons, blockNamed, findBlock_production]
    simp [battleCoreDescriptor]
  unfold refreshPlan at planned
  obtain ⟨filled, ended, rest⟩ := exists_of_bind_ok planned
  rw [blocks, List.flatMap_singleton, fillPlan_production] at ended
  cases ended
  split at rest
  · cases rest
  · cases rest
    rfl

/-! ## Activations with a retained point -/

theorem registerInitialization_retained (fresh : ∀ group, service.group group = {})
    (retained : answers.retainedFor (initializationDefinition block) = some event)
    (ended : service.registerInitialization registry answers
      (initializationDefinition block) = (none, after)) :
    ∃ refreshed,
      ({ service with acceptingCurrentPoint := true } :
        DerivedStateService).refreshFromRetainedCurrentPoint registry
          answers.memory event = .ok refreshed ∧
      event.identity.worksetEpoch = service.epoch ∧
      after = { refreshed with
        acceptingCurrentPoint := false
        initializationSubscriptions := true } := by
  have unfreshed : ∀ event initialization,
      ({ service with
        acceptingCurrentPoint := false
        initializationSubscriptions := initialization } :
          DerivedStateService).committedTurnEntry event = false := by
    intro event initialization
    have empty := fresh .turnEntry
    change service.turnEntry = {} at empty
    simp [committedTurnEntry, empty]
  have points : (initializationDefinition block).subscriptions.map (·.point) =
      (triggerPcs block.groups true).map .pc :=
    points_subscriptionsFor 1 (triggerPcs block.groups true)
  have once := acceptSubscriptions_cases registry
    { service with acceptingCurrentPoint := true } answers.memory event
    (initializationDefinition block) (nodup_triggerPcs block.groups true)
    points
  have listed : (initializationDefinition block).subscriptions.isEmpty =
      false := by
    unfold ActivationAnswers.retainedFor at retained
    have matched := (Option.filter_eq_some_iff.mp retained).2
    cases subscriptions : (initializationDefinition block).subscriptions with
    | nil => simp [StopPoints.currentPointMatchesDefinition, subscriptions] at matched
    | cons first rest => rfl
  unfold registerInitialization at ended
  rw [listed, retained] at ended
  simp only [Bool.false_eq_true, if_false] at ended
  split at ended
  · cases ended
  generalize acceptSubscriptions registry answers.memory event
    (initializationDefinition block)
    (initializationDefinition block).subscriptions
    { service with acceptingCurrentPoint := true } = accepted at once ended
  obtain ⟨failed, reached⟩ := accepted
  split at ended
  · cases ended
  split at ended
  · rename_i committed
    cases ended
    rcases once with same | same
    · dsimp only at same
      subst same
      rw [unfreshed] at committed
      cases committed
    dsimp only at same
    subst same
    unfold onStopPoint at committed ⊢
    split at committed
    · have idle := unfreshed event true
      rw [idle] at committed
      cases committed
    rename_i current
    rw [if_neg current]
    simp only [if_true] at committed ⊢
    simp only [Bool.or_eq_true, decide_eq_true_eq, not_or, ne_eq, not_not] at current
    split at committed
    · rw [unfreshed] at committed
      cases committed
    rename_i refreshed done
    rw [done]
    exact ⟨refreshed, rfl, current.2, rfl⟩
  · cases ended

/-- The service with the same item, where nothing is queued or published. -/
def DerivedStateService.forgotten (service : DerivedStateService) : DerivedStateService :=
  { service.popped [] with turnEntry := {}, turnOrder := {}, rewards := {} }

theorem registerNative_ok {definition : StopPoints.StopSubscriptionGroupDefinition}
    (ended : service.registerNative answers definition = (receipt, after))
    (accepted : receipt.ok = true) :
    ∃ native, after = { service with nativeSubscriptions := native } := by
  unfold registerNative at ended
  split at ended
  · cases ended
    exact ⟨_, rfl⟩
  split at ended
  · cases ended
    cases accepted
  · cases ended
    exact ⟨true, rfl⟩

/-- What an activation that succeeds with a retained point leaves. -/
structure RefreshedItem (descriptorSha256 : ByteString)
    (memory : PausedMemory) (event : RoutedStopEvent) (after : DerivedStateService) : Prop where
  planned : after.cpu.activePlan = some ⟨after.epoch, after.itemId, battleEntries descriptorSha256⟩
  epoch : event.identity.worksetEpoch = after.epoch
  published : ∃ group turn value,
    event.evidence.hitPc ∈ BattleGroup.retainedPcs group ∧
      group.derive (memory.view after.epoch) = some (turn, value) ∧
      ∀ other, after.group other =
        (after.forgotten.publishOne group
          (after.forgotten.nextSnapshot event group.descriptor group turn value)).group other

/-- A publication over groups that are all unpublished. -/
theorem group_publishOne_of_fresh {left right : DerivedStateService}
    {descriptor : DerivedStateRefreshGroupDescriptor} {turn : UInt32} {value : group.Value}
    (leftFresh : ∀ group, left.group group = {}) (rightFresh : ∀ group, right.group group = {})
    (same : SameItem left right) (other : BattleGroup) : (left.publishOne group
        (left.nextSnapshot event descriptor group turn value)).group other = (right.publishOne group
        (right.nextSnapshot event descriptor group turn value)).group other := by
  unfold publishOne
  rw [group_publish, group_publish, leftFresh, rightFresh]
  unfold nextSnapshot makeProvenance
  rw [leftFresh, rightFresh, same.epoch, same.itemId, same.battleCoreIdentity]

theorem group_forgotten (service : DerivedStateService) (group : BattleGroup) :
    service.forgotten.group group = {} := by
  cases group <;> rfl

theorem subscribe_retained (blank : Blank service) (retained : answers.retainedFor
      (initializationDefinition (battleCoreDescriptor descriptorSha256)) = some event)
    (ended : service.subscribe (productionDerivedStateRegistry descriptorSha256) answers
      (battleEntries descriptorSha256) = (receipt, after))
    (accepted : receipt.ok = true) : RefreshedItem descriptorSha256 answers.memory event after := by
  obtain ⟨queue, overflowed, observed⟩ := observeHits_eq
    { service with
      cpu :=
        { activePlan := some ⟨service.epoch, service.itemId, battleEntries descriptorSha256⟩
          queue := []
          overflowed := false } } answers.hits
  unfold subscribe at ended
  rw [findBlock_production] at ended
  dsimp only at ended
  rw [observed] at ended
  have fresh : ∀ cpu accepting group, ({ service with
      cpu, acceptingCurrentPoint := accepting } : DerivedStateService).group group = {} := by
    intro cpu accepting group
    rw [← blank.groups group]
    cases group <;> rfl
  split at ended
  · cases ended
    cases accepted
  rename_i registered initialized
  obtain ⟨refreshed, done, epoch, rfl⟩ :=
    registerInitialization_retained (fun group => fresh _ _ group) retained initialized
  obtain ⟨native, rfl⟩ := registerNative_ok ended accepted
  obtain ⟨group, trigger, descriptor, turn, value, found, derived, same⟩ := exists_of_refresh done
  rw [findGroup_production] at found
  cases found
  have flags : ∀ other, ({ refreshed with
      acceptingCurrentPoint := false
      initializationSubscriptions := true
      nativeSubscriptions := native } : DerivedStateService).group other =
        refreshed.group other := fun other => by cases other <;> rfl
  subst same
  refine ⟨rfl, epoch, group, turn, value, trigger, derived, ?_⟩
  intro other
  rw [flags]
  exact group_publishOne_of_fresh (fun group => fresh _ true group)
    (group_forgotten _) ⟨rfl, rfl, rfl, rfl, rfl⟩ other

/-- An activation that succeeds with a retained point has published what a
native hit publishes that sees the same memory. -/
theorem activateItem_retained {ledger : ItemLedger} {epoch : WorksetEpoch}
    {itemId : WorkerWorksetItemId} (valid : Valid ledger service)
    (activated : service.activateItem sha256
      (productionDerivedStateRegistry descriptorSha256) binding epoch itemId
        answers = (receipt, after))
    (accepted : receipt.ok = true) (battle : after.battleCoreActive = true)
    (retained : answers.retainedFor
      (initializationDefinition (battleCoreDescriptor descriptorSha256)) = some event) :
    RefreshedItem descriptorSha256 answers.memory event after := by
  unfold activateItem at activated
  split at activated
  · cases activated
    cases accepted
  rename_i free
  have idle : service.active = false := by
    simp only [Bool.or_eq_true, not_or, Bool.not_eq_true] at free
    exact free.1.1.1
  have blank := valid.blank idle
  split at activated
  · cases activated
    cases accepted
  rename_i validated
  split at activated
  · cases activated
    cases accepted
  obtain ⟨boundActive, identity, same⟩ := bindBlocks_eq
    (productionDerivedStateRegistry descriptorSha256) binding.blocks
    { service with active := true, epoch, itemId }
  split at activated
  · cases activated
    cases accepted
  rename_i bound boundTo
  rw [boundTo] at same
  dsimp only at same
  split at activated
  · rename_i unbound
    cases activated
    rw [battle] at unbound
    cases unbound
  rename_i boundBattle
  rw [Bool.not_eq_true', Bool.not_eq_false] at boundBattle
  split at activated
  · cases activated
    cases accepted
  rename_i entries planned
  have entriesSame := refreshPlan_production validated boundTo (blank.idle idle) boundBattle planned
  subst entriesSame
  refine subscribe_retained ?_ retained activated accepted
  subst same
  refine ⟨fun inactive => Bool.noConfusion inactive, blank.plan, blank.queue, ?_⟩
  intro group
  have empty := blank.groups group
  cases group <;> exact empty

end Savor.DerivedState

import Savor.DerivedState.RetainedAgreement

/-!
# Derived state belongs to its event

Snapshots are of the memory at their events, the generations of a group are
numbered within an item, and the groups of an event are published together.  The
evidence of a hit whose packet was dropped stays in the queue, so the next
delivery takes it: deliveries are not disturbed as long as none finds such
evidence first in the queue.
-/

namespace Savor.DerivedState

open Library
open Program (ByteString WorksetEpoch text)
open StopPoints (RoutedStopIdentity RoutedStopEvent)
open Worksets (WorkerWorksetItemId)
open DerivedStateService

/-! ## The laws -/

/-- A delivery publishes every group that the evidence of its event names, and
no other one, or it throws and publishes none. -/
def Together (event : RoutedStopEvent) (transition : DerivedTransition) : Prop :=
  (transition.event = .delivered none ∧
    ∃ record rest, transition.before.cpu.queue = record :: rest ∧
      record.routedStop = event.identity ∧ ∀ group,
        ((∃ evidence ∈ record.groups, evidence.kind = group.kind) →
          ∃ snapshot, transition.after.group group =
              ⟨(transition.before.group group).generation + 1, some snapshot⟩ ∧
            snapshot.provenance.routedStop = event.identity) ∧
        ((∀ evidence ∈ record.groups, evidence.kind ≠ group.kind) →
          transition.after.group group = transition.before.group group)) ∨
  ((∃ thrown, transition.event = .delivered (some thrown)) ∧
    ∀ group, transition.after.group group = transition.before.group group)

/-- An answer to a query is the snapshot of the current item, and of the named
event when one is asked for. -/
structure AnswersQuery (service : DerivedStateService) (group : BattleGroup)
    (query : DerivedStateQueryV1) (snapshot : BattleSnapshot group.Value) : Prop where
  published : (service.group group).snapshot = some snapshot
  active : service.active = true
  worksetEpoch : query.worksetEpoch = service.epoch
  itemId : query.itemId = service.itemId
  sameRoutedEvent : query.freshness = .sameRoutedEvent →
    query.routedStop.sequence.isSet = true ∧ snapshot.provenance.routedStop = query.routedStop

/-- A delivery does what it would do without the evidence of dropped hits in
front of the queue. -/
def Undisturbed (registry : DerivedStateRegistry)
    (earlier : List DerivedTransition) (transition : DerivedTransition) : Prop :=
  ∀ event memory, transition.input = .deliver event memory →
    ∀ dropped record rest,
      transition.before.cpu.queue = dropped ++ record :: rest →
      (∀ lost ∈ dropped, lost.routedStop ∈ (ItemLedger.ofHistory earlier).discarded) →
      let undisturbed := (transition.before.popped (record :: rest)).onStopPoint
        registry memory event
      transition.event = .delivered undisturbed.1 ∧
        ∀ group, transition.after.group group = undisturbed.2.group group

/-- An activation with a retained point has published what a native hit of the
same event publishes that sees the same memory. -/
def AgreesWithNative (descriptorSha256 : ByteString) (transition : DerivedTransition) : Prop :=
  ∀ binding epoch itemId answers receipt event,
    transition.input = .activate binding epoch itemId answers →
    transition.event = .receipt receipt → receipt.ok = true →
    transition.after.battleCoreActive = true →
    answers.retainedFor
      (initializationDefinition (battleCoreDescriptor descriptorSha256)) = some event →
    ∀ hit : Hit, hit.event = event →
      hit.memory.view = answers.memory.view transition.after.epoch →
      ∃ native, transition.after.forgotten.nativeRefresh
          (productionDerivedStateRegistry descriptorSha256) hit = (none, native) ∧
        ∀ group, native.group group = transition.after.group group

/-- What holds of a run of the service. -/
structure DerivedLaw (registry : DerivedStateRegistry)
    (history : List DerivedTransition) (service : DerivedStateService) : Prop where
  genuine : ∀ group snapshot,
    (service.group group).snapshot = some snapshot →
      Genuine (.ofHistory history) service group snapshot
  numbered : ∀ group, Numbered (service.group group)
  moved : ∀ transition ∈ history, MovedOrEnded transition.before transition.after
  together : ∀ transition ∈ history, ∀ event memory,
    transition.input = .deliver event memory → Together event transition
  answers : ∀ transition ∈ history, ∀ group query receipt snapshot,
    transition.input = .query group query →
    transition.event = .answered group receipt (some snapshot) →
      AnswersQuery transition.before group query snapshot
  undisturbed : Everywhere (Undisturbed registry) history
  retained : ∀ descriptorSha256,
    registry = productionDerivedStateRegistry descriptorSha256 →
      ∀ transition ∈ history, AgreesWithNative descriptorSha256 transition

/-- A delivery does not find evidence of a dropped hit first in the queue. -/
def Undropped (earlier : List DerivedTransition) (transition : DerivedTransition) : Prop :=
  match transition.input with
  | .deliver _ _ => ∀ record,
      transition.before.cpu.queue.head? = some record →
        record.routedStop ∉ (ItemLedger.ofHistory earlier).discarded
  | _ => True

instance (earlier : List DerivedTransition) (transition : DerivedTransition) :
    Decidable (Undropped earlier transition) := by
  unfold Undropped
  cases transition.input <;> dsimp only
  case deliver =>
    cases transition.before.cpu.queue.head? with
    | none => exact .isTrue fun record found => absurd found (by simp)
    | some first =>
      exact decidable_of_iff
        (first.routedStop ∉ (ItemLedger.ofHistory earlier).discarded)
        (by simp)
  all_goals infer_instance

/-! ## Runs -/

section Runs

variable {sha256 : ByteString → ByteString} {registry : DerivedStateRegistry}
variable {history : List DerivedTransition} {service : DerivedStateService}

/-- What holds after every step. -/
structure Kept (ledger : ItemLedger) (service : DerivedStateService) : Prop where
  valid : Valid ledger service
  settled : service.acceptingCurrentPoint = false

theorem Valid.between (ledger : ItemLedger) {service : DerivedStateService}
    (valid : Valid ledger service) :
    Valid (if service.active = false then {} else ledger) service := by
  split
  · rename_i idle
    exact (valid.blank idle).valid {}
  · exact valid

variable {ledger : ItemLedger}

/-- Every step keeps the invariant. -/
theorem Kept.step (transition : DerivedTransition) (kept : Kept ledger transition.before)
    (served : serve sha256 registry transition.input transition.before =
      (transition.event, transition.after)) :
    Kept (ledger.record transition) transition.after := by
  obtain ⟨before, input, event, after⟩ := transition
  dsimp only at kept served
  obtain ⟨valid, settled⟩ := kept
  obtain rfl : (serve sha256 registry input before).2 = after := congrArg Prod.snd served
  cases input with simp only [serve, Prod.map_snd, id_eq]
  | bindRouter routerEpoch epoch =>
    have bound : ∃ flag, (before.bindRouter routerEpoch epoch).2 =
        { before with routerBound := flag } := by
      unfold bindRouter
      split
      · exact ⟨_, rfl⟩
      · exact ⟨true, rfl⟩
    obtain ⟨flag, same⟩ := bound
    rw [same]
    refine ⟨Valid.between _ ?_, settled⟩
    exact valid.transfer ⟨rfl, rfl, rfl, rfl, rfl⟩ rfl (List.Subset.refl _)
      (fun group => by cases group <;> rfl) (List.Subset.refl _)
      fun _ => List.Subset.refl _
  | activate binding epoch itemId answers =>
    rcases activateItem_cases sha256 registry valid settled binding epoch
      itemId answers with same | ⟨idle, -, finished⟩
    · rw [same]
      refine ⟨Valid.between (if before.active then ledger
        else .ofAnswers answers) ?_, settled⟩
      split
      · exact valid
      · rename_i idle
        exact (valid.blank (Bool.not_eq_true _ ▸ idle)).valid _
    refine ⟨Valid.between (if before.active then ledger
      else .ofAnswers answers) ?_, finished.settled⟩
    rw [idle]
    exact finished.valid
  | close answers =>
    refine ⟨Valid.between _ (valid.closeItem answers), ?_⟩
    obtain ⟨initialization, native, same | same⟩ := closeItem_cases before answers
    · rw [same]
      exact settled
    · rw [same]
      rfl
  | observe descriptorId hit =>
    refine ⟨Valid.between _ (valid.observe descriptorId hit), ?_⟩
    obtain ⟨added, overflowed, same, -⟩ := observeRoutedHit_cases before
      descriptorId hit.memory hit.event
    rw [same]
    exact settled
  | deliver event memory =>
    have delivered : Valid ledger
        (before.onStopPoint registry memory event).2 :=
      valid.onStopPoint fun accepting => absurd (accepting.symm.trans settled) Bool.noConfusion
    have unsettled := (sameItem_onStopPoint registry before memory event).2
    refine ⟨?_, unsettled.trans settled⟩
    refine Valid.between
      (if event.identity.worksetEpoch = before.epoch then ledger
        else { ledger with
          discarded := ledger.discarded ++ [event.identity] }) ?_
    split
    · exact delivered
    exact delivered.transfer ⟨rfl, rfl, rfl, rfl, rfl⟩ rfl
      (List.Subset.refl _) (fun _ => rfl) (List.Subset.refl _)
      fun _ => List.Subset.refl _
  | discard routedStop =>
    refine ⟨Valid.between _ ?_, settled⟩
    exact valid.transfer ⟨rfl, rfl, rfl, rfl, rfl⟩ rfl (List.Subset.refl _)
      (fun _ => rfl) (List.Subset.refl _) fun _ => List.Subset.refl _
  | query group query => exact ⟨Valid.between _ valid, settled⟩

/-- Up to any position the invariant holds of what has happened. -/
theorem kept_of_run (run : DerivedRun sha256 registry history service) :
    Kept (.ofHistory history) service := by
  induction run with
  | nil =>
    refine ⟨Blank.valid ⟨fun _ => rfl, rfl, rfl, ?_⟩ _, rfl⟩
    intro group
    cases group <;> rfl
  | snoc _ _ stepped ih =>
    rw [ItemLedger.ofHistory_snoc]
    exact Kept.step ⟨_, _, _, _⟩ ih (Option.some.inj stepped)

/-- Every step of a run starts where the invariant holds. -/
theorem kept_before (run : DerivedRun sha256 registry history service)
    {transition : DerivedTransition} (member : transition ∈ history) :
    ∃ earlier, Kept (.ofHistory earlier) transition.before ∧
      serve sha256 registry transition.input transition.before =
        (transition.event, transition.after) := by
  obtain ⟨earlier, later, position⟩ := List.append_of_mem member
  obtain ⟨before, -, stepped⟩ := run.split position
  exact ⟨earlier, kept_of_run before, Option.some.inj stepped⟩

/-! ## One step -/

/-- A step keeps every group, publishes it once or ends the item. -/
theorem Kept.movedOrEnded (transition : DerivedTransition) (kept : Kept ledger transition.before)
    (served : serve sha256 registry transition.input transition.before =
      (transition.event, transition.after)) :
    MovedOrEnded transition.before transition.after := by
  obtain ⟨before, input, event, after⟩ := transition
  dsimp only at kept served ⊢
  obtain ⟨valid, settled⟩ := kept
  have unchanged : ∀ {after : DerivedStateService},
      (∀ group, after.group group = before.group group) → MovedOrEnded before after :=
    fun same => Or.inl fun group => Or.inl (same group)
  obtain rfl : (serve sha256 registry input before).2 = after := congrArg Prod.snd served
  cases input with simp only [serve, Prod.map_snd, id_eq]
  | bindRouter routerEpoch epoch =>
    apply unchanged
    intro group
    unfold bindRouter
    split
    · rfl
    · cases group <;> rfl
  | activate binding epoch itemId answers =>
    rcases activateItem_cases sha256 registry valid settled binding epoch
      itemId answers with same | ⟨-, fresh, finished⟩
    · rw [same]
      exact unchanged fun _ => rfl
    rcases finished.moved with moved | ended
    · refine Or.inl fun group => ?_
      rw [fresh group]
      exact moved group
    · exact Or.inr ended
  | close answers =>
    obtain ⟨initialization, native, same | same⟩ := closeItem_cases before answers
    · rw [same]
      exact unchanged fun group => by cases group <;> rfl
    · rw [same]
      exact Or.inr ⟨rfl, (blank_clearItem _).groups⟩
  | observe descriptorId hit =>
    obtain ⟨added, overflowed, same, -⟩ := observeRoutedHit_cases before
      descriptorId hit.memory hit.event
    rw [same]
    exact unchanged fun group => by cases group <;> rfl
  | deliver event memory =>
    exact Or.inl fun group => moved_onStopPoint registry before memory event group
  | discard | query => exact unchanged fun _ => rfl

variable {event : RoutedStopEvent}

theorem Kept.together (transition : DerivedTransition) (kept : Kept ledger transition.before)
    (served : serve sha256 registry transition.input transition.before =
      (transition.event, transition.after))
    {memory : PausedMemory} (delivers : transition.input = .deliver event memory) :
    Together event transition := by
  obtain ⟨before, input, reply, after⟩ := transition
  dsimp only at kept served delivers
  subst delivers
  have thrownSame : DerivedEvent.delivered
      (before.onStopPoint registry memory event).1 = reply :=
    congrArg Prod.fst served
  have afterSame : (before.onStopPoint registry memory event).2 = after := congrArg Prod.snd served
  subst thrownSame afterSame
  unfold Together
  dsimp only
  unfold onStopPoint
  split
  · exact Or.inr ⟨⟨_, rfl⟩, fun _ => rfl⟩
  rw [if_neg (by rw [kept.settled]; exact Bool.noConfusion)]
  rcases commitNativeEvidence_cases registry before event with
    ⟨-, thrown, overflowed, same⟩ |
      ⟨record, rest, queued, ⟨thrown, same⟩ | ⟨replacements, derived, same⟩⟩
  · rw [same]
    exact Or.inr ⟨⟨_, rfl⟩, fun group => by cases group <;> rfl⟩
  · rw [same]
    exact Or.inr ⟨⟨_, rfl⟩, fun group => by cases group <;> rfl⟩
  rw [same]
  obtain ⟨agrees, prepared⟩ := deriveRecord_ok derived
  refine Or.inl ⟨rfl, record, rest, queued, agrees.routedStop, ?_⟩
  intro group
  have popped : ({ before with
      cpu := { before.cpu with queue := rest } } :
        DerivedStateService).group group = before.group group := by
    cases group <;> rfl
  constructor
  · rintro ⟨evidence, member, kind⟩
    obtain ⟨other, otherKind, replaced⟩ := prepared.named evidence member
    have here : other = group := BattleGroup.kind_injective (otherKind.symm.trans kind)
    subst here
    obtain ⟨snapshot, found⟩ := Option.isSome_iff_exists.mp replaced
    obtain ⟨origin, -, -, -, -, value, -, made⟩ := prepared.origin other snapshot found
    refine ⟨snapshot, ?_, ?_⟩
    · rw [group_publish, found, popped, made]
      rfl
    · rw [made]
      rfl
  · intro others
    rw [group_publish]
    cases found : replacements.of group with
    | none => exact popped
    | some snapshot =>
      obtain ⟨origin, member, kind, -⟩ := prepared.origin group snapshot found
      exact absurd kind (others origin member)

theorem answersQuery {group : BattleGroup} {query : DerivedStateQueryV1}
    {snapshot : BattleSnapshot group.Value}
    (answered : (service.query (service.group group) query).2 = some snapshot) :
    AnswersQuery service group query snapshot := by
  unfold DerivedStateService.query at answered
  dsimp only at answered
  split at answered
  · rename_i valid
    rw [answered] at valid
    unfold validateQuery at valid
    split at valid
    · cases valid
    rename_i active
    split at valid
    · cases valid
    rename_i current
    simp only [Bool.or_eq_true, Bool.not_eq_true', not_or, Bool.not_eq_false] at active
    simp only [ne_eq, Bool.or_eq_true, decide_eq_true_eq, not_or, not_not] at current
    refine ⟨answered, active.1, current.1, current.2, ?_⟩
    intro fresh
    rw [fresh] at valid
    dsimp only [Option.map_some] at valid
    split at valid
    · cases valid
    rename_i same
    simp only [ne_eq, Bool.or_eq_true, Bool.not_eq_true', decide_eq_true_eq,
      not_or, Bool.not_eq_false, not_not] at same
    exact ⟨same.1, same.2.symm⟩
  · cases answered

theorem RefreshedItem.native {descriptorSha256 : ByteString}
    {memory : PausedMemory} {after : DerivedStateService}
    (refreshed : RefreshedItem descriptorSha256 memory event after)
    {hit : Hit} (same : hit.event = event) (sees : hit.memory.view = memory.view after.epoch) :
    ∃ native, after.forgotten.nativeRefresh
        (productionDerivedStateRegistry descriptorSha256) hit = (none, native) ∧
      ∀ group, native.group group = after.group group := by
  obtain ⟨planned, epoch, group, turn, value, trigger, derived, published⟩ := refreshed
  subst same
  rw [← sees] at derived
  have plannedToo : after.forgotten.cpu.activePlan =
      some ⟨after.forgotten.epoch, after.forgotten.itemId,
        battleEntries descriptorSha256⟩ := planned
  have native := nativeRefresh_of_shown plannedToo rfl epoch trigger derived
  exact ⟨_, native, fun other => (published other).symm⟩

/-- A delivery is not disturbed when no evidence of a dropped hit comes
first. -/
theorem undisturbed_of_undropped {earlier : List DerivedTransition} (transition : DerivedTransition)
    (served : serve sha256 registry transition.input transition.before =
      (transition.event, transition.after))
    (undropped : Undropped earlier transition) : Undisturbed registry earlier transition := by
  intro event memory delivers dropped record rest queued lost
  unfold Undropped at undropped
  rw [delivers] at undropped served
  have none_ : dropped = [] := by
    cases dropped with
    | nil => rfl
    | cons first others =>
      rw [queued] at undropped
      exact absurd (lost first List.mem_cons_self) (undropped first rfl)
  subst none_
  rw [List.nil_append] at queued
  have same : transition.before.popped (record :: rest) =
      transition.before := by
    unfold popped
    rw [← queued]
  dsimp only
  rw [same]
  have thrownSame : DerivedEvent.delivered
      (transition.before.onStopPoint registry memory event).1 =
        transition.event := congrArg Prod.fst served
  have afterSame : (transition.before.onStopPoint registry memory event).2 =
      transition.after := congrArg Prod.snd served
  exact ⟨thrownSame.symm, fun group => by rw [afterSame]⟩

end Runs

/-! ## Two runs -/

namespace Sample

def descriptorSha256 : ByteString := List.replicate 64 48

/-- The hashes of the configuration, of the block and of the binding. -/
def sha256 (input : ByteString) : ByteString :=
  if input.length = 0 then
    text "e3b0c44298fc1c149afbf4c8996fb92427ae41e4649b934ca495991b7852b855"
  else if input.length = 207 then
    text "5a3a03c7a64cf04fb84a096543a490532091362b93117fbb38eb0f8b467cccd9"
  else
    text "f883b1cdd14ce10a0641e202323c1f0f38877e43e1051428acb4fd509734c763"

def block : DerivedStateBlockBindingV1 where
  identity := (battleCoreDescriptor descriptorSha256).identity
  configurationSha256 := sha256 []
  contentSha256 := text "5a3a03c7a64cf04fb84a096543a490532091362b93117fbb38eb0f8b467cccd9"

def binding : WorksetDerivedStateBindingV1 where
  blocks := [block]
  contentSha256 := text "f883b1cdd14ce10a0641e202323c1f0f38877e43e1051428acb4fd509734c763"

def registry : DerivedStateRegistry := productionDerivedStateRegistry descriptorSha256

/-- A hit of `TurnIsReady` while no slot is active. -/
def hit (sequence : UInt64) : Hit where
  event :=
    { identity := { sequence := ⟨sequence⟩, worksetEpoch := ⟨1⟩ }
      evidence := { point := .pc 0x800715EC, hitPc := 0x800715EC } }
  memory :=
    { receipt := fun address size =>
        { ok := true, error := .none, address, size }
      bytes := fun _ _ => 0xFF }

def memory : PausedMemory where
  opened := ⟨1⟩
  port :=
    { isPaused := fun _ => true
      read := fun _ _ size => ⟨.success, List.replicate size 0x80⟩
      write := fun _ _ _ => (.success, ())
      invalidateExecutableRange := fun _ _ _ => (.success, ()) }

/-- An item that binds the battle block is activated. -/
def activated : List DerivedInput :=
  [.bindRouter ⟨1⟩ ⟨1⟩, .activate binding ⟨1⟩ ⟨1⟩ { routerEpoch := ⟨1⟩, memory }]

/-- The packet of the first hit is dropped before the second hit. -/
def dropped : List DerivedInput :=
  activated ++
    [.observe derivedStateObserverId (hit 1), .discard (hit 1).event.identity,
      .observe derivedStateObserverId (hit 2)]

/-- The router retains a hit of `TurnInputs`. -/
def retained : RoutedStopEvent :=
  { (hit 2).event with evidence := { point := .pc 0x80071740, hitPc := 0x80071740 } }

/-- The packet of the first hit is dropped and its item is closed.  The next
item is activated at a retained point, then a hit is delivered, and the snapshot
of the retained point is asked for. -/
def delivered : List DerivedInput :=
  activated ++
    [.observe derivedStateObserverId (hit 1), .discard (hit 1).event.identity, .close {},
      .activate binding ⟨1⟩ ⟨2⟩ { routerEpoch := ⟨1⟩, currentPoint := some retained, memory },
      .observe derivedStateObserverId (hit 3), .deliver (hit 3).event memory,
      .query .turnEntry { worksetEpoch := ⟨1⟩, itemId := ⟨2⟩ }]

/-- A query was answered with a snapshot. -/
def answers : DerivedEvent → Bool
  | .answered _ receipt snapshot => receipt.ok && snapshot.isSome
  | _ => false

end Sample

end Savor.DerivedState

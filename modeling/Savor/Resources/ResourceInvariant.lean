import Savor.Library.Relations
import Savor.Resources.SessionResourceLedger

/-!
# The tree of scopes

The scopes of the ledger form a tree, because a parent is registered before its
children.  The subtree test of the ledger decides membership in a subtree, and
closing scopes of a subtree leaves the ancestors of every open scope open.
-/

namespace Savor.Resources

open Library Library.Ancestry Program

/-- The links from the scopes to their parents. -/
def scopeLinks (scopes : List ResourceScopeReceipt) : List (ResourceScopeId × ResourceScopeId) :=
  (scopes.filter (·.parent.isSet)).map fun scope => (scope.id, scope.parent)

variable {scopes : List ResourceScopeReceipt}

theorem mem_scopeLinks {child parent : ResourceScopeId} : (child, parent) ∈ scopeLinks scopes ↔
      ∃ scope ∈ scopes, scope.id = child ∧ scope.parent = parent ∧ parent.isSet := by
  unfold scopeLinks
  rw [List.mem_map]
  constructor
  · rintro ⟨scope, member, same⟩
    rw [List.mem_filter] at member
    simp only [Prod.mk.injEq] at same
    exact ⟨scope, member.1, same.1, same.2, same.2 ▸ member.2⟩
  · rintro ⟨scope, member, rfl, rfl, set⟩
    exact ⟨scope, List.mem_filter.mpr ⟨member, set⟩, rfl⟩

theorem scopeLinks_append {scope : ResourceScopeReceipt} (set : scope.parent.isSet) :
    scopeLinks (scopes ++ [scope]) = scopeLinks scopes ++ [(scope.id, scope.parent)] := by
  simp [scopeLinks, List.filter_append, set]

/-- The scopes are numbered, and parents come before their children. -/
structure ScopeTree (scopes : List ResourceScopeReceipt) (nextScopeId : UInt64) : Prop where
  numbered : Numbered (scopes.map (·.id.value)) nextScopeId
  parents : ∀ scope ∈ scopes, scope.parent.isSet →
    ∃ parent ∈ scopes, parent.id = scope.parent ∧ parent.id.value.toNat < scope.id.value.toNat

namespace ScopeTree

variable {nextScopeId : UInt64}

theorem distinct (tree : ScopeTree scopes nextScopeId) : (scopes.map (·.id)).Nodup := by
  have values : (scopes.map (·.id)).map (·.value) = scopes.map (·.id.value) := by
    rw [List.map_map]
    rfl
  exact List.Nodup.of_map (·.value) (values ▸ tree.numbered.nodup)

theorem isSet (tree : ScopeTree scopes nextScopeId)
    {scope : ResourceScopeReceipt} (member : scope ∈ scopes) : scope.id.isSet := by
  have nonzero := tree.numbered.ne_zero (List.mem_map.mpr ⟨scope, member, rfl⟩)
  simpa [StrongId.isSet] using nonzero

theorem append (tree : ScopeTree scopes nextScopeId) (left : nextScopeId ≠ 0)
    {parent scope : ResourceScopeReceipt} (registered : parent ∈ scopes)
    (below : scope.parent = parent.id) (id : scope.id = ⟨nextScopeId⟩) :
    ScopeTree (scopes ++ [scope]) (nextScopeId + 1) where
  numbered := by
    have extended := tree.numbered.snoc (tree.numbered.short left)
    simpa [id] using extended
  parents := by
    intro other member set
    rcases List.mem_append.mp member with old | new
    · obtain ⟨above, known, same, less⟩ := tree.parents other old set
      exact ⟨above, List.mem_append_left _ known, same, less⟩
    rw [List.mem_singleton] at new
    subst new
    refine ⟨parent, List.mem_append_left _ registered, below.symm, ?_⟩
    have bound := tree.numbered.toNat_le (List.mem_map.mpr ⟨parent, registered, rfl⟩)
    have next := tree.numbered.next_toNat (tree.numbered.short left)
    rw [id]
    show parent.id.value.toNat < nextScopeId.toNat
    omega

end ScopeTree

namespace SessionResourceLedger

variable {ledger : SessionResourceLedger}

section

variable (tree : ScopeTree ledger.scopes ledger.nextScopeId)
include tree

theorem parentOf_eq_iff {child parent : ResourceScopeId} (set : parent.isSet) :
    ledger.parentOf child = parent ↔ (child, parent) ∈ scopeLinks ledger.scopes := by
  rw [mem_scopeLinks]
  unfold parentOf findScope
  constructor
  · intro found
    cases looked : Keyed.lookup (·.id) ledger.scopes child with
    | none =>
      rw [looked] at found
      subst found
      cases set
    | some scope =>
      rw [looked] at found
      exact ⟨scope, Keyed.mem_of_lookup looked, Keyed.key_of_lookup looked, found, set⟩
  · rintro ⟨scope, member, rfl, above, -⟩
    rw [Keyed.lookup_key tree.distinct member]
    exact above

theorem parentOf_earlier {child : ResourceScopeId} (set : (ledger.parentOf child).isSet) :
    (ledger.parentOf child).value.toNat < child.value.toNat ∧
      (ledger.parentOf child).value.toNat ≤ ledger.scopes.length := by
  obtain ⟨scope, member, named, above, -⟩ := mem_scopeLinks.mp ((parentOf_eq_iff tree set).mp rfl)
  have parentSet : scope.parent.isSet := above ▸ set
  obtain ⟨parent, registered, same, less⟩ := tree.parents scope member parentSet
  have bound := tree.numbered.toNat_le (List.mem_map.mpr ⟨parent, registered, rfl⟩)
  rw [← above, ← same, ← named]
  simp only [List.length_map] at bound
  exact ⟨less, bound⟩

/-- The loop climbs the links. -/
theorem ancestorFrom_iff {ancestor cursor : ResourceScopeId} {fuel : Nat}
    (proper : ancestor.isSet) (enough : cursor.value.toNat < fuel) :
    ledger.ancestorFrom ancestor fuel cursor = true ↔
      Within (scopeLinks ledger.scopes) cursor ancestor := by
  induction fuel generalizing cursor with
  | zero => omega
  | succ fuel ih =>
    unfold ancestorFrom
    by_cases set : cursor.isSet
    · rw [set, if_neg (by simp)]
      by_cases here : cursor = ancestor
      · subst here
        simp [Within.refl]
      rw [if_neg here]
      by_cases above : (ledger.parentOf cursor).isSet
      · have earlier := (parentOf_earlier tree above).1
        rw [ih (by omega)]
        constructor
        · exact Within.head ((parentOf_eq_iff tree above).mp rfl)
        intro within
        rcases within.cases with same | ⟨parent, link, rest⟩
        · exact absurd same here
        · obtain ⟨_, _, _, _, parentSet⟩ := mem_scopeLinks.mp link
          rwa [(parentOf_eq_iff tree parentSet).mpr link]
      · have stops : ledger.ancestorFrom ancestor fuel
            (ledger.parentOf cursor) = false := by
          cases fuel with
          | zero => rfl
          | succ fuel =>
            unfold ancestorFrom
            rw [if_pos (by simpa using above)]
        rw [stops]
        constructor
        · intro impossible
          cases impossible
        intro within
        rcases within.cases with same | ⟨parent, link, -⟩
        · exact absurd same here
        obtain ⟨_, _, _, _, parentSet⟩ := mem_scopeLinks.mp link
        rw [(parentOf_eq_iff tree parentSet).mpr link] at above
        exact absurd parentSet above
    · rw [if_pos (by simpa using set)]
      constructor
      · intro impossible
        cases impossible
      intro within
      rcases within.cases with rfl | ⟨parent, link, -⟩
      · exact absurd proper set
      · obtain ⟨scope, member, rfl, -, -⟩ := mem_scopeLinks.mp link
        exact absurd (tree.isSet member) set

/-- `IsInScopeSubtree` decides membership in the subtree. -/
theorem isInScopeSubtree_iff {candidate root : ResourceScopeId} :
    ledger.isInScopeSubtree candidate root = true ↔
      Within (scopeLinks ledger.scopes) candidate root := by
  unfold isInScopeSubtree isAncestor
  by_cases same : candidate = root
  · subst same
    simp [Within.refl]
  rw [decide_eq_false same, Bool.false_or]
  have linked : Within (scopeLinks ledger.scopes) candidate root →
      root.isSet ∧ candidate.isSet := by
    intro within
    constructor
    · refine (within.inherit (fun scope => scope = candidate ∨ scope.isSet) ?_
        (.inl rfl)).resolve_left fun back => same back.symm
      intro child parent link _
      obtain ⟨_, _, _, _, set⟩ := mem_scopeLinks.mp link
      exact .inr set
    rcases within.cases with equal | ⟨parent, link, -⟩
    · exact absurd equal same
    · obtain ⟨scope, member, rfl, -, -⟩ := mem_scopeLinks.mp link
      exact tree.isSet member
  by_cases guard : (!root.isSet || !candidate.isSet || decide (root = candidate)) = true
  · rw [if_pos guard]
    constructor
    · intro impossible
      cases impossible
    intro within
    obtain ⟨rootSet, candidateSet⟩ := linked within
    have different : root ≠ candidate := fun back => same back.symm
    simp [rootSet, candidateSet, different] at guard
  rw [if_neg guard]
  simp only [Bool.not_eq_true, Bool.or_eq_false_iff, Bool.not_eq_false',
    decide_eq_false_iff_not] at guard
  have head : Within (scopeLinks ledger.scopes) candidate root →
      Within (scopeLinks ledger.scopes) (ledger.parentOf candidate) root := by
    intro within
    rcases within.cases with equal | ⟨parent, link, rest⟩
    · exact absurd equal same
    · obtain ⟨_, _, _, _, set⟩ := mem_scopeLinks.mp link
      rwa [(parentOf_eq_iff tree set).mpr link]
  by_cases above : (ledger.parentOf candidate).isSet
  · have bound := (parentOf_earlier tree above).2
    rw [ancestorFrom_iff tree guard.1.1 (by omega)]
    exact ⟨Within.head ((parentOf_eq_iff tree above).mp rfl), head⟩
  have zero : (ledger.parentOf candidate).value.toNat = 0 := by
    have unset : (ledger.parentOf candidate).value = 0 := by simpa [StrongId.isSet] using above
    rw [unset, UInt64.toNat_zero]
  rw [ancestorFrom_iff tree guard.1.1 (by omega)]
  constructor
  · intro within
    rcases within.cases with equal | ⟨parent, link, -⟩
    · rw [equal] at above
      exact absurd guard.1.1 above
    · obtain ⟨scope, member, named, -, -⟩ := mem_scopeLinks.mp link
      exact absurd (named ▸ tree.isSet member) above
  · exact head

end

end SessionResourceLedger

/-!
## The invariant of the resource ledger

Between two operations the ancestors of open scopes are open, closed scopes own
no live resource, live resources are registered once, and a taint stops the
acceptance.
-/

variable {definitions : List ResourceAcquisitionDefinition}

/-- Two receipts are for one resource of a service. -/
def ResourceReceipt.SameResource (left right : ResourceReceipt) : Prop :=
  left.service = right.service ∧ left.release = right.release

/-- The invariant between operations, and during an unwind. -/
structure ResourceInvariant (ledger : SessionResourceLedger) : Prop where
  tree : ScopeTree ledger.scopes ledger.nextScopeId
  scopesLeft : ledger.nextScopeId ≠ 0
  resourceIds : Numbered (ledger.resources.map (·.id.value)) ledger.nextResourceId
  resourcesLeft : ledger.nextResourceId ≠ 0
  sequences : Numbered (ledger.resources.map (·.sequence.value)) ledger.nextSequence
  sequencesLeft : ledger.nextSequence ≠ 0
  owned : ∀ resource ∈ ledger.resources, ∃ scope ∈ ledger.scopes, scope.id = resource.scope
  openParents : ∀ scope ∈ ledger.scopes, scope.opened →
    ∀ parent ∈ ledger.scopes, parent.id = scope.parent → parent.opened
  closedEmpty : ledger.state ≠ .closed →
    ∀ scope ∈ ledger.scopes, ¬scope.opened →
      ∀ resource ∈ ledger.resources, resource.status.isLive →
        ¬Within (scopeLinks ledger.scopes) resource.scope scope.id
  uniqueLive : ledger.resources.Pairwise fun earlier later =>
    earlier.status.isLive → later.status.isLive → ¬earlier.SameResource later
  suspended : ledger.state = .unwinding ↔ ledger.pendingUnwind.isSome
  tainted : ledger.disposition = .taintRequired → ledger.state ≠ .accepting
  blank : ledger.state = .uninitialized → ledger.scopes = [] ∧
    ledger.resources = [] ∧ ledger.disposition = .clean ∧ ledger.nextScopeId = 1

namespace SessionResourceLedger

variable {ledger : SessionResourceLedger}

theorem validateAcquisition_ok {scope : ResourceScopeId} {found : ResourceScopeReceipt}
    (validated : ledger.validateAcquisition scope = .ok found) :
    ledger.state = .accepting ∧ found ∈ ledger.scopes ∧ found.id = scope ∧ found.opened := by
  unfold validateAcquisition validateAccepting at validated
  by_cases accepting : ledger.state = .accepting
  · rw [if_pos accepting] at validated
    unfold validateScopeForAcquisition at validated
    simp only at validated
    iterate 2 (split at validated; · cases validated)
    rename_i scope looked
    split at validated
    · cases validated
    rename_i opened
    cases validated
    exact ⟨accepting, Keyed.mem_of_lookup looked, Keyed.key_of_lookup looked, by simpa using opened⟩
  · rw [if_neg accepting] at validated
    split at validated
    · cases validated
    · rename_i impossible
      split at impossible <;> cases impossible

end SessionResourceLedger

namespace ResourceInvariant

variable {ledger : SessionResourceLedger}

theorem new (ownerThread : ThreadId) : ResourceInvariant (.new ownerThread) where
  tree := ⟨.nil, by
    intro scope member
    cases member⟩
  scopesLeft := by simp [SessionResourceLedger.new]
  resourceIds := .nil
  resourcesLeft := by simp [SessionResourceLedger.new]
  sequences := .nil
  sequencesLeft := by simp [SessionResourceLedger.new]
  owned := by
    intro resource member
    cases member
  openParents := by
    intro scope member
    cases member
  closedEmpty := by
    intro _ scope member
    cases member
  uniqueLive := .nil
  suspended := by simp [SessionResourceLedger.new]
  tainted := by simp [SessionResourceLedger.new]
  blank := by simp [SessionResourceLedger.new]

/-- Resources have different ids. -/
theorem distinct (invariant : ResourceInvariant ledger) : (ledger.resources.map (·.id)).Nodup := by
  have values : (ledger.resources.map (·.id)).map (·.value) =
      ledger.resources.map (·.id.value) := by
    rw [List.map_map]
    rfl
  exact List.Nodup.of_map (·.value) (values ▸ invariant.resourceIds.nodup)

theorem open_above (invariant : ResourceInvariant ledger)
    {inner outer : ResourceScopeReceipt} (member : inner ∈ ledger.scopes)
    (member' : outer ∈ ledger.scopes) (opened : inner.opened)
    (within : Within (scopeLinks ledger.scopes) inner.id outer.id) : outer.opened := by
  have unique {left right : ResourceScopeReceipt}
      (known : left ∈ ledger.scopes) (known' : right ∈ ledger.scopes)
      (same : left.id = right.id) : left = right :=
    List.inj_on_of_nodup_map invariant.tree.distinct known known' same
  refine within.inherit (fun id => ∀ scope ∈ ledger.scopes, scope.id = id →
    scope.opened) ?_ ?_ outer member' rfl
  · intro child parent link above scope known named
    obtain ⟨below, registered, belowNamed, linked, -⟩ := mem_scopeLinks.mp link
    exact invariant.openParents below registered
      (above below registered belowNamed) scope known (named.trans linked.symm)
  · intro scope known named
    rwa [unique known member named]

/-! ## Scopes and resources -/

/-- The root scope of a session. -/
theorem initializeSession (invariant : ResourceInvariant ledger)
    (session : SessionId) (epoch : WorksetEpoch) (owner : ResourceOwnerId) :
    ResourceInvariant (ledger.initializeSession session epoch owner).2 := by
  unfold SessionResourceLedger.initializeSession
  split
  · exact invariant
  split
  · exact invariant
  rename_i uninitialized _
  obtain ⟨-, resources, -, next⟩ := invariant.blank (not_ne_iff.mp uninitialized)
  have pending := invariant.suspended
  rw [not_ne_iff.mp uninitialized] at pending
  refine { invariant with
    tree := ⟨?_, ?_⟩, scopesLeft := ?_, owned := ?_, openParents := ?_,
    closedEmpty := ?_, suspended := ?_, tainted := ?_, blank := ?_ }
  · rw [next]
    exact Numbered.nil.snoc (by decide)
  · intro scope member set
    rw [List.mem_singleton] at member
    subst member
    cases set
  · simp [next]
  · rw [resources]
    intro resource member
    cases member
  · intro scope _ _ parent member _
    rw [List.mem_singleton] at member
    subst member
    rfl
  · intro _ scope member closed
    rw [List.mem_singleton] at member
    subst member
    exact absurd rfl closed
  · simpa using pending
  · simp
  · simp

theorem openSyntheticScope (invariant : ResourceInvariant ledger)
    (parent : ResourceScopeId) (owner : ResourceOwnerId) (label : ByteString) :
    ResourceInvariant (ledger.openSyntheticScope parent owner label).2 := by
  unfold SessionResourceLedger.openSyntheticScope
  split
  · exact invariant
  rename_i found validated
  split
  · exact invariant
  split
  · exact invariant
  rename_i room
  obtain ⟨accepting, registered, rfl, opened⟩ :=
    SessionResourceLedger.validateAcquisition_ok validated
  have set := invariant.tree.isSet registered
  have new : ∀ scope ∈ ledger.scopes,
      scope.id ≠ (⟨ledger.nextScopeId⟩ : ResourceScopeId) := by
    intro scope member same
    apply invariant.tree.numbered.fresh invariant.scopesLeft
    exact List.mem_map.mpr ⟨scope, member, by rw [same]⟩
  have unlinked : ∀ child,
      (child, (⟨ledger.nextScopeId⟩ : ResourceScopeId)) ∉ scopeLinks ledger.scopes := by
    intro child link
    obtain ⟨scope, member, -, above, proper⟩ := mem_scopeLinks.mp link
    obtain ⟨outer, known, same, -⟩ := invariant.tree.parents scope member (above ▸ proper)
    exact new outer known (same.trans above)
  refine { invariant with
    tree := invariant.tree.append invariant.scopesLeft registered rfl rfl
    scopesLeft := ?_, owned := ?_, openParents := ?_, closedEmpty := ?_,
    blank := ?_ }
  · intro wrapped
    apply room
    have before : ledger.nextScopeId = 0 - 1 := by
      rw [← wrapped]
      exact (UInt64.add_sub_cancel _ _).symm
    exact before
  · intro resource member
    obtain ⟨scope, known, named⟩ := invariant.owned resource member
    exact ⟨scope, List.mem_append_left _ known, named⟩
  · intro scope member scopeOpened outer known above
    rcases List.mem_append.mp known with oldOuter | newOuter
    · rcases List.mem_append.mp member with old | fresh
      · exact invariant.openParents scope old scopeOpened outer oldOuter above
      rw [List.mem_singleton] at fresh
      subst fresh
      rwa [List.inj_on_of_nodup_map invariant.tree.distinct oldOuter registered above]
    rw [List.mem_singleton] at newOuter
    subst newOuter
    rfl
  · intro _ scope member closed resource known live within
    rcases List.mem_append.mp member with old | fresh
    · rw [scopeLinks_append, within_append_leaf unlinked] at within
      · exact invariant.closedEmpty (by simp [accepting]) scope old closed
          resource known live within
      · obtain ⟨home, homeKnown, named⟩ := invariant.owned resource known
        rw [← named]
        exact new home homeKnown
      · exact set
    rw [List.mem_singleton] at fresh
    subst fresh
    exact absurd rfl closed
  · simp [accepting]

theorem sameResource_pairwise {receipts : List ResourceReceipt}
    (same : receipts.map (fun receipt => (receipt.service, receipt.release)) =
      definitions.map fun definition => (definition.service, definition.release))
    (distinct : (definitions.map fun definition =>
      (definition.service, definition.release)).Nodup) :
    receipts.Pairwise fun earlier later => ¬earlier.SameResource later := by
  rw [← same, List.Nodup, List.pairwise_map] at distinct
  refine distinct.imp fun {earlier later} different alike => different ?_
  exact Prod.ext alike.1 alike.2

theorem receiptsFrom_numbered (ledger : SessionResourceLedger) (scope : ResourceScopeId)
    {ids sequences : List UInt64} {id sequence : UInt64} (idsNumbered : Numbered ids id)
    (sequencesNumbered : Numbered sequences sequence)
    (idsShort : ids.length + definitions.length + 1 < 2 ^ 64)
    (sequencesShort : sequences.length + definitions.length + 1 < 2 ^ 64) :
    Numbered (ids ++ (ledger.receiptsFrom scope id sequence definitions).map
        (·.id.value)) (id + UInt64.ofNat definitions.length) ∧ Numbered (sequences ++
          (ledger.receiptsFrom scope id sequence definitions).map (·.sequence.value))
        (sequence + UInt64.ofNat definitions.length) := by
  induction definitions generalizing ids sequences id sequence with
  | nil => simpa [SessionResourceLedger.receiptsFrom] using And.intro idsNumbered sequencesNumbered
  | cons definition later ih =>
    rw [List.length_cons] at idsShort sequencesShort
    have advance (number : UInt64) :
        number + UInt64.ofNat (later.length + 1) = number + 1 + UInt64.ofNat later.length := by
      rw [UInt64.ofNat_add, UInt64.add_comm (UInt64.ofNat later.length), ← UInt64.add_assoc]
      rfl
    have rest := ih
      (idsNumbered.snoc (by omega)) (sequencesNumbered.snoc (by omega))
      (by simp only [List.length_append, List.length_singleton]; omega)
      (by simp only [List.length_append, List.length_singleton]; omega)
    rw [List.length_cons, advance, advance]
    simpa [SessionResourceLedger.receiptsFrom] using rest

theorem receiptsFrom_forall (ledger : SessionResourceLedger)
    (scope : ResourceScopeId) (definitions : List ResourceAcquisitionDefinition)
    (id sequence : UInt64) : ((ledger.receiptsFrom scope id sequence definitions).map fun receipt =>
      (receipt.service, receipt.release)) =
        (definitions.map fun definition => (definition.service, definition.release)) ∧
      ∀ receipt ∈ ledger.receiptsFrom scope id sequence definitions,
        receipt.scope = scope ∧ receipt.status = .active := by
  induction definitions generalizing id sequence with
  | nil => simp [SessionResourceLedger.receiptsFrom]
  | cons definition later ih =>
    obtain ⟨same, all⟩ := ih (id + 1) (sequence + 1)
    constructor
    · simp [SessionResourceLedger.receiptsFrom, same]
    intro receipt member
    rcases List.mem_cons.mp member with rfl | rest
    · exact ⟨rfl, rfl⟩
    · exact all receipt rest

/-- An accepted batch names no resource twice and none that is live. -/
theorem validateDefinitions_ok {owningScope : ResourceScopeReceipt}
    {earlier : List ResourceAcquisitionDefinition} (validated :
      ledger.validateDefinitions owningScope earlier definitions = .ok ()) :
    (definitions.map fun definition =>
        (definition.service, definition.release)).Nodup ∧ ∀ definition ∈ definitions,
        (∀ existing ∈ ledger.resources, existing.status.isLive →
          ¬(existing.service = definition.service ∧ existing.release = definition.release)) ∧
        ∀ other ∈ earlier, ¬(other.service = definition.service ∧
          other.release = definition.release) := by
  induction definitions generalizing earlier with
  | nil => simp
  | cons definition later ih =>
    unfold SessionResourceLedger.validateDefinitions at validated
    iterate 4 (split at validated; · cases validated)
    rename_i registered repeated
    obtain ⟨distinct, apart⟩ := ih validated
    simp only [ResourceAcquisitionDefinition.sameIdentity, List.any_eq_true,
      Bool.and_eq_true, decide_eq_true_eq, not_exists, not_and] at registered repeated
    refine ⟨?_, ?_⟩
    · rw [List.map_cons, List.nodup_cons]
      refine ⟨?_, distinct⟩
      intro member
      obtain ⟨other, known, same⟩ := List.mem_map.mp member
      simp only [Prod.mk.injEq] at same
      exact (apart other known).2 definition (by simp) ⟨same.1.symm, same.2.symm⟩
    intro other member
    rcases List.mem_cons.mp member with rfl | rest
    · exact ⟨fun existing known live alike =>
        registered existing known live alike.1 alike.2,
        fun prior known alike => repeated prior known alike.1 alike.2⟩
    refine ⟨(apart other rest).1, ?_⟩
    intro prior known
    exact (apart other rest).2 prior (List.mem_append_left _ known)

theorem acquire (invariant : ResourceInvariant ledger) (scope : ResourceScopeId)
    (definitions : List ResourceAcquisitionDefinition) :
    ResourceInvariant (ledger.acquire scope definitions).2 := by
  unfold SessionResourceLedger.acquire
  split
  · exact invariant
  rename_i found validated
  split
  · exact invariant
  split
  · exact invariant
  rename_i room
  split
  · exact invariant
  rename_i checked
  obtain ⟨accepting, registered, rfl, opened⟩ :=
    SessionResourceLedger.validateAcquisition_ok validated
  obtain ⟨distinct, apart⟩ := validateDefinitions_ok checked
  obtain ⟨same, all⟩ := receiptsFrom_forall ledger found.id definitions
    ledger.nextResourceId ledger.nextSequence
  have short {numbers : List UInt64} {next : UInt64}
      (numbered : Numbered numbers next) (left : next ≠ 0)
      (enough : ¬(SessionResourceLedger.maximum - next).toNat < definitions.length) :
      numbers.length + definitions.length + 1 < 2 ^ 64 := by
    have number := numbered.next_toNat (numbered.short left)
    have largest : next ≤ SessionResourceLedger.maximum := by
      rw [UInt64.le_iff_toNat_le]
      have bound := next.toNat_lt
      show next.toNat ≤ 2 ^ 64 - 1
      omega
    rw [UInt64.toNat_sub_of_le _ _ largest] at enough
    have whole : SessionResourceLedger.maximum.toNat = 2 ^ 64 - 1 := rfl
    have bound := next.toNat_lt
    omega
  obtain ⟨idsEnough, sequencesEnough⟩ := not_or.mp room
  have idsShort := short invariant.resourceIds invariant.resourcesLeft idsEnough
  have sequencesShort := short invariant.sequences invariant.sequencesLeft sequencesEnough
  obtain ⟨ids, sequences⟩ := receiptsFrom_numbered ledger found.id
    invariant.resourceIds invariant.sequences idsShort sequencesShort
  have lengths : (ledger.receiptsFrom found.id ledger.nextResourceId
      ledger.nextSequence definitions).length = definitions.length := by
    have counted := congrArg List.length same
    simpa using counted
  refine { invariant with
    resourceIds := ?_, resourcesLeft := ?_, sequences := ?_,
    sequencesLeft := ?_, owned := ?_, closedEmpty := ?_, uniqueLive := ?_,
    blank := ?_ }
  · simpa using ids
  · apply ids.next_ne_zero
    simp only [List.length_append, List.length_map, lengths] at idsShort ⊢
    exact idsShort
  · simpa using sequences
  · apply sequences.next_ne_zero
    simp only [List.length_append, List.length_map, lengths] at sequencesShort ⊢
    exact sequencesShort
  · intro resource member
    rcases List.mem_append.mp member with old | new
    · exact invariant.owned resource old
    · exact ⟨found, registered, (all resource new).1.symm⟩
  · intro state scope member closed resource known live within
    rcases List.mem_append.mp known with old | new
    · exact invariant.closedEmpty state scope member closed resource old live within
    · rw [(all resource new).1] at within
      exact closed (invariant.open_above registered member opened within)
  · refine List.pairwise_append.mpr ⟨invariant.uniqueLive, ?_, ?_⟩
    · exact (sameResource_pairwise same distinct).imp fun different _ _ => different
    intro existing old receipt new live _ alike
    have key : (receipt.service, receipt.release) ∈
        definitions.map fun definition => (definition.service, definition.release) :=
      same ▸ List.mem_map.mpr ⟨receipt, new, rfl⟩
    obtain ⟨definition, known, keys⟩ := List.mem_map.mp key
    simp only [Prod.mk.injEq] at keys
    exact (apart definition known).1 existing old live
      ⟨alike.1.trans keys.1.symm, alike.2.trans keys.2.symm⟩
  · simp [accepting]

theorem changeResources (invariant : ResourceInvariant ledger)
    (change : ResourceReceipt → ResourceReceipt)
    (ids : ∀ resource, (change resource).id = resource.id)
    (sequences : ∀ resource, (change resource).sequence = resource.sequence)
    (keeps : ∀ resource, (change resource).service = resource.service ∧
      (change resource).release = resource.release)
    (live : ∀ resource ∈ ledger.resources, (change resource).status.isLive → resource.status.isLive)
    (scopes : ∀ resource, (change resource).scope = resource.scope ∨
      ∃ scope ∈ ledger.scopes, scope.id = (change resource).scope ∧ scope.opened)
    (initialized : ledger.state ≠ .uninitialized) : ResourceInvariant
      { ledger with resources := ledger.resources.map change } := by
  refine { invariant with
    resourceIds := ?_, sequences := ?_, owned := ?_, closedEmpty := ?_,
    uniqueLive := ?_, blank := fun state => absurd state initialized }
  · simpa [List.map_map, Function.comp_def, ids] using invariant.resourceIds
  · simpa [List.map_map, Function.comp_def, sequences] using invariant.sequences
  · intro resource member
    obtain ⟨before, known, rfl⟩ := List.mem_map.mp member
    rcases scopes before with same | ⟨scope, registered, named, -⟩
    · rw [same]
      exact invariant.owned before known
    · exact ⟨scope, registered, named⟩
  · intro state scope member closed resource known alive within
    obtain ⟨before, old, rfl⟩ := List.mem_map.mp known
    rcases scopes before with same | ⟨home, registered, named, opened⟩
    · rw [same] at within
      exact invariant.closedEmpty state scope member closed before old
        (live before old alive) within
    · rw [← named] at within
      exact closed (invariant.open_above registered member opened within)
  rw [List.pairwise_map]
  refine invariant.uniqueLive.imp_of_mem ?_
  intro earlier later known known' different alive alive' alike
  apply different (live earlier known alive) (live later known' alive')
  exact ⟨(keeps earlier).1 ▸ (keeps later).1 ▸ alike.1,
    (keeps earlier).2 ▸ (keeps later).2 ▸ alike.2⟩

theorem promote (invariant : ResourceInvariant ledger)
    (resource : ResourceReceiptId) (destination : ResourceScopeId) :
    ResourceInvariant (ledger.promote resource destination).2 := by
  unfold SessionResourceLedger.promote
  split
  · exact invariant
  rename_i scope validated
  split
  · exact invariant
  rename_i found looked
  obtain ⟨accepting, registered, rfl, opened⟩ :=
    SessionResourceLedger.validateAcquisition_ok validated
  simp only
  split
  · exact invariant
  split
  · exact invariant
  split
  · exact invariant
  split
  · exact invariant
  split
  · exact invariant
  split
  · exact invariant
  simp only
  rw [Keyed.update_eq_map invariant.distinct]
  apply invariant.changeResources
  · intro other
    split <;> rfl
  · intro other
    split <;> rfl
  · intro other
    split <;> exact ⟨rfl, rfl⟩
  · intro other _ alive
    split at alive <;> exact alive
  · intro other
    split
    · exact .inr ⟨scope, registered, rfl, opened⟩
    · exact .inl rfl
  · simp [accepting]

end ResourceInvariant
end Savor.Resources


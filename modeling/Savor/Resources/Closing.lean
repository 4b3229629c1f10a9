import Savor.Resources.ResourceInvariant

/-!
# Unwinding scopes

What an unwind asks for and what its loop does, and how the scopes of its
subtree close at the end.
-/

namespace Savor.Resources

open Library Library.Ancestry Program

/-!
## Closing scopes

At the end of an unwind the scopes of a subtree close, except those that still
own a live resource and, with them, their ancestors.
-/

/-- A scope stays open only if `keep` selects it. -/
def ResourceScopeReceipt.keepOpen (keep : ResourceScopeId → Bool) (scope : ResourceScopeReceipt) :
    ResourceScopeReceipt :=
  { scope with opened := scope.opened && keep scope.id }

namespace SessionResourceLedger

variable {ledger : SessionResourceLedger} {keep : ResourceScopeId → Bool}

/-- Some live resource is in the subtree of a scope. -/
def owns (ledger : SessionResourceLedger) (id : ResourceScopeId) : Bool :=
  ledger.resources.any fun resource =>
    resource.status.isLive && ledger.isInScopeSubtree resource.scope id

theorem owns_iff (tree : ScopeTree ledger.scopes ledger.nextScopeId) {id : ResourceScopeId} :
    ledger.owns id = true ↔ ∃ resource ∈ ledger.resources,
      resource.status.isLive ∧ Within (scopeLinks ledger.scopes) resource.scope id := by
  simp only [owns, List.any_eq_true, Bool.and_eq_true, isInScopeSubtree_iff tree]

/-- Close the scopes that `keep` does not select. -/
def closing (keep : ResourceScopeId → Bool) (ledger : SessionResourceLedger) :
    SessionResourceLedger :=
  { ledger with scopes := ledger.scopes.map (.keepOpen keep) }

theorem scopeLinks_closing :
    scopeLinks (ledger.closing keep).scopes = scopeLinks ledger.scopes := by
  simp [scopeLinks, closing, List.filter_map, Function.comp_def, ResourceScopeReceipt.keepOpen]

theorem tree_closing (tree : ScopeTree ledger.scopes ledger.nextScopeId) :
    ScopeTree (ledger.closing keep).scopes (ledger.closing keep).nextScopeId where
  numbered := by
    have numbered := tree.numbered
    simpa [closing, List.map_map, Function.comp_def, ResourceScopeReceipt.keepOpen] using numbered
  parents := by
    intro scope member set
    obtain ⟨before, known, rfl⟩ := List.mem_map.mp member
    obtain ⟨parent, registered, same, less⟩ := tree.parents before known set
    exact ⟨parent.keepOpen keep, List.mem_map_of_mem registered, same, less⟩

theorem owns_closing (tree : ScopeTree ledger.scopes ledger.nextScopeId) {id : ResourceScopeId} :
    (ledger.closing keep).owns id = ledger.owns id := by
  rw [Bool.eq_iff_iff, owns_iff tree, owns_iff (tree_closing tree), scopeLinks_closing]
  rfl

theorem closing_closing (keep' : ResourceScopeId → Bool) : (ledger.closing keep).closing keep' =
      ledger.closing fun id => keep id && keep' id := by
  simp [closing, List.map_map, Function.comp_def, ResourceScopeReceipt.keepOpen, Bool.and_assoc]

theorem closing_true : (ledger.closing fun _ => true) = ledger := by
  have unchanged : ledger.scopes.map (.keepOpen fun _ => true) =
      ledger.scopes := by
    rw [show ResourceScopeReceipt.keepOpen (fun _ => true) = id by
      funext scope
      simp [ResourceScopeReceipt.keepOpen], List.map_id]
  rw [closing, unchanged]

theorem closeUnlessOwning_eq (tree : ScopeTree ledger.scopes ledger.nextScopeId)
    (shutdown : Bool) (id : ResourceScopeId) :
    closeUnlessOwning shutdown ledger id = ledger.closing fun other =>
      !(other = id && (shutdown || !ledger.owns other)) := by
  unfold closeUnlessOwning
  simp only
  split
  · rename_i holds
    rw [Bool.and_eq_true, Bool.not_eq_true'] at holds
    have kept : (fun other : ResourceScopeId =>
        !(other = id && (shutdown || !ledger.owns other))) = fun _ => true := by
      funext other
      by_cases here : other = id
      · have owned : ledger.owns id = true := holds.1
        simp [here, owned, holds.2]
      · simp [here]
    rw [kept, closing_true]
  · rename_i released
    have closes : (shutdown || !ledger.owns id) = true := by
      have owned : ¬(ledger.owns id && !shutdown) = true := released
      cases shutdown <;> simp_all
    rw [Keyed.update_eq_map tree.distinct, closing]
    congr 1
    apply List.map_congr_left
    intro scope _
    by_cases here : scope.id = id
    · rw [if_pos here]
      simp [ResourceScopeReceipt.keepOpen, here, closes]
    · rw [if_neg here]
      simp [ResourceScopeReceipt.keepOpen, here]

theorem foldl_closeUnlessOwning
    (tree : ScopeTree ledger.scopes ledger.nextScopeId) (shutdown : Bool)
    (ids : List ResourceScopeId) : ids.foldl (closeUnlessOwning shutdown) ledger =
      ledger.closing fun other => !(decide (other ∈ ids) && (shutdown || !ledger.owns other)) := by
  induction ids generalizing ledger with
  | nil => simp [closing_true]
  | cons id rest ih =>
    rw [List.foldl_cons, closeUnlessOwning_eq tree, ih (tree_closing tree), closing_closing]
    congr 1
    funext other
    have listed : decide (other ∈ id :: rest) =
        (decide (other = id) || decide (other ∈ rest)) := by
      simp [List.mem_cons]
    rw [owns_closing tree, listed]
    cases decide (other = id) <;> cases decide (other ∈ rest) <;>
      cases shutdown <;> cases ledger.owns other <;> rfl

end SessionResourceLedger

/-- What an unwind may close: with a scope, every open scope below it. -/
structure PendingUnwind.Closes (pending : PendingUnwind) (scopes : List ResourceScopeReceipt) :
    Prop where
  below : ∀ scope ∈ scopes, scope.opened →
    scope.parent ∈ pending.scopesToClose → scope.id ∈ pending.scopesToClose
  notUnwinding : pending.completionState ≠ .unwinding
  initialized : pending.completionState ≠ .uninitialized

/-- The end of an unwind keeps the invariant. -/
theorem ResourceInvariant.finish {ledger : SessionResourceLedger}
    (invariant : ResourceInvariant ledger) {pending : PendingUnwind}
    (closes : pending.Closes ledger.scopes) (unwinding : ledger.state = .unwinding) :
    ResourceInvariant (ledger.finishPendingUnwind pending) := by
  have tree := invariant.tree
  unfold SessionResourceLedger.finishPendingUnwind
  rw [SessionResourceLedger.foldl_closeUnlessOwning tree]
  generalize shuts : (fun other =>
    !(decide (other ∈ pending.scopesToClose) && (pending.shutdown || !ledger.owns other))) = keep
  have closed {scope : ResourceScopeReceipt}
      (still : ¬(scope.keepOpen keep).opened) :
      ¬scope.opened ∨ scope.id ∈ pending.scopesToClose ∧
        (pending.shutdown ∨ ¬ledger.owns scope.id) := by
    rw [ResourceScopeReceipt.keepOpen, ← shuts] at still
    by_cases opened : scope.opened
    · right
      simpa [opened, or_iff_not_imp_left] using still
    · exact .inl opened
  have opened {scope : ResourceScopeReceipt}
      (still : (scope.keepOpen keep).opened) :
      scope.opened ∧ ¬(scope.id ∈ pending.scopesToClose ∧
        (pending.shutdown ∨ ¬ledger.owns scope.id)) := by
    rw [ResourceScopeReceipt.keepOpen, ← shuts] at still
    simpa [imp_iff_not_or] using still
  have closedTree : ScopeTree (ledger.closing keep).scopes
      (ledger.closing keep).nextScopeId :=
    SessionResourceLedger.tree_closing tree
  refine { invariant with
    tree := closedTree, owned := ?_, openParents := ?_, closedEmpty := ?_,
    suspended := ?_, tainted := ?_, blank := ?_ }
  · intro resource member
    obtain ⟨scope, registered, named⟩ := invariant.owned resource member
    exact ⟨scope.keepOpen keep, List.mem_map_of_mem registered, named⟩
  · intro scope member stillOpen parent member' above
    obtain ⟨inner, registered, rfl⟩ := List.mem_map.mp member
    obtain ⟨outer, registered', rfl⟩ := List.mem_map.mp member'
    have linked : outer.id = inner.parent := above
    obtain ⟨innerOpen, stays⟩ := opened stillOpen
    have outerOpen := invariant.openParents inner registered innerOpen outer registered' linked
    -- a parent closes only if all its open children do
    by_contra outerCloses
    rcases closed outerCloses with shut | ⟨listed, releases⟩
    · exact shut outerOpen
    apply stays
    refine ⟨closes.below inner registered innerOpen (linked ▸ listed), ?_⟩
    refine releases.imp id ?_
    intro ownsNothing owns
    apply ownsNothing
    obtain ⟨resource, known, live, within⟩ := (SessionResourceLedger.owns_iff tree).mp owns
    rw [SessionResourceLedger.owns_iff tree]
    refine ⟨resource, known, live, within.trans ?_⟩
    apply Within.head _ Within.refl
    exact mem_scopeLinks.mpr ⟨inner, registered, rfl, linked.symm, tree.isSet registered'⟩
  · intro state scope member stillClosed resource known live within
    obtain ⟨before, registered, rfl⟩ := List.mem_map.mp member
    have links : scopeLinks (ledger.closing keep).scopes =
        scopeLinks ledger.scopes := SessionResourceLedger.scopeLinks_closing
    have below : Within (scopeLinks ledger.scopes) resource.scope before.id := links ▸ within
    rcases closed stillClosed with shut | ⟨-, down | ownsNothing⟩
    · exact invariant.closedEmpty (by simp [unwinding]) before registered shut
        resource known live below
    · simp [down] at state
    · exact ownsNothing ((SessionResourceLedger.owns_iff tree).mpr ⟨resource, known, live, below⟩)
  · have notUnwinding := closes.notUnwinding
    simp only [Option.isSome_none, Bool.false_eq_true, iff_false]
    split
    · simp
    split
    · simp
    · exact notUnwinding
  · intro taint
    have tainted : ledger.disposition = .taintRequired := taint
    simp only
    split
    · simp
    · simp
  intro blank
  have initialized := closes.initialized
  simp only at blank
  iterate 2 (split at blank; · cases blank)
  · exact absurd blank initialized

/-!
## The course of an unwind

An unwind asks for its resources one after the other.  A required cleanup
execution suspends it, and it continues with the same resource.
-/

/-- How far the requests of an unwind came: of the resources `all`, those in
`remaining` still have to be released. -/
inductive Asking (all : List ResourceReceipt) :
    List ResourceReceipt → List ResourceUnwindStep → Prop
  | start : Asking all all []
  | again {resource remaining steps step} :
      Asking all (resource :: remaining) steps →
      step.request.receipt = resource →
      step.result.status = .cleanupExecutionRequired →
      Asking all (resource :: remaining) (steps ++ [step])
  | settled {resource remaining steps step} :
      Asking all (resource :: remaining) steps →
      step.request.receipt = resource →
      step.result.status ≠ .cleanupExecutionRequired →
      Asking all remaining (steps ++ [step])

/-- The requests of an unwind of some resources: newest first, a resource again
only after a required cleanup, and none skipped. -/
structure UnwindOrder (targets : ResourceReceipt → Prop)
    (asked : List ResourceUnwindStep) (finished : Prop) : Prop where
  descending : asked.Pairwise fun earlier later =>
    later.request.receipt.sequence < earlier.request.receipt.sequence ∨
      later.request.receipt = earlier.request.receipt ∧
        earlier.result.status = .cleanupExecutionRequired
  targeted : ∀ step ∈ asked, targets step.request.receipt
  /-- Before a resource all newer ones are settled. -/
  noneSkipped : ∀ step ∈ asked, ∀ resource, targets resource →
    step.request.receipt.sequence < resource.sequence →
      ∃ earlier ∈ asked, earlier.request.receipt = resource ∧
        earlier.result.status ≠ .cleanupExecutionRequired
  complete : finished → ∀ resource, targets resource →
    ∃ step ∈ asked, step.request.receipt = resource ∧ step.result.status ≠ .cleanupExecutionRequired

namespace Asking

variable {all remaining : List ResourceReceipt}
variable {steps : List ResourceUnwindStep}

/-- The resources before the remaining ones are settled, and the requests are
for them and the first remaining one. -/
theorem spec (asking : Asking all remaining steps) : ∃ before, all = before ++ remaining ∧
      (∀ step ∈ steps, step.request.receipt ∈ before ∨ remaining.head? = some step.request.receipt ∧
          step.result.status = .cleanupExecutionRequired) ∧
      ∀ resource ∈ before, ∃ step ∈ steps, step.request.receipt = resource ∧
        step.result.status ≠ .cleanupExecutionRequired := by
  induction asking with
  | start => exact ⟨[], rfl, by simp, by simp⟩
  | again _ asks required ih =>
    obtain ⟨before, split, requests, done⟩ := ih
    refine ⟨before, split, ?_, ?_⟩
    · intro step member
      rcases List.mem_append.mp member with old | new
      · exact requests step old
      rw [List.mem_singleton] at new
      subst new
      exact .inr ⟨by rw [asks]; rfl, required⟩
    intro resource member
    obtain ⟨step, known, same⟩ := done resource member
    exact ⟨step, List.mem_append_left _ known, same⟩
  | @settled resource _ _ last _ asks answered ih =>
    obtain ⟨before, split, requests, done⟩ := ih
    refine ⟨before ++ [resource], by rw [split]; simp, ?_, ?_⟩
    · intro step member
      left
      rw [List.mem_append, List.mem_singleton]
      rcases List.mem_append.mp member with old | new
      · rcases requests step old with earlier | ⟨first, -⟩
        · exact .inl earlier
        · exact .inr (Option.some.inj first).symm
      · rw [List.mem_singleton] at new
        exact .inr (new ▸ asks)
    · intro other member
      rcases List.mem_append.mp member with old | new
      · obtain ⟨step, known, same⟩ := done other old
        exact ⟨step, List.mem_append_left _ known, same⟩
      rw [List.mem_singleton] at new
      subst new
      exact ⟨last, by simp, asks, answered⟩

/-- Requests for resources in descending order come in that order. -/
theorem pairwise (asking : Asking all remaining steps)
    (descending : all.Pairwise fun earlier later => later.sequence < earlier.sequence) :
    steps.Pairwise fun earlier later =>
      later.request.receipt.sequence < earlier.request.receipt.sequence ∨
        later.request.receipt = earlier.request.receipt ∧
          earlier.result.status = .cleanupExecutionRequired := by
  have next {resource rest earlierSteps}
      (asking : Asking all (resource :: rest) earlierSteps) :
      ∀ earlier ∈ earlierSteps,
        resource.sequence < earlier.request.receipt.sequence ∨
          resource = earlier.request.receipt ∧
            earlier.result.status = .cleanupExecutionRequired := by
    intro earlier member
    obtain ⟨before, split, requests, -⟩ := asking.spec
    rw [split, List.pairwise_append] at descending
    rcases requests earlier member with settled | ⟨first, required⟩
    · exact .inl (descending.2.2 _ settled _ List.mem_cons_self)
    · exact .inr ⟨Option.some.inj first, required⟩
  induction asking with
  | start => exact .nil
  | again asking asks _ ih
  | settled asking asks _ ih =>
    refine List.pairwise_append.mpr ⟨ih, List.pairwise_singleton _ _, ?_⟩
    intro earlier member last new
    rw [List.mem_singleton] at new
    subst new
    rw [asks]
    exact next asking earlier member

theorem order (asking : Asking all remaining steps) (descending : all.Pairwise fun earlier later =>
      later.sequence < earlier.sequence) {targets : ResourceReceipt → Prop}
    (covers : ∀ resource, resource ∈ all ↔ targets resource) {finished : Prop}
    (ends : finished → remaining = []) :
    UnwindOrder targets steps finished where
  descending := asking.pairwise descending
  targeted := by
    intro step member
    obtain ⟨before, split, requests, -⟩ := asking.spec
    rw [← covers, split, List.mem_append]
    rcases requests step member with earlier | ⟨first, -⟩
    · exact .inl earlier
    · exact .inr (List.mem_of_mem_head? first)
  noneSkipped := by
    intro step member resource target newer
    obtain ⟨before, split, requests, done⟩ := asking.spec
    rw [← covers, split, List.mem_append] at target
    rw [split, List.pairwise_append] at descending
    rcases target with settled | waiting
    · exact done resource settled
    -- a remaining resource is not newer than what was asked for
    · exfalso
      have older : resource.sequence < step.request.receipt.sequence ∨
          resource = step.request.receipt := by
        rcases requests step member with earlier | ⟨first, -⟩
        · exact .inl (descending.2.2 _ earlier _ waiting)
        cases remaining with
        | nil => cases waiting
        | cons head rest =>
          have same : head = step.request.receipt := Option.some.inj first
          rcases List.mem_cons.mp waiting with here | later
          · exact .inr (here.trans same)
          · have order := (List.pairwise_cons.mp descending.2.1).1
            exact .inl (same ▸ order resource later)
      rcases older with less | same
      · exact absurd less (UInt64.not_lt.mpr (UInt64.le_of_lt newer))
      · rw [same] at newer
        exact absurd newer (UInt64.lt_irrefl _)
  complete := by
    intro finish resource target
    obtain ⟨before, split, -, done⟩ := asking.spec
    rw [← covers, split, ends finish, List.append_nil] at target
    exact done resource target

end Asking

/-!
## Pumping an unwind
What the loop of an unwind does to the ledger, from the resources that are left
to the suspension or the end.
-/

/-- In increasing severity. -/
def ResourceCleanupDisposition.severity : ResourceCleanupDisposition → Nat
  | .clean => 0
  | .cleanWithDiagnostics => 1
  | .taintRequired => 2

/-- A mandatory release failed. -/
def ResourceUnwindStep.failedMandatory (step : ResourceUnwindStep) : Prop :=
  step.result.status = .failed ∧ step.request.receipt.cleanup = .mandatory

/-- The result of an unwind that began. -/
def ResourceUnwindResult.unwinds (result : ResourceUnwindResult) : Prop :=
  result.outcome ≠ .rejected ∧ result.outcome ≠ .alreadyComplete

/-- The facts about a suspended or running unwind: it has to release
`remaining`, which are live and newest first. -/
structure UnwindInvariant (ledger : SessionResourceLedger)
    (pending : PendingUnwind) (all remaining : List ResourceReceipt) : Prop where
  closes : pending.Closes ledger.scopes
  position : pending.resources.drop pending.nextResource = remaining.map (·.id)
  descending : all.Pairwise fun earlier later => later.sequence < earlier.sequence
  suffix : remaining <:+ all
  live : ∀ resource ∈ remaining, resource ∈ ledger.resources ∧ resource.status.isLive

/-- A course of the loop: the steps it makes and where it leaves the ledger. -/
inductive Pumped : SessionResourceLedger → PendingUnwind → List ResourceReceipt →
      ResourceUnwindResult → List ResourceUnwindStep → SessionResourceLedger → Prop
  | finished {ledger pending result} (unwinds : result.unwinds) :
      Pumped ledger pending [] result [] (ledger.finishPendingUnwind pending)
  | suspended {ledger pending result resource rest} {step : ResourceUnwindStep}
      (unwinds : result.unwinds)
      (asks : step.request.receipt = resource)
      (required : step.result.status = .cleanupExecutionRequired) :
      Pumped ledger pending (resource :: rest) result [step]
        { ledger with
          pendingUnwind := some { pending with steps := pending.steps ++ [step] } }
  | settled {ledger pending result resource rest later after}
      {step : ResourceUnwindStep} {hadFailure : Bool}
      (asks : step.request.receipt = resource)
      (answered : step.result.status ≠ .cleanupExecutionRequired)
      (continued : Pumped (ledger.recordRelease resource.id resource.cleanup step.result)
        { pending with
          nextResource := pending.nextResource + 1
          hadFailure := hadFailure
          steps := pending.steps ++ [step] } rest result later after) :
      Pumped ledger pending (resource :: rest) result (step :: later) after

namespace SessionResourceLedger

variable {ledger : SessionResourceLedger}

/-- The state in which an answer leaves its resource. -/
def statusAfter (release : ResourceReleaseResult) : ResourceRecordStatus :=
  if release.status = .failed then .releaseFailed else .released

theorem recordRelease_resources (distinct : (ledger.resources.map (·.id)).Nodup)
    (id : ResourceReceiptId) (cleanup : ResourceCleanupRequirement)
    (release : ResourceReleaseResult) : (ledger.recordRelease id cleanup release).resources =
      ledger.resources.map fun receipt =>
        if receipt.id = id then
          { receipt with
            status := statusAfter release
            releaseDiagnostic := release.diagnostic }
        else receipt := by
  unfold recordRelease statusAfter
  split
  · exact Keyed.update_eq_map distinct id _
  · exact Keyed.update_eq_map distinct id _

theorem recordRelease_severity (id : ResourceReceiptId)
    (cleanup : ResourceCleanupRequirement) (release : ResourceReleaseResult) :
    ledger.disposition.severity ≤ (ledger.recordRelease id cleanup release).disposition.severity ∧
      (release.status = .failed → cleanup = .mandatory →
        (ledger.recordRelease id cleanup release).disposition = .taintRequired) := by
  unfold recordRelease
  split
  · constructor
    · cases cleanup <;> cases ledger.disposition <;>
        simp [ResourceCleanupDisposition.severity, ResourceCleanupDisposition.mergeDiagnostic]
    · rintro - rfl
      rfl
  · rename_i released
    exact ⟨Nat.le_refl _, fun failed => absurd failed released⟩

/-- Recording an answer touches neither the scopes nor the state. -/
theorem recordRelease_frame (id : ResourceReceiptId)
    (cleanup : ResourceCleanupRequirement) (release : ResourceReleaseResult) :
    (ledger.recordRelease id cleanup release).scopes = ledger.scopes ∧
      (ledger.recordRelease id cleanup release).state = ledger.state := by
  unfold recordRelease
  split <;> exact ⟨rfl, rfl⟩

/-- The end of an unwind touches neither the resources nor the disposition. -/
theorem finishPendingUnwind_frame (pending : PendingUnwind) :
    (ledger.finishPendingUnwind pending).resources = ledger.resources ∧
      (ledger.finishPendingUnwind pending).disposition = ledger.disposition := by
  have rounds (ids : List ResourceScopeId) :
      (ids.foldl (closeUnlessOwning pending.shutdown) ledger).resources = ledger.resources ∧
        (ids.foldl (closeUnlessOwning pending.shutdown) ledger).disposition =
          ledger.disposition := by
    induction ids generalizing ledger with
    | nil => exact ⟨rfl, rfl⟩
    | cons id rest ih =>
      rw [List.foldl_cons]
      have round : (closeUnlessOwning pending.shutdown ledger id).resources = ledger.resources ∧
          (closeUnlessOwning pending.shutdown ledger id).disposition = ledger.disposition := by
        unfold closeUnlessOwning
        simp only
        split <;> exact ⟨rfl, rfl⟩
      rw [← round.1, ← round.2]
      exact ih
  exact rounds pending.scopesToClose

end SessionResourceLedger

namespace ResourceInvariant

variable {ledger : SessionResourceLedger}

theorem recordRelease (invariant : ResourceInvariant ledger)
    {resource : ResourceReceipt} (registered : resource ∈ ledger.resources)
    (live : resource.status.isLive) (unwinding : ledger.state = .unwinding)
    (release : ResourceReleaseResult) : ResourceInvariant
      (ledger.recordRelease resource.id resource.cleanup release) := by
  have changed := invariant.changeResources
    (fun receipt =>
      if receipt.id = resource.id then
        { receipt with
          status := SessionResourceLedger.statusAfter release
          releaseDiagnostic := release.diagnostic }
      else receipt)
    (by intro other; split <;> rfl) (by intro other; split <;> rfl)
    (by intro other; split <;> exact ⟨rfl, rfl⟩)
    (by
      intro other member alive
      split at alive
      · rename_i same
        rwa [List.inj_on_of_nodup_map invariant.distinct member registered same]
      · exact alive)
    (by intro other; left; split <;> rfl)
    (by simp [unwinding])
  have resources := SessionResourceLedger.recordRelease_resources
    invariant.distinct resource.id resource.cleanup release
  rw [← resources] at changed
  unfold SessionResourceLedger.recordRelease at changed ⊢
  split
  · rename_i failed
    rw [if_pos failed] at changed
    refine { changed with tainted := ?_, blank := ?_ }
    · intro _
      simp [unwinding]
    · simp [unwinding]
  rename_i released
  rw [if_neg released] at changed
  exact changed

end ResourceInvariant

namespace UnwindInvariant

variable {ledger : SessionResourceLedger} {pending : PendingUnwind}
variable {all rest : List ResourceReceipt} {resource : ResourceReceipt}

/-- After the answer for the first remaining resource the others remain. -/
theorem advance (unwind : UnwindInvariant ledger pending all (resource :: rest))
    (invariant : ResourceInvariant ledger) (release : ResourceReleaseResult)
    (hadFailure : Bool) (steps : List ResourceUnwindStep) : UnwindInvariant
      (ledger.recordRelease resource.id resource.cleanup release)
      { pending with
        nextResource := pending.nextResource + 1
        hadFailure := hadFailure
        steps := steps } all rest where
  closes := by
    obtain ⟨below, notUnwinding, initialized⟩ := unwind.closes
    refine ⟨?_, notUnwinding, initialized⟩
    rw [(SessionResourceLedger.recordRelease_frame _ _ _).1]
    exact below
  position := by
    rw [← List.tail_drop, unwind.position]
    rfl
  descending := unwind.descending
  suffix := (List.suffix_cons resource rest).trans unwind.suffix
  live := by
    intro other member
    obtain ⟨known, alive⟩ := unwind.live other (List.mem_cons_of_mem _ member)
    refine ⟨?_, alive⟩
    have registered := (unwind.live resource List.mem_cons_self).1
    have older := (List.pairwise_cons.mp
      (unwind.descending.sublist unwind.suffix.sublist)).1 other member
    have different : other.id ≠ resource.id := by
      intro same
      rw [List.inj_on_of_nodup_map invariant.distinct known registered same] at older
      exact UInt64.lt_irrefl _ older
    rw [SessionResourceLedger.recordRelease_resources invariant.distinct]
    exact List.mem_map.mpr ⟨other, known, if_neg different⟩

end UnwindInvariant

namespace Pumped

variable {ledger after : SessionResourceLedger} {pending : PendingUnwind}
variable {all remaining : List ResourceReceipt}
variable {result : ResourceUnwindResult} {steps : List ResourceUnwindStep}

/-- Pumping keeps the invariant.  It ends the unwind or leaves it suspended
where the requests stopped. -/
theorem keeps (pumped : Pumped ledger pending remaining result steps after)
    (invariant : ResourceInvariant ledger) (unwinding : ledger.state = .unwinding)
    (unwind : UnwindInvariant ledger pending all remaining)
    {asked : List ResourceUnwindStep} (asking : Asking all remaining asked) :
    ResourceInvariant after ∧ (after.pendingUnwind = none ∧ Asking all [] (asked ++ steps) ∨
        ∃ pending' remaining', after.pendingUnwind = some pending' ∧
          UnwindInvariant after pending' all remaining' ∧
          Asking all remaining' (asked ++ steps)) := by
  induction pumped generalizing asked with
  | finished =>
    refine ⟨invariant.finish unwind.closes unwinding, .inl ⟨rfl, ?_⟩⟩
    rw [List.append_nil]
    exact asking
  | suspended _ asks required =>
    refine ⟨{ invariant with suspended := by simp [unwinding] },
      .inr ⟨_, _, rfl, ?_, asking.again asks required⟩⟩
    exact ⟨⟨unwind.closes.below, unwind.closes.notUnwinding,
      unwind.closes.initialized⟩, unwind.position, unwind.descending, unwind.suffix, unwind.live⟩
  | @settled ledger pending _ resource rest later _ step hadFailure asks
      answered _ ih =>
      obtain ⟨registered, live⟩ := unwind.live resource List.mem_cons_self
      have onward := ih (invariant.recordRelease registered live unwinding step.result)
        ((SessionResourceLedger.recordRelease_frame _ _ _).2.trans unwinding)
        (unwind.advance invariant step.result hadFailure _) (asking.settled asks answered)
      rwa [List.append_assoc, List.singleton_append] at onward

theorem mem_remaining (pumped : Pumped ledger pending remaining result steps after) :
    ∀ step ∈ steps, step.request.receipt ∈ remaining := by
  induction pumped with
  | finished => simp
  | suspended _ asks =>
    intro step member
    rw [List.mem_singleton] at member
    subst member
    rw [asks]
    exact List.mem_cons_self
  | settled asks _ _ ih =>
    intro step member
    rcases List.mem_cons.mp member with rfl | later
    · rw [asks]
      exact List.mem_cons_self
    · exact List.mem_cons_of_mem _ (ih step later)

theorem unwinds (pumped : Pumped ledger pending remaining result steps after) : result.unwinds := by
  induction pumped with
  | finished unwinds | suspended unwinds => exact unwinds
  | settled _ _ _ ih => exact ih

theorem severity (pumped : Pumped ledger pending remaining result steps after) :
    ledger.disposition.severity ≤ after.disposition.severity ∧
      ∀ step ∈ steps, step.failedMandatory → after.disposition = .taintRequired := by
  induction pumped with
  | finished =>
    rw [(SessionResourceLedger.finishPendingUnwind_frame _).2]
    simp
  | suspended _ _ required =>
    refine ⟨Nat.le_refl _, ?_⟩
    intro step member failed
    rw [List.mem_singleton] at member
    subst member
    rw [failed.1] at required
    cases required
  | @settled ledger _ _ resource _ _ after step _ asks _ _
      ih =>
      obtain ⟨grows, taints⟩ := ih
      obtain ⟨recorded, tainted⟩ := ledger.recordRelease_severity resource.id
        resource.cleanup step.result
      refine ⟨Nat.le_trans recorded grows, ?_⟩
      intro other member failed
      rcases List.mem_cons.mp member with rfl | later
      · have taint := tainted failed.1 (asks ▸ failed.2)
        rw [taint] at grows
        cases reached : after.disposition <;> rw [reached] at grows
        · simp [ResourceCleanupDisposition.severity] at grows
        · simp [ResourceCleanupDisposition.severity] at grows
      · exact taints other later failed

theorem released (pumped : Pumped ledger pending remaining result steps after)
    (invariant : ResourceInvariant ledger) (unwinding : ledger.state = .unwinding)
    (unwind : UnwindInvariant ledger pending all remaining) :
    (∀ resource ∈ ledger.resources, ¬resource.status.isLive → resource ∈ after.resources) ∧
      ∀ step ∈ steps, step.result.status = .released → ∃ resource ∈ after.resources,
          resource.id = step.request.receipt.id ∧ ¬resource.status.isLive := by
  induction pumped with
  | finished =>
    rw [(SessionResourceLedger.finishPendingUnwind_frame _).1]
    exact ⟨fun _ member _ => member, by simp⟩
  | suspended _ _ required =>
    refine ⟨fun _ member _ => member, ?_⟩
    intro step member released
    rw [List.mem_singleton] at member
    subst member
    rw [released] at required
    cases required
  | @settled ledger pending _ resource rest later after step hadFailure asks _
      _ ih =>
      obtain ⟨registered, live⟩ := unwind.live resource List.mem_cons_self
      obtain ⟨stays, done⟩ := ih (invariant.recordRelease registered live unwinding step.result)
        ((SessionResourceLedger.recordRelease_frame _ _ _).2.trans unwinding)
        (unwind.advance invariant step.result hadFailure _)
      have resources := SessionResourceLedger.recordRelease_resources
        invariant.distinct resource.id resource.cleanup step.result
      constructor
      · intro other member dead
        apply stays other _ dead
        rw [resources]
        refine List.mem_map.mpr ⟨other, member, if_neg ?_⟩
        intro same
        rw [List.inj_on_of_nodup_map invariant.distinct member registered same] at dead
        exact dead live
      intro other member released
      rcases List.mem_cons.mp member with rfl | later
      · refine ⟨_, stays { resource with
          status := SessionResourceLedger.statusAfter other.result
          releaseDiagnostic := other.result.diagnostic } ?_ ?_, ?_, ?_⟩
        · rw [resources]
          exact List.mem_map.mpr ⟨resource, registered, if_pos rfl⟩
        · simp [SessionResourceLedger.statusAfter, released, ResourceRecordStatus.isLive]
        · rw [asks]
        · simp [SessionResourceLedger.statusAfter, released, ResourceRecordStatus.isLive]
      · exact done other later released

end Pumped

/-- The loop of `PumpUnwind` follows such a course. -/
theorem SessionResourceLedger.pumpFrom_pumped {ledger : SessionResourceLedger}
    {pending : PendingUnwind} {all remaining : List ResourceReceipt}
    (invariant : ResourceInvariant ledger) (unwinding : ledger.state = .unwinding)
    (unwind : UnwindInvariant ledger pending all remaining)
    (dispatcher : ResourceReleaseDispatcher) :
    let outcome := ledger.pumpFrom dispatcher pending (remaining.map (·.id))
    Pumped ledger pending remaining outcome.1 outcome.2.1 outcome.2.2 := by
  induction remaining generalizing ledger pending with
  | nil =>
    apply Pumped.finished
    constructor <;>
    · simp only [List.map_nil, pumpFrom]
      split <;> simp
  | cons resource rest ih =>
    obtain ⟨registered, live⟩ := unwind.live resource List.mem_cons_self
    have found : ledger.findResource resource.id = some resource :=
      Keyed.lookup_key invariant.distinct registered
    simp only [List.map_cons, pumpFrom, found, live, Bool.not_true, Bool.false_eq_true, if_false]
    split
    · rename_i required
      exact .suspended ⟨by simp, by simp⟩ rfl required
    rename_i answered
    let request : ResourceReleaseRequest := ⟨resource, pending.reason, ledger.worksetEpoch, true⟩
    let step : ResourceUnwindStep := ⟨request, dispatcher.release request⟩
    have continued := ih
      (invariant.recordRelease registered live unwinding step.result)
      ((recordRelease_frame _ _ _).2.trans unwinding)
      (unwind.advance invariant step.result
        (pending.hadFailure || decide (step.result.status = .failed)) (pending.steps ++ [step]))
    have asks : step.request.receipt = resource := rfl
    exact Pumped.settled asks answered continued

end Savor.Resources

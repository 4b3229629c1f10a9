import Savor.Value.Arena

/-!
# Measures of value graphs

A graph that is measured within some limits fits them, and has the same measure
within any wider limits.
-/

namespace Savor.Program

/-- The other limits admit at least as many values and bytes. -/
structure ProgramValueArenaLimits.Within (limits wider : ProgramValueArenaLimits) : Prop where
  values : limits.maximumValues.toNat ≤ wider.maximumValues.toNat
  bytes : limits.maximumValueBytes.toNat ≤ wider.maximumValueBytes.toNat

namespace ProgramValueArena

variable {arena after : ProgramValueArena}
variable {limits : ProgramValueArenaLimits}

/-- The arena under other limits. -/
def withLimits (arena : ProgramValueArena) (limits : ProgramValueArenaLimits) : ProgramValueArena :=
  { arena with limits }

/-- What the arena holds fits its limits. -/
structure Fits (arena : ProgramValueArena) : Prop where
  values : arena.values.length ≤ arena.limits.maximumValues.toNat
  bytes : arena.valueBytes ≤ arena.limits.maximumValueBytes.toNat

theorem bind_eq_ok {α β : Type} {first : ArenaResult α} {next : α → ArenaResult β} {result : β}
    (done : (first >>= next) = .ok result) :
    ∃ value, first = .ok value ∧ next value = .ok result := by
  cases first with
  | error failure => cases done
  | ok value => exact ⟨value, rfl, done⟩

variable {id : ProgramValueId} {payload : ProgramValuePayload} {type : TypeRef}

/-- What a successful insertion has checked, and the arena it leaves. -/
theorem add_eq_ok (added : arena.add type payload = .ok (after, id)) :
    validatePayloadSemantics payload = .ok () ∧
      arena.values.length < arena.limits.maximumValues.toNat ∧
      (payload.children.all fun child => child.isSet && arena.contains child) = true ∧
      arena.valueBytes + measureValue type payload ≤ arena.limits.maximumValueBytes.toNat ∧
      arena.nextId ≠ 0 ∧ id = ⟨arena.nextId⟩ ∧
      after = { arena with
        values := arena.values ++ [⟨⟨arena.nextId⟩, type, payload⟩]
        nextId := arena.nextId + 1
        valueBytes := arena.valueBytes + measureValue type payload } := by
  unfold add at added
  obtain ⟨⟨⟩, valid, added⟩ := bind_eq_ok added
  split at added
  · cases added
  rename_i room
  split at added
  · cases added
  rename_i resolved
  split at added
  · cases added
  rename_i fits
  split at added
  · cases added
  rename_i identity
  cases added
  simp only [Bool.or_eq_true, decide_eq_true_eq, not_or, gt_iff_lt, Nat.not_lt] at fits
  refine ⟨valid, by omega, by simpa using resolved, by omega, identity, rfl, rfl⟩

theorem fits_of_add (added : arena.add type payload = .ok (after, id)) :
    after.Fits ∧ after.limits = arena.limits := by
  obtain ⟨-, room, -, bytes, -, -, rfl⟩ := add_eq_ok added
  refine ⟨⟨?_, bytes⟩, rfl⟩
  simp only [List.length_append, List.length_singleton]
  omega

variable {values : List ProgramValue}

theorem fits_of_addAll {renamed renamed' : List (ProgramValueId × ProgramValueId)}
    (fits : arena.Fits) (added : arena.addAll renamed values = .ok (after, renamed')) :
    after.Fits ∧ after.limits = arena.limits := by
  induction values generalizing arena renamed with
  | nil =>
    cases added
    exact ⟨fits, rfl⟩
  | cons value values ih =>
    unfold addAll at added
    obtain ⟨⟨next, inserted⟩, first, rest⟩ := bind_eq_ok added
    obtain ⟨nextFits, kept⟩ := fits_of_add first
    obtain ⟨afterFits, afterKept⟩ := ih nextFits rest
    exact ⟨afterFits, afterKept.trans kept⟩

/-- An exhausted budget is all that goes wrong. -/
def FailsByBudget {α : Type} (result : ArenaResult α) : Prop :=
  ∃ failure, result = .error failure ∧ failure.error.isBudget = true

/-- Under other limits an insertion that succeeds can only exhaust them, and
only where they are not wider. -/
theorem add_under (limits : ProgramValueArenaLimits)
    (added : arena.add type payload = .ok (after, id)) :
    (arena.withLimits limits).add type payload = .ok (after.withLimits limits, id) ∨
      FailsByBudget ((arena.withLimits limits).add type payload) ∧
        ¬ arena.limits.Within limits := by
  obtain ⟨valid, room, resolved, bytes, identity, rfl, rfl⟩ := add_eq_ok added
  have resolved' : (payload.children.all fun child =>
      child.isSet && (arena.withLimits limits).contains child) = true := resolved
  have identity' : (arena.withLimits limits).nextId ≠ 0 := identity
  unfold add
  rw [valid, resolved']
  simp only [bind, Except.bind, Bool.not_true, Bool.false_eq_true, if_false, if_neg identity']
  split
  · rename_i full
    refine .inr ⟨⟨_, rfl, rfl⟩, fun wider => ?_⟩
    have values := wider.values
    have full : arena.values.length ≥ limits.maximumValues.toNat := full
    omega
  split
  · rename_i exceeded
    refine .inr ⟨⟨_, rfl, rfl⟩, fun wider => ?_⟩
    have bytes' := wider.bytes
    simp only [Bool.or_eq_true, decide_eq_true_eq] at exceeded
    have exceeded : measureValue type payload > limits.maximumValueBytes.toNat ∨
      arena.valueBytes > limits.maximumValueBytes.toNat - measureValue type payload := exceeded
    omega
  · exact .inl rfl

theorem addAll_under (limits : ProgramValueArenaLimits)
    {renamed renamed' : List (ProgramValueId × ProgramValueId)}
    (added : arena.addAll renamed values = .ok (after, renamed')) :
    (arena.withLimits limits).addAll renamed values = .ok (after.withLimits limits, renamed') ∨
      FailsByBudget ((arena.withLimits limits).addAll renamed values) ∧
        ¬ arena.limits.Within limits := by
  induction values generalizing arena renamed with
  | nil =>
    cases added
    exact .inl rfl
  | cons value values ih =>
    unfold addAll at added ⊢
    obtain ⟨⟨next, inserted⟩, first, rest⟩ := bind_eq_ok added
    rcases add_under limits first with
      widened | ⟨⟨failure, failed, budget⟩, tight⟩
    · rw [widened, ← (fits_of_add first).2]
      exact ih rest
    · rw [failed]
      exact .inr ⟨⟨failure, rfl, budget⟩, tight⟩

theorem checkBytes_under (limits : ProgramValueArenaLimits)
    {other : ProgramValueArenaLimits} {held required total : Nat}
    (checked : checkBytes other held required values = .ok total) :
    checkBytes limits held required values = .ok total ∨
      FailsByBudget (checkBytes limits held required values) ∧ ¬ other.Within limits := by
  induction values generalizing required with
  | nil =>
    unfold checkBytes at checked ⊢
    split at checked
    · cases checked
    rename_i fits
    cases checked
    split
    · rename_i exceeded
      refine .inr ⟨⟨_, rfl, rfl⟩, fun wider => ?_⟩
      have bytes := wider.bytes
      simp only [Bool.or_eq_true, decide_eq_true_eq] at fits exceeded
      omega
    · exact .inl rfl
  | cons value values ih =>
    unfold checkBytes at checked ⊢
    obtain ⟨⟨⟩, valid, checked⟩ := bind_eq_ok checked
    rw [valid]
    simp only [bind, Except.bind]
    split at checked
    · cases checked
    rename_i fits
    split
    · rename_i exceeded
      refine .inr ⟨⟨_, rfl, rfl⟩, fun wider => ?_⟩
      have bytes := wider.bytes
      simp only [Bool.or_eq_true, decide_eq_true_eq] at fits exceeded
      omega
    · exact ih checked

/-- The checks of a successful import. -/
structure Imports (arena : ProgramValueArena) (graph : ProgramValueGraph)
    (order : List ProgramValueId) : Prop where
  root : graph.root.isSet = true
  ids : ProgramValueGraph.checkIds [] graph.values = .ok ()
  resolved : (graph.find graph.root).isNone = false
  ordered : graph.searchOrder = .ok order
  reachable : order.length = graph.values.length
  room : order.length ≤ arena.limits.maximumValues.toNat - arena.values.length
  identities : order.length ≤ 2 ^ 64 - 1 - arena.nextId.toNat
  bytes : ∃ total, checkBytes arena.limits arena.valueBytes 0
    (graph.orderedValues order) = .ok total

variable {graph : ProgramValueGraph} {root : ProgramValueId}

/-- A successful import has passed its checks and inserted every value. -/
theorem importGraph_eq_ok (imported : arena.importGraph graph = .ok (after, root)) :
    ∃ order renamed, arena.Imports graph order ∧
      arena.addAll [] (graph.orderedValues order) = .ok (after, renamed) ∧
      root = (renamed.lookup graph.root).getD StrongId.none := by
  unfold importGraph at imported
  simp only at imported
  split at imported
  · cases imported
  rename_i root
  obtain ⟨⟨⟩, ids, imported⟩ := bind_eq_ok imported
  split at imported
  · cases imported
  rename_i resolved
  obtain ⟨order, ordered, imported⟩ := bind_eq_ok imported
  split at imported
  · cases imported
  rename_i reachable
  split at imported
  · cases imported
  rename_i room
  split at imported
  · cases imported
  rename_i identities
  obtain ⟨total, bytes, imported⟩ := bind_eq_ok imported
  obtain ⟨⟨next, renamed⟩, added, imported⟩ := bind_eq_ok imported
  cases imported
  exact ⟨order, renamed,
    { root := by simpa using root
      ids := ids
      resolved := eq_false_of_ne_true resolved
      ordered := ordered
      reachable := by simpa using reachable
      room := by omega
      identities := by omega
      bytes := ⟨total, bytes⟩ }, added, rfl⟩

theorem fits_of_import (fits : arena.Fits)
    (imported : arena.importGraph graph = .ok (after, root)) :
    after.Fits ∧ after.limits = arena.limits := by
  obtain ⟨order, renamed, -, added, -⟩ := importGraph_eq_ok imported
  exact fits_of_addAll fits added

/-- Under other limits an import that succeeds can only exhaust them, and only
where they are not wider. -/
theorem importGraph_under (limits : ProgramValueArenaLimits)
    (imported : arena.importGraph graph = .ok (after, root)) :
    (arena.withLimits limits).importGraph graph = .ok (after.withLimits limits, root) ∨
      FailsByBudget ((arena.withLimits limits).importGraph graph) ∧
        ¬ arena.limits.Within limits := by
  obtain ⟨order, renamed, imports, added, rfl⟩ := importGraph_eq_ok imported
  obtain ⟨total, bytes⟩ := imports.bytes
  have identities : ¬ order.length >
      2 ^ 64 - 1 - (arena.withLimits limits).nextId.toNat :=
    not_lt_of_ge imports.identities
  unfold importGraph
  simp only [imports.root, imports.ids, imports.resolved, imports.ordered,
    imports.reachable, bind, Except.bind, Bool.not_true, Bool.false_eq_true,
    if_false, ne_eq, not_true_eq_false]
  rw [← imports.reachable, if_neg identities]
  split
  · rename_i full
    refine .inr ⟨⟨_, rfl, rfl⟩, fun wider => ?_⟩
    have values := wider.values
    have room := imports.room
    have full : order.length > limits.maximumValues.toNat - arena.values.length := full
    omega
  have bytes := checkBytes_under (arena.withLimits limits).limits bytes
  change checkBytes _ (arena.withLimits limits).valueBytes 0 _ = _ ∨
    FailsByBudget (checkBytes _ (arena.withLimits limits).valueBytes 0 _) ∧ _ at bytes
  rcases bytes with fits | ⟨⟨failure, failed, budget⟩, tight⟩
  · rcases addAll_under limits added with
      widened | ⟨⟨failure, failed, budget⟩, tight⟩
    · exact .inl (by simp [fits, widened])
    · exact .inr ⟨⟨failure, by simp [fits, failed], budget⟩, tight⟩
  · exact .inr ⟨⟨failure, by simp [failed], budget⟩, tight⟩

end ProgramValueArena

section Measures

variable {graph : ProgramValueGraph} {limits wider : ProgramValueArenaLimits}
variable {measured : ProgramValueGraphMeasure}

theorem measureProgramValueGraph_fits
    (measures : measureProgramValueGraph graph limits = .ok measured) :
    measured.valueCount ≤ limits.maximumValues.toNat ∧
      measured.valueBytes ≤ limits.maximumValueBytes.toNat := by
  unfold measureProgramValueGraph at measures
  obtain ⟨⟨after, root⟩, imported, measures⟩ := ProgramValueArena.bind_eq_ok measures
  cases measures
  have empty : ({ limits } : ProgramValueArena).Fits := ⟨Nat.zero_le _, Nat.zero_le _⟩
  obtain ⟨fits, kept⟩ := ProgramValueArena.fits_of_import empty imported
  have same : after.limits = limits := kept
  exact ⟨same ▸ fits.values, same ▸ fits.bytes⟩

theorem measureProgramValueGraph_wider (within : limits.Within wider)
    (measures : measureProgramValueGraph graph limits = .ok measured) :
    measureProgramValueGraph graph wider = .ok measured := by
  unfold measureProgramValueGraph at measures ⊢
  obtain ⟨⟨after, root⟩, imported, measures⟩ := ProgramValueArena.bind_eq_ok measures
  cases measures
  rcases ProgramValueArena.importGraph_under wider imported with
    widened | ⟨-, tight⟩
  · have widened : ({ limits := wider } : ProgramValueArena).importGraph graph =
      .ok (after.withLimits wider, root) := widened
    rw [widened]
    rfl
  · exact absurd within tight

variable {schemas : List TypeSchemaDefinition} {epoch : Option WorksetEpoch}

/-- A graph that is valid within some limits is measured within others, or
exhausts them, and is valid there exactly when it is measured. -/
theorem measured_or_budget {type : TypeRef}
    (valid : validateProgramValueGraph graph type schemas limits epoch = .ok ())
    (other : ProgramValueArenaLimits) :
    (∃ measured, measureProgramValueGraph graph other = .ok measured ∧
        validateProgramValueGraph graph type schemas other epoch = .ok ()) ∨
      ∃ failure, measureProgramValueGraph graph other = .error failure ∧
        validateProgramValueGraph graph type schemas other epoch = .error failure ∧
        failure.error.isBudget = true := by
  unfold validateProgramValueGraph at valid
  obtain ⟨⟨after, root⟩, imported, checks⟩ := ProgramValueArena.bind_eq_ok valid
  unfold measureProgramValueGraph validateProgramValueGraph
  rcases ProgramValueArena.importGraph_under other imported with
    widened | ⟨⟨failure, failed, budget⟩, -⟩
  · have widened : ({ limits := other } : ProgramValueArena).importGraph graph =
      .ok (after.withLimits other, root) := widened
    rw [widened]
    exact .inl ⟨_, rfl, checks⟩
  have failed : ({ limits := other } : ProgramValueArena).importGraph graph =
    .error failure := failed
  rw [failed]
  exact .inr ⟨failure, rfl, rfl, budget⟩

theorem rootValue_of_valid {type : TypeRef}
    (valid : validateProgramValueGraph graph type schemas limits epoch = .ok ()) :
    graph.values.isEmpty = false ∧ graph.rootValue.isNone = false := by
  unfold validateProgramValueGraph at valid
  obtain ⟨⟨after, root⟩, imported, -⟩ := ProgramValueArena.bind_eq_ok valid
  obtain ⟨order, renamed, imports, -, -⟩ := ProgramValueArena.importGraph_eq_ok imported
  refine ⟨?_, imports.resolved⟩
  have resolved := imports.resolved
  cases empty : graph.values with
  | nil => simp [ProgramValueGraph.find, empty] at resolved
  | cons value values => rfl

end Measures

end Savor.Program

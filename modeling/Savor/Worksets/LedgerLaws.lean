import Mathlib.Algebra.BigOperators.Group.List.Basic
import Mathlib.Data.List.Pairwise
import Savor.Worksets.LedgerSteps

/-!
# Ordering and conservation of retained terminals

Terminals are published in the order of their reservation, every publication
attempt of a terminal carries the same outbound sequence, and the ledger keeps
a terminal until it is acknowledged.  The three invariants below are about the
order, the outbound sequences and the limits.
-/

namespace Savor.Worksets

open Library Program
open WorkerCompletionLedger
open LedgerOperation

/-! ## What a history says -/

/-- The terminal that an operation reserved. -/
def LedgerResult.reservedTerminal : LedgerResult → Option WorkerItemTerminalCorrelation
  | .ok (.terminal correlation) => some correlation
  | _ => none

/-- The terminal that an operation confirmed as published. -/
def LedgerOperation.confirmedTerminal :
    LedgerOperation → LedgerResult → Option WorkerItemTerminalCorrelation
  | .confirmPublished correlation, .ok _ => some correlation
  | _, _ => none

/-- An outbound sequence given out, for a terminal or for another event. -/
structure OutboundGrant where
  sequence : WorkerOutboundSequence
  terminal : Option WorkerItemTerminalCorrelation
  deriving DecidableEq

/-- The outbound sequence that an operation gave out. -/
def LedgerResult.outboundGrant : LedgerResult → Option OutboundGrant
  | .ok (.sequence sequence) => some ⟨sequence, none⟩
  | .ok (.publication (some publication)) =>
    some ⟨publication.outboundSequence, some publication.correlation⟩
  | _ => none

abbrev LedgerTransition := Transition WorkerCompletionLedger LedgerCall LedgerResult

/-- The terminals reserved, in the order of their reservation. -/
def reservedTerminals (history : List LedgerTransition) : List WorkerItemTerminalCorrelation :=
  history.filterMap (·.event.reservedTerminal)

/-- The terminals confirmed as published, in the order of confirmation. -/
def confirmedTerminals (history : List LedgerTransition) : List WorkerItemTerminalCorrelation :=
  history.filterMap fun transition => transition.input.operation.confirmedTerminal transition.event

/-- The outbound sequences given out. -/
def outboundGrants (history : List LedgerTransition) : List OutboundGrant :=
  history.filterMap (·.event.outboundGrant)

/-- Two sequences given out are the same exactly when both are publication
attempts of one terminal. -/
def OutboundGrant.Consistent (earlier later : OutboundGrant) : Prop :=
  earlier.sequence = later.sequence ↔ earlier.terminal = later.terminal ∧ earlier.terminal.isSome

theorem LedgerEntry.not_published {entry : LedgerEntry}
    (unpublished : entry.state = .pendingFinalization ∨ entry.state = .ready ∨
      entry.state = .publishing) :
    ¬entry.published := by
  intro published
  rw [LedgerEntry.published] at published
  rcases unpublished with state | state | state <;>
  · rw [published] at state
    cases state

/-- A transition takes an entry out of the ledger. -/
def LedgerTransition.Removes (transition : LedgerTransition) (entry : LedgerEntry) : Prop :=
  entry ∈ transition.before.entries ∧
    ∀ kept ∈ transition.after.entries, kept.correlation ≠ entry.correlation

/-! ## The order of publication -/

/-- The invariant of the order after some terminals were `reserved` and
`confirmed`. -/
structure LedgerOrder (reserved confirmed : List WorkerItemTerminalCorrelation)
    (entries : List LedgerEntry) (nextTerminalId nextTerminalOrder : UInt64) : Prop where
  /-- What is not confirmed is still retained, in the order of reservation. -/
  ordered : reserved = confirmed ++
    (entries.filter fun entry => ¬entry.published).map (·.correlation)
  retained : (entries.map (·.correlation)).Sublist reserved
  terminalIds : Numbered (reserved.map (·.terminalId.value)) nextTerminalId
  terminalOrders : Numbered (reserved.map (·.terminalOrder.value)) nextTerminalOrder
  confirmedFirst : ∀ entry ∈ entries, entry.published → entry.correlation ∈ confirmed
  /-- Only the first terminal that is not confirmed can be in publication. -/
  behind : entries.Pairwise fun earlier later =>
    earlier.published ∨ later.state = .pendingFinalization ∨ later.state = .ready

namespace LedgerOrder

variable {reserved confirmed : List WorkerItemTerminalCorrelation}
variable {entries before after : List LedgerEntry}
variable {entry changed : LedgerEntry}
variable {nextTerminalId nextTerminalOrder : UInt64}

section

variable
    (order : LedgerOrder reserved confirmed entries nextTerminalId nextTerminalOrder)
include order

theorem published_before (split : entries = before ++ entry :: after)
    (publishing : entry.state = .publishing) : ∀ other ∈ before, other.published := by
  intro other member
  have behind := order.behind
  rw [split, List.pairwise_append] at behind
  rcases behind.2.2 other member entry List.mem_cons_self with
    published | pending | ready
  · exact published
  · rw [publishing] at pending
    cases pending
  · rw [publishing] at ready
    cases ready

theorem replace (split : entries = before ++ entry :: after)
    (same : changed.correlation = entry.correlation)
    (unpublished : ¬entry.published) (unpublished' : ¬changed.published)
    (waits : (∀ other ∈ before, other.published) ∨
      changed.state = .pendingFinalization ∨ changed.state = .ready) :
    LedgerOrder reserved confirmed (before ++ changed :: after)
      nextTerminalId nextTerminalOrder where
  ordered := by
    have ordered := order.ordered
    rw [split] at ordered
    simpa [List.filter_append, List.filter_cons, unpublished, unpublished', same] using ordered
  retained := by
    have retained := order.retained
    rw [split] at retained
    simpa [same] using retained
  terminalIds := order.terminalIds
  terminalOrders := order.terminalOrders
  confirmedFirst := by
    intro other member published
    rcases List.mem_append.mp member with old | new
    · exact order.confirmedFirst other (by simp [split, old]) published
    rcases List.mem_cons.mp new with rfl | old
    · exact absurd published unpublished'
    · exact order.confirmedFirst other (by simp [split, old]) published
  behind := by
    have behind := order.behind
    rw [split, List.pairwise_append, List.pairwise_cons] at behind
    obtain ⟨first, ⟨entryFirst, rest⟩, across⟩ := behind
    refine List.pairwise_append.mpr ⟨first, List.pairwise_cons.mpr ⟨?_, rest⟩, ?_⟩
    · intro other member
      rcases entryFirst other member with published | later
      · exact absurd published unpublished
      · exact .inr later
    intro earlier member other new
    rcases List.mem_cons.mp new with rfl | old
    · rcases waits with allPublished | waits
      · exact .inl (allPublished earlier member)
      · exact .inr waits
    · exact across earlier member other (List.mem_cons_of_mem _ old)

/-- No terminal is reserved twice. -/
theorem nodup : reserved.Nodup := by exact order.terminalIds.nodup.of_map _

variable {assigned : WorkerItemTerminalCorrelation}

theorem fresh (idsLeft : nextTerminalId ≠ 0) (terminalId : assigned.terminalId = ⟨nextTerminalId⟩) :
    assigned ∉ reserved := by
  intro member
  apply order.terminalIds.fresh idsLeft
  exact List.mem_map.mpr ⟨assigned, member, by rw [terminalId]⟩

/-- A new terminal goes behind all others. -/
theorem reserve {bytes : Nat} (idsLeft : nextTerminalId ≠ 0) (ordersLeft : nextTerminalOrder ≠ 0)
    (terminalId : assigned.terminalId = ⟨nextTerminalId⟩)
    (terminalOrder : assigned.terminalOrder = ⟨nextTerminalOrder⟩) :
    LedgerOrder (reserved ++ [assigned]) confirmed
      (entries ++ [{ correlation := assigned, retainedBytes := bytes }])
      (nextTerminalId + 1) (nextTerminalOrder + 1) where
  ordered := by
    rw [List.filter_append, List.map_append, ← List.append_assoc, ← order.ordered]
    simp [LedgerEntry.published]
  retained := by
    rw [List.map_append]
    exact order.retained.append (List.Sublist.refl _)
  terminalIds := by
    have extended := order.terminalIds.snoc (order.terminalIds.short idsLeft)
    simpa [terminalId] using extended
  terminalOrders := by
    have extended := order.terminalOrders.snoc (order.terminalOrders.short ordersLeft)
    simpa [terminalOrder] using extended
  confirmedFirst := by
    intro other member published
    rcases List.mem_append.mp member with old | new
    · exact order.confirmedFirst other old published
    rw [List.mem_singleton] at new
    subst new
    cases published
  behind := by
    refine List.pairwise_append.mpr ⟨order.behind, by simp, ?_⟩
    intro earlier _ other new
    rw [List.mem_singleton] at new
    subst new
    exact .inr (.inl rfl)

theorem confirm (split : entries = before ++ entry :: after)
    (publishing : entry.state = .publishing) :
    LedgerOrder reserved (confirmed ++ [entry.correlation])
      (before ++ { entry with state := .awaitingAcknowledgement } :: after)
      nextTerminalId nextTerminalOrder where
  ordered := by
    have earlier := order.published_before split publishing
    have none : before.filter (fun entry => ¬entry.published) = [] := by
      apply List.filter_eq_nil_iff.mpr
      intro other member
      simpa using earlier other member
    have unpublished := LedgerEntry.not_published (.inr (.inr publishing))
    have ordered := order.ordered
    rw [split, List.filter_append, none] at ordered
    rw [List.filter_append, none, ordered, List.filter_cons_of_pos
      (by simpa using unpublished), List.filter_cons_of_neg (by simp [LedgerEntry.published])]
    simp
  retained := by
    have retained := order.retained
    rw [split] at retained
    simpa using retained
  terminalIds := order.terminalIds
  terminalOrders := order.terminalOrders
  confirmedFirst := by
    intro other member published
    rw [List.mem_append]
    rcases List.mem_append.mp member with old | new
    · exact .inl (order.confirmedFirst other (by simp [split, old]) published)
    rcases List.mem_cons.mp new with rfl | old
    · exact .inr (List.mem_singleton.mpr rfl)
    · exact .inl (order.confirmedFirst other (by simp [split, old]) published)
  behind := by
    have behind := order.behind
    rw [split, List.pairwise_append, List.pairwise_cons] at behind
    obtain ⟨first, ⟨-, rest⟩, across⟩ := behind
    refine List.pairwise_append.mpr ⟨first, List.pairwise_cons.mpr ⟨?_, rest⟩, ?_⟩
    · intro other _
      exact .inl rfl
    · intro earlier member other _
      exact .inl (order.published_before split publishing earlier member)

theorem acknowledge (split : entries = before ++ entry :: after) (published : entry.published) :
    LedgerOrder reserved confirmed (before ++ after) nextTerminalId nextTerminalOrder where
  ordered := by
    have ordered := order.ordered
    rw [split] at ordered
    simpa [List.filter_append, List.filter_cons, published] using ordered
  retained := by
    have retained := order.retained
    rw [split] at retained
    refine List.Sublist.trans (List.Sublist.map _ ?_) retained
    exact List.Sublist.append (List.Sublist.refl _) (List.sublist_cons_self _ _)
  terminalIds := order.terminalIds
  terminalOrders := order.terminalOrders
  confirmedFirst := by
    intro other member
    apply order.confirmedFirst other
    rw [split]
    rcases List.mem_append.mp member with old | old <;> simp [old]
  behind := by
    have behind := order.behind
    rw [split] at behind
    refine List.Pairwise.sublist ?_ behind
    exact List.Sublist.append (List.Sublist.refl _) (List.sublist_cons_self _ _)

end

theorem step {ledger : WorkerCompletionLedger}
    (order : LedgerOrder reserved confirmed ledger.entries
      ledger.nextTerminalId ledger.nextTerminalOrder)
    {operation : LedgerOperation} {result : LedgerResult} {next : WorkerCompletionLedger}
    (stepped : LedgerStep ledger operation result next) :
    LedgerOrder (reserved ++ result.reservedTerminal.toList)
      (confirmed ++ (operation.confirmedTerminal result).toList)
      next.entries next.nextTerminalId next.nextTerminalOrder := by
  cases stepped with
  | refused =>
    have nothing (operation : LedgerOperation) failure :
        operation.confirmedTerminal (.error failure) = none := by
      cases operation <;> rfl
    simpa [LedgerResult.reservedTerminal, nothing] using order
  | bound | opened | idle | repeated =>
    simpa [LedgerResult.reservedTerminal, confirmedTerminal] using order
  | closed closes =>
    rcases closes with rfl | rfl <;>
    simpa [LedgerResult.reservedTerminal, confirmedTerminal] using order
  | reserved few small idsLeft ordersLeft terminalId terminalOrder =>
    simpa [LedgerResult.reservedTerminal, confirmedTerminal]
      using order.reserve idsLeft ordersLeft terminalId terminalOrder
  | completed split matching pending =>
    have unpublished := LedgerEntry.not_published (.inl pending)
    simp only [LedgerResult.reservedTerminal,
      confirmedTerminal, Option.toList_none, List.append_nil]
    exact order.replace split rfl unpublished
      (LedgerEntry.not_published (.inr (.inl rfl))) (.inr (.inr rfl))
  | began split earlier ready | retried split earlier ready =>
    have unpublished := LedgerEntry.not_published (.inr (.inl ready))
    simp only [LedgerResult.reservedTerminal,
      confirmedTerminal, Option.toList_none, List.append_nil]
    exact order.replace split rfl unpublished
      (LedgerEntry.not_published (.inr (.inr rfl))) (.inl earlier)
  | published split matching publishing =>
    simpa [LedgerResult.reservedTerminal, confirmedTerminal,
      matching] using order.confirm split publishing
  | aborted split matching publishing =>
    have unpublished := LedgerEntry.not_published (.inr (.inr publishing))
    simp only [LedgerResult.reservedTerminal,
      confirmedTerminal, Option.toList_none, List.append_nil]
    exact order.replace split rfl unpublished
      (LedgerEntry.not_published (.inr (.inl rfl))) (.inr (.inr rfl))
  | acknowledged split matching awaiting =>
    simpa [LedgerResult.reservedTerminal, confirmedTerminal] using order.acknowledge split awaiting

end LedgerOrder

/-! ## Outbound sequences -/

/-- The invariant of the outbound sequences after `grants`. -/
structure LedgerGrants (reserved : List WorkerItemTerminalCorrelation)
    (grants : List OutboundGrant) (entries : List LedgerEntry) (nextOutboundSequence : UInt64) :
    Prop where
  numbered : ∃ issued, Numbered issued nextOutboundSequence ∧
    ∀ grant ∈ grants, grant.sequence.value ∈ issued
  consistent : grants.Pairwise OutboundGrant.Consistent
  terminals : ∀ grant ∈ grants, ∀ terminal ∈ grant.terminal, terminal ∈ reserved
  /-- A retained sequence was given to its terminal. -/
  granted : ∀ entry ∈ entries, entry.outboundSequence.isSet →
    ⟨entry.outboundSequence, some entry.correlation⟩ ∈ grants
  /-- A retry carries the sequence of the earlier attempts. -/
  carried : ∀ entry ∈ entries, ∀ grant ∈ grants,
    grant.terminal = some entry.correlation → grant.sequence = entry.outboundSequence

namespace OutboundGrant

instance : Std.Symm OutboundGrant.Consistent where
  symm left right consistent := by
    constructor
    · intro sequences
      obtain ⟨terminals, some⟩ := consistent.mp sequences.symm
      exact ⟨terminals.symm, terminals ▸ some⟩
    · rintro ⟨terminals, some⟩
      exact (consistent.mpr ⟨terminals.symm, terminals ▸ some⟩).symm

end OutboundGrant

namespace LedgerGrants

variable {reserved : List WorkerItemTerminalCorrelation}
variable {grants : List OutboundGrant}
variable {entries others before after : List LedgerEntry}
variable {entry : LedgerEntry} {next : UInt64}

section

variable (invariant : LedgerGrants reserved grants entries next)
include invariant

/-- Entries may change as long as they keep correlation and sequence. -/
theorem mono (kept : ∀ other ∈ others, ∃ entry ∈ entries,
      entry.correlation = other.correlation ∧ entry.outboundSequence = other.outboundSequence) :
    LedgerGrants reserved grants others next where
  numbered := invariant.numbered
  consistent := invariant.consistent
  terminals := invariant.terminals
  granted := by
    intro other member
    obtain ⟨entry, old, correlation, sequence⟩ := kept other member
    rw [← correlation, ← sequence]
    exact invariant.granted entry old
  carried := by
    intro other member
    obtain ⟨entry, old, correlation, sequence⟩ := kept other member
    rw [← correlation, ← sequence]
    exact invariant.carried entry old

theorem replace (split : entries = before ++ entry :: after) {changed : LedgerEntry}
    (correlation : entry.correlation = changed.correlation)
    (sequence : entry.outboundSequence = changed.outboundSequence) :
    LedgerGrants reserved grants (before ++ changed :: after) next := by
  apply invariant.mono
  intro other member
  rcases List.mem_append.mp member with old | new
  · exact ⟨other, by simp [split, old], rfl, rfl⟩
  rcases List.mem_cons.mp new with rfl | old
  · exact ⟨entry, by simp [split], correlation, sequence⟩
  · exact ⟨other, by simp [split, old], rfl, rfl⟩

theorem reserve {assigned : WorkerItemTerminalCorrelation} {bytes : Nat}
    (new : assigned ∉ reserved) : LedgerGrants (reserved ++ [assigned]) grants
      (entries ++ [{ correlation := assigned, retainedBytes := bytes }])
      next where
  numbered := invariant.numbered
  consistent := invariant.consistent
  terminals := by
    intro grant member terminal named
    exact List.mem_append_left _ (invariant.terminals grant member terminal named)
  granted := by
    intro entry member set
    rcases List.mem_append.mp member with old | last
    · exact invariant.granted entry old set
    rw [List.mem_singleton] at last
    subst last
    cases set
  carried := by
    intro entry member grant given named
    rcases List.mem_append.mp member with old | last
    · exact invariant.carried entry old grant given named
    rw [List.mem_singleton] at last
    subst last
    exact absurd (invariant.terminals grant given _ named) new

/-- A fresh sequence differs from all sequences given out before. -/
theorem issue (left : next ≠ 0) (terminal : Option WorkerItemTerminalCorrelation)
    (unpublished : ∀ grant ∈ grants, grant.terminal.isSome → grant.terminal ≠ terminal) :
    (∃ issued, Numbered issued (next + 1) ∧
      ∀ grant ∈ grants ++ [OutboundGrant.mk ⟨next⟩ terminal], grant.sequence.value ∈ issued) ∧
      (grants ++ [OutboundGrant.mk ⟨next⟩ terminal]).Pairwise OutboundGrant.Consistent := by
  obtain ⟨issued, numbered, given⟩ := invariant.numbered
  constructor
  · refine ⟨issued ++ [next], numbered.snoc (numbered.short left), ?_⟩
    intro grant member
    rw [List.mem_append]
    rcases List.mem_append.mp member with old | new
    · exact .inl (given grant old)
    · rw [List.mem_singleton] at new
      exact .inr (List.mem_singleton.mpr (congrArg (·.sequence.value) new))
  refine List.pairwise_append.mpr ⟨invariant.consistent, List.pairwise_singleton _ _, ?_⟩
  intro grant member new last
  rw [List.mem_singleton] at last
  subst last
  constructor
  · intro same
    have used := given grant member
    rw [same] at used
    exact absurd used (numbered.fresh left)
  · rintro ⟨same, some⟩
    exact absurd same (unpublished grant member some)

theorem openSequence (left : next ≠ 0) :
    LedgerGrants reserved (grants ++ [⟨⟨next⟩, none⟩]) entries (next + 1) := by
  have issued := invariant.issue left none (by
    intro grant _ named absent
    rw [absent] at named
    cases named)
  refine ⟨issued.1, issued.2, ?_, ?_, ?_⟩
  · intro grant member terminal named
    rcases List.mem_append.mp member with old | new
    · exact invariant.terminals grant old terminal named
    rw [List.mem_singleton] at new
    subst new
    cases named
  · intro entry member set
    exact List.mem_append_left _ (invariant.granted entry member set)
  intro entry member grant given named
  rcases List.mem_append.mp given with old | new
  · exact invariant.carried entry member grant old named
  rw [List.mem_singleton] at new
  subst new
  cases named

/-- The first publication attempt of a terminal takes a fresh sequence. -/
theorem publish (distinct : (entries.map (·.correlation)).Nodup)
    (known : entry.correlation ∈ reserved) (split : entries = before ++ entry :: after)
    (fresh : entry.outboundSequence = .none) (left : next ≠ 0) :
    LedgerGrants reserved (grants ++ [⟨⟨next⟩, some entry.correlation⟩])
      (before ++ { entry with
        outboundSequence := ⟨next⟩
        state := .publishing } :: after) (next + 1) := by
  obtain ⟨issued, numbered, given⟩ := invariant.numbered
  have present : entry ∈ entries := by simp [split]
  have unpublished : ∀ grant ∈ grants,
      grant.terminal ≠ some entry.correlation := by
    intro grant member named
    have same := invariant.carried entry present grant member named
    apply numbered.ne_zero (given grant member)
    rw [same, fresh]
    rfl
  have different : ∀ other ∈ before ++ after,
      other.correlation ≠ entry.correlation := by
    rw [split, List.map_append, List.map_cons, List.nodup_append, List.nodup_cons] at distinct
    obtain ⟨-, ⟨notAfter, -⟩, notBefore⟩ := distinct
    intro other member same
    rcases List.mem_append.mp member with old | old
    · exact notBefore _ (List.mem_map_of_mem old) _ List.mem_cons_self same
    · exact notAfter (same ▸ List.mem_map_of_mem old)
  have others : ∀ other ∈ before ++ after, other ∈ entries := by
    intro other member
    rw [split]
    rcases List.mem_append.mp member with old | old <;> simp [old]
  have sequences := invariant.issue left (some entry.correlation)
    fun grant member _ => unpublished grant member
  refine ⟨sequences.1, sequences.2, ?_, ?_, ?_⟩
  · intro grant member terminal named
    rcases List.mem_append.mp member with old | new
    · exact invariant.terminals grant old terminal named
    rw [List.mem_singleton] at new
    subst new
    cases named
    exact known
  · intro other member set
    rw [List.mem_append]
    rcases List.mem_cons.mp (List.perm_middle.mem_iff.mp member) with rfl | old
    · exact .inr (List.mem_singleton.mpr rfl)
    · exact .inl (invariant.granted other (others other old) set)
  intro other member grant given named
  rcases List.mem_cons.mp (List.perm_middle.mem_iff.mp member) with rfl | old
  · rcases List.mem_append.mp given with earlier | new
    · exact absurd named (unpublished grant earlier)
    rw [List.mem_singleton] at new
    subst new
    rfl
  rcases List.mem_append.mp given with earlier | new
  · exact invariant.carried other (others other old) grant earlier named
  rw [List.mem_singleton] at new
  subst new
  exact absurd (Option.some.inj named).symm (different other old)

theorem retry (present : entry ∈ entries) (set : entry.outboundSequence.isSet) :
    LedgerGrants reserved (grants ++ [⟨entry.outboundSequence, some entry.correlation⟩])
      entries next := by
  have earlier := invariant.granted entry present set
  have again : ∀ grant ∈ grants ++
      [⟨entry.outboundSequence, some entry.correlation⟩], grant ∈ grants := by
    intro grant member
    rcases List.mem_append.mp member with old | new
    · exact old
    · rw [List.mem_singleton] at new
      exact new ▸ earlier
  refine ⟨?_, ?_, ?_, ?_, ?_⟩
  · obtain ⟨issued, numbered, given⟩ := invariant.numbered
    exact ⟨issued, numbered, fun grant member => given grant (again grant member)⟩
  · refine List.pairwise_append.mpr
      ⟨invariant.consistent, List.pairwise_singleton _ _, ?_⟩
    intro grant member new last
    rw [List.mem_singleton] at last
    subst last
    by_cases same : grant = ⟨entry.outboundSequence, some entry.correlation⟩
    · subst same
      exact ⟨fun _ => ⟨rfl, rfl⟩, fun _ => rfl⟩
    · exact invariant.consistent.forall member earlier same
  · intro grant member
    exact invariant.terminals grant (again grant member)
  · intro other member known
    exact List.mem_append_left _ (invariant.granted other member known)
  · intro other member grant given
    exact invariant.carried other member grant (again grant given)

end

theorem step {ledger after : WorkerCompletionLedger}
    {confirmed : List WorkerItemTerminalCorrelation}
    (order : LedgerOrder reserved confirmed ledger.entries
      ledger.nextTerminalId ledger.nextTerminalOrder)
    (invariant : LedgerGrants reserved grants ledger.entries ledger.nextOutboundSequence)
    {operation : LedgerOperation} {result : LedgerResult}
    (stepped : LedgerStep ledger operation result after) :
    LedgerGrants (reserved ++ result.reservedTerminal.toList)
      (grants ++ result.outboundGrant.toList) after.entries after.nextOutboundSequence := by
  have distinct := order.retained.nodup order.nodup
  cases stepped with
  | refused | bound | closed | idle | repeated =>
    simpa [LedgerResult.reservedTerminal, LedgerResult.outboundGrant] using invariant
  | reserved few small idsLeft ordersLeft terminalId terminalOrder =>
    simpa [LedgerResult.reservedTerminal, LedgerResult.outboundGrant]
      using invariant.reserve (order.fresh idsLeft terminalId)
  | opened left =>
    simpa [LedgerResult.reservedTerminal, LedgerResult.outboundGrant]
      using invariant.openSequence left
  | completed split | published split | aborted split =>
    simp only [LedgerResult.reservedTerminal, LedgerResult.outboundGrant,
      Option.toList_none, List.append_nil]
    exact invariant.replace split rfl rfl
  | @began before entry _ _ split earlier ready fresh left =>
    have present : entry ∈ ledger.entries := by simp [split]
    have known := order.retained.subset (List.mem_map_of_mem present)
    simpa [LedgerResult.reservedTerminal, LedgerResult.outboundGrant]
      using invariant.publish distinct known split fresh left
  | @retried before entry _ _ split earlier ready set =>
    have present : entry ∈ ledger.entries := by simp [split]
    simp only [LedgerResult.reservedTerminal, LedgerResult.outboundGrant,
      Option.toList_none, List.append_nil, Option.toList_some]
    exact (invariant.retry present set).replace split rfl rfl
  | @acknowledged _ before entry after _ split =>
    simp only [LedgerResult.reservedTerminal, LedgerResult.outboundGrant,
      Option.toList_none, List.append_nil]
    apply invariant.mono
    intro other member
    refine ⟨other, ?_, rfl, rfl⟩
    rw [split]
    rcases List.mem_append.mp member with old | old <;> simp [old]

end LedgerGrants

/-! ## Limits -/

/-- The retained bytes are the sum over the entries, within the limits. -/
structure LedgerCapacity (limits : WorkerWorksetLimits) (ledger : WorkerCompletionLedger) :
    Prop where
  sum : ledger.retainedBytes = (ledger.entries.map (·.retainedBytes)).sum
  bytes : ledger.retainedBytes ≤ limits.maximumRetainedTerminalBytes
  count : ledger.entries.length ≤ limits.maximumRetainedTerminals.toNat
  maximumBytes : ledger.maximumBytes = limits.maximumRetainedTerminalBytes
  maximumTerminals : ledger.maximumTerminals = limits.maximumRetainedTerminals.toNat

variable {operation : LedgerOperation}

theorem LedgerCapacity.step {limits : WorkerWorksetLimits} {ledger after : WorkerCompletionLedger}
    (capacity : LedgerCapacity limits ledger) {result : LedgerResult}
    (stepped : LedgerStep ledger operation result after) : LedgerCapacity limits after := by
  obtain ⟨sum, bytes, count, maximumBytes, maximumTerminals⟩ := capacity
  cases stepped with
  | refused | bound | opened | closed | idle | repeated =>
    exact ⟨sum, bytes, count, maximumBytes, maximumTerminals⟩
  | reserved few small =>
    refine ⟨?_, ?_, ?_, maximumBytes, maximumTerminals⟩
    · simp [sum]
    · rw [← maximumBytes]
      exact small
    · simp only [List.length_append, List.length_singleton]
      omega
  | @completed _ _ before entry after retained split matching pending retains
      small =>
      rw [split] at sum count
      simp only [List.map_append, List.map_cons, List.sum_append,
        List.sum_cons, List.length_append, List.length_cons] at sum count
      have exact := retains (by omega)
      have within := small (by omega)
      refine ⟨?_, maximumBytes ▸ within, ?_, maximumBytes, maximumTerminals⟩
      · simp only [List.map_append, List.map_cons, List.sum_append, List.sum_cons]
        omega
      · simpa using count
  | began split | retried split | published split | aborted split =>
    rw [split] at sum count
    refine ⟨?_, bytes, ?_, maximumBytes, maximumTerminals⟩
    · simpa using sum
    · simpa using count
  | acknowledged split =>
    rw [split] at sum count
    simp only [List.map_append, List.map_cons, List.sum_append,
      List.sum_cons, List.length_append, List.length_cons] at sum count
    refine ⟨?_, by simp only; omega, ?_, maximumBytes, maximumTerminals⟩
    · simp only [List.map_append, List.sum_append]
      omega
    · simp only [List.length_append]
      omega

/-!
## What holds over the histories of the completion ledger

The laws say what a worker may rely on over any sequence of operations, called
by any thread and with any arguments.
-/

variable {next : WorkerCompletionLedger}

/-- The runs of the ledger. -/
abbrev LedgerRun (limits : WorkerWorksetLimits) := Run step (fun _ _ => True) (new limits)

/-- The ordering and conservation laws of a history that led to `ledger`. -/
structure LedgerLaws (limits : WorkerWorksetLimits)
    (history : List LedgerTransition) (ledger : WorkerCompletionLedger) : Prop where
  /-- Terminals are confirmed in the order of their reservation, and none
  before all earlier ones. -/
  inOrder : confirmedTerminals history <+: reservedTerminals history
  /-- The order of reservation is the terminal order 1, 2, 3 and so on. -/
  terminalOrders :
    (reservedTerminals history).map (·.terminalOrder.value.toNat) =
      List.range' 1 (reservedTerminals history).length
  once : (confirmedTerminals history).Nodup
  /-- All attempts of one terminal carry one outbound sequence, and no sequence
  is given out for anything else. -/
  sequences : (outboundGrants history).Pairwise OutboundGrant.Consistent
  /-- Only an exact acknowledgement after the publication takes an entry out. -/
  removal : ∀ earlier transition later,
    history = earlier ++ transition :: later →
      ∀ entry, LedgerTransition.Removes transition entry →
        transition.input.operation = .acknowledgeTerminal entry.correlation ∧
          transition.event = .ok .done ∧ entry.correlation ∈ confirmedTerminals earlier
  sum : ledger.retainedBytes = (ledger.entries.map (·.retainedBytes)).sum
  bytes : ledger.retainedBytes ≤ limits.maximumRetainedTerminalBytes
  count : ledger.entries.length ≤ limits.maximumRetainedTerminals.toNat
  refused : ∀ transition ∈ history, ∀ failure,
    transition.event = .error failure → transition.after = transition.before

/-- The three invariants together, over a history. -/
structure LedgerInvariant (limits : WorkerWorksetLimits)
    (history : List LedgerTransition) (ledger : WorkerCompletionLedger) : Prop where
  order : LedgerOrder (reservedTerminals history) (confirmedTerminals history)
    ledger.entries ledger.nextTerminalId ledger.nextTerminalOrder
  grants : LedgerGrants (reservedTerminals history) (outboundGrants history)
    ledger.entries ledger.nextOutboundSequence
  capacity : LedgerCapacity limits ledger

variable {limits : WorkerWorksetLimits}
variable {result : LedgerResult} {ledger : WorkerCompletionLedger}
variable {history : List LedgerTransition}

theorem WorkerCompletionLedger.step_ledgerStep {call : LedgerCall}
    (stepped : ledger.step call = some (result, next)) :
    LedgerStep ledger call.operation result next := by
  have performed := ledger.perform_step call.operation call.thread
  simp only [step, Option.some.injEq] at stepped
  rwa [stepped] at performed

theorem LedgerInvariant.new : LedgerInvariant limits [] (new limits) where
  order := by
    refine ⟨rfl, List.Sublist.refl _, .nil, .nil, ?_, .nil⟩
    intro entry member
    cases member
  grants := by
    refine ⟨⟨[], .nil, ?_⟩, .nil, ?_, ?_, ?_⟩ <;>
    · intro element member
      cases member
  capacity := ⟨rfl, Nat.zero_le _, Nat.zero_le _, rfl, rfl⟩

theorem LedgerInvariant.step {call : LedgerCall} (invariant : LedgerInvariant limits history ledger)
    (stepped : LedgerStep ledger call.operation result next) :
    LedgerInvariant limits (history ++ [⟨ledger, call, result, next⟩]) next := by
  have reserved : reservedTerminals
      (history ++ [⟨ledger, call, result, next⟩]) =
        reservedTerminals history ++ result.reservedTerminal.toList := by
    rw [reservedTerminals, List.filterMap_append]
    cases known : result.reservedTerminal <;> simp [reservedTerminals, known]
  have confirmed : confirmedTerminals
      (history ++ [⟨ledger, call, result, next⟩]) =
        confirmedTerminals history ++ (call.operation.confirmedTerminal result).toList := by
    rw [confirmedTerminals, List.filterMap_append]
    cases known : call.operation.confirmedTerminal result <;> simp [confirmedTerminals, known]
  have granted : outboundGrants (history ++ [⟨ledger, call, result, next⟩]) =
        outboundGrants history ++ result.outboundGrant.toList := by
    rw [outboundGrants, List.filterMap_append]
    cases known : result.outboundGrant <;> simp [outboundGrants, known]
  refine ⟨?_, ?_, invariant.capacity.step stepped⟩
  · rw [reserved, confirmed]
    exact invariant.order.step stepped
  · rw [reserved, granted]
    exact LedgerGrants.step invariant.order invariant.grants stepped

theorem LedgerInvariant.of_run (run : LedgerRun limits history ledger) :
    LedgerInvariant limits history ledger := by
  apply run.historyInvariant LedgerInvariant.new
  intro history ledger call result next invariant _ stepped
  exact invariant.step (step_ledgerStep stepped)

theorem LedgerStep.removes (stepped : LedgerStep ledger operation result next)
    {entry : LedgerEntry} (present : entry ∈ ledger.entries)
    (gone : ∀ kept ∈ next.entries, kept.correlation ≠ entry.correlation) :
    operation = .acknowledgeTerminal entry.correlation ∧ result = .ok .done ∧ entry.published := by
  have stays {before after : List LedgerEntry} {old changed : LedgerEntry}
      (split : ledger.entries = before ++ old :: after)
      (entries : next.entries = before ++ changed :: after)
      (same : changed.correlation = old.correlation) :
      ∃ kept ∈ next.entries, kept.correlation = entry.correlation := by
    rw [split] at present
    rw [entries]
    rcases List.mem_append.mp present with kept | rest
    · exact ⟨entry, by simp [kept], rfl⟩
    rcases List.mem_cons.mp rest with rfl | kept
    · exact ⟨changed, by simp, same⟩
    · exact ⟨entry, by simp [kept], rfl⟩
  cases stepped with
  | refused | bound | opened | closed | idle | repeated => exact absurd rfl (gone entry present)
  | reserved => exact absurd rfl (gone entry (List.mem_append_left _ present))
  | completed split | began split | retried split | published split
  | aborted split =>
    obtain ⟨kept, member, same⟩ := stays split rfl rfl
    exact absurd same (gone kept member)
  | acknowledged split matching awaiting =>
    rw [split] at present
    rcases List.mem_append.mp present with kept | rest
    · exact absurd rfl (gone entry (List.mem_append_left _ kept))
    rcases List.mem_cons.mp rest with rfl | kept
    · exact ⟨by rw [matching], rfl, awaiting⟩
    · exact absurd rfl (gone entry (List.mem_append_right _ kept))

/-- An operation that fails changes nothing. -/
theorem LedgerStep.unchanged {failure : CompletionLedgerFailure}
    (stepped : LedgerStep ledger operation (.error failure) next) : next = ledger := by
  cases stepped
  rfl

/-- Every history of the ledger keeps the ordering and conservation laws. -/
theorem ledgerLaws (run : LedgerRun limits history ledger) : LedgerLaws limits history ledger := by
  obtain ⟨order, grants, capacity⟩ := LedgerInvariant.of_run run
  have inOrder : confirmedTerminals history <+: reservedTerminals history := ⟨_, order.ordered.symm⟩
  refine ⟨inOrder, ?_, order.nodup.sublist inOrder.sublist, grants.consistent,
    ?_, capacity.sum, capacity.bytes, capacity.count, ?_⟩
  · have counted := order.terminalOrders.counted
    rwa [List.map_map, List.length_map] at counted
  · intro earlier transition later position entry removes
    obtain ⟨shorter, -, stepped⟩ := run.split position
    obtain ⟨acknowledges, done, published⟩ := (step_ledgerStep stepped).removes removes.1 removes.2
    have known := (LedgerInvariant.of_run shorter).order
    exact ⟨acknowledges, done, known.confirmedFirst entry removes.1 published⟩
  intro transition member failure failed
  obtain ⟨earlier, later, position⟩ := List.append_of_mem member
  obtain ⟨-, -, stepped⟩ := run.split position
  have step := step_ledgerStep stepped
  rw [failed] at step
  exact step.unchanged

namespace Sample

/-- An item of the workset under test. -/
def item (id : UInt64) : WorkerItemTerminalCorrelation where
  worksetId := ⟨1⟩
  itemId := ⟨id⟩
  itemOrdinal := 0
  invocationId := ⟨id⟩
  attemptId := ⟨1⟩
  terminalId := .none
  terminalOrder := .none

/-- The correlation of an item once its terminal is reserved. -/
def terminal (id : UInt64) : WorkerItemTerminalCorrelation :=
  { item id with terminalId := ⟨id⟩, terminalOrder := ⟨id⟩ }

/-- Two terminals complete out of order, the first is published after a retry,
and its acknowledgement takes it out. -/
def calls : List LedgerCall :=
  [.bindActorThread, .reserveTerminal (item 1) 4, .reserveTerminal (item 2) 4,
    .completeTerminal (terminal 2) [7], .beginNextPublication,
    .completeTerminal (terminal 1) [1, 2, 3, 4, 5], .beginNextPublication,
    .abortPublication (terminal 1), .acknowledgeTerminal (terminal 1),
    .beginNextPublication, .confirmPublished (terminal 1),
    .acknowledgeTerminal (terminal 1)].map (⟨0, ·⟩)

end Sample

theorem ledgerLaws_sample : ∃ history ledger, LedgerLaws {} history ledger ∧
      confirmedTerminals history = [Sample.terminal 1] ∧ ledger.entries.length = 1 ∧
      outboundGrants history = List.replicate 2 ⟨⟨1⟩, some (Sample.terminal 1)⟩ := by
  have replayed : ∃ history ledger, LedgerRun {} history ledger ∧ _ :=
    Run.exists_of_replay Sample.calls
      (fun history ledger =>
        confirmedTerminals history = [Sample.terminal 1] ∧ ledger.entries.length = 1 ∧
          outboundGrants history = List.replicate 2 ⟨⟨1⟩, some (Sample.terminal 1)⟩)
      (by decide +kernel)
  obtain ⟨history, ledger, run, checked⟩ := replayed
  exact ⟨history, ledger, ledgerLaws run, checked⟩

end Savor.Worksets


import Savor.Guest.MutationSteps

/-!
# Applying and committing mutations

An admitted mutation becomes the newest active one, and what it replaced is
kept.  A commit of an active mutation that meets no other active one leaves its
masked bits in the memory for good.
-/

namespace Savor.Guest

open Program Library

variable {Backend : Type} {port : GuestMemoryBackendPort Backend}
variable {memory : Backend → Nat → UInt8}

/-- A memory with the masked bits of a mutation changed to its replacement. -/
def GuestMutationReceipt.overlay (receipt : GuestMutationReceipt)
    (memory : Nat → UInt8) : Nat → UInt8 :=
  let size := receipt.width.size
  let address := receipt.address.toNat
  let value := scalarValue (readCells memory address size)
  writeCells memory address
    (scalarBytes size ((value &&& ~~~receipt.mask) ||| (receipt.replacement &&& receipt.mask)))

namespace GuestMutationService

variable {service next : GuestMutationService Backend}
variable {state : MutationState} {base : Nat → UInt8}

/-- The entry that a `Commit` closes. -/
def committedEntry (service : GuestMutationService Backend)
    (mutation : GuestMutationId) (epoch : WorksetEpoch) : Option MutationState :=
  (service.find mutation).filter fun state =>
    decide (state.receipt.epoch = epoch) && decide (epoch = service.epoch) &&
      decide (state.kind = .data) && !service.hasActiveChild mutation

theorem commit_cases (service : GuestMutationService Backend)
    (mutation : GuestMutationId) (epoch : WorksetEpoch) :
    (service.committedEntry mutation epoch = none ∧ (service.commit mutation epoch).1.ok = false ∧
        ((service.commit mutation epoch).2 = service ∨
          ∃ state message, service.find mutation = some state ∧
            (service.commit mutation epoch).2 = service.store (state.refuse message))) ∨
      ∃ state, service.committedEntry mutation epoch = some state ∧
        service.find mutation = some state ∧ service.commit mutation epoch =
          (state.markCommitted.receipt, service.store state.markCommitted) := by
  cases found : service.find mutation with
  | none => exact Or.inl (by simp [committedEntry, commit, found])
  | some state =>
    by_cases stale : state.receipt.epoch ≠ epoch ∨ epoch ≠ service.epoch
    · refine Or.inl ⟨?_, ?_, Or.inr ⟨state, text "mutation belongs to a stale epoch", rfl, ?_⟩⟩
      · rcases stale with stale | stale <;> simp [committedEntry, found, stale]
      · simp [commit, found, stale, MutationState.refuse]
      · simp only [commit, found, if_pos stale]
    by_cases patch : state.kind = .executablePatch
    · refine Or.inl ⟨?_, ?_, Or.inr ⟨state, text "executable patches cannot be committed", rfl, ?_⟩⟩
      · simp [committedEntry, found, patch]
      · simp [commit, found, stale, patch, MutationState.refuse]
      · simp only [commit, found, if_neg stale, if_pos patch]
    have data : state.kind = .data := by
      cases kind : state.kind with
      | data => rfl
      | executablePatch => exact absurd kind patch
    by_cases child : service.hasActiveChild mutation = true
    · refine Or.inl ⟨?_, ?_, Or.inr ⟨state,
    text "nested mutations must close in reverse order", rfl, ?_⟩⟩
      · simp [committedEntry, found, child]
      · simp [commit, found, stale, patch, child, MutationState.refuse]
      · simp only [commit, found, if_neg stale, if_neg patch, if_pos child]
    · refine Or.inr ⟨state, ?_, rfl, ?_⟩
      · push Not at stale
        simp [committedEntry, found, stale.1, stale.2, data, child]
      · simp only [commit, found, if_neg stale, if_neg patch, if_neg child]

/-- An active mutation meets none of the other active ones. -/
def StandsAlone (service : GuestMutationService Backend) (state : MutationState) : Prop :=
  ∀ other ∈ service.mutations, other.restorationRequired = true →
    other.id ≠ state.id → other.overlaps state.receipt.address state.receipt.width.size = false

theorem apart_of_overlaps {state other : MutationState}
    (clear : other.overlaps state.receipt.address state.receipt.width.size = false) :
    other.write.Apart state.write := by
  simp only [MutationState.overlaps, Bool.and_eq_false_iff,
    decide_eq_false_iff_not, Nat.not_lt] at clear
  unfold ReversibleWrite.Apart RangesApart
  rw [MutationState.write_size, MutationState.write_size]
  exact clear.symm

variable {mutation : GuestMutationId}

theorem commit_active (reverting : service.Reverting memory base)
    (found : service.find mutation = some state) (active : state.restorationRequired = true)
    (alone : service.StandsAlone state) : (service.store state.markCommitted).Reverting memory
      (state.markCommitted.receipt.overlay base) := by
  obtain ⟨older, newer, split, named, stored⟩ := find_split found
  have listed : state ∈ service.mutations := Keyed.mem_of_lookup found
  have formed := (reverting.sound.formed state.held (List.mem_map_of_mem listed)).of_held
  have sound := reverting.sound
  have base_eq := reverting.base
  have distinct := sound.nodup
  rw [List.map_map, split, List.map_append, List.map_cons, List.nodup_append,
    List.nodup_cons] at distinct
  rw [split, List.map_append, List.map_cons] at sound base_eq
  have apart : ∀ other ∈ older.map MutationState.held ++
      newer.map MutationState.held, other.restorationRequired = true →
        state.held.write.Apart other.write := by
    intro other member otherActive
    rw [← List.map_append] at member
    obtain ⟨entry, present, rfl⟩ := List.mem_map.mp member
    have inTable : entry ∈ service.mutations := by
      rw [split]
      rcases List.mem_append.mp present with old | new
      · exact List.mem_append_left _ old
      · exact List.mem_append_right _ (List.mem_cons_of_mem _ new)
    have different : entry.id ≠ state.id := by
      rcases List.mem_append.mp present with old | new
      · intro same
        exact distinct.2.2 entry.id (List.mem_map_of_mem old) state.id List.mem_cons_self same
      intro same
      apply distinct.2.1.1
      have member : entry.id ∈ newer.map MutationState.id := List.mem_map_of_mem new
      rwa [same] at member
    exact (apart_of_overlaps (alone entry inTable otherActive different)).symm
  obtain ⟨soundAfter, baseAfter, replaced⟩ :=
    sound.keep (show state.held.restorationRequired = true from active) apart
  rw [base_eq] at baseAfter replaced
  have table : (service.store state.markCommitted).mutations.map
      MutationState.held = older.map MutationState.held ++
        state.held.close .committed :: newer.map MutationState.held := by
    have entered : (service.store state.markCommitted).mutations =
        older ++ state.markCommitted :: newer :=
      stored state.markCommitted rfl
    rw [entered, List.map_append, List.map_cons]
    rfl
  have overlaid : state.markCommitted.receipt.overlay base =
      writeCells base state.held.write.address state.held.write.stored := by
    have value : scalarValue (readCells base state.receipt.address.toNat
        state.receipt.width.size) = state.receipt.original := by
      have cells : readCells base state.receipt.address.toNat
          state.receipt.width.size = scalarBytes state.receipt.width.size
            state.receipt.original := by
        rw [MutationState.write_size] at replaced
        exact replaced
      have small := formed.small
      rw [cells, scalarValue_scalarBytes (by omega) formed.original]
    change writeCells base state.receipt.address.toNat
      (scalarBytes state.receipt.width.size
        ((scalarValue (readCells base state.receipt.address.toNat
          state.receipt.width.size) &&& ~~~state.receipt.mask) |||
            (state.receipt.replacement &&& state.receipt.mask))) = _
    rw [value, formed.masked]
    rfl
  refine ⟨fun _ => reverting.opened (List.ne_nil_of_mem listed), ?_, ?_⟩
  · rw [table]
    exact soundAfter
  · rw [table, overlaid]
    exact baseAfter

theorem find_store (reverting : service.Reverting memory base)
    {change : MutationState} (found : service.find mutation = some state)
    (same : change.held = state.held) : (service.store change).find mutation = some change := by
  obtain ⟨older, newer, split, named, stored⟩ := find_split found
  have changeNamed : change.held.id = state.held.id := congrArg MutationState.id same
  obtain ⟨after, table⟩ := reverting.store found same
  have distinct : ((service.store change).mutations.map MutationState.id).Nodup := by
    have ids := after.sound.nodup
    rwa [List.map_map] at ids
  have member : change ∈ (service.store change).mutations := by
    rw [stored change changeNamed]
    exact List.mem_append_right _ List.mem_cons_self
  have key : change.id = mutation := changeNamed.trans named
  rw [← key]
  exact Keyed.lookup_key distinct member

section

variable (holds : port.Holds memory) (invalidates : port.Invalidates)
variable (paused : port.isPaused service.backend = true)
include holds invalidates paused

/-- An invalidation only concerns the cache. -/
theorem invalidate_spec (kind : GuestMutationKind) (address : UInt32) (width : GuestScalarWidth) :
    ∃ result backend,
      service.invalidate port kind address width = (result, { service with backend }) ∧
      result.ok = true ∧ memory backend = memory service.backend ∧
      port.isPaused backend = true := by
  cases kind with
  | data => exact ⟨.success, service.backend, rfl, rfl, rfl, paused⟩
  | executablePatch =>
    refine ⟨_, _, rfl, invalidates _ _ _, holds.invalidate _ _ _, ?_⟩
    rw [← paused]
    exact holds.invalidatePaused _ _ _

theorem finishApply_spec (reverting : service.Reverting memory base)
    {request : GuestMutationRequest} (found : service.find state.id = some state)
    (address : state.receipt.address = request.address)
    (width : state.receipt.width = request.width) (epoch : request.epoch = service.epoch)
    (formed : state.Formed service.epoch) (active : state.receipt.status = .active)
    (stands : readCells (memory service.backend) state.receipt.address.toNat
        state.receipt.width.size = scalarBytes state.receipt.width.size state.receipt.replacement) :
    (service.finishApply port request state).1.ok = true ∧
      RestoreKeeps port memory base service (service.finishApply port request state).2 := by
  obtain ⟨result, backend, equal, ok, same, stillPaused⟩ :=
    invalidate_spec holds invalidates paused request.kind request.address request.width
  let after : GuestMutationService Backend := { service with backend }
  have reverting' : after.Reverting memory base := by
    refine ⟨reverting.opened, ?_, ?_⟩
    · change Sound _ _ _ _ (memory backend)
      rw [same]
      exact reverting.sound
    change ReversibleWrite.undoAll _ (memory backend) = base
    rw [same]
    exact reverting.base
  let marked := if request.kind = .executablePatch then state.markInvalidated
    else state
  have markedHeld : marked.held = state.held := by
    simp only [marked]
    split <;> rfl
  have markedReplacement : marked.receipt.replacement =
      state.receipt.replacement := by
    simp only [marked]
    split <;> rfl
  have markedStatus : marked.receipt.status = .active := by
    rw [← active]
    simp only [marked]
    split <;> rfl
  have foundAfter : after.find state.id = some state := found
  obtain ⟨revertingStored, _⟩ := reverting'.store foundAfter markedHeld
  have foundStored := find_store reverting' foundAfter markedHeld
  have readBack : (after.store marked).read port request.address request.width
      request.epoch = { ok := true, value := state.receipt.replacement } := by
    have cells : readCells (memory (after.store marked).backend)
        request.address.toNat request.width.size =
          scalarBytes request.width.size state.receipt.replacement := by
      change readCells (memory backend) _ _ = _
      rw [same, ← address, ← width]
      exact stands
    have small := formed.small
    have fits := formed.replacement
    rw [width] at small fits
    rw [epoch]
    have opened := reverting.opened (List.ne_nil_of_mem (Keyed.mem_of_lookup found))
    have paused : port.isPaused (after.store marked).backend = true := stillPaused
    exact read_scalarBytes holds paused opened small fits cells
  have activeHeld : marked.markActive.held = marked.held := by
    simp only [MutationState.markActive, MutationState.held, ← markedStatus]
  obtain ⟨revertingLast, _⟩ := revertingStored.store foundStored activeHeld
  have finished : service.finishApply port request state =
      (marked.markActive.receipt, (after.store marked).store marked.markActive) := by
    have confirmed : after.confirmApply port request marked =
        (marked.markActive.receipt, (after.store marked).store marked.markActive) := by
      unfold confirmApply
      simp only [readBack, markedReplacement, Bool.not_true, ne_eq,
        not_true_eq_false, decide_false, Bool.or_self, Bool.false_eq_true, if_false]
    unfold finishApply
    rw [equal]
    simp only [ok, Bool.not_true, Bool.false_eq_true, if_false]
    exact confirmed
  rw [finished]
  exact ⟨rfl, revertingLast, stillPaused, rfl, rfl, rfl, rfl⟩

end

/-- What the checks of `Apply` establish. -/
structure Admits (port : GuestMemoryBackendPort Backend) (service : GuestMutationService Backend)
    (request : GuestMutationRequest) : Prop where
  running : service.stopped = false
  opened : service.epoch.isSet = true
  epoch : request.epoch = service.epoch
  paused : port.isPaused service.backend = true
  small : request.width.size ≤ 4
  nests : ∀ other ∈ service.mutations, other.restorationRequired = true →
    other.overlaps request.address request.width.size = false ∨ request.parent = some other.id

theorem refusal_eq_none {condition : Prop} [Decidable condition]
    {message : ByteString} {rest : Option ByteString} :
    (if condition then some message else rest) = none ↔ ¬condition ∧ rest = none := by
  split <;> simp_all

variable {request : GuestMutationRequest}

theorem admits_of_applyRefusal (admitted : service.applyRefusal port request = none) :
    Admits port service request := by
  simp only [applyRefusal, refusal_eq_none] at admitted
  obtain ⟨running, current, paused, sizes, -, -, -, overlaps, -⟩ := admitted
  simp only [Bool.or_eq_true, decide_eq_true_eq, not_or, ne_eq, not_not] at current
  have set : request.epoch.isSet = true := by simpa using current.1.2
  rw [current.2] at set
  refine ⟨by simpa using running, set, current.2, by simpa using paused, by omega, ?_⟩
  intro other listed active
  rw [Bool.not_eq_true, List.any_eq_false] at overlaps
  have clear := overlaps other listed
  cases meets : other.overlaps request.address request.width.size with
  | false => exact Or.inl rfl
  | true =>
    simp only [active, meets, GuestMutationRequest.nestsIn, Bool.and_self,
      Bool.true_and, Bool.not_eq_true', Bool.not_eq_false, Bool.and_eq_true,
      decide_eq_true_eq] at clear
    exact Or.inr clear.1

/-- `Apply` enters a mutation that can be taken back, or changes nothing. -/
theorem apply_cases (holds : port.Holds memory) (invalidates : port.Invalidates)
    (reverting : service.Reverting memory base) (parent : ∀ parent, request.parent = some parent →
      parent.value < service.nextMutation) :
    ((service.apply port request).1.ok = false ∧ (service.apply port request).2 = service) ∨
      (service.apply port request).1.ok = true ∧ service.stopped = false ∧
        RestoreKeeps port memory base service (service.apply port request).2 := by
  cases refused : service.applyRefusal port request with
  | some message => refine Or.inl ⟨?_, ?_⟩ <;> simp [apply, refused, GuestMutationRequest.failure]
  | none =>
    have admits := admits_of_applyRefusal refused
    have before : service.read port request.address request.width
        service.epoch = _ :=
      read_eq holds admits.paused admits.opened request.address request.width
    rw [← admits.epoch] at before
    have short : (readCells (memory service.backend) request.address.toNat
        request.width.size).length ≤ 8 := by
      have := admits.small
      rw [length_readCells]
      omega
    generalize original : scalarValue (readCells (memory service.backend)
      request.address.toNat request.width.size) = value at before
    have originalFits : Fits request.width.size value := by
      rw [← original]
      have fits := scalarValue_fits short
      rwa [length_readCells] at fits
    let mask := request.mask &&& request.width.widthMask
    let replacement := ((value &&& ~~~mask) ||| (request.replacement &&& mask))
      &&& request.width.widthMask
    by_cases mismatch : value &&& mask ≠ request.expected &&& mask
    · refine Or.inl ⟨?_, ?_⟩ <;>
        simp [apply, refused, before, mask, mismatch, GuestMutationRequest.failure]
    obtain ⟨result, backend, equal, ok, writes, stillPaused⟩ :=
      writeValue_spec holds admits.paused request.address request.width replacement
    let entry := service.newEntry request value replacement
    let after : GuestMutationService Backend := { service with backend }
    have applied : service.apply port request =
        (after.insert entry).finishApply port request entry := by
      unfold apply
      simp only [refused, before, Bool.not_true, Bool.false_eq_true, if_false]
      rw [if_neg mismatch, equal]
      simp only [ok, Bool.not_true, Bool.false_eq_true, if_false]
      rfl
    have formed : entry.Formed service.epoch := by
      refine ⟨admits.epoch, admits.small, originalFits,
        fits_and_widthMask _ _, masked_replacement (and_widthMask originalFits), fun _ => rfl, ?_⟩
      intro inactive
      simp [entry, newEntry] at inactive
    have saved : entry.held.write.saved = readCells (memory service.backend)
        entry.held.write.address entry.held.write.size := by
      rw [MutationState.write_size]
      have spelled := scalarBytes_scalarValue short
      rw [length_readCells, original] at spelled
      exact spelled
    have restored : entry.held.restorationRequired = true := rfl
    obtain ⟨sound, based⟩ := reverting.sound.push rfl rfl restored ⟨formed.epoch, formed.small, formed.original,
        formed.replacement, formed.masked, formed.active, formed.closed⟩
      parent
      (by
        intro other listed active
        obtain ⟨held, present, rfl⟩ := List.mem_map.mp listed
        rcases admits.nests held present active with clear | child
        · have apart : held.write.Apart entry.write := apart_of_overlaps clear
          exact Or.inl apart
        · exact Or.inr child)
      saved
    have table : (after.insert entry).mutations.map MutationState.held =
        service.mutations.map MutationState.held ++ [entry.held] := by
      simp [insert, after]
    have memoryAfter : memory (after.insert entry).backend =
        writeCells (memory service.backend) entry.held.write.address entry.held.write.stored :=
      writes
    have inserted : (after.insert entry).Reverting memory base := by
      refine ⟨fun _ => admits.opened, ?_, ?_⟩
      · rw [table, memoryAfter]
        exact sound
      · rw [table, memoryAfter, based]
        exact reverting.base
    have found : (after.insert entry).find entry.id = some entry := by
      have distinct := inserted.sound.nodup
      rw [List.map_map] at distinct
      have member : entry ∈ (after.insert entry).mutations := by simp [insert]
      have looked := Keyed.lookup_key distinct member
      exact looked
    have stands : readCells (memory (after.insert entry).backend)
        entry.receipt.address.toNat entry.receipt.width.size =
          scalarBytes entry.receipt.width.size entry.receipt.replacement := by
      rw [memoryAfter]
      have cells : readCells
          (writeCells (memory service.backend) entry.held.write.address entry.held.write.stored)
          entry.held.write.address entry.held.write.stored.length = _ :=
        readCells_writeCells
      have length : entry.held.write.saved.length =
          entry.receipt.width.size :=
        length_scalarBytes _ _
      rw [entry.held.write.sameLength, length] at cells
      exact cells
    have paused : port.isPaused (after.insert entry).backend = true := stillPaused
    obtain ⟨accepted, keeps⟩ := finishApply_spec holds invalidates paused
      inserted found rfl rfl admits.epoch formed rfl stands
    rw [applied]
    exact Or.inr ⟨accepted, admits.running, keeps.reverting, keeps.paused,
      keeps.epoch, keeps.ownerThread, keeps.stopped, keeps.shutdownResult⟩

end GuestMutationService
end Savor.Guest

import Savor.Guest.GuestMutationService

/-!
# The active mutations as reversible writes

The active mutations, the newest first, are a list of reversible writes that is
intact in the guest's memory: each stands once the newer ones are taken back.
Overlaps only run from a child to its parent, so a mutation without an active
child is not overlapped by a newer one.
-/

namespace Savor.Guest

open Program Library
open ReversibleWrite
open UnstableSort

namespace MutationState

/-- The write of a mutation, with the bytes that it replaced. -/
def write (state : MutationState) : ReversibleWrite UInt8 where
  address := state.receipt.address.toNat
  saved := scalarBytes state.receipt.width.size state.receipt.original
  stored := scalarBytes state.receipt.width.size state.receipt.replacement
  sameLength := by simp

@[simp] theorem write_size (state : MutationState) : state.write.size = state.receipt.width.size :=
  length_scalarBytes _ _

/-- An entry without what the calls that refuse it write down. -/
def held (state : MutationState) : MutationState :=
  { state with
    receipt :=
      { state.receipt with
        ok := false
        cacheInvalidated := false
        taintRequired := false
        message := [] } }

/-- An entry that is not active any more. -/
def close (status : GuestMutationStatus) (state : MutationState) : MutationState :=
  { state with
    receipt := { state.receipt with status }
    restorationRequired := false }

/-- What holds of every entry for the epoch of its service. -/
structure Formed (epoch : WorksetEpoch) (state : MutationState) : Prop where
  epoch : state.receipt.epoch = epoch
  small : state.receipt.width.size ≤ 4
  original : Fits state.receipt.width.size state.receipt.original
  replacement : Fits state.receipt.width.size state.receipt.replacement
  masked :
    (state.receipt.original &&& ~~~state.receipt.mask) |||
      (state.receipt.replacement &&& state.receipt.mask) = state.receipt.replacement
  active : state.restorationRequired = true → state.receipt.status = .active
  closed : state.restorationRequired = false →
    state.receipt.status = .restored ∨ state.receipt.status = .committed

theorem Formed.of_held {epoch : WorksetEpoch} {state : MutationState}
    (formed : state.held.Formed epoch) : state.Formed epoch :=
  ⟨formed.epoch, formed.small, formed.original, formed.replacement,
    formed.masked, formed.active, formed.closed⟩

theorem Formed.close {epoch : WorksetEpoch} {state : MutationState}
    {status : GuestMutationStatus} (formed : state.Formed epoch)
    (ended : status = .restored ∨ status = .committed) : (state.close status).Formed epoch where
  epoch := formed.epoch
  small := formed.small
  original := formed.original
  replacement := formed.replacement
  masked := formed.masked
  active := by simp [MutationState.close]
  closed := fun _ => ended

end MutationState

/-- The writes of the active mutations, the newest first. -/
def activeWrites (mutations : List MutationState) : List (ReversibleWrite UInt8) :=
  ((mutations.filter MutationState.restorationRequired).map MutationState.write).reverse

/-- The table is sound in a memory.  `next` and `nextSequence` are the counters
of the service. -/
structure Sound (epoch : WorksetEpoch) (next nextSequence : Nat)
    (mutations : List MutationState) (memory : Nat → UInt8) : Prop where
  ordered : mutations.Pairwise fun older newer =>
    older.id.value < newer.id.value ∧ older.acquisitionSequence < newer.acquisitionSequence
  counted : ∀ state ∈ mutations, state.id.value < next ∧ state.acquisitionSequence < nextSequence
  formed : ∀ state ∈ mutations, state.Formed epoch
  parents : ∀ state ∈ mutations, ∀ parent,
    state.parent = some parent → parent.value < state.id.value
  nested : mutations.Pairwise fun older newer =>
    older.restorationRequired = true → newer.restorationRequired = true →
      older.write.Apart newer.write ∨ newer.parent = some older.id
  intact : ReversibleWrite.Intact (activeWrites mutations) memory

namespace Sound

variable {epoch : WorksetEpoch} {next nextSequence : Nat}
variable {older newer mutations : List MutationState} {state : MutationState}
variable {memory : Nat → UInt8}

theorem nil : Sound epoch next nextSequence [] memory where
  ordered := .nil
  counted := by simp
  formed := by simp
  parents := by simp
  nested := .nil
  intact := trivial

/-- Ids are not used twice. -/
theorem nodup (sound : Sound epoch next nextSequence mutations memory) :
    (mutations.map MutationState.id).Nodup := by
  rw [List.nodup_iff_pairwise_ne, List.pairwise_map]
  refine sound.ordered.imp fun {first second} order same => ?_
  rw [same] at order
  exact absurd order.1 (Nat.lt_irrefl _)

theorem activeWrites_split (active : state.restorationRequired = true) :
    activeWrites (older ++ state :: newer) =
      activeWrites newer ++ state.write :: activeWrites older := by
  simp [activeWrites, active]

theorem activeWrites_close {status : GuestMutationStatus} :
    activeWrites (older ++ state.close status :: newer) =
      activeWrites newer ++ activeWrites older := by
  simp [activeWrites, MutationState.close]

section

variable
    (sound : Sound epoch next nextSequence (older ++ state :: newer) memory)
include sound

section

variable
    (active : state.restorationRequired = true)
    (childless : ∀ other ∈ older ++ state :: newer,
      other.restorationRequired = true → other.parent ≠ some state.id)
include active childless

/-- A newer active mutation does not meet a mutation without active child. -/
theorem apart_newer : ∀ write ∈ activeWrites newer, state.write.Apart write := by
  intro write member
  simp only [activeWrites, List.mem_reverse, List.mem_map, List.mem_filter] at member
  obtain ⟨other, ⟨listed, otherActive⟩, rfl⟩ := member
  have pairs := (List.pairwise_append.mp sound.nested).2.1
  rcases (List.pairwise_cons.mp pairs).1 other listed active otherActive with
    apart | child
  · exact apart
  have present : other ∈ older ++ state :: newer :=
    List.mem_append_right _ (List.mem_cons_of_mem _ listed)
  exact absurd child (childless other present otherActive)

/-- A mutation without active child stands in the memory. -/
theorem stands : readCells memory state.receipt.address.toNat state.receipt.width.size =
      scalarBytes state.receipt.width.size state.receipt.replacement := by
  have intact := sound.intact
  rw [activeWrites_split active] at intact
  have stands := intact.stands (sound.apart_newer active childless)
  rwa [MutationState.write_size] at stands

end

theorem close_entry {status : GuestMutationStatus}
    (ended : status = .restored ∨ status = .committed) {after : Nat → UInt8}
    (intact : ReversibleWrite.Intact (activeWrites newer ++ activeWrites older) after) :
    Sound epoch next nextSequence (older ++ state.close status :: newer) after := by
  have inSplit : ∀ other ∈ older ++ state.close status :: newer,
      other = state.close status ∨ other ∈ older ++ state :: newer := by
    intro other member
    rcases List.mem_append.mp member with old | new
    · exact Or.inr (List.mem_append_left _ old)
    rcases List.mem_cons.mp new with same | later
    · exact Or.inl same
    · exact Or.inr (List.mem_append_right _ (List.mem_cons_of_mem _ later))
  have stateListed : state ∈ older ++ state :: newer := by simp
  constructor
  · have ordered := sound.ordered
    rw [List.pairwise_append, List.pairwise_cons] at ordered ⊢
    refine ⟨ordered.1, ordered.2.1, ?_⟩
    intro first firstListed second secondListed
    rcases List.mem_cons.mp secondListed with rfl | later
    · exact ordered.2.2 first firstListed state List.mem_cons_self
    · exact ordered.2.2 first firstListed second (List.mem_cons_of_mem _ later)
  · intro other member
    rcases inSplit other member with rfl | listed
    · exact sound.counted state stateListed
    · exact sound.counted other listed
  · intro other member
    rcases inSplit other member with rfl | listed
    · exact (sound.formed state stateListed).close ended
    · exact sound.formed other listed
  · intro other member
    rcases inSplit other member with rfl | listed
    · exact sound.parents state stateListed
    · exact sound.parents other listed
  · have nested := sound.nested
    rw [List.pairwise_append, List.pairwise_cons] at nested ⊢
    refine ⟨nested.1, ⟨?_, nested.2.1.2⟩, ?_⟩
    · intro other _ inactive
      simp [MutationState.close] at inactive
    intro first firstListed second secondListed firstActive secondActive
    rcases List.mem_cons.mp secondListed with rfl | later
    · simp [MutationState.close] at secondActive
    · exact nested.2.2 first firstListed second
        (List.mem_cons_of_mem _ later) firstActive secondActive
  · rw [activeWrites_close]
    exact intact

theorem takeBack (active : state.restorationRequired = true)
    (childless : ∀ other ∈ older ++ state :: newer,
      other.restorationRequired = true → other.parent ≠ some state.id) :
    Sound epoch next nextSequence (older ++ state.close .restored :: newer)
        (state.write.undo memory) ∧ undoAll (activeWrites (older ++ state.close .restored :: newer))
          (state.write.undo memory) = undoAll (activeWrites (older ++ state :: newer)) memory := by
  have apart := sound.apart_newer active childless
  have intact := sound.intact
  rw [activeWrites_split active] at intact
  refine ⟨sound.close_entry (Or.inl rfl) (intact.takeBack apart), ?_⟩
  rw [activeWrites_close, activeWrites_split active]
  exact undoAll_undo apart

theorem keep (active : state.restorationRequired = true) (alone : ∀ other ∈ older ++ newer,
      other.restorationRequired = true → state.write.Apart other.write) :
    Sound epoch next nextSequence (older ++ state.close .committed :: newer) memory ∧ undoAll
          (activeWrites (older ++ state.close .committed :: newer)) memory = writeCells
          (undoAll (activeWrites (older ++ state :: newer)) memory)
          state.write.address state.write.stored ∧ readCells
          (undoAll (activeWrites (older ++ state :: newer)) memory)
          state.write.address state.write.size = state.write.saved := by
  have apart : ∀ write ∈ activeWrites newer ++ activeWrites older,
      state.write.Apart write := by
    intro write member
    simp only [activeWrites, List.mem_append, List.mem_reverse, List.mem_map,
      List.mem_filter] at member
    rcases member with ⟨other, ⟨listed, otherActive⟩, rfl⟩ | ⟨other, ⟨listed, otherActive⟩, rfl⟩
    · exact alone other (List.mem_append_right _ listed) otherActive
    · exact alone other (List.mem_append_left _ listed) otherActive
  have intact := sound.intact
  rw [activeWrites_split active] at intact
  refine ⟨sound.close_entry (Or.inr rfl) (intact.keep apart), ?_⟩
  rw [activeWrites_close, activeWrites_split active]
  exact intact.undoAll_keep apart

end

theorem push (sound : Sound epoch next nextSequence mutations memory) (named : state.id = ⟨next⟩)
    (sequenced : state.acquisitionSequence = nextSequence)
    (active : state.restorationRequired = true) (formed : state.Formed epoch)
    (parent : ∀ parent, state.parent = some parent → parent.value < next)
    (nests : ∀ other ∈ mutations, other.restorationRequired = true →
      other.write.Apart state.write ∨ state.parent = some other.id)
    (replaced : state.write.saved = readCells memory state.write.address state.write.size) :
    Sound epoch (next + 1) (nextSequence + 1) (mutations ++ [state])
        (writeCells memory state.write.address state.write.stored) ∧
      undoAll (activeWrites (mutations ++ [state]))
          (writeCells memory state.write.address state.write.stored) =
        undoAll (activeWrites mutations) memory := by
  have writes : activeWrites (mutations ++ [state]) =
      state.write :: activeWrites mutations := by
    simp [activeWrites, active]
  rw [writes, undoAll, undo_write replaced]
  refine ⟨?_, rfl⟩
  constructor
  · rw [List.pairwise_append]
    refine ⟨sound.ordered, List.pairwise_singleton _ _, ?_⟩
    intro other listed new isNew
    rw [List.mem_singleton] at isNew
    rw [isNew, named, sequenced]
    exact sound.counted other listed
  · intro other member
    rcases List.mem_append.mp member with listed | new
    · have counted := sound.counted other listed
      omega
    rw [List.mem_singleton] at new
    rw [new, named, sequenced]
    exact ⟨Nat.lt_succ_self _, Nat.lt_succ_self _⟩
  · intro other member
    rcases List.mem_append.mp member with listed | new
    · exact sound.formed other listed
    · rw [List.mem_singleton] at new
      rwa [new]
  · intro other member
    rcases List.mem_append.mp member with listed | new
    · exact sound.parents other listed
    rw [List.mem_singleton] at new
    rw [new, named]
    exact parent
  · rw [List.pairwise_append]
    refine ⟨sound.nested, List.pairwise_singleton _ _, ?_⟩
    intro other listed new isNew otherActive _
    rw [List.mem_singleton] at isNew
    rw [isNew]
    exact nests other listed otherActive
  · rw [writes]
    exact sound.intact.push replaced

end Sound

/-!
## What the operations of the mutation service do

Over a memory that keeps what is written and a cache that can be invalidated,
the restoration of an active mutation without active child takes its write back
and reads the original.  Every operation keeps the table sound.
-/

variable {Backend : Type} {port : GuestMemoryBackendPort Backend}
variable {memory : Backend → Nat → UInt8}

/-- Every invalidation of the instruction cache succeeds. -/
def GuestMemoryBackendPort.Invalidates (port : GuestMemoryBackendPort Backend) : Prop :=
  ∀ backend address size, (port.invalidateExecutableRange backend address size).1.ok = true

/-- A restoration that needs no cleanup. -/
structure GuestMutationReceipt.Restores (receipt : GuestMutationReceipt) : Prop where
  ok : receipt.ok = true
  untainted : receipt.taintRequired = false

/-- A cleanup that restored everything it attempted. -/
structure GuestMutationCleanupReceipt.Clean (receipt : GuestMutationCleanupReceipt) : Prop where
  ok : receipt.ok = true
  untainted : receipt.taintRequired = false
  restorations : ∀ restoration ∈ receipt.restorations, restoration.Restores

namespace GuestMutationService

variable {service next : GuestMutationService Backend}
variable {state : MutationState} {base : Nat → UInt8}

/-- The service is open and would take the memory back to `base`. -/
structure Reverting (memory : Backend → Nat → UInt8) (base : Nat → UInt8)
    (service : GuestMutationService Backend) : Prop where
  opened : service.mutations ≠ [] → service.epoch.isSet = true
  sound : Sound service.epoch service.nextMutation
    service.nextAcquisitionSequence (service.mutations.map MutationState.held)
    (memory service.backend)
  base : undoAll (activeWrites (service.mutations.map MutationState.held))
    (memory service.backend) = base

theorem read_eq (holds : port.Holds memory) (paused : port.isPaused service.backend = true)
    (opened : service.epoch.isSet = true) (address : UInt32) (width : GuestScalarWidth) :
    service.read port address width service.epoch =
      { ok := true
        value := scalarValue (readCells (memory service.backend) address.toNat width.size) } :=
  readScalar_eq holds paused opened address width

theorem read_scalarBytes (holds : port.Holds memory) (paused : port.isPaused service.backend = true)
    (opened : service.epoch.isSet = true)
    {address : UInt32} {width : GuestScalarWidth} {value : UInt64}
    (small : width.size ≤ 4) (fits : Fits width.size value)
    (written : readCells (memory service.backend) address.toNat width.size =
      scalarBytes width.size value) :
    service.read port address width service.epoch = { ok := true, value } := by
  rw [read_eq holds paused opened, written, scalarValue_scalarBytes (by omega) fits]

theorem writeValue_spec (holds : port.Holds memory) (paused : port.isPaused service.backend = true)
    (address : UInt32) (width : GuestScalarWidth) (value : UInt64) : ∃ result backend,
      service.writeValue port address width value = (result, { service with backend }) ∧
      result.ok = true ∧ memory backend = writeCells (memory service.backend) address.toNat
        (scalarBytes width.size value) ∧ port.isPaused backend = true := by
  obtain ⟨writeOk, writes⟩ := holds.write service.backend address (scalarBytes width.size value)
  refine ⟨_, _, rfl, writeOk, writes, ?_⟩
  rw [← paused]
  exact holds.writePaused _ _ _

theorem confirmRestored_eq (holds : port.Holds memory)
    (paused : port.isPaused service.backend = true)
    (opened : service.epoch.isSet = true) (formed : state.Formed service.epoch)
    (written : readCells (memory service.backend) state.receipt.address.toNat
        state.receipt.width.size = scalarBytes state.receipt.width.size state.receipt.original) :
    service.confirmRestored port state service.epoch = state.markRestored := by
  have after := read_scalarBytes holds paused opened formed.small formed.original written
  simp [confirmRestored, after]

/-- What a restoration of an entry has done when it succeeded. -/
structure EntryRestored (port : GuestMemoryBackendPort Backend)
    (memory : Backend → Nat → UInt8) (state : MutationState)
    (after : Nat → UInt8) (restored : MutationState) (backend : Backend) : Prop where
  held : restored.held = (state.close .restored).held
  restores : restored.receipt.Restores
  memory : memory backend = after
  paused : port.isPaused backend = true

theorem finishRestore_spec (holds : port.Holds memory) (invalidates : port.Invalidates)
    (paused : port.isPaused service.backend = true)
    (opened : service.epoch.isSet = true) (formed : state.Formed service.epoch)
    (written : readCells (memory service.backend) state.receipt.address.toNat
        state.receipt.width.size = scalarBytes state.receipt.width.size state.receipt.original) :
    ∃ restored backend,
      service.finishRestore port state service.epoch = (restored, { service with backend }) ∧
      EntryRestored port memory state (memory service.backend) restored backend := by
  cases kind : state.kind with
  | data =>
    refine ⟨state.markRestored, service.backend, ?_, ?_⟩
    · simp only [finishRestore, kind]
      rw [confirmRestored_eq holds paused opened formed written]
    · exact ⟨rfl, ⟨rfl, rfl⟩, rfl, paused⟩
  | executablePatch =>
    let invalidated := port.invalidateExecutableRange service.backend
      state.receipt.address state.receipt.width.size
    let invalid : GuestMutationService Backend := { service with backend := invalidated.2 }
    have ok : invalidated.1.ok = true := invalidates _ _ _
    have same : memory invalid.backend = memory service.backend := holds.invalidate _ _ _
    have stillPaused : port.isPaused invalid.backend = true := by
      rw [← paused]
      exact holds.invalidatePaused _ _ _
    have confirmed :
        invalid.confirmRestored port state.markInvalidated invalid.epoch =
          state.markInvalidated.markRestored := by
      refine confirmRestored_eq holds stillPaused opened ?_ ?_
      · exact ⟨formed.epoch, formed.small, formed.original,
          formed.replacement, formed.masked, formed.active, formed.closed⟩
      · rw [same]
        exact written
    refine ⟨state.markInvalidated.markRestored, invalidated.2, ?_, ?_⟩
    · simp only [finishRestore, kind, invalidate]
      rw [if_neg (by rw [ok]; decide)]
      exact Prod.ext confirmed rfl
    · exact ⟨rfl, ⟨rfl, rfl⟩, same, stillPaused⟩

theorem restoreEntry_spec (holds : port.Holds memory) (invalidates : port.Invalidates)
    (paused : port.isPaused service.backend = true)
    (opened : service.epoch.isSet = true) (formed : state.Formed service.epoch)
    (stands : readCells (memory service.backend) state.receipt.address.toNat
        state.receipt.width.size = scalarBytes state.receipt.width.size state.receipt.replacement) :
    ∃ restored backend,
      service.restoreEntry port state service.epoch = (restored, { service with backend }) ∧
      EntryRestored port memory state
        (state.write.undo (memory service.backend)) restored backend := by
  have current := read_scalarBytes holds paused opened formed.small formed.replacement stands
  unfold restoreEntry
  simp only [current, Bool.not_true, Bool.false_eq_true, if_false]
  by_cases unchanged : state.receipt.replacement = state.receipt.original
  · -- The mutation wrote what stood there: nothing has to be written back.
    rw [if_neg (by simp), if_pos unchanged]
    have written := stands
    rw [unchanged] at written
    obtain ⟨restored, backend, equal, entry⟩ :=
      finishRestore_spec holds invalidates paused opened formed written
    refine ⟨restored, backend, equal, ⟨entry.held, entry.restores, ?_, entry.paused⟩⟩
    rw [entry.memory]
    unfold undo
    have saved : state.write.saved = readCells (memory service.backend)
        state.write.address state.receipt.width.size := written.symm
    rw [saved, writeCells_readCells]
  · rw [if_neg (by simp), if_neg unchanged]
    obtain ⟨result, backend, equal, writeOk, writes, stillPaused⟩ :=
      writeValue_spec holds paused state.receipt.address state.receipt.width state.receipt.original
    rw [equal]
    simp only [writeOk, Bool.not_true, Bool.false_eq_true, if_false]
    have readBack : readCells (memory backend) state.receipt.address.toNat
        state.receipt.width.size = scalarBytes state.receipt.width.size state.receipt.original := by
      have spelled := length_scalarBytes state.receipt.width.size state.receipt.original
      have cells : readCells (writeCells (memory service.backend) state.receipt.address.toNat
          (scalarBytes state.receipt.width.size state.receipt.original))
          state.receipt.address.toNat
          (scalarBytes state.receipt.width.size state.receipt.original).length = _ :=
        readCells_writeCells
      rw [spelled] at cells
      rw [writes, cells]
    have pausedAfter : port.isPaused { service with backend }.backend = true := stillPaused
    obtain ⟨restored, last, finished, entry⟩ :=
      finishRestore_spec holds invalidates pausedAfter opened formed readBack
    refine ⟨restored, last, finished, ⟨entry.held, entry.restores, ?_, entry.paused⟩⟩
    rw [entry.memory]
    exact writes

variable {mutation : GuestMutationId}

theorem find_split (found : service.find mutation = some state) : ∃ older newer,
      service.mutations = older ++ state :: newer ∧ state.id = mutation ∧
      ∀ change : MutationState, change.id = state.id →
        (service.store change).mutations = older ++ change :: newer := by
  obtain ⟨older, newer, split, named, _, updated, _⟩ := Keyed.lookup_split found
  refine ⟨older, newer, split, named, ?_⟩
  intro change same
  have stored := updated fun _ => change
  rw [← named, ← same] at stored
  exact stored

/-- Writing the refusal of a call into an entry keeps the service reverting. -/
theorem Reverting.store {change : MutationState} (reverting : service.Reverting memory base)
    (found : service.find mutation = some state) (same : change.held = state.held) :
    (service.store change).Reverting memory base ∧
      (service.store change).mutations.map MutationState.held =
        service.mutations.map MutationState.held := by
  obtain ⟨older, newer, split, _, stored⟩ := find_split found
  have named : change.held.id = state.held.id := congrArg MutationState.id same
  have table : (service.store change).mutations.map MutationState.held =
      service.mutations.map MutationState.held := by
    rw [stored change named, split]
    simp [same]
  refine ⟨⟨?_, ?_, ?_⟩, table⟩
  · intro _
    apply reverting.opened
    rw [split]
    simp
  · rw [table]
    exact reverting.sound
  · rw [table]
    exact reverting.base

theorem hasActiveChild_eq_false (childless : service.hasActiveChild mutation = false) :
    ∀ other ∈ service.mutations.map MutationState.held,
      other.restorationRequired = true → other.parent ≠ some mutation := by
  intro other listed active child
  obtain ⟨entry, present, rfl⟩ := List.mem_map.mp listed
  have none := List.any_eq_false.mp childless entry present
  have active' : entry.restorationRequired = true := active
  have child' : entry.parent = some mutation := child
  simp [active', child'] at none

/-- The ids of the active mutations, the newest first. -/
def activeIds (mutations : List MutationState) : List GuestMutationId :=
  ((mutations.filter MutationState.restorationRequired).map MutationState.id).reverse

theorem activeIds_held (mutations : List MutationState) :
    activeIds (mutations.map MutationState.held) = activeIds mutations := by
  have same : MutationState.restorationRequired ∘ MutationState.held =
      MutationState.restorationRequired := rfl
  unfold activeIds
  rw [List.filter_map, same, List.map_map]
  rfl

theorem activeWrites_eq_nil {mutations : List MutationState} (none : activeIds mutations = []) :
    activeWrites mutations = [] := by
  simpa [activeIds, activeWrites] using none

theorem activeIds_append (older newer : List MutationState) :
    activeIds (older ++ newer) = activeIds newer ++ activeIds older := by
  simp [activeIds]

theorem activeIds_close {older newer : List MutationState} {status : GuestMutationStatus}
    (distinct : ((older ++ state :: newer).map MutationState.id).Nodup)
    (active : state.restorationRequired = true) : activeIds (older ++ state.close status :: newer) =
      (activeIds (older ++ state :: newer)).filter (· ≠ state.id) := by
  have one : activeIds (state :: newer) = activeIds newer ++ [state.id] := by
    simp [activeIds, active]
  have closed : activeIds (state.close status :: newer) = activeIds newer := by
    simp [activeIds, MutationState.close]
  have others : ∀ list : List MutationState,
      state.id ∉ list.map MutationState.id →
        (activeIds list).filter (· ≠ state.id) = activeIds list := by
    intro list absent
    rw [List.filter_eq_self]
    intro id member
    rw [decide_eq_true_eq]
    rintro rfl
    apply absent
    simp only [activeIds, List.mem_reverse, List.mem_map, List.mem_filter] at member
    obtain ⟨entry, ⟨listed, _⟩, named⟩ := member
    exact List.mem_map.mpr ⟨entry, listed, named⟩
  rw [List.map_append, List.map_cons, List.nodup_append, List.nodup_cons] at distinct
  have notOlder : state.id ∉ older.map MutationState.id := by
    intro present
    exact distinct.2.2 state.id present state.id List.mem_cons_self rfl
  rw [activeIds_append, activeIds_append, closed, one, List.filter_append,
    List.filter_append, others newer distinct.2.1.1, others older notOlder]
  simp

/-- What `Restore` does to a service that reverts to a base. -/
structure RestoreKeeps (port : GuestMemoryBackendPort Backend)
    (memory : Backend → Nat → UInt8) (base : Nat → UInt8)
    (service next : GuestMutationService Backend) : Prop where
  reverting : next.Reverting memory base
  paused : port.isPaused next.backend = true
  epoch : next.epoch = service.epoch
  ownerThread : next.ownerThread = service.ownerThread
  stopped : next.stopped = service.stopped
  shutdownResult : next.shutdownResult = service.shutdownResult

theorem RestoreKeeps.refl (reverting : service.Reverting memory base)
    (paused : port.isPaused service.backend = true) :
    RestoreKeeps port memory base service service :=
  ⟨reverting, paused, rfl, rfl, rfl, rfl⟩

theorem RestoreKeeps.trans {last : GuestMutationService Backend}
    (first : RestoreKeeps port memory base service next)
    (second : RestoreKeeps port memory base next last) :
    RestoreKeeps port memory base service last :=
  ⟨second.reverting, second.paused, second.epoch.trans first.epoch,
    second.ownerThread.trans first.ownerThread, second.stopped.trans first.stopped,
    second.shutdownResult.trans first.shutdownResult⟩

theorem restore_active (holds : port.Holds memory) (invalidates : port.Invalidates)
    (paused : port.isPaused service.backend = true) (reverting : service.Reverting memory base)
    (found : service.find mutation = some state) (active : state.restorationRequired = true)
    (childless : service.hasActiveChild mutation = false) :
    (service.restore port mutation service.epoch).1.Restores ∧
      RestoreKeeps port memory base service (service.restore port mutation service.epoch).2 ∧
      activeIds (service.restore port mutation service.epoch).2.mutations =
        (activeIds service.mutations).filter (· ≠ mutation) := by
  obtain ⟨older, newer, split, named, stored⟩ := find_split found
  have listed : state ∈ service.mutations := Keyed.mem_of_lookup found
  have heldListed : state.held ∈ service.mutations.map MutationState.held :=
    List.mem_map_of_mem listed
  have formedHeld := reverting.sound.formed state.held heldListed
  have formed := formedHeld.of_held
  have alone := hasActiveChild_eq_false childless
  have sound := reverting.sound
  have base_eq := reverting.base
  rw [split, List.map_append, List.map_cons] at sound base_eq alone
  rw [← named] at alone
  have required : state.held.restorationRequired = true := active
  have stands := sound.stands required alone
  obtain ⟨soundAfter, baseAfter⟩ := sound.takeBack required alone
  have opened := reverting.opened (List.ne_nil_of_mem listed)
  obtain ⟨restored, backend, equal, entry⟩ := restoreEntry_spec holds
    invalidates paused opened formed stands
  have result : service.restore port mutation service.epoch =
      (restored.receipt, { service with backend }.store restored) := by
    unfold restore
    simp only [found]
    rw [if_neg (by rw [active]; decide), if_neg (by simp [formed.epoch]),
      childless, if_neg (by decide), equal]
  have restoredId : restored.held.id = (state.close .restored).held.id :=
    congrArg MutationState.id entry.held
  have table : ({ service with backend }.store restored).mutations.map
      MutationState.held = older.map MutationState.held ++
        state.held.close .restored :: newer.map MutationState.held := by
    have entered : ({ service with backend }.store restored).mutations =
        older ++ restored :: newer := stored restored restoredId
    rw [entered, List.map_append, List.map_cons, entry.held]
    rfl
  have remaining : activeIds
      ({ service with backend }.store restored).mutations =
        (activeIds service.mutations).filter (· ≠ mutation) := by
    have distinct := sound.nodup
    rw [← activeIds_held, table, activeIds_close distinct required, ← activeIds_held service.mutations, split, List.map_append,
      List.map_cons, ← named]
    rfl
  rw [result]
  refine ⟨entry.restores, ?_, remaining⟩
  refine ⟨⟨fun _ => opened, ?_, ?_⟩, entry.paused, rfl, rfl, rfl, rfl⟩
  · rw [table]
    change Sound service.epoch service.nextMutation
      service.nextAcquisitionSequence _ (memory backend)
    rw [entry.memory]
    exact soundAfter
  rw [table]
  change undoAll _ (memory backend) = base
  rw [entry.memory, ← base_eq]
  exact baseAfter

theorem restore_keeps (holds : port.Holds memory) (invalidates : port.Invalidates)
    (paused : port.isPaused service.backend = true) (reverting : service.Reverting memory base)
    (mutation : GuestMutationId) (epoch : WorksetEpoch) : RestoreKeeps port memory base service
      (service.restore port mutation epoch).2 := by
  have refused : ∀ {state message}, service.find mutation = some state →
      RestoreKeeps port memory base service (service.store (state.refuse message)) := by
    intro state message found
    have same : (state.refuse message).held = state.held := rfl
    have kept := reverting.store found same
    exact ⟨kept.1, paused, rfl, rfl, rfl, rfl⟩
  cases found : service.find mutation with
  | none =>
    simp only [restore, found]
    exact .refl reverting paused
  | some state =>
    by_cases inactive : state.restorationRequired = false
    · simp only [restore, found, inactive, Bool.not_false, if_true]
      exact .refl reverting paused
    have active : state.restorationRequired = true := by simpa using inactive
    by_cases stale : state.receipt.epoch ≠ epoch ∨ service.epoch ≠ epoch
    · simp only [restore, found, active, Bool.not_true, Bool.false_eq_true, if_false, if_pos stale]
      exact refused found
    by_cases child : service.hasActiveChild mutation = true
    · simp only [restore, found, active, Bool.not_true,
        Bool.false_eq_true, if_false, if_neg stale, child, if_true]
      exact refused found
    push Not at stale
    rw [← stale.2]
    exact (restore_active holds invalidates paused reverting found
      active (by simpa using child)).2.1

theorem restoreEach_keeps (holds : port.Holds memory) (invalidates : port.Invalidates)
    (epoch : WorksetEpoch) (order : List GuestMutationId) {service : GuestMutationService Backend}
    (paused : port.isPaused service.backend = true) (reverting : service.Reverting memory base) :
    RestoreKeeps port memory base service (restoreEach port epoch order service).2 := by
  induction order generalizing service with
  | nil => exact .refl reverting paused
  | cons mutation order ih =>
    have first := restore_keeps holds invalidates paused reverting mutation epoch
    exact first.trans (ih first.paused first.reverting)

/-- A cleanup goes through the active mutations from the newest on. -/
theorem restorationOrder_eq (reverting : service.Reverting memory base) :
    (service.restorationOrder fun _ => true) = activeIds service.mutations := by
  let active := service.mutations.filter MutationState.restorationRequired
  have ordered := reverting.sound.ordered
  rw [List.pairwise_map] at ordered
  have increasing : active.Pairwise fun older newer =>
      older.acquisitionSequence < newer.acquisitionSequence :=
    (ordered.filter _).imp And.right
  have distinct : (active.map MutationState.acquisitionSequence).Nodup := by
    rw [List.nodup_iff_pairwise_ne, List.pairwise_map]
    exact increasing.imp Nat.ne_of_lt
  have sorted : insertion.sort
      (descendingOn MutationState.acquisitionSequence) active = active.reverse := by
    have unambiguous : Unambiguous
        (descendingOn MutationState.acquisitionSequence)
        (insertion.sort (descendingOn MutationState.acquisitionSequence) active) := by
      refine Unambiguous.of_nodup MutationState.acquisitionSequence ?_ ?_
      · intro first second equal
        exact (compareOn_eq_iff.mp equal).symm
      · exact (((insertion.perm _ active).map _).nodup_iff).mpr distinct
    refine eq_of_ordered unambiguous (insertion.ordered _ _) ?_ ?_
    · rw [List.pairwise_reverse]
      refine increasing.imp fun {older newer} less greater => ?_
      have compared : compare older.acquisitionSequence newer.acquisitionSequence = .gt := greater
      rw [Nat.compare_eq_gt] at compared
      omega
    · exact (insertion.perm _ active).trans (List.reverse_perm active).symm
  unfold restorationOrder activeIds
  simp only [Bool.true_and]
  rw [sorted, List.map_reverse]

theorem newest_active (reverting : service.Reverting memory base) {rest : List GuestMutationId}
    (newest : activeIds service.mutations = mutation :: rest) : ∃ state,
      service.find mutation = some state ∧ state.restorationRequired = true ∧
      service.hasActiveChild mutation = false := by
  have listed : (service.mutations.filter
      MutationState.restorationRequired).map MutationState.id = rest.reverse ++ [mutation] := by
    rw [← List.reverse_cons, ← newest, activeIds, List.reverse_reverse]
  obtain ⟨olderActive, last, split, olderIds, lastIds⟩ := List.map_eq_append_iff.mp listed
  obtain ⟨state, rfl, named⟩ := List.map_eq_singleton_iff.mp lastIds
  have chosen : state ∈
      service.mutations.filter MutationState.restorationRequired := by
    rw [split]
    simp
  obtain ⟨member, active⟩ := List.mem_filter.mp chosen
  have distinct : (service.mutations.map MutationState.id).Nodup := by
    have ids := reverting.sound.nodup
    rwa [List.map_map] at ids
  refine ⟨state, ?_, active, ?_⟩
  · rw [← named]
    exact Keyed.lookup_key distinct member
  -- An active child would be newer than the newest active mutation.
  rw [hasActiveChild, List.any_eq_false]
  intro other otherListed
  simp only [Bool.and_eq_true, decide_eq_true_eq, not_and]
  intro otherActive child
  have heldListed : other.held ∈ service.mutations.map MutationState.held :=
    List.mem_map_of_mem otherListed
  have less : mutation.value < other.id.value :=
    reverting.sound.parents other.held heldListed mutation child
  have ordered := reverting.sound.ordered
  rw [List.pairwise_map] at ordered
  have increasing := ordered.filter MutationState.restorationRequired
  rw [split, List.pairwise_append] at increasing
  have otherChosen : other ∈ olderActive ++ [state] := by
    rw [← split]
    exact List.mem_filter.mpr ⟨otherListed, otherActive⟩
  rcases List.mem_append.mp otherChosen with old | new
  · have before : other.id.value < state.id.value :=
      (increasing.2.2 other old state List.mem_cons_self).1
    rw [named] at before
    omega
  rw [List.mem_singleton] at new
  rw [new, named] at less
  omega

theorem activeIds_nodup (reverting : service.Reverting memory base) :
    (activeIds service.mutations).Nodup := by
  have distinct := reverting.sound.nodup
  rw [List.map_map] at distinct
  unfold activeIds
  rw [List.nodup_reverse]
  exact (List.filter_sublist.map MutationState.id).nodup distinct

theorem restoreAllLoop_spec (holds : port.Holds memory)
    (invalidates : port.Invalidates) (order : List GuestMutationId)
    {service : GuestMutationService Backend} (result : GuestMutationCleanupReceipt)
    (paused : port.isPaused service.backend = true) (reverting : service.Reverting memory base)
    (listed : activeIds service.mutations = order) (untainted : result.taintRequired = false)
    (restored : ∀ restoration ∈ result.restorations, restoration.Restores) :
    (restoreAllLoop port order service result).1.taintRequired = false ∧
      (∀ restoration ∈ (restoreAllLoop port order service result).1.restorations,
        restoration.Restores) ∧
      RestoreKeeps port memory base service (restoreAllLoop port order service result).2 ∧
      activeIds (restoreAllLoop port order service result).2.mutations = [] := by
  induction order generalizing service result with
  | nil => exact ⟨untainted, restored, .refl reverting paused, listed⟩
  | cons mutation order ih =>
    obtain ⟨state, found, active, childless⟩ := newest_active reverting listed
    obtain ⟨restores, keeps, remaining⟩ :=
      restore_active holds invalidates paused reverting found active childless
    have distinct := activeIds_nodup reverting
    rw [listed, List.nodup_cons] at distinct
    have rest : activeIds
        (service.restore port mutation service.epoch).2.mutations = order := by
      rw [remaining, listed, List.filter_cons_of_neg (by simp), List.filter_eq_self]
      intro id member
      rw [decide_eq_true_eq]
      rintro rfl
      exact distinct.1 member
    have one : service.restoreOne port mutation =
        service.restore port mutation service.epoch := by
      unfold restoreOne
      simp only [restores.ok, if_true]
    rw [restoreAllLoop, one]
    simp only [restores.ok, if_true]
    obtain ⟨untainted', restored', keeps', none⟩ := ih
      { result with
        restorations := result.restorations ++ [(service.restore port mutation service.epoch).1] }
      keeps.paused keeps.reverting rest untainted
      (by
        intro restoration member
        rcases List.mem_append.mp member with old | new
        · exact restored restoration old
        rw [List.mem_singleton] at new
        rw [new]
        exact restores)
    exact ⟨untainted', restored', keeps.trans keeps', none⟩

theorem restoreActive_spec (holds : port.Holds memory) (invalidates : port.Invalidates)
    (paused : port.isPaused service.backend = true) (reverting : service.Reverting memory base) :
    (service.restoreActive port).1.Clean ∧
      RestoreKeeps port memory base service (service.restoreActive port).2 ∧
      activeIds (service.restoreActive port).2.mutations = [] := by
  obtain ⟨untainted, restored, keeps, none⟩ :=
    restoreAllLoop_spec holds invalidates (activeIds service.mutations) {}
      paused reverting rfl rfl (by simp)
  unfold restoreActive
  rw [restorationOrder_eq reverting]
  refine ⟨⟨?_, untainted, restored⟩, keeps, none⟩
  simp [untainted]

end GuestMutationService
end Savor.Guest


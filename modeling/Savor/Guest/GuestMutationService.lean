import Mathlib.Data.List.Induction
import Savor.Model.Identifiers
import Savor.Library.Reversible
import Savor.Library.Wire
import Savor.Library.Sequence
import Savor.Library.Sorting
import Savor.Library.Transition

/-!
# Guest memory

Scalars are read from the guest in big-endian order, through a backend that has
to be paused, for the workset epoch that the service was opened for.
-/

namespace Savor.Guest

open Program
open Library.Wire

inductive BackendIntegrity
  | preserved
  | unknown
  deriving DecidableEq

/-- The error code of a result is read by no service here. -/
structure BackendResult where
  ok : Bool := false
  integrity : BackendIntegrity := .preserved
  message : ByteString := []

/-- `BackendResult::Success` -/
def BackendResult.success : BackendResult where
  ok := true

structure GuestBytesResult where
  result : BackendResult
  bytes : ByteString

inductive GuestScalarWidth
  | u8
  | u16
  | u32
  | u64
  deriving DecidableEq

/-- The value of the enumerator. -/
def GuestScalarWidth.size : GuestScalarWidth → Nat
  | .u8 => 1
  | .u16 => 2
  | .u32 => 4
  | .u64 => 8

def GuestScalarWidth.widthMask : GuestScalarWidth → UInt64
  | .u8 => 0xff
  | .u16 => 0xffff
  | .u32 => 0xffffffff
  | .u64 => 0xffffffffffffffff

/-- `IGuestMemoryBackendPort`, over the states of a backend. -/
structure GuestMemoryBackendPort (Backend : Type) where
  isPaused : Backend → Bool
  read : Backend → UInt32 → Nat → GuestBytesResult
  write : Backend → UInt32 → ByteString → BackendResult × Backend
  invalidateExecutableRange : Backend → UInt32 → Nat → BackendResult × Backend

/-- What reads of the guest answer; the rest of the receipt repeats the
request. -/
structure GuestReadReceipt where
  ok : Bool
  value : UInt64 := 0
  message : ByteString := []

/-- The value of bytes, the first one the most significant. -/
def scalarValue (bytes : ByteString) : UInt64 :=
  bytes.foldl (fun value byte => (value <<< 8) ||| byte.toUInt64) 0

/-- The bytes of a value that `WriteValue` writes. -/
def scalarBytes (size : Nat) (value : UInt64) : ByteString :=
  (List.range size).map fun index => (value >>> ((size - index - 1) * 8).toUInt64).toUInt8

@[simp] theorem length_scalarBytes (size : Nat) (value : UInt64) :
    (scalarBytes size value).length = size := by
  simp [scalarBytes]

/-- The values that fit a width. -/
def Fits (size : Nat) (value : UInt64) : Prop := value.toNat < 256 ^ size

theorem scalarBytes_eq {size : Nat} (small : size ≤ 8) (value : UInt64) : scalarBytes size value =
      (littleEndian size value.toNat).reverse := by
  apply List.ext_getElem
  · simp
  intro index inBytes inOther
  rw [length_scalarBytes] at inBytes
  rw [List.getElem_reverse, getElem_littleEndian]
  simp only [scalarBytes, List.getElem_map, List.getElem_range, length_littleEndian]
  have shift : ((size - index - 1) * 8).toUInt64.toNat =
      (size - index - 1) * 8 := by
    rw [Nat.toUInt64, UInt64.toNat_ofNat']
    omega
  have bound : (size - index - 1) * 8 % 64 = (size - index - 1) * 8 := by omega
  apply UInt8.toNat.inj
  rw [UInt64.toNat_toUInt8, UInt64.toNat_shiftRight, shift, bound,
    UInt8.toNat_ofNat', Nat.shiftRight_eq_div_pow, show 256 = 2 ^ 8 from rfl, ← Nat.pow_mul,
    show size - 1 - index = size - index - 1 by omega, Nat.mul_comm 8,
    Nat.mod_mod]

variable {value : UInt64}

/-- One more byte of a big-endian number. -/
theorem shift_or_toNat {byte : UInt8} (small : value.toNat < 2 ^ 56) :
    ((value <<< 8) ||| byte.toUInt64).toNat = byte.toNat + 256 * value.toNat := by
  have low : byte.toNat < 2 ^ 8 := byte.toNat_lt
  have room : value.toNat <<< 8 < 2 ^ 64 := by
    rw [Nat.shiftLeft_eq]
    omega
  have eight : (8 : UInt64).toNat % 64 = 8 := rfl
  rw [UInt64.toNat_or, UInt64.toNat_shiftLeft, eight, Nat.mod_eq_of_lt room,
    UInt8.toNat_toUInt64, ← Nat.shiftLeft_add_eq_or_of_lt low, Nat.shiftLeft_eq]
  omega

variable {bytes : ByteString}

theorem scalarValue_toNat (short : bytes.length ≤ 8) :
    (scalarValue bytes).toNat = ofLittleEndian bytes.reverse := by
  induction bytes using List.reverseRecOn with
  | nil => rfl
  | append_singleton bytes byte ih =>
    rw [List.length_append, List.length_singleton] at short
    have earlier := ih (by omega)
    have bound := ofLittleEndian_lt bytes.reverse
    have growth : 256 ^ bytes.length ≤ 256 ^ 7 := Nat.pow_le_pow_right (by omega) (by omega)
    rw [List.length_reverse, ← earlier] at bound
    have small : (scalarValue bytes).toNat < 2 ^ 56 := by
      have power : 256 ^ 7 = 2 ^ 56 := rfl
      omega
    have last : scalarValue (bytes ++ [byte]) =
        (scalarValue bytes <<< 8) ||| byte.toUInt64 := by
      simp [scalarValue]
    rw [last, shift_or_toNat small, List.reverse_append, earlier]
    rfl

theorem scalarValue_fits (short : bytes.length ≤ 8) : Fits bytes.length (scalarValue bytes) := by
  have bound := ofLittleEndian_lt bytes.reverse
  rwa [← scalarValue_toNat short, List.length_reverse] at bound

/-- What is read can be written back. -/
theorem scalarBytes_scalarValue (short : bytes.length ≤ 8) :
    scalarBytes bytes.length (scalarValue bytes) = bytes := by
  have spelled := littleEndian_ofLittleEndian bytes.reverse
  rw [List.length_reverse] at spelled
  rw [scalarBytes_eq short, scalarValue_toNat short, spelled, List.reverse_reverse]

/-- What is written is read back. -/
theorem scalarValue_scalarBytes {size : Nat} (small : size ≤ 8) (fits : Fits size value) :
    scalarValue (scalarBytes size value) = value := by
  apply UInt64.toNat.inj
  rw [scalarValue_toNat (by simpa using small), scalarBytes_eq small,
    List.reverse_reverse, ofLittleEndian_littleEndian fits]

theorem fits_and_widthMask (width : GuestScalarWidth) (value : UInt64) :
    Fits width.size (value &&& width.widthMask) := by
  have bound : (value &&& width.widthMask).toNat ≤ width.widthMask.toNat := by
    rw [UInt64.toNat_and]
    exact Nat.and_le_right
  unfold Fits
  refine Nat.lt_of_le_of_lt bound ?_
  cases width <;> decide

theorem and_widthMask {width : GuestScalarWidth} (fits : Fits width.size value) :
    value &&& width.widthMask = value := by
  have ones : width.widthMask.toNat = 2 ^ (8 * width.size) - 1 := by cases width <;> rfl
  have bound : value.toNat < 2 ^ (8 * width.size) := by
    rw [Nat.pow_mul]
    exact fits
  apply UInt64.toNat.inj
  rw [UInt64.toNat_and, ones, Nat.and_two_pow_sub_one_eq_mod, Nat.mod_eq_of_lt bound]

/-- A checked replacement keeps the bits outside its mask. -/
theorem masked_replacement {original requested mask widthMask : UInt64}
    (fits : original &&& widthMask = original) : (original &&& ~~~(mask &&& widthMask)) |||
        ((((original &&& ~~~(mask &&& widthMask)) |||
          (requested &&& (mask &&& widthMask))) &&& widthMask) &&& (mask &&& widthMask)) =
      ((original &&& ~~~(mask &&& widthMask)) |||
        (requested &&& (mask &&& widthMask))) &&& widthMask := by
  apply UInt64.toBitVec_inj.mp
  have fits' := congrArg UInt64.toBitVec fits
  simp only [UInt64.toBitVec_and, UInt64.toBitVec_or, UInt64.toBitVec_not] at fits' ⊢
  apply BitVec.eq_of_getLsbD_eq
  intro index inside
  have bit := congrArg (fun bits => bits.getLsbD index) fits'
  simp only [BitVec.getLsbD_and] at bit
  simp only [BitVec.getLsbD_and, BitVec.getLsbD_or, BitVec.getLsbD_not, inside,
    decide_true, Bool.true_and]
  revert bit
  generalize original.toBitVec.getLsbD index = here
  generalize widthMask.toBitVec.getLsbD index = within
  generalize mask.toBitVec.getLsbD index = masked
  generalize requested.toBitVec.getLsbD index = wanted
  revert here within masked wanted
  decide

/-- `GuestMemory::ReadScalar` on its owner thread, where the memory was opened
for the epoch `opened`. -/
def readScalar {Backend : Type} (port : GuestMemoryBackendPort Backend)
    (backend : Backend) (opened : WorksetEpoch) (address : UInt32)
    (width : GuestScalarWidth) (epoch : WorksetEpoch) : GuestReadReceipt :=
  if !opened.isSet || opened ≠ epoch then
    { ok := false, message := text "stale guest-memory epoch" }
  else if !port.isPaused backend then
    { ok := false, message := text "guest reads require a paused core" }
  else
    let bytes := port.read backend address width.size
    if !bytes.result.ok || bytes.bytes.length ≠ width.size then
      { ok := false
        message :=
          if bytes.result.message = [] then
            text "guest read returned an unexpected byte count"
          else bytes.result.message }
    else { ok := true, value := scalarValue bytes.bytes }

/-- `GuestMemory::ReadBytes` on its owner thread, where the memory was opened
for the epoch `opened`. -/
def readBytes {Backend : Type} (port : GuestMemoryBackendPort Backend)
    (backend : Backend) (opened : WorksetEpoch) (address : UInt32) (size : Nat)
    (epoch : WorksetEpoch) : GuestBytesResult :=
  if !opened.isSet || opened ≠ epoch then
    ⟨{ ok := false, message := text "stale guest-memory epoch" }, []⟩
  else if !port.isPaused backend then
    ⟨{ ok := false, message := text "guest reads require a paused core" }, []⟩
  else port.read backend address size

/-- Every read and write of the backend succeeds on the memory it holds, which
nothing else changes. -/
structure GuestMemoryBackendPort.Holds {Backend : Type}
    (port : GuestMemoryBackendPort Backend) (memory : Backend → Nat → UInt8) : Prop where
  read : ∀ backend address size,
    (port.read backend address size).result.ok = true ∧
      (port.read backend address size).bytes = Library.readCells (memory backend) address.toNat size
  write : ∀ backend address bytes,
    (port.write backend address bytes).1.ok = true ∧
      memory (port.write backend address bytes).2 =
        Library.writeCells (memory backend) address.toNat bytes
  writePaused : ∀ backend address bytes,
    port.isPaused (port.write backend address bytes).2 = port.isPaused backend
  invalidate : ∀ backend address size,
    memory (port.invalidateExecutableRange backend address size).2 = memory backend
  invalidatePaused : ∀ backend address size,
    port.isPaused (port.invalidateExecutableRange backend address size).2 = port.isPaused backend

theorem readScalar_eq {Backend : Type} {port : GuestMemoryBackendPort Backend}
    {memory : Backend → Nat → UInt8} (holds : port.Holds memory)
    {backend : Backend} (paused : port.isPaused backend = true)
    {epoch : WorksetEpoch} (opened : epoch.isSet = true) (address : UInt32)
    (width : GuestScalarWidth) : readScalar port backend epoch address width epoch =
      { ok := true
        value := scalarValue (Library.readCells (memory backend) address.toNat width.size) } := by
  obtain ⟨readOk, readBytes⟩ := holds.read backend address width.size
  simp [readScalar, opened, paused, readOk, readBytes]

/-!
## The guest mutation service

Checked writes to the guest, each with what it replaced.  A mutation is active
until it is restored or committed.  Active mutations overlap only along parent
links, and `RestoreAll` takes back what is active, the newest mutation first.
-/

inductive MutationOwnerIdTag

inductive MutationScopeIdTag

abbrev MutationOwnerId := StrongId MutationOwnerIdTag

abbrev MutationScopeId := StrongId MutationScopeIdTag

/-- Mutation ids are handed out by counting. -/
structure GuestMutationId where
  value : Nat
  deriving DecidableEq

/-- The default constructed id, which names no mutation. -/
def GuestMutationId.none : GuestMutationId := ⟨0⟩

inductive GuestMutationKind
  | data
  | executablePatch
  deriving DecidableEq

inductive GuestMutationLifetime
  | restoreOnScopeExit
  | commitToCurrentState
  deriving DecidableEq

inductive GuestMutationStatus
  | rejected
  | active
  | restored
  | committed
  | failed
  deriving DecidableEq

structure GuestMutationRequest where
  owner : MutationOwnerId
  scope : MutationScopeId
  parent : Option GuestMutationId := none
  epoch : WorksetEpoch
  address : UInt32 := 0
  width : GuestScalarWidth := .u32
  (expected replacement : UInt64 := 0)
  mask : UInt64 := 0xffffffffffffffff
  kind : GuestMutationKind := .data
  lifetime : GuestMutationLifetime := .restoreOnScopeExit
  deriving DecidableEq

structure GuestMutationReceipt where
  ok : Bool := false
  status : GuestMutationStatus := .rejected
  mutation : GuestMutationId := .none
  owner : MutationOwnerId := .none
  scope : MutationScopeId := .none
  epoch : WorksetEpoch := .none
  address : UInt32 := 0
  width : GuestScalarWidth := .u32
  (original replacement mask : UInt64 := 0)
  (cacheInvalidated taintRequired : Bool := false)
  message : ByteString := []

structure GuestMutationCleanupReceipt where
  (ok taintRequired alreadyShutdown : Bool := false)
  restorations : List GuestMutationReceipt := []
  message : ByteString := []

structure MutationState where
  receipt : GuestMutationReceipt
  kind : GuestMutationKind
  lifetime : GuestMutationLifetime
  parent : Option GuestMutationId
  acquisitionSequence : Nat
  restorationRequired : Bool

variable (state : MutationState)

/-- The key of the mutation table. -/
def MutationState.id : GuestMutationId := state.receipt.mutation

/-- The service, with the backend that it writes through.  The guest memory was
opened for the same epoch.  The last acquired mutation stands last. -/
structure GuestMutationService (Backend : Type) where
  ownerThread : ThreadId
  backend : Backend
  epoch : WorksetEpoch := .none
  (nextMutation nextAcquisitionSequence : Nat := 1)
  mutations : List MutationState := []
  stopped : Bool := false
  shutdownResult : Option GuestMutationCleanupReceipt := none

inductive MutationOperation
  | apply (request : GuestMutationRequest)
  | restore (mutation : GuestMutationId) (epoch : WorksetEpoch)
  | commit (mutation : GuestMutationId) (epoch : WorksetEpoch)
  | restoreScope (scope : MutationScopeId) (epoch : WorksetEpoch)
  | restoreAll
  | shutdown
  deriving DecidableEq

structure MutationCall where
  thread : ThreadId
  operation : MutationOperation
  deriving DecidableEq

inductive MutationReply
  | receipt (receipt : GuestMutationReceipt)
  | receipts (receipts : List GuestMutationReceipt)
  | cleanup (receipt : GuestMutationCleanupReceipt)

/-- `Failure` -/
def GuestMutationRequest.failure (request : GuestMutationRequest)
    (message : ByteString) (taint : Bool := false) :
    GuestMutationReceipt where
  owner := request.owner
  scope := request.scope
  epoch := request.epoch
  address := request.address
  width := request.width
  replacement := request.replacement
  mask := request.mask
  taintRequired := taint
  message := message

/-- `Overlaps` -/
def MutationState.overlaps (address : UInt32) (size : Nat) : Bool :=
  state.receipt.address.toNat < address.toNat + size &&
    address.toNat < state.receipt.address.toNat + state.receipt.width.size

/-- The request names the mutation as its parent, for the same owner. -/
def GuestMutationRequest.nestsIn (request : GuestMutationRequest) (state : MutationState) : Bool :=
  request.parent = some state.id && request.owner = state.receipt.owner

/-- A failed restoration: the entry stays, and the session is tainted. -/
def MutationState.fail (message : ByteString) : MutationState :=
  { state with
    receipt :=
      { state.receipt with
        ok := false
        status := .failed
        taintRequired := true
        message := message } }

/-- A request that is turned down without touching the entry's status. -/
def MutationState.refuse (message : ByteString) : MutationState :=
  { state with receipt := { state.receipt with ok := false, message := message } }

def MutationState.markInvalidated : MutationState :=
  { state with receipt := { state.receipt with cacheInvalidated := true } }

/-- The entry after its restoration. -/
def MutationState.markRestored : MutationState :=
  { state with
    receipt :=
      { state.receipt with
        ok := true
        status := .restored
        taintRequired := false
        message := [] }
    restorationRequired := false }

def MutationState.markCommitted : MutationState :=
  { state with
    receipt := { state.receipt with ok := true, status := .committed, message := [] }
    restorationRequired := false }

/-- The entry of an applied mutation, once it was read back. -/
def MutationState.markActive : MutationState :=
  { state with
    receipt :=
      { state.receipt with
        ok := true
        status := .active
        taintRequired := false
        message := [] } }

namespace GuestMutationService

variable {Backend : Type}
variable (port : GuestMemoryBackendPort Backend)
variable (service : GuestMutationService Backend)

/-- `InitializeWorksetEpoch` on the owner thread. -/
def initializeWorksetEpoch (epoch : WorksetEpoch) : GuestMutationService Backend :=
  if service.stopped then service else { service with epoch }

def find (mutation : GuestMutationId) : Option MutationState :=
  Library.Keyed.lookup MutationState.id service.mutations mutation

/-- Replace the entry of a mutation. -/
def store (state : MutationState) : GuestMutationService Backend :=
  { service with
    mutations := Library.Keyed.update MutationState.id state.id (fun _ => state) service.mutations }

/-- `HasActiveChild` -/
def hasActiveChild (mutation : GuestMutationId) : Bool :=
  service.mutations.any fun state =>
    state.restorationRequired && decide (state.parent = some mutation)

/-- `ReadScalar` of the memory in its present state. -/
def read (address : UInt32) (width : GuestScalarWidth) (epoch : WorksetEpoch) : GuestReadReceipt :=
  readScalar port service.backend service.epoch address width epoch

/-- `WriteValue` -/
def writeValue (address : UInt32) (width : GuestScalarWidth) (value : UInt64) :
    BackendResult × GuestMutationService Backend :=
  let (result, backend) := port.write service.backend address (scalarBytes width.size value)
  (result, { service with backend })

/-- The invalidation of the code that a mutation covers, where it is code. -/
def invalidate (kind : GuestMutationKind) (address : UInt32) (width : GuestScalarWidth) :
    BackendResult × GuestMutationService Backend :=
  match kind with
  | .data => (.success, service)
  | .executablePatch =>
    let (result, backend) := port.invalidateExecutableRange service.backend address width.size
    (result, { service with backend })

/-- The last step of a restoration: the original is read back. -/
def confirmRestored (state : MutationState) (epoch : WorksetEpoch) : MutationState :=
  let after := service.read port state.receipt.address state.receipt.width epoch
  if !after.ok || after.value ≠ state.receipt.original then
    state.fail
      (if after.message = [] then
        text "mutation restoration readback did not match"
      else after.message)
  else state.markRestored

/-- The cache of a restored patch is invalidated before the readback. -/
def finishRestore (state : MutationState) (epoch : WorksetEpoch) :
    MutationState × GuestMutationService Backend :=
  match state.kind with
  | .data => (service.confirmRestored port state epoch, service)
  | .executablePatch =>
    let (invalidated, service) :=
      service.invalidate port state.kind state.receipt.address state.receipt.width
    if !invalidated.ok then (state.fail invalidated.message, service)
    else (service.confirmRestored port state.markInvalidated epoch, service)

/-- What `Restore` does to the guest for an active mutation that has no active
child, and what becomes of its entry. -/
def restoreEntry (state : MutationState) (epoch : WorksetEpoch) :
    MutationState × GuestMutationService Backend :=
  let receipt := state.receipt
  let current := service.read port receipt.address receipt.width epoch
  if !current.ok then (state.fail current.message, service)
  else
    let replacementPresent := current.value &&& receipt.mask = receipt.replacement &&& receipt.mask
    let originalPresent := current.value = receipt.original
    if ¬replacementPresent ∧ ¬originalPresent then
      (state.fail (text "mutation restoration precondition did not match"), service)
    else if originalPresent then service.finishRestore port state epoch
    else
      let (written, service) :=
        service.writeValue port receipt.address receipt.width receipt.original
      if !written.ok then (state.fail written.message, service)
      else service.finishRestore port state epoch

/-- `Restore` on the owner thread, before the service stopped. -/
def restore (mutation : GuestMutationId) (epoch : WorksetEpoch) :
    GuestMutationReceipt × GuestMutationService Backend :=
  match service.find mutation with
  | none => ({ ok := true, status := .restored, mutation, epoch, width := .u8 }, service)
  | some state =>
    if !state.restorationRequired then (state.receipt, service)
    else if state.receipt.epoch ≠ epoch ∨ service.epoch ≠ epoch then
      let state := state.refuse (text "mutation belongs to a stale epoch")
      (state.receipt, service.store state)
    else if service.hasActiveChild mutation then
      let state :=
        state.refuse (text "nested mutations must restore in reverse order")
      (state.receipt, service.store state)
    else
      let (state, service) := service.restoreEntry port state epoch
      (state.receipt, service.store state)

/-- `Commit` on the owner thread, before the service stopped. -/
def commit (mutation : GuestMutationId) (epoch : WorksetEpoch) :
    GuestMutationReceipt × GuestMutationService Backend :=
  match service.find mutation with
  | none => ({ mutation, epoch }, service)
  | some state =>
    if state.receipt.epoch ≠ epoch ∨ epoch ≠ service.epoch then
      let state := state.refuse (text "mutation belongs to a stale epoch")
      (state.receipt, service.store state)
    else if state.kind = .executablePatch then
      let state := state.refuse (text "executable patches cannot be committed")
      (state.receipt, service.store state)
    else if service.hasActiveChild mutation then
      let state :=
        state.refuse (text "nested mutations must close in reverse order")
      (state.receipt, service.store state)
    else
      let state := state.markCommitted
      (state.receipt, service.store state)

/-- The checks of `Apply` that come before its first read. -/
def applyRefusal (request : GuestMutationRequest) : Option ByteString :=
  let size := request.width.size
  if service.stopped then some (text "GuestMutationService is stopped")
  else if !request.owner.isSet || !request.scope.isSet ||
      !request.epoch.isSet || request.epoch ≠ service.epoch then
    some (text "mutation owner, scope, and current epoch are required")
  else if !port.isPaused service.backend then
    some (text "guest mutation requires a paused core")
  else if size ≠ 1 ∧ size ≠ 2 ∧ size ≠ 4 then
    some (text "only u8, u16, and u32 mutations are supported")
  else if request.kind = .executablePatch ∧
      (request.address % 4 ≠ 0 ∨ size ≠ 4) then
    some (text "executable patches require an aligned u32 target")
  else if request.kind = .executablePatch ∧
      request.mask &&& request.width.widthMask ≠ request.width.widthMask then
    some (text "executable patches require an exact precondition")
  else if request.kind = .executablePatch ∧ request.lifetime ≠ .restoreOnScopeExit then
    some (text "executable patches are always reversible")
  else if service.mutations.any fun active =>
      active.restorationRequired && active.overlaps request.address size &&
        !request.nestsIn active then
    some (text "mutation overlaps an unrelated active mutation")
  else none

/-- The entry of a mutation that was just written. -/
def newEntry (request : GuestMutationRequest) (original replacement : UInt64) : MutationState where
  receipt :=
    { ok := true
      status := .active
      mutation := ⟨service.nextMutation⟩
      owner := request.owner
      scope := request.scope
      epoch := request.epoch
      address := request.address
      width := request.width
      original
      replacement
      mask := request.mask &&& request.width.widthMask }
  kind := request.kind
  lifetime := request.lifetime
  parent := request.parent
  acquisitionSequence := service.nextAcquisitionSequence
  restorationRequired := true

/-- Enter a new mutation into the table. -/
def insert (state : MutationState) : GuestMutationService Backend :=
  { service with
    nextMutation := service.nextMutation + 1
    nextAcquisitionSequence := service.nextAcquisitionSequence + 1
    mutations := service.mutations ++ [state] }

/-- `compensate`: the write of a mutation that failed later is taken back. -/
def compensate (state : MutationState) (message : ByteString) :
    GuestMutationReceipt × GuestMutationService Backend :=
  let (restored, service) :=
    (service.store (state.fail message)).restore port state.id state.receipt.epoch
  if restored.ok then
    ({ restored with
      ok := false
      taintRequired := false
      message := text "mutation failed after write and was restored" }, service)
  else (restored, service)

/-- The last step of `Apply`: the replacement is read back. -/
def confirmApply (request : GuestMutationRequest) (state : MutationState) :
    GuestMutationReceipt × GuestMutationService Backend :=
  let service := service.store state
  let after := service.read port request.address request.width request.epoch
  if !after.ok || after.value ≠ state.receipt.replacement then
    service.compensate port state
      (if after.message = [] then text "mutation readback did not match"
      else after.message)
  else
    let state := state.markActive
    (state.receipt, service.store state)

/-- What `Apply` does once the mutation is in the table. -/
def finishApply (request : GuestMutationRequest) (state : MutationState) :
    GuestMutationReceipt × GuestMutationService Backend :=
  let (invalidated, service) := service.invalidate port request.kind request.address request.width
  if !invalidated.ok then
    service.compensate port state
      (if invalidated.message = [] then
        text "executable patch invalidation failed after write"
      else invalidated.message)
  else
    service.confirmApply port request
      (if request.kind = .executablePatch then state.markInvalidated else state)

/-- `Apply` on the owner thread.  A counted id is not in the table yet. -/
def apply (request : GuestMutationRequest) : GuestMutationReceipt × GuestMutationService Backend :=
  match service.applyRefusal port request with
  | some message => (request.failure message, service)
  | none =>
    let before := service.read port request.address request.width request.epoch
    if !before.ok then (request.failure before.message, service)
    else
      let mask := request.mask &&& request.width.widthMask
      if before.value &&& mask ≠ request.expected &&& mask then
        (request.failure (text "mutation precondition did not match"), service)
      else
        let replacement :=
          ((before.value &&& ~~~mask) ||| (request.replacement &&& mask)) &&&
            request.width.widthMask
        let (written, service) := service.writeValue port request.address request.width replacement
        if !written.ok then
          (request.failure written.message (decide (written.integrity = .unknown)), service)
        else
          let state := service.newEntry request before.value replacement
          (service.insert state).finishApply port request state

/-- The active mutations that a cleanup takes back, the newest first. -/
def restorationOrder (selected : MutationState → Bool) : List GuestMutationId :=
  let active := service.mutations.filter fun state => selected state && state.restorationRequired
  (Library.UnstableSort.insertion.sort
    (Library.descendingOn MutationState.acquisitionSequence) active).map MutationState.id

/-- Restore mutations in order. -/
def restoreEach (epoch : WorksetEpoch) : List GuestMutationId → GuestMutationService Backend →
      List GuestMutationReceipt × GuestMutationService Backend
  | [], service => ([], service)
  | mutation :: mutations, service =>
    let (receipt, service) := service.restore port mutation epoch
    let (receipts, service) := restoreEach epoch mutations service
    (receipt :: receipts, service)

/-- `RestoreScope` on the owner thread, before the service stopped. -/
def restoreScope (scope : MutationScopeId) (epoch : WorksetEpoch) :
    List GuestMutationReceipt × GuestMutationService Backend :=
  restoreEach port epoch (service.restorationOrder fun state => state.receipt.scope = scope) service

/-- One restoration of `RestoreAll`: a failure taints its entry. -/
def restoreOne (mutation : GuestMutationId) : GuestMutationReceipt × GuestMutationService Backend :=
  let (receipt, service) := service.restore port mutation service.epoch
  if receipt.ok then (receipt, service)
  else
    let receipt := { receipt with taintRequired := true }
    match service.find mutation with
    | none => (receipt, service)
    | some state =>
      if state.restorationRequired then
        (receipt, service.store (state.fail receipt.message))
      else (receipt, service)

/-- The loop of `RestoreAll`. -/
def restoreAllLoop : List GuestMutationId → GuestMutationService Backend →
      GuestMutationCleanupReceipt → GuestMutationCleanupReceipt × GuestMutationService Backend
  | [], service, result => (result, service)
  | mutation :: mutations, service, result =>
    let (receipt, service) := service.restoreOne port mutation
    let result :=
      if receipt.ok then result
      else
        { result with
          taintRequired := true
          message :=
            if result.message ≠ [] then result.message
            else if receipt.message = [] then
              text "Guest mutation restoration failed"
            else receipt.message }
    restoreAllLoop mutations service
      { result with restorations := result.restorations ++ [receipt] }

/-- `RestoreAll` on the owner thread, before the service stopped. -/
def restoreActive : GuestMutationCleanupReceipt × GuestMutationService Backend :=
  let (result, service) := restoreAllLoop port (service.restorationOrder fun _ => true) service {}
  ({ result with ok := !result.taintRequired }, service)

/-- `RestoreAll` on the owner thread. -/
def restoreAll : GuestMutationCleanupReceipt × GuestMutationService Backend :=
  if service.stopped then
    match service.shutdownResult with
    | some result => ({ result with alreadyShutdown := true }, service)
    | none =>
      ({ taintRequired := true
         message :=
          text "GuestMutationService is stopped without a cleanup receipt" }, service)
  else service.restoreActive port

/-- `Shutdown` on the owner thread. -/
def shutdown : GuestMutationCleanupReceipt × GuestMutationService Backend :=
  match service.shutdownResult with
  | some result => ({ result with alreadyShutdown := true }, service)
  | none =>
    let (result, service) := service.restoreAll port
    let result := { result with ok := result.ok && !result.taintRequired }
    (result, { service with stopped := true, shutdownResult := some result })

/-- The answers of a stopped service to the calls about one mutation or one
scope. -/
def stoppedFailure : GuestMutationReceipt where
  epoch := service.epoch
  message := text "GuestMutationService is stopped"

/-- The answers to a call from another thread. -/
def wrongThread : MutationOperation → MutationReply
  | .apply request =>
    .receipt (request.failure (text "GuestMutationService operation used the wrong actor thread"))
  | .restore mutation epoch | .commit mutation epoch =>
    .receipt
      { mutation, epoch
        message :=
          text "GuestMutationService operation used the wrong actor thread" }
  | .restoreScope scope epoch =>
    .receipts
      [{ scope, epoch
         message :=
          text "GuestMutationService operation used the wrong actor thread" }]
  | .restoreAll =>
    .cleanup
      { taintRequired := true
        message :=
          text "GuestMutationService cleanup used the wrong actor thread" }
  | .shutdown =>
    .cleanup
      { taintRequired := true
        message :=
          text "GuestMutationService shutdown used the wrong actor thread" }

/-- A call on the owner thread. -/
def perform : MutationOperation → MutationReply × GuestMutationService Backend
  | .apply request =>
    let (receipt, service) := service.apply port request
    (.receipt receipt, service)
  | .restore mutation epoch =>
    if service.stopped then
      (.receipt { service.stoppedFailure with mutation, epoch }, service)
    else
      let (receipt, service) := service.restore port mutation epoch
      (.receipt receipt, service)
  | .commit mutation epoch =>
    if service.stopped then
      (.receipt { service.stoppedFailure with mutation, epoch }, service)
    else
      let (receipt, service) := service.commit mutation epoch
      (.receipt receipt, service)
  | .restoreScope scope epoch =>
    if service.stopped then
      (.receipts [{ service.stoppedFailure with scope, epoch }], service)
    else
      let (receipts, service) := service.restoreScope port scope epoch
      (.receipts receipts, service)
  | .restoreAll =>
    let (receipt, service) := service.restoreAll port
    (.cleanup receipt, service)
  | .shutdown =>
    let (receipt, service) := service.shutdown port
    (.cleanup receipt, service)

/-- A call, from any thread. -/
def step (call : MutationCall) (service : GuestMutationService Backend) :
    Option (MutationReply × GuestMutationService Backend) :=
  if call.thread = service.ownerThread then
    some (service.perform port call.operation)
  else some (wrongThread call.operation, service)

end GuestMutationService
end Savor.Guest


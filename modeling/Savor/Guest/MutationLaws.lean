import Savor.Guest.MutationEffects

/-!
# Guest mutations are reversible

Over any sequence of calls a cleanup takes back everything but the committed
mutations, as long as a mutation names only a parent that exists and a commit
closes an active mutation that meets no other active one.
-/

namespace Savor.Guest

open Program Library
open GuestMemoryBackendPort

variable {Backend : Type} {port : GuestMemoryBackendPort Backend}
variable {memory : Backend → Nat → UInt8}

abbrev MutationHistory (Backend : Type) :=
  List (Transition (GuestMutationService Backend) MutationCall MutationReply)

/-- The mutation that an accepted `Commit` closes for good. -/
def committedBy (transition :
      Transition (GuestMutationService Backend) MutationCall MutationReply) :
    Option GuestMutationReceipt :=
  match transition.input.operation, transition.event with
  | .commit mutation _, .receipt receipt =>
    if receipt.ok &&
        (transition.before.find mutation).all (·.receipt.status ≠ .committed) then
      some receipt
    else none
  | _, _ => none

/-- The initial memory with only the masked bits of the committed mutations
changed. -/
def committedMemory (initial : Nat → UInt8) (history : MutationHistory Backend) : Nat → UInt8 :=
  (history.filterMap committedBy).foldl (fun memory receipt => receipt.overlay memory) initial

/-- `RestoreAll` takes everything back, and a rejected `Apply` does nothing. -/
structure Reversible (memory : Backend → Nat → UInt8) (initial : Nat → UInt8)
    (history : MutationHistory Backend) : Prop where
  restoreAll : ∀ earlier transition later,
    history = earlier ++ transition :: later →
    transition.input = ⟨transition.before.ownerThread, .restoreAll⟩ →
    ∃ receipt, transition.event = .cleanup receipt ∧ receipt.Clean ∧
      memory transition.after.backend = committedMemory initial earlier
  rejected : ∀ transition ∈ history, ∀ request receipt,
    transition.input.operation = .apply request →
    transition.event = .receipt receipt → receipt.ok = false →
    memory transition.after.backend = memory transition.before.backend ∧
      transition.after.mutations = transition.before.mutations

/-- What an operation of a running service has to respect: a parent was handed
out before, a commit closes an active mutation that meets no other active one,
and the guest is paused for a restoration to read it. -/
def Respects (port : GuestMemoryBackendPort Backend) (service : GuestMutationService Backend) :
    MutationOperation → Prop
  | .apply request => ∀ parent ∈ request.parent, parent.value < service.nextMutation
  | .commit mutation epoch =>
    ∀ state ∈ service.committedEntry mutation epoch,
      state.receipt.status ≠ .restored ∧ service.StandsAlone state
  | _ => port.isPaused service.backend = true

/-- Calls from another thread and calls to a stopped service do nothing. -/
def Respectful (port : GuestMemoryBackendPort Backend)
    (service : GuestMutationService Backend) (call : MutationCall) : Prop :=
  call.thread = service.ownerThread → service.stopped = false → Respects port service call.operation

instance (service : GuestMutationService Backend) (state : MutationState) :
    Decidable (service.StandsAlone state) :=
  inferInstanceAs (Decidable (∀ other ∈ service.mutations,
    other.restorationRequired = true → other.id ≠ state.id →
      other.overlaps state.receipt.address state.receipt.width.size = false))

instance (service : GuestMutationService Backend) (operation : MutationOperation) :
    Decidable (Respects port service operation) := by
  cases operation <;> unfold Respects <;> infer_instance

instance (service : GuestMutationService Backend) (call : MutationCall) :
    Decidable (Respectful port service call) :=
  inferInstanceAs (Decidable (_ → _ → _))

/-- The service, opened for an epoch. -/
def GuestMutationService.open (ownerThread : ThreadId) (backend : Backend)
    (epoch : WorksetEpoch) : GuestMutationService Backend :=
  initializeWorksetEpoch { ownerThread, backend } epoch

/-- A running service would revert to the committed memory; a stopped one has
reverted to it. -/
structure Settles (memory : Backend → Nat → UInt8) (initial : Nat → UInt8)
    (history : MutationHistory Backend) (service : GuestMutationService Backend) : Prop where
  running : service.stopped = false →
    service.Reverting memory (committedMemory initial history) ∧ service.shutdownResult = none
  stopped : service.stopped = true →
    (∃ receipt, service.shutdownResult = some receipt ∧ receipt.Clean) ∧
      memory service.backend = committedMemory initial history

variable {history : MutationHistory Backend} {initial : Nat → UInt8}

theorem committedMemory_snoc {transition :
      Transition (GuestMutationService Backend) MutationCall MutationReply}
    (none : committedBy transition = none) : committedMemory initial (history ++ [transition]) =
      committedMemory initial history := by
  simp [committedMemory, none]

namespace Settles

variable {service next : GuestMutationService Backend}

theorem initial_state (ownerThread : ThreadId) (backend : Backend) (epoch : WorksetEpoch) :
    Settles memory (memory backend) [] (GuestMutationService.open ownerThread backend epoch) where
  running := fun _ => ⟨⟨fun some => absurd rfl some, .nil, rfl⟩, rfl⟩
  stopped := fun stopped => by cases stopped

theorem of_keeps (settles : Settles memory initial history service)
    (keeps : GuestMutationService.RestoreKeeps port memory
      (committedMemory initial history) service next)
    (running : service.stopped = false) : Settles memory initial history next where
  running := fun _ => ⟨keeps.reverting, keeps.shutdownResult.trans (settles.running running).2⟩
  stopped := fun stopped => by
    rw [keeps.stopped, running] at stopped
    cases stopped

theorem snoc {call : MutationCall} {reply : MutationReply}
    (settles : Settles memory initial history next)
    (none : committedBy ⟨service, call, reply, next⟩ = none) :
    Settles memory initial (history ++ [⟨service, call, reply, next⟩]) next := by
  constructor
  · rw [committedMemory_snoc none]
    exact settles.running
  · rw [committedMemory_snoc none]
    exact settles.stopped

end Settles

namespace GuestMutationService

variable {service : GuestMutationService Backend} {base : Nat → UInt8}

theorem Reverting.memory_eq (reverting : service.Reverting memory base)
    (none : activeIds service.mutations = []) : memory service.backend = base := by
  have writes := activeWrites_eq_nil ((activeIds_held service.mutations).trans none)
  have reverted := reverting.base
  rw [writes] at reverted
  exact reverted

theorem restoreAll_spec (holds : port.Holds memory)
    (invalidates : port.Invalidates) {initial : Nat → UInt8}
    (settles : Settles memory initial history service)
    (paused : service.stopped = false → port.isPaused service.backend = true) :
    (service.restoreAll port).1.Clean ∧
      memory (service.restoreAll port).2.backend = committedMemory initial history ∧
      Settles memory initial history (service.restoreAll port).2 ∧
      (service.restoreAll port).2.stopped = service.stopped := by
  unfold restoreAll
  cases stopped : service.stopped with
  | true =>
    obtain ⟨⟨receipt, kept, clean⟩, reverted⟩ := settles.stopped stopped
    simp only [kept, if_true]
    exact ⟨⟨clean.ok, clean.untainted, clean.restorations⟩, reverted, settles, stopped⟩
  | false =>
    obtain ⟨reverting, _⟩ := settles.running stopped
    obtain ⟨clean, keeps, none⟩ := restoreActive_spec holds invalidates (paused stopped) reverting
    simp only [Bool.false_eq_true, if_false]
    exact ⟨clean, keeps.reverting.memory_eq none,
      settles.of_keeps keeps stopped, keeps.stopped.trans stopped⟩

/-- What a cleanup answers, and where it leaves the service. -/
theorem shutdown_spec (holds : port.Holds memory)
    (invalidates : port.Invalidates) {initial : Nat → UInt8}
    (settles : Settles memory initial history service)
    (paused : service.stopped = false → port.isPaused service.backend = true) :
    Settles memory initial history (service.shutdown port).2 := by
  unfold shutdown
  cases kept : service.shutdownResult with
  | some receipt => exact settles
  | none =>
    obtain ⟨clean, reverted, _, _⟩ := restoreAll_spec holds invalidates settles paused
    constructor
    · intro running
      cases running
    intro _
    refine ⟨⟨_, rfl, ?_⟩, reverted⟩
    exact ⟨by simp [clean.ok, clean.untainted], clean.untainted, clean.restorations⟩

end GuestMutationService

open GuestMutationService

variable {service : GuestMutationService Backend}

theorem Settles.commit {thread : ThreadId} {mutation : GuestMutationId} {epoch : WorksetEpoch}
    (settles : Settles memory initial history service) (running : service.stopped = false)
    (respects : Respects port service (.commit mutation epoch)) : Settles memory initial
      (history ++ [⟨service, ⟨thread, .commit mutation epoch⟩,
        .receipt (service.commit mutation epoch).1, (service.commit mutation epoch).2⟩])
      (service.commit mutation epoch).2 := by
  obtain ⟨reverting, unstopped⟩ := settles.running running
  rcases commit_cases service mutation epoch with
    ⟨_, refused, same⟩ | ⟨state, closes, found, equal⟩
  · have none : committedBy ⟨service, ⟨thread, .commit mutation epoch⟩,
        .receipt (service.commit mutation epoch).1, (service.commit mutation epoch).2⟩ = none := by
      simp [committedBy, refused]
    refine Settles.snoc ?_ none
    rcases same with same | ⟨state, message, found, same⟩
    · rw [same]
      exact settles
    rw [same]
    have unchanged : (state.refuse message).held = state.held := rfl
    have kept := (reverting.store found unchanged).1
    constructor
    · intro _
      exact ⟨kept, unstopped⟩
    · intro stopped
      exact absurd (stopped.symm.trans running) (by decide)
  · obtain ⟨unrestored, alone⟩ := respects state closes
    have formed := (reverting.sound.formed state.held
      (List.mem_map_of_mem (Keyed.mem_of_lookup found))).of_held
    rw [equal]
    cases active : state.restorationRequired with
    | true =>
      have status := formed.active active
      have one : committedBy ⟨service, ⟨thread, .commit mutation epoch⟩,
          .receipt state.markCommitted.receipt,
          service.store state.markCommitted⟩ = some state.markCommitted.receipt := by
        simp [committedBy, found, status, MutationState.markCommitted]
      constructor
      · intro _
        have committed := commit_active reverting found active alone
        refine ⟨?_, unstopped⟩
        simpa [committedMemory, one] using committed
      · intro stopped
        exact absurd (stopped.symm.trans running) (by decide)
    | false =>
      have status : state.receipt.status = .committed :=
        (formed.closed active).resolve_left unrestored
      have again : committedBy ⟨service, ⟨thread, .commit mutation epoch⟩,
          .receipt state.markCommitted.receipt, service.store state.markCommitted⟩ = none := by
        simp [committedBy, found, status, MutationState.markCommitted]
      have same : state.markCommitted.held = state.held := by
        simp only [MutationState.markCommitted, MutationState.held, ← status, ← active]
      have kept := (reverting.store found same).1
      constructor
      · intro _
        rw [committedMemory_snoc again]
        exact ⟨kept, unstopped⟩
      · intro stopped
        exact absurd (stopped.symm.trans running) (by decide)

theorem GuestMutationService.apply_stopped
    (stopped : service.stopped = true) (request : GuestMutationRequest) :
    (service.apply port request).1.ok = false ∧ (service.apply port request).2 = service := by
  simp [apply, applyRefusal, stopped, GuestMutationRequest.failure]

theorem Settles.step (holds : port.Holds memory)
    (invalidates : port.Invalidates) {next : GuestMutationService Backend}
    {call : MutationCall} {reply : MutationReply} (settles : Settles memory initial history service)
    (respectful : Respectful port service call)
    (stepped : GuestMutationService.step port call service = some (reply, next)) :
    Settles memory initial (history ++ [⟨service, call, reply, next⟩]) next := by
  obtain ⟨thread, operation⟩ := call
  unfold GuestMutationService.step at stepped
  by_cases owner : thread = service.ownerThread
  · rw [if_pos owner, Option.some.injEq] at stepped
    have respects := respectful owner
    have cleans := restoreAll_spec holds invalidates settles
    cases stopped : service.stopped with
    | true =>
      cases operation <;>
        simp only [perform, stopped, if_true, Prod.mk.injEq] at stepped <;>
        obtain ⟨rfl, rfl⟩ := stepped
      case apply request =>
        refine Settles.snoc ?_ rfl
        rwa [(apply_stopped stopped request).2]
      case restoreAll => exact (cleans respects).2.2.1.snoc rfl
      case shutdown => exact (shutdown_spec holds invalidates settles respects).snoc rfl
      all_goals exact settles.snoc rfl
    | false =>
      have keeps {next : GuestMutationService Backend}
          (kept : RestoreKeeps port memory (committedMemory initial history) service next) :=
        settles.of_keeps kept stopped
      have reverting := (settles.running stopped).1
      cases operation <;>
        simp only [perform, stopped, Bool.false_eq_true, if_false, Prod.mk.injEq] at stepped <;>
        obtain ⟨rfl, rfl⟩ := stepped
      case apply request =>
        refine Settles.snoc ?_ rfl
        rcases apply_cases holds invalidates reverting (respects stopped) with
          ⟨_, same⟩ | ⟨_, _, kept⟩
        · rwa [same]
        · exact keeps kept
      case restore mutation epoch =>
        exact (keeps (restore_keeps holds invalidates (respects stopped)
          reverting mutation epoch)).snoc rfl
      case commit mutation epoch => exact settles.commit stopped (respects stopped)
      case restoreScope scope epoch =>
        exact (keeps (restoreEach_keeps holds invalidates epoch _
          (respects stopped) reverting)).snoc rfl
      case restoreAll => exact (cleans respects).2.2.1.snoc rfl
      case shutdown => exact (shutdown_spec holds invalidates settles respects).snoc rfl
  · rw [if_neg owner, Option.some.injEq, Prod.mk.injEq] at stepped
    obtain ⟨rfl, rfl⟩ := stepped
    apply settles.snoc
    cases operation <;> rfl

theorem Settles.run (holds : port.Holds memory) (invalidates : port.Invalidates)
    {ownerThread : ThreadId} {backend : Backend} {epoch : WorksetEpoch}
    (run : Run (GuestMutationService.step port) (Respectful port)
      (GuestMutationService.open ownerThread backend epoch) history service) :
    Settles memory (memory backend) history service := by
  refine run.historyInvariant (Settles.initial_state ownerThread backend epoch) ?_
  intro history service call reply next settles respectful stepped
  exact settles.step holds invalidates respectful stepped

/-- Over a memory that keeps what is written and a cache that can be
invalidated, every run of respectful calls is reversible. -/
theorem mutations_are_reversible (holds : port.Holds memory) (invalidates : port.Invalidates)
    {ownerThread : ThreadId} {backend : Backend} {epoch : WorksetEpoch}
    {history : MutationHistory Backend} {service : GuestMutationService Backend}
    (run : Run (GuestMutationService.step port) (Respectful port)
      (GuestMutationService.open ownerThread backend epoch) history service) :
    Reversible memory (memory backend) history := by
  constructor
  · intro earlier transition later position called
    obtain ⟨before, respectful, stepped⟩ := run.split position
    have settles := Settles.run holds invalidates before
    rw [called] at respectful stepped
    simp only [GuestMutationService.step, if_true, perform, Option.some.injEq,
      Prod.mk.injEq] at stepped
    obtain ⟨clean, reverted, _⟩ := restoreAll_spec holds invalidates settles (respectful rfl)
    refine ⟨_, stepped.1.symm, clean, ?_⟩
    rw [← stepped.2]
    exact reverted
  · intro transition member request receipt operation answered refused
    obtain ⟨earlier, later, position⟩ := List.append_of_mem member
    obtain ⟨before, respectful, stepped⟩ := run.split position
    have settles := Settles.run holds invalidates before
    have same : transition.after = transition.before := by
      unfold GuestMutationService.step at stepped
      by_cases owner : transition.input.thread = transition.before.ownerThread
      · have respects := respectful owner
        rw [if_pos owner, operation, answered] at stepped
        simp only [perform, Option.some.injEq, Prod.mk.injEq,
          MutationReply.receipt.injEq] at stepped
        rw [← stepped.2]
        cases stopped : transition.before.stopped with
        | true => exact (apply_stopped stopped request).2
        | false =>
          have parents := respects stopped
          rw [operation] at parents
          rcases apply_cases holds invalidates (settles.running stopped).1
              parents with ⟨_, same⟩ | ⟨accepted, _⟩
          · exact same
          · rw [stepped.1, refused] at accepted
            cases accepted
      · rw [if_neg owner, Option.some.injEq, Prod.mk.injEq] at stepped
        exact stepped.2.symm
    rw [same]
    exact ⟨rfl, rfl⟩

/-- A paused guest that is its memory. -/
def GuestMemoryBackendPort.plain : GuestMemoryBackendPort (Nat → UInt8) where
  isPaused _ := true
  read memory address size := ⟨.success, readCells memory address.toNat size⟩
  write memory address bytes := (.success, writeCells memory address.toNat bytes)
  invalidateExecutableRange memory _ _ := (.success, memory)

theorem GuestMemoryBackendPort.plain_holds : plain.Holds fun memory => memory where
  read _ _ _ := ⟨rfl, rfl⟩
  write _ _ _ := ⟨rfl, rfl⟩
  writePaused _ _ _ := rfl
  invalidate _ _ _ := rfl
  invalidatePaused _ _ _ := rfl

theorem GuestMemoryBackendPort.plain_invalidates : plain.Invalidates := fun _ _ _ => rfl

namespace Sample

/-- A word is replaced, and its first byte once more under the same owner. -/
def nested : List MutationCall :=
  [⟨0, .apply
      { owner := ⟨1⟩
        scope := ⟨1⟩
        epoch := ⟨7⟩
        address := 0x80001000
        replacement := 0x11223344 }⟩, ⟨0, .apply
      { owner := ⟨1⟩
        scope := ⟨2⟩
        parent := some ⟨1⟩
        epoch := ⟨7⟩
        address := 0x80001000
        width := .u8
        expected := 0x11
        replacement := 0x99 }⟩]

/-- The byte is committed while the word is active. -/
def committedChild : List MutationCall := nested ++ [⟨0, .commit ⟨2⟩ ⟨7⟩⟩, ⟨0, .restoreAll⟩]

/-- The byte is restored before the word is committed. -/
def restoredChild : List MutationCall :=
  nested ++ [⟨0, .restore ⟨2⟩ ⟨7⟩⟩, ⟨0, .commit ⟨1⟩ ⟨7⟩⟩, ⟨0, .restoreAll⟩]

end Sample

/-- A cleanup at the end of a history that failed. -/
def endsUnclean (history : MutationHistory Backend) : Bool :=
  history.getLast?.any fun transition =>
    decide (transition.input = ⟨transition.before.ownerThread, .restoreAll⟩) &&
      match transition.event with
      | .cleanup receipt => !receipt.ok
      | _ => false

/-- A committed child keeps its parent from being restored. -/
theorem committed_child_blocks_cleanup : ¬∀ history service,
      Run (GuestMutationService.step .plain) (fun _ _ => True)
        (GuestMutationService.open 0 (fun _ => 0) ⟨7⟩) history service →
      Reversible (fun memory => memory) (fun _ => 0) history := by
  intro always
  obtain ⟨history, service, run, unclean⟩ : ∃ history service,
      Run (GuestMutationService.step .plain) (fun _ _ => True)
        (GuestMutationService.open 0 (fun _ => 0) ⟨7⟩) history service ∧
        endsUnclean history = true :=
    Run.exists_of_replay Sample.committedChild _ (by decide +kernel)
  obtain ⟨transition, last, failed⟩ := (Option.any_eq_true _ _).mp unclean
  rw [Bool.and_eq_true, decide_eq_true_eq] at failed
  obtain ⟨receipt, event, clean, _⟩ :=
    (always history service run).restoreAll history.dropLast transition []
      (List.dropLast_append_getLast? transition last).symm failed.1
  simp [event, clean.ok] at failed

/-- A child that is restored first leaves its parent to be committed. -/
theorem mutations_are_reversible_sample : ∃ history service,
      Run (GuestMutationService.step .plain) (Respectful .plain)
        (GuestMutationService.open 0 (fun _ => 0) ⟨7⟩) history service ∧
        service.backend 0x80001003 = 0x44 ∧
        Reversible (fun memory => memory) (fun _ => 0) history := by
  obtain ⟨history, service, run, restored, -⟩ : ∃ history service,
      Run (GuestMutationService.step .plain) (Respectful .plain)
        (GuestMutationService.open 0 (fun _ => 0) ⟨7⟩) history service ∧
        service.backend 0x80001003 = 0x44 ∧
          ∀ transition ∈ history, Respectful .plain transition.before transition.input :=
    Run.exists_of_replay Sample.restoredChild _ (by decide +kernel) fun _ _ checked => checked.2
  exact ⟨history, service, run, restored,
    mutations_are_reversible plain_holds plain_invalidates run⟩

end Savor.Guest

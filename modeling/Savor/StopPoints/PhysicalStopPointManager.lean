import Mathlib.Data.List.Sort
import Savor.Library.Intervals
import Savor.StopPoints.StopPointTypes

/-!
# Physical stop-point plans

The breakpoints and memory checks that the emulated core has to watch so that
every logical subscription is seen.  Overlapping memory ranges are merged; a
merged range watches what any of its parts watches.
-/

namespace Savor.StopPoints

open Library

structure PhysicalPcStop where
  pc : UInt32
  deriving DecidableEq

structure PhysicalMemoryStop where
  (first last : UInt32)
  (read write : Bool)
  deriving DecidableEq

structure PhysicalStopPointPlan where
  pcs : List PhysicalPcStop := []
  memory : List PhysicalMemoryStop := []
  deriving DecidableEq

namespace PhysicalMemoryStop

/-- The order of the memory stops before they are merged. -/
def startsBefore (lhs rhs : PhysicalMemoryStop) : Prop :=
  if lhs.first ≠ rhs.first then lhs.first.toNat < rhs.first.toNat
  else lhs.last.toNat ≤ rhs.last.toNat

instance : DecidableRel startsBefore := fun lhs rhs =>
  inferInstanceAs (Decidable (if lhs.first ≠ rhs.first then _ else _))

/-- Extend a stop by one that starts inside it. -/
def absorb (existing memory : PhysicalMemoryStop) : PhysicalMemoryStop where
  first := existing.first
  last :=
    if existing.last.toNat < memory.last.toNat then memory.last
    else existing.last
  read := existing.read || memory.read
  write := existing.write || memory.write

/-- A stop watches every access that another one watches. -/
structure Covers (large small : PhysicalMemoryStop) : Prop where
  first : large.first.toNat ≤ small.first.toNat
  last : small.last.toNat ≤ large.last.toNat
  read : small.read = true → large.read = true
  write : small.write = true → large.write = true

theorem absorbs : Intervals.Absorbs (fun stop : PhysicalMemoryStop => stop.first.toNat)
      (fun stop => stop.last.toNat) absorb Covers where
  refl _ := ⟨Nat.le_refl _, Nat.le_refl _, id, id⟩
  trans _ _ _ outer inner :=
    ⟨outer.first.trans inner.first, inner.last.trans outer.last,
      outer.read ∘ inner.read, outer.write ∘ inner.write⟩
  start_absorb _ _ := rfl
  existing existing next := by
    refine ⟨Nat.le_refl _, ?_, ?_, ?_⟩
    · unfold absorb
      dsimp only
      split <;> omega
    · intro reads
      simp [absorb, reads]
    · intro writes
      simp [absorb, writes]
  next existing next starts inside := by
    refine ⟨starts, ?_, ?_, ?_⟩
    · unfold absorb
      dsimp only
      split <;> omega
    · intro reads
      simp [absorb, reads]
    · intro writes
      simp [absorb, writes]

end PhysicalMemoryStop

/-- The PC that a point stops at. -/
def StopPointSpec.physicalPc? : StopPointSpec → Option PhysicalPcStop
  | .pc address => some ⟨address⟩
  | _ => none

/-- The memory that a point watches, unless its range is invalid. -/
def StopPointSpec.physicalMemory? : StopPointSpec → Option PhysicalMemoryStop
  | .memory point =>
    (rangeEnd point.address point.size).map fun last =>
      { first := point.address
        last
        read := point.access = .read || point.access = .access
        write := point.access = .write || point.access = .access }
  | _ => none

namespace PhysicalStopPointPlan

/-- The plan for a list of points: `BuildPhysicalPlan` after it collected the
points of the subscriptions that did not fire. -/
def ofPoints (points : List StopPointSpec) : PhysicalStopPointPlan where
  pcs := Intervals.unique
    ((points.filterMap StopPointSpec.physicalPc?).insertionSort
      fun lhs rhs => lhs.pc.toNat ≤ rhs.pc.toNat)
  memory := Intervals.coalesce (fun stop => stop.first.toNat)
    (fun stop => stop.last.toNat) PhysicalMemoryStop.absorb
    ((points.filterMap StopPointSpec.physicalMemory?).insertionSort PhysicalMemoryStop.startsBefore)

/-- The plan stops at a point whenever the point matches. -/
def Covers (plan : PhysicalStopPointPlan) (point : StopPointSpec) : Prop :=
  (∀ stop, point.physicalPc? = some stop → stop ∈ plan.pcs) ∧
    ∀ stop, point.physicalMemory? = some stop → ∃ merged ∈ plan.memory, merged.Covers stop

/-- `SnapshotPhysicalPlanMatches`.  The PCs are sorted, so that the binary
search of the source finds what is there. -/
def matchesHit (plan : PhysicalStopPointPlan) (context : StopPointCpuContext) : Bool :=
  match context.path with
  | .jit => plan.pcs.any fun stop => stop.pc = context.pc
  | .memcheck => plan.memory.any fun memory =>
    let accessEnd := context.address.toNat + context.size.toNat - 1
    context.size ≠ 0 && accessEnd ≤ UInt32.size - 1 &&
      context.address ≤ memory.last &&
      memory.first ≤ UInt32.ofNat accessEnd &&
      (if context.write then memory.write else memory.read)
  | .synthetic => true

instance : IsTrans PhysicalMemoryStop PhysicalMemoryStop.startsBefore where
  trans first second third := by
    unfold PhysicalMemoryStop.startsBefore
    simp only [ne_eq, ← UInt32.toNat_inj]
    split <;> split <;> split <;> omega

instance : Std.Total PhysicalMemoryStop.startsBefore where
  total first second := by
    unfold PhysicalMemoryStop.startsBefore
    simp only [ne_eq, ← UInt32.toNat_inj]
    split <;> split <;> omega

theorem ofPoints_covers {points : List StopPointSpec} {point : StopPointSpec}
    (member : point ∈ points) : (ofPoints points).Covers point := by
  constructor
  · intro stop stops
    apply Intervals.mem_unique.mpr
    rw [List.mem_insertionSort]
    exact List.mem_filterMap.mpr ⟨point, member, stops⟩
  intro stop watches
  have sorted := List.pairwise_insertionSort PhysicalMemoryStop.startsBefore
    (points.filterMap StopPointSpec.physicalMemory?)
  apply PhysicalMemoryStop.absorbs.coalesce_covers
  · refine sorted.imp fun {first second} before => ?_
    unfold PhysicalMemoryStop.startsBefore at before
    simp only [ne_eq, ← UInt32.toNat_inj] at before
    split at before <;> omega
  · rw [List.mem_insertionSort]
    exact List.mem_filterMap.mpr ⟨point, member, watches⟩

end PhysicalStopPointPlan

/-!
## The physical stop-point manager

The manager owns the plan that is installed in the emulated core and numbers its
generations.  It asks a backend to install a plan, and hands the backend a
commit callback that publishes the matching dispatch while the CPU is excluded.
-/

open Program

inductive PhysicalStopIntegrity
  | preserved
  | unknown
  deriving DecidableEq

structure PhysicalStopBackendReceipt where
  ok : Bool := false
  integrity : PhysicalStopIntegrity := .preserved
  generation : PhysicalPlanGeneration := .none
  actual : PhysicalStopPointPlan := {}
  message : ByteString := []

/-- How a call of the backend ends.  An exception that is not a
`std::exception` has no text. -/
inductive BackendOutcome
  | returned (receipt : PhysicalStopBackendReceipt)
  | threw (what : Option ByteString)

/-- The answer to a call that takes a commit callback, and whether the backend
ran the callback.  The callbacks of the router cannot fail. -/
structure BackendAnswer where
  committed : Bool
  outcome : BackendOutcome

/-- The answers of the backend during one operation of the router. -/
structure PhysicalStopPointBackend where
  (bindNativeStopSink unbindNativeStopSink : PhysicalStopBackendReceipt)
  queryPhysicalStopPoints : BackendOutcome
  applyExactPhysicalStopPlan : PhysicalStopPointPlan → PhysicalPlanGeneration → BackendAnswer
  publishExactPhysicalStopPlanUnchanged :
    PhysicalStopPointPlan → PhysicalPlanGeneration → BackendAnswer
  revalidatePhysicalStopPlan : PhysicalStopPointPlan → PhysicalPlanGeneration → BackendAnswer
  clearOwnedPhysicalStopPoints : PhysicalPlanGeneration → BackendAnswer

structure PhysicalStopPointManager where
  sinkBound : Bool := false
  currentPlan : PhysicalStopPointPlan := {}
  generation : PhysicalPlanGeneration := .none
  (hasExactPlan integrityUnknown : Bool := false)

/-- The receipt of an operation that takes a commit callback, whether the
callback ran, and the manager afterwards. -/
structure PhysicalReconcile where
  receipt : PhysicalStopBackendReceipt
  committed : Bool
  manager : PhysicalStopPointManager

namespace PhysicalStopPointManager

def successReceipt (generation : PhysicalPlanGeneration) (actual : PhysicalStopPointPlan) :
    PhysicalStopBackendReceipt :=
  { ok := true, generation, actual }

def failure (integrity : PhysicalStopIntegrity)
    (generation : PhysicalPlanGeneration) (actual : PhysicalStopPointPlan) (message : ByteString) :
    PhysicalStopBackendReceipt :=
  { ok := false, integrity, generation, actual, message }

/-- The text of a failure that an exception caused. -/
def threwMessage (operation : String) (what : Option ByteString) : ByteString :=
  match what with
  | some what => text operation ++ text " threw: " ++ what
  | none => text operation ++ text " threw"

/-- A failure whose integrity is unknown as soon as the callback ran. -/
def integrityAfter (committed : Bool) : PhysicalStopIntegrity :=
  if committed then .unknown else .preserved

variable (manager : PhysicalStopPointManager)
variable (backend : PhysicalStopPointBackend)

/-- `NextGeneration`: absent when the generations are exhausted. -/
def nextGeneration : PhysicalPlanGeneration :=
  if manager.generation.value.toNat = UInt64.size - 1 then .none
  else ⟨manager.generation.value + 1⟩

/-- The sink that is bound is always the one router of the manager. -/
def bindNativeStopSink : PhysicalStopBackendReceipt × PhysicalStopPointManager :=
  if manager.sinkBound then
    (successReceipt manager.generation manager.currentPlan, manager)
  else
    let receipt := backend.bindNativeStopSink
    if !receipt.ok then
      (receipt,
        { manager with
          integrityUnknown := manager.integrityUnknown || receipt.integrity = .unknown })
    else (receipt, { manager with sinkBound := true })

def unbindNativeStopSink : PhysicalStopBackendReceipt × PhysicalStopPointManager :=
  if !manager.sinkBound then
    (successReceipt manager.generation manager.currentPlan, manager)
  else
    let receipt := backend.unbindNativeStopSink
    if !receipt.ok then
      (receipt,
        { manager with
          integrityUnknown := manager.integrityUnknown || receipt.integrity = .unknown })
    else (receipt, { manager with sinkBound := false })

/-- A refused receipt, worsened when the callback ran all the same. -/
def refuse (receipt : PhysicalStopBackendReceipt) (committed : Bool) : PhysicalReconcile where
  receipt :=
    { receipt with
      integrity := if committed then .unknown else receipt.integrity }
  committed := committed
  manager :=
    { manager with
      integrityUnknown := manager.integrityUnknown || receipt.integrity = .unknown || committed }

/-- A receipt that claims success but does not fit the request. -/
def distrust (receipt : PhysicalStopBackendReceipt) (committed : Bool) (message : String) :
    PhysicalReconcile where
  receipt := failure .unknown receipt.generation receipt.actual (text message)
  committed := committed
  manager := { manager with integrityUnknown := true }

/-- A call that threw. -/
def caught (operation : String) (what : Option ByteString) (committed : Bool) :
    PhysicalReconcile where
  receipt := failure (integrityAfter committed) manager.generation
    manager.currentPlan (threwMessage operation what)
  committed := committed
  manager :=
    { manager with
      integrityUnknown := manager.integrityUnknown || committed }

/-- `Execute`, for the backend operation that it selects. -/
def execute (operation : PhysicalPlanGeneration → BackendAnswer)
    (requested : PhysicalStopPointPlan) : PhysicalReconcile :=
  let requestedGeneration := manager.nextGeneration
  if !requestedGeneration.isSet then
    { receipt := failure .unknown manager.generation manager.currentPlan
        (text "Physical stop-point generation exhausted")
      committed := false
      manager }
  else
    let answer := operation requestedGeneration
    match answer.outcome with
    | .threw what =>
      manager.caught "Physical stop-point backend" what answer.committed
    | .returned receipt =>
      if !receipt.ok then manager.refuse receipt answer.committed
      else if !answer.committed then
        manager.distrust receipt answer.committed
          "Physical stop-point backend reported success without committing the dispatch snapshot"
      else if receipt.generation ≠ requestedGeneration then
        manager.distrust receipt answer.committed
          "Physical stop-point backend returned the wrong generation"
      else if receipt.actual ≠ requested then
        manager.distrust receipt answer.committed
          "Physical stop-point backend did not apply the exact requested plan"
      else
        { receipt
          committed := true
          manager :=
            { manager with
              currentPlan := requested
              generation := requestedGeneration
              hasExactPlan := true
              integrityUnknown := false } }

/-- The plan is installed already and need not be installed again. -/
def planUnchanged (plan : PhysicalStopPointPlan) (force : Bool) : Bool :=
  !force && manager.hasExactPlan && plan = manager.currentPlan

def applyExactPlan (plan : PhysicalStopPointPlan) (force : Bool) : PhysicalReconcile :=
  if manager.planUnchanged plan force then
    let answer := backend.publishExactPhysicalStopPlanUnchanged
      manager.currentPlan manager.generation
    match answer.outcome with
    | .threw what =>
      manager.caught "Physical stop-point publication" what answer.committed
    | .returned receipt =>
      if !receipt.ok then manager.refuse receipt answer.committed
      else if !answer.committed ∨ receipt.generation ≠ manager.generation ∨
          receipt.actual ≠ manager.currentPlan then
        manager.distrust receipt answer.committed
          "Exact unchanged stop-point publication was not atomic"
      else { receipt, committed := true, manager }
  else manager.execute (backend.applyExactPhysicalStopPlan plan) plan

def revalidateAfterJit : PhysicalReconcile :=
  if !manager.hasExactPlan then
    { receipt := failure .preserved manager.generation manager.currentPlan
        (text "Cannot revalidate stop points before an exact plan has been applied")
      committed := false
      manager }
  else
    manager.execute (backend.revalidatePhysicalStopPlan manager.currentPlan) manager.currentPlan

def validateExactPlanUnchanged : PhysicalStopBackendReceipt × PhysicalStopPointManager :=
  if !manager.hasExactPlan then
    (failure .preserved manager.generation manager.currentPlan
      (text "Cannot validate stop points before an exact plan has been applied"), manager)
  else
    match backend.queryPhysicalStopPoints with
    | .threw what =>
      (failure .unknown manager.generation manager.currentPlan
        (threwMessage "Physical stop-point query" what), { manager with integrityUnknown := true })
    | .returned receipt =>
      if !receipt.ok then
        (receipt,
          { manager with
            integrityUnknown := manager.integrityUnknown || receipt.integrity = .unknown })
      else if receipt.generation ≠ manager.generation ∨ receipt.actual ≠ manager.currentPlan then
        (failure .unknown receipt.generation receipt.actual
          (text "Unmanaged physical stop-point drift was detected"),
          { manager with integrityUnknown := true })
      else (receipt, manager)

def clearOwnedStopPoints : PhysicalReconcile :=
  manager.execute backend.clearOwnedPhysicalStopPoints {}

/-- Both managers have the same plan installed, under the same generation. -/
structure SamePlan (other manager : PhysicalStopPointManager) : Prop where
  currentPlan : other.currentPlan = manager.currentPlan
  generation : other.generation = manager.generation
  hasExactPlan : other.hasExactPlan = manager.hasExactPlan

theorem SamePlan.refl : SamePlan manager manager := ⟨rfl, rfl, rfl⟩

theorem SamePlan.trans {first second third : PhysicalStopPointManager}
    (later : SamePlan third second) (earlier : SamePlan second first) : SamePlan third first where
  currentPlan := later.currentPlan.trans earlier.currentPlan
  generation := later.generation.trans earlier.generation
  hasExactPlan := later.hasExactPlan.trans earlier.hasExactPlan

/-- The generation that a plan gets. -/
def generationFor (plan : PhysicalStopPointPlan) (force : Bool) : PhysicalPlanGeneration :=
  if manager.planUnchanged plan force then manager.generation
  else manager.nextGeneration

/-- What asking the backend for a plan under a generation leads to.  It fails
and keeps the installed plan, with unknown integrity when the callback ran, or
it installs the plan and the callback ran. -/
inductive Reconciles (plan : PhysicalStopPointPlan) (generation : PhysicalPlanGeneration) :
    PhysicalReconcile → Prop
  | failed {result : PhysicalReconcile}
      (refused : result.receipt.ok = false)
      (same : SamePlan result.manager manager)
      (worsened : result.committed = true → result.receipt.integrity = .unknown) :
      Reconciles plan generation result
  | installed {result : PhysicalReconcile}
      (ok : result.receipt.ok = true)
      (committed : result.committed = true)
      (receiptGeneration : result.receipt.generation = generation)
      (currentPlan : result.manager.currentPlan = plan)
      (managerGeneration : result.manager.generation = generation)
      (exact : result.manager.hasExactPlan = true) :
      Reconciles plan generation result

variable {manager backend}
variable {plan : PhysicalStopPointPlan} {generation : PhysicalPlanGeneration}

theorem Reconciles.refuse {receipt : PhysicalStopBackendReceipt}
    (refused : receipt.ok = false) (committed : Bool) :
    manager.Reconciles plan generation (manager.refuse receipt committed) := by
  refine .failed refused ⟨rfl, rfl, rfl⟩ fun ran => ?_
  replace ran : committed = true := ran
  simp [PhysicalStopPointManager.refuse, ran]

theorem Reconciles.distrust (receipt : PhysicalStopBackendReceipt)
    (committed : Bool) (message : String) : manager.Reconciles plan generation
      (manager.distrust receipt committed message) :=
  .failed rfl ⟨rfl, rfl, rfl⟩ fun _ => rfl

theorem Reconciles.caught (operation : String) (what : Option ByteString) (committed : Bool) :
    manager.Reconciles plan generation (manager.caught operation what committed) := by
  refine .failed rfl ⟨rfl, rfl, rfl⟩ fun ran => ?_
  replace ran : committed = true := ran
  simp [PhysicalStopPointManager.caught, failure, integrityAfter, ran]

theorem execute_reconciles (operation : PhysicalPlanGeneration → BackendAnswer) :
    manager.Reconciles plan manager.nextGeneration (manager.execute operation plan) := by
  unfold execute
  dsimp only
  split
  · exact .failed rfl (.refl manager) fun ran => absurd ran Bool.false_ne_true
  split
  · exact .caught _ _ _
  split
  · rename_i refused
    exact .refuse (by simpa using refused) _
  split
  · exact .distrust _ _ _
  split
  · exact .distrust _ _ _
  split
  · exact .distrust _ _ _
  · rename_i ok _ generation _
    exact .installed (by simpa using ok) rfl (not_not.mp generation) rfl rfl rfl

theorem execute_committed {operation : PhysicalPlanGeneration → BackendAnswer}
    (ok : (manager.execute operation plan).receipt.ok = true) :
    (operation manager.nextGeneration).committed = true := by
  unfold execute at ok
  dsimp only at ok
  split at ok
  · simp [failure] at ok
  split at ok
  · simp [caught, failure] at ok
  split at ok
  · rename_i refused
    simp_all [refuse]
  split at ok
  · simp [distrust, failure] at ok
  · rename_i committed
    simpa using committed

theorem revalidateAfterJit_committed (manager : PhysicalStopPointManager)
    (backend : PhysicalStopPointBackend)
    (ok : (manager.revalidateAfterJit backend).receipt.ok = true) :
    (backend.revalidatePhysicalStopPlan manager.currentPlan
      manager.nextGeneration).committed = true := by
  unfold revalidateAfterJit at ok
  split at ok
  · simp [failure] at ok
  · exact execute_committed ok

theorem applyExactPlan_reconciles (force : Bool) :
    manager.Reconciles plan (manager.generationFor plan force)
      (manager.applyExactPlan backend plan force) := by
  unfold applyExactPlan generationFor
  split
  · rename_i unchanged
    simp only [planUnchanged, Bool.and_eq_true, decide_eq_true_eq] at unchanged
    obtain ⟨⟨-, exact⟩, rfl⟩ := unchanged
    dsimp only
    split
    · exact .caught _ _ _
    split
    · rename_i refused
      exact .refuse (by simpa using refused) _
    split
    · exact .distrust _ _ _
    rename_i ok atomic
    simp only [not_or, not_not] at atomic
    exact .installed (by simpa using ok) rfl atomic.2.1 rfl rfl exact
  · exact execute_reconciles _

theorem revalidateAfterJit_reconciles :
    manager.Reconciles manager.currentPlan manager.nextGeneration
      (manager.revalidateAfterJit backend) := by
  unfold revalidateAfterJit
  split
  · exact .failed rfl (.refl manager) fun ran => absurd ran Bool.false_ne_true
  · exact execute_reconciles _

/-- A query changes no plan. -/
theorem validateExactPlanUnchanged_samePlan
    (manager : PhysicalStopPointManager) (backend : PhysicalStopPointBackend) :
    SamePlan (manager.validateExactPlanUnchanged backend).2 manager := by
  unfold validateExactPlanUnchanged
  split
  · exact .refl manager
  split
  · exact ⟨rfl, rfl, rfl⟩
  split
  · exact ⟨rfl, rfl, rfl⟩
  split
  · exact ⟨rfl, rfl, rfl⟩
  · exact .refl manager

theorem bindNativeStopSink_samePlan : SamePlan (manager.bindNativeStopSink backend).2 manager := by
  unfold bindNativeStopSink
  dsimp only
  split
  · exact .refl manager
  split <;> exact ⟨rfl, rfl, rfl⟩

theorem unbindNativeStopSink_samePlan :
    SamePlan (manager.unbindNativeStopSink backend).2 manager := by
  unfold unbindNativeStopSink
  dsimp only
  split
  · exact .refl manager
  split <;> exact ⟨rfl, rfl, rfl⟩

end PhysicalStopPointManager

/-- The backend ran the callback exactly when it applied the requested plan. -/
def BackendAnswer.Faithful (answer : BackendAnswer)
    (plan : PhysicalStopPointPlan) (generation : PhysicalPlanGeneration) : Prop :=
  answer.committed = true ↔
    ∃ receipt, answer.outcome = .returned receipt ∧ receipt.ok = true ∧
      receipt.generation = generation ∧ receipt.actual = plan

/-- The backend runs a callback exactly when it applies the requested plan. -/
structure PhysicalStopPointBackend.Faithful (backend : PhysicalStopPointBackend) : Prop where
  apply : ∀ plan generation,
    (backend.applyExactPhysicalStopPlan plan generation).Faithful plan generation
  publish : ∀ plan generation,
    (backend.publishExactPhysicalStopPlanUnchanged plan generation).Faithful plan generation
  revalidate : ∀ plan generation,
    (backend.revalidatePhysicalStopPlan plan generation).Faithful plan generation
  clear : ∀ generation, (backend.clearOwnedPhysicalStopPoints generation).Faithful {} generation

namespace PhysicalStopPointManager

variable {manager : PhysicalStopPointManager}
variable {backend : PhysicalStopPointBackend}
variable {plan : PhysicalStopPointPlan}

/-- With a faithful backend the callback runs only in what succeeds. -/
theorem execute_faithful {operation : PhysicalPlanGeneration → BackendAnswer}
    (faithful : ∀ generation, (operation generation).Faithful plan generation)
    (refused : (manager.execute operation plan).receipt.ok = false) :
    (manager.execute operation plan).committed = false := by
  have applied := (faithful manager.nextGeneration).mp
  unfold execute at refused ⊢
  dsimp only at refused ⊢
  split at refused
  · rename_i exhausted
    rw [if_pos exhausted]
  rename_i left
  rw [if_neg left]
  cases ran : (operation manager.nextGeneration).committed with
  | false =>
    split
    · rfl
    split
    · rfl
    · rfl
  | true =>
    obtain ⟨receipt, returned, ok, generation, actual⟩ := applied ran
    simp [returned, ok, ran, generation, actual] at refused

theorem applyExactPlan_faithful (faithful : backend.Faithful) {force : Bool}
    (refused : (manager.applyExactPlan backend plan force).receipt.ok = false) :
    (manager.applyExactPlan backend plan force).committed = false := by
  unfold applyExactPlan at refused ⊢
  split at refused
  · rename_i unchanged
    rw [if_pos unchanged]
    dsimp only at refused ⊢
    have applied := (faithful.publish manager.currentPlan manager.generation).mp
    cases ran : (backend.publishExactPhysicalStopPlanUnchanged
        manager.currentPlan manager.generation).committed with
    | false =>
      split
      · rfl
      split
      · rfl
      · rfl
    | true =>
      obtain ⟨receipt, returned, ok, generation, actual⟩ := applied ran
      simp [returned, ok, ran, generation, actual] at refused
  · rename_i changed
    rw [if_neg changed]
    exact execute_faithful (faithful.apply plan) refused

theorem revalidateAfterJit_faithful (faithful : backend.Faithful)
    (refused : (manager.revalidateAfterJit backend).receipt.ok = false) :
    (manager.revalidateAfterJit backend).committed = false := by
  unfold revalidateAfterJit at refused ⊢
  split at refused
  · rename_i inexact
    rw [if_pos inexact]
  rename_i exact
  rw [if_neg exact]
  exact execute_faithful (faithful.revalidate manager.currentPlan) refused

end PhysicalStopPointManager
end Savor.StopPoints


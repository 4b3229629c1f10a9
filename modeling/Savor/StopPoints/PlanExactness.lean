import Savor.StopPoints.NativePacket

/-!
# What a physical plan watches

A plan breaks at the PCs of its points and watches the bytes of its points.  A
merged range watches in every direction that one of its parts asks for.
-/

namespace Savor.StopPoints

open Library
open Program (WorksetEpoch text)

/-- The stop watches the byte. -/
def PhysicalMemoryStop.Contains (stop : PhysicalMemoryStop) (byte : UInt32) : Prop :=
  stop.first ≤ byte ∧ byte ≤ stop.last

/-- The byte is in the range of the point, which is a valid one. -/
def MemoryStopPointSpec.Contains (point : MemoryStopPointSpec) (byte : UInt32) : Prop :=
  ∃ last, rangeEnd point.address point.size = some last ∧ point.address ≤ byte ∧ byte ≤ last

/-- The stop watches accesses of the direction. -/
def PhysicalMemoryStop.watches (stop : PhysicalMemoryStop) (write : Bool) : Bool :=
  if write then stop.write else stop.read

/-- A plan stops where a point does, at memory perhaps in another direction. -/
structure PhysicalStopPointPlan.Exact (plan : PhysicalStopPointPlan) (points : List StopPointSpec) :
    Prop where
  pcs : ∀ pc, ⟨pc⟩ ∈ plan.pcs ↔ .pc pc ∈ points
  increasing : plan.pcs.Pairwise fun first second => first.pc < second.pc
  valid : ∀ stop ∈ plan.memory, stop.first ≤ stop.last
  apart : plan.memory.Pairwise fun first second => first.last < second.first
  covers : ∀ point byte write, .memory point ∈ points → point.Contains byte →
    point.access.accessMatches write = true →
    ∃ stop ∈ plan.memory, stop.Contains byte ∧ stop.watches write = true
  watched : ∀ stop ∈ plan.memory, ∀ byte, stop.Contains byte →
    ∃ point, .memory point ∈ points ∧ point.Contains byte
  hits : ∀ point ∈ points, ∀ context, point.pointMatches context = true →
    plan.matchesHit context = true

theorem physicalMemory?_eq_some {point : StopPointSpec}
    {stop : PhysicalMemoryStop} (watches : point.physicalMemory? = some stop) :
    ∃ memory, point = .memory memory ∧ stop.first = memory.address ∧
      rangeEnd memory.address memory.size = some stop.last := by
  cases point with
  | pc address | synthetic identity => cases watches
  | memory memory =>
    obtain ⟨last, ends, rfl⟩ := Option.map_eq_some_iff.mp watches
    exact ⟨memory, rfl, rfl, ends⟩

theorem le_of_rangeEnd {address size last : UInt32} (ends : rangeEnd address size = some last) :
    size ≠ 0 ∧ last.toNat = address.toNat + size.toNat - 1 ∧
      address.toNat + size.toNat - 1 ≤ UInt32.size - 1 ∧ address ≤ last := by
  unfold rangeEnd at ends
  split at ends
  · cases ends
  rename_i sized
  split at ends
  · cases ends
  rename_i bounded
  cases ends
  have positive : size.toNat ≠ 0 := fun zero => sized (UInt32.toNat_inj.mp zero)
  have same : (UInt32.ofNat (address.toNat + size.toNat - 1)).toNat =
      address.toNat + size.toNat - 1 :=
    UInt32.toNat_ofNat_of_lt' (by simp only [UInt32.size] at bounded ⊢; omega)
  refine ⟨sized, same, by omega, ?_⟩
  rw [UInt32.le_iff_toNat_le, same]
  omega

namespace PhysicalStopPointPlan

variable {points : List StopPointSpec}

theorem ordered_memory : ((points.filterMap StopPointSpec.physicalMemory?).insertionSort
      PhysicalMemoryStop.startsBefore).Pairwise
        fun first second => first.first.toNat ≤ second.first.toNat := by
  refine (List.pairwise_insertionSort PhysicalMemoryStop.startsBefore _).imp
    fun {first second} before => ?_
  unfold PhysicalMemoryStop.startsBefore at before
  simp only [ne_eq, ← UInt32.toNat_inj] at before
  split at before <;> omega

theorem exists_part (Part : PhysicalMemoryStop → Prop)
    (parts : ∀ existing next : PhysicalMemoryStop, existing.first.toNat ≤ next.first.toNat →
      next.first.toNat ≤ existing.last.toNat → Part (existing.absorb next) →
      Part existing ∨ Part next)
    {stop : PhysicalMemoryStop} (planned : stop ∈ (ofPoints points).memory) (part : Part stop) :
    ∃ own memory, .memory memory ∈ points ∧ own.first = memory.address ∧
      rangeEnd memory.address memory.size = some own.last ∧ Part own := by
  obtain ⟨own, there, part⟩ := PhysicalMemoryStop.absorbs.coalesce_parts parts
    ordered_memory stop planned part
  rw [List.mem_insertionSort, List.mem_filterMap] at there
  obtain ⟨point, member, watches⟩ := there
  obtain ⟨memory, rfl, first, ends⟩ := physicalMemory?_eq_some watches
  exact ⟨own, memory, member, first, ends, part⟩

theorem exists_stop {memory : MemoryStopPointSpec} {last : UInt32}
    (member : .memory memory ∈ points)
    (ends : rangeEnd memory.address memory.size = some last) (write : Bool)
    (access : memory.access.accessMatches write = true) :
    ∃ stop ∈ (ofPoints points).memory, stop.first ≤ memory.address ∧
      last ≤ stop.last ∧ stop.watches write = true := by
  obtain ⟨stop, planned, covers⟩ := (ofPoints_covers member).2 _
    (Option.map_eq_some_iff.mpr ⟨last, ends, rfl⟩)
  refine ⟨stop, planned, covers.first, covers.last, ?_⟩
  have reads := covers.read
  have writes := covers.write
  unfold PhysicalMemoryStop.watches
  unfold StopMemoryAccess.accessMatches at access
  cases write <;> grind

theorem ofPoints_exact (points : List StopPointSpec) : (ofPoints points).Exact points := by
  constructor
  case pcs =>
    intro pc
    unfold ofPoints
    rw [Intervals.mem_unique, List.mem_insertionSort, List.mem_filterMap]
    constructor
    · rintro ⟨point, member, stops⟩
      cases point <;> cases stops
      exact member
    · exact fun member => ⟨_, member, rfl⟩
  case increasing =>
    refine (Intervals.pairwise_unique ?_ (List.pairwise_insertionSort _ _)).imp
      fun {first second} before => ?_
    · rintro ⟨first⟩ ⟨second⟩ before after
      exact congrArg _ (UInt32.toNat_inj.mp (Nat.le_antisymm before after))
    · refine UInt32.lt_iff_toNat_lt.mpr (Nat.lt_of_le_of_ne before.1 fun same => ?_)
      exact before.2 (congrArg PhysicalPcStop.mk (UInt32.toNat_inj.mp same))
  case valid =>
    intro stop planned
    by_contra invalid
    obtain ⟨own, memory, -, first, ends, invalid⟩ := exists_part
      (fun stop => ¬stop.first ≤ stop.last) (by
        simp only [PhysicalMemoryStop.absorb, UInt32.le_iff_toNat_le]
        grind) planned invalid
    exact invalid (first ▸ (le_of_rangeEnd ends).2.2.2)
  case apart =>
    exact (PhysicalMemoryStop.absorbs.coalesce_apart ordered_memory).imp UInt32.lt_iff_toNat_lt.mpr
  case covers =>
    rintro point byte write member ⟨last, ends, above, below⟩ access
    obtain ⟨stop, planned, first, least, watches⟩ := exists_stop member ends write access
    exact ⟨stop, planned, ⟨UInt32.le_trans first above, UInt32.le_trans below least⟩, watches⟩
  case watched =>
    intro stop planned byte contains
    obtain ⟨own, memory, member, first, ends, contains⟩ := exists_part
      (fun stop => stop.Contains byte) (by
        simp only [PhysicalMemoryStop.Contains, PhysicalMemoryStop.absorb, UInt32.le_iff_toNat_le]
        grind) planned contains
    exact ⟨memory, member, own.last, ends, first ▸ contains.1, contains.2⟩
  case hits =>
    intro point member context isMatch
    unfold StopPointSpec.pointMatches at isMatch
    unfold matchesHit
    cases point with
    | pc address =>
      obtain ⟨path, rfl⟩ := by simpa using isMatch
      simp only [path]
      exact List.any_eq_true.mpr ⟨_, (ofPoints_covers member).1 _ rfl, by simp⟩
    | synthetic identity =>
      obtain ⟨path, -⟩ := by simpa using isMatch
      rw [path]
    | memory memory =>
      simp only [Bool.and_eq_true, decide_eq_true_eq] at isMatch
      obtain ⟨⟨path, access⟩, overlap⟩ := isMatch
      unfold rangesOverlap at overlap
      split at overlap
      · rename_i last accessLast ends accessEnds
        obtain ⟨stop, planned, first, least, watches⟩ := exists_stop member ends _ access
        obtain ⟨sized, same, bounded, -⟩ := le_of_rangeEnd accessEnds
        simp only [Bool.and_eq_true, decide_eq_true_eq] at overlap
        simp only [path]
        refine List.any_eq_true.mpr ⟨stop, planned, ?_⟩
        simp only [Bool.and_eq_true, decide_eq_true_eq, ← same]
        refine ⟨⟨⟨⟨sized, same ▸ bounded⟩, UInt32.le_trans overlap.2 least⟩, ?_⟩, watches⟩
        rw [UInt32.ofNat_toNat]
        exact UInt32.le_trans first overlap.1
      · cases overlap

end PhysicalStopPointPlan

/-- The plan of a snapshot is exact for the subscriptions that did not fire, and
it discards no hit that one of them matches. -/
theorem physical_plan_is_exact (gates : Gates) (groups : Groups)
    (epoch : WorksetEpoch) (generation : StopDispatchGeneration)
    (physicalGeneration : PhysicalPlanGeneration) : (buildPhysicalPlan gates groups).Exact
        ((groups.liveEntries gates).map (·.point)) ∧
      ∀ entry ∈ (buildSnapshot gates groups epoch generation physicalGeneration).entries, ∀ context,
          entry.point.pointMatches context = true → (buildSnapshot gates groups epoch generation
              physicalGeneration).physicalPlan.matchesHit context = true := by
  have exact := PhysicalStopPointPlan.ofPoints_exact ((groups.liveEntries gates).map (·.point))
  refine ⟨exact, fun entry member => exact.hits _ ?_⟩
  exact List.mem_map_of_mem ((List.mem_insertionSort _).mp member)

end Savor.StopPoints

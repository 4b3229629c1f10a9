import Mathlib.Algebra.GroupWithZero.Nat
import Mathlib.Data.FinEnum
import Mathlib.Data.Nat.ModEq

/-!
# Ring queues

A bounded queue in a ring of slots.  The sequence number of a slot tells whether
the slot is free for the next push or filled for the next pop.
-/

namespace Savor.Library

universe u

/-- A slot of a ring. -/
structure RingSlot (Value : Type u) where
  sequence : Nat
  value : Value

/-- A ring of slots, and the positions of the next push and the next pop. -/
structure RingQueue (Value : Type u) where
  capacity : Nat
  slots : Nat → RingSlot Value
  (enqueuePosition dequeuePosition : Nat := 0)

namespace RingQueue

variable {Value : Type u}

/-- An empty ring.  The slots hold a blank value. -/
def configure (capacity : Nat) (blank : Value) : RingQueue Value where
  capacity
  slots position := ⟨position, blank⟩

/-- Fill the next slot if it is free. -/
def tryPush (queue : RingQueue Value) (value : Value) : Option (RingQueue Value) :=
  let position := queue.enqueuePosition
  let index := position % queue.capacity
  if (queue.slots index).sequence = position then
    some { queue with
      slots := Function.update queue.slots index ⟨position + 1, value⟩
      enqueuePosition := position + 1 }
  else none

/-- Free the oldest slot if it is filled. -/
def tryPop (queue : RingQueue Value) : Option (Value × RingQueue Value) :=
  let position := queue.dequeuePosition
  let index := position % queue.capacity
  let slot := queue.slots index
  if slot.sequence = position + 1 then
    some (slot.value, { queue with
      slots := Function.update queue.slots index ⟨position + queue.capacity, slot.value⟩
      dequeuePosition := position + 1 })
  else none

theorem enqueuePosition_tryPush {queue next : RingQueue Value} {value : Value}
    (pushed : queue.tryPush value = some next) :
    next.enqueuePosition = queue.enqueuePosition + 1 := by
  unfold tryPush at pushed
  dsimp only at pushed
  split at pushed
  · cases pushed
    rfl
  · cases pushed

/-- Whether there is a free slot does not depend on the value. -/
theorem isNone_tryPush (queue : RingQueue Value) (value other : Value) :
    (queue.tryPush value).isNone = (queue.tryPush other).isNone := by
  unfold tryPush
  dsimp only
  split <;> rfl

end RingQueue
end Savor.Library

/-!
# The call stack

Sixteen slots for return addresses. The pointer that selects a slot is a whole byte and lives in
the registers; a pointer beyond the last slot selects nothing, so nothing can be read there and
what is written there is dropped.
-/

namespace Chip8

structure CallStack where
  slots : Vector UInt16 16
  deriving DecidableEq

namespace CallStack

def depth : Nat := 16

/-- The stack at power-on. -/
def initial : CallStack := ⟨Vector.replicate 16 0⟩

/-- The return address that a pointer selects. -/
def read? (stack : CallStack) (pointer : UInt8) : Option UInt16 := stack.slots[pointer.toNat]?

/-- Put a return address into the slot that a pointer selects. -/
def write (stack : CallStack) (pointer : UInt8) (address : UInt16) : CallStack :=
  ⟨stack.slots.setIfInBounds pointer.toNat address⟩

theorem read?_eq_none_iff {stack : CallStack} {pointer : UInt8} :
    stack.read? pointer = none ↔ depth ≤ pointer.toNat := by
  simp [read?, depth]

theorem read?_write (stack : CallStack) (pointer other : UInt8) (address : UInt16) :
    (stack.write pointer address).read? other =
      if pointer = other ∧ other.toNat < depth then some address else stack.read? other := by
  simp only [read?, write, depth, Vector.getElem?_setIfInBounds, ← UInt8.toNat_inj]
  grind

end CallStack
end Chip8

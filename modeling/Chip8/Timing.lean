/-!
# Timing

Frequencies are whole numbers of hertz. A cycle has a budget of nanoseconds, and ticks are counted
in cycles: one tick comes after as many cycles as fit into its period, and no fewer than one. Both
divisions drop the remainder.
-/

namespace Chip8

structure Timing where
  instructionHz : Nat
  timerHz : Nat
  /-- Whether the timers are counted down while a key wait is pending. -/
  runWhileWaiting : Bool
  deriving DecidableEq

namespace Timing

/-- Five hundred instructions and sixty ticks per second, and timers that never stand still. -/
def standard : Timing := ⟨500, 60, true⟩

def second : Nat := 1000000000

/-- The budget of one cycle in nanoseconds. -/
def period (timing : Timing) : Nat := second / max timing.instructionHz 1

/-- The number of cycles from one tick to the next. -/
def cyclesPerTick (timing : Timing) : Nat :=
  max (timing.instructionHz / max timing.timerHz 1) 1

/-- The lowest instruction frequency that can be chosen while running. -/
def minHz : Nat := 60

/-- The highest instruction frequency that can be chosen while running. -/
def maxHz : Nat := 5000

/-- The frequency closest to the chosen one that is allowed while running. -/
def clampHz (hz : Nat) : Nat := max minHz (min hz maxHz)

/-- Choose an instruction frequency while running. -/
def setInstructionHz (timing : Timing) (hz : Nat) : Timing :=
  { timing with instructionHz := clampHz hz }

@[simp]
theorem cyclesPerTick_pos (timing : Timing) : 0 < timing.cyclesPerTick := by
  simp only [cyclesPerTick]
  omega

end Timing
end Chip8

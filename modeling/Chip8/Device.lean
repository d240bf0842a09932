import Chip8.Machine.Cycle

/-!
# Devices

What a scheduler needs to know of the machine it drives: how to run a cycle and to count timers
down, and whether it waits for a key, sounds, and what it shows. Statements about scheduling hold
for every device.
-/

namespace Chip8

/-- A machine that can be scheduled. -/
class Device (δ : Type) where
  /-- Run one cycle while a key, or none, is pressed. -/
  cycle : Option Key → δ → Attempt Outcome × δ
  /-- Count the timers down by one. -/
  decay : δ → δ
  /-- Whether execution is suspended until a key is pressed. -/
  awaitingKey : δ → Bool
  /-- Whether the tone should sound. -/
  sounding : δ → Bool
  /-- The picture as it stands. -/
  picture : δ → Picture

instance : Device Machine where
  cycle := Machine.cycle
  decay := Machine.decay
  awaitingKey machine := machine.awaiting.isSome
  sounding := Machine.sounding
  picture := Machine.picture

end Chip8

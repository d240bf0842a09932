import Chip8.Timing

/-!
# Schedulers

A scheduler counts cycles towards the next tick, remembers whether it has the tone playing, and
keeps the time at which the budget of the current cycle ends. Time is a number of nanoseconds on
the clock of the host.
-/

namespace Chip8

structure Scheduler where
  timing : Timing
  /-- The number of cycles since the last tick. -/
  sinceTick : Nat
  /-- Whether the sink took a tone start and has not taken a stop since. -/
  tonePlaying : Bool
  /-- When the budget of the current cycle ends, once pacing has begun. -/
  deadline : Option Nat
  deriving DecidableEq

namespace Scheduler

def new (timing : Timing) : Scheduler := ⟨timing, 0, false, none⟩

/-- Choose an instruction frequency. Pacing begins anew. -/
def setInstructionHz (scheduler : Scheduler) (hz : Nat) : Scheduler :=
  { scheduler with timing := scheduler.timing.setInstructionHz hz, deadline := none }

def count (scheduler : Scheduler) : Scheduler :=
  { scheduler with sinceTick := scheduler.sinceTick + 1 }

def tickDue (scheduler : Scheduler) : Bool :=
  decide (scheduler.timing.cyclesPerTick ≤ scheduler.sinceTick)

/-- Count from zero again. -/
def restart (scheduler : Scheduler) : Scheduler := { scheduler with sinceTick := 0 }

/-- How long a host that is done with a cycle at a time still has to wait, and the deadline of the
next cycle. Deadlines follow each other at the period of a cycle, so that lost time is made up for;
a host that is late by more than a tick starts over. -/
def pace (scheduler : Scheduler) (now : Nat) : Nat × Scheduler :=
  let deadline := scheduler.deadline.getD now
  let period := scheduler.timing.period
  let start := if period * scheduler.timing.cyclesPerTick < now - deadline then now else deadline
  (deadline - now, { scheduler with deadline := some (start + period) })

end Scheduler
end Chip8

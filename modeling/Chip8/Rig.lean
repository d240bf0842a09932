import Chip8.Device
import Chip8.Report
import Chip8.Scheduler
import Chip8.Sink

/-!
# Scheduled devices

A rig is a device, the scheduler that drives it, and the sink that receives its picture and tone.
A step is one cycle, followed by a tick if one is due. A tick counts the timers down, starts or
stops the tone where the device and the sink disagree, and refreshes the picture. A cycle that
fails is not counted. A sink that refuses a signal ends the tick, but nothing that the tick has
done before is taken back.
-/

namespace Chip8

/-- A device under a scheduler, in front of a sink. -/
structure Rig (δ ρ : Type) where
  device : δ
  scheduler : Scheduler
  sink : ρ

namespace Rig

variable {δ ρ : Type} [Device δ]

/-! ## Ticks -/

/-- Count the timers down, unless they stand still because a key wait is pending. -/
def decay (rig : Rig δ ρ) : Rig δ ρ :=
  if rig.scheduler.timing.runWhileWaiting || !Device.awaitingKey rig.device then
    { rig with device := Device.decay rig.device }
  else rig

/-- The signal after which the sink plays the tone exactly if the device sounds. -/
def toneChange (rig : Rig δ ρ) : Option Signal :=
  match Device.sounding rig.device, rig.scheduler.tonePlaying with
  | true, false => some .startTone
  | false, true => some .stopTone
  | _, _ => none

variable [Sink ρ]

/-- Send a signal to the sink. -/
def emit (signal : Signal) (rig : Rig δ ρ) : Attempt Unit × Rig δ ρ :=
  let (answer, sink) := Sink.accept signal rig.sink
  (answer, { rig with sink })

/-- Start or stop the tone where that is needed. Only what the sink has taken is remembered. -/
def settleTone (rig : Rig δ ρ) : Attempt Unit × Rig δ ρ :=
  match rig.toneChange with
  | none => (.ok (), rig)
  | some signal =>
      match rig.emit signal with
      | (.ok (), rig) =>
          (.ok (), { rig with
            scheduler := { rig.scheduler with tonePlaying := Device.sounding rig.device } })
      | (.error failure, rig) => (.error failure, rig)

/-- One tick. -/
def tick (rig : Rig δ ρ) : Attempt Unit × Rig δ ρ :=
  match rig.decay.settleTone with
  | (.ok (), rig) => rig.emit (.refresh (Device.picture rig.device))
  | (.error failure, rig) => (.error failure, rig)

/-! ## Steps -/

/-- Count a cycle, and tick if that makes a tick due. -/
def countCycle (rig : Rig δ ρ) : Attempt Unit × Rig δ ρ :=
  let counted := rig.scheduler.count
  if counted.tickDue then { rig with scheduler := counted.restart }.tick
  else (.ok (), { rig with scheduler := counted })

/-- One cycle while a key, or none, is pressed, and the tick that may be due. -/
def step (pressed : Option Key) (rig : Rig δ ρ) : Attempt Outcome × Rig δ ρ :=
  match Device.cycle pressed rig.device with
  | (.error failure, device) => (.error failure, { rig with device })
  | (.ok outcome, device) =>
      match { rig with device }.countCycle with
      | (.ok (), rig) => (.ok outcome, rig)
      | (.error failure, rig) => (.error failure, rig)

/-- One step for each of the keys pressed in turn, until one fails. -/
def run (keys : List (Option Key)) (rig : Rig δ ρ) : Report × Rig δ ρ :=
  Report.ofSteps step keys rig

end Rig
end Chip8

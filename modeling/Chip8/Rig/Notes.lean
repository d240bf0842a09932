import Chip8.Rig

/-!
# What a scheduled run tells

The notes of ticks, steps, runs and changes of frequency, derived from the rig before them. A
change of the tone is announced before the sink is asked, so also when the sink then refuses.
-/

namespace Chip8

/-- The notes of choosing an instruction frequency. -/
def Scheduler.setInstructionHzNotes (scheduler : Scheduler) (hz : Nat) : List Note :=
  if Timing.clampHz hz = scheduler.timing.instructionHz then []
  else [.frequencySet (Timing.clampHz hz)]

namespace Rig

variable {ρ : Type}

/-- The notes of a tick. -/
def tickNotes {δ : Type} [Device δ] (rig : Rig δ ρ) : List Note :=
  match rig.decay.toneChange with
  | some .startTone => [.toneOn]
  | some .stopTone => [.toneOff]
  | _ => []

/-- The notes of a step. -/
def stepNotes (pressed : Option Key) (rig : Rig Machine ρ) : List Note :=
  rig.device.cycleNotes pressed ++
    match rig.device.cycle pressed with
    | (.ok _, device) =>
        if rig.scheduler.count.tickDue then { rig with device }.tickNotes else []
    | (.error _, _) => []

variable [Sink ρ]

/-- The notes of a sequence of steps. -/
def stepsNotes (keys : List (Option Key)) (rig : Rig Machine ρ) : List Note :=
  Report.notesOfSteps step stepNotes keys rig

/-- The notes of a run: the steps, and the beginning and the end of the run. A run that fails does
not come to its end. -/
def runNotes (keys : List (Option Key)) (rig : Rig Machine ρ) : List Note :=
  .runBegun rig.scheduler.timing.instructionHz rig.scheduler.timing.timerHz ::
    rig.stepsNotes keys ++
      match (rig.run keys).1.failure with
      | none => [.runEnded]
      | some _ => []

end Rig
end Chip8

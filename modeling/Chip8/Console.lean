import Chip8.Keypad
import Chip8.Rig.Notes
import Chip8.Terminal

/-!
# The console

A console puts a device under a scheduler in front of a terminal and feeds it the events of its
user. One iteration handles the waiting events in order and then makes one step. A request to quit
ends the console at once, without looking at later events; a step that fails closes the screen and
ends the console with the failure.
-/

namespace Chip8

/-- Something the user did. Terminals report no releases of single keys. -/
inductive Event where
  | press (key : Key)
  | releaseAll
  | faster
  | slower
  | quit
  deriving DecidableEq

/-- A device under a scheduler, in front of a terminal, and the keypad that it looks at. -/
structure Console (δ : Type) where
  rig : Rig δ Terminal.Output
  keypad : Keypad

namespace Console

variable {δ : Type}

/-- By how much one event changes the instruction frequency. -/
def speedStep : Nat := 50

def new (device : δ) (scheduler : Scheduler) : Console δ :=
  ⟨⟨device, scheduler, .fresh⟩, .idle⟩

def instructionHz (console : Console δ) : Nat := console.rig.scheduler.timing.instructionHz

def setInstructionHz (console : Console δ) (hz : Nat) : Console δ :=
  { console with
    rig := { console.rig with scheduler := console.rig.scheduler.setInstructionHz hz } }

/-- Take away the receiver of the screen's callbacks. -/
def disconnect (console : Console δ) : Console δ :=
  { console with
    rig := { console.rig with
      sink := { console.rig.sink with channel := console.rig.sink.channel.disconnect } } }

/-- Receive the callbacks that were sent to the screen. -/
def receive (console : Console δ) : List Terminal.Callback × Console δ :=
  (console.rig.sink.channel.sent,
    { console with
      rig := { console.rig with
        sink := { console.rig.sink with channel := console.rig.sink.channel.drain } } })

/-! ## Events -/

/-- The effect of an event other than a request to quit. -/
def handle (console : Console δ) : Event → Console δ
  | .press key => { console with keypad := console.keypad.press key }
  | .releaseAll => { console with keypad := console.keypad.releaseAll }
  | .faster => console.setInstructionHz (console.instructionHz + speedStep)
  | .slower => console.setInstructionHz (console.instructionHz - speedStep)
  | .quit => console

/-- Handle events in order, up to a request to quit. The flag tells whether there was one. -/
def handleAll (console : Console δ) : List Event → Bool × Console δ
  | [] => (false, console)
  | .quit :: _ => (true, console)
  | event :: rest => (console.handle event).handleAll rest

/-- The notes of handling events in order, up to a request to quit. -/
def handleAllNotes (console : Console δ) : List Event → List Note
  | [] => []
  | .quit :: _ => [.shuttingDown]
  | event :: rest =>
      (match event with
        | .faster =>
            console.rig.scheduler.setInstructionHzNotes (console.instructionHz + speedStep)
        | .slower =>
            console.rig.scheduler.setInstructionHzNotes (console.instructionHz - speedStep)
        | _ => []) ++ (console.handle event).handleAllNotes rest

/-! ## Iterations -/

/-- Where a console stands after an iteration: it goes on, was ended by its user, or halts because
a step has failed. -/
inductive Progress (δ : Type) where
  | running (console : Console δ)
  | finished (console : Console δ)
  | halted (failure : Failure) (console : Console δ)

variable [Device δ]

/-- Close the screen. A screen that is gone needs no closing. -/
def close (console : Console δ) : Console δ :=
  { console with rig := { console.rig with sink := (console.rig.sink.send .quit).2 } }

/-- One step with the key that the keypad reports. -/
def step (console : Console δ) : Progress δ :=
  match console.rig.step console.keypad.pressed with
  | (.ok _, rig) => .running { console with rig }
  | (.error failure, rig) => .halted failure { console with rig }.close

/-- One iteration: the waiting events, then a step. -/
def iterate (events : List Event) (console : Console δ) : Progress δ :=
  match console.handleAll events with
  | (true, console) => .finished console
  | (false, console) => console.step

/-- Iterate over the events that are waiting each time, until the console ends. How long a host
waits between two iterations is left to `Scheduler.pace`: it moves nothing but the deadline, which
no iteration looks at. -/
def run : List (List Event) → Console δ → Progress δ
  | [], console => .running console
  | events :: rest, console =>
      match console.iterate events with
      | .running next => next.run rest
      | ended => ended

end Console

namespace Console

/-- The notes of a step. -/
def stepNotes (console : Console Machine) : List Note :=
  console.rig.stepNotes console.keypad.pressed ++
    match console.step with
    | .halted (.fault cause) _ => [.halting cause]
    | _ => []

/-- The notes of an iteration. -/
def iterateNotes (events : List Event) (console : Console Machine) : List Note :=
  console.handleAllNotes events ++
    match console.handleAll events with
    | (true, _) => []
    | (false, console) => console.stepNotes

end Console
end Chip8

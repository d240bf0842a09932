import Chip8.Fault
import Chip8.Instruction.Text

/-!
# Notes

What a running machine and its host have to tell an observer. Notes are derived from states and
change nothing. Each has a level of detail and a text.
-/

namespace Chip8

/-- How important a note is, the most important ones first. -/
inductive Level where
  | error
  | warn
  | info
  | debug
  | trace
  deriving DecidableEq

def Level.text : Level → String
  | error => "ERROR"
  | warn => "WARN"
  | info => "INFO"
  | debug => "DEBUG"
  | trace => "TRACE"

/-- Something worth telling. -/
inductive Note where
  | executing (pc : UInt16) (opcode : Opcode) (instruction : Instruction)
  | waiting (x : Register)
  | resuming (key : Key)
  | returnDropped (address : UInt16) (pointer : UInt8)
  | toneOn
  | toneOff
  | frequencySet (hz : Nat)
  | runBegun (instructionHz timerHz : Nat)
  | runEnded
  | consoleBegun (instructionHz : Nat)
  | shuttingDown
  | halting (cause : Fault)
  | loaded (path : String) (size : Nat)
  deriving DecidableEq

namespace Note

def level : Note → Level
  | executing .. => .trace
  | waiting _ | resuming _ | toneOn | toneOff | frequencySet _ => .debug
  | returnDropped .. => .warn
  | runBegun .. | runEnded | consoleBegun _ | shuttingDown | loaded .. => .info
  | halting _ => .error

def text : Note → String
  | executing pc opcode instruction =>
      Hex.marked 3 pc.toNat ++ ": " ++ opcode.text ++ " " ++ instruction.text
  | waiting x => "waiting for a key press into " ++ Instruction.registerText x
  | resuming key => "key " ++ Hex.padded 1 key ++ " pressed, resuming"
  | returnDropped address pointer =>
      "dropping return address " ++ Hex.marked 3 address.toNat ++
        s!", stack pointer {pointer.toNat} is beyond the stack depth"
  | toneOn => "tone on"
  | toneOff => "tone off"
  | frequencySet hz => s!"instruction frequency set to {hz} Hz"
  | runBegun instructionHz timerHz =>
      s!"running at {instructionHz} Hz, ticking at {timerHz} Hz"
  | runEnded => "stopped"
  | consoleBegun instructionHz => s!"running at {instructionHz} Hz"
  | shuttingDown => "shutting down"
  | halting cause => "halting: " ++ cause.message
  | loaded path size => s!"Successfully loaded program {path} ({size} bytes)"

/-- A note with its level in front. -/
def line (note : Note) : String := note.level.text ++ " " ++ note.text

end Note
end Chip8

import Chip8.CommandLine
import Chip8.Console.Input

/-!
# The emulator in a terminal

Reads the command line, loads the program and iterates a console. Typed lines are read beside the
console and their events wait until its next iteration. The callbacks of an iteration are run at
once, and the top layer of the screen is printed with control sequences of the terminal.
-/

namespace Chip8
namespace Play

/-- The control sequences and the text of a print. -/
def printText (print : Terminal.Print) : String :=
  let place := s!"\x1b[{print.y + 1};{print.x + 1}H"
  match print.style with
  | .black => place ++ "\x1b[7m" ++ print.text ++ "\x1b[0m"
  | .plain => place ++ print.text

/-- The text that draws the top layer of a screen on a cleared terminal. -/
def screenText (screen : Terminal.Screen) : String :=
  match screen.layers with
  | [] => ""
  | view :: _ => "\x1b[2J" ++ String.join (view.prints.map printText)

/-- Show everything that waits on the channel of a console. -/
def present (screen : Terminal.Screen) (console : Console Machine) :
    IO (Terminal.Screen × Console Machine) := do
  let (callbacks, console) := console.receive
  let screen := callbacks.foldl Terminal.Screen.handle screen
  unless callbacks.isEmpty do
    IO.print (screenText screen)
    (← IO.getStdout).flush
  return (screen, console)

/-- Wait until the budget of the current cycle has ended. -/
def pace (console : Console Machine) : IO (Console Machine) := do
  let (wait, scheduler) := console.rig.scheduler.pace (← IO.monoNanosNow)
  if 1000000 ≤ wait then IO.sleep (UInt32.ofNat (wait / 1000000))
  return { console with rig := { console.rig with scheduler } }

/-- Put the events of typed lines where the console finds them, and a request to quit at the end
of the input. -/
partial def listen (waiting : IO.Ref (List Event)) : IO Unit := do
  let line ← (← IO.getStdin).getLine
  if line.isEmpty then waiting.modify (· ++ [.quit])
  else
    waiting.modify (· ++ Event.ofTyped line.toList)
    listen waiting

/-- Iterate a console until it ends. -/
partial def loop (waiting : IO.Ref (List Event)) (screen : Terminal.Screen)
    (console : Console Machine) : IO UInt32 := do
  let events ← waiting.modifyGet fun events => (events, [])
  for note in console.iterateNotes events do
    if note.level = .error then IO.eprintln note.line
  match console.iterate events with
  | .running console =>
      let (screen, console) ← present screen console
      loop waiting screen (← pace console)
  | .finished _ => return 0
  | .halted _ console =>
      let _ ← present screen console
      return 1

/-- Run a program with the given options. -/
def run (options : CommandLine.Options) : IO UInt32 := do
  let contents : Except String (List UInt8) ←
    try
      let bytes ← IO.FS.readBinFile options.program
      pure (.ok bytes.toList)
    catch reason => pure (.error (toString reason))
  let seed ←
    match options.seed with
    | some seed => pure seed
    | none => do
        let bytes ← IO.getRandomBytes 8
        pure (bytes.toList.foldl (fun seed byte => 256 * seed + byte.toUInt64) 0)
  match (Machine.ofSeed seed).loadFile options.program contents with
  | (.error (.fault cause), _) =>
      IO.eprintln cause.message
      return 1
  | (.error .abort, _) => return 1
  | (.ok _, machine) =>
      let timing := { Timing.standard with runWhileWaiting := !options.freezeTimers }
      let scheduler := (Scheduler.new timing).setInstructionHz options.instructionHz
      let waiting ← IO.mkRef []
      let _ ← IO.asTask (listen waiting) .dedicated
      loop waiting ⟨[.initial], true⟩ (.new machine scheduler)

end Play
end Chip8

/-- Run the program that the command line names. -/
def main (arguments : List String) : IO UInt32 := do
  match Chip8.CommandLine.read arguments with
  | .ok options => Chip8.Play.run options
  | .error .help =>
      IO.print Chip8.CommandLine.usage
      return 0
  | .error .version =>
      IO.println "chip8 0.1.0"
      return 0
  | .error (.problem problem) =>
      IO.eprintln problem.message
      return 2

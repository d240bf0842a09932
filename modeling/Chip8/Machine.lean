import Chip8.CallStack
import Chip8.Memory
import Chip8.Picture
import Chip8.Random
import Chip8.Registers

/-!
# The machine

Everything that a program can change, the random source it draws from, and the key wait it may be
suspended in. A machine starts with the font in memory, nothing else, and its program counter at
the first byte of a program.
-/

namespace Chip8

structure Machine where
  memory : Memory
  stack : CallStack
  picture : Picture
  registers : Registers
  random : RandomSource
  /-- A byte that stands in for every random byte. -/
  fixedByte : Option UInt8
  /-- The register that a pending key wait will fill. -/
  awaiting : Option Register
  deriving DecidableEq

namespace Machine

/-- A machine at power-on that draws from a random source. -/
def powerOn (random : RandomSource) : Machine where
  memory := .initial
  stack := .initial
  picture := .dark
  registers := .initial
  random := random
  fixedByte := none
  awaiting := none

/-- A machine at power-on whose random bytes come from a seed. -/
def ofSeed (seed : UInt64) : Machine := powerOn (.ofSeed seed)

/-- Give memory, call stack and picture their power-on contents. -/
def clearStorage (machine : Machine) : Machine :=
  { machine with memory := .initial, stack := .initial, picture := .dark }

/-- Give everything its power-on contents, save the random source and the fixed byte. -/
def reset (machine : Machine) : Machine :=
  { machine.clearStorage with registers := .initial, awaiting := none }

/-- The machine behind an operation on its memory, beside the result of that. -/
def withMemory (machine : Machine) (result : Attempt Unit × Memory) : Attempt Unit × Machine :=
  (result.1, { machine with memory := result.2 })

/-- Put a program where programs start. -/
def loadProgram (machine : Machine) (program : List UInt8) : Attempt Unit × Machine :=
  machine.withMemory (machine.memory.loadProgram program)

theorem loadProgram_of_le (machine : Machine) {program : List UInt8}
    (fits : program.length ≤ Memory.programCapacity) :
    machine.loadProgram program =
      (.ok (), { machine with memory := machine.memory.put Memory.programStart program }) := by
  rw [loadProgram, machine.memory.loadProgram_of_le fits]
  rfl

/-- Load the program that was read from a path, or report that it could not be read. The result is
the size of the program. -/
def loadFile (machine : Machine) (path : String) (contents : Except String (List UInt8)) :
    Attempt Nat × Machine :=
  match contents with
  | .error reason => (.refuse (.unreadableProgram path reason), machine)
  | .ok program =>
      let (answer, loaded) := machine.loadProgram program
      (answer.map fun _ => program.length, loaded)

/-- The return address that a stack pointer selects. -/
def readStack (machine : Machine) (pointer : UInt8) : Attempt UInt16 :=
  match machine.stack.read? pointer with
  | some address => .ok address
  | none => .refuse (.stackOutOfRange pointer)

theorem readStack_eq_ok_iff {machine : Machine} {pointer : UInt8} {address : UInt16} :
    machine.readStack pointer = .ok address ↔ machine.stack.read? pointer = some address := by
  unfold readStack
  cases machine.stack.read? pointer <;> simp [Attempt.refuse]

theorem readStack_of_depth_le {machine : Machine} {pointer : UInt8}
    (beyond : CallStack.depth ≤ pointer.toNat) :
    machine.readStack pointer = .refuse (.stackOutOfRange pointer) := by
  rw [readStack, CallStack.read?_eq_none_iff.mpr beyond]

/-! ## Small steps -/

def setRegister (machine : Machine) (x : Register) (value : UInt8) : Machine :=
  { machine with registers := machine.registers.set x value }

def setIndex (machine : Machine) (index : UInt16) : Machine :=
  { machine with registers := { machine.registers with index } }

def jumpTo (machine : Machine) (pc : UInt16) : Machine :=
  { machine with registers := { machine.registers with pc } }

def setDelay (machine : Machine) (delay : UInt8) : Machine :=
  { machine with registers := { machine.registers with delay } }

def setSound (machine : Machine) (sound : UInt8) : Machine :=
  { machine with registers := { machine.registers with sound } }

/-- Move the program counter behind the next instruction. -/
def advance (machine : Machine) : Machine := machine.jumpTo (machine.registers.pc + 2)

/-- Leave out the next instruction if a condition holds. -/
def skipIf (machine : Machine) (condition : Bool) : Machine :=
  if condition then machine.advance else machine

/-- The byte that a random instruction gets before masking. -/
def randomByte (machine : Machine) : UInt8 := machine.fixedByte.getD machine.random.peek

/-- Use up a random byte. A fixed byte is never used up. -/
def dropRandomByte (machine : Machine) : Machine :=
  match machine.fixedByte with
  | some _ => machine
  | none => { machine with random := machine.random.skip }

/-! ## Timers -/

def decay (machine : Machine) : Machine :=
  { machine with registers := machine.registers.decay }

/-- Whether the tone should sound. -/
def sounding (machine : Machine) : Bool := machine.registers.sound != 0

end Machine
end Chip8

import Chip8.Machine.Cycle
import Chip8.Note

/-!
# What a cycle tells

The notes of a cycle, derived from the machine before it. An instruction is announced as soon as it
is decoded, so also when its execution then fails.
-/

namespace Chip8

/-- The notes of pushing a return address. -/
def CallStack.writeNotes (pointer : UInt8) (address : UInt16) : List Note :=
  if pointer.toNat < depth then [] else [.returnDropped address pointer]

/-- The notes of executing an instruction on a machine whose program counter is behind it. -/
def Instruction.notes (instruction : Instruction) (pressed : Option Key) (machine : Machine) :
    List Note :=
  match instruction, pressed with
  | call _, _ => CallStack.writeNotes (machine.registers.sp + 1) machine.registers.pc
  | awaitKey x, none => [.waiting x]
  | _, _ => []

/-- The notes of a cycle. -/
def Machine.cycleNotes (pressed : Option Key) (machine : Machine) : List Note :=
  match machine.awaiting, pressed with
  | some _, some key => [.resuming key]
  | some _, none => []
  | none, _ =>
      match machine.next with
      | .ok (opcode, instruction) =>
          .executing machine.registers.pc opcode instruction ::
            instruction.notes pressed machine.advance
      | .error _ => []

/-- The notes of loading the program that was read from a path. -/
def Machine.loadFileNotes (machine : Machine) (path : String)
    (contents : Except String (List UInt8)) : List Note :=
  match (machine.loadFile path contents).1 with
  | .ok size => [.loaded path size]
  | .error _ => []

end Chip8

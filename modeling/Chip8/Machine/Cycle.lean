import Chip8.Machine.Execute

/-!
# Cycles

One cycle fetches, decodes and executes the instruction at the program counter. While a key wait
is pending, a cycle only looks at the keypad. A cycle that fails puts the program counter back to
the instruction that failed.
-/

namespace Chip8

/-- What a cycle that did not fail has done. -/
inductive Outcome where
  | executed (opcode : Opcode)
  | awaiting
  | received (key : Key)
  deriving DecidableEq

namespace Machine

/-- The word at the program counter. -/
def fetch (machine : Machine) : Attempt Opcode :=
  machine.memory.readWord machine.registers.pc.toNat

/-- The word at the program counter and the instruction it stands for. -/
def next (machine : Machine) : Attempt (Opcode × Instruction) := do
  let opcode ← machine.fetch
  let instruction ← Instruction.decode opcode
  return (opcode, instruction)

theorem next_eq_ok_iff {machine : Machine} {opcode : Opcode} {instruction : Instruction} :
    machine.next = .ok (opcode, instruction) ↔
      machine.fetch = .ok opcode ∧ Instruction.ofOpcode? opcode = some instruction := by
  simp only [next, Attempt.bind_eq_ok_iff, Instruction.decode_eq_ok_iff, pure, Except.pure,
    Except.ok.injEq, Prod.mk.injEq]
  constructor
  · rintro ⟨_, fetched, _, decoded, rfl, rfl⟩
    exact ⟨fetched, decoded⟩
  · rintro ⟨fetched, decoded⟩
    exact ⟨opcode, fetched, instruction, decoded, rfl, rfl⟩

/-- Execute the instruction at the program counter, which moves behind it first. If that fails, the
program counter is put back. -/
def perform (machine : Machine) (pressed : Option Key) : Attempt Opcode × Machine :=
  match machine.next with
  | .error failure => (.error failure, machine)
  | .ok (opcode, instruction) =>
      match instruction.execute pressed machine.advance with
      | (.ok (), after) => (.ok opcode, after)
      | (.error failure, after) => (.error failure, after.jumpTo machine.registers.pc)

/-- End a key wait with a key. -/
def receive (machine : Machine) (x : Register) (key : Key) : Machine :=
  { machine.setRegister x (UInt8.ofNat key) with awaiting := none }

/-- Run one cycle while a key, or none, is pressed. -/
def cycle (pressed : Option Key) (machine : Machine) : Attempt Outcome × Machine :=
  match machine.awaiting, pressed with
  | some x, some key => (.ok (.received key), machine.receive x key)
  | some _, none => (.ok .awaiting, machine)
  | none, _ =>
      let (result, after) := machine.perform pressed
      (result.map .executed, after)

end Machine
end Chip8

import Chip8.Proofs.Cells

/-!
# Successors

Where execution goes on after an instruction. Three instructions name the address, with the offset
of a register added for one of them, and a return takes it from the call stack. A skip whose
condition holds leaves out a word, and everything else goes on with the next word. The address is
told as a sum of natural numbers; as long as the program counter is not within four bytes of its
last value, the machine computes it without wrapping.
-/

namespace Chip8
namespace Instruction

/-- Whether an instruction leaves out the next one. -/
def skips (instruction : Instruction) (pressed : Option Key) (machine : Machine) : Bool :=
  let value := machine.registers.get
  match instruction with
  | skipIfEqual x byte => value x == byte
  | skipUnlessEqual x byte => value x != byte
  | skipIfSame x y _ => value x == value y
  | skipUnlessSame x y _ => value x != value y
  | skipIfPressed x => machine.namesPressed x pressed
  | skipUnlessPressed x => !machine.namesPressed x pressed
  | _ => false

/-- The address that execution goes on with after an instruction. -/
def successor (instruction : Instruction) (pressed : Option Key) (machine : Machine) : Nat :=
  match instruction with
  | jump target | call target => target
  | jumpPlus target => target + (machine.registers.get Registers.offsetRegister).toNat
  | ret => ((machine.stack.read? machine.registers.sp).getD 0).toNat
  | _ => machine.registers.pc.toNat + if instruction.skips pressed machine then 4 else 2

theorem successor_ret {machine : Machine} {pc : UInt16} (pressed : Option Key)
    (read : machine.stack.read? machine.registers.sp = some pc) :
    ret.successor pressed machine = pc.toNat :=
  congrArg (fun address => (Option.getD address 0).toNat) read

end Instruction

namespace Machine

variable {machine : Machine}

theorem toNat_pc_advance (fits : machine.registers.pc.toNat + 2 < 65536) :
    machine.advance.registers.pc.toNat = machine.registers.pc.toNat + 2 := by
  change (machine.registers.pc + 2).toNat = _
  rw [UInt16.toNat_add]
  exact Nat.mod_eq_of_lt fits

theorem toNat_pc_skipIf (fits : machine.registers.pc.toNat + 4 < 65536) (condition : Bool) :
    (machine.advance.skipIf condition).registers.pc.toNat =
      machine.registers.pc.toNat + if condition then 4 else 2 := by
  have first : machine.advance.registers.pc.toNat = machine.registers.pc.toNat + 2 :=
    toNat_pc_advance (by omega)
  cases condition with
  | false => exact first
  | true =>
      have second : machine.advance.advance.registers.pc.toNat = _ :=
        toNat_pc_advance (by omega)
      rw [first] at second
      exact second

/-- A jump with an offset always succeeds, and the sum does not wrap. -/
theorem toNat_pc_jumpPlus (machine : Machine) (target : Address) (offset : UInt8) :
    (machine.jumpPlus target offset).1 = .ok () ∧
      (machine.jumpPlus target offset).2.registers.pc.toNat = target + offset.toNat := by
  have small : target + offset.toNat < 65536 := by
    have := offset.toNat_lt
    omega
  rw [jumpPlus_eq]
  exact ⟨rfl, UInt16.toNat_ofNat_of_lt small⟩

/-- An instruction whose demand is met sets the program counter to its successor. -/
theorem toNat_pc_execute {instruction : Instruction} (allowed : instruction.check machine = .ok ())
    (fits : machine.registers.pc.toNat + 4 < 65536) (pressed : Option Key) :
    (instruction.execute pressed machine.advance).2.registers.pc.toNat =
      instruction.successor pressed machine := by
  have behind : machine.advance.registers.pc.toNat = machine.registers.pc.toNat + 2 :=
    toNat_pc_advance (by omega)
  have kept {after : Machine} (agree : Cell.pc.Agree machine.advance after) :
      after.registers.pc.toNat = machine.registers.pc.toNat + 2 :=
    (congrArg UInt16.toNat agree).trans behind
  cases instruction with
  | jump target | call target =>
      exact UInt16.toNat_ofNat_of_lt (Nat.lt_trans target.isLt (by decide))
  | jumpPlus target => exact (toNat_pc_jumpPlus machine.advance target _).2
  | ret =>
      obtain ⟨pc, read⟩ := Instruction.check_ret_eq_ok_iff.mp allowed
      have result : machine.advance.ret = _ := machine.advance.ret_of_read read
      rw [Instruction.successor_ret pressed read, Instruction.execute, result]
  | skipIfEqual | skipUnlessEqual | skipIfSame | skipUnlessSame | skipIfPressed
  | skipUnlessPressed => exact toNat_pc_skipIf fits _
  | combine combination x y n => exact kept (by cases combination <;> rfl)
  | random x mask =>
      refine kept ?_
      rw [Instruction.execute, loadRandom, dropRandomByte]
      cases machine.advance.fixedByte <;> rfl
  | awaitKey x => exact kept (by cases pressed <;> rfl)
  | restore x =>
      refine kept ?_
      rw [Instruction.execute, restore_eq]
      refine Cell.agree_proceed fun values _ => ?_
      rw [Registers.putFrom_eq]
      rfl
  | draw | glyph => exact kept (Cell.agree_proceed fun _ _ => rfl)
  | _ => exact behind

theorem toNat_pc_cycle {pressed : Option Key} {instruction : Instruction}
    (fits : machine.registers.pc.toNat + 4 < 65536)
    (executed : Instruction.ofAnswer? (machine.cycle pressed).1 = some instruction) :
    (machine.cycle pressed).2.registers.pc.toNat = instruction.successor pressed machine := by
  obtain ⟨reached, allowed⟩ := cycle_of_executed executed
  rw [reached]
  exact toNat_pc_execute allowed fits pressed

end Machine
end Chip8

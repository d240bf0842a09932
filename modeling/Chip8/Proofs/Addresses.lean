import Chip8.Proofs.Refusals
import Chip8.Proofs.Successors

/-!
# Addresses

How far execution gets beyond memory. Words are fetched from memory only, so what is pushed is at
most the first address behind it, and so is what a return takes back; a jump with an offset comes
furthest. Each of the two bounds, on the program counter and on the call stack, needs the other, and
together they are kept by every instruction. So no address is ever computed with a wrap, and a
program counter that has left memory stays outside until the machine is reset.
-/

namespace Chip8
namespace Machine

/-- The program counter and all return addresses are as small as execution keeps them. -/
structure Confined (machine : Machine) : Prop where
  /-- A jump can be 255 bytes behind the last address that an instruction can name. -/
  pc : machine.registers.pc.toNat ≤ 0x10FE
  /-- A call in the last word of memory pushes the first address behind it. -/
  slots : ∀ pointer address, machine.stack.read? pointer = some address → address.toNat ≤ 0x1000

theorem confined_powerOn (random : RandomSource) : (powerOn random).Confined where
  pc := (by decide : (0x200 : UInt16).toNat ≤ 0x10FE)
  slots := by
    intro pointer address read
    have zero : address = 0 := by
      simp only [powerOn, CallStack.initial, CallStack.read?, Vector.getElem?_replicate] at read
      split at read
      · exact (Option.some.inj read).symm
      · cases read
    rw [zero]
    decide

theorem pc_lt_of_next {machine : Machine} {opcode : Opcode} {instruction : Instruction}
    (found : machine.next = .ok (opcode, instruction)) : machine.registers.pc.toNat < 0xFFF := by
  by_contra outside
  have unread : machine.fetch = _ :=
    Memory.readWord_eq_error_iff.mpr ⟨Nat.le_of_not_lt outside, rfl⟩
  have fetched := (next_eq_ok_iff.mp found).1
  rw [unread] at fetched
  cases fetched

/-- With no word at the program counter, a cycle fails unless a key wait is pending. -/
theorem cycle_of_beyond {machine : Machine} (beyond : 0xFFF ≤ machine.registers.pc.toNat)
    (running : machine.awaiting = none) (pressed : Option Key) :
    machine.cycle pressed =
      (.error (.fault (.addressOutOfRange (machine.registers.pc.toNat + 1))), machine) :=
  cycle_of_ready_error pressed running (ready_eq_fault_iff.mpr (.fetch beyond))

/-- So no cycle moves a program counter at which there is no word. -/
theorem pc_cycle_of_beyond {machine : Machine} (beyond : 0xFFF ≤ machine.registers.pc.toNat)
    (pressed : Option Key) :
    (machine.cycle pressed).2.registers.pc = machine.registers.pc := by
  cases machine.cycleKind pressed with
  | received _ _ result => rw [result]; rfl
  | awaiting _ _ result => rw [result]
  | failed _ _ result => rw [result]
  | executed _ found _ _ => exact absurd (pc_lt_of_next found) (Nat.not_lt.mpr beyond)

namespace Confined

variable {machine : Machine} {opcode : Opcode} {instruction : Instruction}

theorem fits (confined : machine.Confined) : machine.registers.pc.toNat + 4 < 65536 := by
  have := confined.pc
  omega

theorem successor_le (confined : machine.Confined)
    (found : machine.next = .ok (opcode, instruction))
    (allowed : instruction.check machine = .ok ()) (pressed : Option Key) :
    instruction.successor pressed machine ≤ 0x10FE := by
  have inside := pc_lt_of_next found
  have onward (condition : Bool) : (if condition then 4 else 2) ≤ 4 := by
    cases condition <;> decide
  cases instruction with
  | jump target | call target => exact Nat.le_trans (Nat.le_of_lt target.isLt) (by decide)
  | jumpPlus target =>
      have offset := (machine.registers.get Registers.offsetRegister).toNat_lt
      change target + (machine.registers.get Registers.offsetRegister).toNat ≤ 0x10FE
      omega
  | ret =>
      obtain ⟨pc, read⟩ := Instruction.check_ret_eq_ok_iff.mp allowed
      rw [Instruction.successor_ret pressed read]
      exact Nat.le_trans (confined.slots _ _ read) (by decide)
  | _ => exact Nat.le_trans (Nat.add_le_add_left (onward _) _) (by omega)

/-- Only a call writes to the call stack, and it pushes the address behind its own word. -/
theorem slots_execute (confined : machine.Confined)
    (found : machine.next = .ok (opcode, instruction)) (pressed : Option Key)
    {pointer : UInt8} {address : UInt16}
    (read : (instruction.execute pressed machine.advance).2.stack.read? pointer = some address) :
    address.toNat ≤ 0x1000 := by
  by_cases writes : .stack ∈ instruction.parts
  · obtain ⟨target, rfl⟩ := Instruction.stack_mem_parts_iff.mp writes
    have written : (machine.stack.write (machine.registers.sp + 1)
        machine.advance.registers.pc).read? pointer = some address := read
    rw [CallStack.read?_write] at written
    split at written
    · cases written
      have inside := pc_lt_of_next found
      have pushed : machine.advance.registers.pc.toNat = _ := toNat_pc_advance (by omega)
      omega
    · exact confined.slots _ _ written
  · have kept : (instruction.execute pressed machine.advance).2.stack = machine.stack :=
      Instruction.execute_agree writes pressed machine.advance
    rw [kept] at read
    exact confined.slots _ _ read

theorem cycle (confined : machine.Confined) (pressed : Option Key) :
    (machine.cycle pressed).2.Confined := by
  cases machine.cycleKind pressed with
  | received _ _ result => rw [result]; exact ⟨confined.pc, confined.slots⟩
  | awaiting _ _ result => rw [result]; exact confined
  | failed _ _ result => rw [result]; exact confined
  | executed _ found allowed result =>
      rw [result]
      refine ⟨?_, fun _ _ read => confined.slots_execute found pressed read⟩
      rw [toNat_pc_execute allowed confined.fits]
      exact confined.successor_le found allowed pressed

end Confined
end Machine

/-! ## Runs of a host -/

namespace Host

/-- Whether an action puts no address of the host's choice into the program counter or the call
stack. -/
def Action.sparesControl : Action → Bool
  | jump _ | putRegisters _ | putStorage .. => false
  | _ => true

variable {host : Host}

theorem confined_act (confined : host.machine.Confined) {action : Action}
    (spared : action.sparesControl) : (host.act action).machine.Confined := by
  cases action with
  | cycle => exact confined.cycle host.keypad.pressed
  | reset =>
      have initial := Machine.confined_powerOn host.machine.random
      exact ⟨initial.pc, initial.slots⟩
  | decay | key _ | load _ | fix _ => exact ⟨confined.pc, confined.slots⟩
  | _ => cases spared

theorem confined_run (confined : host.machine.Confined) {actions : List Action}
    (spared : ∀ action ∈ actions, action.sparesControl) :
    (host.run actions).machine.Confined := by
  induction actions generalizing host with
  | nil => exact confined
  | cons action rest induction =>
      obtain ⟨first, still⟩ := List.forall_mem_cons.mp spared
      exact induction (confined_act confined first) still

theorem pc_act_of_beyond (beyond : 0xFFF ≤ host.machine.registers.pc.toNat) {action : Action}
    (spared : action.sparesControl) (goesOn : action ≠ .reset) :
    (host.act action).machine.registers.pc = host.machine.registers.pc := by
  cases action with
  | cycle => exact Machine.pc_cycle_of_beyond beyond host.keypad.pressed
  | reset => exact absurd rfl goesOn
  | decay | key _ | load _ | fix _ => rfl
  | _ => cases spared

/-- A program counter without a word stays where it is until a reset. -/
theorem pc_run_of_beyond (beyond : 0xFFF ≤ host.machine.registers.pc.toNat)
    {actions : List Action}
    (spared : ∀ action ∈ actions, action.sparesControl ∧ action ≠ .reset) :
    (host.run actions).machine.registers.pc = host.machine.registers.pc := by
  induction actions generalizing host with
  | nil => rfl
  | cons action rest induction =>
      obtain ⟨⟨first, goesOn⟩, still⟩ := List.forall_mem_cons.mp spared
      have stays := pc_act_of_beyond beyond first goesOn
      have beyondStill : 0xFFF ≤ (host.act action).machine.registers.pc.toNat := by
        rw [stays]
        exact beyond
      exact (induction beyondStill still).trans stays

end Host

/-- In every run from power-on in which the host chooses neither the program counter nor the call
stack, the program counter and the return addresses are bounded. Neither advancing nor a jump with
an offset wraps, so an instruction goes on exactly where the unwrapped sums say. Once there is no
word at the program counter, it stays there until a reset, and every cycle that fetches fails with
an address just behind memory. -/
theorem addresses_stay_bounded (random : RandomSource) (actions : List Host.Action)
    (spared : ∀ action ∈ actions, action.sparesControl) :
    let host := (Host.powerOn random).run actions
    let machine := host.machine
    let pc := machine.registers.pc.toNat
    let offset := machine.registers.get Registers.offsetRegister
    pc ≤ 0x10FE ∧
    (∀ pointer address, machine.stack.read? pointer = some address → address.toNat ≤ 0x1000) ∧
    (machine.advance.registers.pc.toNat = pc + 2 ∧
      machine.advance.advance.registers.pc.toNat = pc + 4) ∧
    (∀ target : Address, (machine.jumpPlus target offset).1 = .ok () ∧
      (machine.jumpPlus target offset).2.registers.pc.toNat = target + offset.toNat) ∧
    (∀ instruction, Instruction.ofAnswer? host.answer = some instruction →
      (host.act .cycle).machine.registers.pc.toNat =
        instruction.successor host.keypad.pressed machine) ∧
    (0xFFF ≤ pc → 0x1000 ≤ pc + 1 ∧ pc + 1 ≤ 0x10FF ∧
      ∀ later, (∀ action ∈ later, action.sparesControl ∧ action ≠ .reset) →
        (host.run later).machine.registers.pc.toNat = pc ∧
          ((host.run later).machine.awaiting = none →
            (host.run later).answer = .error (.fault (.addressOutOfRange (pc + 1))))) := by
  intro host machine pc offset
  have start : (Host.powerOn random).machine.Confined := Machine.confined_powerOn random
  have confined : machine.Confined := Host.confined_run start spared
  have fits : pc + 4 < 65536 := confined.fits
  refine ⟨confined.pc, confined.slots, ?_, ?_, ?_, ?_⟩
  · have first : machine.advance.registers.pc.toNat = pc + 2 :=
      Machine.toNat_pc_advance (by omega)
    refine ⟨first, ?_⟩
    rw [Machine.toNat_pc_advance (by omega), first]
  · intro target
    exact machine.toNat_pc_jumpPlus target offset
  · intro instruction executed
    exact Machine.toNat_pc_cycle fits executed
  · intro beyond
    have bound : pc ≤ 0x10FE := confined.pc
    refine ⟨by omega, by omega, ?_⟩
    intro later sparedLater
    have stays := Host.pc_run_of_beyond beyond sparedLater
    have still : (host.run later).machine.registers.pc.toNat = pc := by rw [stays]
    refine ⟨still, ?_⟩
    intro running
    rw [Host.answer, Machine.cycle_of_beyond (by rw [still]; exact beyond) running, still]

/-- `LD V0, 0xFF`, `JP V0, 0xFFF` comes as far as execution can. There a decay, a key and another
program make no difference, and the next cycle fails. -/
theorem furthest_jump_fails :
    let random : RandomSource := ⟨Vector.replicate 8 0, 0⟩
    let actions : List Host.Action := [.load [0x60, 0xFF, 0xBF, 0xFF], .cycle, .cycle]
    let later : List Host.Action := [.decay, .key (.press (.of 5)), .load [0x12, 0x00]]
    let host := (Host.powerOn random).run actions
    (∀ action ∈ actions, action.sparesControl) ∧
      (∀ action ∈ later, action.sparesControl ∧ action ≠ .reset) ∧
      host.machine.registers.pc = 0x10FE ∧
      (host.run later).machine.registers.pc.toNat = 0x10FE ∧
      (host.run later).answer = .error (.fault (.addressOutOfRange 0x10FF)) := by
  intro random actions later host
  have spared : ∀ action ∈ actions, action.sparesControl := by decide
  have sparedLater : ∀ action ∈ later, action.sparesControl ∧ action ≠ .reset := by decide
  have facts : host.machine.registers.pc = 0x10FE ∧
      (host.run later).machine.awaiting = none := by decide +kernel
  obtain ⟨reached, running⟩ := facts
  have pc : host.machine.registers.pc.toNat = 0x10FE := by rw [reached]; rfl
  obtain ⟨-, -, -, -, -, outside⟩ := addresses_stay_bounded random actions spared
  obtain ⟨-, -, stuck⟩ := outside (by rw [pc]; decide)
  obtain ⟨stays, fails⟩ := stuck later sparedLater
  rw [pc] at stays fails
  exact ⟨spared, sparedLater, reached, stays, fails running⟩

end Chip8

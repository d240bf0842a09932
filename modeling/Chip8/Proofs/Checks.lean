import Chip8.Machine.Cycle

/-!
# Checks before changes

What an instruction demands of a machine before it changes anything. An instruction whose demand is
not met fails and leaves the machine as it was; any other instruction is executed. From this follows
which of four things a cycle does: it ends a key wait, goes on waiting, fails, or executes the
instruction at the program counter.
-/

namespace Chip8
namespace Instruction

/-- What an instruction demands of a machine: a slot to return from, or a range of memory that can
be accessed. -/
def check (instruction : Instruction) (machine : Machine) : Attempt Unit :=
  match instruction with
  | ret => (machine.readStack machine.registers.sp).map fun _ => ()
  | draw _ _ height => Memory.checkRange machine.registers.index.toNat height
  | decimal _ => Memory.checkRange machine.registers.index.toNat 3
  | store x => Memory.checkRange machine.registers.index.toNat (x + 1)
  | restore x => Memory.checkRange machine.registers.index.toNat (x + 1)
  | _ => .ok ()

@[simp]
theorem check_jumpTo (instruction : Instruction) (machine : Machine) (pc : UInt16) :
    instruction.check (machine.jumpTo pc) = instruction.check machine := by
  cases instruction <;> rfl

@[simp]
theorem check_advance (instruction : Instruction) (machine : Machine) :
    instruction.check machine.advance = instruction.check machine :=
  instruction.check_jumpTo machine _

theorem check_ret_eq_ok_iff {machine : Machine} :
    ret.check machine = .ok () ↔
      ∃ address, machine.stack.read? machine.registers.sp = some address := by
  simp only [← Machine.readStack_eq_ok_iff, check]
  cases machine.readStack machine.registers.sp <;> simp [Except.map]

/-- An instruction whose demand is not met changes nothing. -/
theorem execute_of_check_error {instruction : Instruction} {machine : Machine} {failure : Failure}
    (pressed : Option Key) (refused : instruction.check machine = .error failure) :
    instruction.execute pressed machine = (.error failure, machine) := by
  cases instruction with
  | ret =>
      cases read : machine.readStack machine.registers.sp with
      | ok pc => simp [check, read, Except.map] at refused
      | error cause =>
          have same : cause = failure := by simpa [check, read, Except.map] using refused
          rw [execute, Machine.ret, read, Attempt.proceed_error, same]
  | draw x y height =>
      rw [check] at refused
      rw [execute, Machine.draw, Memory.readRange_eq, refused]
      rfl
  | decimal x =>
      rw [check] at refused
      rw [execute, Machine.storeAtIndex_eq, Registers.length_decimalDigits, refused]
      rfl
  | store x =>
      rw [check] at refused
      rw [execute, Machine.storeAtIndex_eq, Registers.length_upTo, refused]
      rfl
  | restore x =>
      rw [check] at refused
      rw [execute, Machine.restore, Memory.readRange_eq, refused]
      rfl
  | _ => simp [check] at refused

/-- An instruction whose demand is met does not fail. -/
theorem execute_of_check_ok {instruction : Instruction} {machine : Machine}
    (pressed : Option Key) (allowed : instruction.check machine = .ok ()) :
    (instruction.execute pressed machine).1 = .ok () := by
  cases instruction with
  | ret =>
      obtain ⟨pc, read⟩ := check_ret_eq_ok_iff.mp allowed
      rw [execute, Machine.ret_of_read read]
  | jumpPlus target => rw [execute, Machine.jumpPlus_eq]
  | glyph x => rw [execute, Machine.pointToGlyph_eq]
  | draw x y height =>
      rw [check] at allowed
      rw [execute, Machine.draw, Memory.readRange_eq, allowed]
      rfl
  | decimal x =>
      rw [check] at allowed
      rw [execute, Machine.storeAtIndex_eq, Registers.length_decimalDigits, allowed]
      rfl
  | store x =>
      rw [check] at allowed
      rw [execute, Machine.storeAtIndex_eq, Registers.length_upTo, allowed]
      rfl
  | restore x =>
      rw [check] at allowed
      rw [execute, Machine.restore_eq, Memory.readRange_eq, allowed]
      rfl
  | _ => rfl

end Instruction

namespace Machine

/-- The opcode that the next cycle executes unless a key wait is pending, or why it will fail. -/
def ready (machine : Machine) : Attempt Opcode := do
  let (opcode, instruction) ← machine.next
  instruction.check machine
  return opcode

theorem ready_eq_ok_iff {machine : Machine} {opcode : Opcode} :
    machine.ready = .ok opcode ↔
      ∃ instruction, machine.next = .ok (opcode, instruction) ∧
        instruction.check machine = .ok () := by
  simp only [ready, Attempt.bind_eq_ok_iff, pure, Except.pure, Except.ok.injEq]
  constructor
  · rintro ⟨⟨_, instruction⟩, found, _, allowed, rfl⟩
    exact ⟨instruction, found, allowed⟩
  · rintro ⟨instruction, found, allowed⟩
    exact ⟨(opcode, instruction), found, (), allowed, rfl⟩

theorem ready_eq_error_iff {machine : Machine} {failure : Failure} :
    machine.ready = .error failure ↔
      machine.next = .error failure ∨
        ∃ opcode instruction, machine.next = .ok (opcode, instruction) ∧
          instruction.check machine = .error failure := by
  simp only [ready, Attempt.bind_eq_error_iff, pure, Except.pure, reduceCtorEq, and_false,
    exists_false, or_false, Prod.exists]

/-- Where the next instruction cannot be executed, performing it changes nothing. -/
theorem perform_of_ready_error {machine : Machine} {failure : Failure} (pressed : Option Key)
    (refused : machine.ready = .error failure) :
    machine.perform pressed = (.error failure, machine) := by
  unfold perform
  rcases ready_eq_error_iff.mp refused with unread | ⟨opcode, instruction, found, failed⟩
  · simp only [unread]
  · have stopped : instruction.execute pressed machine.advance =
        (.error failure, machine.advance) :=
      Instruction.execute_of_check_error pressed ((instruction.check_advance machine).trans failed)
    simp only [found, stopped]
    rfl

/-- Otherwise the instruction takes effect as a whole. -/
theorem perform_of_check_ok {machine : Machine} {opcode : Opcode} {instruction : Instruction}
    (pressed : Option Key) (found : machine.next = .ok (opcode, instruction))
    (allowed : instruction.check machine = .ok ()) :
    machine.perform pressed = (.ok opcode, (instruction.execute pressed machine.advance).2) := by
  have finished : (instruction.execute pressed machine.advance).1 = .ok () :=
    Instruction.execute_of_check_ok pressed ((instruction.check_advance machine).trans allowed)
  unfold perform
  simp only [found]
  generalize instruction.execute pressed machine.advance = result at finished ⊢
  obtain ⟨answer, after⟩ := result
  cases finished
  rfl

/-! ## Cycles -/

/-- What a cycle does while a key, or none, is pressed: it ends a key wait, lets one go on, fails
without changing anything, or executes the next instruction as a whole. -/
inductive CycleKind (pressed : Option Key) (machine : Machine) : Prop where
  | received {x : Register} {key : Key} (waiting : machine.awaiting = some x)
      (held : pressed = some key)
      (result : machine.cycle pressed = (.ok (.received key), machine.receive x key))
  | awaiting {x : Register} (waiting : machine.awaiting = some x) (idle : pressed = none)
      (result : machine.cycle pressed = (.ok .awaiting, machine))
  | failed {failure : Failure} (running : machine.awaiting = none)
      (refused : machine.ready = .error failure)
      (result : machine.cycle pressed = (.error failure, machine))
  | executed {opcode : Opcode} {instruction : Instruction} (running : machine.awaiting = none)
      (found : machine.next = .ok (opcode, instruction))
      (allowed : instruction.check machine = .ok ())
      (result : machine.cycle pressed =
        (.ok (.executed opcode), (instruction.execute pressed machine.advance).2))

theorem cycle_of_received {machine : Machine} {pressed : Option Key} {x : Register} {key : Key}
    (waiting : machine.awaiting = some x) (held : pressed = some key) :
    machine.cycle pressed = (.ok (.received key), machine.receive x key) := by
  simp only [cycle, waiting, held]

theorem cycle_of_idle {machine : Machine} {pressed : Option Key} {x : Register}
    (waiting : machine.awaiting = some x) (idle : pressed = none) :
    machine.cycle pressed = (.ok .awaiting, machine) := by
  simp only [cycle, waiting, idle]

theorem cycle_of_ready_error {machine : Machine} {failure : Failure} (pressed : Option Key)
    (running : machine.awaiting = none) (refused : machine.ready = .error failure) :
    machine.cycle pressed = (.error failure, machine) := by
  unfold cycle
  simp only [running, perform_of_ready_error pressed refused]
  rfl

theorem cycle_of_check_ok {machine : Machine} {opcode : Opcode} {instruction : Instruction}
    (pressed : Option Key) (running : machine.awaiting = none)
    (found : machine.next = .ok (opcode, instruction))
    (allowed : instruction.check machine = .ok ()) :
    machine.cycle pressed =
      (.ok (.executed opcode), (instruction.execute pressed machine.advance).2) := by
  unfold cycle
  simp only [running, perform_of_check_ok pressed found allowed]
  rfl

/-- Every cycle is of one of the four kinds. -/
theorem cycleKind (pressed : Option Key) (machine : Machine) : CycleKind pressed machine := by
  cases waiting : machine.awaiting with
  | some x =>
      cases pressed with
      | some key => exact .received waiting rfl (cycle_of_received waiting rfl)
      | none => exact .awaiting waiting rfl (cycle_of_idle waiting rfl)
  | none =>
      cases outcome : machine.ready with
      | error failure =>
          exact .failed waiting outcome (cycle_of_ready_error pressed waiting outcome)
      | ok opcode =>
          obtain ⟨instruction, found, allowed⟩ := ready_eq_ok_iff.mp outcome
          exact .executed waiting found allowed (cycle_of_check_ok pressed waiting found allowed)

/-- A cycle fails exactly if no key wait is pending and the next instruction cannot be executed. -/
theorem cycle_eq_error_iff {machine : Machine} {pressed : Option Key} {failure : Failure} :
    (machine.cycle pressed).1 = .error failure ↔
      machine.awaiting = none ∧ machine.ready = .error failure := by
  constructor
  · intro failed
    cases machine.cycleKind pressed with
    | received _ _ result => simp [result] at failed
    | awaiting _ _ result => simp [result] at failed
    | executed _ _ _ result => simp [result] at failed
    | failed running refused result =>
        have same := failed
        rw [result] at same
        cases same
        exact ⟨running, refused⟩
  · rintro ⟨running, refused⟩
    rw [cycle_of_ready_error pressed running refused]

end Machine
end Chip8

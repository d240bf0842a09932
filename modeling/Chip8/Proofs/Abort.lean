import Chip8.Proofs.Host
import Mathlib.Tactic.Common

/-!
# Cycles without an answer

There is one way for a cycle to have no answer: an empty sprite is drawn while the index register
points beyond the first address behind memory. The range of an empty sprite has no last address that
could be refused, and yet nothing begins there.
-/

namespace Chip8

theorem Instruction.decode_ne_abort (opcode : Opcode) : decode opcode ≠ .error .abort := by
  unfold decode
  cases ofOpcode? opcode <;> exact fun aborts => nomatch aborts

namespace Machine

/-- The next cycle draws an empty sprite from beyond memory. -/
def DrawsBeyond (machine : Machine) : Prop :=
  machine.awaiting = none ∧ Memory.size < machine.registers.index.toNat ∧
    ∃ opcode x y height, machine.next = .ok (opcode, .draw x y height) ∧ height.val = 0

theorem fetch_ne_abort (machine : Machine) : machine.fetch ≠ .error .abort := by
  unfold fetch Memory.readWord
  split
  · exact fun aborts => nomatch aborts
  · exact fun aborts => nomatch aborts

/-- Fetching and decoding may be refused but always have an answer. -/
theorem next_ne_abort (machine : Machine) : machine.next ≠ .error .abort := by
  intro aborts
  simp only [next, Attempt.bind_eq_error_iff, pure, Except.pure, reduceCtorEq, and_false,
    exists_false, or_false] at aborts
  rcases aborts with unread | ⟨opcode, -, unknown⟩
  · exact machine.fetch_ne_abort unread
  · exact Instruction.decode_ne_abort opcode unknown

theorem check_eq_abort_iff {instruction : Instruction} {machine : Machine} :
    instruction.check machine = .error .abort ↔
      Memory.size < machine.registers.index.toNat ∧
        ∃ x y height, instruction = .draw x y height ∧ height.val = 0 := by
  cases instruction with
  | ret =>
      rw [Instruction.check, readStack]
      cases machine.stack.read? machine.registers.sp <;> simp [Except.map, Attempt.refuse]
  | draw x y height =>
      rw [Instruction.check, Memory.checkRange_eq_abort_iff, and_comm]
      simp
  | decimal x => simp [Instruction.check, Memory.checkRange_eq_abort_iff]
  | store x => simp [Instruction.check, Memory.checkRange_eq_abort_iff]
  | restore x => simp [Instruction.check, Memory.checkRange_eq_abort_iff]
  | _ => simp [Instruction.check]

/-- A cycle has an answer in every state but those that draw an empty sprite from beyond memory. -/
theorem cycle_eq_abort_iff {machine : Machine} {pressed : Option Key} :
    (machine.cycle pressed).1 = .error .abort ↔ machine.DrawsBeyond := by
  rw [cycle_eq_error_iff, DrawsBeyond]
  refine and_congr_right fun _ => ?_
  rw [ready_eq_error_iff]
  constructor
  · rintro (unread | ⟨opcode, instruction, found, failed⟩)
    · exact absurd unread machine.next_ne_abort
    · obtain ⟨beyond, x, y, height, rfl, empty⟩ := check_eq_abort_iff.mp failed
      exact ⟨beyond, opcode, x, y, height, found, empty⟩
  · rintro ⟨beyond, opcode, x, y, height, found, empty⟩
    have failed : (Instruction.draw x y height).check machine = .error .abort :=
      check_eq_abort_iff.mpr ⟨beyond, x, y, height, rfl, empty⟩
    exact .inr ⟨opcode, .draw x y height, found, failed⟩

end Machine

/-! ## Runs of a program -/

/-- A program that fits into memory can be loaded at power-on. Of all the cycles that a host then
runs, exactly those have no answer that draw an empty sprite from beyond memory. -/
theorem abort_mem_answers_iff (seed : UInt64) (program : List UInt8)
    (fits : program.length ≤ Memory.programCapacity) :
    ∃ machine, (Machine.ofSeed seed).loadProgram program = (.ok (), machine) ∧
      ∀ actions : List Host.Action,
        .error .abort ∈ Host.answers ⟨machine, .idle⟩ actions ↔
          ∃ before after, actions = before ++ .cycle :: after ∧
            (Host.run ⟨machine, .idle⟩ before).machine.DrawsBeyond := by
  refine ⟨_, (Machine.ofSeed seed).loadProgram_of_le fits, ?_⟩
  intro actions
  rw [Host.mem_answers_iff]
  constructor
  · rintro ⟨before, after, split, aborts⟩
    exact ⟨before, after, split, Machine.cycle_eq_abort_iff.mp aborts⟩
  · rintro ⟨before, after, split, beyond⟩
    exact ⟨before, after, split, Machine.cycle_eq_abort_iff.mpr beyond⟩

/-- The program `LD I, 0xFFF`, `LD V0, 0xFF`, `ADD I, V0`, `DRW V0, V0, 0` comes to such a cycle. -/
theorem overrun_draws_beyond :
    let program : List UInt8 := [0xAF, 0xFF, 0x60, 0xFF, 0xF0, 0x1E, 0xD0, 0x00]
    program.length ≤ Memory.programCapacity ∧
      ∃ machine, (Machine.ofSeed 0).loadProgram program = (.ok (), machine) ∧
        .error .abort ∈ Host.answers ⟨machine, .idle⟩ [.cycle, .cycle, .cycle, .cycle] := by
  intro program
  have fits : program.length ≤ Memory.programCapacity := by decide
  obtain ⟨machine, loaded, aborts⟩ := abort_mem_answers_iff 0 program fits
  refine ⟨fits, machine, loaded, (aborts _).mpr ⟨[.cycle, .cycle, .cycle], [], rfl, ?_⟩⟩
  rw [(Machine.ofSeed 0).loadProgram_of_le fits] at loaded
  have same := congrArg Prod.snd loaded
  subst same
  let start : Host :=
    ⟨{ Machine.ofSeed 0 with
      memory := (Machine.ofSeed 0).memory.put Memory.programStart program }, .idle⟩
  have reached : (start.run [.cycle, .cycle, .cycle]).machine.awaiting = none ∧
      Memory.size < (start.run [.cycle, .cycle, .cycle]).machine.registers.index.toNat ∧
        (start.run [.cycle, .cycle, .cycle]).machine.next =
          .ok (0xD000, .draw (.of 0) (.of 0) (.of 0)) := by decide +kernel
  exact ⟨reached.1, reached.2.1, 0xD000, .of 0, .of 0, .of 0, reached.2.2, rfl⟩

/-- So a program can run into a cycle that neither succeeds nor fails. -/
theorem overrun_has_no_answer :
    ¬ ∀ (seed : UInt64) (program : List UInt8) (machine : Machine) (actions : List Host.Action),
      program.length ≤ Memory.programCapacity →
      (Machine.ofSeed seed).loadProgram program = (.ok (), machine) →
      (∀ action ∈ actions, action.plays) →
        .error .abort ∉ Host.answers ⟨machine, .idle⟩ actions := by
  intro answered
  let program : List UInt8 := [0xAF, 0xFF, 0x60, 0xFF, 0xF0, 0x1E, 0xD0, 0x00]
  have fits : program.length ≤ Memory.programCapacity := by decide
  have aborts := answered 0 program _ [.cycle, .cycle, .cycle, .cycle] fits
    ((Machine.ofSeed 0).loadProgram_of_le fits) (by decide)
  revert aborts
  decide +kernel

end Chip8

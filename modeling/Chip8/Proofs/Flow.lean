import Chip8.Proofs.Addresses

/-!
# Control flow

Where a cycle that executes an instruction goes on. The word it has fetched lies in memory, so
neither of the two advances past a word wraps, and the program counter afterwards is the successor
of the instruction as natural numbers have it. The skips come in pairs with opposite conditions:
whatever the state and the pressed key, one of the two leaves out a word and the other does not.
-/

namespace Chip8
namespace Instruction

/-- Two skips leave out the next word on opposite conditions. -/
inductive Opposes : Instruction → Instruction → Prop where
  | byte (x : Register) (byte : UInt8) : Opposes (skipIfEqual x byte) (skipUnlessEqual x byte)
  | registers (x y : Register) (n m : FixedDigit (.of 0)) :
      Opposes (skipIfSame x y n) (skipUnlessSame x y m)
  | key (x : Register) : Opposes (skipIfPressed x) (skipUnlessPressed x)

namespace Opposes

variable {first second : Instruction}

/-- Skips demand nothing of a machine. -/
theorem check (opposes : first.Opposes second) (machine : Machine) :
    first.check machine = .ok () ∧ second.check machine = .ok () := by
  cases opposes <;> exact ⟨rfl, rfl⟩

/-- Only the registers and the pressed key decide, and they decide oppositely. -/
theorem skips_eq_not (opposes : first.Opposes second) {machine other : Machine}
    (same : other.registers = machine.registers) (pressed : Option Key) :
    second.skips pressed other = !first.skips pressed machine := by
  cases opposes <;> simp only [skips, Machine.namesPressed, same, bne]

theorem successor_eq (opposes : first.Opposes second) (pressed : Option Key)
    (machine other : Machine) :
    first.successor pressed machine =
        machine.registers.pc.toNat + (if first.skips pressed machine then 4 else 2) ∧
      second.successor pressed other =
        other.registers.pc.toNat + if second.skips pressed other then 4 else 2 := by
  cases opposes <;> exact ⟨rfl, rfl⟩

/-- With the same registers and the same key, one of the two leaves out a word and the other does
not. -/
theorem successor_or (opposes : first.Opposes second) {machine other : Machine}
    (same : other.registers = machine.registers) (pressed : Option Key) :
    let pc := machine.registers.pc.toNat
    first.successor pressed machine = pc + 4 ∧ second.successor pressed other = pc + 2 ∨
      first.successor pressed machine = pc + 2 ∧ second.successor pressed other = pc + 4 := by
  intro pc
  obtain ⟨here, there⟩ := opposes.successor_eq pressed machine other
  rw [opposes.skips_eq_not same, same] at there
  rw [here, there]
  cases first.skips pressed machine with
  | true => exact .inl ⟨rfl, rfl⟩
  | false => exact .inr ⟨rfl, rfl⟩

end Opposes
end Instruction

namespace Machine

variable {machine : Machine} {instruction : Instruction} {pressed : Option Key}

theorem namesPressed_eq_true_iff {x : Register} :
    machine.namesPressed x pressed = true ↔
      ∃ key, pressed = some key ∧ (machine.registers.get x).toNat = key.val := by
  rw [namesPressed, Option.any_eq_true]
  exact exists_congr fun key => and_congr_right fun _ => beq_iff_eq.trans eq_comm

/-- With a word to fetch, the program counter stays in range behind this word and the next. -/
theorem fits_of_next {opcode : Opcode} (found : machine.next = .ok (opcode, instruction)) :
    machine.registers.pc.toNat + 4 < 65536 := by
  have := pc_lt_of_next found
  omega

theorem pc_cycle_of_faces (running : machine.awaiting = none)
    (faces : machine.Faces instruction.toOpcode) (allowed : instruction.check machine = .ok ())
    (pressed : Option Key) :
    (machine.cycle pressed).1 = .ok (.executed instruction.toOpcode) ∧
      (machine.cycle pressed).2.registers.pc.toNat = instruction.successor pressed machine := by
  have fits := fits_of_next (next_eq_toOpcode_iff.mpr ⟨faces, rfl⟩)
  rw [cycle_of_faces running faces allowed]
  exact ⟨rfl, toNat_pc_execute allowed fits pressed⟩

theorem pc_cycle_of_executed {word : Opcode}
    (executes : (machine.cycle pressed).1 = .ok (.executed word)) :
    ∃ instruction, Instruction.decode word = .ok instruction ∧
      instruction.check machine = .ok () ∧
      (machine.cycle pressed).2.registers.pc.toNat = instruction.successor pressed machine := by
  cases machine.cycleKind pressed with
  | @executed opcode instruction _ found allowed result =>
      rw [result] at executes ⊢
      cases executes
      exact ⟨instruction, Instruction.decode_eq_ok_iff.mpr (next_eq_ok_iff.mp found).2, allowed,
        toNat_pc_execute allowed (fits_of_next found) pressed⟩
  | awaiting _ _ result => simp [result] at executes
  | received _ _ result => simp [result] at executes
  | failed _ _ result => simp [result] at executes

/-- Behind a skip on the pressed key. -/
theorem pc_cycle_of_skipIfPressed {x : Register} (running : machine.awaiting = none)
    (faces : machine.Faces (Instruction.skipIfPressed x).toOpcode) (pressed : Option Key) :
    (machine.cycle pressed).2.registers.pc.toNat =
      machine.registers.pc.toNat + if machine.namesPressed x pressed then 4 else 2 :=
  (pc_cycle_of_faces running faces rfl pressed).2

end Machine

/-- A cycle that executes an instruction goes on at the successor of that instruction, which for a
return is the address in the slot that the stack pointer selects. Of two opposite skips in the same
state and with the same key, exactly one leaves out a word. The skip on a pressed key leaves out a
word exactly if a key is pressed and the register holds its number, so never for a number that is no
key. -/
theorem cycle_goes_on_at_successor (machine : Machine) (pressed : Option Key) :
    let pc := machine.registers.pc.toNat
    let after := (machine.cycle pressed).2.registers.pc.toNat
    (∀ word, (machine.cycle pressed).1 = .ok (.executed word) →
      ∃ instruction, Instruction.decode word = .ok instruction ∧
        after = instruction.successor pressed machine ∧
        (instruction = .ret →
          ∃ address, machine.stack.read? machine.registers.sp = some address ∧
            after = address.toNat)) ∧
    (machine.awaiting = none → ∀ first second, Instruction.Opposes first second →
      ∀ memory other : Memory,
        let here := { machine with memory }
        let there := { machine with memory := other }
        here.Faces first.toOpcode → there.Faces second.toOpcode →
        (here.cycle pressed).1 = .ok (.executed first.toOpcode) ∧
          (there.cycle pressed).1 = .ok (.executed second.toOpcode) ∧
          ((here.cycle pressed).2.registers.pc.toNat = pc + 4 ∧
              (there.cycle pressed).2.registers.pc.toNat = pc + 2 ∨
            (here.cycle pressed).2.registers.pc.toNat = pc + 2 ∧
              (there.cycle pressed).2.registers.pc.toNat = pc + 4)) ∧
    (machine.awaiting = none →
      ∀ x, machine.Faces (Instruction.skipIfPressed x).toOpcode →
        let value := (machine.registers.get x).toNat
        (after = pc + 4 ↔ ∃ key, pressed = some key ∧ value = key.val) ∧
          (0xF < value ∨ pressed = none → after = pc + 2)) := by
  intro pc after
  refine ⟨?_, ?_, ?_⟩
  · intro word executes
    obtain ⟨instruction, decoded, allowed, reached⟩ := Machine.pc_cycle_of_executed executes
    refine ⟨instruction, decoded, reached, ?_⟩
    rintro rfl
    obtain ⟨address, read⟩ := Instruction.check_ret_eq_ok_iff.mp allowed
    exact ⟨address, read, reached.trans (Instruction.successor_ret pressed read)⟩
  · intro running first second opposes memory other here there faces facesToo
    have runs : here.awaiting = none := running
    have runsToo : there.awaiting = none := running
    obtain ⟨executed, reached⟩ :=
      Machine.pc_cycle_of_faces runs faces (opposes.check here).1 pressed
    obtain ⟨executedToo, reachedToo⟩ :=
      Machine.pc_cycle_of_faces runsToo facesToo (opposes.check there).2 pressed
    refine ⟨executed, executedToo, ?_⟩
    rw [reached, reachedToo]
    exact opposes.successor_or rfl pressed
  · intro running x faces value
    have reached : after = pc + if machine.namesPressed x pressed then 4 else 2 :=
      Machine.pc_cycle_of_skipIfPressed running faces pressed
    have named : machine.namesPressed x pressed = true ↔
        ∃ key, pressed = some key ∧ value = key.val := Machine.namesPressed_eq_true_iff
    constructor
    · rw [← named, reached]
      cases machine.namesPressed x pressed <;> simp
    · intro unnamed
      have still : machine.namesPressed x pressed = false := by
        rw [← Bool.not_eq_true, named]
        rintro ⟨key, held, same⟩
        rcases unnamed with beyond | idle
        · have := key.isLt
          omega
        · rw [held] at idle
          cases idle
      rw [reached, still]
      rfl

/-- With 7 in `V5` and 0x20 in `V0`: `JP V0, 0x3F0` goes on at 0x410, of `SE V5, 7` and `SNE V5, 7`
one leaves out a word, `SKP V5` leaves out a word while key 7 is pressed and none while key 8 is,
and a return with a stack pointer of zero goes on at what the first slot holds. -/
theorem flow_with_seven_in_register :
    let machine : Machine :=
      { Machine.powerOn ⟨Vector.replicate 8 0, 0⟩ with
        registers := (Registers.initial.set (.of 0) 0x20).set (.of 5) 7 }
    let facing (word : Opcode) : Machine :=
      { machine with memory := Memory.initial.put 0x200 [word.highByte, word.byte] }
    let pcBehind (word : Opcode) (pressed : Option Key) : Nat :=
      ((facing word).cycle pressed).2.registers.pc.toNat
    pcBehind 0xB3F0 none = 0x410 ∧
      (pcBehind 0x3507 none = 0x204 ∧ pcBehind 0x4507 none = 0x202 ∨
        pcBehind 0x3507 none = 0x202 ∧ pcBehind 0x4507 none = 0x204) ∧
      pcBehind 0xE59E (some (.of 7)) = 0x204 ∧ pcBehind 0xE59E (some (.of 8)) ≠ 0x204 ∧
      pcBehind 0xE59E none = 0x202 ∧ pcBehind 0x00EE none = 0 := by
  intro machine facing pcBehind
  have executes : ((facing 0xB3F0).cycle none).1 = .ok (.executed 0xB3F0) ∧
      ((facing 0x00EE).cycle none).1 = .ok (.executed 0x00EE) := by decide +kernel
  have faces : (facing 0x3507).Faces (Instruction.skipIfEqual (.of 5) 7).toOpcode ∧
      (facing 0x4507).Faces (Instruction.skipUnlessEqual (.of 5) 7).toOpcode ∧
      (facing 0xE59E).Faces (Instruction.skipIfPressed (.of 5)).toOpcode := by decide +kernel
  obtain ⟨equal, unequal, asks⟩ := faces
  obtain ⟨jumps, -, -⟩ := cycle_goes_on_at_successor (facing 0xB3F0) none
  obtain ⟨returns, -, -⟩ := cycle_goes_on_at_successor (facing 0x00EE) none
  obtain ⟨-, opposite, -⟩ := cycle_goes_on_at_successor machine none
  have polls (pressed : Option Key) :=
    (cycle_goes_on_at_successor (facing 0xE59E) pressed).2.2 rfl (.of 5) asks
  refine ⟨?_, ?_, (polls _).1.mpr ⟨.of 7, rfl, rfl⟩, ?_, (polls none).2 (.inr rfl), ?_⟩
  · obtain ⟨_, decoded, reached, -⟩ := jumps _ executes.1
    cases decoded
    exact reached
  · exact (opposite rfl _ _ (.byte (.of 5) 7) _ _ equal unequal).2.2
  · rintro skips
    obtain ⟨key, held, same⟩ := (polls _).1.mp skips
    cases held
    exact absurd same (by decide)
  · obtain ⟨_, decoded, reached, -⟩ := returns _ executes.2
    cases decoded
    exact reached

end Chip8

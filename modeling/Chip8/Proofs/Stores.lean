import Chip8.Proofs.Beats
import Chip8.Proofs.Cells
import Chip8.Proofs.Refusals

/-!
# Stored registers

Registers that were stored come back from memory as they were, whatever the machine does in the
meantime, as long as no cycle writes to where they stand. Only two instructions write to memory,
each to one range of addresses, so this is a condition on these alone: a draw, a failed cycle or a
program that moves the index register about cannot do any harm.
-/

namespace Chip8
namespace Machine

/-! ## What a run leaves in memory -/

/-- The first and the last address that a cycle writes to, if it writes to memory. -/
def written? (machine : Machine) (pressed : Option Key) : Option (Nat × Nat) :=
  let start := machine.registers.index.toNat
  match Instruction.ofAnswer? (machine.cycle pressed).1 with
  | some (.decimal _) => some (start, start + 2)
  | some (.store x) => some (start, start + x)
  | _ => none

/-- Whether no cycle among some beats writes to an address from the first to the last one. -/
def sparesRange (machine : Machine) (first last : Nat) : List Beat → Bool
  | [] => true
  | .cycle pressed :: rest =>
      (machine.written? pressed).all (fun range => decide (range.2 < first ∨ last < range.1)) &&
        (machine.cycle pressed).2.sparesRange first last rest
  | .decay :: rest => machine.decay.sparesRange first last rest

variable {machine : Machine} {pressed : Option Key} {first last address : Nat}

/-- A cycle changes no byte outside of the range that it writes to. -/
theorem byte_cycle
    (outside : ∀ range, machine.written? pressed = some range →
      ¬ (range.1 ≤ address ∧ address ≤ range.2)) :
    (machine.cycle pressed).2.memory.byte? address = machine.memory.byte? address := by
  by_cases writes : ∃ instruction,
      Instruction.ofAnswer? (machine.cycle pressed).1 = some instruction ∧
        .memory ∈ instruction.parts
  · obtain ⟨instruction, executed, touched⟩ := writes
    rw [(cycle_of_executed executed).1]
    rcases Instruction.memory_mem_parts_iff.mp touched with ⟨x, rfl⟩ | ⟨x, rfl⟩
    · have spared := outside _ (by rw [written?, executed])
      refine Instruction.agree_byte_storeAtIndex fun within => spared ⟨within.1, ?_⟩
      exact Nat.le_of_lt_succ within.2
    · have spared := outside _ (by rw [written?, executed])
      refine Instruction.agree_byte_storeAtIndex fun within => spared ⟨within.1, ?_⟩
      rw [Registers.length_upTo] at within
      exact Nat.le_of_lt_succ within.2
  · have kept : Part.memory.Agree machine (machine.cycle pressed).2 :=
      cycle_agree nofun fun instruction executed touched => writes ⟨instruction, executed, touched⟩
    exact congrArg (·.byte? address) kept

/-- A byte that the cycles of a run do not write to is behind the run what it was. -/
theorem byte_play_of_sparesRange {beats : List Beat}
    (spared : machine.sparesRange first last beats = true) (above : first ≤ address)
    (below : address ≤ last) :
    (machine.play beats).memory.byte? address = machine.memory.byte? address := by
  induction beats generalizing machine with
  | nil => rfl
  | cons beat rest induction =>
      cases beat with
      | cycle pressed =>
          obtain ⟨here, later⟩ := Bool.and_eq_true_iff.mp spared
          refine (induction later).trans (byte_cycle fun range written => ?_)
          have apart := of_decide_eq_true ((Option.all_eq_true _ _).mp here range written)
          omega
      | decay => exact induction spared

/-! ## Storing and restoring -/

variable {x : Register}

/-- Storing registers succeeds if there is room for them, and puts them where the index register
points to. -/
theorem cycle_of_store (running : machine.awaiting = none)
    (faces : machine.Faces (Instruction.store x).toOpcode)
    (room : machine.registers.index.toNat + x ≤ 0xFFF) (pressed : Option Key) :
    machine.cycle pressed =
      (.ok (.executed (Instruction.store x).toOpcode),
        { machine.advance with
          memory := machine.memory.put machine.registers.index.toNat
            (machine.registers.upTo x) }) := by
  have inside : machine.registers.index.toNat + (x + 1) ≤ Memory.size := Nat.succ_le_succ room
  have stores : machine.advance.storeAtIndex (machine.registers.upTo x) = _ :=
    machine.advance.storeAtIndex_of_le (by rwa [Registers.length_upTo])
  rw [cycle_of_faces running faces (Memory.checkRange_eq_ok_iff.mpr inside)]
  exact congrArg (fun result => (_, result.2)) stores

theorem cycle_of_restore (running : machine.awaiting = none)
    (faces : machine.Faces (Instruction.restore x).toOpcode)
    (room : machine.registers.index.toNat + x ≤ 0xFFF) (pressed : Option Key) :
    machine.cycle pressed =
      (.ok (.executed (Instruction.restore x).toOpcode),
        { machine.advance with
          registers := machine.advance.registers.putFrom 0
            ((List.range (x + 1)).map fun offset =>
              (machine.memory.byte? (machine.registers.index.toNat + offset)).getD 0) }) := by
  have inside : machine.registers.index.toNat + (x + 1) ≤ Memory.size := Nat.succ_le_succ room
  have restores : machine.advance.restore x = _ := machine.advance.restore_of_le inside
  rw [cycle_of_faces running faces (Memory.checkRange_eq_ok_iff.mpr inside)]
  exact congrArg (fun result => (_, result.2)) restores

/-- What stands in memory from the index register on is what the registers hold afterwards. -/
theorem get_cycle_of_restore (running : machine.awaiting = none)
    (faces : machine.Faces (Instruction.restore x).toOpcode)
    (room : machine.registers.index.toNat + x ≤ 0xFFF) (pressed : Option Key) (y : Register) :
    (machine.cycle pressed).2.registers.get y =
      if y ≤ x then (machine.memory.byte? (machine.registers.index.toNat + y)).getD 0
      else machine.registers.get y := by
  rw [cycle_of_restore running faces room]
  refine (Registers.get_putFrom _ _ _ _).trans ?_
  rw [List.length_map, List.length_range, Nat.zero_add]
  by_cases within : y ≤ x
  · have inside : y.val < x.val + 1 := Nat.lt_succ_of_le within
    rw [if_pos ⟨Nat.zero_le _, inside⟩, if_pos within]
    simp [inside]
  · have beyond : ¬ y.val < x.val + 1 := fun inside => within (Nat.le_of_lt_succ inside)
    rw [if_neg fun both => beyond both.2, if_neg within]
    rfl

end Machine

/-- Storing the registers up to `VX` succeeds if their range ends within memory, and changes no byte
outside of it. Whatever cycles and decays come then, as long as none of the cycles writes to that
range: restoring the registers up to `VX` from where they were stored succeeds, gives them the
values that were stored and leaves the registers above alone. -/
theorem stored_registers_survive {machine : Machine} {x : Register}
    (running : machine.awaiting = none)
    (faces : machine.Faces (Instruction.store x).toOpcode)
    (room : machine.registers.index.toNat + x ≤ 0xFFF) (pressed : Option Key) :
    let first := machine.registers.index.toNat
    let last := first + x
    let stored := machine.cycle pressed
    stored.1 = .ok (.executed (Instruction.store x).toOpcode) ∧
    (∀ address, ¬ (first ≤ address ∧ address ≤ last) →
      stored.2.memory.byte? address = machine.memory.byte? address) ∧
    ∀ beats, stored.2.sparesRange first last beats = true →
      let later := stored.2.play beats
      later.awaiting = none → later.Faces (Instruction.restore x).toOpcode →
      later.registers.index = machine.registers.index → ∀ key,
        let restored := later.cycle key
        restored.1 = .ok (.executed (Instruction.restore x).toOpcode) ∧
        ∀ y, restored.2.registers.get y =
          if y ≤ x then machine.registers.get y else later.registers.get y := by
  intro first last stored
  have result := Machine.cycle_of_store running faces room pressed
  have written (address : Nat) : stored.2.memory.byte? address =
      (machine.memory.put first (machine.registers.upTo x)).byte? address :=
    congrArg (·.2.memory.byte? address) result
  refine ⟨congrArg Prod.fst result, ?_, ?_⟩
  · intro address outside
    rw [written, Memory.byte?_put, Registers.length_upTo, if_neg]
    rintro ⟨above, below, -⟩
    exact outside ⟨above, Nat.le_of_lt_succ below⟩
  · intro beats spared later runs asks indexed key restored
    have stillRoom : later.registers.index.toNat + x ≤ 0xFFF := by rwa [indexed]
    refine ⟨congrArg Prod.fst (Machine.cycle_of_restore runs asks stillRoom key), fun y => ?_⟩
    refine (Machine.get_cycle_of_restore runs asks stillRoom key y).trans ?_
    refine if_ctx_congr Iff.rfl (fun within => ?_) fun _ => rfl
    have below : first + y ≤ last := Nat.add_le_add_left within first
    have inside : first + y < Memory.size := Nat.lt_succ_of_le (below.trans room)
    have kept : later.memory.byte? (first + y) = some (machine.registers.get y) := by
      rw [Machine.byte_play_of_sparesRange spared (Nat.le_add_right first y) below, written,
        Memory.byte?_put, Registers.length_upTo, if_pos ⟨by omega, by omega, inside⟩,
        Nat.add_sub_cancel_left, machine.registers.getElem?_upTo within]
    rw [indexed, kept]
    rfl

/-- `LD [I], V2` stores at the end of memory. The digits of `V2` are then written right below, and a
key comes into `V0` after a wait. `LD V2, [I]` brings back what `V0` held. -/
theorem stored_registers_outlast_key :
    let machine : Machine :=
      { Machine.powerOn ⟨Vector.replicate 8 0, 0⟩ with
        memory := Memory.initial.put 0x200
          [0xF2, 0x55, 0xAF, 0xFA, 0xF2, 0x33, 0xF0, 0x0A, 0xAF, 0xFD, 0xF2, 0x65]
        registers := { Registers.initial.set (.of 0) 0x11 with index := 0xFFD } }
    let stored := (machine.cycle none).2
    let beats : List Machine.Beat :=
      [.cycle none, .decay, .cycle none, .cycle none, .cycle none, .cycle (some (.of 9)),
        .cycle none]
    let later := stored.play beats
    let restored := later.cycle none
    machine.Faces (Instruction.store (.of 2)).toOpcode ∧
      stored.sparesRange 0xFFD 0xFFF beats = true ∧
      later.Faces (Instruction.restore (.of 2)).toOpcode ∧
      later.registers.get (.of 0) = 9 ∧ restored.1 = .ok (.executed 0xF265) ∧
      restored.2.registers.get (.of 0) = 0x11 ∧
      restored.2.registers.get (.of 3) = later.registers.get (.of 3) := by
  intro machine stored beats later restored
  -- Named runs would be played again wherever one is compared with itself.
  have became : later = (machine.cycle none).2.play beats := rfl
  have came : restored = later.cycle none := rfl
  rw [came, became]
  have facts : machine.Faces (Instruction.store (.of 2)).toOpcode ∧
      (machine.cycle none).2.sparesRange 0xFFD 0xFFF beats = true ∧
      ((machine.cycle none).2.play beats).awaiting = none ∧
      ((machine.cycle none).2.play beats).Faces (Instruction.restore (.of 2)).toOpcode ∧
      ((machine.cycle none).2.play beats).registers.index = machine.registers.index ∧
      ((machine.cycle none).2.play beats).registers.get (.of 0) = 9 ∧
      machine.registers.get (.of 0) = 0x11 := by decide +kernel
  obtain ⟨faces, spared, runs, asks, indexed, received, first⟩ := facts
  obtain ⟨-, -, survive⟩ := stored_registers_survive rfl faces (by decide) none
  obtain ⟨answered, holds⟩ := survive beats spared runs asks indexed none
  refine ⟨faces, spared, asks, received, answered, ?_, ?_⟩
  · exact (holds (.of 0)).trans ((if_pos (by decide)).trans first)
  · exact (holds (.of 3)).trans (if_neg (by decide))

end Chip8

import Chip8.Proofs.Checks
import Chip8.Proofs.Encoding

/-!
# Refused cycles

For which causes a cycle is refused, told by the word at the program counter and the registers. The
word has to be there and to stand for an instruction; then a return needs a slot of the call stack
below its pointer, and a transfer needs every address of its range. Addresses are summed without
wrapping, so a refusal names the last address of the range as it is.
-/

namespace Chip8

/-! ## Memory -/

namespace Memory

/-- A word stands at an address, its more significant byte first. -/
def HasWord (memory : Memory) (address : Nat) (word : Opcode) : Prop :=
  memory.byte? address = some word.highByte ∧ memory.byte? (address + 1) = some word.byte

variable {memory : Memory} {address start length : Nat}

theorem readWord_eq_ok_iff {word : Opcode} :
    memory.readWord address = .ok word ↔ memory.HasWord address word := by
  rw [readWord, HasWord, byte?, byte?]
  split
  case isTrue inside =>
    rw [Vector.getElem?_eq_getElem (by omega), Vector.getElem?_eq_getElem inside]
    simp only [Except.ok.injEq, Option.some.injEq]
    constructor
    · rintro rfl
      exact ⟨(Opcode.highByte_ofBytes _ _).symm, (Opcode.byte_ofBytes _ _).symm⟩
    · rintro ⟨high, low⟩
      rw [high, low, Opcode.ofBytes_highByte_byte]
  case isFalse outside =>
    rw [Vector.getElem?_eq_none (i := address + 1) (by omega)]
    simp [Attempt.refuse]

theorem readWord_eq_error_iff {failure : Failure} :
    memory.readWord address = .error failure ↔
      0xFFF ≤ address ∧ failure = .fault (.addressOutOfRange (address + 1)) := by
  rw [readWord]
  split
  case isTrue inside =>
    simp only [reduceCtorEq, false_iff]
    omega
  case isFalse outside =>
    have beyond : 0xFFF ≤ address := by omega
    simp [Attempt.refuse, beyond, eq_comm]

theorem checkRange_eq_fault_iff {cause : Fault} :
    checkRange start length = .error (.fault cause) ↔
      1 ≤ length ∧ 0xFFF < start + length - 1 ∧
        cause = .addressOutOfRange (start + length - 1) := by
  by_cases inside : start + length ≤ size
  · rw [checkRange_eq_ok_iff.mpr inside]
    simp only [size] at inside
    simp only [reduceCtorEq, false_iff]
    omega
  · rw [checkRange_of_lt (Nat.lt_of_not_le inside)]
    grind [Attempt.refuse, size]

end Memory

/-! ## Causes -/

namespace Machine

/-- A word stands at the program counter. -/
def Faces (machine : Machine) (word : Opcode) : Prop :=
  machine.memory.HasWord machine.registers.pc.toNat word

instance (machine : Machine) (word : Opcode) : Decidable (machine.Faces word) :=
  inferInstanceAs (Decidable (_ ∧ _))

/-- The causes for which a machine cannot execute its next instruction. -/
inductive Refuses (machine : Machine) : Fault → Prop where
  | fetch (beyond : 0xFFF ≤ machine.registers.pc.toNat) :
      Refuses machine (.addressOutOfRange (machine.registers.pc.toNat + 1))
  | decode {word : Opcode} (faces : machine.Faces word)
      (unknown : ∀ instruction : Instruction, instruction.toOpcode ≠ word) :
      Refuses machine (.unknownOpcode word)
  | ret (faces : machine.Faces 0x00EE) (beyond : 16 ≤ machine.registers.sp.toNat) :
      Refuses machine (.stackOutOfRange machine.registers.sp)
  | draw {x y height : Digit} (faces : machine.Faces (.ofDigits (.of 0xD) x y height))
      (rows : 1 ≤ height.val) (beyond : 0xFFF < machine.registers.index.toNat + height - 1) :
      Refuses machine (.addressOutOfRange (machine.registers.index.toNat + height - 1))
  | decimal {x : Digit} (faces : machine.Faces (.ofByte (.of 0xF) x 0x33))
      (beyond : 0xFFF < machine.registers.index.toNat + 2) :
      Refuses machine (.addressOutOfRange (machine.registers.index.toNat + 2))
  | store {x : Digit} (faces : machine.Faces (.ofByte (.of 0xF) x 0x55))
      (beyond : 0xFFF < machine.registers.index.toNat + x) :
      Refuses machine (.addressOutOfRange (machine.registers.index.toNat + x))
  | restore {x : Digit} (faces : machine.Faces (.ofByte (.of 0xF) x 0x65))
      (beyond : 0xFFF < machine.registers.index.toNat + x) :
      Refuses machine (.addressOutOfRange (machine.registers.index.toNat + x))

variable {machine : Machine} {cause : Fault}

theorem fetch_eq_ok_iff {word : Opcode} : machine.fetch = .ok word ↔ machine.Faces word :=
  Memory.readWord_eq_ok_iff

theorem next_eq_toOpcode_iff {word : Opcode} {instruction : Instruction} :
    machine.next = .ok (word, instruction) ↔
      machine.Faces word ∧ instruction.toOpcode = word := by
  rw [next_eq_ok_iff, fetch_eq_ok_iff, Instruction.ofOpcode?_eq_some_iff]

/-- Facing the word of an instruction whose demand is met, a cycle executes that instruction. -/
theorem cycle_of_faces {instruction : Instruction} (running : machine.awaiting = none)
    (faces : machine.Faces instruction.toOpcode) (allowed : instruction.check machine = .ok ())
    (pressed : Option Key) :
    machine.cycle pressed =
      (.ok (.executed instruction.toOpcode), (instruction.execute pressed machine.advance).2) :=
  cycle_of_check_ok pressed running (next_eq_toOpcode_iff.mpr ⟨faces, rfl⟩) allowed

theorem next_eq_error_iff {failure : Failure} :
    machine.next = .error failure ↔
      machine.fetch = .error failure ∨
        ∃ word, machine.Faces word ∧ (∀ instruction : Instruction, instruction.toOpcode ≠ word) ∧
          failure = .fault (.unknownOpcode word) := by
  simp only [next, Attempt.bind_eq_error_iff, pure, Except.pure, reduceCtorEq, and_false,
    exists_false, or_false, fetch_eq_ok_iff, ← Instruction.ofOpcode?_eq_none_iff]
  refine or_congr_right (exists_congr fun word => and_congr_right fun _ => ?_)
  rw [Instruction.decode]
  cases Instruction.ofOpcode? word <;> simp [Attempt.refuse, eq_comm]

theorem check_ret_eq_fault_iff :
    Instruction.ret.check machine = .error (.fault cause) ↔
      16 ≤ machine.registers.sp.toNat ∧ cause = .stackOutOfRange machine.registers.sp := by
  rw [Instruction.check, readStack, ← CallStack.depth, ← CallStack.read?_eq_none_iff]
  cases machine.stack.read? machine.registers.sp <;> simp [Except.map, Attempt.refuse, eq_comm]

/-- What an instruction demands is missing only for the causes of its own word. -/
theorem Refuses.of_check {instruction : Instruction} (faces : machine.Faces instruction.toOpcode)
    (failed : instruction.check machine = .error (.fault cause)) : machine.Refuses cause := by
  cases instruction with
  | ret =>
      obtain ⟨beyond, rfl⟩ := check_ret_eq_fault_iff.mp failed
      exact .ret faces beyond
  | draw x y height =>
      obtain ⟨rows, beyond, rfl⟩ := Memory.checkRange_eq_fault_iff.mp failed
      exact .draw faces rows beyond
  | decimal x =>
      obtain ⟨-, beyond, rfl⟩ := Memory.checkRange_eq_fault_iff.mp failed
      exact .decimal faces beyond
  | store x =>
      obtain ⟨-, beyond, rfl⟩ := Memory.checkRange_eq_fault_iff.mp failed
      exact .store faces beyond
  | restore x =>
      obtain ⟨-, beyond, rfl⟩ := Memory.checkRange_eq_fault_iff.mp failed
      exact .restore faces beyond
  | _ => simp [Instruction.check] at failed

theorem ready_of_check (instruction : Instruction) (faces : machine.Faces instruction.toOpcode)
    (failed : instruction.check machine = .error (.fault cause)) :
    machine.ready = .error (.fault cause) :=
  ready_eq_error_iff.mpr
    (.inr ⟨_, instruction, next_eq_toOpcode_iff.mpr ⟨faces, rfl⟩, failed⟩)

theorem ready_eq_fault_iff : machine.ready = .error (.fault cause) ↔ machine.Refuses cause := by
  constructor
  · intro refused
    rcases ready_eq_error_iff.mp refused with unread | ⟨word, instruction, found, failed⟩
    · rcases next_eq_error_iff.mp unread with unfetched | ⟨word, faces, unknown, same⟩
      · obtain ⟨beyond, same⟩ := Memory.readWord_eq_error_iff.mp unfetched
        cases same
        exact .fetch beyond
      · cases same
        exact .decode faces unknown
    · obtain ⟨faces, rfl⟩ := next_eq_toOpcode_iff.mp found
      exact .of_check faces failed
  · intro refuses
    cases refuses with
    | fetch beyond =>
        have unfetched : machine.fetch = _ := Memory.readWord_eq_error_iff.mpr ⟨beyond, rfl⟩
        exact ready_eq_error_iff.mpr (.inl (next_eq_error_iff.mpr (.inl unfetched)))
    | @decode word faces unknown =>
        have unread := next_eq_error_iff.mpr (.inr ⟨word, faces, unknown, rfl⟩)
        exact ready_eq_error_iff.mpr (.inl unread)
    | ret faces beyond =>
        exact ready_of_check .ret faces
          (check_ret_eq_fault_iff.mpr ⟨beyond, rfl⟩)
    | @draw x y height faces rows beyond =>
        exact ready_of_check (.draw x y height) faces
          (Memory.checkRange_eq_fault_iff.mpr ⟨rows, beyond, rfl⟩)
    | @decimal x faces beyond =>
        exact ready_of_check (.decimal x) faces
          (Memory.checkRange_eq_fault_iff.mpr ⟨by decide, beyond, rfl⟩)
    | @store x faces beyond =>
        exact ready_of_check (.store x) faces
          (Memory.checkRange_eq_fault_iff.mpr ⟨Nat.succ_pos x, beyond, rfl⟩)
    | @restore x faces beyond =>
        exact ready_of_check (.restore x) faces
          (Memory.checkRange_eq_fault_iff.mpr ⟨Nat.succ_pos x, beyond, rfl⟩)

end Machine

/-- A cycle fails exactly if no key wait is pending and the machine refuses its next instruction,
and then for the cause of that refusal. While a key wait is pending no cycle fails. -/
theorem cycle_fails_iff_refuses (machine : Machine) (pressed : Option Key) :
    (∀ cause, (machine.cycle pressed).1 = .error (.fault cause) ↔
      machine.awaiting = none ∧ machine.Refuses cause) ∧
    ∀ x, machine.awaiting = some x → ∃ outcome, (machine.cycle pressed).1 = .ok outcome := by
  refine ⟨?_, ?_⟩
  · intro cause
    rw [Machine.cycle_eq_error_iff, Machine.ready_eq_fault_iff]
  · intro x waiting
    cases pressed with
    | some key => exact ⟨_, congrArg Prod.fst (Machine.cycle_of_received waiting rfl)⟩
    | none => exact ⟨_, congrArg Prod.fst (Machine.cycle_of_idle waiting rfl)⟩

/-- Sixteen registers do not come back from address `0xFFFF` on: the address that is named needs
more than sixteen bits. The same machine waiting for a key does not fail. -/
theorem restore_beyond_words_is_refused :
    let machine : Machine :=
      { Machine.powerOn ⟨Vector.replicate 8 0, 0⟩ with
        memory := Memory.initial.put 0x200 [0xFF, 0x65]
        registers := { Registers.initial with index := 0xFFFF } }
    let waiting : Machine := { machine with awaiting := some (.of 5) }
    machine.Refuses (.addressOutOfRange 0x1000E) ∧
      (machine.cycle none).1 = .error (.fault (.addressOutOfRange 0x1000E)) ∧
      ∃ outcome, (waiting.cycle none).1 = .ok outcome := by
  intro machine waiting
  have faces : machine.Faces (.ofByte (.of 0xF) (.of 0xF) 0x65) :=
    ⟨by decide +kernel, by decide +kernel⟩
  have refuses : machine.Refuses (.addressOutOfRange 0x1000E) := .restore faces (by decide)
  exact ⟨refuses, ((cycle_fails_iff_refuses machine none).1 _).mpr ⟨rfl, refuses⟩,
    (cycle_fails_iff_refuses waiting none).2 (.of 5) rfl⟩

end Chip8

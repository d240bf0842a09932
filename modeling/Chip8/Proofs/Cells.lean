import Chip8.Proofs.Drawings
import Mathlib.Data.Set.Insert

/-!
# Cells

Where exactly a cycle writes. The cells of a machine are the smallest places that hold a value of
their own: a byte, a slot of the call stack, a pixel, a register and so on. The footprint of an
instruction are the cells that it may change beside the program counter, which depend on the machine
and the pressed key. Every other cell is after the cycle what it was before.
-/

namespace Chip8

/-- A write to a range leaves every byte outside of it alone, whether it is refused or not. -/
theorem Memory.byte?_writeRange_of_outside (memory : Memory) {start address : Nat}
    {data : List UInt8} (outside : ¬ (start ≤ address ∧ address < start + data.length)) :
    (memory.writeRange start data).2.byte? address = memory.byte? address := by
  rw [writeRange_eq]
  cases checkRange start data.length with
  | error failure => rfl
  | ok =>
      rw [Attempt.proceed_ok, byte?_put, if_neg]
      exact fun within => outside ⟨within.1, within.2.1⟩

/-- A place of a machine that holds a value of its own. -/
inductive Cell where
  | byte (address : Nat)
  | slot (number : UInt8)
  | pixel (x y : Nat)
  | register (x : Register)
  | pc
  | index
  | pointer
  | delay
  | sound
  | random
  | fixedByte
  | awaiting

namespace Cell

/-- Whether two machines agree in a cell. -/
def Agree : Cell → Machine → Machine → Prop
  | byte address, before, after => after.memory.byte? address = before.memory.byte? address
  | slot number, before, after => after.stack.read? number = before.stack.read? number
  | pixel x y, before, after => after.picture.lit x y = before.picture.lit x y
  | register x, before, after => after.registers.get x = before.registers.get x
  | pc, before, after => after.registers.pc = before.registers.pc
  | index, before, after => after.registers.index = before.registers.index
  | pointer, before, after => after.registers.sp = before.registers.sp
  | delay, before, after => after.registers.delay = before.registers.delay
  | sound, before, after => after.registers.sound = before.registers.sound
  | random, before, after => after.random = before.random
  | fixedByte, before, after => after.fixedByte = before.fixedByte
  | awaiting, before, after => after.awaiting = before.awaiting

/-- The part of a machine that a cell belongs to. -/
def part? : Cell → Option Part
  | byte _ => some .memory
  | slot _ => some .stack
  | pixel .. => some .picture
  | register _ | pc => none
  | index => some .index
  | pointer => some .pointer
  | delay => some .delay
  | sound => some .sound
  | random => some .random
  | fixedByte => some .fixedByte
  | awaiting => some .awaiting

variable {cell : Cell} {machine : Machine}

theorem agree_refl (cell : Cell) (machine : Machine) : cell.Agree machine machine := by
  cases cell <;> exact rfl

theorem agree_of_part {part : Part} (within : cell.part? = some part) {before after : Machine}
    (agree : part.Agree before after) : cell.Agree before after := by
  cases cell with
  | byte address =>
      cases within
      exact congrArg (·.byte? address) agree
  | slot number =>
      cases within
      exact congrArg (·.read? number) agree
  | pixel x y =>
      cases within
      exact congrArg (·.lit x y) agree
  | register x => cases within
  | pc => cases within
  | _ =>
      cases within
      exact agree

/-- Going on after an attempt leaves a cell alone if going on with its value does. -/
theorem agree_proceed {α : Type} {attempt : Attempt α} {rest : α → Attempt Unit × Machine}
    (kept : ∀ value, attempt = .ok value → cell.Agree machine (rest value).2) :
    cell.Agree machine (Attempt.proceed machine attempt rest).2 := by
  cases attempt with
  | ok value => exact kept value rfl
  | error failure => exact cell.agree_refl machine

end Cell

namespace Machine

/-- Two machines agree in every cell that is not among the given ones. -/
def AgreeOutside (cells : Set Cell) (before after : Machine) : Prop :=
  ∀ cell ∉ cells, cell.Agree before after

/-- A machine is known by its cells. -/
theorem eq_of_agree {before after : Machine} (agree : ∀ cell : Cell, cell.Agree before after) :
    after = before := by
  have memory : after.memory.bytes = before.memory.bytes := by
    refine Vector.ext fun address inside => ?_
    simpa [Cell.Agree, Memory.byte?, inside] using agree (.byte address)
  have stack : after.stack.slots = before.stack.slots := by
    refine Vector.ext fun number inside => ?_
    have small : (UInt8.ofNat number).toNat = number :=
      UInt8.toNat_ofNat_of_lt (Nat.lt_trans inside (by decide))
    simpa [Cell.Agree, CallStack.read?, small, inside] using agree (.slot (UInt8.ofNat number))
  have picture : after.picture = before.picture :=
    Picture.eq_of_lit_eq fun x y => agree (.pixel x y)
  have v : after.registers.v = before.registers.v :=
    Vector.ext fun x inside => agree (.register ⟨x, inside⟩)
  obtain ⟨⟨_⟩, ⟨_⟩, _, ⟨_, _, _, _, _, _⟩, _, _, _⟩ := after
  cases memory
  cases stack
  cases picture
  cases v
  cases agree .pc
  cases agree .index
  cases agree .pointer
  cases agree .delay
  cases agree .sound
  cases agree .random
  cases agree .fixedByte
  cases agree .awaiting
  rfl

theorem eq_jumpTo_of_agreeOutside {before after : Machine}
    (agree : before.AgreeOutside {.pc} after) : after = before.jumpTo after.registers.pc := by
  refine eq_of_agree fun cell => ?_
  by_cases counter : cell = .pc
  · subst counter
    rfl
  · have kept := agree cell counter
    cases cell with
    | pc => exact absurd rfl counter
    | _ => exact kept

end Machine

/-! ## Instructions -/

namespace Instruction

/-- The cells that an instruction may change beside the program counter. -/
def footprint (instruction : Instruction) (pressed : Option Key) (machine : Machine) : Set Cell :=
  let start := machine.registers.index.toNat
  match instruction with
  | clear => {cell | ∃ x y, cell = .pixel x y}
  | ret => {.pointer}
  | call _ =>
      let pushed := machine.registers.sp + 1
      {cell | cell = .pointer ∨ pushed.toNat < CallStack.depth ∧ cell = .slot pushed}
  | load x _ | add x _ | readDelay x => {.register x}
  | combine combination x _ _ =>
      match combination with
      | .copy | .or | .and | .xor => {.register x}
      | .add | .sub | .shiftRight | .subBelow | .shiftLeft =>
          {.register x, .register Registers.flagRegister}
  | setIndex _ | addIndex _ | glyph _ => {.index}
  | random x _ =>
      match machine.fixedByte with
      | none => {.register x, .random}
      | some _ => {.register x}
  | draw x y height =>
      {cell | cell = .register Registers.flagRegister ∨
        ∃ column row, (machine.drawing x y height).Covers column row ∧ cell = .pixel column row}
  | awaitKey x =>
      match pressed with
      | some _ => {.register x}
      | none => {.awaiting}
  | setDelay _ => {.delay}
  | setSound _ => {.sound}
  | decimal _ => {cell | ∃ address, start ≤ address ∧ address ≤ start + 2 ∧ cell = .byte address}
  | store x => {cell | ∃ address, start ≤ address ∧ address ≤ start + x ∧ cell = .byte address}
  | restore x => {cell | ∃ y ≤ x, cell = .register y}
  | jump _ | jumpPlus _ | skipIfEqual .. | skipUnlessEqual .. | skipIfSame .. | skipUnlessSame ..
  | skipIfPressed _ | skipUnlessPressed _ => ∅

theorem footprint_advance (instruction : Instruction) (pressed : Option Key) (machine : Machine) :
    instruction.footprint pressed machine.advance = instruction.footprint pressed machine := by
  cases instruction <;> rfl

variable {instruction : Instruction} {pressed : Option Key} {machine : Machine}

theorem agree_of_notMem_parts {cell : Cell} {part : Part} (within : cell.part? = some part)
    (untouched : part ∉ instruction.parts) :
    cell.Agree machine (instruction.execute pressed machine).2 :=
  Cell.agree_of_part within (execute_agree untouched pressed machine)

theorem agree_register {x : Register}
    (spared : .register x ∉ instruction.footprint pressed machine) :
    (Cell.register x).Agree machine (instruction.execute pressed machine).2 := by
  cases instruction with
  | load y byte | add y byte | readDelay y =>
      have other : x ≠ y := fun same => spared (congrArg _ same)
      exact Registers.get_set_of_ne _ _ other
  | combine combination y z n =>
      rw [execute, Machine.combine, Cell.Agree]
      cases combination with
      | copy | or | and | xor =>
          have other : x ≠ y := fun same => spared (congrArg _ same)
          exact Registers.get_set_of_ne _ _ other
      | _ =>
          -- These write the flag first and `VX` over it.
          have other : x ≠ y := fun same => spared (.inl (congrArg _ same))
          have notFlag : x ≠ Registers.flagRegister := fun same => spared (.inr (congrArg _ same))
          exact (Registers.get_set_of_ne _ _ other).trans (Registers.get_set_of_ne _ _ notFlag)
  | random y mask =>
      have other : x ≠ y := by
        rintro rfl
        apply spared
        rw [footprint]
        cases machine.fixedByte <;> simp
      refine (Registers.get_set_of_ne _ _ other).trans ?_
      rw [Machine.dropRandomByte]
      cases machine.fixedByte <;> rfl
  | draw y z height =>
      have notFlag : x ≠ Registers.flagRegister := fun same => spared (.inl (congrArg _ same))
      exact Cell.agree_proceed fun _ _ => Registers.get_set_of_ne _ _ notFlag
  | awaitKey y =>
      cases pressed with
      | some key =>
          have other : x ≠ y := fun same => spared (congrArg _ same)
          exact Registers.get_set_of_ne _ _ other
      | none => exact rfl
  | restore y =>
      have behind : ¬ x.val ≤ y.val := fun within => spared ⟨x, within, rfl⟩
      rw [execute, Machine.restore_eq]
      refine Cell.agree_proceed fun values found => ?_
      have count := Memory.length_of_readRange found
      rw [Cell.Agree, Registers.get_putFrom, if_neg (by omega)]
  | skipIfEqual | skipUnlessEqual | skipIfSame | skipUnlessSame | skipIfPressed
  | skipUnlessPressed =>
      rw [execute, Machine.skipIf]
      split <;> exact rfl
  | ret | jumpPlus _ | glyph _ => exact Cell.agree_proceed fun _ _ => rfl
  | _ => exact rfl

theorem agree_pixel {x y : Nat} (spared : .pixel x y ∉ instruction.footprint pressed machine) :
    (Cell.pixel x y).Agree machine (instruction.execute pressed machine).2 := by
  by_cases touched : .picture ∈ instruction.parts
  · rcases picture_mem_parts_iff.mp touched with rfl | ⟨left, top, height, rfl⟩
    · exact absurd ⟨x, y, rfl⟩ spared
    · cases allowed : (draw left top height).check machine with
      | error failure =>
          rw [execute_of_check_error pressed allowed]
          exact Cell.agree_refl _ machine
      | ok =>
          let drawing := machine.drawing left top height
          have short : drawing.rows.length ≤ 32 := by
            rw [Machine.length_rows_drawing]
            omega
          have uncovered : ¬ Sprite.Covers drawing.left.toNat drawing.top.toNat drawing.rows x y :=
            fun covers => spared (.inr ⟨x, y, covers, rfl⟩)
          rw [execute, Cell.Agree, Machine.picture_draw allowed, Picture.lit_flip _ _ _ short,
            decide_eq_false uncovered, Bool.xor_false]
  · exact agree_of_notMem_parts rfl touched

theorem agree_byte_storeAtIndex {address : Nat} {data : List UInt8}
    (outside : ¬ (machine.registers.index.toNat ≤ address ∧
      address < machine.registers.index.toNat + data.length)) :
    (Cell.byte address).Agree machine (machine.storeAtIndex data).2 :=
  machine.memory.byte?_writeRange_of_outside outside

theorem agree_byte {address : Nat}
    (spared : .byte address ∉ instruction.footprint pressed machine) :
    (Cell.byte address).Agree machine (instruction.execute pressed machine).2 := by
  by_cases touched : .memory ∈ instruction.parts
  · rcases memory_mem_parts_iff.mp touched with ⟨x, rfl⟩ | ⟨x, rfl⟩
    · apply agree_byte_storeAtIndex
      rintro ⟨above, below⟩
      exact spared ⟨address, above, Nat.le_of_lt_succ below, rfl⟩
    · apply agree_byte_storeAtIndex
      rintro ⟨above, below⟩
      rw [Registers.length_upTo] at below
      exact spared ⟨address, above, Nat.le_of_lt_succ below, rfl⟩
  · exact agree_of_notMem_parts rfl touched

theorem agree_slot {number : UInt8}
    (spared : .slot number ∉ instruction.footprint pressed machine) :
    (Cell.slot number).Agree machine (instruction.execute pressed machine).2 := by
  by_cases touched : .stack ∈ instruction.parts
  · obtain ⟨target, rfl⟩ := stack_mem_parts_iff.mp touched
    rw [execute, Machine.call, Cell.Agree, CallStack.read?_write, if_neg]
    rintro ⟨rfl, inside⟩
    exact spared (.inr ⟨inside, rfl⟩)
  · exact agree_of_notMem_parts rfl touched

theorem agree_random (spared : .random ∉ instruction.footprint pressed machine) :
    Cell.random.Agree machine (instruction.execute pressed machine).2 := by
  by_cases touched : .random ∈ instruction.parts
  · obtain ⟨x, mask, rfl⟩ := random_mem_parts_iff.mp touched
    cases fixed : machine.fixedByte with
    | none => simp [footprint, fixed] at spared
    | some byte =>
        rw [execute, Machine.loadRandom, Machine.dropRandomByte, fixed]
        exact rfl
  · exact agree_of_notMem_parts rfl touched

theorem agree_awaiting (spared : .awaiting ∉ instruction.footprint pressed machine) :
    Cell.awaiting.Agree machine (instruction.execute pressed machine).2 := by
  by_cases touched : .awaiting ∈ instruction.parts
  · obtain ⟨x, rfl⟩ := awaiting_mem_parts_iff.mp touched
    cases pressed with
    | none => exact absurd rfl spared
    | some key => exact rfl
  · exact agree_of_notMem_parts rfl touched

/-- An instruction changes no cell but those of its footprint and the program counter. -/
theorem execute_agreeOutside (instruction : Instruction) (pressed : Option Key)
    (machine : Machine) :
    machine.AgreeOutside (insert .pc (instruction.footprint pressed machine))
      (instruction.execute pressed machine).2 := by
  intro cell outside
  obtain ⟨notCounter, spared⟩ := not_or.mp (mt Set.mem_insert_iff.mpr outside)
  cases cell with
  | byte address => exact agree_byte spared
  | slot number => exact agree_slot spared
  | pixel x y => exact agree_pixel spared
  | register x => exact agree_register spared
  | pc => exact absurd rfl notCounter
  | index =>
      refine agree_of_notMem_parts rfl fun touched => ?_
      rcases index_mem_parts_iff.mp touched with ⟨_, rfl⟩ | ⟨_, rfl⟩ | ⟨_, rfl⟩ <;>
        exact spared rfl
  | pointer =>
      refine agree_of_notMem_parts rfl fun touched => ?_
      rcases pointer_mem_parts_iff.mp touched with rfl | ⟨_, rfl⟩
      · exact spared rfl
      · exact spared (.inl rfl)
  | delay =>
      refine agree_of_notMem_parts rfl fun touched => ?_
      obtain ⟨_, rfl⟩ := delay_mem_parts_iff.mp touched
      exact spared rfl
  | sound =>
      refine agree_of_notMem_parts rfl fun touched => ?_
      obtain ⟨_, rfl⟩ := sound_mem_parts_iff.mp touched
      exact spared rfl
  | random => exact agree_random spared
  | fixedByte => exact agree_of_notMem_parts rfl instruction.fixedByte_notMem_parts
  | awaiting => exact agree_awaiting spared

end Instruction

/-! ## Cycles -/

namespace Machine

variable {machine : Machine} {pressed : Option Key}

theorem agreeOutside_receive (machine : Machine) (x : Register) (key : Key) :
    machine.AgreeOutside {.register x, .awaiting} (machine.receive x key) := by
  intro cell outside
  obtain ⟨notRegister, notAwaiting⟩ := not_or.mp (mt Set.mem_insert_iff.mpr outside)
  cases cell with
  | register y => exact Registers.get_set_of_ne _ _ fun same => notRegister (congrArg _ same)
  | awaiting => exact absurd rfl notAwaiting
  | _ => exact rfl

/-- A cycle changes no cell but those of the footprint of what it executes and the program
counter. -/
theorem agreeOutside_cycle {instruction : Instruction}
    (executed : Instruction.ofAnswer? (machine.cycle pressed).1 = some instruction) :
    machine.AgreeOutside (insert .pc (instruction.footprint pressed machine))
      (machine.cycle pressed).2 := by
  intro cell outside
  have agree := instruction.execute_agreeOutside pressed machine.advance cell
  rw [instruction.footprint_advance] at agree
  rw [(cycle_of_executed executed).1]
  cases cell with
  | pc => exact absurd (Set.mem_insert _ _) outside
  | _ => exact agree outside

theorem cycle_of_awaits (awaits : (machine.cycle pressed).1 = .ok .awaiting) :
    (machine.cycle pressed).2 = machine := by
  cases machine.cycleKind pressed with
  | awaiting _ _ result => rw [result]
  | received _ _ result => simp [result] at awaits
  | failed _ _ result => simp [result] at awaits
  | executed _ _ _ result => simp [result] at awaits

theorem cycle_of_receives {key : Key} (receives : (machine.cycle pressed).1 = .ok (.received key)) :
    ∃ x, machine.awaiting = some x ∧ (machine.cycle pressed).2 = machine.receive x key := by
  cases machine.cycleKind pressed with
  | received waiting _ result =>
      rw [result] at receives ⊢
      cases receives
      exact ⟨_, waiting, rfl⟩
  | awaiting _ _ result => simp [result] at receives
  | failed _ _ result => simp [result] at receives
  | executed _ _ _ result => simp [result] at receives

theorem decode_of_executes {word : Opcode}
    (executes : (machine.cycle pressed).1 = .ok (.executed word)) :
    ∃ instruction, Instruction.decode word = .ok instruction ∧
      Instruction.ofAnswer? (machine.cycle pressed).1 = some instruction := by
  cases machine.cycleKind pressed with
  | executed _ found _ result =>
      rw [result] at executes ⊢
      cases executes
      have decoded := (next_eq_ok_iff.mp found).2
      exact ⟨_, Instruction.decode_eq_ok_iff.mpr decoded, decoded⟩
  | awaiting _ _ result => simp [result] at executes
  | received _ _ result => simp [result] at executes
  | failed _ _ result => simp [result] at executes

end Machine

/-- A cycle that goes on waiting changes nothing, and one that receives a key changes the register
that the key is for and ends the wait. A cycle that executes an instruction changes the program
counter and cells of the instruction's footprint, and so nothing but the program counter if the
footprint is empty. Memory is only changed by storing decimal digits or registers, and the index
register only by the three instructions that set it. -/
theorem cycle_stays_in_footprint (machine : Machine) (pressed : Option Key) :
    let result := machine.cycle pressed
    (result.1 = .ok .awaiting → result.2 = machine) ∧
    (∀ key, result.1 = .ok (.received key) →
      ∃ x, machine.awaiting = some x ∧ machine.AgreeOutside {.register x, .awaiting} result.2) ∧
    ∀ word, result.1 = .ok (.executed word) →
      ∃ instruction, Instruction.decode word = .ok instruction ∧
        machine.AgreeOutside (insert .pc (instruction.footprint pressed machine)) result.2 ∧
        (instruction.footprint pressed machine = ∅ →
          result.2 = machine.jumpTo result.2.registers.pc) ∧
        (result.2.memory = machine.memory ∨
          (∃ x, instruction = .decimal x) ∨ ∃ x, instruction = .store x) ∧
        (result.2.registers.index = machine.registers.index ∨
          (∃ target, instruction = .setIndex target) ∨ (∃ x, instruction = .addIndex x) ∨
            ∃ x, instruction = .glyph x) := by
  refine ⟨Machine.cycle_of_awaits, ?_, ?_⟩
  · intro key receives
    obtain ⟨x, waiting, ends⟩ := Machine.cycle_of_receives receives
    refine ⟨x, waiting, ?_⟩
    rw [ends]
    exact machine.agreeOutside_receive x key
  · intro word executes
    obtain ⟨instruction, decoded, executed⟩ := Machine.decode_of_executes executes
    have agree := Machine.agreeOutside_cycle executed
    have kept {part : Part} (other : part ≠ .awaiting) (untouched : part ∉ instruction.parts) :
        part.Agree machine (machine.cycle pressed).2 :=
      Machine.cycle_agree other fun found same => by
        cases executed.symm.trans same
        exact untouched
    refine ⟨instruction, decoded, agree, ?_, ?_, ?_⟩
    · intro empty
      rw [empty, insert_empty_eq] at agree
      exact Machine.eq_jumpTo_of_agreeOutside agree
    · rw [← Instruction.memory_mem_parts_iff, or_iff_not_imp_right]
      exact kept nofun
    · rw [← Instruction.index_mem_parts_iff, or_iff_not_imp_right]
      exact kept nofun

/-- `LD [I], V1` writes over itself; the word behind it and the index register stay. Had the machine
been waiting for a key, it would not have come to that. -/
theorem self_overwriting_store_spares_the_rest :
    let machine : Machine :=
      { Machine.powerOn ⟨Vector.replicate 8 0, 0⟩ with
        memory := Memory.initial.put 0x200 [0xF1, 0x55, 0x12, 0x34]
        registers := { Registers.initial with index := 0x200 } }
    let after := (machine.cycle none).2
    let waiting := { machine with awaiting := some (.of 5) }
    let key : Key := .of 7
    (machine.cycle none).1 = .ok (.executed 0xF155) ∧ after.memory.byte? 0x200 = some 0 ∧
      after.memory.byte? 0x202 = some 0x12 ∧ after.registers.index = 0x200 ∧
      (waiting.cycle none).1 = .ok .awaiting ∧ (waiting.cycle none).2 = waiting ∧
      (waiting.cycle (some key)).1 = .ok (.received key) ∧
      (waiting.cycle (some key)).2.registers.get (.of 5) = 7 ∧
      (waiting.cycle (some key)).2.registers.pc = 0x200 := by
  intro machine after waiting key
  have executes : (machine.cycle none).1 = .ok (.executed 0xF155) := by decide +kernel
  have awaits : (waiting.cycle none).1 = .ok .awaiting := rfl
  have receives : (waiting.cycle (some key)).1 = .ok (.received key) := rfl
  have behind : machine.memory.byte? 0x202 = some 0x12 := by decide +kernel
  obtain ⟨-, -, executed⟩ := cycle_stays_in_footprint machine none
  obtain ⟨instruction, decoded, agree, -, -, indexed⟩ := executed _ executes
  cases decoded
  obtain ⟨still, -, -⟩ := cycle_stays_in_footprint waiting none
  obtain ⟨-, received, -⟩ := cycle_stays_in_footprint waiting (some key)
  obtain ⟨x, -, ends⟩ := received key receives
  refine ⟨executes, by decide +kernel, ?_, ?_, awaits, still awaits, receives, rfl, ?_⟩
  · refine Eq.trans (agree (.byte 0x202) ?_) behind
    rintro (other | ⟨address, -, last, same⟩)
    · cases other
    · cases same
      exact absurd last (by decide)
  · rcases indexed with kept | ⟨_, other⟩ | ⟨_, other⟩ | ⟨_, other⟩
    · exact kept
    all_goals cases other
  · exact ends .pc (by rintro (other | other) <;> cases other)

end Chip8

import Chip8.Proofs.Checks

/-!
# Footprints

Which parts of a machine an instruction may change. Every instruction may change the program
counter and the general purpose registers; of the other parts most instructions change none, and
what an instruction does not name among its parts it leaves as it is. A cycle that executes no
instruction changes no part either, save that a key ends a key wait.
-/

namespace Chip8

/-- A part of a machine other than its program counter and its general purpose registers. -/
inductive Part where
  | memory
  | stack
  | picture
  | index
  | pointer
  | delay
  | sound
  | random
  | fixedByte
  | awaiting
  deriving DecidableEq

namespace Part

/-- Whether two machines agree in a part. -/
def Agree : Part → Machine → Machine → Prop
  | memory, before, after => after.memory = before.memory
  | stack, before, after => after.stack = before.stack
  | picture, before, after => after.picture = before.picture
  | index, before, after => after.registers.index = before.registers.index
  | pointer, before, after => after.registers.sp = before.registers.sp
  | delay, before, after => after.registers.delay = before.registers.delay
  | sound, before, after => after.registers.sound = before.registers.sound
  | random, before, after => after.random = before.random
  | fixedByte, before, after => after.fixedByte = before.fixedByte
  | awaiting, before, after => after.awaiting = before.awaiting

variable {part : Part} {machine : Machine}

theorem agree_refl (part : Part) (machine : Machine) : part.Agree machine machine := by
  cases part <;> rfl

theorem Agree.trans {first second third : Machine} (earlier : part.Agree first second)
    (later : part.Agree second third) : part.Agree first third := by
  cases part <;> exact Eq.trans later earlier

theorem agree_advance (part : Part) (machine : Machine) : part.Agree machine machine.advance := by
  cases part <;> rfl

theorem agree_setRegister (part : Part) (machine : Machine) (x : Register) (value : UInt8) :
    part.Agree machine (machine.setRegister x value) := by
  cases part <;> rfl

theorem agree_skipIf (part : Part) (machine : Machine) (condition : Bool) :
    part.Agree machine (machine.skipIf condition) := by
  cases condition with
  | false => exact part.agree_refl machine
  | true => exact part.agree_advance machine

theorem agree_combine (part : Part) (machine : Machine) (combination : Combination)
    (x y : Register) : part.Agree machine (machine.combine combination x y) := by
  cases combination <;> cases part <;> rfl

theorem agree_dropRandomByte (other : part ≠ random) (machine : Machine) :
    part.Agree machine machine.dropRandomByte := by
  unfold Machine.dropRandomByte
  split
  · exact part.agree_refl machine
  · cases part with
    | random => exact absurd rfl other
    | _ => rfl

theorem agree_awaitKey (other : part ≠ awaiting) (machine : Machine) (x : Register)
    (pressed : Option Key) : part.Agree machine (machine.awaitKey x pressed) := by
  cases pressed with
  | some key => exact part.agree_setRegister machine x _
  | none =>
      cases part with
      | awaiting => exact absurd rfl other
      | _ => rfl

theorem agree_setIndex (other : part ≠ index) (machine : Machine) (target : UInt16) :
    part.Agree machine (machine.setIndex target) := by
  cases part with
  | index => exact absurd rfl other
  | _ => rfl

/-- Going on after an attempt leaves a part alone if every way of going on does. -/
theorem agree_proceed {α : Type} {attempt : Attempt α} {rest : α → Attempt Unit × Machine}
    (kept : ∀ value, part.Agree machine (rest value).2) :
    part.Agree machine (Attempt.proceed machine attempt rest).2 := by
  cases attempt with
  | ok value => exact kept value
  | error failure => exact part.agree_refl machine

theorem agree_storeAtIndex (other : part ≠ memory) (machine : Machine) (data : List UInt8) :
    part.Agree machine (machine.storeAtIndex data).2 := by
  cases part with
  | memory => exact absurd rfl other
  | _ => rfl

end Part

namespace Instruction

/-- The parts that an instruction may change. -/
def parts : Instruction → List Part
  | clear | draw .. => [.picture]
  | ret => [.pointer]
  | call _ => [.stack, .pointer]
  | setIndex _ | addIndex _ | glyph _ => [.index]
  | random .. => [.random]
  | awaitKey _ => [.awaiting]
  | setDelay _ => [.delay]
  | setSound _ => [.sound]
  | decimal _ | store _ => [.memory]
  | _ => []

variable {instruction : Instruction} {part : Part}

-- The equations of the table are made here once, so that the proofs below do not wait for them.
attribute [local simp] parts

theorem memory_mem_parts_iff :
    .memory ∈ instruction.parts ↔ (∃ x, instruction = decimal x) ∨ ∃ x, instruction = store x := by
  cases instruction <;> simp

theorem picture_mem_parts_iff :
    .picture ∈ instruction.parts ↔
      instruction = clear ∨ ∃ x y height, instruction = draw x y height := by
  cases instruction <;> simp

theorem stack_mem_parts_iff :
    .stack ∈ instruction.parts ↔ ∃ target, instruction = call target := by
  cases instruction <;> simp

theorem pointer_mem_parts_iff :
    .pointer ∈ instruction.parts ↔ instruction = ret ∨ ∃ target, instruction = call target := by
  cases instruction <;> simp

theorem delay_mem_parts_iff : .delay ∈ instruction.parts ↔ ∃ x, instruction = setDelay x := by
  cases instruction <;> simp

theorem sound_mem_parts_iff : .sound ∈ instruction.parts ↔ ∃ x, instruction = setSound x := by
  cases instruction <;> simp

theorem index_mem_parts_iff :
    .index ∈ instruction.parts ↔
      (∃ target, instruction = setIndex target) ∨ (∃ x, instruction = addIndex x) ∨
        ∃ x, instruction = glyph x := by
  cases instruction <;> simp

theorem random_mem_parts_iff :
    .random ∈ instruction.parts ↔ ∃ x mask, instruction = random x mask := by
  cases instruction <;> simp

theorem awaiting_mem_parts_iff :
    .awaiting ∈ instruction.parts ↔ ∃ x, instruction = awaitKey x := by
  cases instruction <;> simp

theorem fixedByte_notMem_parts (instruction : Instruction) : .fixedByte ∉ instruction.parts := by
  cases instruction <;> simp

/-- An instruction leaves every part alone that is not among its own. -/
theorem execute_agree (untouched : part ∉ instruction.parts) (pressed : Option Key)
    (machine : Machine) : part.Agree machine (instruction.execute pressed machine).2 := by
  cases instruction with
  | skipIfEqual x byte => exact part.agree_skipIf machine _
  | skipUnlessEqual x byte => exact part.agree_skipIf machine _
  | skipIfSame x y n => exact part.agree_skipIf machine _
  | skipUnlessSame x y n => exact part.agree_skipIf machine _
  | skipIfPressed x => exact part.agree_skipIf machine _
  | skipUnlessPressed x => exact part.agree_skipIf machine _
  | load x byte => exact part.agree_setRegister machine x _
  | add x byte => exact part.agree_setRegister machine x _
  | readDelay x => exact part.agree_setRegister machine x _
  | combine combination x y n => exact part.agree_combine machine combination x y
  | random x mask =>
      exact (Part.agree_dropRandomByte (List.ne_of_not_mem_cons untouched) machine).trans
        (part.agree_setRegister _ x _)
  | awaitKey x => exact Part.agree_awaitKey (List.ne_of_not_mem_cons untouched) machine x pressed
  | jump target => cases part <;> rfl
  | jumpPlus target => exact Part.agree_proceed fun _ => by cases part <;> rfl
  | restore x =>
      rw [execute, Machine.restore_eq]
      refine Part.agree_proceed fun values => ?_
      rw [Registers.putFrom_eq]
      cases part <;> rfl
  | setIndex target => exact Part.agree_setIndex (List.ne_of_not_mem_cons untouched) machine _
  | addIndex x => exact Part.agree_setIndex (List.ne_of_not_mem_cons untouched) machine _
  | glyph x =>
      exact Part.agree_proceed fun _ =>
        Part.agree_setIndex (List.ne_of_not_mem_cons untouched) machine _
  | decimal x => exact Part.agree_storeAtIndex (List.ne_of_not_mem_cons untouched) machine _
  | store x => exact Part.agree_storeAtIndex (List.ne_of_not_mem_cons untouched) machine _
  -- The others write to their own parts only.
  | clear =>
      cases part with
      | picture => exact absurd List.mem_cons_self untouched
      | _ => rfl
  | draw x y height =>
      refine Part.agree_proceed fun sprite => ?_
      cases part with
      | picture => exact absurd List.mem_cons_self untouched
      | _ => rfl
  | ret =>
      refine Part.agree_proceed fun pc => ?_
      cases part with
      | pointer => exact absurd List.mem_cons_self untouched
      | _ => rfl
  | call target =>
      cases part with
      | stack => exact absurd List.mem_cons_self untouched
      | pointer => exact absurd (List.mem_cons_of_mem _ List.mem_cons_self) untouched
      | _ => rfl
  | setDelay x =>
      cases part with
      | delay => exact absurd List.mem_cons_self untouched
      | _ => rfl
  | setSound x =>
      cases part with
      | sound => exact absurd List.mem_cons_self untouched
      | _ => rfl

end Instruction

/-! ## Cycles -/

/-- The instruction that a cycle has executed, going by what it came to. -/
def Instruction.ofAnswer? : Attempt Outcome → Option Instruction
  | .ok (.executed opcode) => ofOpcode? opcode
  | _ => none

namespace Machine

variable {machine : Machine} {pressed : Option Key}

theorem cycle_of_executed {instruction : Instruction}
    (executed : Instruction.ofAnswer? (machine.cycle pressed).1 = some instruction) :
    (machine.cycle pressed).2 = (instruction.execute pressed machine.advance).2 ∧
      instruction.check machine = .ok () := by
  cases machine.cycleKind pressed with
  | received _ _ result => simp [result, Instruction.ofAnswer?] at executed
  | awaiting _ _ result => simp [result, Instruction.ofAnswer?] at executed
  | failed _ _ result => simp [result, Instruction.ofAnswer?] at executed
  | executed _ found allowed result =>
      rw [result, Instruction.ofAnswer?, (next_eq_ok_iff.mp found).2] at executed
      cases executed
      exact ⟨by rw [result], allowed⟩

/-- A cycle that executes no instruction at most ends a key wait. -/
theorem cycle_of_not_executed (idle : Instruction.ofAnswer? (machine.cycle pressed).1 = none) :
    (machine.cycle pressed).2 = machine ∨
      ∃ x key, (machine.cycle pressed).2 = machine.receive x key := by
  cases machine.cycleKind pressed with
  | received _ _ result => exact .inr ⟨_, _, by rw [result]⟩
  | awaiting _ _ result => exact .inl (by rw [result])
  | failed _ _ result => exact .inl (by rw [result])
  | executed _ found _ result =>
      rw [result, Instruction.ofAnswer?, (next_eq_ok_iff.mp found).2] at idle
      cases idle

/-- A cycle leaves every part alone that the executed instruction does not name. -/
theorem cycle_agree {part : Part} (other : part ≠ .awaiting)
    (untouched : ∀ instruction,
      Instruction.ofAnswer? (machine.cycle pressed).1 = some instruction →
        part ∉ instruction.parts) :
    part.Agree machine (machine.cycle pressed).2 := by
  cases executed : Instruction.ofAnswer? (machine.cycle pressed).1 with
  | some instruction =>
      rw [(cycle_of_executed executed).1]
      exact (part.agree_advance machine).trans
        (Instruction.execute_agree (untouched instruction executed) pressed machine.advance)
  | none =>
      rcases cycle_of_not_executed executed with same | ⟨x, key, ends⟩
      · rw [same]
        exact part.agree_refl machine
      · rw [ends]
        cases part with
        | awaiting => exact absurd rfl other
        | _ => rfl

end Machine
end Chip8

import Chip8.Proofs.Drawings
import Chip8.Proofs.Refusals

/-!
# Collisions

What one executed draw does to the picture and to the flag register. Each pixel is flipped exactly
if the sprite covers it, and the flag tells whether one that was covered had been lit. The place
and the rows of the sprite are those before the draw, so it makes no difference if a coordinate is
in the flag register.
-/

namespace Chip8
namespace Drawing

/-- A picture after a sprite was drawn onto it, and whether a lit pixel was turned off. -/
def onto (drawing : Drawing) (picture : Picture) : Picture × Bool :=
  picture.flip drawing.left.toNat drawing.top.toNat drawing.rows

variable {drawing : Drawing}

theorem lit_onto (short : drawing.rows.length ≤ 32) (picture : Picture) (x y : Nat) :
    (drawing.onto picture).1.lit x y = (picture.lit x y ^^ decide (drawing.Covers x y)) :=
  picture.lit_flip _ _ short x y

theorem onto_collides_iff (short : drawing.rows.length ≤ 32) (picture : Picture) :
    (drawing.onto picture).2 = true ↔
      ∃ x y, picture.lit x y = true ∧ drawing.Covers x y :=
  picture.flip_collides_iff _ _ short

end Drawing

namespace Machine

variable {machine : Machine} {x y : Register} {height : Digit} {pressed : Option Key}

theorem short_drawing (machine : Machine) (x y : Register) (height : Digit) :
    (machine.drawing x y height).rows.length ≤ 32 := by
  rw [length_rows_drawing]
  omega

/-- The machine behind a draw: its sprite is on the picture, the flag tells of a collision. -/
def drawn (machine : Machine) (x y : Register) (height : Nat) : Machine :=
  let flipped := (machine.drawing x y height).onto machine.picture
  { machine.advance with
    picture := flipped.1
    registers := machine.advance.registers.setFlag flipped.2 }

theorem cycle_of_draw
    (executed : Instruction.ofAnswer? (machine.cycle pressed).1 = some (.draw x y height)) :
    (machine.cycle pressed).2 = machine.drawn x y height := by
  obtain ⟨reached, allowed⟩ := cycle_of_executed executed
  have range : Memory.checkRange machine.advance.registers.index.toNat height = .ok () := allowed
  rw [reached, Instruction.execute, draw, Memory.readRange_eq, range]
  rfl

theorem lit_drawn (machine : Machine) (x y : Register) (height : Digit) (column row : Nat) :
    (machine.drawn x y height).picture.lit column row =
      (machine.picture.lit column row ^^
        decide ((machine.drawing x y height).Covers column row)) :=
  Drawing.lit_onto (machine.short_drawing x y height) machine.picture column row

theorem flag_drawn (machine : Machine) (x y : Register) (height : Nat) :
    (machine.drawn x y height).registers.flag =
      if ((machine.drawing x y height).onto machine.picture).2 then 1 else 0 :=
  Registers.get_set_self _ _ _

/-- A draw whose sprite lies within memory is executed. -/
theorem executes_draw (running : machine.awaiting = none)
    (faces : machine.Faces (Instruction.draw x y height).toOpcode)
    (inside : machine.registers.index.toNat + height ≤ 0x1000) (pressed : Option Key) :
    (machine.cycle pressed).1 = .ok (.executed (Instruction.draw x y height).toOpcode) ∧
      Instruction.ofAnswer? (machine.cycle pressed).1 = some (.draw x y height) := by
  rw [cycle_of_faces running faces (Memory.checkRange_eq_ok_iff.mpr inside)]
  exact ⟨rfl, Instruction.ofOpcode?_toOpcode _⟩

end Machine

/-- A draw whose sprite lies within memory succeeds and flips exactly the pixels that the sprite
covers. The flag is raised if one of them was lit, and cleared otherwise. -/
theorem draw_flips_covered {machine : Machine} {x y : Register} {height : Digit}
    (running : machine.awaiting = none)
    (faces : machine.Faces (Instruction.draw x y height).toOpcode)
    (inside : machine.registers.index.toNat + height ≤ 0x1000) (pressed : Option Key) :
    let result := machine.cycle pressed
    let drawing := machine.drawing x y height
    result.1 = .ok (.executed (Instruction.draw x y height).toOpcode) ∧
    (∀ column row, result.2.picture.lit column row =
      (machine.picture.lit column row ^^ decide (drawing.Covers column row))) ∧
    result.2.registers.flag =
      if ∃ column : Nat, column < 64 ∧ ∃ row : Nat, row < 32 ∧
        machine.picture.lit column row = true ∧ drawing.Covers column row then 1 else 0 := by
  intro result drawing
  obtain ⟨answered, executed⟩ := Machine.executes_draw running faces inside pressed
  have reached : result.2 = machine.drawn x y height := Machine.cycle_of_draw executed
  have short : drawing.rows.length ≤ 32 := machine.short_drawing x y height
  refine ⟨answered, ?_, ?_⟩
  · intro column row
    rw [reached]
    exact Drawing.lit_onto short machine.picture column row
  · have collides : (drawing.onto machine.picture).2 = true ↔
        ∃ column : Nat, column < 64 ∧ ∃ row : Nat, row < 32 ∧
          machine.picture.lit column row = true ∧ drawing.Covers column row := by
      rw [Drawing.onto_collides_iff short]
      constructor
      · rintro ⟨column, row, lit, covered⟩
        obtain ⟨left, above⟩ := Picture.lt_of_lit lit
        exact ⟨column, left, row, above, lit, covered⟩
      · rintro ⟨column, -, row, -, both⟩
        exact ⟨column, row, both⟩
    rw [reached, Machine.flag_drawn]
    exact if_congr collides rfl rfl

/-- `DRW VF, VF, 5` draws the digit 0 at column and row 62: it comes back in at the opposite edges,
where one of its pixels is turned off. The flag register, which held the place, tells so. -/
theorem wrapped_digit_collides :
    let machine : Machine :=
      { Machine.powerOn ⟨Vector.replicate 8 0, 0⟩ with
        memory := Memory.initial.put 0x200 [0xDF, 0xF5]
        picture := Picture.dark.setLit 1 0 true
        registers := Registers.initial.set Registers.flagRegister 62 }
    let result := machine.cycle none
    machine.Faces (Instruction.draw (.of 0xF) (.of 0xF) (.of 5)).toOpcode ∧
      result.1 = .ok (.executed 0xDFF5) ∧
      result.2.picture.lit 62 30 = true ∧ result.2.picture.lit 1 2 = true ∧
      result.2.picture.lit 1 0 = false ∧ result.2.registers.flag = 1 := by
  intro machine result
  let drawing := machine.drawing (.of 0xF) (.of 0xF) (Digit.of 5)
  have facts : machine.Faces (Instruction.draw (.of 0xF) (.of 0xF) (.of 5)).toOpcode ∧
      (drawing.Covers 62 30 ∧ drawing.Covers 1 2 ∧ drawing.Covers 1 0) ∧
      machine.picture.lit 62 30 = false ∧ machine.picture.lit 1 2 = false ∧
      machine.picture.lit 1 0 = true := by decide +kernel
  obtain ⟨faces, ⟨corner, bottom, turned⟩, dark, darkToo, lit⟩ := facts
  have inside : machine.registers.index.toNat + (Digit.of 5).val ≤ 0x1000 := by decide
  obtain ⟨answered, flips, flagged⟩ := draw_flips_covered rfl faces inside none
  have flipped {column row : Nat} (covered : drawing.Covers column row) :
      result.2.picture.lit column row = !machine.picture.lit column row := by
    refine (flips column row).trans ?_
    rw [decide_eq_true covered, Bool.xor_true]
  refine ⟨faces, answered, ?_, ?_, ?_, ?_⟩
  · rw [flipped corner, dark]; rfl
  · rw [flipped bottom, darkToo]; rfl
  · rw [flipped turned, lit]; rfl
  · exact flagged.trans (if_pos ⟨1, by decide, 0, by decide, lit, turned⟩)

end Chip8

import Chip8.Machine.Execute
import Chip8.Proofs.Sprites

/-!
# Drawing pixel by pixel

A sprite can be drawn one pixel after the other: each set bit of it asks for the pixel that it falls
on and writes the opposite back. Every pixel asked for lies in the picture, so no access is lost,
and what comes of it is what flipping whole rows at a time comes to, the collision included.
-/

namespace Chip8
namespace Picture

open Sprite

/-! ## One pixel -/

theorem readPixel_of_lt (picture : Picture) {x y : Nat} (left : x < width) (above : y < height) :
    picture.readPixel x y = .ok (picture.lit x y) := if_pos ⟨left, above⟩

theorem writePixel_of_lt (picture : Picture) {x y : Nat} (left : x < width) (above : y < height)
    (value : Bool) : picture.writePixel x y value = .ok (picture.setLit x y value) :=
  if_pos ⟨left, above⟩

theorem getMsbD_column {x : Nat} (inside : x < width) (other : Nat) :
    (column x).getMsbD other = decide (x = other) := by
  rw [width] at inside
  rw [column, BitVec.getMsbD_twoPow, width]
  grind

/-- Lighting or darkening a pixel leaves every other pixel alone. -/
theorem lit_setLit (picture : Picture) {x y : Nat} (left : x < width) (above : y < height)
    (value : Bool) (column row : Nat) :
    (picture.setLit x y value).lit column row =
      if x = column ∧ y = row then value else picture.lit column row := by
  rw [setLit, lit_setRow]
  by_cases here : y = row
  · subst here
    rw [if_pos ⟨rfl, above⟩, lit]
    by_cases same : x = column
    · subst same
      cases value <;> simp [getMsbD_column left]
    · have inside : (picture.row y).getMsbD column = true → column < 64 := BitVec.lt_of_getMsbD
      cases value <;> simpa [getMsbD_column left, same] using inside
  · rw [if_neg fun same => here same.1, if_neg fun same => here same.2]

/-- Turn a pixel over, and tell whether it was lit. -/
def togglePixel (picture : Picture) (x y : Nat) : Attempt (Picture × Bool) := do
  let lit ← picture.readPixel x y
  let after ← picture.writePixel x y (!lit)
  return (after, lit)

theorem togglePixel_of_lt (picture : Picture) {x y : Nat} (left : x < width) (above : y < height) :
    picture.togglePixel x y = .ok (picture.setLit x y (!picture.lit x y), picture.lit x y) := by
  rw [togglePixel, readPixel_of_lt picture left above]
  change (picture.writePixel x y (!picture.lit x y) >>= _) = _
  rw [writePixel_of_lt picture left above]
  rfl

/-! ## Rows -/

/-- Turn over the pixel that a column of a byte falls on, if its bit is set. The flag tells whether
a lit pixel was turned off so far. -/
def flipBit (left y : Nat) (bits : UInt8) (state : Picture × Bool) (column : Nat) :
    Attempt (Picture × Bool) :=
  if bits &&& (0x80 >>> UInt8.ofNat column) = 0 then .ok state
  else do
    let (after, lit) ← state.1.togglePixel ((left + column) % width) y
    return (after, state.2 || lit)

/-- The set bits of a byte, column by column. -/
def flipByte (left y : Nat) (bits : UInt8) (state : Picture × Bool) : Attempt (Picture × Bool) :=
  (List.range 8).foldlM (flipBit left y bits) state

/-- A row that begins in column `left` covers the pixel in column `x` by a bit before `stop`. -/
def CoversBefore (stop left : Nat) (bits : UInt8) (x : Nat) : Prop :=
  ∃ column < stop, bits &&& (0x80 >>> UInt8.ofNat column) ≠ 0 ∧ (left + column) % 64 = x

instance (stop left : Nat) (bits : UInt8) (x : Nat) : Decidable (CoversBefore stop left bits x) :=
  inferInstanceAs (Decidable (∃ column < stop, _))

theorem coversBefore_succ_iff {stop left x : Nat} {bits : UInt8} :
    CoversBefore (stop + 1) left bits x ↔
      CoversBefore stop left bits x ∨
        bits &&& (0x80 >>> UInt8.ofNat stop) ≠ 0 ∧ (left + stop) % 64 = x := by
  constructor
  · rintro ⟨column, before, covers⟩
    rcases Nat.lt_succ_iff_lt_or_eq.mp before with earlier | rfl
    · exact .inl ⟨column, earlier, covers⟩
    · exact .inr covers
  · rintro (⟨column, earlier, covers⟩ | covers)
    · exact ⟨column, Nat.lt_succ_of_lt earlier, covers⟩
    · exact ⟨stop, Nat.lt_succ_self stop, covers⟩

/-- What the loop over the columns has done to a picture and a flag when it comes to a column. -/
structure Toggled (before : Picture × Bool) (left y : Nat) (bits : UInt8) (stop : Nat)
    (after : Picture × Bool) : Prop where
  lit (column row : Nat) : after.1.lit column row =
    (before.1.lit column row ^^ decide (CoversBefore stop left bits column ∧ y = row))
  collided : after.2 = true ↔
    before.2 = true ∨ ∃ x, before.1.lit x y = true ∧ CoversBefore stop left bits x

variable {before after : Picture × Bool} {left y : Nat} {bits : UInt8}

/-- A bit that is not set turns nothing over. -/
theorem Toggled.of_clear {stop : Nat} (toggled : Toggled before left y bits stop after)
    (clear : bits &&& (0x80 >>> UInt8.ofNat stop) = 0) :
    Toggled before left y bits (stop + 1) after := by
  have same (x : Nat) : CoversBefore (stop + 1) left bits x ↔ CoversBefore stop left bits x := by
    simp [coversBefore_succ_iff, clear]
  exact ⟨by simpa only [same] using toggled.lit, by simpa only [same] using toggled.collided⟩

/-- A set bit turns over a pixel that no bit before it has turned over. -/
theorem Toggled.of_set {stop x : Nat} (toggled : Toggled before left y bits stop after)
    (inside : stop < 8) (above : y < height) (place : (left + stop) % 64 = x)
    (set : bits &&& (0x80 >>> UInt8.ofNat stop) ≠ 0) :
    Toggled before left y bits (stop + 1)
      (after.1.setLit x y (!after.1.lit x y), after.2 || after.1.lit x y) := by
  have within : x < width := place ▸ Nat.mod_lt _ (by decide)
  -- Eight columns do not come round the picture, so this pixel is still as it was.
  have fresh : ¬ CoversBefore stop left bits x := by
    rintro ⟨column, earlier, -, same⟩
    omega
  have still : after.1.lit x y = before.1.lit x y := by
    rw [toggled.lit, decide_eq_false fun covered => fresh covered.1, Bool.xor_false]
  constructor
  · intro column row
    rw [lit_setLit _ within above]
    by_cases here : x = column ∧ y = row
    · obtain ⟨rfl, rfl⟩ := here
      have covered : CoversBefore (stop + 1) left bits x :=
        coversBefore_succ_iff.mpr (.inr ⟨set, place⟩)
      simp [still, covered]
    · have elsewhere : CoversBefore (stop + 1) left bits column ∧ y = row ↔
          CoversBefore stop left bits column ∧ y = row := by
        rw [coversBefore_succ_iff]
        grind
      rw [if_neg here, toggled.lit]
      simp only [elsewhere]
  · rw [Bool.or_eq_true, toggled.collided, still]
    simp only [coversBefore_succ_iff]
    grind

theorem Toggled.step {stop : Nat} (toggled : Toggled before left y bits stop after)
    (inside : stop < 8) (above : y < height) :
    ∃ next, flipBit left y bits after stop = .ok next ∧
      Toggled before left y bits (stop + 1) next := by
  rw [flipBit]
  split
  case isTrue clear => exact ⟨after, rfl, toggled.of_clear clear⟩
  case isFalse set =>
    have within : (left + stop) % width < width := Nat.mod_lt _ (by decide)
    rw [after.1.togglePixel_of_lt within above]
    exact ⟨_, rfl, toggled.of_set inside above rfl set⟩

theorem exists_flipByte (before : Picture × Bool) (left : Nat) (bits : UInt8) (above : y < height) :
    ∃ after, flipByte left y bits before = .ok after ∧ Toggled before left y bits 8 after := by
  suffices loop : ∀ stop ≤ 8, ∃ after,
      (List.range stop).foldlM (flipBit left y bits) before = .ok after ∧
        Toggled before left y bits stop after from loop 8 (Nat.le_refl 8)
  intro stop within
  induction stop with
  | zero =>
      have none (x : Nat) : ¬ CoversBefore 0 left bits x := by simp [CoversBefore]
      exact ⟨before, rfl, by simp [none], by simp [none]⟩
  | succ stop induction =>
      obtain ⟨after, reached, toggled⟩ := induction (Nat.le_of_succ_le within)
      obtain ⟨next, flipped, further⟩ := toggled.step within above
      refine ⟨next, ?_, further⟩
      rw [List.range_succ, List.foldlM_append, reached]
      change (flipBit left y bits after stop >>= _) = _
      rw [flipped]
      rfl

/-- A byte flips the row at once that it flips pixel by pixel. -/
theorem flipByte_eq (picture : Picture) (collision : Bool) (left top : Nat) (bits : UInt8) :
    flipByte left (top % height) bits (picture, collision) =
      .ok (picture.setRow (top % height) (picture.row (top % height) ^^^ spread left bits),
        collision || (picture.row (top % height) &&& spread left bits) != 0) := by
  obtain ⟨⟨after, collided⟩, reached, toggled⟩ :=
    exists_flipByte (picture, collision) left bits (Nat.mod_lt top (by decide))
  rw [reached, Except.ok.injEq, Prod.mk.injEq]
  constructor
  · apply eq_of_lit_eq
    intro x y
    exact (toggled.lit x y).trans (lit_flip_row picture left top bits x y).symm
  · rw [Bool.eq_iff_iff, Bool.or_eq_true, row_meets_iff]
    exact toggled.collided

/-! ## Sprites -/

/-- The bytes of a sprite, row by row. -/
def flipBytes (left top : Nat) : List UInt8 → Picture × Bool → Attempt (Picture × Bool)
  | [], state => .ok state
  | bits :: rest, state => do
      let state ← flipByte left (top % height) bits state
      flipBytes left (top + 1) rest state

theorem flipBytes_eq (picture : Picture) (collision : Bool) (left top : Nat) (rows : List UInt8) :
    flipBytes left top rows (picture, collision) =
      .ok ((picture.flip left top rows).1, collision || (picture.flip left top rows).2) := by
  induction rows generalizing picture collision top with
  | nil => simp [flipBytes]
  | cons bits rest induction =>
      rw [flipBytes, flipByte_eq]
      change flipBytes left (top + 1) rest (_, _) = _
      rw [induction, flip, Bool.or_assoc]

end Picture

/-- Drawing a sprite flips it pixel by pixel. -/
theorem Machine.draw_eq_flipBytes (machine : Machine) (x y : Register) (height : Nat) :
    machine.draw x y height =
      Attempt.proceed machine
        (machine.memory.readRange machine.registers.index.toNat height >>= fun sprite =>
          Picture.flipBytes (machine.registers.get x).toNat (machine.registers.get y).toNat sprite
            (machine.picture, false))
        fun (picture, collision) =>
          (.ok (), { machine with picture, registers := machine.registers.setFlag collision }) := by
  rw [draw]
  cases machine.memory.readRange machine.registers.index.toNat height with
  | error failure => rfl
  | ok sprite =>
      change _ = Attempt.proceed machine (Picture.flipBytes _ _ sprite _) _
      rw [Picture.flipBytes_eq]
      rfl

end Chip8

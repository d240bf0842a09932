import Chip8.Proofs.Collisions
import Mathlib.Data.Finset.Card
import Mathlib.Data.Finset.SymmDiff
import Mathlib.Tactic.Common

/-!
# Lit pixels

How a draw changes the number of lit pixels. The set bits of a sprite cover pixels that are all
different, for every place that it is drawn at. So each of them lights one pixel or darkens one, and
the numbers before and behind the draw tell whether the sprite met a lit pixel.
-/

namespace Chip8
namespace Sprite

/-! ## Set bits and the pixels that they cover -/

/-- The columns of a byte whose bits are set. -/
def setBits (bits : UInt8) : Finset Nat :=
  (Finset.range 8).filter fun column => bits &&& (0x80 >>> UInt8.ofNat column) ≠ 0

/-- The number of set bits of a sprite. -/
def weight (rows : List UInt8) : Nat := (rows.map fun bits => (setBits bits).card).sum

/-- The pixels of one row of the picture that a byte covers. -/
def rowCells (left y : Nat) (bits : UInt8) : Finset (Nat × Nat) :=
  (setBits bits).image fun column => ((left + column) % 64, y)

/-- The pixels that a sprite covers. -/
def cells (left top : Nat) : List UInt8 → Finset (Nat × Nat)
  | [] => ∅
  | bits :: rest => rowCells left (top % 32) bits ∪ cells left (top + 1) rest

theorem mem_rowCells_iff {left height x y : Nat} {bits : UInt8} :
    (x, y) ∈ rowCells left height bits ↔ RowCovers left bits x ∧ height = y := by
  simp only [rowCells, setBits, RowCovers, Finset.mem_image, Finset.mem_filter, Finset.mem_range,
    Prod.mk.injEq]
  constructor
  · rintro ⟨column, ⟨inside, set⟩, place, same⟩
    exact ⟨⟨column, inside, set, place⟩, same⟩
  · rintro ⟨⟨column, inside, set, place⟩, same⟩
    exact ⟨column, ⟨inside, set⟩, place, same⟩

theorem mem_cells_iff {left top x y : Nat} {rows : List UInt8} :
    (x, y) ∈ cells left top rows ↔ Covers left top rows x y := by
  induction rows generalizing top with
  | nil => simp [cells, not_covers_nil]
  | cons bits rest induction =>
      rw [cells, Finset.mem_union, mem_rowCells_iff, induction, covers_cons_iff]

/-- Eight columns do not reach around the picture, so each set bit has its own pixel. -/
theorem card_rowCells (left y : Nat) (bits : UInt8) :
    (rowCells left y bits).card = (setBits bits).card := by
  apply Finset.card_image_of_injOn
  intro column set other setToo same
  have inside : column < 8 := Finset.mem_range.mp (Finset.mem_filter.mp set).1
  have insideToo : other < 8 := Finset.mem_range.mp (Finset.mem_filter.mp setToo).1
  have place : (left + column) % 64 = (left + other) % 64 := congrArg Prod.fst same
  omega

/-- A sprite covers as many pixels as it has set bits. -/
theorem card_cells (left top : Nat) {rows : List UInt8} (short : rows.length ≤ 32) :
    (cells left top rows).card = weight rows := by
  induction rows generalizing top with
  | nil => rfl
  | cons bits rest induction =>
      have fewer : rest.length < 32 := short
      have apart : Disjoint (rowCells left (top % 32) bits) (cells left (top + 1) rest) := by
        rw [Finset.disjoint_left]
        rintro ⟨x, y⟩ first later
        obtain ⟨-, rfl⟩ := mem_rowCells_iff.mp first
        exact not_covers_first left top x fewer (mem_cells_iff.mp later)
      rw [cells, Finset.card_union_of_disjoint apart, card_rowCells,
        induction _ (Nat.le_of_lt fewer)]
      simp [weight]

end Sprite

namespace Picture

/-! ## Sets of lit pixels -/

/-- The set of the lit pixels. -/
def litSet (picture : Picture) : Finset (Nat × Nat) := picture.litPixels.toFinset

/-- The pixels that are lit in one picture and dark in another. -/
def darkened (before after : Picture) : Finset (Nat × Nat) := before.litSet \ after.litSet

theorem mem_litSet_iff {picture : Picture} {x y : Nat} :
    (x, y) ∈ picture.litSet ↔ picture.lit x y = true := by
  rw [litSet, List.mem_toFinset, mem_litPixels_iff]
  constructor
  · rintro ⟨-, -, lit⟩
    exact lit
  · intro lit
    obtain ⟨left, above⟩ := lt_of_lit lit
    exact ⟨left, above, lit⟩

theorem nodup_litPixels (picture : Picture) : picture.litPixels.Nodup := by
  rw [litPixels, List.nodup_flatMap]
  constructor
  · intro y _
    exact (List.nodup_range.filter _).map fun _ _ same => congrArg Prod.fst same
  · refine List.nodup_range.imp fun {y other} different => ?_
    simp only [Function.onFun, List.disjoint_left, List.mem_map]
    rintro _ ⟨x, -, rfl⟩ ⟨x', -, same⟩
    exact different (congrArg Prod.snd same).symm

theorem card_litSet (picture : Picture) : picture.litSet.card = picture.litCount :=
  List.toFinset_card_of_nodup picture.nodup_litPixels

end Picture

namespace Drawing

open scoped symmDiff

/-- The pixels that a drawing covers. -/
def cells (drawing : Drawing) : Finset (Nat × Nat) :=
  Sprite.cells drawing.left.toNat drawing.top.toNat drawing.rows

variable {drawing : Drawing}

theorem mem_cells_iff {x y : Nat} : (x, y) ∈ drawing.cells ↔ drawing.Covers x y :=
  Sprite.mem_cells_iff

theorem litSet_onto (short : drawing.rows.length ≤ 32) (picture : Picture) :
    (drawing.onto picture).1.litSet = picture.litSet ∆ drawing.cells := by
  ext ⟨x, y⟩
  rw [Finset.mem_symmDiff, Picture.mem_litSet_iff, Picture.mem_litSet_iff, mem_cells_iff,
    lit_onto short]
  by_cases covered : drawing.Covers x y <;> simp [covered]

/-- What a drawing turns off is what it covers of the lit pixels. -/
theorem darkened_onto (short : drawing.rows.length ≤ 32) (picture : Picture) :
    picture.darkened (drawing.onto picture).1 = picture.litSet ∩ drawing.cells := by
  rw [Picture.darkened, litSet_onto short, sdiff_symmDiff_left, Finset.inf_eq_inter]

theorem onto_collides_iff_darkened (short : drawing.rows.length ≤ 32) (picture : Picture) :
    (drawing.onto picture).2 = true ↔ 0 < (picture.darkened (drawing.onto picture).1).card := by
  rw [onto_collides_iff short, darkened_onto short, Finset.card_pos]
  constructor
  · rintro ⟨x, y, lit, covered⟩
    exact ⟨(x, y), Finset.mem_inter.mpr
      ⟨Picture.mem_litSet_iff.mpr lit, mem_cells_iff.mpr covered⟩⟩
  · rintro ⟨⟨x, y⟩, both⟩
    obtain ⟨lit, covered⟩ := Finset.mem_inter.mp both
    exact ⟨x, y, Picture.mem_litSet_iff.mp lit, mem_cells_iff.mp covered⟩

/-- Each set bit of a sprite lights a pixel, except that those that meet a lit one turn it off. -/
theorem litCount_onto (short : drawing.rows.length ≤ 32) (picture : Picture) :
    (drawing.onto picture).1.litCount + 2 * (picture.darkened (drawing.onto picture).1).card =
      picture.litCount + Sprite.weight drawing.rows := by
  have covered : drawing.cells.card = Sprite.weight drawing.rows := Sprite.card_cells _ _ short
  have lit := Finset.card_sdiff_add_card_inter picture.litSet drawing.cells
  have new := Finset.card_sdiff_add_card_inter drawing.cells picture.litSet
  have apart : Disjoint (picture.litSet \ drawing.cells) (drawing.cells \ picture.litSet) :=
    disjoint_sdiff_sdiff
  have flipped : (picture.litSet ∆ drawing.cells).card =
      (picture.litSet \ drawing.cells).card + (drawing.cells \ picture.litSet).card :=
    Finset.card_union_of_disjoint apart
  rw [Finset.inter_comm] at new
  rw [darkened_onto short, ← Picture.card_litSet, ← Picture.card_litSet, litSet_onto short, flipped,
    ← covered]
  omega

/-- Drawing a sprite twice takes it back. -/
theorem onto_onto (short : drawing.rows.length ≤ 32) (picture : Picture) :
    (drawing.onto (drawing.onto picture).1).1 = picture := by
  refine Picture.eq_of_lit_eq fun x y => ?_
  rw [lit_onto short, lit_onto short, Bool.xor_assoc, Bool.xor_self, Bool.xor_false]

end Drawing

namespace Machine

variable {machine : Machine} {x y : Register} {height : Digit} {pressed : Option Key}

/-- Behind a draw the same sprite is at the same place, unless the flag was a coordinate. -/
theorem drawing_drawn (machine : Machine) (height : Nat) (plain : x ≠ Registers.flagRegister)
    (plainToo : y ≠ Registers.flagRegister) :
    (machine.drawn x y height).drawing x y height = machine.drawing x y height := by
  have kept {register : Register} (other : register ≠ Registers.flagRegister) :
      (machine.drawn x y height).registers.get register = machine.registers.get register :=
    Registers.get_set_of_ne _ _ other
  rw [drawing, kept plain, kept plainToo]
  rfl

/-- The pixels that are lit behind an executed draw, and two for each that it turned off, are as
many as were lit before and the set bits of its sprite together. -/
theorem litCount_cycle
    (executed : Instruction.ofAnswer? (machine.cycle pressed).1 = some (.draw x y height)) :
    (machine.cycle pressed).2.picture.litCount +
        2 * (machine.picture.darkened (machine.cycle pressed).2.picture).card =
      machine.picture.litCount + Sprite.weight (machine.drawing x y height).rows := by
  rw [cycle_of_draw executed]
  exact Drawing.litCount_onto (machine.short_drawing x y height) machine.picture

/-- An executed draw puts one into the flag register if it turns a pixel off, and else zero. -/
theorem flag_cycle
    (executed : Instruction.ofAnswer? (machine.cycle pressed).1 = some (.draw x y height)) :
    (machine.cycle pressed).2.registers.flag =
      if 0 < (machine.picture.darkened (machine.cycle pressed).2.picture).card then 1 else 0 := by
  rw [cycle_of_draw executed, flag_drawn]
  exact if_congr (Drawing.onto_collides_iff_darkened (machine.short_drawing x y height) _) rfl rfl

/-- Executing the same draw again takes the sprite back, unless the flag is a coordinate of it. -/
theorem picture_cycle_cycle {key : Option Key}
    (executed : Instruction.ofAnswer? (machine.cycle pressed).1 = some (.draw x y height))
    (repeated : Instruction.ofAnswer? ((machine.cycle pressed).2.cycle key).1 =
      some (.draw x y height))
    (plain : x ≠ Registers.flagRegister) (plainToo : y ≠ Registers.flagRegister) :
    ((machine.cycle pressed).2.cycle key).2.picture = machine.picture := by
  have second : ((machine.cycle pressed).2.cycle key).2.picture = (Drawing.onto
      ((machine.cycle pressed).2.drawing x y height) (machine.cycle pressed).2.picture).1 :=
    congrArg picture (cycle_of_draw repeated)
  rw [second, cycle_of_draw executed, drawing_drawn machine height plain plainToo]
  exact Drawing.onto_onto (machine.short_drawing x y height) machine.picture

end Machine

/-- A draw that succeeds changes the number of lit pixels by that of the set bits of its sprite,
less two for each pixel that it turns off. The flag tells whether there is such a pixel, which can
be seen from the numbers alone. The same draw executed twice in a row restores the number, and if
the sprite has a set bit, a first draw without a collision makes the second one collide. -/
theorem draw_accounts_for_lit_pixels {machine : Machine} {pressed : Option Key} {x y : Register}
    {height : Digit}
    (executed : Instruction.ofAnswer? (machine.cycle pressed).1 = some (.draw x y height)) :
    let after := (machine.cycle pressed).2
    let bits := Sprite.weight (machine.drawing x y height).rows
    let turnedOff := (machine.picture.darkened after.picture).card
    (after.picture.litCount : Int) = machine.picture.litCount + bits - 2 * turnedOff ∧
    (after.registers.flag = 1 ↔ 0 < turnedOff) ∧
    (after.registers.flag = 0 ↔ after.picture.litCount = machine.picture.litCount + bits) ∧
    (x ≠ Registers.flagRegister → y ≠ Registers.flagRegister → ∀ key,
      let again := (after.cycle key).2
      Instruction.ofAnswer? (after.cycle key).1 = some (.draw x y height) →
        again.picture.litCount = machine.picture.litCount ∧
        (0 < bits → after.registers.flag = 0 → again.registers.flag = 1)) := by
  intro after bits turnedOff
  have counted : after.picture.litCount + 2 * turnedOff = machine.picture.litCount + bits :=
    Machine.litCount_cycle executed
  have flagged : after.registers.flag = if 0 < turnedOff then 1 else 0 :=
    Machine.flag_cycle executed
  have raised : after.registers.flag = 1 ↔ 0 < turnedOff := by
    rw [flagged]
    split <;> simp [*]
  have cleared : after.registers.flag = 0 ↔ ¬ 0 < turnedOff := by
    rw [flagged]
    split <;> simp [*]
  refine ⟨by omega, raised, cleared.trans (by omega), ?_⟩
  intro plain plainToo key again repeated
  have restored : again.picture = machine.picture :=
    Machine.picture_cycle_cycle executed repeated plain plainToo
  have restoredCount : again.picture.litCount = machine.picture.litCount := by rw [restored]
  refine ⟨restoredCount, ?_⟩
  intro nonempty clear
  have same : Sprite.weight (after.drawing x y height).rows = bits := by
    have reached : after = machine.drawn x y height := Machine.cycle_of_draw executed
    rw [reached, Machine.drawing_drawn machine height plain plainToo]
  -- The second draw has the same set bits, and has to turn all their pixels off again.
  have recounted : again.picture.litCount + 2 * (after.picture.darkened again.picture).card =
      after.picture.litCount + bits := by
    rw [← same]
    exact Machine.litCount_cycle repeated
  have reflagged : again.registers.flag =
      if 0 < (after.picture.darkened again.picture).card then 1 else 0 :=
    Machine.flag_cycle repeated
  have turnsOff : 0 < (after.picture.darkened again.picture).card := by
    have fresh : ¬ 0 < turnedOff := cleared.mp clear
    omega
  rw [reflagged]
  exact if_pos turnsOff

/-- The digit 0 has fourteen set bits. Drawn twice over a picture whose only lit pixel it does not
meet, it lights as many pixels and turns them off again. -/
theorem digit_drawn_twice_collides :
    let machine : Machine :=
      { Machine.powerOn ⟨Vector.replicate 8 0, 0⟩ with
        memory := Memory.initial.put 0x200 [0xD0, 0x15, 0xD0, 0x15]
        picture := Picture.dark.setLit 9 9 true }
    let after := (machine.cycle none).2
    let again := (after.cycle none).2
    Instruction.ofAnswer? (machine.cycle none).1 = some (.draw (.of 0) (.of 1) (.of 5)) ∧
      Instruction.ofAnswer? (after.cycle none).1 = some (.draw (.of 0) (.of 1) (.of 5)) ∧
      machine.picture.litCount = 1 ∧ after.picture.litCount = 15 ∧ after.registers.flag = 0 ∧
      again.picture.litCount = 1 ∧ again.registers.flag = 1 := by
  intro machine after again
  have facts : Instruction.ofAnswer? (machine.cycle none).1 =
        some (.draw (.of 0) (.of 1) (.of 5)) ∧
      Instruction.ofAnswer? (after.cycle none).1 = some (.draw (.of 0) (.of 1) (.of 5)) ∧
      machine.picture.litCount = 1 ∧ after.picture.litCount = 15 ∧
      Sprite.weight (machine.drawing (.of 0) (.of 1) (Digit.of 5)).rows = 14 := by decide +kernel
  obtain ⟨executed, repeated, before, behind, weight⟩ := facts
  obtain ⟨-, -, cleared, twice⟩ := draw_accounts_for_lit_pixels executed
  have clear : after.registers.flag = 0 := cleared.mpr (by rw [weight, before]; exact behind)
  obtain ⟨restored, collides⟩ := twice (by decide) (by decide) none repeated
  exact ⟨executed, repeated, before, behind, clear, restored.trans before,
    collides (by rw [weight]; decide) clear⟩

end Chip8

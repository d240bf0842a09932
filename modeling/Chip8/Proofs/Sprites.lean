import Chip8.Picture

/-!
# Sprites

Which pixels drawing a sprite flips. A sprite is a list of bytes, one for each of its rows. It
covers a pixel if one of its set bits falls there, where what leaves the picture at one edge comes
back in at the opposite one. A sprite has too few rows to come back to its first one, so no pixel
is flipped twice, and drawing it flips exactly what it covers. It turns a lit pixel off if one of
those was lit before.
-/

namespace Chip8
namespace Sprite

/-- A row that begins in column `left` covers the pixel in column `x`. -/
def RowCovers (left : Nat) (bits : UInt8) (x : Nat) : Prop :=
  ∃ column < 8, bits &&& (0x80 >>> UInt8.ofNat column) ≠ 0 ∧ (left + column) % 64 = x

/-- A sprite whose upper left corner is at `(left, top)` covers the pixel at `(x, y)`. -/
def Covers (left top : Nat) (rows : List UInt8) (x y : Nat) : Prop :=
  ∃ row < rows.length, RowCovers left (rows.getD row 0) x ∧ (top + row) % 32 = y

instance (left : Nat) (bits : UInt8) (x : Nat) : Decidable (RowCovers left bits x) :=
  inferInstanceAs (Decidable (∃ column < 8, _))

instance (left top : Nat) (rows : List UInt8) (x y : Nat) : Decidable (Covers left top rows x y) :=
  inferInstanceAs (Decidable (∃ row < rows.length, _))

/-! ## Rows -/

/-- The mask for a column selects one bit of a byte. -/
theorem getMsbD_eq_true_iff (bits : UInt8) {column : Nat} (inside : column < 8) :
    bits.toBitVec.getMsbD column = true ↔ bits &&& (0x80 >>> UInt8.ofNat column) ≠ 0 := by
  have mask : ∀ column < 8, ((0x80 : UInt8) >>> UInt8.ofNat column).toBitVec =
      BitVec.twoPow 8 (7 - column) := by decide
  have nonzero : ∀ column < 8, BitVec.twoPow 8 (7 - column) ≠ 0 := by decide
  have place : bits.toBitVec.getMsbD column = bits.toBitVec.getLsbD (7 - column) := by
    simp [BitVec.getMsbD_eq_getLsbD, inside]
  rw [ne_eq, ← UInt8.toBitVec_inj, UInt8.toBitVec_and, mask column inside, BitVec.and_twoPow, place]
  cases bits.toBitVec.getLsbD (7 - column) with
  | true => simpa using nonzero column inside
  | false => simp

/-- The bits of a row are spread over exactly the columns that it covers. -/
theorem getMsbD_spread_iff (left : Nat) (bits : UInt8) (x : Nat) :
    (Picture.spread left bits).getMsbD x = true ↔ RowCovers left bits x := by
  constructor
  · intro lit
    have inside : x < 64 := BitVec.lt_of_getMsbD lit
    rw [Picture.getMsbD_spread left x bits inside] at lit
    have column : (x + 64 - left % 64) % 64 < 8 := BitVec.lt_of_getMsbD lit
    exact ⟨_, column, (getMsbD_eq_true_iff bits column).mp lit, by omega⟩
  · rintro ⟨column, inside, set, rfl⟩
    have distance : ((left + column) % 64 + 64 - left % 64) % 64 = column := by omega
    rw [Picture.getMsbD_spread left _ bits (Nat.mod_lt _ (by decide)), distance]
    exact (getMsbD_eq_true_iff bits inside).mpr set

/-! ## Whole sprites -/

theorem not_covers_nil (left top x y : Nat) : ¬ Covers left top [] x y := by
  rintro ⟨row, inside, -⟩
  exact absurd inside (Nat.not_lt_zero row)

theorem covers_cons_iff {left top x y : Nat} {bits : UInt8} {rest : List UInt8} :
    Covers left top (bits :: rest) x y ↔
      RowCovers left bits x ∧ top % 32 = y ∨ Covers left (top + 1) rest x y := by
  constructor
  · rintro ⟨row, inside, covered, height⟩
    cases row with
    | zero => exact .inl ⟨covered, height⟩
    | succ row =>
        refine .inr ⟨row, Nat.lt_of_succ_lt_succ inside, covered, ?_⟩
        rw [Nat.add_assoc, Nat.add_comm 1 row]
        exact height
  · rintro (⟨covered, height⟩ | ⟨row, inside, covered, height⟩)
    · exact ⟨0, Nat.zero_lt_succ _, covered, height⟩
    · refine ⟨row + 1, Nat.succ_lt_succ inside, covered, ?_⟩
      rw [Nat.add_comm row 1, ← Nat.add_assoc]
      exact height

/-- With fewer rows than the picture, the rows below the first do not come back to it. -/
theorem not_covers_first (left top x : Nat) {rest : List UInt8} (short : rest.length < 32) :
    ¬ Covers left (top + 1) rest x (top % 32) := by
  rintro ⟨row, inside, -, height⟩
  omega

end Sprite

namespace Picture

open Sprite

theorem lit_flip_row (picture : Picture) (left top : Nat) (bits : UInt8) (x y : Nat) :
    (picture.setRow (top % 32) (picture.row (top % 32) ^^^ spread left bits)).lit x y =
      (picture.lit x y ^^ decide (RowCovers left bits x ∧ top % 32 = y)) := by
  rw [lit_setRow]
  by_cases here : top % 32 = y
  · have inside : top % 32 < height := Nat.mod_lt _ (by decide)
    subst here
    rw [if_pos ⟨rfl, inside⟩, BitVec.getMsbD_xor]
    simp [lit, ← getMsbD_spread_iff]
  · simp [here]

/-- Drawing a sprite flips the pixels that it covers and no others. -/
theorem lit_flip (picture : Picture) (left top : Nat) {rows : List UInt8}
    (short : rows.length ≤ 32) (x y : Nat) :
    (picture.flip left top rows).1.lit x y =
      (picture.lit x y ^^ decide (Covers left top rows x y)) := by
  induction rows generalizing picture top with
  | nil => simp [not_covers_nil]
  | cons bits rest induction =>
      have fewer : rest.length < 32 := short
      let row := picture.row (top % 32) ^^^ spread left bits
      change ((picture.setRow (top % 32) row).flip left (top + 1) rest).1.lit x y = _
      rw [induction _ _ (Nat.le_of_lt fewer), lit_flip_row, Bool.xor_assoc]
      congr 1
      simp only [covers_cons_iff]
      by_cases first : RowCovers left bits x ∧ top % 32 = y
      · have later : ¬ Covers left (top + 1) rest x y := by
          rw [← first.2]
          exact not_covers_first left top x fewer
        simp [first, later]
      · simp [first]

/-- A row of the picture meets the spread bits of a byte if the byte covers a lit pixel of it. -/
theorem row_meets_iff (picture : Picture) (left y : Nat) (bits : UInt8) :
    (picture.row y &&& spread left bits != 0) = true ↔
      ∃ x, picture.lit x y = true ∧ RowCovers left bits x := by
  have both (x : Nat) : (picture.row y &&& spread left bits).getMsbD x =
      (picture.lit x y && decide (RowCovers left bits x)) := by
    rw [BitVec.getMsbD_and, lit, Bool.eq_iff_iff]
    simp [getMsbD_spread_iff]
  rw [bne_iff_ne]
  constructor
  · intro meets
    refine Classical.byContradiction fun apart => meets (BitVec.eq_of_getMsbD_eq fun x _ => ?_)
    have dark : ¬ (picture.lit x y = true ∧ RowCovers left bits x) :=
      fun covered => apart ⟨x, covered⟩
    rw [both]
    simpa using dark
  · rintro ⟨x, lit, covered⟩ disjoint
    have none := both x
    rw [disjoint, lit, decide_eq_true covered] at none
    simp at none

/-- Drawing a sprite turns a lit pixel off exactly if the sprite covers one that was lit before. -/
theorem flip_collides_iff (picture : Picture) (left top : Nat) {rows : List UInt8}
    (short : rows.length ≤ 32) :
    (picture.flip left top rows).2 = true ↔
      ∃ x y, picture.lit x y = true ∧ Covers left top rows x y := by
  induction rows generalizing picture top with
  | nil => simp [not_covers_nil]
  | cons bits rest induction =>
      have fewer : rest.length < 32 := short
      let after := picture.setRow (top % 32) (picture.row (top % 32) ^^^ spread left bits)
      -- The rows below find the pixels that they cover as they were before the first row.
      have unchanged {x y : Nat} (later : Covers left (top + 1) rest x y) :
          after.lit x y = picture.lit x y := by
        have notFirst : ¬ (RowCovers left bits x ∧ top % 32 = y) := by
          rintro ⟨-, rfl⟩
          exact not_covers_first left top x fewer later
        rw [lit_flip_row, decide_eq_false notFirst, Bool.xor_false]
      change (picture.row (top % 32) &&& spread left bits != 0 ||
        (after.flip left (top + 1) rest).2) = true ↔ _
      rw [Bool.or_eq_true, row_meets_iff, induction _ _ (Nat.le_of_lt fewer)]
      simp only [covers_cons_iff]
      constructor
      · rintro (⟨x, lit, covered⟩ | ⟨x, y, lit, later⟩)
        · exact ⟨x, top % 32, lit, .inl ⟨covered, rfl⟩⟩
        · exact ⟨x, y, unchanged later ▸ lit, .inr later⟩
      · rintro ⟨x, y, lit, ⟨covered, rfl⟩ | later⟩
        · exact .inl ⟨x, lit, covered⟩
        · exact .inr ⟨x, y, (unchanged later).trans lit, later⟩

/-- A picture is known by which of its pixels are lit. -/
theorem eq_of_lit_eq {first second : Picture} (same : ∀ x y, first.lit x y = second.lit x y) :
    first = second := by
  obtain ⟨rows⟩ := first
  obtain ⟨others⟩ := second
  rw [mk.injEq]
  apply Vector.ext
  intro y inside
  apply BitVec.eq_of_getMsbD_eq
  intro x _
  simpa [lit, row, inside] using same x y

end Picture
end Chip8

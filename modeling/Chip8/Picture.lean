import Chip8.Fault

/-!
# The picture

64 by 32 pixels that are lit or dark. A row is a bit vector whose most significant bit is the pixel
at the left edge. Sprites are drawn by flipping pixels: each byte of a sprite is a row of eight
pixels, and what leaves the picture at one edge comes back in at the opposite one.
-/

namespace Chip8

/-- A picture. -/
structure Picture where
  /-- The rows from top to bottom. -/
  rows : Vector (BitVec 64) 32
  deriving DecidableEq

namespace Picture

def width : Nat := 64

def height : Nat := 32

/-- The picture without a lit pixel. -/
def dark : Picture := ⟨Vector.replicate 32 0⟩

/-- The row at a height; beyond the picture it is dark. -/
def row (picture : Picture) (y : Nat) : BitVec 64 := picture.rows[y]?.getD 0

/-- Whether a pixel is lit; beyond the picture none is. -/
def lit (picture : Picture) (x y : Nat) : Bool := (picture.row y).getMsbD x

/-- Replace a row. Beyond the picture nothing happens. -/
def setRow (picture : Picture) (y : Nat) (bits : BitVec 64) : Picture :=
  ⟨picture.rows.setIfInBounds y bits⟩

/-- The row in which only one pixel is lit. -/
def column (x : Nat) : BitVec 64 := BitVec.twoPow 64 (width - 1 - x)

/-- Light or darken a pixel in a column of the picture. -/
def setLit (picture : Picture) (x y : Nat) (value : Bool) : Picture :=
  let others := picture.row y &&& ~~~(column x)
  picture.setRow y (if value then others ||| column x else others)

/-- Ask for a pixel of the picture. Beyond it there is none to ask for. -/
def readPixel (picture : Picture) (x y : Nat) : Attempt Bool :=
  if x < width ∧ y < height then .ok (picture.lit x y) else .error .abort

/-- Light or darken a pixel of the picture. Beyond it there is none. -/
def writePixel (picture : Picture) (x y : Nat) (value : Bool) : Attempt Picture :=
  if x < width ∧ y < height then .ok (picture.setLit x y value) else .error .abort

/-- The places of the lit pixels, row by row. -/
def litPixels (picture : Picture) : List (Nat × Nat) :=
  (List.range height).flatMap fun y =>
    ((List.range width).filter fun x => picture.lit x y).map fun x => (x, y)

/-- The number of lit pixels. -/
def litCount (picture : Picture) : Nat := picture.litPixels.length

@[simp]
theorem row_dark (y : Nat) : dark.row y = 0 := by
  simp only [row, dark, Vector.getElem?_replicate]
  split <;> rfl

@[simp]
theorem lit_dark (x y : Nat) : dark.lit x y = false := by
  simp [lit]

/-- Only pixels of the picture are lit. -/
theorem lt_of_lit {picture : Picture} {x y : Nat} (lit : picture.lit x y = true) :
    x < width ∧ y < height := by
  refine ⟨BitVec.lt_of_getMsbD lit, Nat.lt_of_not_le fun below => ?_⟩
  have none : picture.rows[y]? = none := Vector.getElem?_eq_none below
  simp [Picture.lit, row, none] at lit

theorem mem_litPixels_iff {picture : Picture} {x y : Nat} :
    (x, y) ∈ picture.litPixels ↔ x < width ∧ y < height ∧ picture.lit x y := by
  simp only [litPixels, List.mem_flatMap, List.mem_map, List.mem_filter, List.mem_range]
  grind

theorem row_setRow (picture : Picture) (y other : Nat) (bits : BitVec 64) :
    (picture.setRow y bits).row other =
      if y = other ∧ other < height then bits else picture.row other := by
  simp only [row, setRow, height, Vector.getElem?_setIfInBounds]
  grind

theorem lit_setRow (picture : Picture) (x y other : Nat) (bits : BitVec 64) :
    (picture.setRow y bits).lit x other =
      if y = other ∧ other < height then bits.getMsbD x else picture.lit x other := by
  unfold lit
  rw [row_setRow]
  split <;> rfl

/-! ## Sprites -/

/-- The row that a byte of a sprite covers when its leftmost pixel is in column `x`. -/
def spread (x : Nat) (bits : UInt8) : BitVec 64 :=
  (bits.toBitVec ++ 0#56 : BitVec 64).rotateRight (x % width)

/-- A byte covers the pixel in a column if the bit for the distance from `x` is set. -/
theorem getMsbD_spread (x column : Nat) (bits : UInt8) (inside : column < 64) :
    (spread x bits).getMsbD column = bits.toBitVec.getMsbD ((column + 64 - x % 64) % 64) := by
  have offset_lt : x % 64 < 64 := Nat.mod_lt _ (by decide)
  unfold spread width
  rw [BitVec.getMsbD_rotateRight]
  simp only [BitVec.getMsbD_append, inside, decide_true, Bool.true_and, Nat.mod_mod]
  grind [BitVec.getMsbD_eq_getLsbD]

/-- Flip the pixels that a sprite covers when its upper left corner is at `(x, y)`, and tell
whether a lit one was turned off. -/
def flip (picture : Picture) (x y : Nat) : List UInt8 → Picture × Bool
  | [] => (picture, false)
  | bits :: rest =>
      let before := picture.row (y % height)
      let covered := spread x bits
      let flipped := (picture.setRow (y % height) (before ^^^ covered)).flip x (y + 1) rest
      (flipped.1, (before &&& covered) != 0 || flipped.2)

@[simp]
theorem flip_nil (picture : Picture) (x y : Nat) : picture.flip x y [] = (picture, false) := rfl

end Picture
end Chip8

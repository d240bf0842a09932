/-!
# The built-in font

Sixteen glyphs, one for each hexadecimal digit, stand at the bottom of memory. A glyph is a sprite
of five rows, four pixels wide.
-/

namespace Chip8
namespace Font

/-- The number of rows of a glyph, one byte each. -/
def glyphHeight : Nat := 5

/-- The rows of all glyphs, digit after digit. -/
def bytes : List UInt8 :=
  [0xF0, 0x90, 0x90, 0x90, 0xF0,
   0x20, 0x60, 0x20, 0x20, 0x70,
   0xF0, 0x10, 0xF0, 0x80, 0xF0,
   0xF0, 0x10, 0xF0, 0x10, 0xF0,
   0x90, 0x90, 0xF0, 0x10, 0x10,
   0xF0, 0x80, 0xF0, 0x10, 0xF0,
   0xF0, 0x80, 0xF0, 0x90, 0xF0,
   0xF0, 0x10, 0x20, 0x40, 0x40,
   0xF0, 0x90, 0xF0, 0x90, 0xF0,
   0xF0, 0x90, 0xF0, 0x10, 0xF0,
   0xF0, 0x90, 0xF0, 0x90, 0x90,
   0xE0, 0x90, 0xE0, 0x90, 0xE0,
   0xF0, 0x80, 0x80, 0x80, 0xF0,
   0xE0, 0x90, 0x90, 0x90, 0xE0,
   0xF0, 0x80, 0xF0, 0x80, 0xF0,
   0xF0, 0x80, 0xF0, 0x80, 0x80]

/-- The rows of the glyph of a digit, from top to bottom. -/
def glyph (digit : Fin 16) : List UInt8 :=
  (bytes.drop (glyphHeight * digit)).take glyphHeight

/-- Where the glyph of a digit stands; for a value that is no digit, where it would stand. -/
def address (value : UInt8) : Nat := glyphHeight * value.toNat

@[simp]
theorem length_bytes : bytes.length = 80 := rfl

@[simp]
theorem length_glyph (digit : Fin 16) : (glyph digit).length = 5 := by
  revert digit
  decide

end Font
end Chip8

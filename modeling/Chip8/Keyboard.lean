import Chip8.Opcode

/-!
# Keyboard layout

The left-hand side of a keyboard stands in for the hexadecimal keypad:

    1 2 3 4      1 2 3 C
    q w e r      4 5 6 D
    a s d f      7 8 9 E
    z x c v      A 0 B F

Letters count in both cases.
-/

namespace Chip8
namespace Keyboard

/-- The keyboard characters and the keys of the keypad they stand for, row by row. -/
def layout : List (Char × Key) :=
  [('1', .of 0x1), ('2', .of 0x2), ('3', .of 0x3), ('4', .of 0xC),
   ('q', .of 0x4), ('w', .of 0x5), ('e', .of 0x6), ('r', .of 0xD),
   ('a', .of 0x7), ('s', .of 0x8), ('d', .of 0x9), ('f', .of 0xE),
   ('z', .of 0xA), ('x', .of 0x0), ('c', .of 0xB), ('v', .of 0xF)]

/-- The key that a character stands for. Only ASCII letters have two cases here. -/
def key? (character : Char) : Option Key := layout.lookup character.toLower

end Keyboard
end Chip8

import Chip8.Console
import Chip8.Keyboard

/-!
# Typed input

The characters that a user types, read as events: the keys of the keyboard layout, the space bar to
release all keys, the up and down arrows for the speed, and a lone escape to quit. Other characters
mean nothing.
-/

namespace Chip8
namespace Event

/-- The events that typed characters stand for. -/
def ofTyped : List Char → List Event
  | [] => []
  | '\x1b' :: '[' :: 'A' :: rest => .faster :: ofTyped rest
  | '\x1b' :: '[' :: 'B' :: rest => .slower :: ofTyped rest
  | '\x1b' :: _ => [.quit]
  | ' ' :: rest => .releaseAll :: ofTyped rest
  | character :: rest =>
      match Keyboard.key? character with
      | some key => .press key :: ofTyped rest
      | none => ofTyped rest

end Event
end Chip8

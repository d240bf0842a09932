import Chip8.Opcode

/-!
# The keypad

Sixteen keys, any number of which can be held down at once. Programs ask for a single key: the one
pressed last while it is still held, and otherwise the lowest one held.
-/

namespace Chip8

/-- The state of the keypad. -/
structure Keypad where
  held : Vector Bool 16
  /-- The key pressed last since all keys were released, which may be up again. -/
  latest : Option Key
  deriving DecidableEq

namespace Keypad

/-- The keypad with no key down. -/
def idle : Keypad := ⟨Vector.replicate 16 false, none⟩

/-- Press a key down. -/
def press (keypad : Keypad) (key : Key) : Keypad := ⟨keypad.held.set key true, some key⟩

/-- Let a key up. -/
def release (keypad : Keypad) (key : Key) : Keypad :=
  { keypad with held := keypad.held.set key false }

/-- Let all keys up and forget which one came last. -/
def releaseAll (_keypad : Keypad) : Keypad := idle

/-- Whether a key is down. -/
def isHeld (keypad : Keypad) (key : Key) : Bool := keypad.held[key]

@[simp]
theorem isHeld_idle (key : Key) : idle.isHeld key = false := by
  simp [isHeld, idle]

theorem isHeld_press (keypad : Keypad) (key other : Key) :
    (keypad.press key).isHeld other = (decide (key = other) || keypad.isHeld other) := by
  simp only [isHeld, press, Fin.getElem_fin, Vector.getElem_set, Fin.ext_iff]
  split <;> simp_all

theorem isHeld_release (keypad : Keypad) (key other : Key) :
    (keypad.release key).isHeld other = (decide (key ≠ other) && keypad.isHeld other) := by
  simp only [isHeld, release, Fin.getElem_fin, Vector.getElem_set, Fin.ext_iff, ne_eq]
  split <;> simp_all

/-- The keys that are down, in ascending order. -/
def heldKeys (keypad : Keypad) : List Key := (List.finRange 16).filter keypad.isHeld

@[simp]
theorem mem_heldKeys {keypad : Keypad} {key : Key} :
    key ∈ keypad.heldKeys ↔ keypad.isHeld key = true := by
  simp [heldKeys]

/-- The key that a program is told. -/
def pressed (keypad : Keypad) : Option Key :=
  match keypad.latest.filter keypad.isHeld with
  | some key => some key
  | none => keypad.heldKeys.head?

end Keypad
end Chip8

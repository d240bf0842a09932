/-!
# Hexadecimal numerals

Numerals are upper case and have at least a given number of digits. A value that fits into that
many digits is padded with zeros, a larger one is written in full. `padded_eq` says which digits
a fitting value gets.
-/

namespace Chip8

abbrev Digit := Fin 16

/-- The last digit of a number. -/
def Digit.of (value : Nat) : Digit := Fin.ofNat 16 value

namespace Hex

/-- The upper case character of a digit. -/
def character (digit : Digit) : Char :=
  if digit.val < 10 then Char.ofNat (48 + digit) else Char.ofNat (55 + digit)

/-- The last `count` digits of a value, the most significant one first. -/
def lowDigits : Nat → Nat → List Char
  | 0, _ => []
  | count + 1, value => lowDigits count (value / 16) ++ [character (.of value)]

@[simp]
theorem length_lowDigits (count value : Nat) : (lowDigits count value).length = count := by
  induction count generalizing value with
  | zero => rfl
  | succ count induction => simp [lowDigits, induction]

/-- The number of digits that a value needs; zero needs one. -/
def digitCount (value : Nat) : Nat := value.log2 / 4 + 1

/-- The numeral of a value, with leading zeros up to `width` digits. -/
def padded (width value : Nat) : String :=
  String.ofList (lowDigits (max width (digitCount value)) value)

/-- A value that needs no more than `width` digits is written with exactly those. -/
theorem padded_eq {width value : Nat} (fits : digitCount value ≤ width) :
    padded width value = String.ofList (lowDigits width value) := by
  rw [padded, Nat.max_eq_left fits]

/-- A numeral marked as hexadecimal, `0x` and at least `width` digits. -/
def marked (width value : Nat) : String := "0x" ++ padded width value

end Hex
end Chip8

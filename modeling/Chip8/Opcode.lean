import Chip8.Hex

/-!
# Opcodes and their fields

An opcode is a 16-bit word of four hexadecimal digits `FXYN`. Instructions read it as a family
digit `F` followed by two register numbers and a digit, by a register number and a byte, or by a
12-bit address. This file cuts opcodes into these fields and puts fields together again.
-/

namespace Chip8

/-- The number of a general purpose register, `V0` to `VF`. -/
abbrev Register := Digit

/-- A key of the hexadecimal keypad. -/
abbrev Key := Digit

/-- An address that an instruction can name, twelve bits wide. -/
abbrev Address := Fin 4096

/-- An instruction word as it stands in memory. -/
abbrev Opcode := UInt16

namespace Opcode

/-! ## Fields -/

/-- The first digit, which selects the family of instructions. -/
def family (opcode : Opcode) : Digit :=
  ⟨opcode.toNat / 4096, by have := opcode.toNat_lt; omega⟩

/-- The second digit, a register number. -/
def x (opcode : Opcode) : Register := ⟨opcode.toNat / 256 % 16, by omega⟩

/-- The third digit, a register number. -/
def y (opcode : Opcode) : Register := ⟨opcode.toNat / 16 % 16, by omega⟩

/-- The last digit. -/
def low (opcode : Opcode) : Digit := ⟨opcode.toNat % 16, by omega⟩

/-- The last two digits. -/
def byte (opcode : Opcode) : UInt8 := UInt8.ofNat (opcode.toNat % 256)

/-- The last three digits. -/
def address (opcode : Opcode) : Address := ⟨opcode.toNat % 4096, by omega⟩

/-! ## Composition -/

/-- The word with the given two bytes, the more significant one first. -/
def ofBytes (high low : UInt8) : Opcode := UInt16.ofNat (256 * high.toNat + low.toNat)

/-- The more significant byte. -/
def highByte (opcode : Opcode) : UInt8 := UInt8.ofNat (opcode.toNat / 256)

/-- The word `FXYN`. -/
def ofDigits (family x y low : Digit) : Opcode :=
  UInt16.ofNat (4096 * family + 256 * x + 16 * y + low)

/-- The word `FXKK`. -/
def ofByte (family x : Digit) (byte : UInt8) : Opcode :=
  UInt16.ofNat (4096 * family + 256 * x + byte.toNat)

/-- The word `FNNN`. -/
def ofAddress (family : Digit) (address : Address) : Opcode :=
  UInt16.ofNat (4096 * family + address)

@[simp]
theorem family_ofDigits (family x y low : Digit) : (ofDigits family x y low).family = family := by
  simp only [Opcode.family, ofDigits, Fin.ext_iff, UInt16.toNat_ofNat']
  omega

@[simp]
theorem x_ofDigits (family x y low : Digit) : (ofDigits family x y low).x = x := by
  simp only [Opcode.x, ofDigits, Fin.ext_iff, UInt16.toNat_ofNat']
  omega

@[simp]
theorem y_ofDigits (family x y low : Digit) : (ofDigits family x y low).y = y := by
  simp only [Opcode.y, ofDigits, Fin.ext_iff, UInt16.toNat_ofNat']
  omega

@[simp]
theorem low_ofDigits (family x y low : Digit) : (ofDigits family x y low).low = low := by
  simp only [Opcode.low, ofDigits, Fin.ext_iff, UInt16.toNat_ofNat']
  omega

@[simp]
theorem family_ofByte (family x : Digit) (byte : UInt8) :
    (ofByte family x byte).family = family := by
  have := byte.toNat_lt
  simp only [Opcode.family, ofByte, Fin.ext_iff, UInt16.toNat_ofNat']
  omega

@[simp]
theorem x_ofByte (family x : Digit) (byte : UInt8) : (ofByte family x byte).x = x := by
  have := byte.toNat_lt
  simp only [Opcode.x, ofByte, Fin.ext_iff, UInt16.toNat_ofNat']
  omega

@[simp]
theorem byte_ofByte (family x : Digit) (byte : UInt8) : (ofByte family x byte).byte = byte := by
  have := byte.toNat_lt
  simp only [Opcode.byte, ofByte, ← UInt8.toNat_inj, UInt8.toNat_ofNat', UInt16.toNat_ofNat']
  omega

@[simp]
theorem family_ofAddress (family : Digit) (address : Address) :
    (ofAddress family address).family = family := by
  simp only [Opcode.family, ofAddress, Fin.ext_iff, UInt16.toNat_ofNat']
  omega

@[simp]
theorem address_ofAddress (family : Digit) (address : Address) :
    (ofAddress family address).address = address := by
  simp only [Opcode.address, ofAddress, Fin.ext_iff, UInt16.toNat_ofNat']
  omega

/-- The four digits of a word. -/
def text (opcode : Opcode) : String := Hex.padded 4 opcode.toNat

end Opcode
end Chip8

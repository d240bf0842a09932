import Chip8.Opcode

/-!
# Instructions

The instruction set as data: one constructor per operation, with the operands that its opcode has.
Where the operation fixes the last digit of the opcode, an instruction holds that digit with the
proof that it is the right one. `ofOpcode?` reads an instruction off an opcode and `toOpcode` writes
it back; opcodes that belong to no instruction are refused.
-/

namespace Chip8

/-- How an `8XY_` instruction combines two registers. Both subtractions take `VY` from `VX`; `sub`
flags `VX > VY` and `subBelow` flags `VX < VY`. -/
inductive Combination where
  | copy
  | or
  | and
  | xor
  | add
  | sub
  | shiftRight
  | subBelow
  | shiftLeft
  deriving DecidableEq

namespace Combination

/-- The last digit of the opcode that asks for a combination. -/
def selector : Combination → Digit
  | copy => .of 0x0
  | or => .of 0x1
  | and => .of 0x2
  | xor => .of 0x3
  | add => .of 0x4
  | sub => .of 0x5
  | shiftRight => .of 0x6
  | subBelow => .of 0x7
  | shiftLeft => .of 0xE

/-- The combination that a last digit asks for. -/
def ofSelector? (digit : Digit) : Option Combination :=
  match digit.val with
  | 0x0 => some copy
  | 0x1 => some or
  | 0x2 => some and
  | 0x3 => some xor
  | 0x4 => some add
  | 0x5 => some sub
  | 0x6 => some shiftRight
  | 0x7 => some subBelow
  | 0xE => some shiftLeft
  | _ => none

@[simp]
theorem ofSelector?_selector (combination : Combination) :
    ofSelector? combination.selector = some combination := by
  cases combination <;> rfl

theorem eq_selector_of_ofSelector? {digit : Digit} {combination : Combination}
    (found : ofSelector? digit = some combination) : digit = combination.selector := by
  rw [ofSelector?] at found
  split at found
  case h_10 => cases found
  all_goals
    cases found
    exact Fin.ext ‹_›

end Combination

/-- A digit with the proof of which one it is. -/
abbrev FixedDigit (digit : Digit) := { n : Digit // n = digit }

/-- An instruction with its operands. -/
inductive Instruction where
  | clear
  | ret
  | jump (target : Address)
  | call (target : Address)
  | skipIfEqual (x : Register) (byte : UInt8)
  | skipUnlessEqual (x : Register) (byte : UInt8)
  | skipIfSame (x y : Register) (n : FixedDigit (.of 0))
  | load (x : Register) (byte : UInt8)
  | add (x : Register) (byte : UInt8)
  | combine (combination : Combination) (x y : Register) (n : FixedDigit combination.selector)
  | skipUnlessSame (x y : Register) (n : FixedDigit (.of 0))
  | setIndex (target : Address)
  | jumpPlus (target : Address)
  | random (x : Register) (mask : UInt8)
  | draw (x y : Register) (height : Digit)
  | skipIfPressed (x : Register)
  | skipUnlessPressed (x : Register)
  | readDelay (x : Register)
  | awaitKey (x : Register)
  | setDelay (x : Register)
  | setSound (x : Register)
  | addIndex (x : Register)
  | glyph (x : Register)
  | decimal (x : Register)
  | store (x : Register)
  | restore (x : Register)
  deriving DecidableEq

namespace Instruction

/-- The instruction of a word in family zero. -/
def ofSystem? (opcode : Opcode) : Option Instruction :=
  match opcode.address.val with
  | 0x0E0 => some clear
  | 0x0EE => some ret
  | _ => none

/-- The instruction of a word in family eight. -/
def ofCombination? (opcode : Opcode) : Option Instruction :=
  match found : Combination.ofSelector? opcode.low with
  | some combination =>
      some (combine combination opcode.x opcode.y
        ⟨opcode.low, Combination.eq_selector_of_ofSelector? found⟩)
  | none => none

/-- The instruction of a word in family fourteen. -/
def ofKeyTest? (opcode : Opcode) : Option Instruction :=
  match opcode.byte.toNat with
  | 0x9E => some (skipIfPressed opcode.x)
  | 0xA1 => some (skipUnlessPressed opcode.x)
  | _ => none

/-- The instruction of a word in family fifteen. -/
def ofTransfer? (opcode : Opcode) : Option Instruction :=
  match opcode.byte.toNat with
  | 0x07 => some (readDelay opcode.x)
  | 0x0A => some (awaitKey opcode.x)
  | 0x15 => some (setDelay opcode.x)
  | 0x18 => some (setSound opcode.x)
  | 0x1E => some (addIndex opcode.x)
  | 0x29 => some (glyph opcode.x)
  | 0x33 => some (decimal opcode.x)
  | 0x55 => some (store opcode.x)
  | 0x65 => some (restore opcode.x)
  | _ => none

/-- The instruction that an opcode stands for, if it stands for one. -/
def ofOpcode? (opcode : Opcode) : Option Instruction :=
  match opcode.family.val with
  | 0x0 => ofSystem? opcode
  | 0x1 => some (jump opcode.address)
  | 0x2 => some (call opcode.address)
  | 0x3 => some (skipIfEqual opcode.x opcode.byte)
  | 0x4 => some (skipUnlessEqual opcode.x opcode.byte)
  | 0x5 =>
      if zero : opcode.low = .of 0 then some (skipIfSame opcode.x opcode.y ⟨opcode.low, zero⟩)
      else none
  | 0x6 => some (load opcode.x opcode.byte)
  | 0x7 => some (add opcode.x opcode.byte)
  | 0x8 => ofCombination? opcode
  | 0x9 =>
      if zero : opcode.low = .of 0 then some (skipUnlessSame opcode.x opcode.y ⟨opcode.low, zero⟩)
      else none
  | 0xA => some (setIndex opcode.address)
  | 0xB => some (jumpPlus opcode.address)
  | 0xC => some (random opcode.x opcode.byte)
  | 0xD => some (draw opcode.x opcode.y opcode.low)
  | 0xE => ofKeyTest? opcode
  | 0xF => ofTransfer? opcode
  | _ => none

/-- The opcode that stands for an instruction. -/
def toOpcode : Instruction → Opcode
  | clear => 0x00E0
  | ret => 0x00EE
  | jump target => Opcode.ofAddress (.of 0x1) target
  | call target => Opcode.ofAddress (.of 0x2) target
  | skipIfEqual x byte => Opcode.ofByte (.of 0x3) x byte
  | skipUnlessEqual x byte => Opcode.ofByte (.of 0x4) x byte
  | skipIfSame x y n => Opcode.ofDigits (.of 0x5) x y n
  | load x byte => Opcode.ofByte (.of 0x6) x byte
  | add x byte => Opcode.ofByte (.of 0x7) x byte
  | combine _ x y n => Opcode.ofDigits (.of 0x8) x y n
  | skipUnlessSame x y n => Opcode.ofDigits (.of 0x9) x y n
  | setIndex target => Opcode.ofAddress (.of 0xA) target
  | jumpPlus target => Opcode.ofAddress (.of 0xB) target
  | random x mask => Opcode.ofByte (.of 0xC) x mask
  | draw x y height => Opcode.ofDigits (.of 0xD) x y height
  | skipIfPressed x => Opcode.ofByte (.of 0xE) x 0x9E
  | skipUnlessPressed x => Opcode.ofByte (.of 0xE) x 0xA1
  | readDelay x => Opcode.ofByte (.of 0xF) x 0x07
  | awaitKey x => Opcode.ofByte (.of 0xF) x 0x0A
  | setDelay x => Opcode.ofByte (.of 0xF) x 0x15
  | setSound x => Opcode.ofByte (.of 0xF) x 0x18
  | addIndex x => Opcode.ofByte (.of 0xF) x 0x1E
  | glyph x => Opcode.ofByte (.of 0xF) x 0x29
  | decimal x => Opcode.ofByte (.of 0xF) x 0x33
  | store x => Opcode.ofByte (.of 0xF) x 0x55
  | restore x => Opcode.ofByte (.of 0xF) x 0x65

end Instruction
end Chip8

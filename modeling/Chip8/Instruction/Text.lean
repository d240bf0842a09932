import Chip8.Instruction

/-!
# Assembly text

The text of an instruction is its mnemonic and its operands. Registers are named by one digit,
bytes and addresses are marked hexadecimal numerals of two and three digits, and the height of a
sprite is decimal.
-/

namespace Chip8

namespace Combination

/-- The mnemonic of an `8XY_` instruction. -/
def mnemonic : Combination → String
  | copy => "LD"
  | or => "OR"
  | and => "AND"
  | xor => "XOR"
  | add => "ADD"
  | sub => "SUB"
  | shiftRight => "SHR"
  | subBelow => "SUBN"
  | shiftLeft => "SHL"

end Combination

namespace Instruction

/-- The name of a general purpose register. -/
def registerText (x : Register) : String := "V" ++ Hex.padded 1 x

/-- A byte operand. -/
def byteText (byte : UInt8) : String := Hex.marked 2 byte.toNat

/-- An address operand. -/
def addressText (address : Address) : String := Hex.marked 3 address

/-- A mnemonic followed by its operands, which commas separate. -/
def line (mnemonic : String) (operands : List String) : String :=
  mnemonic ++ " " ++ ", ".intercalate operands

/-- The assembly text of an instruction. -/
def text : Instruction → String
  | clear => "CLS"
  | ret => "RET"
  | jump target => line "JP" [addressText target]
  | call target => line "CALL" [addressText target]
  | skipIfEqual x byte => line "SE" [registerText x, byteText byte]
  | skipUnlessEqual x byte => line "SNE" [registerText x, byteText byte]
  | skipIfSame x y _ => line "SE" [registerText x, registerText y]
  | load x byte => line "LD" [registerText x, byteText byte]
  | add x byte => line "ADD" [registerText x, byteText byte]
  | combine combination x y _ => line combination.mnemonic [registerText x, registerText y]
  | skipUnlessSame x y _ => line "SNE" [registerText x, registerText y]
  | setIndex target => line "LD" ["I", addressText target]
  | jumpPlus target => line "JP" ["V0", addressText target]
  | random x mask => line "RND" [registerText x, byteText mask]
  | draw x y height => line "DRW" [registerText x, registerText y, toString height.val]
  | skipIfPressed x => line "SKP" [registerText x]
  | skipUnlessPressed x => line "SKNP" [registerText x]
  | readDelay x => line "LD" [registerText x, "DT"]
  | awaitKey x => line "LD" [registerText x, "K"]
  | setDelay x => line "LD" ["DT", registerText x]
  | setSound x => line "LD" ["ST", registerText x]
  | addIndex x => line "ADD" ["I", registerText x]
  | glyph x => line "LD" ["F", registerText x]
  | decimal x => line "LD" ["B", registerText x]
  | store x => line "LD" ["[I]", registerText x]
  | restore x => line "LD" [registerText x, "[I]"]

end Instruction
end Chip8

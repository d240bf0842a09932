import Chip8.Fault
import Chip8.Proofs.Encoding

/-!
# The opcode table

The words that can be executed, by their digits: a pattern fixes some of the four digits and leaves
the others to the operands. A word is decoded if it fits a pattern of the table and refused by its
own name if it fits none. Decoding and encoding undo each other, so nothing of a word is lost and
nothing is added.
-/

namespace Chip8

/-- The words of an instruction: the digits that they have in common, and nothing in the places of
the operands. -/
structure Pattern where
  family : Nat
  x : Option Nat
  y : Option Nat
  low : Option Nat

namespace Pattern

/-- Whether a word has the digits that a pattern fixes. -/
def fits (pattern : Pattern) (word : Opcode) : Bool :=
  pattern.family == word.family.val && pattern.x.all (· == word.x.val) &&
    pattern.y.all (· == word.y.val) && pattern.low.all (· == word.low.val)

/-- The patterns `00E0`, `00EE`, `1NNN`, `2NNN`, `3XKK`, `4XKK`, `5XY0`, `6XKK`, `7XKK`, `8XY0` to
`8XY7`, `8XYE`, `9XY0`, `ANNN`, `BNNN`, `CXKK`, `DXYN`, `EX9E`, `EXA1`, `FX07`, `FX0A`, `FX15`,
`FX18`, `FX1E`, `FX29`, `FX33`, `FX55` and `FX65`. -/
def table : List Pattern :=
  [⟨0x0, some 0x0, some 0xE, some 0x0⟩, ⟨0x0, some 0x0, some 0xE, some 0xE⟩,
    ⟨0x1, none, none, none⟩, ⟨0x2, none, none, none⟩,
    ⟨0x3, none, none, none⟩, ⟨0x4, none, none, none⟩, ⟨0x5, none, none, some 0x0⟩,
    ⟨0x6, none, none, none⟩, ⟨0x7, none, none, none⟩,
    ⟨0x8, none, none, some 0x0⟩, ⟨0x8, none, none, some 0x1⟩, ⟨0x8, none, none, some 0x2⟩,
    ⟨0x8, none, none, some 0x3⟩, ⟨0x8, none, none, some 0x4⟩, ⟨0x8, none, none, some 0x5⟩,
    ⟨0x8, none, none, some 0x6⟩, ⟨0x8, none, none, some 0x7⟩, ⟨0x8, none, none, some 0xE⟩,
    ⟨0x9, none, none, some 0x0⟩,
    ⟨0xA, none, none, none⟩, ⟨0xB, none, none, none⟩, ⟨0xC, none, none, none⟩,
    ⟨0xD, none, none, none⟩,
    ⟨0xE, none, some 0x9, some 0xE⟩, ⟨0xE, none, some 0xA, some 0x1⟩,
    ⟨0xF, none, some 0x0, some 0x7⟩, ⟨0xF, none, some 0x0, some 0xA⟩,
    ⟨0xF, none, some 0x1, some 0x5⟩, ⟨0xF, none, some 0x1, some 0x8⟩,
    ⟨0xF, none, some 0x1, some 0xE⟩, ⟨0xF, none, some 0x2, some 0x9⟩,
    ⟨0xF, none, some 0x3, some 0x3⟩, ⟨0xF, none, some 0x5, some 0x5⟩,
    ⟨0xF, none, some 0x6, some 0x5⟩]

end Pattern

namespace Opcode

/-- Whether a word fits a pattern of the table. -/
def isListed (word : Opcode) : Bool := Pattern.table.any (·.fits word)

theorem toNat_byte (word : Opcode) : word.byte.toNat = 16 * word.y + word.low := by
  simp only [byte, y, low, UInt8.toNat_ofNat']
  omega

theorem val_address (word : Opcode) :
    word.address.val = 256 * word.x + 16 * word.y + word.low := by
  simp only [address, x, y, low]
  omega

end Opcode

/-! ## The families that look at more digits -/

theorem Combination.isSome_ofSelector? (digit : Digit) :
    (ofSelector? digit).isSome =
      [0x0, 0x1, 0x2, 0x3, 0x4, 0x5, 0x6, 0x7, 0xE].any (· == digit.val) := by
  revert digit
  decide

namespace Instruction

open Opcode Pattern

variable {word : Opcode}

/-- Only the rows of its own family can list a word. -/
theorem isListed_of_family {family : Nat} (is : word.family.val = family) :
    word.isListed = (table.filter (·.family == family)).any fun row =>
      row.x.all (· == word.x.val) && row.y.all (· == word.y.val) &&
        row.low.all (· == word.low.val) := by
  rw [isListed, List.any_filter]
  simp only [fits, is, Bool.and_assoc]

theorem isSome_ofSystem? (is : word.family.val = 0x0) :
    (ofSystem? word).isSome = word.isListed := by
  have digits := word.val_address
  rw [ofSystem?, isListed_of_family is]
  simp only [table, List.filter, Nat.reduceBEq, List.any_cons, List.any_nil, Option.all_some]
  split <;> grind

theorem isSome_ofCombination? (is : word.family.val = 0x8) :
    (ofCombination? word).isSome = word.isListed := by
  have read : (ofCombination? word).isSome = (Combination.ofSelector? word.low).isSome := by
    rw [ofCombination?]
    split <;> simp [*]
  rw [read, Combination.isSome_ofSelector?, isListed_of_family is]
  rfl

theorem isSome_ofKeyTest? (is : word.family.val = 0xE) :
    (ofKeyTest? word).isSome = word.isListed := by
  have digits := word.toNat_byte
  rw [ofKeyTest?, isListed_of_family is]
  simp only [table, List.filter, Nat.reduceBEq, List.any_cons, List.any_nil, Option.all_some,
    Option.all_none]
  split <;> grind

theorem isSome_ofTransfer? (is : word.family.val = 0xF) :
    (ofTransfer? word).isSome = word.isListed := by
  have digits := word.toNat_byte
  rw [ofTransfer?, isListed_of_family is]
  simp only [table, List.filter, Nat.reduceBEq, List.any_cons, List.any_nil, Option.all_some,
    Option.all_none]
  split <;> grind

/-! ## The table -/

/-- The table lists exactly the words that stand for an instruction. -/
theorem isSome_ofOpcode? (word : Opcode) : (ofOpcode? word).isSome = word.isListed := by
  rw [ofOpcode?]
  split
  case h_1 is => exact isSome_ofSystem? is
  case h_6 is | h_10 is =>
    have zero : word.low = .of 0 ↔ word.low.val = 0 := Fin.ext_iff
    rw [isListed_of_family is]
    simp only [table, List.filter, Nat.reduceBEq, List.any_cons, List.any_nil, Option.all_some,
      Option.all_none]
    split <;> grind
  case h_9 is => exact isSome_ofCombination? is
  case h_15 is => exact isSome_ofKeyTest? is
  case h_16 is => exact isSome_ofTransfer? is
  case h_17 => grind
  -- The other families take every operand.
  all_goals exact (isListed_of_family ‹_›).symm

theorem decode_eq_ok_iff_toOpcode {word : Opcode} {instruction : Instruction} :
    decode word = .ok instruction ↔ instruction.toOpcode = word := by
  rw [decode_eq_ok_iff, ofOpcode?_eq_some_iff]

theorem exists_decode_eq_ok_iff {word : Opcode} :
    (∃ instruction, decode word = .ok instruction) ↔ word.isListed := by
  simp only [decode_eq_ok_iff, ← isSome_ofOpcode?, Option.isSome_iff_exists]

theorem decode_eq_unknownOpcode_iff {word : Opcode} :
    decode word = .error (.fault (.unknownOpcode word)) ↔ ¬ word.isListed := by
  rw [← isSome_ofOpcode?, decode]
  cases ofOpcode? word <;> simp [Attempt.refuse]

end Instruction

/-- The words of the table are decoded, and every other word is refused by its name. What a word
stands for is written back as that word, and what is written for an instruction, whose last digit
is the one that the operation fixes if it fixes one, stands for that instruction. -/
theorem decode_inverts_toOpcode :
    (∀ word : Opcode,
      ((∃ instruction, Instruction.decode word = .ok instruction) ↔ word.isListed) ∧
        (Instruction.decode word = .error (.fault (.unknownOpcode word)) ↔ ¬ word.isListed)) ∧
    ∀ (word : Opcode) (instruction : Instruction),
      Instruction.decode word = .ok instruction ↔ instruction.toOpcode = word :=
  ⟨fun _ => ⟨Instruction.exists_decode_eq_ok_iff, Instruction.decode_eq_unknownOpcode_iff⟩,
    fun _ _ => Instruction.decode_eq_ok_iff_toOpcode⟩

/-- Words that come close to the table. -/
example :
    [0x0000, 0x0123, 0x00E1, 0x5121, 0x8008, 0x800F, 0x9121, 0xE19F, 0xF000, 0xF166, 0xFFFF].all
      fun word => !Opcode.isListed word := by
  decide

end Chip8

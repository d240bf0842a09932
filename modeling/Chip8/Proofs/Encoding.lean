import Chip8.Instruction
import Mathlib.Tactic.Common

/-!
# The instruction table

An opcode is made of its fields, and an instruction is read off exactly the opcode that stands for
it. So the opcodes of the instructions are the table of the words that can be executed.
-/

namespace Chip8

/-! ## Fields -/

namespace Opcode

theorem ofBytes_highByte_byte (opcode : Opcode) : ofBytes opcode.highByte opcode.byte = opcode := by
  have bound := opcode.toNat_lt
  simp only [ofBytes, highByte, byte, ← UInt16.toNat_inj, UInt16.toNat_ofNat', UInt8.toNat_ofNat']
  omega

theorem highByte_ofBytes (high low : UInt8) : (ofBytes high low).highByte = high := by
  have highBound := high.toNat_lt
  have lowBound := low.toNat_lt
  simp only [ofBytes, highByte, ← UInt8.toNat_inj, UInt16.toNat_ofNat', UInt8.toNat_ofNat']
  omega

theorem byte_ofBytes (high low : UInt8) : (ofBytes high low).byte = low := by
  have highBound := high.toNat_lt
  have lowBound := low.toNat_lt
  simp only [ofBytes, byte, ← UInt8.toNat_inj, UInt16.toNat_ofNat', UInt8.toNat_ofNat']
  omega

variable {opcode : Opcode} {family : Digit}

theorem ofDigits_of_family (is : opcode.family.val = family.val) {low : Digit}
    (ends : opcode.low.val = low.val) : ofDigits family opcode.x opcode.y low = opcode := by
  have bound := opcode.toNat_lt
  rw [← Fin.ext is, ← Fin.ext ends]
  simp only [ofDigits, Opcode.family, x, y, Opcode.low, ← UInt16.toNat_inj, UInt16.toNat_ofNat']
  omega

theorem ofByte_of_family (is : opcode.family.val = family.val) {byte : UInt8}
    (ends : opcode.byte.toNat = byte.toNat) : ofByte family opcode.x byte = opcode := by
  have bound := opcode.toNat_lt
  rw [← Fin.ext is, ← UInt8.toNat_inj.mp ends]
  simp only [ofByte, Opcode.family, x, Opcode.byte, ← UInt16.toNat_inj, UInt16.toNat_ofNat',
    UInt8.toNat_ofNat']
  omega

theorem ofAddress_of_family (is : opcode.family.val = family.val) :
    ofAddress family opcode.address = opcode := by
  have bound := opcode.toNat_lt
  rw [← Fin.ext is]
  simp only [ofAddress, Opcode.family, address, ← UInt16.toNat_inj, UInt16.toNat_ofNat']
  omega

end Opcode

/-! ## Instructions -/

namespace Instruction

/-- A word that ends in the selector of a combination is read as that combination. -/
theorem ofCombination?_of_low {opcode : Opcode} {combination : Combination}
    (ends : opcode.low = combination.selector) :
    ofCombination? opcode = some (combine combination opcode.x opcode.y ⟨opcode.low, ends⟩) := by
  have selected : Combination.ofSelector? opcode.low = some combination := by
    rw [ends, Combination.ofSelector?_selector]
  rw [ofCombination?]
  split
  case h_1 found =>
    cases found.symm.trans selected
    rfl
  case h_2 none => cases none.symm.trans selected

theorem ofOpcode?_toOpcode (instruction : Instruction) :
    ofOpcode? instruction.toOpcode = some instruction := by
  cases instruction with
  | combine combination x y n =>
      obtain ⟨n, rfl⟩ := n
      have read := ofCombination?_of_low
        (Opcode.low_ofDigits (.of 0x8) x y combination.selector)
      simp only [Opcode.x_ofDigits, Opcode.y_ofDigits, Opcode.low_ofDigits] at read
      rw [toOpcode, ofOpcode?, Opcode.family_ofDigits]
      exact read
  | skipIfSame x y n | skipUnlessSame x y n =>
      obtain ⟨n, rfl⟩ := n
      simp [toOpcode, ofOpcode?]
      rfl
  | _ =>
      simp [toOpcode, ofOpcode?, ofSystem?, ofKeyTest?, ofTransfer?]
      rfl

theorem toOpcode_of_ofCombination? {opcode : Opcode} {instruction : Instruction}
    (is : opcode.family.val = 8) (found : ofCombination? opcode = some instruction) :
    instruction.toOpcode = opcode := by
  rw [ofCombination?] at found
  split at found
  case h_1 =>
    cases found
    exact Opcode.ofDigits_of_family is rfl
  case h_2 => cases found

theorem toOpcode_of_ofSystem? {opcode : Opcode} {instruction : Instruction}
    (is : opcode.family.val = 0) (found : ofSystem? opcode = some instruction) :
    instruction.toOpcode = opcode := by
  have whole : Opcode.ofAddress (.of 0) opcode.address = opcode := Opcode.ofAddress_of_family is
  rw [ofSystem?] at found
  split at found
  case h_1 names =>
    cases found
    rw [← whole, (Fin.ext names : opcode.address = 0x0E0)]
    rfl
  case h_2 names =>
    cases found
    rw [← whole, (Fin.ext names : opcode.address = 0x0EE)]
    rfl
  case h_3 => cases found

theorem toOpcode_of_ofKeyTest? {opcode : Opcode} {instruction : Instruction}
    (is : opcode.family.val = 0xE) (found : ofKeyTest? opcode = some instruction) :
    instruction.toOpcode = opcode := by
  rw [ofKeyTest?] at found
  split at found
  case h_3 => cases found
  all_goals
    cases found
    exact Opcode.ofByte_of_family is ‹_›

theorem toOpcode_of_ofTransfer? {opcode : Opcode} {instruction : Instruction}
    (is : opcode.family.val = 0xF) (found : ofTransfer? opcode = some instruction) :
    instruction.toOpcode = opcode := by
  rw [ofTransfer?] at found
  split at found
  case h_10 => cases found
  all_goals
    cases found
    exact Opcode.ofByte_of_family is ‹_›

theorem toOpcode_of_ofOpcode? {opcode : Opcode} {instruction : Instruction}
    (found : ofOpcode? opcode = some instruction) : instruction.toOpcode = opcode := by
  rw [ofOpcode?] at found
  split at found
  case h_1 is => exact toOpcode_of_ofSystem? is found
  case h_2 is | h_3 is | h_11 is | h_12 is =>
    cases found
    exact Opcode.ofAddress_of_family is
  case h_4 is | h_5 is | h_7 is | h_8 is | h_13 is =>
    cases found
    exact Opcode.ofByte_of_family is rfl
  case h_6 is | h_10 is =>
    split at found
    case isTrue zero =>
      cases found
      exact Opcode.ofDigits_of_family is rfl
    case isFalse => cases found
  case h_9 is => exact toOpcode_of_ofCombination? is found
  case h_14 is =>
    cases found
    exact Opcode.ofDigits_of_family is rfl
  case h_15 is => exact toOpcode_of_ofKeyTest? is found
  case h_16 is => exact toOpcode_of_ofTransfer? is found
  case h_17 => cases found

theorem ofOpcode?_eq_some_iff {opcode : Opcode} {instruction : Instruction} :
    ofOpcode? opcode = some instruction ↔ instruction.toOpcode = opcode := by
  constructor
  · exact toOpcode_of_ofOpcode?
  · rintro rfl
    exact ofOpcode?_toOpcode instruction

theorem ofOpcode?_eq_none_iff {opcode : Opcode} :
    ofOpcode? opcode = none ↔ ∀ instruction : Instruction, instruction.toOpcode ≠ opcode := by
  simp only [Option.eq_none_iff_forall_ne_some, ne_eq, ofOpcode?_eq_some_iff]

end Instruction
end Chip8

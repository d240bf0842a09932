import Chip8.Instruction.Text
import Chip8.Proofs.OpcodeTable
import Mathlib.Algebra.Group.Nat.Defs
import Mathlib.Tactic.Common

/-!
# Reading assembly text

Assembly text can be read back. A line falls into words at its blanks and commas, the mnemonic and
the operands. A word shows by its shape what kind of operand it is, and a numeral stands for the
number that was written. The mnemonic and the operands then tell the instruction, although several
instructions share a mnemonic. So no two instructions have the same text.
-/

namespace Chip8

/-! ## Numerals -/

namespace Hex

/-- The digit that a character stands for. -/
def digit? (character : Char) : Option Digit :=
  (List.finRange 16).find? fun digit => Hex.character digit == character

/-- The number that a numeral stands for. -/
def number? (numeral : List Char) : Option Nat :=
  numeral.foldlM (fun value character => (digit? character).map fun digit => 16 * value + digit) 0

theorem digit?_character (digit : Digit) : digit? (character digit) = some digit := by
  revert digit
  decide

theorem number?_lowDigits (count value : Nat) :
    number? (lowDigits count value) = some (value % 16 ^ count) := by
  induction count generalizing value with
  | zero => simp [number?, lowDigits, Nat.mod_one]
  | succ count induction =>
      unfold number? at induction ⊢
      have last : (Digit.of value).val = value % 16 := rfl
      have parts : value % 16 ^ (count + 1) = 16 * (value / 16 % 16 ^ count) + value % 16 := by
        rw [Nat.pow_succ', Nat.mod_mul]
        omega
      rw [lowDigits, List.foldlM_append, induction, parts]
      simp [digit?_character, last]

theorem exists_digit_of_mem_lowDigits {count value : Nat} {c : Char}
    (member : c ∈ lowDigits count value) : ∃ digit, c = character digit := by
  induction count generalizing value with
  | zero => cases member
  | succ count induction =>
      rcases List.mem_append.mp member with earlier | last
      · exact induction earlier
      · exact ⟨_, List.mem_singleton.mp last⟩

/-- A value below a power of sixteen needs no more digits than the exponent. -/
theorem digitCount_le {width value : Nat} (positive : 0 < width) (fits : value < 16 ^ width) :
    digitCount value ≤ width := by
  have bits : value.log2 < 4 * width := by
    by_cases zero : value = 0
    · simp [zero, positive]
    · rw [Nat.log2_lt zero, Nat.pow_mul]
      exact fits
  rw [digitCount]
  omega

theorem toList_padded {width value : Nat} (positive : 0 < width) (fits : value < 16 ^ width) :
    (padded width value).toList = lowDigits width value := by
  rw [padded_eq (digitCount_le positive fits), String.toList_ofList]

theorem toList_marked {width value : Nat} (positive : 0 < width) (fits : value < 16 ^ width) :
    (marked width value).toList = '0' :: 'x' :: lowDigits width value := by
  rw [marked, String.toList_append, toList_padded positive fits]
  rfl

end Hex

namespace Assembly

/-! ## Words -/

/-- Whether a character stands between words. -/
def isBreak (c : Char) : Bool := c == ' ' || c == ','

/-- The words of a line, from left to right. -/
def words (line : List Char) : List (List Char) :=
  (line.splitOnP isBreak).filter fun word => !word.isEmpty

/-- Some characters, and no break among them. -/
def IsWord (word : List Char) : Prop := word ≠ [] ∧ ∀ c ∈ word, isBreak c = false

-- Of the two ways to decide the second part, this one looks at the characters of the word only.
instance (word : List Char) : Decidable (IsWord word) :=
  @instDecidableAnd _ _ inferInstance (List.decidableBAll _ word)

theorem isBreak_character (digit : Digit) : isBreak (Hex.character digit) = false := by
  revert digit
  decide

theorem words_of_isWord {word : List Char} (is : IsWord word) : words word = [word] := by
  rw [words, List.splitOnP_eq_singleton is.2]
  simp [is.1]

theorem words_cons_break {c : Char} (breaks : isBreak c = true) (rest : List Char) :
    words (c :: rest) = words rest := by
  have split := List.splitOnP_append_cons [] rest breaks
  rw [words, ← List.nil_append (c :: rest), split, List.filter_append]
  rfl

/-- A break ends a word. -/
theorem words_append_break {word : List Char} (is : IsWord word) {c : Char}
    (breaks : isBreak c = true) (rest : List Char) :
    words (word ++ c :: rest) = word :: words rest := by
  rw [words, List.splitOnP_append_cons_of_forall_mem is.2 c breaks]
  simp [is.1, words]

theorem words_intercalate {operands : List (List Char)}
    (are : ∀ operand ∈ operands, IsWord operand) :
    words ([',', ' '].intercalate operands) = operands := by
  induction operands with
  | nil => rfl
  | cons operand rest induction =>
      obtain ⟨first, others⟩ := List.forall_mem_cons.mp are
      cases rest with
      | nil =>
          rw [List.intercalate_singleton]
          exact words_of_isWord first
      | cons next rest =>
          rw [List.intercalate_cons_cons, List.append_assoc, List.cons_append,
            words_append_break first rfl, List.cons_append, words_cons_break rfl]
          exact congrArg _ (induction others)

/-- The words of a line are its mnemonic and its operands. -/
theorem words_line {mnemonic : String} {operands : List String} (is : IsWord mnemonic.toList)
    (are : ∀ operand ∈ operands, IsWord operand.toList) :
    words (Instruction.line mnemonic operands).toList =
      mnemonic.toList :: operands.map String.toList := by
  have split : (Instruction.line mnemonic operands).toList =
      mnemonic.toList ++ ' ' :: [',', ' '].intercalate (operands.map String.toList) := by
    simp [Instruction.line]
  rw [split, words_append_break is rfl, words_intercalate (List.forall_mem_map.mpr are)]

/-! ## Operands -/

/-- What instructions name beside registers and numbers. -/
inductive Special where
  | index
  | delay
  | sound
  | key
  | glyph
  | decimal
  | atIndex
  deriving DecidableEq

/-- How it is written. -/
def Special.text : Special → String
  | index => "I"
  | delay => "DT"
  | sound => "ST"
  | key => "K"
  | glyph => "F"
  | decimal => "B"
  | atIndex => "[I]"

/-- An operand. -/
inductive Operand where
  | register (x : Register)
  | byte (value : UInt8)
  | address (value : Address)
  | height (rows : Digit)
  | special (name : Special)
  deriving DecidableEq

namespace Operand

/-- The text of an operand. -/
def text : Operand → String
  | register x => Instruction.registerText x
  | byte value => Instruction.byteText value
  | address value => Instruction.addressText value
  | height rows => toString rows.val
  | special name => name.text

/-- The operands without a hexadecimal numeral, of which there are few. -/
def plain : List Operand :=
  (List.finRange 16).map height ++
    [.index, .delay, .sound, .key, .glyph, .decimal, .atIndex].map special

/-- The operand that a word stands for. -/
def ofWord? (word : List Char) : Option Operand :=
  match word with
  | 'V' :: numeral => (Hex.number? numeral).map fun x => register (.of x)
  | ['0', 'x', high, low] => (Hex.number? [high, low]).map fun value => byte (UInt8.ofNat value)
  | '0' :: 'x' :: numeral => (Hex.number? numeral).map fun value => address (Fin.ofNat 4096 value)
  | _ => plain.find? fun operand => operand.text.toList == word

theorem toList_register (x : Register) : (register x).text.toList = 'V' :: Hex.lowDigits 1 x := by
  rw [text, Instruction.registerText, String.toList_append, Hex.toList_padded Nat.one_pos x.isLt]
  rfl

theorem toList_byte (value : UInt8) :
    (byte value).text.toList = '0' :: 'x' :: Hex.lowDigits 2 value.toNat :=
  Hex.toList_marked Nat.two_pos value.toNat_lt

theorem toList_address (value : Address) :
    (address value).text.toList = '0' :: 'x' :: Hex.lowDigits 3 value :=
  Hex.toList_marked (Nat.succ_pos 2) value.isLt

theorem ofWord?_text (operand : Operand) : ofWord? operand.text.toList = some operand := by
  cases operand with
  | register x =>
      have digit : Digit.of (x % 16 ^ 1) = x := Fin.ext (by simp [Digit.of])
      rw [toList_register, ofWord?, Hex.number?_lowDigits, Option.map_some, digit]
  | byte value =>
      have number : value.toNat % 16 ^ 2 = value.toNat := Nat.mod_eq_of_lt value.toNat_lt
      rw [toList_byte]
      change (Hex.number? (Hex.lowDigits 2 value.toNat)).map _ = _
      rw [Hex.number?_lowDigits, Option.map_some, number, UInt8.ofNat_toNat]
  | address value =>
      have number : Fin.ofNat 4096 (value % 16 ^ 3) = value := Fin.ext (by simp)
      rw [toList_address]
      change (Hex.number? (Hex.lowDigits 3 value)).map _ = _
      rw [Hex.number?_lowDigits, Option.map_some, number]
  | height rows =>
      revert rows
      decide
  | special name => cases name <;> decide

theorem isWord_text (operand : Operand) : IsWord operand.text.toList := by
  have numeral {count value : Nat} : ∀ c ∈ Hex.lowDigits count value, isBreak c = false := by
    intro c member
    obtain ⟨digit, rfl⟩ := Hex.exists_digit_of_mem_lowDigits member
    exact isBreak_character digit
  cases operand with
  | register x =>
      rw [toList_register]
      exact ⟨List.cons_ne_nil _ _, List.forall_mem_cons.mpr ⟨rfl, numeral⟩⟩
  | byte value =>
      rw [toList_byte]
      exact ⟨List.cons_ne_nil _ _,
        List.forall_mem_cons.mpr ⟨rfl, List.forall_mem_cons.mpr ⟨rfl, numeral⟩⟩⟩
  | address value =>
      rw [toList_address]
      exact ⟨List.cons_ne_nil _ _,
        List.forall_mem_cons.mpr ⟨rfl, List.forall_mem_cons.mpr ⟨rfl, numeral⟩⟩⟩
  | height rows =>
      revert rows
      decide
  | special name => cases name <;> decide

end Operand
end Assembly

namespace Instruction

open Assembly

/-- The mnemonic of an instruction. -/
def mnemonic : Instruction → String
  | clear => "CLS"
  | ret => "RET"
  | jump _ | jumpPlus _ => "JP"
  | call _ => "CALL"
  | skipIfEqual .. | skipIfSame .. => "SE"
  | skipUnlessEqual .. | skipUnlessSame .. => "SNE"
  | add .. | addIndex _ => "ADD"
  | combine combination _ _ _ => combination.mnemonic
  | random .. => "RND"
  | draw .. => "DRW"
  | skipIfPressed _ => "SKP"
  | skipUnlessPressed _ => "SKNP"
  | load .. | setIndex _ | readDelay _ | awaitKey _ | setDelay _ | setSound _ | glyph _ | decimal _
  | store _ | restore _ => "LD"

/-- The operands of an instruction. -/
def operands : Instruction → List Operand
  | clear | ret => []
  | jump target | call target => [.address target]
  | skipIfEqual x byte | skipUnlessEqual x byte => [.register x, .byte byte]
  | skipIfSame x y _ | skipUnlessSame x y _ => [.register x, .register y]
  | load x byte | add x byte => [.register x, .byte byte]
  | combine _ x y _ => [.register x, .register y]
  | setIndex target => [.special .index, .address target]
  | jumpPlus target => [.register (.of 0), .address target]
  | random x mask => [.register x, .byte mask]
  | draw x y height => [.register x, .register y, .height height]
  | skipIfPressed x | skipUnlessPressed x => [.register x]
  | readDelay x => [.register x, .special .delay]
  | awaitKey x => [.register x, .special .key]
  | setDelay x => [.special .delay, .register x]
  | setSound x => [.special .sound, .register x]
  | addIndex x => [.special .index, .register x]
  | glyph x => [.special .glyph, .register x]
  | decimal x => [.special .decimal, .register x]
  | store x => [.special .atIndex, .register x]
  | restore x => [.register x, .special .atIndex]

/-- The instruction with a mnemonic and operands. -/
def ofOperands? (mnemonic : String) (operands : List Operand) : Option Instruction :=
  match mnemonic, operands with
  | "CLS", [] => some clear
  | "RET", [] => some ret
  | "JP", [.address target] => some (jump target)
  | "JP", [.register _, .address target] => some (jumpPlus target)
  | "CALL", [.address target] => some (call target)
  | "SE", [.register x, .byte byte] => some (skipIfEqual x byte)
  | "SE", [.register x, .register y] => some (skipIfSame x y ⟨_, rfl⟩)
  | "SNE", [.register x, .byte byte] => some (skipUnlessEqual x byte)
  | "SNE", [.register x, .register y] => some (skipUnlessSame x y ⟨_, rfl⟩)
  | "ADD", [.register x, .byte byte] => some (add x byte)
  | "ADD", [.register x, .register y] => some (combine .add x y ⟨_, rfl⟩)
  | "ADD", [.special .index, .register x] => some (addIndex x)
  | "OR", [.register x, .register y] => some (combine .or x y ⟨_, rfl⟩)
  | "AND", [.register x, .register y] => some (combine .and x y ⟨_, rfl⟩)
  | "XOR", [.register x, .register y] => some (combine .xor x y ⟨_, rfl⟩)
  | "SUB", [.register x, .register y] => some (combine .sub x y ⟨_, rfl⟩)
  | "SHR", [.register x, .register y] => some (combine .shiftRight x y ⟨_, rfl⟩)
  | "SUBN", [.register x, .register y] => some (combine .subBelow x y ⟨_, rfl⟩)
  | "SHL", [.register x, .register y] => some (combine .shiftLeft x y ⟨_, rfl⟩)
  | "RND", [.register x, .byte mask] => some (random x mask)
  | "DRW", [.register x, .register y, .height height] => some (draw x y height)
  | "SKP", [.register x] => some (skipIfPressed x)
  | "SKNP", [.register x] => some (skipUnlessPressed x)
  | "LD", [.register x, .byte byte] => some (load x byte)
  | "LD", [.register x, .register y] => some (combine .copy x y ⟨_, rfl⟩)
  | "LD", [.register x, .special .delay] => some (readDelay x)
  | "LD", [.register x, .special .key] => some (awaitKey x)
  | "LD", [.register x, .special .atIndex] => some (restore x)
  | "LD", [.special .index, .address target] => some (setIndex target)
  | "LD", [.special .delay, .register x] => some (setDelay x)
  | "LD", [.special .sound, .register x] => some (setSound x)
  | "LD", [.special .glyph, .register x] => some (glyph x)
  | "LD", [.special .decimal, .register x] => some (decimal x)
  | "LD", [.special .atIndex, .register x] => some (store x)
  | _, _ => none

theorem ofOperands?_operands (instruction : Instruction) :
    ofOperands? instruction.mnemonic instruction.operands = some instruction := by
  cases instruction with
  | combine combination x y n =>
      obtain ⟨n, rfl⟩ := n
      cases combination <;> rfl
  | skipIfSame x y n | skipUnlessSame x y n =>
      obtain ⟨n, rfl⟩ := n
      rfl
  | _ => rfl

theorem isWord_mnemonic (instruction : Instruction) : IsWord instruction.mnemonic.toList := by
  cases instruction with
  | combine combination x y n =>
      rw [mnemonic]
      cases combination <;> decide
  | _ =>
      rw [mnemonic]
      decide

/-- The text of an instruction is made of its mnemonic and its operands, if it has any. -/
theorem text_eq (instruction : Instruction) :
    instruction.text =
      if instruction.operands = [] then instruction.mnemonic
      else line instruction.mnemonic (instruction.operands.map Operand.text) := by
  cases instruction <;> rfl

theorem words_text (instruction : Instruction) :
    words instruction.text.toList =
      instruction.mnemonic.toList ::
        instruction.operands.map fun operand => operand.text.toList := by
  have is := instruction.isWord_mnemonic
  rw [text_eq]
  split
  case isTrue none =>
    rw [none]
    exact words_of_isWord is
  case isFalse some =>
    have are : ∀ operand ∈ instruction.operands.map Operand.text, IsWord operand.toList :=
      List.forall_mem_map.mpr fun operand _ => operand.isWord_text
    rw [words_line is are, List.map_map]
    rfl

/-- The instruction that a text stands for. -/
def ofText? (text : String) : Option Instruction :=
  match words text.toList with
  | [] => none
  | mnemonic :: operands => do
      let operands ← operands.mapM Operand.ofWord?
      ofOperands? (String.ofList mnemonic) operands

theorem mapM_ofWord?_text (operands : List Operand) :
    (operands.map fun operand => operand.text.toList).mapM Operand.ofWord? = some operands := by
  induction operands with
  | nil => rfl
  | cons operand rest induction =>
      rw [List.map_cons, List.mapM_cons, Operand.ofWord?_text, induction]
      rfl

/-- The text of an instruction stands for that instruction. -/
theorem ofText?_text (instruction : Instruction) : ofText? instruction.text = some instruction := by
  rw [ofText?, words_text]
  change ((instruction.operands.map _).mapM Operand.ofWord?).bind _ = _
  rw [mapM_ofWord?_text, Option.bind_some, String.ofList_toList]
  exact ofOperands?_operands instruction

theorem text_inj {first second : Instruction} (same : first.text = second.text) :
    first = second := by
  have read := ofText?_text first
  rw [same, ofText?_text] at read
  exact (Option.some.inj read).symm

end Instruction

/-- The text of an instruction tells the word that it was decoded from. -/
theorem opcode_eq_of_text_eq {first second : Opcode} {a b : Instruction}
    (firstDecoded : Instruction.decode first = .ok a)
    (secondDecoded : Instruction.decode second = .ok b) (same : a.text = b.text) :
    first = second := by
  rw [Instruction.decode_eq_ok_iff_toOpcode] at firstDecoded secondDecoded
  rw [← firstDecoded, ← secondDecoded, Instruction.text_inj same]

/-- `LD VA, V1` is the text of the word that copies the second register to the eleventh. -/
theorem opcode_of_copy_text :
    Instruction.decode 0x8A10 = .ok (.combine .copy 10 1 ⟨0, rfl⟩) ∧
      (Instruction.combine .copy 10 1 ⟨0, rfl⟩).text = "LD VA, V1" ∧
      (Instruction.combine .copy 10 1 ⟨0, rfl⟩).toOpcode = 0x8A10 := by
  have decoded : Instruction.decode 0x8A10 = .ok (.combine .copy 10 1 ⟨0, rfl⟩) := by decide
  exact ⟨decoded, by decide,
    opcode_eq_of_text_eq (Instruction.decode_eq_ok_iff_toOpcode.mpr rfl) decoded rfl⟩

end Chip8

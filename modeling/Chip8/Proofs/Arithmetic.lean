import Chip8.Proofs.Refusals
import Mathlib.Data.Nat.Bitwise
import Mathlib.Tactic.Common

/-!
# Arithmetic

What combining two registers comes to as numbers. A value and its flag together lose nothing of the
exact sum, half or double, and the flags of the two subtractions together tell how the operands
compare. Both operands are read before anything is written, and the flag is written before the
value. So if `VF` is an operand its old value counts, and if it is the register combined into, the
value is what stays there.
-/

namespace Chip8

/-! ## Bytes as numbers -/

namespace Combination

theorem toNat_add_carry (first second : UInt8) :
    256 * (decide (256 ≤ first.toNat + second.toNat)).toNat + (first + second).toNat =
      first.toNat + second.toNat := by
  have := first.toNat_lt
  have := second.toNat_lt
  rw [UInt8.toNat_add]
  by_cases carries : 256 ≤ first.toNat + second.toNat
  · rw [decide_eq_true carries, Bool.toNat_true]
    omega
  · rw [decide_eq_false carries, Bool.toNat_false]
    omega

theorem toNat_sub_borrow (first second : UInt8) :
    ((first - second).toNat : Int) =
      first.toNat - second.toNat + 256 * if first.toNat < second.toNat then 1 else 0 := by
  have := first.toNat_lt
  have := second.toNat_lt
  rw [UInt8.toNat_sub]
  split <;> omega

theorem toNat_decide_lt (first second : UInt8) :
    (decide (first < second)).toNat = if first.toNat < second.toNat then 1 else 0 :=
  (Bool.cond_decide _ 1 0).trans (if_congr UInt8.lt_iff_toNat_lt rfl rfl)

theorem toNat_shiftRight_one (byte : UInt8) : (byte >>> 1).toNat = byte.toNat / 2 := by
  rw [UInt8.toNat_shiftRight]
  exact Nat.shiftRight_eq_div_pow byte.toNat 1

theorem toNat_shiftLeft_one (byte : UInt8) : (byte <<< 1).toNat = 2 * byte.toNat % 256 := by
  rw [UInt8.toNat_shiftLeft, Nat.mul_comm]
  exact congrArg (· % 256) (Nat.shiftLeft_eq byte.toNat 1)

/-- A mask with a single bit tests that bit. -/
theorem toNat_masked (byte mask : UInt8) (place : Nat)
    (single : mask.toNat = 2 ^ place) :
    (byte &&& mask != 0).toNat = byte.toNat / 2 ^ place % 2 := by
  have masked : (byte &&& mask).toNat = (byte.toNat.testBit place).toNat * 2 ^ place := by
    rw [UInt8.toNat_and, single, Nat.and_two_pow]
  have tests : (byte &&& mask != 0) = byte.toNat.testBit place := by
    rw [Bool.eq_iff_iff, bne_iff_ne, ne_eq, ← UInt8.toNat_inj, masked]
    cases byte.toNat.testBit place <;> simp
  rw [tests, Nat.toNat_testBit]

end Combination

/-! ## Combined registers -/

namespace Machine

variable {machine : Machine} {combination : Combination} {x y : Register}

theorem get_combine_self (machine : Machine) (combination : Combination) (x y : Register) :
    (machine.combine combination x y).registers.get x =
      (combination.apply (machine.registers.get x) (machine.registers.get y)).1 :=
  Registers.get_set_self _ _ _

theorem get_combine_of_ne (combination : Combination) {z : Register} (other : z ≠ x)
    (notFlag : z ≠ Registers.flagRegister) :
    (machine.combine combination x y).registers.get z = machine.registers.get z := by
  rw [combine]
  refine (Registers.get_set_of_ne _ _ other).trans ?_
  split
  · exact Registers.get_set_of_ne _ _ notFlag
  · rfl

/-- The flag stays unless the value is written over it. -/
theorem toNat_flag_combine {value : UInt8} {raised : Bool}
    (applied : combination.apply (machine.registers.get x) (machine.registers.get y) =
      (value, some raised))
    (other : x ≠ Registers.flagRegister) :
    (machine.combine combination x y).registers.flag.toNat = raised.toNat := by
  have flagged : (machine.combine combination x y).registers.flag = if raised then 1 else 0 := by
    rw [combine, applied]
    exact (Registers.get_set_of_ne _ _ other.symm).trans (Registers.get_set_self _ _ _)
  rw [flagged]
  cases raised <;> rfl

theorem combine_jumpTo (machine : Machine) (combination : Combination) (x y : Register)
    (pc : UInt16) :
    (machine.jumpTo pc).combine combination x y = (machine.combine combination x y).jumpTo pc := by
  cases combination <;> rfl

theorem toNat_get_combine_sub (machine : Machine) (x y : Register) :
    (((machine.combine .sub x y).registers.get x).toNat : Int) =
      (machine.registers.get x).toNat - (machine.registers.get y).toNat +
        256 *
          if (machine.registers.get x).toNat < (machine.registers.get y).toNat then 1 else 0 := by
  rw [get_combine_self]
  exact Combination.toNat_sub_borrow _ _

theorem get_combine_subBelow (machine : Machine) (x y : Register) :
    (machine.combine .subBelow x y).registers.get x =
      (machine.combine .sub x y).registers.get x := by
  rw [get_combine_self, get_combine_self]
  rfl

section

variable (machine) (y) (other : x ≠ Registers.flagRegister)
include other

theorem combine_add_exact :
    256 * (machine.combine .add x y).registers.flag.toNat +
        ((machine.combine .add x y).registers.get x).toNat =
      (machine.registers.get x).toNat + (machine.registers.get y).toNat := by
  rw [toNat_flag_combine rfl other, get_combine_self]
  exact Combination.toNat_add_carry _ _

theorem toNat_flag_combine_sub :
    (machine.combine .sub x y).registers.flag.toNat =
      if (machine.registers.get y).toNat < (machine.registers.get x).toNat then 1 else 0 := by
  rw [toNat_flag_combine rfl other]
  exact Combination.toNat_decide_lt _ _

theorem toNat_flag_combine_subBelow :
    (machine.combine .subBelow x y).registers.flag.toNat =
      if (machine.registers.get x).toNat < (machine.registers.get y).toNat then 1 else 0 := by
  rw [toNat_flag_combine rfl other]
  exact Combination.toNat_decide_lt _ _

theorem combine_shiftRight_exact :
    2 * ((machine.combine .shiftRight x y).registers.get x).toNat +
          (machine.combine .shiftRight x y).registers.flag.toNat =
        (machine.registers.get x).toNat ∧
      (machine.combine .shiftRight x y).registers.flag.toNat ≤ 1 := by
  have half := Combination.toNat_shiftRight_one (machine.registers.get x)
  have bit := Combination.toNat_masked (machine.registers.get x) 1 0 rfl
  rw [toNat_flag_combine rfl other, get_combine_self, bit]
  change 2 * (machine.registers.get x >>> 1).toNat + _ = _ ∧ _
  omega

theorem combine_shiftLeft_exact :
    256 * (machine.combine .shiftLeft x y).registers.flag.toNat +
        ((machine.combine .shiftLeft x y).registers.get x).toNat =
      2 * (machine.registers.get x).toNat := by
  have small := (machine.registers.get x).toNat_lt
  have double := Combination.toNat_shiftLeft_one (machine.registers.get x)
  have bit := Combination.toNat_masked (machine.registers.get x) 0x80 7 rfl
  rw [toNat_flag_combine rfl other, get_combine_self, bit]
  change _ + (machine.registers.get x <<< 1).toNat = _
  omega

end

end Machine

/-- The arithmetic of the combinations, `a` and `b` being what the two registers held. Unless the
first one is `VF`, value and flag obey the integer laws of the sum, of the two differences and of
the two shifts. If it is `VF`, the value of the same laws is what stays there. The second register
may be any, `VF` and the first one included; one that is neither of these keeps its value. In a
running machine that faces the word of a combination, a cycle does all this and goes on behind the
word. -/
theorem arithmetic_is_exact (machine : Machine) (pressed : Option Key) (x y : Register) :
    let a := (machine.registers.get x).toNat
    let b := (machine.registers.get y).toNat
    let after (combination : Combination) : Registers :=
      ((Instruction.combine combination x y ⟨combination.selector, rfl⟩).execute pressed
        machine).2.registers
    let value (combination : Combination) : Nat := ((after combination).get x).toNat
    let flag (combination : Combination) : Nat := (after combination).flag.toNat
    (x ≠ Registers.flagRegister →
      256 * flag .add + value .add = a + b ∧
      (value .sub : Int) = a - b + 256 * (if a < b then 1 else 0) ∧
      flag .sub = (if b < a then 1 else 0) ∧
      value .subBelow = value .sub ∧
      flag .subBelow = (if a < b then 1 else 0) ∧
      (flag .sub = 0 ∧ flag .subBelow = 0 ↔ a = b) ∧
      ¬ (flag .sub = 1 ∧ flag .subBelow = 1) ∧
      (2 * value .shiftRight + flag .shiftRight = a ∧ flag .shiftRight ≤ 1) ∧
      256 * flag .shiftLeft + value .shiftLeft = 2 * a) ∧
    (x = Registers.flagRegister →
      flag .add = (a + b) % 256 ∧
      (flag .sub : Int) = a - b + 256 * (if a < b then 1 else 0) ∧
      flag .subBelow = flag .sub ∧
      flag .shiftRight = a / 2 ∧
      flag .shiftLeft = 2 * a % 256) ∧
    (y = Registers.flagRegister → b = machine.registers.flag.toNat) ∧
    (y ≠ x → y ≠ Registers.flagRegister → ∀ combination,
      (after combination).get y = machine.registers.get y) ∧
    ∀ combination : Combination,
      let word := Opcode.ofDigits (.of 8) x y combination.selector
      machine.awaiting = none → machine.Faces word →
        machine.cycle pressed = (.ok (.executed word),
          { machine with registers :=
            { after combination with pc := machine.registers.pc + 2 } }) := by
  intro a b after value flag
  have difference : (value .sub : Int) = a - b + 256 * (if a < b then 1 else 0) :=
    machine.toNat_get_combine_sub x y
  have sameDifference : value .subBelow = value .sub :=
    congrArg UInt8.toNat (machine.get_combine_subBelow x y)
  refine ⟨?_, ?_, ?_, ?_, ?_⟩
  · intro other
    have above : flag .sub = if b < a then 1 else 0 := machine.toNat_flag_combine_sub y other
    have below : flag .subBelow = if a < b then 1 else 0 :=
      machine.toNat_flag_combine_subBelow y other
    refine ⟨machine.combine_add_exact y other, difference, above, sameDifference, below, ?_, ?_,
      machine.combine_shiftRight_exact y other, machine.combine_shiftLeft_exact y other⟩
    · rw [above, below]
      split <;> split <;> omega
    · rw [above, below]
      split <;> split <;> omega
  · rintro rfl
    have valued (combination : Combination) :=
      machine.get_combine_self combination Registers.flagRegister y
    refine ⟨?_, difference, sameDifference, ?_, ?_⟩
    · exact (congrArg UInt8.toNat (valued .add)).trans (UInt8.toNat_add _ _)
    · exact (congrArg UInt8.toNat (valued .shiftRight)).trans (Combination.toNat_shiftRight_one _)
    · exact (congrArg UInt8.toNat (valued .shiftLeft)).trans (Combination.toNat_shiftLeft_one _)
  · rintro rfl
    rfl
  · intro other notFlag combination
    exact Machine.get_combine_of_ne combination other notFlag
  · intro combination word running faces
    have facing : machine.Faces
        (Instruction.combine combination x y ⟨combination.selector, rfl⟩).toOpcode := faces
    rw [Machine.cycle_of_faces running facing rfl pressed]
    exact congrArg (Prod.mk _) (machine.combine_jumpTo combination x y _)

/-- `ADD V1, VF` adds the 200 that are in `VF` before the carry is put there. In the same machine
`SUB VF, V1` would leave the difference there. -/
theorem flag_operand_counts_as_before :
    let machine : Machine :=
      { Machine.powerOn ⟨Vector.replicate 8 0, 0⟩ with
        memory := Memory.initial.put 0x200 [0x81, 0xF4]
        registers := (Registers.initial.set Registers.flagRegister 200).set (.of 1) 100 }
    let after := (machine.cycle none).2.registers
    let subtracted :=
      (Instruction.combine .sub Registers.flagRegister (.of 1) ⟨.of 5, rfl⟩).execute none machine
    machine.Faces (.ofDigits (.of 8) (.of 1) Registers.flagRegister Combination.add.selector) ∧
      (machine.cycle none).1 = .ok (.executed 0x81F4) ∧
      (after.get (.of 1)).toNat = 44 ∧ after.flag.toNat = 1 ∧ after.pc = 0x202 ∧
      subtracted.2.registers.flag.toNat = 100 := by
  intro machine after subtracted
  have facts : machine.Faces
        (.ofDigits (.of 8) (.of 1) Registers.flagRegister Combination.add.selector) ∧
      (machine.registers.get (.of 1)).toNat = 100 ∧
      (machine.registers.get Registers.flagRegister).toNat = 200 := by decide +kernel
  obtain ⟨faces, addend, flagged⟩ := facts
  obtain ⟨laws, -, -, -, cycles⟩ :=
    arithmetic_is_exact machine none (.of 1) Registers.flagRegister
  obtain ⟨-, kept, -⟩ := arithmetic_is_exact machine none Registers.flagRegister (.of 1)
  have executed := cycles .add rfl faces
  have sum : 256 * after.flag.toNat + (after.get (.of 1)).toNat = 100 + 200 := by
    have total := (laws (by decide)).1
    rw [addend, flagged] at total
    rw [show after = _ from congrArg (·.2.registers) executed]
    exact total
  have small := (after.get (.of 1)).toNat_lt
  have difference := (kept rfl).2.1
  rw [addend, flagged] at difference
  refine ⟨faces, congrArg Prod.fst executed, by omega, by omega, ?_, ?_⟩
  · exact congrArg (·.2.registers.pc) executed
  · change ((subtracted.2.registers.flag.toNat : Nat) : Int) = _ at difference
    omega

end Chip8

import Chip8.Fault

/-!
# Registers

Sixteen general purpose bytes `V0` to `VF`, of which `VF` doubles as the flag, the index register,
the program counter, the stack pointer and two timers.
-/

namespace Chip8

structure Registers where
  v : Vector UInt8 16
  /-- The address that memory operations start from. -/
  index : UInt16
  pc : UInt16
  /-- The number of the topmost occupied slot of the call stack. -/
  sp : UInt8
  delay : UInt8
  sound : UInt8
  deriving DecidableEq

namespace Registers

def initial : Registers where
  v := Vector.replicate 16 0
  index := 0
  pc := 0x200
  sp := 0
  delay := 0
  sound := 0

/-- The register that receives flags. -/
def flagRegister : Register := .of 0xF

/-- The register that offsets jumps. -/
def offsetRegister : Register := .of 0x0

def get (registers : Registers) (x : Register) : UInt8 := registers.v[x]

def set (registers : Registers) (x : Register) (value : UInt8) : Registers :=
  { registers with v := registers.v.set x value }

@[simp]
theorem get_set_self (registers : Registers) (x : Register) (value : UInt8) :
    (registers.set x value).get x = value := by
  simp [get, set]

theorem get_set_of_ne (registers : Registers) {x other : Register} (value : UInt8)
    (distinct : other ≠ x) : (registers.set x value).get other = registers.get other := by
  have apart : x.val ≠ other.val := fun same => distinct (Fin.ext same.symm)
  simp [get, set, Vector.getElem_set_ne _ _ apart]

def flag (registers : Registers) : UInt8 := registers.get flagRegister

/-- Put one or zero into the flag register. -/
def setFlag (registers : Registers) (raised : Bool) : Registers :=
  registers.set flagRegister (if raised then 1 else 0)

/-- The values of `V0` up to and including `VX`. -/
def upTo (registers : Registers) (x : Register) : List UInt8 :=
  registers.v.toList.take (x + 1)

/-- Put values into the registers from number `start` on, as far as there are registers. -/
def putFrom (registers : Registers) (start : Nat) : List UInt8 → Registers
  | [] => registers
  | value :: rest =>
      putFrom { registers with v := registers.v.setIfInBounds start value } (start + 1) rest

/-- What a register holds after values were put from a number on. -/
theorem get_putFrom (registers : Registers) (start : Nat) (values : List UInt8) (x : Register) :
    (registers.putFrom start values).get x =
      if start ≤ x ∧ x < start + values.length then values.getD (x - start) 0
      else registers.get x := by
  induction values generalizing registers start with
  | nil => grind [putFrom]
  | cons value rest induction =>
      rw [putFrom, induction]
      simp only [get, Fin.getElem_fin, Vector.getElem_setIfInBounds]
      grind

/-- Putting values changes nothing but the general purpose registers. -/
theorem putFrom_eq (registers : Registers) (start : Nat) (values : List UInt8) :
    registers.putFrom start values =
      { registers with v := (registers.putFrom start values).v } := by
  induction values generalizing registers start with
  | nil => rfl
  | cons value rest induction => rw [putFrom, induction]

theorem v_putFrom_congr {first second : Registers} (same : first.v = second.v) (start : Nat)
    (values : List UInt8) : (first.putFrom start values).v = (second.putFrom start values).v := by
  induction values generalizing first second start with
  | nil => exact same
  | cons value rest induction =>
      apply induction
      rw [same]

@[simp]
theorem length_upTo (registers : Registers) (x : Register) :
    (registers.upTo x).length = x + 1 := by
  simp only [upTo, List.length_take, Vector.length_toList]
  omega

theorem getElem?_upTo (registers : Registers) {x y : Register} (within : y ≤ x) :
    (registers.upTo x)[y.val]? = some (registers.get y) := by
  have inside : y.val < x.val + 1 := Nat.lt_succ_of_le within
  simp [upTo, get, inside]

/-- Put values into `V0` and its successors. More values than registers are meaningless. -/
def fill (registers : Registers) (values : List UInt8) : Attempt Registers :=
  if values.length ≤ 16 then .ok (registers.putFrom 0 values) else .error .abort

theorem fill_of_le {registers : Registers} {values : List UInt8} (fits : values.length ≤ 16) :
    registers.fill values = .ok (registers.putFrom 0 values) := if_pos fits

/-- Count a timer down by one. It stays at zero. -/
def countDown (timer : UInt8) : UInt8 := UInt8.ofNat (timer.toNat - 1)

@[simp]
theorem toNat_countDown (timer : UInt8) : (countDown timer).toNat = timer.toNat - 1 := by
  have := timer.toNat_lt
  simp only [countDown, UInt8.toNat_ofNat']
  omega

def decay (registers : Registers) : Registers :=
  { registers with delay := countDown registers.delay, sound := countDown registers.sound }

end Registers
end Chip8

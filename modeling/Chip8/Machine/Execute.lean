import Chip8.Machine

/-!
# Executing instructions

The effect of each instruction on a machine whose program counter already points behind it. An
instruction changes the machine step by step and may stop at any of its checks; the machine that it
leaves behind then is returned beside the failure. The pressed key is an argument, since a program
asks for it at most once per instruction.
-/

namespace Chip8

/-! ## Arithmetic -/

namespace Combination

/-- The value for `VX` and, where there is one, the flag. -/
def apply : Combination → UInt8 → UInt8 → UInt8 × Option Bool
  | copy, _, second => (second, none)
  | or, first, second => (first ||| second, none)
  | and, first, second => (first &&& second, none)
  | xor, first, second => (first ^^^ second, none)
  | add, first, second => (first + second, some (decide (256 ≤ first.toNat + second.toNat)))
  | sub, first, second => (first - second, some (decide (second < first)))
  | shiftRight, first, _ => (first >>> 1, some (first &&& 1 != 0))
  | subBelow, first, second => (first - second, some (decide (first < second)))
  | shiftLeft, first, _ => (first <<< 1, some (first &&& 0x80 != 0))

end Combination

namespace Machine

/-! ## Registers -/

/-- Combine two registers into the first. The flag is written before the value, so the value stays
if `VF` is the register combined into. -/
def combine (machine : Machine) (combination : Combination) (x y : Register) : Machine :=
  let (value, flag) := combination.apply (machine.registers.get x) (machine.registers.get y)
  let flagged :=
    match flag with
    | some raised => machine.registers.setFlag raised
    | none => machine.registers
  { machine with registers := flagged.set x value }

/-- Put a masked random byte into a register. -/
def loadRandom (machine : Machine) (x : Register) (mask : UInt8) : Machine :=
  machine.dropRandomByte.setRegister x (machine.randomByte &&& mask)

/-- Point the index register to the glyph of a digit. -/
def pointToGlyph (machine : Machine) (value : UInt8) : Attempt Unit × Machine :=
  Attempt.proceed machine (Attempt.word (Font.address value)) fun index =>
    (.ok (), machine.setIndex index)

theorem pointToGlyph_eq (machine : Machine) (value : UInt8) :
    machine.pointToGlyph value =
      (.ok (), machine.setIndex (UInt16.ofNat (Font.address value))) := by
  have := value.toNat_lt
  rw [pointToGlyph, Attempt.word_of_lt (by simp only [Font.address, Font.glyphHeight]; omega)]
  rfl

/-! ## Calls and jumps -/

/-- Continue a number of bytes behind an address. -/
def jumpPlus (machine : Machine) (target : Address) (offset : UInt8) : Attempt Unit × Machine :=
  Attempt.proceed machine (Attempt.word (target + offset.toNat)) fun pc =>
    (.ok (), machine.jumpTo pc)

theorem jumpPlus_eq (machine : Machine) (target : Address) (offset : UInt8) :
    machine.jumpPlus target offset =
      (.ok (), machine.jumpTo (UInt16.ofNat (target + offset.toNat))) := by
  have := offset.toNat_lt
  rw [jumpPlus, Attempt.word_of_lt (by omega)]
  rfl

/-- Push the program counter and continue at an address. Beyond the last slot of the stack the
pushed address is lost. -/
def call (machine : Machine) (target : Address) : Machine :=
  let sp := machine.registers.sp + 1
  { machine with
    stack := machine.stack.write sp machine.registers.pc
    registers := { machine.registers with sp, pc := UInt16.ofNat target } }

/-- Continue at the address on top of the stack and take it off. -/
def ret (machine : Machine) : Attempt Unit × Machine :=
  Attempt.proceed machine (machine.readStack machine.registers.sp) fun pc =>
    (.ok (), { machine with
      registers := { machine.registers with pc, sp := machine.registers.sp - 1 } })

theorem ret_of_read {machine : Machine} {pc : UInt16}
    (read : machine.stack.read? machine.registers.sp = some pc) :
    machine.ret =
      (.ok (), { machine with
        registers := { machine.registers with pc, sp := machine.registers.sp - 1 } }) := by
  rw [ret, readStack_eq_ok_iff.mpr read, Attempt.proceed_ok]

/-- Whether the pressed key is the one that a register names. A value above fifteen names none. -/
def namesPressed (machine : Machine) (x : Register) (pressed : Option Key) : Bool :=
  pressed.any fun key => key.val == (machine.registers.get x).toNat

/-! ## Display -/

/-- Draw the sprite at the index register onto the picture, flagging whether a lit pixel was turned
off. -/
def draw (machine : Machine) (x y : Register) (height : Nat) : Attempt Unit × Machine :=
  let bytes := machine.memory.readRange machine.registers.index.toNat height
  Attempt.proceed machine bytes fun sprite =>
    let (picture, collision) :=
      machine.picture.flip (machine.registers.get x).toNat (machine.registers.get y).toNat sprite
    (.ok (), { machine with picture, registers := machine.registers.setFlag collision })

/-! ## Keys and memory -/

/-- Put the pressed key into a register, or wait for one. -/
def awaitKey (machine : Machine) (x : Register) (pressed : Option Key) : Machine :=
  match pressed with
  | some key => machine.setRegister x (UInt8.ofNat key)
  | none => { machine with awaiting := some x }

/-- Write bytes at the index register. -/
def storeAtIndex (machine : Machine) (data : List UInt8) : Attempt Unit × Machine :=
  machine.withMemory (machine.memory.writeRange machine.registers.index.toNat data)

theorem storeAtIndex_eq (machine : Machine) (data : List UInt8) :
    machine.storeAtIndex data =
      Attempt.proceed machine (Memory.checkRange machine.registers.index.toNat data.length)
        fun _ =>
          (.ok (), { machine with
            memory := machine.memory.put machine.registers.index.toNat data }) := by
  rw [storeAtIndex, Memory.writeRange_eq]
  cases Memory.checkRange machine.registers.index.toNat data.length <;> rfl

theorem storeAtIndex_of_le (machine : Machine) {data : List UInt8}
    (inside : machine.registers.index.toNat + data.length ≤ Memory.size) :
    machine.storeAtIndex data =
      (.ok (), { machine with
        memory := machine.memory.put machine.registers.index.toNat data }) := by
  rw [storeAtIndex_eq, Memory.checkRange_eq_ok_iff.mpr inside, Attempt.proceed_ok]

/-- Restore the registers up to one from the index register on. -/
def restore (machine : Machine) (x : Register) : Attempt Unit × Machine :=
  let bytes := machine.memory.readRange machine.registers.index.toNat (x + 1)
  Attempt.proceed machine bytes fun values =>
    Attempt.proceed machine (machine.registers.fill values) fun registers =>
      (.ok (), { machine with registers })

/-- The bytes that are restored never outnumber the registers. -/
theorem restore_eq (machine : Machine) (x : Register) :
    machine.restore x =
      Attempt.proceed machine (machine.memory.readRange machine.registers.index.toNat (x + 1))
        fun values =>
          (.ok (), { machine with registers := machine.registers.putFrom 0 values }) := by
  unfold restore
  cases found : machine.memory.readRange machine.registers.index.toNat (x + 1) with
  | error failure => rfl
  | ok values =>
      have count : values.length = x + 1 := Memory.length_of_readRange found
      have fits : values.length ≤ 16 := by omega
      rw [Attempt.proceed_ok, Attempt.proceed_ok, Registers.fill_of_le fits, Attempt.proceed_ok]

theorem restore_of_le (machine : Machine) {x : Register}
    (inside : machine.registers.index.toNat + (x + 1) ≤ Memory.size) :
    machine.restore x =
      (.ok (), { machine with
        registers := machine.registers.putFrom 0 ((List.range (x + 1)).map fun offset =>
          (machine.memory.byte? (machine.registers.index.toNat + offset)).getD 0) }) := by
  rw [restore_eq, machine.memory.readRange_of_le inside, Attempt.proceed_ok]

end Machine

namespace Registers

/-- The three decimal digits of a byte, the hundreds first. -/
def decimalDigits (value : UInt8) : List UInt8 := [value / 100, value / 10 % 10, value % 10]

@[simp]
theorem length_decimalDigits (value : UInt8) : (decimalDigits value).length = 3 := rfl

end Registers

namespace Instruction

/-- Execute an instruction while a key, or none, is pressed. -/
def execute (instruction : Instruction) (pressed : Option Key) (machine : Machine) :
    Attempt Unit × Machine :=
  let value := machine.registers.get
  match instruction with
  | clear => (.ok (), { machine with picture := .dark })
  | ret => machine.ret
  | jump target => (.ok (), machine.jumpTo (UInt16.ofNat target))
  | call target => (.ok (), machine.call target)
  | skipIfEqual x byte => (.ok (), machine.skipIf (value x == byte))
  | skipUnlessEqual x byte => (.ok (), machine.skipIf (value x != byte))
  | skipIfSame x y _ => (.ok (), machine.skipIf (value x == value y))
  | load x byte => (.ok (), machine.setRegister x byte)
  | add x byte => (.ok (), machine.setRegister x (value x + byte))
  | combine combination x y _ => (.ok (), machine.combine combination x y)
  | skipUnlessSame x y _ => (.ok (), machine.skipIf (value x != value y))
  | setIndex target => (.ok (), machine.setIndex (UInt16.ofNat target))
  | jumpPlus target => machine.jumpPlus target (value Registers.offsetRegister)
  | random x mask => (.ok (), machine.loadRandom x mask)
  | draw x y height => machine.draw x y height
  | skipIfPressed x => (.ok (), machine.skipIf (machine.namesPressed x pressed))
  | skipUnlessPressed x => (.ok (), machine.skipIf (!machine.namesPressed x pressed))
  | readDelay x => (.ok (), machine.setRegister x machine.registers.delay)
  | awaitKey x => (.ok (), machine.awaitKey x pressed)
  | setDelay x => (.ok (), machine.setDelay (value x))
  | setSound x => (.ok (), machine.setSound (value x))
  | addIndex x => (.ok (), machine.setIndex (machine.registers.index + (value x).toUInt16))
  | glyph x => machine.pointToGlyph (value x)
  | decimal x => machine.storeAtIndex (Registers.decimalDigits (value x))
  | store x => machine.storeAtIndex (machine.registers.upTo x)
  | restore x => machine.restore x

end Instruction
end Chip8

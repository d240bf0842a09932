import Chip8.Fault
import Chip8.Font

/-!
# Main memory

4096 bytes: the font at the bottom, programs and their data from `programStart` upwards. Every
access checks its whole range first, so the memory that a write leaves beside its result is the old
one if the write is refused. The range of an access may be empty; it still has to begin inside
memory or right behind it.
-/

namespace Chip8

/-- Main memory. -/
structure Memory where
  bytes : Vector UInt8 4096
  deriving DecidableEq

namespace Memory

def size : Nat := 4096

/-- The address of the first byte of a program. -/
def programStart : Nat := 0x200

/-- The number of bytes that a program can have. -/
def programCapacity : Nat := 0xE00

/-! ## Contents -/

/-- The byte at an address, if the address exists. -/
def byte? (memory : Memory) (address : Nat) : Option UInt8 := memory.bytes[address]?

/-- Put a byte at an address. Beyond the last address nothing happens. -/
def putByte (memory : Memory) (address : Nat) (byte : UInt8) : Memory :=
  ⟨memory.bytes.setIfInBounds address byte⟩

/-- Put bytes at consecutive addresses. -/
def put (memory : Memory) (start : Nat) : List UInt8 → Memory
  | [] => memory
  | byte :: rest => (memory.putByte start byte).put (start + 1) rest

/-- Memory at power-on: the font, and zeros. -/
def initial : Memory := put ⟨Vector.replicate 4096 0⟩ 0 Font.bytes

theorem byte?_putByte (memory : Memory) (address : Nat) (byte : UInt8) (other : Nat) :
    (memory.putByte address byte).byte? other =
      if address = other ∧ other < size then some byte else memory.byte? other := by
  simp only [byte?, putByte, size, Vector.getElem?_setIfInBounds]
  grind

@[simp]
theorem put_nil (memory : Memory) (start : Nat) : memory.put start [] = memory := rfl

/-- What stands in memory after a write: the new bytes in their range, the old ones elsewhere. -/
theorem byte?_put (memory : Memory) (start : Nat) (data : List UInt8) (address : Nat) :
    (memory.put start data).byte? address =
      if start ≤ address ∧ address < start + data.length ∧ address < size then
        data[address - start]?
      else
        memory.byte? address := by
  induction data generalizing memory start with
  | nil => grind [put]
  | cons byte rest induction =>
      rw [put, induction, byte?_putByte]
      grind

/-! ## Checks -/

/-- Refuse an address beyond the last one. -/
def checkAddress (address : Nat) : Attempt Unit :=
  if address < size then .ok () else .refuse (.addressOutOfRange address)

/-- Refuse a range that reaches too far by naming its last address. An empty range has none. -/
def checkLast (start length : Nat) : Attempt Unit :=
  if length = 0 then .ok () else checkAddress (start + length - 1)

/-- Whether a slice lies inside memory. There is none beyond it to take or to overwrite. -/
def checkSlice (start length : Nat) : Attempt Unit :=
  if start + length ≤ size then .ok () else .error .abort

/-- Whether a range of addresses can be accessed: its last address is checked, then the slice. -/
def checkRange (start length : Nat) : Attempt Unit := do
  checkLast start length
  checkSlice start length

theorem checkAddress_eq_ok_iff {address : Nat} :
    checkAddress address = .ok () ↔ address < size := by
  unfold checkAddress
  split <;> simp [Attempt.refuse, *]

/-- A range whose last address is not refused ends inside memory, unless it is empty. -/
theorem checkLast_eq_ok_iff {start length : Nat} :
    checkLast start length = .ok () ↔ length = 0 ∨ start + length ≤ size := by
  unfold checkLast
  split
  case isTrue empty => simp [empty]
  case isFalse nonempty =>
    rw [checkAddress_eq_ok_iff]
    omega

theorem checkSlice_eq_ok_iff {start length : Nat} :
    checkSlice start length = .ok () ↔ start + length ≤ size := by
  unfold checkSlice
  split <;> simp [*]

theorem checkRange_eq_ok_iff {start length : Nat} :
    checkRange start length = .ok () ↔ start + length ≤ size := by
  rw [checkRange, Attempt.bind_eq_ok_iff]
  constructor
  · rintro ⟨_, _, sliced⟩
    exact checkSlice_eq_ok_iff.mp sliced
  · intro inside
    exact ⟨(), checkLast_eq_ok_iff.mpr (.inr inside), checkSlice_eq_ok_iff.mpr inside⟩

/-- A range that reaches too far is refused if it has a last address, and else has no slice. -/
theorem checkRange_of_lt {start length : Nat} (beyond : size < start + length) :
    checkRange start length =
      if length = 0 then .error .abort else .refuse (.addressOutOfRange (start + length - 1)) := by
  rw [checkRange, checkLast]
  split
  case isTrue empty =>
    rw [checkSlice, if_neg (Nat.not_le.mpr beyond)]
    rfl
  case isFalse nonempty =>
    rw [checkAddress, if_neg (by omega)]
    rfl

theorem checkRange_eq_abort_iff {start length : Nat} :
    checkRange start length = .error .abort ↔ length = 0 ∧ size < start := by
  by_cases inside : start + length ≤ size
  · rw [checkRange_eq_ok_iff.mpr inside]
    simp only [reduceCtorEq, false_iff]
    omega
  · rw [checkRange_of_lt (Nat.lt_of_not_le inside)]
    split
    case isTrue empty =>
      simp only [true_iff]
      omega
    case isFalse nonempty => simp [Attempt.refuse, nonempty]

/-! ## Access -/

/-- The byte at an address. -/
def read (memory : Memory) (address : Nat) : Attempt UInt8 :=
  if inside : address < 4096 then .ok memory.bytes[address]
  else .refuse (.addressOutOfRange address)

/-- Overwrite the byte at an address. -/
def write (memory : Memory) (address : Nat) (byte : UInt8) : Attempt Unit × Memory :=
  Attempt.proceed memory (checkAddress address) fun _ => (.ok (), memory.putByte address byte)

/-- The bytes of a slice. -/
def slice (memory : Memory) (start length : Nat) : Attempt (List UInt8) :=
  (checkSlice start length).map fun _ =>
    (List.range length).map fun offset => (memory.byte? (start + offset)).getD 0

/-- Overwrite the bytes of a slice. -/
def putSlice (memory : Memory) (start : Nat) (data : List UInt8) : Attempt Unit × Memory :=
  Attempt.proceed memory (checkSlice start data.length) fun _ => (.ok (), memory.put start data)

/-- The bytes at consecutive addresses. -/
def readRange (memory : Memory) (start length : Nat) : Attempt (List UInt8) := do
  checkLast start length
  memory.slice start length

/-- Overwrite the bytes at consecutive addresses. -/
def writeRange (memory : Memory) (start : Nat) (data : List UInt8) : Attempt Unit × Memory :=
  Attempt.proceed memory (checkLast start data.length) fun _ => memory.putSlice start data

theorem readRange_eq (memory : Memory) (start length : Nat) :
    memory.readRange start length =
      (checkRange start length).map fun _ =>
        (List.range length).map fun offset => (memory.byte? (start + offset)).getD 0 := by
  rw [readRange, checkRange]
  cases checkLast start length <;> rfl

theorem writeRange_eq (memory : Memory) (start : Nat) (data : List UInt8) :
    memory.writeRange start data =
      Attempt.proceed memory (checkRange start data.length) fun _ =>
        (.ok (), memory.put start data) := by
  rw [writeRange, checkRange]
  cases checkLast start data.length <;> rfl

theorem readRange_of_le (memory : Memory) {start length : Nat} (inside : start + length ≤ size) :
    memory.readRange start length =
      .ok ((List.range length).map fun offset => (memory.byte? (start + offset)).getD 0) := by
  rw [readRange_eq, checkRange_eq_ok_iff.mpr inside]
  rfl

theorem length_of_readRange {memory : Memory} {start length : Nat} {data : List UInt8}
    (found : memory.readRange start length = .ok data) : data.length = length := by
  rw [readRange_eq] at found
  cases allowed : checkRange start length with
  | error failure => simp [allowed, Except.map] at found
  | ok =>
      rw [allowed] at found
      cases found
      rw [List.length_map, List.length_range]

theorem writeRange_of_le (memory : Memory) {start : Nat} {data : List UInt8}
    (inside : start + data.length ≤ size) :
    memory.writeRange start data = (.ok (), memory.put start data) := by
  rw [writeRange_eq, checkRange_eq_ok_iff.mpr inside]
  rfl

/-- The two bytes at an address as one word. -/
def readWord (memory : Memory) (address : Nat) : Attempt Opcode :=
  if inside : address + 1 < 4096 then
    .ok (Opcode.ofBytes memory.bytes[address] memory.bytes[address + 1])
  else .refuse (.addressOutOfRange (address + 1))

/-- A word is read as the range of its two bytes. -/
theorem readWord_eq_readRange (memory : Memory) (address : Nat) :
    memory.readWord address =
      (memory.readRange address 2).map fun bytes =>
        Opcode.ofBytes (bytes.getD 0 0) (bytes.getD 1 0) := by
  rw [readWord]
  split
  case isTrue inside =>
    have high : memory.byte? address = some memory.bytes[address] := Vector.getElem?_eq_getElem _
    have low : memory.byte? (address + 1) = some memory.bytes[address + 1] :=
      Vector.getElem?_eq_getElem _
    rw [memory.readRange_of_le inside]
    simp [Except.map, List.range_succ, high, low]
  case isFalse outside =>
    rw [readRange_eq, checkRange_of_lt (Nat.lt_of_not_le outside)]
    rfl

/-- Put a word into the two bytes at an address. -/
def writeWord (memory : Memory) (address : Nat) (word : Opcode) : Attempt Unit × Memory :=
  memory.writeRange address [word.highByte, word.byte]

/-- Put a program where programs start. Nothing is written if it does not fit. -/
def loadProgram (memory : Memory) (program : List UInt8) : Attempt Unit × Memory :=
  if program.length ≤ programCapacity then memory.writeRange programStart program
  else (.refuse (.programTooLarge program.length programCapacity), memory)

theorem loadProgram_of_le (memory : Memory) {program : List UInt8}
    (fits : program.length ≤ programCapacity) :
    memory.loadProgram program = (.ok (), memory.put programStart program) := by
  have inside : programStart + program.length ≤ size := by
    simp only [programStart, programCapacity, size] at fits ⊢
    omega
  rw [loadProgram, if_pos fits, memory.writeRange_of_le inside]

end Memory
end Chip8

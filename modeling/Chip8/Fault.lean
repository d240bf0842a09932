import Chip8.Instruction

/-!
# Faults

A fault is a cause that keeps a program from being loaded, executed or shown. It is handed to the
caller, who decides whether to go on. Beside faults there is the abort, where a request has no
answer at all and nobody can go on. `Attempt` is the result of an operation that either may stop.
-/

namespace Chip8

/-- A cause for which an operation is refused. A stack pointer is out of range if it selects no slot
of the call stack, and an output is disconnected if nobody receives it any more. -/
inductive Fault where
  | addressOutOfRange (address : Nat)
  | unknownOpcode (opcode : Opcode)
  | programTooLarge (size capacity : Nat)
  | stackOutOfRange (pointer : UInt8)
  | unreadableProgram (path reason : String)
  | outputDisconnected
  deriving DecidableEq

namespace Fault

/-- The text that tells a person about a fault. -/
def message : Fault → String
  | addressOutOfRange address =>
      "memory address " ++ Hex.marked 3 address ++ " out of range, 0x000 to 0xFFF are allowed"
  | unknownOpcode opcode => "unknown opcode " ++ Hex.marked 4 opcode.toNat
  | programTooLarge size capacity =>
      s!"program is too large ({size} bytes), at most {capacity} bytes fit into memory"
  | stackOutOfRange pointer =>
      "stack pointer " ++ Hex.marked 2 pointer.toNat ++ " is outside of the call stack"
  | unreadableProgram path reason => s!"could not read program {path}: {reason}"
  | outputDisconnected => "output sink disconnected"

end Fault

/-- Why an operation has no result: it is refused, and the caller may go on, or it is meaningless,
and nobody goes on. -/
inductive Failure where
  | fault (cause : Fault)
  | abort
  deriving DecidableEq

/-- The result of an operation that may fail. -/
abbrev Attempt (α : Type) := Except Failure α

namespace Attempt

/-- Refuse an operation. -/
def refuse {α : Type} (cause : Fault) : Attempt α := .error (.fault cause)

/-- A number as a word. A number that needs more than sixteen bits is none. -/
def word (value : Nat) : Attempt UInt16 :=
  if value < 65536 then .ok (UInt16.ofNat value) else .error .abort

theorem word_of_lt {value : Nat} (fits : value < 65536) : word value = .ok (UInt16.ofNat value) :=
  if_pos fits

/-- Go on with the value of an attempt. Without one, stop and leave the state as it stands. -/
def proceed {α β σ : Type} (state : σ) (attempt : Attempt α) (rest : α → Attempt β × σ) :
    Attempt β × σ :=
  match attempt with
  | .ok value => rest value
  | .error failure => (.error failure, state)

@[simp]
theorem proceed_ok {α β σ : Type} (state : σ) (value : α) (rest : α → Attempt β × σ) :
    proceed state (.ok value) rest = rest value := rfl

@[simp]
theorem proceed_error {α β σ : Type} (state : σ) (failure : Failure) (rest : α → Attempt β × σ) :
    proceed state (.error failure) rest = (.error failure, state) := rfl

theorem isOk_iff {α : Type} {attempt : Attempt α} :
    attempt.isOk = true ↔ ∃ value, attempt = .ok value := by
  cases attempt <;> simp [Except.isOk, Except.toBool]

theorem bind_eq_ok_iff {α β : Type} {attempt : Attempt α} {rest : α → Attempt β} {result : β} :
    attempt >>= rest = .ok result ↔ ∃ value, attempt = .ok value ∧ rest value = .ok result := by
  cases attempt <;> simp [bind, Except.bind]

theorem bind_eq_error_iff {α β : Type} {attempt : Attempt α} {rest : α → Attempt β}
    {failure : Failure} :
    attempt >>= rest = .error failure ↔
      attempt = .error failure ∨ ∃ value, attempt = .ok value ∧ rest value = .error failure := by
  cases attempt <;> simp [bind, Except.bind]

end Attempt

namespace Instruction

/-- The instruction of an opcode, or the fault that it has none. -/
def decode (opcode : Opcode) : Attempt Instruction :=
  match ofOpcode? opcode with
  | some instruction => .ok instruction
  | none => .refuse (.unknownOpcode opcode)

theorem decode_eq_ok_iff {opcode : Opcode} {instruction : Instruction} :
    decode opcode = .ok instruction ↔ ofOpcode? opcode = some instruction := by
  unfold decode
  cases ofOpcode? opcode <;> simp [Attempt.refuse]

end Instruction
end Chip8

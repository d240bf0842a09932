import Chip8.Keypad
import Chip8.Proofs.Footprint
import Mathlib.Tactic.Common

/-!
# Polls

When a machine looks at the keys. A pending key wait asks for a key in every cycle, and beside it
three instructions ask for one; every other cycle does the same whatever is pressed. Which cycles
poll is up to the run itself. But as long as two runs are told the same key wherever the first one
polls, they are in the same state in every cycle, so they also poll in the same cycles.
-/

namespace Chip8
namespace Instruction

/-- Whether an instruction looks at the pressed key. -/
def polls : Instruction → Bool
  | skipIfPressed _ | skipUnlessPressed _ | awaitKey _ => true
  | _ => false

variable {instruction : Instruction}

theorem execute_of_not_polls (deaf : instruction.polls = false) (pressed other : Option Key)
    (machine : Machine) :
    instruction.execute other machine = instruction.execute pressed machine := by
  cases instruction with
  | skipIfPressed | skipUnlessPressed | awaitKey => cases deaf
  | _ => rfl

theorem awaiting_notMem_parts (deaf : instruction.polls = false) :
    .awaiting ∉ instruction.parts := by
  rw [awaiting_mem_parts_iff]
  rintro ⟨x, rfl⟩
  cases deaf

end Instruction

namespace Machine

/-- Whether a cycle looks at the pressed key: a key wait is pending, or the cycle executes an
instruction that polls. -/
def polls (machine : Machine) (pressed : Option Key) : Bool :=
  machine.awaiting.isSome ||
    (Instruction.ofAnswer? (machine.cycle pressed).1).any Instruction.polls

variable {machine : Machine} {pressed : Option Key}

theorem polls_eq_false_iff :
    machine.polls pressed = false ↔
      machine.awaiting = none ∧
        ∀ instruction, Instruction.ofAnswer? (machine.cycle pressed).1 = some instruction →
          instruction.polls = false := by
  simp only [polls, Bool.or_eq_false_iff, Option.isSome_eq_false_iff, Option.isNone_iff_eq_none]
  cases Instruction.ofAnswer? (machine.cycle pressed).1 <;> simp

/-- A cycle that does not poll comes to the same whatever is pressed. -/
theorem cycle_of_not_polls (deaf : machine.polls pressed = false) (other : Option Key) :
    machine.cycle other = machine.cycle pressed := by
  obtain ⟨running, unpolled⟩ := polls_eq_false_iff.mp deaf
  cases machine.cycleKind pressed with
  | received waiting _ _ => exact absurd (running.symm.trans waiting) nofun
  | awaiting waiting _ _ => exact absurd (running.symm.trans waiting) nofun
  | failed _ refused result => rw [result, cycle_of_ready_error other running refused]
  | @executed opcode instruction _ found allowed result =>
      rw [result, Instruction.ofAnswer?] at unpolled
      have blind : instruction.polls = false := unpolled _ (next_eq_ok_iff.mp found).2
      rw [result, cycle_of_check_ok other running found allowed,
        Instruction.execute_of_not_polls blind pressed other]

/-- A cycle that does not poll does not begin a key wait either. -/
theorem awaiting_cycle_of_not_polls (deaf : machine.polls pressed = false) :
    (machine.cycle pressed).2.awaiting = none := by
  obtain ⟨running, unpolled⟩ := polls_eq_false_iff.mp deaf
  cases executed : Instruction.ofAnswer? (machine.cycle pressed).1 with
  | some instruction =>
      have untouched := Instruction.awaiting_notMem_parts (unpolled instruction executed)
      have kept : Part.awaiting.Agree machine.advance _ :=
        Instruction.execute_agree untouched pressed machine.advance
      rw [(cycle_of_executed executed).1]
      exact Eq.trans kept running
  | none =>
      rcases cycle_of_not_executed executed with same | ⟨x, key, ends⟩
      · rw [same, running]
      · rw [ends, receive]

/-! ## Runs of cycles -/

/-- The machine after a number of cycles, each of which finds its own key, or none, pressed. -/
def after (machine : Machine) (keys : Nat → Option Key) : Nat → Machine
  | 0 => machine
  | cycles + 1 => ((machine.after keys cycles).cycle (keys cycles)).2

/-- What the cycle with a number comes to, and the machine that it leaves. -/
def cycleAt (machine : Machine) (keys : Nat → Option Key) (n : Nat) : Attempt Outcome × Machine :=
  (machine.after keys n).cycle (keys n)

/-- Whether the cycle with a number looks at the pressed key. -/
def pollsAt (machine : Machine) (keys : Nat → Option Key) (n : Nat) : Bool :=
  (machine.after keys n).polls (keys n)

variable {keys others : Nat → Option Key} {cycles : Nat}

/-- Told the same where the first one polls, two runs stay together. -/
theorem after_eq_of_agree
    (agree : ∀ n < cycles, machine.pollsAt keys n = true → others n = keys n) {n : Nat}
    (within : n ≤ cycles) : machine.after others n = machine.after keys n := by
  induction n with
  | zero => rfl
  | succ n induction =>
      have together := induction (Nat.le_of_succ_le within)
      rw [after, after, together]
      cases polled : machine.pollsAt keys n with
      | true => rw [agree n within polled]
      | false => rw [cycle_of_not_polls polled]

theorem cycleAt_eq_of_agree
    (agree : ∀ n < cycles, machine.pollsAt keys n = true → others n = keys n) {n : Nat}
    (within : n < cycles) : machine.cycleAt others n = machine.cycleAt keys n := by
  rw [cycleAt, cycleAt, after_eq_of_agree agree (Nat.le_of_lt within)]
  cases polled : machine.pollsAt keys n with
  | true => rw [agree n within polled]
  | false => rw [cycle_of_not_polls polled]

/-- Without a key wait at the start, a run that executes no polling instruction never polls. -/
theorem pollsAt_of_unpolled (running : machine.awaiting = none)
    (unpolled : ∀ n < cycles, ∀ instruction,
      Instruction.ofAnswer? (machine.cycleAt keys n).1 = some instruction →
        instruction.polls = false) {n : Nat} (within : n < cycles) :
    machine.pollsAt keys n = false := by
  induction n with
  | zero => exact polls_eq_false_iff.mpr ⟨running, unpolled 0 within⟩
  | succ n induction =>
      have deaf := induction (Nat.lt_of_succ_lt within)
      exact polls_eq_false_iff.mpr ⟨awaiting_cycle_of_not_polls deaf, unpolled (n + 1) within⟩

end Machine

/-- Two runs of a machine from the same state, in which the keypads may be in any states but agree
on the pressed key in every cycle in which the first run polls: each cycle comes to the same in both
and leaves the same machine. In particular the keypads make no difference to a run without a key
wait at the start that executes none of the three instructions that poll. -/
theorem keys_matter_where_polled {ι : Type} (pressed : ι → Option Key) (machine : Machine)
    (first : Nat → ι) (cycles : Nat) :
    (∀ second : Nat → ι,
      (∀ n < cycles, machine.pollsAt (pressed ∘ first) n = true →
        pressed (second n) = pressed (first n)) →
      ∀ n < cycles,
        machine.cycleAt (pressed ∘ second) n = machine.cycleAt (pressed ∘ first) n) ∧
    (machine.awaiting = none →
      (∀ n < cycles, ∀ instruction,
        Instruction.ofAnswer? (machine.cycleAt (pressed ∘ first) n).1 = some instruction →
          instruction.polls = false) →
      ∀ second : Nat → ι, ∀ n < cycles,
        machine.cycleAt (pressed ∘ second) n = machine.cycleAt (pressed ∘ first) n) := by
  constructor
  · intro second agree n within
    exact Machine.cycleAt_eq_of_agree agree within
  · intro running unpolled second n within
    refine Machine.cycleAt_eq_of_agree (fun m before polled => ?_) within
    rw [Machine.pollsAt_of_unpolled running unpolled before] at polled
    cases polled

/-- `LD V1, 5`, `SKP V1`, `LD V1, 6`, `LD V2, K` polls in its second and third cycle, where key 5
leaves out a word. What is pressed before and behind makes no difference. -/
theorem keys_between_polls_make_no_difference :
    let machine : Machine :=
      { Machine.powerOn ⟨Vector.replicate 8 0, 0⟩ with
        memory := Memory.initial.put 0x200 [0x61, 0x05, 0xE1, 0x9E, 0x61, 0x06, 0xF2, 0x0A] }
    let five : Keypad := Keypad.idle.press (.of 5)
    let first : Nat → Keypad := fun n => if n = 1 ∨ n = 2 then five else .idle
    let second : Nat → Keypad := fun n => if n = 0 then five.press (.of 0xC) else five
    (∀ n < 4, machine.pollsAt (Keypad.pressed ∘ first) n = true →
      (second n).pressed = (first n).pressed) ∧
    (List.range 4).map (machine.pollsAt (Keypad.pressed ∘ first)) = [false, true, true, false] ∧
    (machine.cycleAt (Keypad.pressed ∘ second) 2).1 = .ok (.executed 0xF20A) ∧
    (machine.cycleAt (Keypad.pressed ∘ second) 3).1 = .error (.fault (.unknownOpcode 0)) := by
  intro machine five first second
  have facts : (List.range 4).map (machine.pollsAt (Keypad.pressed ∘ first)) =
        [false, true, true, false] ∧
      (∀ n < 4, machine.pollsAt (Keypad.pressed ∘ first) n = true →
        (second n).pressed = (first n).pressed) ∧
      (machine.cycleAt (Keypad.pressed ∘ first) 2).1 = .ok (.executed 0xF20A) ∧
      (machine.cycleAt (Keypad.pressed ∘ first) 3).1 = .error (.fault (.unknownOpcode 0)) := by
    decide +kernel
  obtain ⟨polled, agree, third, fourth⟩ := facts
  obtain ⟨alike, -⟩ := keys_matter_where_polled Keypad.pressed machine first 4
  refine ⟨agree, polled, ?_, ?_⟩
  · rw [alike second agree 2 (by decide), third]
  · rw [alike second agree 3 (by decide), fourth]

end Chip8

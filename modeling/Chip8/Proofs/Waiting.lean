import Chip8.Proofs.Beats
import Mathlib.Tactic.Common

/-!
# Key waits

The instruction that asks for a key finds one pressed or suspends the machine. A suspended machine
stands still but for its timers, and the key that ends the wait is put where it would have been put
at once. So having waited for a key is the same as having had it.
-/

namespace Chip8
namespace Machine

/-- The next cycle asks for a key. -/
def AtKeyWait (machine : Machine) (x : Register) : Prop :=
  machine.awaiting = none ∧ machine.fetch = .ok (Instruction.awaitKey x).toOpcode

instance (machine : Machine) (x : Register) : Decidable (machine.AtKeyWait x) :=
  inferInstanceAs (Decidable (_ ∧ _))

/-- The machine that waits for a key, its program counter behind the instruction that asked. -/
def suspended (machine : Machine) (x : Register) : Machine :=
  { machine.advance with awaiting := some x }

/-- The machine that has got the key it asked for. -/
def answered (machine : Machine) (x : Register) (key : Key) : Machine :=
  machine.advance.setRegister x (UInt8.ofNat key)

namespace AtKeyWait

variable {machine : Machine} {x : Register}

theorem decayed (asks : machine.AtKeyWait x) (ticks : Nat) :
    (machine.decayed ticks).AtKeyWait x := asks

theorem next (asks : machine.AtKeyWait x) :
    machine.next = .ok ((Instruction.awaitKey x).toOpcode, .awaitKey x) := by
  refine next_eq_ok_iff.mpr ⟨asks.2, ?_⟩
  rw [Instruction.toOpcode, Instruction.ofOpcode?, Opcode.family_ofByte]
  change Instruction.ofTransfer? _ = _
  rw [Instruction.ofTransfer?, Opcode.byte_ofByte, Opcode.x_ofByte]
  rfl

theorem cycle (asks : machine.AtKeyWait x) (pressed : Option Key) :
    machine.cycle pressed =
      (.ok (.executed (Instruction.awaitKey x).toOpcode), machine.advance.awaitKey x pressed) :=
  cycle_of_check_ok pressed asks.1 asks.next rfl

end AtKeyWait

/-! ## Waiting -/

variable {machine : Machine} {x : Register}

/-- The key that ends a wait is put where it would have been put at once. -/
theorem cycle_suspended (running : machine.awaiting = none) (ticks : Nat) (key : Key) :
    ((machine.suspended x).decayed ticks).cycle (some key) =
      (.ok (.received key), (machine.answered x key).decayed ticks) := by
  rw [cycle_of_received (x := x) rfl rfl]
  simp only [receive, suspended, answered, setRegister, advance, jumpTo, decayed, Registers.set,
    running]

/-- While no key is pressed, a suspended machine stands still but for its timers. -/
theorem play_suspended (ticks idle : Nat) {beats : List Beat}
    (silent : keys beats = List.replicate idle none) :
    ((machine.suspended x).decayed ticks).answers beats = List.replicate idle (.ok .awaiting) ∧
      ((machine.suspended x).decayed ticks).play beats =
        (machine.suspended x).decayed (ticks + decays beats) := by
  induction beats generalizing ticks idle with
  | nil =>
      cases idle with
      | zero => exact ⟨rfl, rfl⟩
      | succ idle => cases silent
  | cons beat rest induction =>
      cases beat with
      | cycle pressed =>
          cases idle with
          | zero => cases silent
          | succ idle =>
              obtain ⟨rfl, later⟩ := List.cons.inj silent
              have stays : ((machine.suspended x).decayed ticks).cycle none = (.ok .awaiting, _) :=
                cycle_of_idle rfl rfl
              obtain ⟨waits, reached⟩ := induction ticks idle later
              rw [answers, play, stays, waits, reached, decays_cons_cycle, List.replicate_succ]
              exact ⟨rfl, rfl⟩
      | decay =>
          have sum : ticks + (decays rest + 1) = ticks + 1 + decays rest := by omega
          rw [answers, play, decay_decayed, decays_cons_decay, sum]
          exact induction (ticks + 1) idle silent

/-- A machine that asks for a key while none is pressed is suspended by its first cycle. -/
theorem AtKeyWait.play (asks : machine.AtKeyWait x) {idle : Nat} {beats : List Beat}
    (silent : keys beats = List.replicate (idle + 1) none) :
    machine.answers beats =
        .ok (.executed (Instruction.awaitKey x).toOpcode) ::
          List.replicate idle (.ok .awaiting) ∧
      machine.play beats = (machine.suspended x).decayed (decays beats) := by
  have split : keys beats = [] ++ none :: List.replicate idle none := silent
  obtain ⟨before, after, rfl, first, rest⟩ := exists_split_of_keys split
  obtain ⟨quiet, early⟩ := machine.play_of_keys_eq_nil 0 first
  rw [decayed_zero, Nat.zero_add] at early
  rw [decayed_zero] at quiet
  have suspends : (machine.decayed (decays before)).cycle none =
      (_, (machine.suspended x).decayed (decays before)) :=
    (asks.decayed (decays before)).cycle none
  obtain ⟨waits, late⟩ := play_suspended (decays before) idle rest
  rw [answers_append, play_append, quiet, early, answers, Machine.play, suspends, waits, late,
    decays_append, decays_cons_cycle]
  exact ⟨rfl, rfl⟩

end Machine

/-! ## Having had the key -/

open Machine in
/-- A machine asks for a key, and only after `idle + 1` cycles that find none a cycle finds one,
with decays at any time: the first cycle executes the instruction, the next ones wait, and the last
one receives the key. The machine is then the same as if the first cycle had found the key and the
decays had come after it. From the first cycle to the last it differs from what it was in its
timers and its pending wait, and its program counter is behind the instruction. -/
theorem waiting_is_having_had {machine : Machine} {x : Register} (asks : machine.AtKeyWait x)
    (key : Key) (idle : Nat) (beats : List Beat)
    (late : keys beats = List.replicate (idle + 1) none ++ [some key]) :
    machine.answers beats =
        .ok (.executed (Instruction.awaitKey x).toOpcode) ::
          List.replicate idle (.ok .awaiting) ++ [.ok (.received key)] ∧
      machine.play beats =
        machine.play (.cycle (some key) :: List.replicate (decays beats) .decay) ∧
      ∀ earlier later, beats = earlier ++ later → keys earlier ≠ [] → keys later ≠ [] →
        machine.play earlier =
          { machine.advance with awaiting := some x }.decayed (decays earlier) := by
  have whole := late
  obtain ⟨before, after, rfl, silent, quiet⟩ := exists_split_of_keys late
  obtain ⟨waits, stands⟩ := asks.play silent
  obtain ⟨rests, ends⟩ := (machine.answered x key).play_of_keys_eq_nil (decays before) quiet
  have receives := cycle_suspended (x := x) asks.1 (decays before) key
  have had : machine.cycle (some key) = (_, machine.answered x key) := asks.cycle (some key)
  refine ⟨?_, ?_, ?_⟩
  · rw [answers_append, stands, waits, answers, receives, rests]
  · rw [play_append, stands, play, receives, ends, play, had, play_replicate_decay, decays_append,
      decays_cons_cycle]
  · intro earlier later parts begun goesOn
    have silentSoFar : keys earlier ++ (keys later).dropLast = List.replicate (idle + 1) none := by
      rw [← List.dropLast_append_of_ne_nil goesOn, ← keys_append, ← parts, whole,
        List.dropLast_concat]
    obtain ⟨-, still, -⟩ := List.append_eq_replicate_iff.mp silentSoFar
    obtain ⟨done, count⟩ := Nat.exists_eq_succ_of_ne_zero (mt List.length_eq_zero_iff.mp begun)
    rw [count] at still
    exact (asks.play still).2

/-- `LD V5, K` gets its key in the third cycle, with three decays before it and one behind: the
delay timer has run out, the sound timer has lost four. -/
theorem late_key_is_received :
    let machine : Machine :=
      { Machine.powerOn ⟨Vector.replicate 8 0, 0⟩ with
        memory := Memory.initial.put 0x200 [0xF5, 0x0A]
        registers := { Registers.initial with delay := 3, sound := 9 } }
    let beats : List Machine.Beat :=
      [.decay, .cycle none, .decay, .decay, .cycle none, .cycle (some (.of 7)), .decay]
    machine.AtKeyWait (.of 5) ∧
      Machine.keys beats = [none, none] ++ [some (.of 7)] ∧
      machine.answers beats = [.ok (.executed 0xF50A), .ok .awaiting, .ok (.received (.of 7))] ∧
      machine.play beats =
        machine.play [.cycle (some (.of 7)), .decay, .decay, .decay, .decay] ∧
      (machine.play beats).registers.get (.of 5) = 7 ∧
      (machine.play beats).registers.delay = 0 ∧ (machine.play beats).registers.sound = 5 := by
  intro machine beats
  have asks : machine.AtKeyWait (.of 5) := by decide +kernel
  have late : Machine.keys beats = [none, none] ++ [some (.of 7)] := rfl
  obtain ⟨came, same, -⟩ := waiting_is_having_had asks (.of 7) 1 beats late
  have holds : (machine.play [.cycle (some (.of 7)), .decay, .decay, .decay, .decay]).registers =
      { machine.registers with
        v := machine.registers.v.set 5 7, pc := 0x202, delay := 0, sound := 5 } := by
    decide +kernel
  replace holds := (congrArg Machine.registers same).trans holds
  refine ⟨asks, late, came, same, ?_, ?_, ?_⟩
  all_goals rw [holds]
  rfl

end Chip8

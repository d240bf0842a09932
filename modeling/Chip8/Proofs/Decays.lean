import Chip8.Proofs.Beats
import Mathlib.Tactic.Common

/-!
# Decays

Where the timers are counted down between the cycles of a run makes no difference, as long as no
cycle executes one of the three instructions that read or set a timer. Any other cycle does the same
to a machine whose timers were counted down a number of times before, and leaves them counted down
as often. So of the decays in a run only their number tells.
-/

namespace Chip8
namespace Instruction

/-- Whether an instruction reads or sets a timer. -/
def usesTimer : Instruction → Bool
  | readDelay _ | setDelay _ | setSound _ => true
  | _ => false

variable {instruction : Instruction}

theorem delay_notMem_parts (timeless : instruction.usesTimer = false) :
    .delay ∉ instruction.parts := by
  rw [delay_mem_parts_iff]
  rintro ⟨x, rfl⟩
  cases timeless

theorem sound_notMem_parts (timeless : instruction.usesTimer = false) :
    .sound ∉ instruction.parts := by
  rw [sound_mem_parts_iff]
  rintro ⟨x, rfl⟩
  cases timeless

end Instruction

namespace Machine

/-- Whether a cycle has read or set a timer, going by what it came to. -/
def usesTimer (answer : Attempt Outcome) : Bool :=
  (Instruction.ofAnswer? answer).any Instruction.usesTimer

theorem usesTimer_eq_false_iff {answer : Attempt Outcome} :
    usesTimer answer = false ↔
      ∀ instruction, Instruction.ofAnswer? answer = some instruction →
        instruction.usesTimer = false := by
  rw [usesTimer]
  cases Instruction.ofAnswer? answer <;> simp

variable {machine : Machine} {pressed : Option Key}

/-- A cycle that uses no timer leaves both as they were. -/
theorem timers_cycle (timeless : usesTimer (machine.cycle pressed).1 = false) :
    (machine.cycle pressed).2.registers.delay = machine.registers.delay ∧
      (machine.cycle pressed).2.registers.sound = machine.registers.sound := by
  have unused := usesTimer_eq_false_iff.mp timeless
  have delayKept : Part.delay.Agree machine (machine.cycle pressed).2 :=
    cycle_agree nofun fun instruction executed =>
      Instruction.delay_notMem_parts (unused instruction executed)
  have soundKept : Part.sound.Agree machine (machine.cycle pressed).2 :=
    cycle_agree nofun fun instruction executed =>
      Instruction.sound_notMem_parts (unused instruction executed)
  exact ⟨delayKept, soundKept⟩

theorem sameButTimers_decayed (machine : Machine) (ticks : Nat) :
    machine.SameButTimers (machine.decayed ticks) := ⟨_, _, rfl⟩

theorem answer_decayed (machine : Machine) (ticks : Nat) (pressed : Option Key) :
    ((machine.decayed ticks).cycle pressed).1 = (machine.cycle pressed).1 :=
  (cycle_sameButTimers (machine.sameButTimers_decayed ticks) pressed).1

/-- A cycle that uses no timer takes decays over as it finds them. -/
theorem cycle_decayed (timeless : usesTimer (machine.cycle pressed).1 = false) (ticks : Nat) :
    (machine.decayed ticks).cycle pressed =
      ((machine.cycle pressed).1, (machine.cycle pressed).2.decayed ticks) := by
  have answer := machine.answer_decayed ticks pressed
  have timelessToo : usesTimer ((machine.decayed ticks).cycle pressed).1 = false := by
    rw [answer]
    exact timeless
  have blind : ∀ x, Instruction.ofAnswer? (machine.cycle pressed).1 ≠ some (.readDelay x) :=
    fun x executed => absurd (usesTimer_eq_false_iff.mp timeless _ executed) nofun
  obtain ⟨delay, sound, reached⟩ :=
    (cycle_sameButTimers (machine.sameButTimers_decayed ticks) pressed).2 blind
  -- Both cycles keep the timers, so what the timers differ by is kept as well.
  obtain ⟨delayKept, soundKept⟩ := timers_cycle timeless
  obtain ⟨delayKeptToo, soundKeptToo⟩ := timers_cycle timelessToo
  rw [reached] at delayKeptToo soundKeptToo
  refine Prod.ext answer (reached.trans ?_)
  rw [decayed, delayKept, soundKept]
  exact congrArg₂ (machine.cycle pressed).2.withTimers delayKeptToo soundKeptToo

/-! ## Runs -/

/-- Runs with the same keys in which no timer is used get the same answers, and the machines behind
them differ by the numbers of their decays. -/
theorem play_of_timeless {first second : List Beat} (sameKeys : keys second = keys first)
    (ticks others : Nat)
    (timeless : ∀ answer ∈ (machine.decayed ticks).answers first, usesTimer answer = false) :
    (machine.decayed others).answers second = (machine.decayed ticks).answers first ∧
      ∃ after : Machine, (machine.decayed ticks).play first = after.decayed (ticks + decays first) ∧
        (machine.decayed others).play second = after.decayed (others + decays second) := by
  induction first generalizing machine second ticks others with
  | nil =>
      obtain ⟨silent, reached⟩ := machine.play_of_keys_eq_nil others sameKeys
      exact ⟨silent, machine, rfl, reached⟩
  | cons beat rest induction =>
      cases beat with
      | cycle pressed =>
          -- The other run makes this cycle after some decays.
          have split : keys second = [] ++ pressed :: keys rest := sameKeys
          obtain ⟨before, after, rfl, idle, remaining⟩ := exists_split_of_keys split
          obtain ⟨silent, reached⟩ := machine.play_of_keys_eq_nil others idle
          obtain ⟨here, later⟩ := List.forall_mem_cons.mp timeless
          rw [answer_decayed] at here
          have cycles := cycle_decayed here ticks
          have cyclesToo := cycle_decayed here (others + decays before)
          rw [cycles] at later
          obtain ⟨alike, last, ends, endsToo⟩ :=
            induction remaining ticks (others + decays before) later
          rw [answers_append, play_append, silent, reached, answers, answers, play, play, cycles,
            cyclesToo, decays_append, decays_cons_cycle, decays_cons_cycle, ← Nat.add_assoc,
            List.nil_append]
          exact ⟨congrArg (List.cons _) alike, last, ends, endsToo⟩
      | decay =>
          rw [answers, decay_decayed] at timeless
          obtain ⟨alike, last, ends, endsToo⟩ := induction sameKeys (ticks + 1) others timeless
          rw [answers, play, decay_decayed, decays_cons_decay, Nat.add_comm (decays rest),
            ← Nat.add_assoc]
          exact ⟨alike, last, ends, endsToo⟩

end Machine

/-- A decay of the timers before a cycle is the same as one behind it, unless the cycle reads or
sets a timer: the cycle comes to the same, and the machine is left in the same state. So in a run
whose cycles use no timer, it makes no difference where between the cycles the timers decay, as long
as they decay equally often. -/
theorem decays_commute_with_cycles (machine : Machine) :
    (∀ pressed, Machine.usesTimer (machine.cycle pressed).1 = false →
      machine.decay.cycle pressed =
        ((machine.cycle pressed).1, (machine.cycle pressed).2.decay)) ∧
    ∀ first second : List Machine.Beat, Machine.keys second = Machine.keys first →
      Machine.decays second = Machine.decays first →
      (∀ answer ∈ machine.answers first, Machine.usesTimer answer = false) →
      machine.answers second = machine.answers first ∧
        machine.play second = machine.play first := by
  constructor
  · intro pressed timeless
    have once (state : Machine) : state.decay = state.decayed 1 := by
      rw [← state.decay_decayed 0, Machine.decayed_zero]
    rw [once, once, Machine.cycle_decayed timeless]
  · intro first second sameKeys sameDecays timeless
    rw [← machine.decayed_zero] at timeless
    obtain ⟨alike, after, ends, endsToo⟩ := Machine.play_of_timeless sameKeys 0 0 timeless
    rw [Machine.decayed_zero] at alike ends endsToo
    exact ⟨alike, by rw [ends, endsToo, sameDecays]⟩

/-- `LD V0, 5`, `LD V1, K` and a word that is no instruction, with both timers running. Decays that
come all at once and decays before, in and behind the key wait end alike, one timer at zero. -/
theorem decays_around_key_wait_end_alike :
    let machine : Machine :=
      { Machine.powerOn ⟨Vector.replicate 8 0, 0⟩ with
        memory := Memory.initial.put 0x200 [0x60, 0x05, 0xF1, 0x0A]
        registers := { Registers.initial with delay := 7, sound := 2 } }
    let key : Option Key := some (.of 9)
    let first : List Machine.Beat :=
      [.decay, .decay, .decay, .cycle none, .cycle none, .cycle none, .cycle key, .cycle none]
    let second : List Machine.Beat :=
      [.cycle none, .decay, .cycle none, .cycle none, .decay, .cycle key, .cycle none, .decay]
    machine.decay.cycle none = ((machine.cycle none).1, (machine.cycle none).2.decay) ∧
      machine.answers first =
        [.ok (.executed 0x6005), .ok (.executed 0xF10A), .ok .awaiting, .ok (.received (.of 9)),
          .error (.fault (.unknownOpcode 0))] ∧
      machine.answers second = machine.answers first ∧
      machine.play second = machine.play first ∧
      (machine.play first).registers.delay = 4 ∧ (machine.play first).registers.sound = 0 := by
  intro machine key first second
  have facts : machine.answers first =
        [.ok (.executed 0x6005), .ok (.executed 0xF10A), .ok .awaiting, .ok (.received (.of 9)),
          .error (.fault (.unknownOpcode 0))] ∧
      Machine.usesTimer (machine.cycle none).1 = false ∧
      (∀ answer ∈ machine.answers first, Machine.usesTimer answer = false) ∧
      (machine.play first).registers.delay = 4 ∧ (machine.play first).registers.sound = 0 := by
    decide +kernel
  obtain ⟨answered, timeless, timelessRun, delayed, silent⟩ := facts
  obtain ⟨commutes, anywhere⟩ := decays_commute_with_cycles machine
  obtain ⟨alike, together⟩ := anywhere first second rfl rfl timelessRun
  exact ⟨commutes none timeless, answered, alike, together, delayed, silent⟩

end Chip8

import Chip8.Proofs.Host
import Chip8.Proofs.Timers
import Mathlib.Tactic.Common

/-!
# Failed cycles

A cycle that fails leaves no trace. Neither the keys nor the timers decide whether an instruction
can be executed, so a host that only runs cycles, lets the timers decay and handles keys gets the
same failure from every later cycle, and the machine changes in nothing but its timers.
-/

namespace Chip8

/-! ## Runs of a host -/

namespace Host

/-- Once the next instruction cannot be executed, playing on repeats the failure with every cycle
and only lets the timers decay. -/
theorem run_of_refused {machine : Machine} {failure : Failure} (running : machine.awaiting = none)
    (refused : machine.ready = .error failure) (keypad : Keypad) (ticks : Nat)
    (actions : List Action) (played : ∀ action ∈ actions, action.plays) :
    answers ⟨machine.decayed ticks, keypad⟩ actions =
        List.replicate (actions.count .cycle) (.error failure) ∧
      (run ⟨machine.decayed ticks, keypad⟩ actions).machine =
        machine.decayed (ticks + actions.count .decay) := by
  induction actions generalizing keypad ticks with
  | nil => exact ⟨rfl, rfl⟩
  | cons action rest induction =>
      obtain ⟨first, still⟩ := List.forall_mem_cons.mp played
      cases action with
      | cycle =>
          have fails : (machine.decayed ticks).cycle keypad.pressed =
              (.error failure, machine.decayed ticks) :=
            Machine.cycle_of_ready_error _ running ((machine.ready_decayed ticks).trans refused)
          obtain ⟨answered, reached⟩ := induction keypad ticks still
          rw [answers, run, answer, act, fails, answered, reached]
          simp [List.replicate_succ]
      | decay =>
          obtain ⟨answered, reached⟩ := induction keypad (ticks + 1) still
          rw [answers_cons_of_ne (by simp), run, act, Machine.decay_decayed, answered, reached]
          simp [Nat.add_comm, Nat.add_left_comm]
      | key event =>
          obtain ⟨answered, reached⟩ := induction (keypad.handle event) ticks still
          rw [answers_cons_of_ne (by simp), run, act, answered, reached]
          simp
      | _ => cases first

end Host

/-- A cycle that fails leaves the machine as it was. However a host then plays on, each of its
cycles fails with the same fault, and only the timers decay. -/
theorem failed_cycle_repeats (machine : Machine) (pressed : Option Key) (cause : Fault)
    (failed : (machine.cycle pressed).1 = .error (.fault cause)) :
    (machine.cycle pressed).2 = machine ∧
      ∀ (keypad : Keypad) (actions : List Host.Action), (∀ action ∈ actions, action.plays) →
        let host : Host := ⟨(machine.cycle pressed).2, keypad⟩
        host.answers actions = List.replicate (actions.count .cycle) (.error (.fault cause)) ∧
          (host.run actions).machine = machine.decayed (actions.count .decay) := by
  obtain ⟨running, refused⟩ := Machine.cycle_eq_error_iff.mp failed
  have unchanged : (machine.cycle pressed).2 = machine := by
    rw [Machine.cycle_of_ready_error pressed running refused]
  refine ⟨unchanged, ?_⟩
  intro keypad actions played
  have repeats := Host.run_of_refused running refused keypad 0 actions played
  rw [Machine.decayed_zero, Nat.zero_add] at repeats
  simpa only [unchanged] using repeats

/-- Two registers do not fit behind the last address, whichever key goes down and however often the
timers decay. -/
theorem failed_store_repeats :
    let machine : Machine :=
      { Machine.powerOn ⟨Vector.replicate 8 0, 0⟩ with
        memory := Memory.initial.put 0x200 [0xF1, 0x55]
        registers := { Registers.initial with index := 0xFFF, delay := 2, sound := 1 } }
    let fault : Attempt Outcome := .error (.fault (.addressOutOfRange 0x1000))
    let actions : List Host.Action :=
      [.cycle, .decay, .key (.press (.of 0x5)), .cycle, .decay, .decay, .cycle]
    let host : Host := ⟨(machine.cycle none).2, .idle⟩
    (machine.cycle none).1 = fault ∧ (machine.cycle none).2 = machine ∧
      (∀ action ∈ actions, action.plays) ∧ host.answers actions = [fault, fault, fault] ∧
        (host.run actions).machine = machine.decayed 3 := by
  intro machine fault actions host
  have failed : (machine.cycle none).1 = fault := by decide +kernel
  have played : ∀ action ∈ actions, action.plays := by decide
  obtain ⟨unchanged, repeats⟩ := failed_cycle_repeats machine none _ failed
  obtain ⟨answered, reached⟩ := repeats .idle actions played
  exact ⟨failed, unchanged, played, answered, reached⟩

end Chip8

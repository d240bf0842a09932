import Chip8.Proofs.Timers

/-!
# Beats

A machine on its own, without a keypad or a scheduler, lives through cycles and decays. Each cycle
finds some key pressed or none, and decays may come at any time between the cycles.
-/

namespace Chip8
namespace Machine

/-- Something that happens to a machine. -/
inductive Beat where
  | cycle (pressed : Option Key)
  | decay
  deriving DecidableEq

/-- What a cycle finds pressed. -/
def Beat.pressed? : Beat → Option (Option Key)
  | cycle pressed => some pressed
  | decay => none

theorem Beat.eq_cycle_of_pressed? {beat : Beat} {pressed : Option Key}
    (found : beat.pressed? = some pressed) : beat = .cycle pressed := by
  cases beat with
  | cycle other =>
      cases found
      rfl
  | decay => cases found

/-- What the cycles among some beats find pressed, in order. -/
def keys (beats : List Beat) : List (Option Key) := beats.filterMap Beat.pressed?

/-- The number of decays among some beats. -/
def decays (beats : List Beat) : Nat := beats.count .decay

/-- The machine after some beats. -/
def play (machine : Machine) : List Beat → Machine
  | [] => machine
  | .cycle pressed :: rest => (machine.cycle pressed).2.play rest
  | .decay :: rest => machine.decay.play rest

/-- What the cycles among some beats come to, in order. -/
def answers (machine : Machine) : List Beat → List (Attempt Outcome)
  | [] => []
  | .cycle pressed :: rest => (machine.cycle pressed).1 :: (machine.cycle pressed).2.answers rest
  | .decay :: rest => machine.decay.answers rest

theorem play_append (machine : Machine) (first second : List Beat) :
    machine.play (first ++ second) = (machine.play first).play second := by
  induction first generalizing machine with
  | nil => rfl
  | cons beat first induction => cases beat <;> exact induction _

theorem answers_append (machine : Machine) (first second : List Beat) :
    machine.answers (first ++ second) =
      machine.answers first ++ (machine.play first).answers second := by
  induction first generalizing machine with
  | nil => rfl
  | cons beat first induction =>
      cases beat with
      | cycle pressed => exact congrArg _ (induction _)
      | decay => exact induction _

theorem keys_append (first second : List Beat) :
    keys (first ++ second) = keys first ++ keys second :=
  List.filterMap_append

@[simp]
theorem decays_append (first second : List Beat) :
    decays (first ++ second) = decays first + decays second :=
  List.count_append

@[simp]
theorem decays_cons_cycle (pressed : Option Key) (rest : List Beat) :
    decays (.cycle pressed :: rest) = decays rest := by
  simp [decays]

@[simp]
theorem decays_cons_decay (rest : List Beat) : decays (.decay :: rest) = decays rest + 1 :=
  List.count_cons_self

@[simp]
theorem decays_replicate_decay (ticks : Nat) : decays (List.replicate ticks .decay) = ticks :=
  List.count_replicate_self

/-- Beats that split into cycles as a list of keys does are split themselves. -/
theorem exists_split_of_keys {beats : List Beat} {early late : List (Option Key)}
    {pressed : Option Key} (found : keys beats = early ++ pressed :: late) :
    ∃ before after, beats = before ++ .cycle pressed :: after ∧ keys before = early ∧
      keys after = late := by
  obtain ⟨before, rest, rfl, earlier, remaining⟩ := List.filterMap_eq_append_iff.mp found
  obtain ⟨idle, beat, after, rfl, still, presses, later⟩ :=
    List.filterMap_eq_cons_iff.mp remaining
  cases Beat.eq_cycle_of_pressed? presses
  refine ⟨before ++ idle, after, by simp, ?_, later⟩
  rw [keys_append, keys, keys, earlier, List.filterMap_eq_nil_iff.mpr still, List.append_nil]

/-- Without a cycle, nothing but the timers moves. -/
theorem play_of_keys_eq_nil (machine : Machine) (ticks : Nat) {beats : List Beat}
    (idle : keys beats = []) :
    (machine.decayed ticks).answers beats = [] ∧
      (machine.decayed ticks).play beats = machine.decayed (ticks + decays beats) := by
  induction beats generalizing ticks with
  | nil => exact ⟨rfl, rfl⟩
  | cons beat rest induction =>
      cases beat with
      | cycle pressed => cases idle
      | decay =>
          have sum : ticks + (decays rest + 1) = ticks + 1 + decays rest := by omega
          rw [answers, play, decay_decayed, decays_cons_decay, sum]
          exact induction (ticks + 1) idle

theorem play_replicate_decay (machine : Machine) (ticks : Nat) :
    machine.play (List.replicate ticks .decay) = machine.decayed ticks := by
  have idle : keys (List.replicate ticks .decay) = [] := by
    rw [keys, List.filterMap_replicate]
    rfl
  have reached := (machine.play_of_keys_eq_nil 0 idle).2
  rwa [decayed_zero, decays_replicate_decay, Nat.zero_add] at reached

end Machine
end Chip8

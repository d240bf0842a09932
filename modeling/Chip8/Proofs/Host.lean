import Chip8.Keypad
import Chip8.Proofs.Checks

/-!
# Hosts

A host holds a machine and the keypad in front of it. It runs cycles, counts the timers down, passes
on what happens to the keys, and may reach into the machine. A run of a host is the list of its
actions, and it goes on after a cycle that has failed.
-/

namespace Chip8

namespace Keypad

/-- Something that happens to the keys. -/
inductive Event where
  | press (key : Key)
  | release (key : Key)
  | releaseAll
  deriving DecidableEq

/-- The keypad after an event. -/
def handle (keypad : Keypad) : Event → Keypad
  | .press key => keypad.press key
  | .release key => keypad.release key
  | .releaseAll => keypad.releaseAll

end Keypad

/-- A machine and the keypad that its cycles look at. -/
structure Host where
  machine : Machine
  keypad : Keypad

namespace Host

/-- Something that a host can do. A program that is too large is not loaded; `fix` chooses the byte
that stands in for random ones. -/
inductive Action where
  | cycle
  | decay
  | key (event : Keypad.Event)
  | load (program : List UInt8)
  | jump (pc : UInt16)
  | fix (byte : Option UInt8)
  | reset
  | putRegisters (registers : Registers)
  | putStorage (memory : Memory) (stack : CallStack) (picture : Picture)
  deriving DecidableEq

namespace Action

/-- Whether an action is one of those by which a program is played: a cycle, a decay of the timers
or an event of the keypad. -/
def plays : Action → Bool
  | cycle | decay | key _ => true
  | _ => false

/-- Whether an action leaves the call stack and its pointer to the program. -/
def sparesStack : Action → Bool
  | reset | putRegisters _ | putStorage .. => false
  | _ => true

end Action

/-- A host that has just switched a machine on. -/
def powerOn (random : RandomSource) : Host := ⟨.powerOn random, .idle⟩

/-- What the next cycle comes to. -/
def answer (host : Host) : Attempt Outcome := (host.machine.cycle host.keypad.pressed).1

/-- The host after an action. -/
def act (host : Host) : Action → Host
  | .cycle => { host with machine := (host.machine.cycle host.keypad.pressed).2 }
  | .decay => { host with machine := host.machine.decay }
  | .key event => { host with keypad := host.keypad.handle event }
  | .load program => { host with machine := (host.machine.loadProgram program).2 }
  | .jump pc => { host with machine := host.machine.jumpTo pc }
  | .fix byte => { host with machine := { host.machine with fixedByte := byte } }
  | .reset => { host with machine := host.machine.reset }
  | .putRegisters registers => { host with machine := { host.machine with registers } }
  | .putStorage memory stack picture =>
      { host with machine := { host.machine with memory, stack, picture } }

/-- The host after a run. -/
def run (host : Host) : List Action → Host
  | [] => host
  | action :: rest => (host.act action).run rest

/-- What the cycles of a run come to, in order. -/
def answers (host : Host) : List Action → List (Attempt Outcome)
  | [] => []
  | .cycle :: rest => host.answer :: (host.act .cycle).answers rest
  | action :: rest => (host.act action).answers rest

theorem run_append (host : Host) (first second : List Action) :
    host.run (first ++ second) = (host.run first).run second := by
  induction first generalizing host with
  | nil => rfl
  | cons action first induction => rw [List.cons_append, run, run, induction]

theorem answers_cons_of_ne {action : Action} (other : action ≠ .cycle) (host : Host)
    (rest : List Action) : host.answers (action :: rest) = (host.act action).answers rest := by
  cases action with
  | cycle => exact absurd rfl other
  | _ => simp only [answers]

/-- The answers of a run are what the cycles came to in the states that led up to them. -/
theorem mem_answers_iff {host : Host} {actions : List Action} {answer : Attempt Outcome} :
    answer ∈ host.answers actions ↔
      ∃ before after, actions = before ++ .cycle :: after ∧ (host.run before).answer = answer := by
  induction actions generalizing host with
  | nil => simp [answers]
  | cons action rest induction =>
      constructor
      · intro given
        by_cases cycles : action = .cycle
        · subst cycles
          rcases List.mem_cons.mp given with same | later
          · exact ⟨[], rest, rfl, same.symm⟩
          · obtain ⟨before, after, split, came⟩ := induction.mp later
            exact ⟨.cycle :: before, after, by rw [split]; rfl, came⟩
        · rw [answers_cons_of_ne cycles] at given
          obtain ⟨before, after, split, came⟩ := induction.mp given
          exact ⟨action :: before, after, by rw [split]; rfl, came⟩
      · rintro ⟨before, after, split, came⟩
        cases before with
        | nil =>
            cases split
            exact List.mem_cons.mpr (.inl came.symm)
        | cons earlier before =>
            obtain ⟨rfl, remaining⟩ := List.cons.inj split
            have later : answer ∈ (host.act action).answers rest :=
              induction.mpr ⟨before, after, remaining, came⟩
            by_cases cycles : action = .cycle
            · subst cycles
              exact List.mem_cons_of_mem _ later
            · rw [answers_cons_of_ne cycles]
              exact later

end Host
end Chip8

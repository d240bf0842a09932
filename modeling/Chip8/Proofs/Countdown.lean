import Chip8.Proofs.Drive
import Chip8.Proofs.Footprint

/-!
# Countdown

What the timers of a driven machine hold. The program sets a timer with one instruction, and every
tick after that takes one off until nothing is left, save for the ticks during a key wait if the
timers are to stand still then. Nothing else touches a timer. Whether the sink refuses what a tick
sends does not matter, for by then the tick has counted down.
-/

namespace Chip8

/-- One of the two timers. -/
inductive Timer where
  | delay
  | sound
  deriving DecidableEq

namespace Timer

/-- What a timer holds. -/
def read : Timer → Machine → UInt8
  | delay, machine => machine.registers.delay
  | sound, machine => machine.registers.sound

/-- The part of a machine that a timer is. -/
def part : Timer → Part
  | delay => .delay
  | sound => .sound

/-- The register from which an instruction sets a timer. -/
def source? : Timer → Instruction → Option Register
  | delay, .setDelay x => some x
  | sound, .setSound x => some x
  | _, _ => none

theorem read_eq_of_agree {timer : Timer} {before after : Machine}
    (agree : timer.part.Agree before after) : timer.read after = timer.read before := by
  cases timer with
  | delay => exact agree
  | sound => exact agree

theorem read_decay (timer : Timer) (machine : Machine) :
    timer.read machine.decay = Registers.countDown (timer.read machine) := by
  cases timer with
  | delay => rfl
  | sound => rfl

theorem exists_source_of_mem_parts {timer : Timer} {instruction : Instruction}
    (member : timer.part ∈ instruction.parts) : ∃ x, timer.source? instruction = some x := by
  cases timer with
  | delay =>
      obtain ⟨x, rfl⟩ := Instruction.delay_mem_parts_iff.mp member
      exact ⟨x, rfl⟩
  | sound =>
      obtain ⟨x, rfl⟩ := Instruction.sound_mem_parts_iff.mp member
      exact ⟨x, rfl⟩

theorem read_execute_of_source {timer : Timer} {instruction : Instruction} {x : Register}
    (source : timer.source? instruction = some x) (pressed : Option Key) (machine : Machine) :
    timer.read (instruction.execute pressed machine).2 = machine.registers.get x := by
  cases timer with
  | delay =>
      cases instruction with
      | setDelay x =>
          cases source
          rfl
      | _ => cases source
  | sound =>
      cases instruction with
      | setSound x =>
          cases source
          rfl
      | _ => cases source

/-- The value that a cycle writes into a timer. -/
def writtenBy (timer : Timer) (machine : Machine) (pressed : Option Key) : Option UInt8 := do
  let instruction ← Instruction.ofAnswer? (machine.cycle pressed).1
  let x ← timer.source? instruction
  return machine.registers.get x

theorem writtenBy_eq_some_iff {timer : Timer} {machine : Machine} {pressed : Option Key}
    {value : UInt8} :
    timer.writtenBy machine pressed = some value ↔
      ∃ instruction, Instruction.ofAnswer? (machine.cycle pressed).1 = some instruction ∧
        ∃ x, timer.source? instruction = some x ∧ machine.registers.get x = value := by
  simp only [writtenBy, bind, pure, Option.bind_eq_some_iff, Option.some.injEq]

/-- A cycle leaves in a timer what it writes there, or else what was there before. -/
theorem read_cycle (timer : Timer) (machine : Machine) (pressed : Option Key) :
    timer.read (machine.cycle pressed).2 =
      (timer.writtenBy machine pressed).getD (timer.read machine) := by
  cases written : timer.writtenBy machine pressed with
  | none =>
      have other : timer.part ≠ .awaiting := by cases timer <;> nofun
      refine read_eq_of_agree (Machine.cycle_agree other fun instruction executed member => ?_)
      obtain ⟨x, source⟩ := exists_source_of_mem_parts member
      rw [writtenBy_eq_some_iff.mpr ⟨instruction, executed, x, source, rfl⟩] at written
      cases written
  | some value =>
      obtain ⟨instruction, executed, x, source, rfl⟩ := writtenBy_eq_some_iff.mp written
      rw [(Machine.cycle_of_executed executed).1, read_execute_of_source source]
      rfl

end Timer

namespace Rig

variable {ρ : Type}

/-- Whether a tick that begins in this state counts the timers down. -/
def timersRun (rig : Rig Machine ρ) : Bool :=
  rig.scheduler.timing.runWhileWaiting || !Device.awaitingKey rig.device

/-- The value that an action writes into a timer. -/
def written (timer : Timer) (rig : Rig Machine ρ) (action : Action) : Option UInt8 :=
  action.pressed?.bind (timer.writtenBy rig.device)

theorem read_prelude (timer : Timer) (rig : Rig Machine ρ) (action : Action) :
    timer.read (rig.prelude action).device =
      (rig.written timer action).getD (timer.read rig.device) := by
  cases action with
  | step pressed =>
      rw [device_prelude_step]
      exact timer.read_cycle rig.device pressed
  | tick => rfl
  | setInstructionHz hz => rfl

theorem read_decay (timer : Timer) (rig : Rig Machine ρ) :
    (timer.read rig.decay.device).toNat = (timer.read rig.device).toNat - rig.timersRun.toNat := by
  unfold decay
  rw [← timersRun]
  cases rig.timersRun with
  | true =>
      change (timer.read rig.device.decay).toNat = _
      rw [Timer.read_decay, Registers.toNat_countDown]
      rfl
  | false => rfl

variable [Sink ρ]

/-- The values that a run writes into a timer, in order. -/
def writes (timer : Timer) (rig : Rig Machine ρ) : List Action → List UInt8
  | [] => []
  | action :: rest => (rig.written timer action).toList ++ (rig.act action).writes timer rest

/-- The number of ticks in a run that count the timers down. -/
def countdowns (rig : Rig Machine ρ) (actions : List Action) : Nat :=
  (rig.ticks actions).countP timersRun

theorem countdowns_cons (rig : Rig Machine ρ) (action : Action) (rest : List Action) :
    rig.countdowns (action :: rest) =
      (rig.beginsTick action && (rig.prelude action).timersRun).toNat +
        (rig.act action).countdowns rest := by
  unfold countdowns
  rw [ticks]
  cases rig.beginsTick action with
  | false => simp
  | true =>
      cases runs : (rig.prelude action).timersRun <;> simp [runs, Nat.add_comm]

/-- An action takes one off what it has found or written if it begins a tick that counts down. -/
theorem read_act (timer : Timer) (rig : Rig Machine ρ) (action : Action) :
    (timer.read (rig.act action).device).toNat =
      ((rig.written timer action).getD (timer.read rig.device)).toNat -
        (rig.beginsTick action && (rig.prelude action).timersRun).toNat := by
  rw [← read_prelude]
  cases begins : rig.beginsTick action with
  | true =>
      rw [act_of_beginsTick begins, device_tick, read_decay]
      rfl
  | false =>
      rw [act_of_not_beginsTick begins]
      rfl

/-- While nothing is written to a timer, the ticks that count down are taken off it. -/
theorem read_play_of_unwritten (timer : Timer) {rig : Rig Machine ρ} {actions : List Action}
    (unwritten : rig.writes timer actions = []) :
    (timer.read (rig.play actions).device).toNat =
      (timer.read rig.device).toNat - rig.countdowns actions := by
  induction actions generalizing rig with
  | nil => rfl
  | cons action rest induction =>
      obtain ⟨here, later⟩ := List.append_eq_nil_iff.mp unwritten
      have none : rig.written timer action = none := Option.toList_eq_nil_iff.mp here
      rw [play, induction later, read_act, none, countdowns_cons, Nat.sub_sub]
      rfl

/-- What is written to a timer last begins to be counted down by the tick of the same action. -/
theorem read_play_of_written (timer : Timer) {rig : Rig Machine ρ} {action : Action}
    {rest : List Action} {value : UInt8} (written : rig.written timer action = some value)
    (unwritten : (rig.act action).writes timer rest = []) :
    (timer.read (rig.play (action :: rest)).device).toNat =
      value.toNat - rig.countdowns (action :: rest) := by
  rw [play, read_play_of_unwritten timer unwritten, read_act, written, countdowns_cons, Nat.sub_sub]
  rfl

/-- A run has a last write to a timer unless it has none. -/
theorem exists_last_write (timer : Timer) {rig : Rig Machine ρ} {actions : List Action}
    (writes : rig.writes timer actions ≠ []) :
    ∃ before action after value, actions = before ++ action :: after ∧
      (rig.play before).written timer action = some value ∧
      ((rig.play before).act action).writes timer after = [] := by
  induction actions generalizing rig with
  | nil => exact absurd rfl writes
  | cons action rest induction =>
      by_cases later : (rig.act action).writes timer rest = []
      · obtain ⟨value, written⟩ : ∃ value, rig.written timer action = some value := by
          rw [Rig.writes, later, List.append_nil] at writes
          exact Option.ne_none_iff_exists'.mp fun none => writes (by rw [none]; rfl)
        exact ⟨[], action, rest, value, rfl, written, later⟩
      · obtain ⟨before, last, after, value, split, written, unwritten⟩ := induction later
        exact ⟨action :: before, last, after, value, by rw [split]; rfl, written, unwritten⟩

end Rig

/-- In every run, whatever the scheduler and whatever the sink refuses, a timer holds what the
program wrote to it last, less the ticks begun since that were to count it down, and no less than
zero; until something is written, what it held at first stands for that. -/
theorem timer_counts_down {ρ : Type} [Sink ρ] (timer : Timer) (rig : Rig Machine ρ)
    (actions : List Rig.Action) :
    (rig.writes timer actions = [] ∧
      (timer.read (rig.play actions).device).toNat =
        (timer.read rig.device).toNat - (rig.ticks actions).countP Rig.timersRun) ∨
    ∃ before action after value, actions = before ++ action :: after ∧
      (rig.play before).written timer action = some value ∧
      ((rig.play before).act action).writes timer after = [] ∧
      (timer.read (rig.play actions).device).toNat =
        value.toNat - ((rig.play before).ticks (action :: after)).countP Rig.timersRun := by
  by_cases unwritten : rig.writes timer actions = []
  · exact .inl ⟨unwritten, Rig.read_play_of_unwritten timer unwritten⟩
  · obtain ⟨before, action, after, value, split, written, quiet⟩ :=
      Rig.exists_last_write timer unwritten
    refine .inr ⟨before, action, after, value, split, written, quiet, ?_⟩
    rw [split, Rig.play_append]
    exact Rig.read_play_of_written timer written quiet

end Chip8

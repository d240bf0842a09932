import Chip8.Proofs.Host
import Chip8.Proofs.Speed

/-!
# Draws

What becomes of the random bytes of a seeded machine. Only the random instruction draws one, and
only while no fixed byte stands in for it. Whatever else is done to the machine, by the program, by
its host or through a scheduler, the position in the stream of the seed stays. So the bytes drawn
are those of the stream, in order and without a gap.
-/

namespace Chip8

/-- An executed random instruction. -/
structure Roll where
  x : Register
  mask : UInt8
  /-- The byte that stood in for the random one. -/
  fixed : Option UInt8
  /-- What the register holds behind it. -/
  stored : UInt8
  deriving DecidableEq

/-- Whether a byte was drawn for an executed random instruction. -/
def Roll.draws (roll : Roll) : Bool := roll.fixed.isNone

namespace Machine

theorem get_loadRandom (machine : Machine) (x : Register) (mask : UInt8) :
    (machine.loadRandom x mask).registers.get x = machine.randomByte &&& mask :=
  Registers.get_set_self _ _ _

theorem random_loadRandom (machine : Machine) (x : Register) (mask : UInt8) :
    (machine.loadRandom x mask).random =
      if machine.fixedByte.isNone then machine.random.skip else machine.random := by
  rw [loadRandom, dropRandomByte]
  cases machine.fixedByte <;> rfl

/-- A cycle that executes no random instruction leaves the random source alone. -/
theorem random_cycle {machine : Machine} {pressed : Option Key}
    (other : ∀ x mask,
      Instruction.ofAnswer? (machine.cycle pressed).1 ≠ some (.random x mask)) :
    (machine.cycle pressed).2.random = machine.random := by
  have agree : Part.random.Agree machine (machine.cycle pressed).2 := by
    refine cycle_agree nofun fun instruction executed touched => ?_
    obtain ⟨x, mask, rfl⟩ := Instruction.random_mem_parts_iff.mp touched
    exact other x mask executed
  exact agree

namespace SameButTimers

variable {first second : Machine}

theorem random (same : first.SameButTimers second) : second.random = first.random := by
  obtain ⟨_, _, rfl⟩ := same
  rfl

theorem get (same : first.SameButTimers second) (x : Register) :
    second.registers.get x = first.registers.get x := by
  obtain ⟨_, _, rfl⟩ := same
  rfl

end SameButTimers
end Machine

/-- Beside its cycles, nothing that a host does reaches the random source. -/
theorem Host.random_act {action : Action} (other : action ≠ .cycle) (host : Host) :
    (host.act action).machine.random = host.machine.random := by
  cases action with
  | cycle => exact absurd rfl other
  | reset => rw [act, Machine.reset, Machine.clearStorage]
  | _ => rfl

/-- A machine with everything around it: a scheduler, a sink and a keypad. -/
structure Bench (ρ : Type) where
  rig : Rig Machine ρ
  keypad : Keypad

namespace Bench

/-- Something that is done at a bench: by the host itself, by the host through the scheduler, or
the choice of another scheduler and sink. -/
inductive Action (ρ : Type) where
  | host (action : Host.Action)
  | drive (action : Rig.Action)
  | mount (scheduler : Scheduler) (sink : ρ)

variable {ρ : Type}

/-- The machine at a bench. -/
def machine (bench : Bench ρ) : Machine := bench.rig.device

/-- A bench with a machine that was just switched on with a seed. -/
def ofSeed (seed : UInt64) (scheduler : Scheduler) (sink : ρ) : Bench ρ :=
  ⟨⟨.ofSeed seed, scheduler, sink⟩, .idle⟩

/-- What the cycle of an action finds pressed, if the action runs one. -/
def pressed? (bench : Bench ρ) : Action ρ → Option (Option Key)
  | .host .cycle => some bench.keypad.pressed
  | .drive action => action.pressed?
  | _ => none

/-- The instruction that an action executes, if it executes one. -/
def executed? (bench : Bench ρ) (action : Action ρ) : Option Instruction :=
  (bench.pressed? action).bind fun pressed =>
    Instruction.ofAnswer? (bench.machine.cycle pressed).1

variable [Sink ρ]

/-- The bench after an action. -/
def act (bench : Bench ρ) : Action ρ → Bench ρ
  | .host action =>
      let host := (⟨bench.machine, bench.keypad⟩ : Host).act action
      ⟨{ bench.rig with device := host.machine }, host.keypad⟩
  | .drive action => { bench with rig := bench.rig.act action }
  | .mount scheduler sink => { bench with rig := ⟨bench.machine, scheduler, sink⟩ }

/-- The bench after a run. -/
def run (bench : Bench ρ) : List (Action ρ) → Bench ρ
  | [] => bench
  | action :: rest => (bench.act action).run rest

/-- The random instruction that an action executes, if it executes one. -/
def roll? (bench : Bench ρ) (action : Action ρ) : Option Roll :=
  match bench.executed? action with
  | some (.random x mask) =>
      some ⟨x, mask, bench.machine.fixedByte, (bench.act action).machine.registers.get x⟩
  | _ => none

/-- The random instructions that a run executes, in order. -/
def rolls (bench : Bench ρ) : List (Action ρ) → List Roll
  | [] => []
  | action :: rest => (bench.roll? action).toList ++ (bench.act action).rolls rest

/-! ## One action -/

variable {bench : Bench ρ} {action : Action ρ}

theorem act_of_pressed {pressed : Option Key} (cycles : bench.pressed? action = some pressed) :
    (bench.machine.cycle pressed).2.SameButTimers (bench.act action).machine := by
  cases action with
  | host action =>
      cases action with
      | cycle =>
          cases cycles
          exact .refl _
      | _ => cases cycles
  | drive action =>
      cases Rig.Action.eq_step_of_pressed? cycles
      have same := bench.rig.sameButTimers_act (.step pressed)
      rw [Rig.device_prelude_step] at same
      exact same
  | mount scheduler sink => cases cycles

theorem random_act_of_idle (idle : bench.pressed? action = none) :
    (bench.act action).machine.random = bench.machine.random := by
  cases action with
  | host action =>
      refine Host.random_act ?_ ⟨bench.machine, bench.keypad⟩
      rintro rfl
      cases idle
  | drive action => exact (bench.rig.sameButTimers_act_of_idle idle).random
  | mount scheduler sink => rfl

theorem roll?_eq_some_iff {roll : Roll} :
    bench.roll? action = some roll ↔
      bench.executed? action = some (.random roll.x roll.mask) ∧
        bench.machine.fixedByte = roll.fixed ∧
        (bench.act action).machine.registers.get roll.x = roll.stored := by
  rw [roll?]
  split
  next x mask executed =>
    rw [executed]
    constructor
    · intro same
      cases same
      exact ⟨rfl, rfl, rfl⟩
    · rintro ⟨same, fixed, stored⟩
      cases same
      rw [fixed, stored]
  next other =>
    constructor
    · intro same
      cases same
    · rintro ⟨executed, -⟩
      exact absurd executed (other _ _)

/-- An executed random instruction stores the masked byte that stands in for the random one, or the
next byte of the source, which it then draws. -/
theorem act_of_roll {roll : Roll} (rolls : bench.roll? action = some roll) :
    roll.stored = roll.fixed.getD bench.machine.random.peek &&& roll.mask ∧
      (bench.act action).machine.random =
        if roll.draws then bench.machine.random.skip else bench.machine.random := by
  obtain ⟨executed, fixed, stored⟩ := roll?_eq_some_iff.mp rolls
  obtain ⟨pressed, cycles, answer⟩ := Option.bind_eq_some_iff.mp executed
  have same := act_of_pressed cycles
  rw [(Machine.cycle_of_executed answer).1] at same
  rw [← stored, same.get, same.random, Roll.draws, ← fixed]
  exact ⟨Machine.get_loadRandom _ _ _, Machine.random_loadRandom _ _ _⟩

/-- Whatever else is done leaves the random source alone. -/
theorem random_act_of_no_roll (none : bench.roll? action = none) :
    (bench.act action).machine.random = bench.machine.random := by
  cases cycles : bench.pressed? action with
  | none => exact random_act_of_idle cycles
  | some pressed =>
      rw [(act_of_pressed cycles).random]
      refine Machine.random_cycle fun x mask answer => ?_
      have executed : bench.executed? action = some (.random x mask) :=
        Option.bind_eq_some_iff.mpr ⟨pressed, cycles, answer⟩
      simp [roll?, executed] at none

/-! ## Runs -/

/-- After a run the source stands behind the bytes that the run has drawn. -/
theorem random_run (bench : Bench ρ) (actions : List (Action ρ)) :
    (bench.run actions).machine.random =
      ⟨bench.machine.random.key,
        bench.machine.random.drawn + (bench.rolls actions).countP Roll.draws⟩ := by
  induction actions generalizing bench with
  | nil => rfl
  | cons action rest induction =>
      rw [run, rolls, induction, List.countP_append]
      cases found : bench.roll? action with
      | none => simp [random_act_of_no_roll found]
      | some roll =>
          rw [(act_of_roll found).2]
          cases drew : roll.draws with
          | true => simp [drew, RandomSource.skip, Nat.add_assoc]
          | false => simp [drew]

/-- Every random instruction of a run is executed by one of its actions, after those before it. -/
theorem exists_action_of_rolls {actions : List (Action ρ)} {before after : List Roll} {roll : Roll}
    (split : bench.rolls actions = before ++ roll :: after) :
    ∃ earlier action later, actions = earlier ++ action :: later ∧
      bench.rolls earlier = before ∧ (bench.run earlier).roll? action = some roll := by
  induction actions generalizing bench before with
  | nil => simp [rolls] at split
  | cons first rest induction =>
      rw [rolls] at split
      -- Only the actions that roll are counted, so the others are passed by.
      cases found : bench.roll? first with
      | none =>
          rw [found] at split
          obtain ⟨earlier, action, later, rfl, same, here⟩ := induction split
          exact ⟨first :: earlier, action, later, rfl, by rw [rolls, found, same]; rfl, here⟩
      | some given =>
          rw [found] at split
          cases before with
          | nil =>
              obtain ⟨rfl, -⟩ := List.cons.inj split
              exact ⟨[], first, rest, rfl, rfl, found⟩
          | cons same before =>
              obtain ⟨rfl, remaining⟩ := List.cons.inj split
              obtain ⟨earlier, action, later, rfl, same, here⟩ := induction remaining
              exact ⟨first :: earlier, action, later, rfl, by rw [rolls, found, same]; rfl, here⟩

end Bench

/-- Whatever is done to a machine that was switched on with a seed: of its random instructions, the
ones without a fixed byte store the bytes of the stream, masked and in order from the first one on,
and the others store the masked fixed byte. The source stands behind the bytes that were drawn so,
and no other action moves it. -/
theorem rolls_follow_stream {ρ : Type} [Sink ρ] (seed : UInt64) (scheduler : Scheduler) (sink : ρ)
    (actions : List (Bench.Action ρ)) :
    let bench := Bench.ofSeed seed scheduler sink
    let rolls := bench.rolls actions
    (bench.run actions).machine.random = ⟨Seed.key seed, rolls.countP Roll.draws⟩ ∧
    (∀ before roll after, rolls = before ++ roll :: after →
      roll.stored =
        roll.fixed.getD (RandomSource.byteAt (Seed.key seed) (before.countP Roll.draws)) &&&
          roll.mask) ∧
    ∀ action, ((bench.run actions).roll? action).all (fun roll => !roll.draws) →
      ((bench.run actions).act action).machine.random = (bench.run actions).machine.random := by
  intro bench rolls
  have stands (actions : List (Bench.Action ρ)) : (bench.run actions).machine.random =
      ⟨Seed.key seed, (bench.rolls actions).countP Roll.draws⟩ := by
    rw [Bench.random_run]
    exact congrArg _ (Nat.zero_add _)
  refine ⟨stands actions, ?_, ?_⟩
  · intro before roll after split
    obtain ⟨earlier, action, later, -, rfl, here⟩ := Bench.exists_action_of_rolls split
    have stored := (Bench.act_of_roll here).1
    rw [stands] at stored
    exact stored
  · intro action spared
    cases found : (bench.run actions).roll? action with
    | none => exact Bench.random_act_of_no_roll found
    | some roll =>
        have fixed : roll.draws = false := by simpa [found] using spared
        rw [(Bench.act_of_roll found).2, fixed]
        rfl

/-- A draw, a fixed byte in its stead, a cycle that fails, a reset and another draw, which gets the
second byte of the stream. -/
theorem reset_keeps_place_in_stream :
    let bench : Bench Silent := .ofSeed 0 (.new .standard) ⟨⟩
    let program : List UInt8 := [0xC0, 0xFF, 0xC1, 0x0F]
    let actions : List (Bench.Action Silent) :=
      [.host (.load program), .host .cycle, .host (.fix (some 0x5A)), .drive (.step none),
        .host .cycle, .host (.fix none), .host .reset, .host (.load program), .drive (.step none)]
    let first : Roll := ⟨.of 0, 0xFF, none, 127⟩
    let second : Roll := ⟨.of 1, 0x0F, some 0x5A, 0x0A⟩
    let third : Roll := ⟨.of 0, 0xFF, none, 178⟩
    bench.rolls actions = [first, second, third] ∧
      first.stored = RandomSource.byteAt (Seed.key 0) 0 &&& 0xFF ∧
      second.stored = 0x5A &&& 0x0F ∧
      third.stored = RandomSource.byteAt (Seed.key 0) 1 &&& 0xFF ∧
      (bench.run actions).machine.random = ⟨Seed.key 0, 2⟩ ∧
      ((bench.run actions).act (.host .reset)).machine.random = ⟨Seed.key 0, 2⟩ := by
  intro bench program actions first second third
  have rolled : bench.rolls actions = [first, second, third] := by decide +kernel
  obtain ⟨stands, stores, spares⟩ := rolls_follow_stream 0 (.new .standard) (⟨⟩ : Silent) actions
  replace stands : (bench.run actions).machine.random = ⟨Seed.key 0, 2⟩ := by
    rw [stands, rolled]
    rfl
  exact ⟨rolled, stores [] first [second, third] rolled, stores [first] second [third] rolled,
    stores [first, second] third [] rolled, stands, (spares _ rfl).trans stands⟩

end Chip8

import Chip8.Proofs.Drive
import Mathlib.Data.List.DropRight
import Mathlib.Tactic.Common

/-!
# Cadence

When the steps of a driven device begin ticks. A scheduler counts the cycles that have not failed,
and a step whose cycle brings the count up to the cycles of a tick counts from zero again before it
ticks. What becomes of the tick does not matter to the count, nor does a failed cycle, and a change
of frequency moves the mark but not the count.
-/

namespace Chip8

/-! ## Timings -/

namespace Timing

theorem cyclesPerTick_le (timing : Timing) :
    timing.cyclesPerTick ≤ max timing.instructionHz 1 := by
  have quotient := Nat.div_le_self timing.instructionHz (max timing.timerHz 1)
  simp only [cyclesPerTick]
  omega

theorem clampHz_bounds (hz : Nat) : minHz ≤ clampHz hz ∧ clampHz hz ≤ maxHz := by
  simp only [clampHz, minHz, maxHz]
  omega

theorem setInstructionHz_le (timing : Timing) (hz : Nat) :
    (timing.setInstructionHz hz).instructionHz ≤ maxHz :=
  (clampHz_bounds hz).2

end Timing

namespace Rig

/-! ## What an action does to the scheduler -/

/-- The frequency that an action chooses. -/
def Action.hz? : Action → Option Nat
  | setInstructionHz hz => some hz
  | _ => none

/-- The timing after the frequencies that a run chooses. -/
def timingAfter (timing : Timing) (actions : List Action) : Timing :=
  (actions.filterMap Action.hz?).foldl Timing.setInstructionHz timing

theorem timingAfter_append (timing : Timing) (first second : List Action) :
    timingAfter timing (first ++ second) = timingAfter (timingAfter timing first) second := by
  rw [timingAfter, List.filterMap_append, List.foldl_append]
  rfl

variable {δ ρ : Type} [Device δ]

theorem timing_prelude (rig : Rig δ ρ) (action : Action) :
    (rig.prelude action).scheduler.timing = timingAfter rig.scheduler.timing [action] := by
  cases action with
  | step pressed =>
      rw [prelude]
      rcases Device.cycle pressed rig.device with ⟨failure | outcome, device⟩
      · rfl
      · dsimp only
        split <;> rfl
  | tick => rfl
  | setInstructionHz hz => rfl

variable [Sink ρ]

/-- Of the scheduler, a tick touches what it knows of the tone. -/
theorem scheduler_tick (rig : Rig δ ρ) :
    ∃ tone, rig.tick.2.scheduler = { rig.scheduler with tonePlaying := tone } := by
  rw [← scheduler_decay rig]
  cases rig.decay.settling with
  | silent _ result => exact ⟨_, by rw [tick_of_settled result, scheduler_emit]⟩
  | taken _ _ result => exact ⟨_, by rw [tick_of_settled result, scheduler_emit]⟩
  | refused _ _ result => exact ⟨_, by rw [tick_of_refused result, scheduler_emit]⟩

theorem timing_act (rig : Rig δ ρ) (action : Action) :
    (rig.act action).scheduler.timing = timingAfter rig.scheduler.timing [action] := by
  rw [← timing_prelude]
  cases begins : rig.beginsTick action with
  | true =>
      obtain ⟨tone, same⟩ := (rig.prelude action).scheduler_tick
      rw [act_of_beginsTick begins, same]
  | false => rw [act_of_not_beginsTick begins]

/-- The timing in force is the one that the run has chosen. -/
theorem timing_play (rig : Rig δ ρ) (actions : List Action) :
    (rig.play actions).scheduler.timing = timingAfter rig.scheduler.timing actions := by
  induction actions generalizing rig with
  | nil => rfl
  | cons action rest induction =>
      rw [play, induction, timing_act, ← timingAfter_append, List.singleton_append]

/-! ## Steps -/

/-- A step of a run: the rig that makes it, and what it finds pressed. -/
structure Step (δ ρ : Type) where
  rig : Rig δ ρ
  pressed : Option Key

omit [Sink ρ] in
/-- Whether the cycle of a step has not failed. -/
def Step.succeeds (step : Step δ ρ) : Bool := (Device.cycle step.pressed step.rig.device).1.isOk

omit [Sink ρ] in
/-- Whether a step begins a tick. -/
def Step.ticks (step : Step δ ρ) : Bool := step.rig.beginsTick (.step step.pressed)

/-- The steps of a run, in order. -/
def steps (rig : Rig δ ρ) : List Action → List (Step δ ρ)
  | [] => []
  | .step pressed :: rest => ⟨rig, pressed⟩ :: (rig.act (.step pressed)).steps rest
  | action :: rest => (rig.act action).steps rest

/-- The number of cycles in a run that have not failed since a step of the run began a tick last,
or since the run began. -/
def untickedCycles (rig : Rig δ ρ) (actions : List Action) : Nat :=
  ((rig.steps actions).rtakeWhile fun step => !step.ticks).countP Step.succeeds

theorem steps_append (rig : Rig δ ρ) (first second : List Action) :
    rig.steps (first ++ second) = rig.steps first ++ (rig.play first).steps second := by
  induction first generalizing rig with
  | nil => rfl
  | cons action first induction =>
      cases action <;> simp only [List.cons_append, steps, play, induction]

/-! ## One step -/

omit [Sink ρ] in
/-- A step begins a tick if its cycle brings the count up to the cycles of a tick. -/
theorem beginsTick_step_iff {rig : Rig δ ρ} {pressed : Option Key} :
    rig.beginsTick (.step pressed) = true ↔
      (Device.cycle pressed rig.device).1.isOk = true ∧
        rig.scheduler.timing.cyclesPerTick ≤ rig.scheduler.sinceTick + 1 := by
  rw [beginsTick, Bool.and_eq_true]
  exact and_congr_right fun _ => decide_eq_true_iff

theorem step_of_failed {rig : Rig δ ρ} {pressed : Option Key} {failure : Failure}
    (failed : (Device.cycle pressed rig.device).1 = .error failure) :
    rig.step pressed =
      (.error failure, { rig with device := (Device.cycle pressed rig.device).2 }) := by
  rw [step]
  revert failed
  rcases Device.cycle pressed rig.device with ⟨cause | outcome, device⟩
  · rintro ⟨⟩
    rfl
  · intro impossible
    cases impossible

theorem step_of_counted {rig : Rig δ ρ} {pressed : Option Key} {outcome : Outcome}
    (succeeded : (Device.cycle pressed rig.device).1 = .ok outcome)
    (early : rig.beginsTick (.step pressed) = false) :
    rig.step pressed =
      (.ok outcome, { rig with
        device := (Device.cycle pressed rig.device).2, scheduler := rig.scheduler.count }) := by
  rw [beginsTick] at early
  rw [step]
  revert succeeded early
  rcases Device.cycle pressed rig.device with ⟨cause | result, device⟩
  · intro impossible
    cases impossible
  · rintro ⟨⟩ early
    replace early : rig.scheduler.count.tickDue = false := early
    simp only [countCycle, early, Bool.false_eq_true, if_false]

theorem step_of_ticking {rig : Rig δ ρ} {pressed : Option Key}
    (begins : rig.beginsTick (.step pressed) = true) :
    rig.step pressed =
      let ticked := tick { rig with
        device := (Device.cycle pressed rig.device).2, scheduler := rig.scheduler.restart }
      (ticked.1.bind fun _ => (Device.cycle pressed rig.device).1, ticked.2) := by
  rw [beginsTick] at begins
  rw [step]
  revert begins
  rcases Device.cycle pressed rig.device with ⟨cause | result, device⟩
  · intro impossible
    cases impossible
  · intro due
    replace due : rig.scheduler.count.tickDue = true := due
    have same : rig.scheduler.count.restart = rig.scheduler.restart := rfl
    simp only [countCycle, due, if_true, same]
    rcases tick { rig with device, scheduler := rig.scheduler.restart } with
      ⟨failure | ⟨⟩, ticked⟩ <;> rfl

theorem sinceTick_act (rig : Rig δ ρ) (action : Action) :
    (rig.act action).scheduler.sinceTick = (rig.prelude action).scheduler.sinceTick := by
  cases begins : rig.beginsTick action with
  | true =>
      obtain ⟨tone, same⟩ := (rig.prelude action).scheduler_tick
      rw [act_of_beginsTick begins, same]
  | false => rw [act_of_not_beginsTick begins]

/-- Only steps change the count: a tick puts it back, and a cycle that has not failed adds to it. -/
theorem sinceTick_act_step (rig : Rig δ ρ) (pressed : Option Key) :
    (rig.act (.step pressed)).scheduler.sinceTick =
      if rig.beginsTick (.step pressed) then 0
      else rig.scheduler.sinceTick + if (Device.cycle pressed rig.device).1.isOk then 1 else 0 := by
  rw [sinceTick_act, prelude, beginsTick]
  rcases Device.cycle pressed rig.device with ⟨failure | outcome, device⟩
  · rfl
  · change (if rig.scheduler.count.tickDue then _ else _ : Scheduler).sinceTick = _
    cases rig.scheduler.count.tickDue <;> rfl

theorem sinceTick_act_of_idle (rig : Rig δ ρ) {action : Action} (idle : action.pressed? = none) :
    (rig.act action).scheduler.sinceTick = rig.scheduler.sinceTick := by
  cases action with
  | step pressed => cases idle
  | tick => exact rig.sinceTick_act .tick
  | setInstructionHz hz => rfl

/-- An action leaves the count below the cycles of a tick, or as it was. -/
theorem sinceTick_act_lt_or_eq (rig : Rig δ ρ) (action : Action) :
    (rig.act action).scheduler.sinceTick < rig.scheduler.timing.cyclesPerTick ∨
      (rig.act action).scheduler.sinceTick = rig.scheduler.sinceTick := by
  cases key : action.pressed? with
  | none => exact .inr (sinceTick_act_of_idle rig key)
  | some pressed =>
      cases Action.eq_step_of_pressed? key
      rw [sinceTick_act_step]
      cases begins : rig.beginsTick (.step pressed) with
      | true => exact .inl rig.scheduler.timing.cyclesPerTick_pos
      | false =>
          cases succeeded : (Device.cycle pressed rig.device).1.isOk with
          | false => exact .inr rfl
          | true =>
              refine .inl (Nat.lt_of_not_le fun due => ?_)
              rw [beginsTick_step_iff.mpr ⟨succeeded, due⟩] at begins
              cases begins

/-! ## Runs -/

/-- The steps of a run end with the last action if that is one. -/
theorem steps_concat (rig : Rig δ ρ) (actions : List Action) (action : Action) :
    rig.steps (actions ++ [action]) =
      rig.steps actions ++ (action.pressed?.map (Step.mk (rig.play actions))).toList := by
  rw [steps_append]
  cases action <;> rfl

/-- The count of a new scheduler is the number of cycles since a step began a tick last. -/
theorem sinceTick_play {rig : Rig δ ρ} (fresh : rig.scheduler.sinceTick = 0)
    (actions : List Action) :
    (rig.play actions).scheduler.sinceTick = rig.untickedCycles actions := by
  -- From the end of the run: its last step is the one that may start the count over.
  induction actions using List.reverseRecOn with
  | nil => exact fresh
  | append_singleton actions action induction =>
      rw [play_append, untickedCycles, steps_concat]
      change ((rig.play actions).act action).scheduler.sinceTick = _
      cases key : action.pressed? with
      | none =>
          rw [sinceTick_act_of_idle _ key, induction, Option.map_none, Option.toList_none,
            List.append_nil, untickedCycles]
      | some pressed =>
          cases Action.eq_step_of_pressed? key
          rw [sinceTick_act_step, induction, Option.map_some, Option.toList_some,
            List.rtakeWhile_concat, Step.ticks]
          cases (rig.play actions).beginsTick (.step pressed) with
          | true => rfl
          | false =>
              rw [if_neg Bool.false_ne_true, Bool.not_false, if_pos rfl, List.countP_append,
                List.countP_singleton, Step.succeeds, untickedCycles]

/-- A cycle that has not failed adds to an early count or makes a tick with what was counted. -/
theorem countP_succeeds_step {rig : Rig δ ρ}
    (early : rig.scheduler.sinceTick < rig.scheduler.timing.cyclesPerTick)
    (pressed : Option Key) :
    rig.scheduler.sinceTick + [Step.mk rig pressed].countP Step.succeeds =
      rig.scheduler.timing.cyclesPerTick * [Step.mk rig pressed].countP Step.ticks +
        (rig.act (.step pressed)).scheduler.sinceTick := by
  rw [sinceTick_act_step, List.countP_singleton, List.countP_singleton, Step.succeeds, Step.ticks]
  cases begins : rig.beginsTick (.step pressed) with
  | true =>
      obtain ⟨succeeded, due⟩ := beginsTick_step_iff.mp begins
      rw [succeeded, if_pos rfl, if_pos rfl]
      omega
  | false =>
      rw [if_neg Bool.false_ne_true, if_neg Bool.false_ne_true, Nat.mul_zero, Nat.zero_add]

/-- With one timing in force, the cycles that have not failed are shared out among the ticks, and
what is left does not make another one. -/
theorem countP_succeeds_play {rig : Rig δ ρ} {timing : Timing}
    (inForce : rig.scheduler.timing = timing)
    (early : rig.scheduler.sinceTick < timing.cyclesPerTick) {actions : List Action}
    (fixed : ∀ hz, .setInstructionHz hz ∈ actions → timing.setInstructionHz hz = timing) :
    (rig.play actions).scheduler.sinceTick < timing.cyclesPerTick ∧
      rig.scheduler.sinceTick + (rig.steps actions).countP Step.succeeds =
        timing.cyclesPerTick * (rig.steps actions).countP Step.ticks +
          (rig.play actions).scheduler.sinceTick := by
  induction actions generalizing rig with
  | nil => exact ⟨early, (Nat.zero_add _).symm⟩
  | cons action rest induction =>
      subst inForce
      have stays : (rig.act action).scheduler.timing = rig.scheduler.timing := by
        rw [timing_act]
        cases action with
        | setInstructionHz hz => exact fixed hz List.mem_cons_self
        | _ => rfl
      have below := rig.sinceTick_act_lt_or_eq action
      obtain ⟨earlyThen, sharedThen⟩ := induction stays (by omega)
        fun hz member => fixed hz (List.mem_cons_of_mem action member)
      refine ⟨earlyThen, ?_⟩
      cases action with
      | step pressed =>
          -- The same count is left by the first step and found by the rest of the run.
          have shared := countP_succeeds_step early pressed
          rw [steps, ← List.singleton_append, List.countP_append, List.countP_append, Nat.mul_add,
            play]
          omega
      | tick =>
          rw [sinceTick_act_of_idle rig rfl] at sharedThen
          exact sharedThen
      | setInstructionHz hz => exact sharedThen

/-- As far as frequencies are words, so is the count. -/
theorem sinceTick_play_lt {rig : Rig δ ρ} (word : rig.scheduler.timing.instructionHz < UInt32.size)
    (small : rig.scheduler.sinceTick + 1 < UInt32.size) (actions : List Action) :
    (rig.play actions).scheduler.sinceTick + 1 < UInt32.size := by
  induction actions generalizing rig with
  | nil => exact small
  | cons action rest induction =>
      refine induction ?_ ?_
      · rw [timing_act]
        cases action with
        | setInstructionHz hz =>
            exact Nat.lt_of_le_of_lt (Timing.setInstructionHz_le _ hz) (by decide)
        | _ => exact word
      · have mark := rig.scheduler.timing.cyclesPerTick_le
        have below := rig.sinceTick_act_lt_or_eq action
        have size : UInt32.size = 4294967296 := rfl
        omega

/-- Steps whose cycles fail leave the scheduler alone. -/
theorem scheduler_play_of_failed {rig : Rig δ ρ} {keys : List (Option Key)}
    (failed : ∀ step ∈ rig.steps (keys.map .step), step.succeeds = false) :
    (rig.play (keys.map .step)).scheduler = rig.scheduler := by
  induction keys generalizing rig with
  | nil => rfl
  | cons pressed rest induction =>
      obtain ⟨first, later⟩ := List.forall_mem_cons.mp failed
      have unchanged : (rig.act (.step pressed)).scheduler = rig.scheduler := by
        cases came : (Device.cycle pressed rig.device).1 with
        | error failure => rw [act, step_of_failed came]
        | ok outcome =>
            rw [Step.succeeds, came] at first
            cases first
      exact (induction later).trans unchanged

end Rig

open Rig in
/-- In every run of a new scheduler, whatever the device does and whichever calls the sink refuses:
a step begins a tick exactly if its cycle does not fail and is the last of as many as the timing in
force asks for, counted since the step that began a tick last. Such a step counts from zero again
and then ticks, whatever comes of the tick; another step whose cycle does not fail is only counted,
and one whose cycle fails only does to the device what the cycle did. The count never needs more
than a word. So without a change of the timing as many ticks begin as the cycles make up, and after
a change that asks for no more cycles than were counted the next one that does not fail begins a
tick. -/
theorem tick_cadence {δ ρ : Type} [Device δ] [Sink ρ] (device : δ) (timing : Timing) (sink : ρ)
    (actions : List Action) :
    let start : Rig δ ρ := ⟨device, .new timing, sink⟩
    let here := start.play actions
    let count := start.untickedCycles actions
    let inForce := timingAfter timing actions
    (∀ pressed, here.beginsTick (.step pressed) = true ↔
      (∃ outcome, (Device.cycle pressed here.device).1 = .ok outcome) ∧
        inForce.cyclesPerTick ≤ count + 1) ∧
    (∀ pressed, here.beginsTick (.step pressed) = true →
      (here.act (.step pressed)).scheduler.sinceTick = 0 ∧
        here.step pressed =
          let ticked := tick { here with
            device := (Device.cycle pressed here.device).2, scheduler := here.scheduler.restart }
          (ticked.1.bind fun _ => (Device.cycle pressed here.device).1, ticked.2)) ∧
    (∀ pressed outcome, (Device.cycle pressed here.device).1 = .ok outcome →
      here.beginsTick (.step pressed) = false →
        here.step pressed = (.ok outcome, { here with
          device := (Device.cycle pressed here.device).2, scheduler := here.scheduler.count })) ∧
    (∀ pressed failure, (Device.cycle pressed here.device).1 = .error failure →
      here.step pressed =
        (.error failure, { here with device := (Device.cycle pressed here.device).2 })) ∧
    here.scheduler.sinceTick = count ∧
    (timing.instructionHz < UInt32.size → count + 1 < UInt32.size) ∧
    ((∀ hz, .setInstructionHz hz ∈ actions → timing.setInstructionHz hz = timing) →
      (start.steps actions).countP Step.ticks =
        (start.steps actions).countP Step.succeeds / timing.cyclesPerTick) ∧
    ∀ hz (keys : List (Option Key)), (inForce.setInstructionHz hz).cyclesPerTick ≤ count + 1 →
      let slowed := here.act (.setInstructionHz hz)
      (∀ step ∈ slowed.steps (keys.map .step), step.succeeds = false) →
        let next := slowed.play (keys.map .step)
        ∀ pressed outcome, (Device.cycle pressed next.device).1 = .ok outcome →
          next.beginsTick (.step pressed) = true := by
  intro start here count inForce
  have fresh : start.scheduler.sinceTick = 0 := rfl
  have counted : here.scheduler.sinceTick = count := sinceTick_play fresh actions
  have timed : here.scheduler.timing = inForce := start.timing_play actions
  refine ⟨?_, ?_, ?_, ?_, counted, ?_, ?_, ?_⟩
  · intro pressed
    rw [beginsTick_step_iff, Attempt.isOk_iff, timed, counted]
  · intro pressed begins
    refine ⟨?_, step_of_ticking begins⟩
    rw [sinceTick_act_step, if_pos begins]
  · intro pressed outcome
    exact step_of_counted
  · intro pressed failure
    exact step_of_failed
  · intro word
    rw [← counted]
    have small : start.scheduler.sinceTick + 1 < UInt32.size := (by decide : 0 + 1 < UInt32.size)
    exact sinceTick_play_lt word small actions
  · intro fixed
    have inForce : start.scheduler.timing = timing := rfl
    obtain ⟨early, shared⟩ := countP_succeeds_play inForce timing.cyclesPerTick_pos fixed
    rw [fresh, Nat.zero_add] at shared
    rw [shared, Nat.mul_add_div timing.cyclesPerTick_pos, Nat.div_eq_of_lt early, Nat.add_zero]
  · intro hz keys low slowed failed next pressed outcome came
    have same : next.scheduler = slowed.scheduler := scheduler_play_of_failed failed
    rw [beginsTick_step_iff, Attempt.isOk_iff, same]
    refine ⟨⟨outcome, came⟩, ?_⟩
    change (here.scheduler.timing.setInstructionHz hz).cyclesPerTick ≤ here.scheduler.sinceTick + 1
    rw [timed, counted]
    exact low

/-- A machine spins for six cycles at four cycles per tick, in front of a sink that refuses every
start: its tick fails, and the next cycle makes another one when two cycles are enough. -/
theorem slower_scheduler_ticks_at_once :
    let machine : Machine :=
      { Machine.powerOn ⟨Vector.replicate 8 0, 0⟩ with
        memory := Memory.initial.put 0x200 [0x12, 0x00]
        registers := { Registers.initial with sound := 5 } }
    let start : Rig Machine Selective :=
      ⟨machine, .new ⟨240, 60, true⟩, ⟨fun signal => signal = .startTone⟩⟩
    let spins : List Rig.Action := List.replicate 6 (.step none)
    (start.answers spins).countP (fun answer => !answer.isOk) = 1 ∧
      (start.steps spins).countP Rig.Step.succeeds = 6 ∧
      (start.steps spins).countP Rig.Step.ticks = 6 / 4 ∧
      start.untickedCycles spins = 2 ∧ (start.play spins).beginsTick (.step none) = false ∧
      ((start.play spins).act (.setInstructionHz 120)).beginsTick (.step none) = true := by
  intro machine start spins
  obtain ⟨begins, -, -, -, -, -, shared, slowed⟩ :=
    tick_cadence machine ⟨240, 60, true⟩ (⟨fun signal => signal = .startTone⟩ : Selective) spins
  have failing : (start.answers spins).countP (fun answer => !answer.isOk) = 1 := by
    decide +kernel
  have succeeding : (start.steps spins).countP Rig.Step.succeeds = 6 := by decide +kernel
  have count : start.untickedCycles spins = 2 := by decide +kernel
  have fixed : ∀ hz, Rig.Action.setInstructionHz hz ∈ spins →
      Timing.setInstructionHz ⟨240, 60, true⟩ hz = ⟨240, 60, true⟩ := by
    intro hz member
    cases List.eq_of_mem_replicate member
  have early : (start.play spins).beginsTick (.step none) = false := by
    refine Bool.eq_false_iff.mpr fun due => ?_
    have enough := ((begins none).mp due).2
    rw [count] at enough
    exact absurd enough (by decide)
  have low : (Rig.timingAfter ⟨240, 60, true⟩ spins |>.setInstructionHz 120).cyclesPerTick ≤
      start.untickedCycles spins + 1 := by
    rw [count]
    decide
  have ticking := shared fixed
  rw [succeeding] at ticking
  have next : (Device.cycle none
      (((start.play spins).act (.setInstructionHz 120)).play []).device).1 =
        .ok (.executed 0x1200) := by
    decide +kernel
  have none_fails : ∀ step ∈ ((start.play spins).act (.setInstructionHz 120)).steps [],
      step.succeeds = false := fun step member => absurd member List.not_mem_nil
  have due := slowed 120 [] low none_fails none (.executed 0x1200) next
  exact ⟨failing, succeeding, ticking, count, early, due⟩

end Chip8

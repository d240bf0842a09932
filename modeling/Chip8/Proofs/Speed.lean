import Chip8.Proofs.Drive
import Chip8.Proofs.Timers

/-!
# Speed

How fast a machine is driven decides when its timers are counted down, and nothing else. In front
of sinks that refuse nothing, two schedulers that make steps with the same keys get the same
answers from a machine and leave it in the same state up to its timers, however their frequencies
are chosen and changed, as long as the program does not read the delay timer.
-/

namespace Chip8

/-! ## Sinks that take everything -/

namespace Sink

variable {ρ : Type} [Sink ρ]

/-- A sink after some signals, whatever it answers to them. -/
def feed (sink : ρ) (signals : List Signal) : ρ :=
  signals.foldl (fun sink signal => (accept signal sink).2) sink

/-- A sink that refuses no signal, whatever it has been sent before. -/
def NeverRefuses (sink : ρ) : Prop :=
  ∀ signals signal, (accept signal (feed sink signals)).1 = .ok ()

namespace NeverRefuses

variable {sink : ρ}

theorem takes (never : NeverRefuses sink) (signal : Signal) : (accept signal sink).1 = .ok () :=
  never [] signal

theorem next (never : NeverRefuses sink) (signal : Signal) :
    NeverRefuses (accept signal sink).2 :=
  fun signals later => never (signal :: signals) later

end NeverRefuses
end Sink

theorem Silent.neverRefuses (silent : Silent) : Sink.NeverRefuses silent := fun _ _ => rfl

namespace Rig

open Sink

variable {δ ρ : Type} [Device δ] [Sink ρ]

/-- In front of a sink that refuses nothing, no tick fails. -/
theorem tick_of_neverRefuses {rig : Rig δ ρ} (never : NeverRefuses rig.sink) :
    rig.tick.1 = .ok () := by
  rw [← sink_decay rig] at never
  cases rig.decay.settling with
  | silent _ result =>
      rw [tick_of_settled result]
      exact never.takes _
  | @taken signal _ _ result =>
      rw [tick_of_settled result]
      exact (never.next signal).takes _
  | @refused signal _ _ answer _ =>
      have taken : (rig.decay.emit signal).1 = .ok () := never.takes signal
      rw [taken] at answer
      cases answer

theorem neverRefuses_act {rig : Rig δ ρ} (never : NeverRefuses rig.sink) (action : Action) :
    NeverRefuses (rig.act action).sink :=
  sink_act_of_kept (fun signal _ never => never.next signal) never action

theorem neverRefuses_play {rig : Rig δ ρ} (never : NeverRefuses rig.sink)
    (actions : List Action) : NeverRefuses (rig.play actions).sink :=
  sink_play_of_kept (fun signal _ never => never.next signal) never actions

theorem countCycle_of_neverRefuses {rig : Rig δ ρ} (never : NeverRefuses rig.sink) :
    rig.countCycle.1 = .ok () := by
  let restarted : Rig δ ρ := { rig with scheduler := rig.scheduler.count.restart }
  have neverThen : NeverRefuses restarted.sink := never
  have ticked : restarted.tick.1 = .ok () := tick_of_neverRefuses neverThen
  dsimp only [countCycle]
  split
  · exact ticked
  · rfl

/-- In front of a sink that refuses nothing, a step comes to what its cycle comes to. -/
theorem step_of_neverRefuses {rig : Rig δ ρ} (never : NeverRefuses rig.sink)
    (pressed : Option Key) : (rig.step pressed).1 = (Device.cycle pressed rig.device).1 := by
  rw [step]
  rcases Device.cycle pressed rig.device with ⟨failure | outcome, device⟩
  · rfl
  have counted : (countCycle { rig with device }).1 = .ok () := countCycle_of_neverRefuses never
  revert counted
  dsimp only
  rcases countCycle { rig with device } with ⟨failure | ⟨⟩, after⟩
  · intro counted
    cases counted
  · exact fun _ => rfl

end Rig

/-! ## Two runs -/

namespace Rig

open Machine Sink

variable {ρ σ : Type} [Sink ρ] [Sink σ]

/-- After an action the machine is as its prelude leaves it, but for the timers. -/
theorem sameButTimers_act (rig : Rig Machine ρ) (action : Action) :
    (rig.prelude action).device.SameButTimers (rig.act action).device := by
  cases begins : rig.beginsTick action with
  | false =>
      rw [act_of_not_beginsTick begins]
      exact .refl _
  | true =>
      rw [act_of_beginsTick begins, device_tick, decay]
      split
      · exact sameButTimers_decay _
      · exact .refl _

theorem sameButTimers_act_of_idle (rig : Rig Machine ρ) {action : Action}
    (idle : action.pressed? = none) : rig.device.SameButTimers (rig.act action).device := by
  have changed := rig.sameButTimers_act action
  rw [device_prelude_of_idle rig idle] at changed
  exact changed

/-- Between two steps only the timers of a machine change. -/
theorem play_of_idle (rig : Rig Machine ρ) {actions : List Action}
    (idle : ∀ action ∈ actions, action.pressed? = none) :
    rig.answers actions = [] ∧ rig.device.SameButTimers (rig.play actions).device := by
  induction actions generalizing rig with
  | nil => exact ⟨rfl, .refl _⟩
  | cons action rest induction =>
      obtain ⟨first, still⟩ := List.forall_mem_cons.mp idle
      obtain ⟨silent, same⟩ := induction (rig.act action) still
      rw [answers_cons_of_idle rig first]
      exact ⟨silent, (rig.sameButTimers_act_of_idle first).trans same⟩

/-- A step does the same to machines that differ at most in their timers, unless it reads the delay
timer. -/
theorem step_sameButTimers {first : Rig Machine ρ} {second : Rig Machine σ}
    (same : first.device.SameButTimers second.device)
    (never : NeverRefuses first.sink) (neverOther : NeverRefuses second.sink)
    (pressed : Option Key)
    (blind : ∀ x, Instruction.ofAnswer? (first.step pressed).1 ≠ some (.readDelay x)) :
    (second.step pressed).1 = (first.step pressed).1 ∧
      (first.act (.step pressed)).device.SameButTimers (second.act (.step pressed)).device := by
  have changed := first.sameButTimers_act (.step pressed)
  have changedOther := second.sameButTimers_act (.step pressed)
  rw [device_prelude_step] at changed changedOther
  rw [step_of_neverRefuses never] at blind ⊢
  rw [step_of_neverRefuses neverOther]
  obtain ⟨answers, after⟩ := cycle_sameButTimers same pressed
  exact ⟨answers, (changed.symm.trans (after blind)).trans changedOther⟩

/-- Runs with the same keys do the same to machines that differ at most in their timers, unless the
delay timer is read. -/
theorem play_sameButTimers {first : Rig Machine ρ} {second : Rig Machine σ}
    (same : first.device.SameButTimers second.device)
    (never : NeverRefuses first.sink) (neverOther : NeverRefuses second.sink)
    {actions others : List Action} (sameKeys : keys others = keys actions)
    (blind : ∀ answer ∈ first.answers actions,
      ∀ x, Instruction.ofAnswer? answer ≠ some (.readDelay x)) :
    second.answers others = first.answers actions ∧
      (first.play actions).device.SameButTimers (second.play others).device := by
  induction actions generalizing first second others with
  | nil =>
      obtain ⟨silent, kept⟩ := second.play_of_idle (List.filterMap_eq_nil_iff.mp sameKeys)
      exact ⟨silent, same.trans kept⟩
  | cons action rest induction =>
      have neverLater := neverRefuses_act never action
      cases key : action.pressed? with
      | none =>
          have kept := first.sameButTimers_act_of_idle key
          rw [answers_cons_of_idle first key] at blind ⊢
          have remaining : keys others = keys rest :=
            sameKeys.trans (List.filterMap_cons_none key)
          exact induction (kept.symm.trans same) neverLater neverOther remaining blind
      | some pressed =>
          replace sameKeys : keys others = pressed :: keys rest :=
            sameKeys.trans (List.filterMap_cons_some key)
          cases Action.eq_step_of_pressed? key
          -- The other run makes its step with this key after some actions that make none.
          obtain ⟨before, step, after, rfl, idle, found, remaining⟩ :=
            List.filterMap_eq_cons_iff.mp sameKeys
          cases Action.eq_step_of_pressed? found
          obtain ⟨silent, kept⟩ := second.play_of_idle idle
          have neverHere := neverRefuses_play neverOther before
          obtain ⟨blindHere, blindLater⟩ := List.forall_mem_cons.mp blind
          obtain ⟨answer, together⟩ :=
            step_sameButTimers (same.trans kept) never neverHere pressed blindHere
          obtain ⟨answers, ends⟩ :=
            induction together neverLater (neverRefuses_act neverHere _) remaining blindLater
          rw [answers_append, silent, play_append]
          exact ⟨List.cons_eq_cons.mpr ⟨answer, answers⟩, ends⟩

end Rig

/-! ## The speed settings -/

/-- Whatever the states of the schedulers and the sinks, and whenever frequencies are chosen anew:
in front of sinks that refuse nothing, steps with the same keys get the same answers from a machine
and leave it in the same state but for the timers, unless the first run reads the delay timer. -/
theorem execution_ignores_speed {ρ σ : Type} [Sink ρ] [Sink σ] (machine : Machine)
    (scheduler other : Scheduler) {sink : ρ} {otherSink : σ} (never : Sink.NeverRefuses sink)
    (neverOther : Sink.NeverRefuses otherSink) {actions others : List Rig.Action}
    (sameKeys : Rig.keys others = Rig.keys actions)
    (blind : ∀ answer ∈ (Rig.mk machine scheduler sink).answers actions,
      ∀ x, Instruction.ofAnswer? answer ≠ some (.readDelay x)) :
    (Rig.mk machine other otherSink).answers others =
        (Rig.mk machine scheduler sink).answers actions ∧
      ((Rig.mk machine scheduler sink).play actions).device.SameButTimers
        ((Rig.mk machine other otherSink).play others).device :=
  Rig.play_sameButTimers (.refl machine) never neverOther sameKeys blind

/-- `LD V0, 5`, `LD DT, V0`, `LD V1, K` at the standard speed, and with a tick in every cycle: the
programs wait for a key and get it alike, while their timers have run apart. -/
theorem faster_timers_run_apart :
    let machine : Machine :=
      { Machine.powerOn ⟨Vector.replicate 8 0, 0⟩ with
        memory := Memory.initial.put 0x200 [0x60, 0x05, 0xF0, 0x15, 0xF1, 0x0A] }
    let actions : List Rig.Action := [.step none, .step none, .step none, .step (some (.of 7))]
    let others : List Rig.Action :=
      [.step none, .setInstructionHz 60, .step none, .step none, .tick, .step (some (.of 7))]
    let standard : Rig Machine Silent := ⟨machine, .new .standard, ⟨⟩⟩
    let fast : Rig Machine Silent := ⟨machine, .new ⟨10, 60, true⟩, ⟨⟩⟩
    Rig.keys others = Rig.keys actions ∧
      (∀ answer ∈ standard.answers actions,
        ∀ x, Instruction.ofAnswer? answer ≠ some (.readDelay x)) ∧
      fast.answers others = standard.answers actions ∧
      (standard.play actions).device.SameButTimers (fast.play others).device ∧
      (standard.play actions).device.registers.delay = 5 ∧
      (fast.play others).device.registers.delay = 1 := by
  intro machine actions others standard fast
  have blind : ∀ answer ∈ standard.answers actions,
      ∀ x, Instruction.ofAnswer? answer ≠ some (.readDelay x) := by decide +kernel
  have sameKeys : Rig.keys others = Rig.keys actions := rfl
  obtain ⟨alike, same⟩ := execution_ignores_speed machine (.new .standard) (.new ⟨10, 60, true⟩)
    (Silent.neverRefuses ⟨⟩) (Silent.neverRefuses ⟨⟩) sameKeys blind
  have slow : (standard.play actions).device.registers.delay = 5 := by decide +kernel
  have quick : (fast.play others).device.registers.delay = 1 := by decide +kernel
  exact ⟨sameKeys, blind, alike, same, slow, quick⟩

end Chip8

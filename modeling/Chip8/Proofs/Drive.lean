import Chip8.Rig

/-!
# Driven rigs

What a host does to a rig: it makes steps and ticks, and it chooses instruction frequencies. A run
is the list of these actions, and it goes on after an action that has failed. An action is a
prelude and then, if it begins one, a tick; the ticks of a run are told by the rigs in which they
begin. Only a tick counts timers down or calls the sink, and only a tick changes what the scheduler
knows of the tone.
-/

namespace Chip8
namespace Rig

/-- Something that a host does to a rig. -/
inductive Action where
  | step (pressed : Option Key)
  | tick
  | setInstructionHz (hz : Nat)
  deriving DecidableEq

/-- What a step finds pressed. -/
def Action.pressed? : Action → Option (Option Key)
  | step pressed => some pressed
  | _ => none

/-- The keys pressed during the steps of a run. -/
def keys (actions : List Action) : List (Option Key) := actions.filterMap Action.pressed?

theorem Action.eq_step_of_pressed? {action : Action} {pressed : Option Key}
    (found : action.pressed? = some pressed) : action = .step pressed := by
  cases action with
  | step other =>
      cases found
      rfl
  | tick => cases found
  | setInstructionHz hz => cases found

variable {δ ρ : Type} [Device δ]

/-- Whether an action begins a tick: a step does if its cycle has not failed and makes one due. -/
def beginsTick (rig : Rig δ ρ) : Action → Bool
  | .step pressed => (Device.cycle pressed rig.device).1.isOk && rig.scheduler.count.tickDue
  | .tick => true
  | .setInstructionHz _ => false

/-- The rig after an action, save for the tick that the action begins. -/
def prelude (rig : Rig δ ρ) : Action → Rig δ ρ
  | .step pressed =>
      match Device.cycle pressed rig.device with
      | (.error _, device) => { rig with device }
      | (.ok _, device) =>
          let counted := rig.scheduler.count
          { rig with device, scheduler := if counted.tickDue then counted.restart else counted }
  | .tick => rig
  | .setInstructionHz hz => { rig with scheduler := rig.scheduler.setInstructionHz hz }

@[simp]
theorem device_prelude_step (rig : Rig δ ρ) (pressed : Option Key) :
    (rig.prelude (.step pressed)).device = (Device.cycle pressed rig.device).2 := by
  rw [prelude]
  rcases Device.cycle pressed rig.device with ⟨failure | outcome, device⟩ <;> rfl

theorem device_prelude_of_idle (rig : Rig δ ρ) {action : Action} (idle : action.pressed? = none) :
    (rig.prelude action).device = rig.device := by
  cases action with
  | step pressed => cases idle
  | tick => rfl
  | setInstructionHz hz => rfl

@[simp]
theorem sink_prelude (rig : Rig δ ρ) (action : Action) : (rig.prelude action).sink = rig.sink := by
  cases action with
  | step pressed =>
      rw [prelude]
      rcases Device.cycle pressed rig.device with ⟨failure | outcome, device⟩ <;> rfl
  | tick => rfl
  | setInstructionHz hz => rfl

@[simp]
theorem tonePlaying_prelude (rig : Rig δ ρ) (action : Action) :
    (rig.prelude action).scheduler.tonePlaying = rig.scheduler.tonePlaying := by
  cases action with
  | step pressed =>
      rw [prelude]
      rcases Device.cycle pressed rig.device with ⟨failure | outcome, device⟩
      · rfl
      · dsimp only
        split <;> rfl
  | tick => rfl
  | setInstructionHz hz => rfl

@[simp]
theorem sink_decay (rig : Rig δ ρ) : rig.decay.sink = rig.sink := by
  unfold decay
  split <;> rfl

@[simp]
theorem scheduler_decay (rig : Rig δ ρ) : rig.decay.scheduler = rig.scheduler := by
  unfold decay
  split <;> rfl

variable [Sink ρ]

/-- The rig after an action. -/
def act (rig : Rig δ ρ) : Action → Rig δ ρ
  | .step pressed => (rig.step pressed).2
  | .tick => rig.tick.2
  | .setInstructionHz hz => { rig with scheduler := rig.scheduler.setInstructionHz hz }

/-- The rig after a run. -/
def play (rig : Rig δ ρ) : List Action → Rig δ ρ
  | [] => rig
  | action :: rest => (rig.act action).play rest

/-- What the steps of a run come to, in order. -/
def answers (rig : Rig δ ρ) : List Action → List (Attempt Outcome)
  | [] => []
  | .step pressed :: rest => (rig.step pressed).1 :: (rig.act (.step pressed)).answers rest
  | action :: rest => (rig.act action).answers rest

/-- The rigs in which the ticks of a run begin, in order. -/
def ticks (rig : Rig δ ρ) : List Action → List (Rig δ ρ)
  | [] => []
  | action :: rest =>
      if rig.beginsTick action then rig.prelude action :: (rig.act action).ticks rest
      else (rig.act action).ticks rest

theorem play_append (rig : Rig δ ρ) (first second : List Action) :
    rig.play (first ++ second) = (rig.play first).play second := by
  induction first generalizing rig with
  | nil => rfl
  | cons action first induction => rw [List.cons_append, play, play, induction]

theorem answers_cons_of_idle (rig : Rig δ ρ) {action : Action} (idle : action.pressed? = none)
    (rest : List Action) : rig.answers (action :: rest) = (rig.act action).answers rest := by
  cases action with
  | step pressed => cases idle
  | tick => rfl
  | setInstructionHz hz => rfl

theorem answers_append (rig : Rig δ ρ) (first second : List Action) :
    rig.answers (first ++ second) = rig.answers first ++ (rig.play first).answers second := by
  induction first generalizing rig with
  | nil => rfl
  | cons action first induction =>
      cases action <;> simp only [List.cons_append, answers, play, induction]

/-! ## One action -/

variable {rig : Rig δ ρ} {action : Action}

theorem act_of_beginsTick (begins : rig.beginsTick action) :
    rig.act action = (rig.prelude action).tick.2 := by
  cases action with
  | step pressed =>
      revert begins
      rw [beginsTick, act, step, prelude]
      rcases Device.cycle pressed rig.device with ⟨failure | outcome, device⟩
      · intro begins
        cases begins
      · intro due
        replace due : rig.scheduler.count.tickDue := due
        simp only [countCycle, due, if_true]
        rcases Rig.tick { rig with device, scheduler := rig.scheduler.count.restart } with
          ⟨failure | ⟨⟩, ticked⟩ <;> rfl
  | tick => rfl
  | setInstructionHz hz => cases begins

theorem act_of_not_beginsTick (rests : rig.beginsTick action = false) :
    rig.act action = rig.prelude action := by
  cases action with
  | step pressed =>
      revert rests
      rw [beginsTick, act, step, prelude]
      rcases Device.cycle pressed rig.device with ⟨failure | outcome, device⟩
      · exact fun _ => rfl
      · intro early
        replace early : rig.scheduler.count.tickDue = false := early
        simp only [countCycle, early, Bool.false_eq_true, if_false]
  | tick => cases rests
  | setInstructionHz hz => rfl

/-! ## One tick -/

omit [Device δ] in
@[simp]
theorem device_emit (signal : Signal) (rig : Rig δ ρ) :
    (rig.emit signal).2.device = rig.device := rfl

omit [Device δ] in
@[simp]
theorem scheduler_emit (signal : Signal) (rig : Rig δ ρ) :
    (rig.emit signal).2.scheduler = rig.scheduler := rfl

/-- What settling the tone comes to: there is nothing to change, or the sink takes the change, which
is remembered, or it refuses the change, which is not. -/
inductive Settling (rig : Rig δ ρ) : Prop
  | silent (same : rig.toneChange = none) (result : rig.settleTone = (.ok (), rig))
  | taken {signal : Signal} (change : rig.toneChange = some signal)
      (answer : (rig.emit signal).1 = .ok ())
      (result : rig.settleTone =
        (.ok (), { (rig.emit signal).2 with
          scheduler := { rig.scheduler with tonePlaying := Device.sounding rig.device } }))
  | refused {signal : Signal} {failure : Failure} (change : rig.toneChange = some signal)
      (answer : (rig.emit signal).1 = .error failure)
      (result : rig.settleTone = (.error failure, (rig.emit signal).2))

theorem settling (rig : Rig δ ρ) : rig.Settling := by
  cases change : rig.toneChange with
  | none =>
      refine .silent change ?_
      rw [settleTone, change]
  | some signal =>
      rcases sent : rig.emit signal with ⟨failure | ⟨⟩, after⟩
      · refine .refused change (congrArg Prod.fst sent) ?_
        simp only [settleTone, change, sent]
      · refine .taken change (congrArg Prod.fst sent) ?_
        have device : after.device = rig.device := congrArg (·.2.device) sent.symm
        have scheduler : after.scheduler = rig.scheduler := congrArg (·.2.scheduler) sent.symm
        simp only [settleTone, change, sent, device, scheduler]

theorem tick_of_settled {rig settled : Rig δ ρ}
    (result : rig.decay.settleTone = (.ok (), settled)) :
    rig.tick = settled.emit (.refresh (Device.picture settled.device)) := by
  rw [tick, result]

theorem tick_of_refused {rig stopped : Rig δ ρ} {failure : Failure}
    (result : rig.decay.settleTone = (.error failure, stopped)) :
    rig.tick = (.error failure, stopped) := by
  rw [tick, result]

/-- Beside counting the timers down, a tick leaves the device alone. -/
@[simp]
theorem device_tick (rig : Rig δ ρ) : rig.tick.2.device = rig.decay.device := by
  cases rig.decay.settling with
  | silent _ result => rw [tick_of_settled result, device_emit]
  | taken _ _ result => rw [tick_of_settled result, device_emit, device_emit]
  | refused _ _ result => rw [tick_of_refused result, device_emit]

/-! ## What no signal takes from a sink -/

variable {holds : ρ → Prop} (kept : ∀ signal sink, holds sink → holds (Sink.accept signal sink).2)

include kept

theorem sink_tick_of_kept {rig : Rig δ ρ} (held : holds rig.sink) : holds rig.tick.2.sink := by
  rw [← sink_decay rig] at held
  cases rig.decay.settling with
  | silent _ result =>
      rw [tick_of_settled result]
      exact kept _ _ held
  | taken _ _ result =>
      rw [tick_of_settled result]
      exact kept _ _ (kept _ _ held)
  | refused _ _ result =>
      rw [tick_of_refused result]
      exact kept _ _ held

theorem sink_act_of_kept {rig : Rig δ ρ} (held : holds rig.sink) (action : Action) :
    holds (rig.act action).sink := by
  rw [← sink_prelude rig action] at held
  cases begins : rig.beginsTick action with
  | true =>
      rw [act_of_beginsTick begins]
      exact sink_tick_of_kept kept held
  | false =>
      rw [act_of_not_beginsTick begins]
      exact held

theorem sink_play_of_kept {rig : Rig δ ρ} (held : holds rig.sink) (actions : List Action) :
    holds (rig.play actions).sink := by
  induction actions generalizing rig with
  | nil => exact held
  | cons action rest induction => exact induction (sink_act_of_kept kept held action)

end Rig
end Chip8

import Chip8.Proofs.EventLoop

/-!
# Changes of speed

The user makes a device faster or slower by one step at a time, and each change is cut off at the
bounds of the frequencies that are allowed while running. So the changes of a run are a walk on the
frequencies, from wherever the run has begun. Two walks that make the same changes stay in order and
come no further apart, and a change is undone by the opposite one unless a bound has cut it off.
-/

namespace Chip8

namespace Timing

/-- Clamping keeps frequencies in order and brings them no further apart. -/
theorem clampHz_close {low high : Nat} (ordered : low ≤ high) :
    clampHz low ≤ clampHz high ∧ clampHz high - clampHz low ≤ high - low := by
  simp only [clampHz, minHz, maxHz]
  omega

/-- A frequency that is cut off at the largest word is clamped like the frequency itself. -/
theorem clampHz_min_word (hz : Nat) : clampHz (min hz (UInt32.size - 1)) = clampHz hz := by
  simp only [clampHz, minHz, maxHz, UInt32.size]
  omega

end Timing

/-! ## Walks on the frequencies -/

namespace Event

/-- Whether an event changes the speed. -/
def changesSpeed : Event → Bool
  | .faster => true
  | .slower => true
  | _ => false

/-- The frequency after an event. -/
def hzAfter (hz : Nat) : Event → Nat
  | .faster => Timing.clampHz (hz + Console.speedStep)
  | .slower => Timing.clampHz (hz - Console.speedStep)
  | _ => hz

/-- The frequency after some events. -/
def hzAfterAll (hz : Nat) (events : List Event) : Nat := events.foldl hzAfter hz

/-- The events of a batch that come before a request to quit. -/
def beforeQuit (events : List Event) : List Event := events.takeWhile (· ≠ .quit)

theorem hzAfter_bounds {event : Event} (changes : event.changesSpeed = true) (hz : Nat) :
    Timing.minHz ≤ event.hzAfter hz ∧ event.hzAfter hz ≤ Timing.maxHz := by
  cases event with
  | faster => exact Timing.clampHz_bounds _
  | slower => exact Timing.clampHz_bounds _
  | _ => cases changes

theorem hzAfter_close {low high : Nat} (ordered : low ≤ high) (event : Event) :
    event.hzAfter low ≤ event.hzAfter high ∧
      event.hzAfter high - event.hzAfter low ≤ high - low := by
  cases event with
  | faster =>
      have close := Timing.clampHz_close (Nat.add_le_add_right ordered Console.speedStep)
      rwa [Nat.add_sub_add_right] at close
  | slower =>
      obtain ⟨inOrder, near⟩ :=
        Timing.clampHz_close (Nat.sub_le_sub_right ordered Console.speedStep)
      exact ⟨inOrder, near.trans (by omega)⟩
  | _ => exact ⟨ordered, Nat.le_refl _⟩

theorem hzAfterAll_append (hz : Nat) (first second : List Event) :
    hzAfterAll hz (first ++ second) = hzAfterAll (hzAfterAll hz first) second :=
  List.foldl_append

theorem hzAfter_of_not_changesSpeed {event : Event} (keeps : event.changesSpeed = false)
    (hz : Nat) : event.hzAfter hz = hz := by
  cases event with
  | faster => cases keeps
  | slower => cases keeps
  | _ => rfl

/-- Only the changes of speed matter to the frequency. -/
theorem hzAfterAll_filter (hz : Nat) (events : List Event) :
    hzAfterAll hz (events.filter changesSpeed) = hzAfterAll hz events := by
  induction events generalizing hz with
  | nil => rfl
  | cons event rest induction =>
      cases changes : event.changesSpeed with
      | true =>
          rw [List.filter_cons_of_pos changes]
          exact induction _
      | false =>
          rw [List.filter_cons_of_neg (Bool.eq_false_iff.mp changes), induction]
          exact congrArg (hzAfterAll · rest) (hzAfter_of_not_changesSpeed changes hz).symm

/-- A walk with a change in it ends within the bounds, because the last change does. -/
theorem hzAfterAll_bounds {events : List Event} (changed : events.filter changesSpeed ≠ [])
    (hz : Nat) :
    Timing.minHz ≤ hzAfterAll hz events ∧ hzAfterAll hz events ≤ Timing.maxHz := by
  obtain ⟨earlier, last, split⟩ := (List.eq_nil_or_concat' _).resolve_left changed
  have changes : last.changesSpeed = true := by
    refine List.of_mem_filter (l := events) ?_
    rw [split]
    exact List.mem_append_right earlier List.mem_cons_self
  rw [← hzAfterAll_filter, split, hzAfterAll_append]
  exact hzAfter_bounds changes _

theorem hzAfterAll_close {low high : Nat} (ordered : low ≤ high) (events : List Event) :
    hzAfterAll low events ≤ hzAfterAll high events ∧
      hzAfterAll high events - hzAfterAll low events ≤ high - low := by
  induction events generalizing low high with
  | nil => exact ⟨ordered, Nat.le_refl _⟩
  | cons event rest induction =>
      obtain ⟨inOrder, near⟩ := event.hzAfter_close ordered
      obtain ⟨inOrderThen, nearThen⟩ := induction inOrder
      exact ⟨inOrderThen, nearThen.trans near⟩

theorem hzAfterAll_faster_slower {hz : Nat} (low : Timing.minHz ≤ hz) (high : hz ≤ Timing.maxHz) :
    hzAfterAll hz [.faster, .slower] = min hz (Timing.maxHz - Console.speedStep) := by
  change Timing.clampHz (Timing.clampHz (hz + Console.speedStep) - Console.speedStep) = _
  simp only [Timing.clampHz, Timing.minHz, Timing.maxHz, Console.speedStep] at low high ⊢
  omega

theorem hzAfterAll_slower_faster {hz : Nat} (low : Timing.minHz ≤ hz) (high : hz ≤ Timing.maxHz) :
    hzAfterAll hz [.slower, .faster] = max hz (Timing.minHz + Console.speedStep) := by
  change Timing.clampHz (Timing.clampHz (hz - Console.speedStep) + Console.speedStep) = _
  simp only [Timing.clampHz, Timing.minHz, Timing.maxHz, Console.speedStep] at low high ⊢
  omega

end Event

/-! ## Runs -/

namespace Console

variable {δ : Type}

/-- The console that an iteration or a run leads to. -/
def Progress.console : Progress δ → Console δ
  | running console => console
  | finished console => console
  | halted _ console => console

/-- Of the scheduler, an event changes the frequency, and it may start pacing anew. -/
theorem scheduler_handle (console : Console δ) (event : Event) :
    ∃ deadline, (console.handle event).rig.scheduler =
      { console.rig.scheduler with
        timing.instructionHz := event.hzAfter console.instructionHz, deadline } := by
  cases event <;> exact ⟨_, rfl⟩

theorem scheduler_handled (console : Console δ) (events : List Event) :
    ∃ deadline, (console.handled events).rig.scheduler =
      { console.rig.scheduler with
        timing.instructionHz := Event.hzAfterAll console.instructionHz events, deadline } := by
  induction events generalizing console with
  | nil => exact ⟨_, rfl⟩
  | cons event rest induction =>
      obtain ⟨between, first⟩ := console.scheduler_handle event
      obtain ⟨deadline, later⟩ := induction (console.handle event)
      refine ⟨deadline, later.trans ?_⟩
      rw [instructionHz, first]
      rfl

theorem handleAll_snd (console : Console δ) (events : List Event) :
    (console.handleAll events).2 = console.handled (Event.beforeQuit events) := by
  induction events generalizing console with
  | nil => rfl
  | cons event rest induction =>
      cases event with
      | quit => rfl
      | _ => exact induction _

variable [Device δ]

/-- The events that a run handles, in order: none that come behind a request to quit, and none that
come behind a step that has failed. -/
def heard (console : Console δ) : List (List Event) → List Event
  | [] => []
  | events :: rest =>
      Event.beforeQuit events ++
        match console.iterate events with
        | .running next => next.heard rest
        | _ => []

/-- A batch without a request to quit is heard whole, even if the step behind it fails. -/
theorem heard_singleton (console : Console δ) {events : List Event} (stays : .quit ∉ events) :
    console.heard [events] = events := by
  have whole : Event.beforeQuit events = events := by
    refine List.takeWhile_eq_self_iff.mpr fun event member => decide_eq_true ?_
    exact ne_of_mem_of_not_mem member stays
  rw [heard, whole]
  cases console.iterate events <;> exact List.append_nil events

theorem timing_step (console : Console δ) :
    console.step.console.rig.scheduler.timing = console.rig.scheduler.timing := by
  have same : (console.rig.step console.keypad.pressed).2.scheduler.timing =
      console.rig.scheduler.timing := console.rig.timing_act (.step console.keypad.pressed)
  revert same
  rw [step]
  rcases console.rig.step console.keypad.pressed with ⟨failure | outcome, rig⟩ <;> exact id

theorem timing_iterate (console : Console δ) (events : List Event) :
    (console.iterate events).console.rig.scheduler.timing =
      { console.rig.scheduler.timing with
        instructionHz := Event.hzAfterAll console.instructionHz (Event.beforeQuit events) } := by
  obtain ⟨deadline, handled⟩ := console.scheduler_handled (Event.beforeQuit events)
  rw [← handleAll_snd] at handled
  have timed := congrArg Scheduler.timing handled
  revert timed
  rw [iterate]
  rcases console.handleAll events with ⟨quits, next⟩
  intro timed
  cases quits with
  | true => exact timed
  | false => exact next.timing_step.trans timed

/-- A run walks from its frequency through the changes that it hears, and leaves the rest of the
timing alone. -/
theorem timing_run (console : Console δ) (batches : List (List Event)) :
    (run batches console).console.rig.scheduler.timing =
      { console.rig.scheduler.timing with
        instructionHz := Event.hzAfterAll console.instructionHz (console.heard batches) } := by
  induction batches generalizing console with
  | nil => rfl
  | cons events rest induction =>
      have first := console.timing_iterate events
      rw [run, heard, Event.hzAfterAll_append]
      -- An iteration that ends the run has handled its batch, too.
      cases came : console.iterate events with
      | running next =>
          rw [came] at first
          refine (induction next).trans ?_
          rw [instructionHz, show next.rig.scheduler.timing = _ from first]
      | finished last =>
          rw [came] at first
          exact first
      | halted failure last =>
          rw [came] at first
          exact first

theorem instructionHz_run (console : Console δ) (batches : List (List Event)) :
    (run batches console).console.instructionHz =
      Event.hzAfterAll console.instructionHz
        ((console.heard batches).filter Event.changesSpeed) := by
  rw [Event.hzAfterAll_filter]
  exact congrArg Timing.instructionHz (console.timing_run batches)

end Console

open Console in
/-- The frequency of a console in every run, whatever the device is, in whatever batches the events
come and however the run ends. Once a change of speed was heard, the frequency is one that is
allowed while running. Runs that hear the same changes, on whatever devices, end in the order of the
frequencies that they began with and no further apart. From an allowed frequency, a change with the
opposite one behind it is undone exactly if no bound has cut it off. Each change is a step of fifty,
cut off at the bounds, which comes to the same if the sum is cut off at the largest word before. A
batch with no request to quit is heard whole. However many events are handled, the count towards the
next tick, the tone, the frequency of the timers and whether these stand still in a wait remain as
they were, the last two in the whole run. -/
theorem speed_changes_keep_order {δ ε : Type} [Device δ] [Device ε] (console : Console δ)
    (other : Console ε) (batches others : List (List Event)) :
    let hz := console.instructionHz
    let changes := (console.heard batches).filter Event.changesSpeed
    let last := (run batches console).console
    let otherLast := (run others other).console
    (changes ≠ [] → 60 ≤ last.instructionHz ∧ last.instructionHz ≤ 5000) ∧
    ((other.heard others).filter Event.changesSpeed = changes → hz ≤ other.instructionHz →
      last.instructionHz ≤ otherLast.instructionHz ∧
        otherLast.instructionHz - last.instructionHz ≤ other.instructionHz - hz) ∧
    (60 ≤ hz → hz ≤ 5000 →
      (changes = [.faster, .slower] →
        (last.instructionHz = hz ↔ hz ≤ 4950) ∧ (4950 < hz → last.instructionHz = 4950)) ∧
      (changes = [.slower, .faster] →
        (last.instructionHz = hz ↔ 110 ≤ hz) ∧ (hz < 110 → last.instructionHz = 110))) ∧
    (console.handle .faster).instructionHz = Timing.clampHz (min (hz + 50) (UInt32.size - 1)) ∧
    (console.handle .slower).instructionHz = Timing.clampHz (hz - 50) ∧
    (∀ events, .quit ∉ events → console.heard [events] = events) ∧
    (∀ events,
      let scheduler := (console.handleAll events).2.rig.scheduler
      scheduler.sinceTick = console.rig.scheduler.sinceTick ∧
        scheduler.tonePlaying = console.rig.scheduler.tonePlaying ∧
        scheduler.timing.timerHz = console.rig.scheduler.timing.timerHz ∧
        scheduler.timing.runWhileWaiting = console.rig.scheduler.timing.runWhileWaiting) ∧
    last.rig.scheduler.timing.timerHz = console.rig.scheduler.timing.timerHz ∧
    last.rig.scheduler.timing.runWhileWaiting = console.rig.scheduler.timing.runWhileWaiting := by
  intro hz changes last otherLast
  have timed := console.timing_run batches
  have walk : last.instructionHz = Event.hzAfterAll hz changes := console.instructionHz_run batches
  refine ⟨?_, ?_, ?_, ?_, rfl, fun events => console.heard_singleton, ?_,
    (congrArg Timing.timerHz timed :), (congrArg Timing.runWhileWaiting timed :)⟩
  · intro changed
    rw [walk, Event.hzAfterAll_filter]
    exact Event.hzAfterAll_bounds changed hz
  · intro same ordered
    have otherWalk : otherLast.instructionHz = _ := other.instructionHz_run others
    rw [walk, otherWalk, same]
    exact Event.hzAfterAll_close ordered changes
  · intro low high
    refine ⟨fun there => ?_, fun there => ?_⟩
    · rw [walk, there, Event.hzAfterAll_faster_slower low high]
      simp only [Timing.maxHz, speedStep]
      omega
    · rw [walk, there, Event.hzAfterAll_slower_faster low high]
      simp only [Timing.minHz, speedStep]
      omega
  · rw [Timing.clampHz_min_word]
    rfl
  · intro events scheduler
    obtain ⟨deadline, same⟩ := console.scheduler_handled (Event.beforeQuit events)
    rw [← handleAll_snd] at same
    rw [show scheduler = _ from same]
    exact ⟨rfl, rfl, rfl, rfl⟩

open Console in
/-- A bound that cuts a change off is felt after the opposite one: 4980 goes to 4950, though the
two changes come in different batches, and 90 goes to 110. A console that has begun with the largest
word, and that fails in its second step, has heard the same changes as the first by then and does
not end below it. -/
theorem cut_off_changes_stay :
    let machine (program : List UInt8) : Machine :=
      { Machine.powerOn ⟨Vector.replicate 8 0, 0⟩ with memory := Memory.initial.put 0x200 program }
    let spinning (hz : Nat) : Console Machine := .new (machine [0x12, 0x00]) (.new ⟨hz, 60, true⟩)
    let failing (hz : Nat) : Console Machine := .new (machine [0x60, 0x05]) (.new ⟨hz, 60, true⟩)
    let batches : List (List Event) := [[.faster, .press (.of 3)], [], [.slower, .quit, .faster]]
    let others : List (List Event) := [[.faster], [.releaseAll, .slower], [.slower]]
    let last := (run batches (spinning 4980)).console
    let otherLast := (run others (failing 4294967295)).console
    (last.instructionHz = 4950 ∧ last.instructionHz ≤ otherLast.instructionHz ∧
      otherLast.instructionHz - last.instructionHz ≤ 4294967295 - 4980 ∧
      60 ≤ last.instructionHz ∧ last.instructionHz ≤ 5000) ∧
    (run [[.slower, .faster]] (spinning 90)).console.instructionHz = 110 := by
  intro machine spinning failing batches others last otherLast
  obtain ⟨bounded, close, undone, -⟩ :=
    speed_changes_keep_order (spinning 4980) (failing 4294967295) batches others
  obtain ⟨-, -, undoneLow, -⟩ :=
    speed_changes_keep_order (spinning 90) (spinning 90) [[.slower, .faster]] []
  have changes : ((spinning 4980).heard batches).filter Event.changesSpeed =
      [.faster, .slower] := by
    decide +kernel
  have same : ((failing 4294967295).heard others).filter Event.changesSpeed =
      ((spinning 4980).heard batches).filter Event.changesSpeed := by
    rw [changes]
    decide +kernel
  have changesLow : ((spinning 90).heard [[.slower, .faster]]).filter Event.changesSpeed =
      [.slower, .faster] := by
    rw [(spinning 90).heard_singleton (by decide)]
    rfl
  have ordered : (spinning 4980).instructionHz ≤ (failing 4294967295).instructionHz := by decide
  obtain ⟨inOrder, near⟩ := close same ordered
  obtain ⟨low, high⟩ := bounded (by rw [changes]; exact List.cons_ne_nil _ _)
  exact ⟨⟨((undone (by decide) (by decide)).1 changes).2 (by decide), inOrder, near, low, high⟩,
    ((undoneLow (by decide) (by decide)).2 changesLow).2 (by decide)⟩

end Chip8

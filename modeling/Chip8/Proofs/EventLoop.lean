import Chip8.Console
import Chip8.Proofs.Cadence

/-!
# The event loop

A console talks to its user in both directions: it finds events, in whatever batches they have come
in, and sends callbacks. The events up to a request to quit decide which calls the scheduler gets.
So the batches of a run can be compiled to one run of the rig, and where the console stands after
it, and what it has sent, is read off that run.
-/

namespace Chip8

/-! ## Controls -/

/-- What a user controls. -/
structure Controls where
  timing : Timing
  keypad : Keypad

namespace Controls

/-- The frequency that an event chooses. -/
def hz? (controls : Controls) : Event → Option Nat
  | .faster => some (controls.timing.instructionHz + Console.speedStep)
  | .slower => some (controls.timing.instructionHz - Console.speedStep)
  | _ => none

/-- The controls after an event. -/
def handle (controls : Controls) (event : Event) : Controls where
  timing := (controls.hz? event).elim controls.timing controls.timing.setInstructionHz
  keypad :=
    match event with
    | .press key => controls.keypad.press key
    | .releaseAll => controls.keypad.releaseAll
    | _ => controls.keypad

/-- The controls after some events. -/
def after (controls : Controls) (events : List Event) : Controls := events.foldl handle controls

/-- The frequencies that events choose, as actions. -/
def choices (controls : Controls) : List Event → List Rig.Action
  | [] => []
  | event :: rest =>
      ((controls.hz? event).map Rig.Action.setInstructionHz).toList ++
        (controls.handle event).choices rest

/-- What iterations do to a rig that find these batches of events: each handles its batch and then
makes a step with the key of the keypad as it is then. -/
def calls (controls : Controls) : List (List Event) → List Rig.Action
  | [] => []
  | events :: rest =>
      controls.choices events ++
        .step (controls.after events).keypad.pressed :: (controls.after events).calls rest

theorem after_append (controls : Controls) (first second : List Event) :
    controls.after (first ++ second) = (controls.after first).after second :=
  List.foldl_append

theorem calls_append (controls : Controls) (first second : List (List Event)) :
    controls.calls (first ++ second) =
      controls.calls first ++ (controls.after first.flatten).calls second := by
  induction first generalizing controls with
  | nil => rfl
  | cons events first induction =>
      rw [List.cons_append, calls, calls, induction, List.flatten_cons, after_append,
        List.append_assoc, List.cons_append]

theorem timingAfter_choices (controls : Controls) (events : List Event) :
    Rig.timingAfter controls.timing (controls.choices events) = (controls.after events).timing := by
  induction events generalizing controls with
  | nil => rfl
  | cons event rest induction =>
      rw [choices, Rig.timingAfter_append]
      refine Eq.trans ?_ (induction (controls.handle event))
      cases event <;> rfl

theorem timingAfter_calls (controls : Controls) (batches : List (List Event)) :
    Rig.timingAfter controls.timing (controls.calls batches) =
      (controls.after batches.flatten).timing := by
  induction batches generalizing controls with
  | nil => rfl
  | cons events rest induction =>
      rw [calls, Rig.timingAfter_append, timingAfter_choices, List.flatten_cons, after_append]
      exact induction _

variable {δ ρ : Type} [Device δ] [Sink ρ]

theorem answers_choices (controls : Controls) (rig : Rig δ ρ) (events : List Event) :
    rig.answers (controls.choices events) = [] := by
  induction events generalizing controls rig with
  | nil => rfl
  | cons event rest induction =>
      rw [choices, Rig.answers_append, induction, List.append_nil]
      cases event <;> rfl

theorem answers_calls_singleton (controls : Controls) (rig : Rig δ ρ) (events : List Event) :
    rig.answers (controls.calls [events]) =
      [((rig.play (controls.choices events)).step (controls.after events).keypad.pressed).1] := by
  rw [calls, Rig.answers_append, answers_choices]
  rfl

theorem play_calls_singleton (controls : Controls) (rig : Rig δ ρ) (events : List Event) :
    rig.play (controls.calls [events]) =
      (rig.play (controls.choices events)).act (.step (controls.after events).keypad.pressed) := by
  rw [calls, Rig.play_append]
  rfl

end Controls

/-! ## One iteration -/

namespace Console

variable {δ : Type}

/-- The controls as they stand. -/
def controls (console : Console δ) : Controls :=
  ⟨console.rig.scheduler.timing, console.keypad⟩

/-- The console after some events, none of which is a request to quit. -/
def handled (console : Console δ) (events : List Event) : Console δ :=
  events.foldl handle console

theorem handleAll_of_not_mem (console : Console δ) {events : List Event}
    (stays : .quit ∉ events) : console.handleAll events = (false, console.handled events) := by
  induction events generalizing console with
  | nil => rfl
  | cons event rest induction =>
      obtain ⟨other, later⟩ := List.ne_and_not_mem_of_not_mem_cons stays
      cases event with
      | quit => exact absurd rfl other
      | _ => exact induction _ later

theorem handleAll_of_quit (console : Console δ) {front : List Event} (stays : .quit ∉ front)
    (behind : List Event) :
    console.handleAll (front ++ .quit :: behind) = (true, console.handled front) := by
  induction front generalizing console with
  | nil => rfl
  | cons event front induction =>
      obtain ⟨other, later⟩ := List.ne_and_not_mem_of_not_mem_cons stays
      cases event with
      | quit => exact absurd rfl other
      | _ => exact induction _ later

variable [Device δ]

theorem handled_eq (console : Console δ) (events : List Event) :
    console.handled events =
      ⟨console.rig.play (console.controls.choices events),
        (console.controls.after events).keypad⟩ := by
  induction events generalizing console with
  | nil => rfl
  | cons event rest induction =>
      have step : console.handled (event :: rest) = (console.handle event).handled rest := rfl
      rw [step, induction, Controls.choices, Rig.play_append]
      cases event <;> rfl

theorem step_eq_running_iff {console next : Console δ} :
    console.step = .running next ↔
      ∃ outcome, (console.rig.step console.keypad.pressed).1 = .ok outcome ∧
        next = ⟨console.rig.act (.step console.keypad.pressed), console.keypad⟩ := by
  rw [step, Rig.act]
  rcases console.rig.step console.keypad.pressed with ⟨failure | outcome, rig⟩
  · simp
  · simp [eq_comm]

theorem step_eq_halted_iff {console last : Console δ} {failure : Failure} :
    console.step = .halted failure last ↔
      (console.rig.step console.keypad.pressed).1 = .error failure ∧
        last = close ⟨console.rig.act (.step console.keypad.pressed), console.keypad⟩ := by
  rw [step, Rig.act]
  rcases console.rig.step console.keypad.pressed with ⟨failure | outcome, rig⟩
  · simp [eq_comm]
  · simp

theorem step_ne_finished {console last : Console δ} : console.step ≠ .finished last := by
  rw [step]
  rcases console.rig.step console.keypad.pressed with ⟨failure | outcome, rig⟩ <;> exact nofun

theorem iterate_of_not_mem (console : Console δ) {events : List Event} (stays : .quit ∉ events) :
    console.iterate events = (console.handled events).step := by
  rw [iterate, handleAll_of_not_mem console stays]

theorem iterate_of_quit (console : Console δ) {front : List Event} (stays : .quit ∉ front)
    (behind : List Event) :
    console.iterate (front ++ .quit :: behind) = .finished (console.handled front) := by
  rw [iterate, handleAll_of_quit console stays]

/-! ## Iterations -/

/-- What the steps come to in iterations that find these batches. -/
def answers (console : Console δ) (batches : List (List Event)) : List (Attempt Outcome) :=
  console.rig.answers (console.controls.calls batches)

/-- The console after iterations that find these batches, as far as none of them ends it. -/
def reached (console : Console δ) (batches : List (List Event)) : Console δ :=
  ⟨console.rig.play (console.controls.calls batches),
    (console.controls.after batches.flatten).keypad⟩

theorem controls_reached (console : Console δ) (batches : List (List Event)) :
    (console.reached batches).controls = console.controls.after batches.flatten := by
  rw [reached, controls, Rig.timing_play]
  exact congrArg (Controls.mk · _) (console.controls.timingAfter_calls batches)

theorem answers_append (console : Console δ) (first second : List (List Event)) :
    console.answers (first ++ second) =
      console.answers first ++ (console.reached first).answers second := by
  rw [answers, Controls.calls_append, Rig.answers_append, answers, answers, controls_reached]
  rfl

theorem reached_append (console : Console δ) (first second : List (List Event)) :
    console.reached (first ++ second) = (console.reached first).reached second := by
  rw [reached, Controls.calls_append, Rig.play_append, List.flatten_append, Controls.after_append,
    reached, controls_reached]
  rfl

theorem answers_singleton (console : Console δ) (events : List Event) :
    console.answers [events] =
      [((console.handled events).rig.step (console.handled events).keypad.pressed).1] := by
  rw [answers, Controls.answers_calls_singleton, handled_eq]

theorem reached_singleton (console : Console δ) (events : List Event) :
    console.reached [events] =
      ⟨(console.handled events).rig.act (.step (console.handled events).keypad.pressed),
        (console.handled events).keypad⟩ := by
  rw [reached, Controls.play_calls_singleton, List.flatten_singleton, handled_eq]

/-- An iteration goes on if it finds no request to quit and its step succeeds. -/
theorem iterate_eq_running_iff {console next : Console δ} {events : List Event} :
    console.iterate events = .running next ↔
      .quit ∉ events ∧ (∀ answer ∈ console.answers [events], answer.isOk) ∧
        next = console.reached [events] := by
  by_cases quits : .quit ∈ events
  · obtain ⟨front, behind, rfl, stays⟩ := List.eq_append_cons_of_mem quits
    rw [iterate_of_quit console stays]
    simp
  · rw [iterate_of_not_mem console quits, step_eq_running_iff, answers_singleton,
      reached_singleton, List.forall_mem_singleton, Attempt.isOk_iff]
    simp [quits]

theorem iterate_eq_halted_iff {console last : Console δ} {failure : Failure}
    {events : List Event} :
    console.iterate events = .halted failure last ↔
      .quit ∉ events ∧ console.answers [events] = [.error failure] ∧
        last = (console.reached [events]).close := by
  by_cases quits : .quit ∈ events
  · obtain ⟨front, behind, rfl, stays⟩ := List.eq_append_cons_of_mem quits
    rw [iterate_of_quit console stays]
    simp
  · rw [iterate_of_not_mem console quits, step_eq_halted_iff, answers_singleton,
      reached_singleton, List.singleton_inj]
    simp [quits]

theorem iterate_eq_finished_iff {console last : Console δ} {events : List Event} :
    console.iterate events = .finished last ↔
      ∃ front behind, events = front ++ .quit :: behind ∧ .quit ∉ front ∧
        last = console.handled front := by
  constructor
  · intro ends
    by_cases quits : .quit ∈ events
    · obtain ⟨front, behind, rfl, stays⟩ := List.eq_append_cons_of_mem quits
      rw [iterate_of_quit console stays] at ends
      cases ends
      exact ⟨front, behind, rfl, stays, rfl⟩
    · rw [iterate_of_not_mem console quits] at ends
      exact absurd ends step_ne_finished
  · rintro ⟨front, behind, rfl, stays, rfl⟩
    exact iterate_of_quit console stays behind

/-! ## Runs -/

theorem run_cons_eq_running_iff {console next : Console δ} {events : List Event}
    {rest : List (List Event)} :
    run (events :: rest) console = .running next ↔
      ∃ between, console.iterate events = .running between ∧ run rest between = .running next := by
  rw [run]
  cases console.iterate events <;> simp

/-- A console goes on as long as it finds no request to quit and no step fails. -/
theorem run_eq_running_iff {console next : Console δ} {batches : List (List Event)} :
    run batches console = .running next ↔
      .quit ∉ batches.flatten ∧ (∀ answer ∈ console.answers batches, answer.isOk) ∧
        next = console.reached batches := by
  induction batches generalizing console with
  | nil =>
      constructor
      · rintro ⟨⟩
        exact ⟨List.not_mem_nil, fun answer member => absurd member List.not_mem_nil, rfl⟩
      · rintro ⟨-, -, rfl⟩
        rfl
  | cons events rest induction =>
      have split : events :: rest = [events] ++ rest := rfl
      rw [run_cons_eq_running_iff, split, List.flatten_append, List.flatten_singleton,
        answers_append, reached_append, List.forall_mem_append, List.mem_append, not_or]
      constructor
      · rintro ⟨between, first, later⟩
        obtain ⟨stays, succeeds, rfl⟩ := iterate_eq_running_iff.mp first
        obtain ⟨staysOn, succeedsOn, reaches⟩ := induction.mp later
        exact ⟨⟨stays, staysOn⟩, ⟨succeeds, succeedsOn⟩, reaches⟩
      · rintro ⟨⟨stays, staysOn⟩, ⟨succeeds, succeedsOn⟩, reaches⟩
        exact ⟨_, iterate_eq_running_iff.mpr ⟨stays, succeeds, rfl⟩,
          induction.mpr ⟨staysOn, succeedsOn, reaches⟩⟩

theorem run_append_of_running {console next : Console δ} {first : List (List Event)}
    (goesOn : run first console = .running next) (second : List (List Event)) :
    run (first ++ second) console = run second next := by
  induction first generalizing console with
  | nil =>
      cases goesOn
      rfl
  | cons events first induction =>
      obtain ⟨between, begins, later⟩ := run_cons_eq_running_iff.mp goesOn
      rw [List.cons_append, run, begins]
      exact induction later

/-- A console ends in the first iteration that ends it. -/
theorem run_eq_iff_of_ended {console : Console δ} {ended : Progress δ}
    (notRunning : ∀ next, ended ≠ .running next) {batches : List (List Event)} :
    run batches console = ended ↔
      ∃ earlier events later next, batches = earlier ++ events :: later ∧
        run earlier console = .running next ∧ next.iterate events = ended := by
  constructor
  · intro ends
    -- Either the first iteration ends the console, or the same happens later from where it led.
    induction batches generalizing console with
    | nil => exact absurd ends.symm (notRunning console)
    | cons events rest induction =>
        cases first : console.iterate events with
        | running between =>
            rw [run, first] at ends
            obtain ⟨earlier, last, later, next, rfl, goesOn, stops⟩ := induction ends
            exact ⟨events :: earlier, last, later, next, rfl,
              run_cons_eq_running_iff.mpr ⟨between, first, goesOn⟩, stops⟩
        | finished last =>
            rw [run, first] at ends
            exact ⟨[], events, rest, console, rfl, rfl, first.trans ends⟩
        | halted failure last =>
            rw [run, first] at ends
            exact ⟨[], events, rest, console, rfl, rfl, first.trans ends⟩
  · rintro ⟨earlier, events, later, next, rfl, goesOn, stops⟩
    rw [run_append_of_running goesOn, run, stops]
    cases ended with
    | running next => exact absurd rfl (notRunning next)
    | finished last => rfl
    | halted failure last => rfl

theorem handled_reached (console : Console δ) (earlier : List (List Event)) (front : List Event) :
    (console.reached earlier).handled front =
      ⟨console.rig.play (console.controls.calls earlier ++
          (console.controls.after earlier.flatten).choices front),
        (console.controls.after (earlier.flatten ++ front)).keypad⟩ := by
  rw [handled_eq, controls_reached, Rig.play_append, Controls.after_append]
  rfl

theorem run_eq_finished_iff {console last : Console δ} {batches : List (List Event)} :
    run batches console = .finished last ↔
      ∃ earlier front behind later, batches = earlier ++ (front ++ .quit :: behind) :: later ∧
        .quit ∉ earlier.flatten ++ front ∧
        (∀ answer ∈ console.answers earlier, answer.isOk) ∧
        last = (console.reached earlier).handled front := by
  have notRunning : ∀ next, Progress.finished last ≠ .running next := nofun
  rw [run_eq_iff_of_ended notRunning]
  constructor
  · rintro ⟨earlier, events, later, next, rfl, goesOn, ends⟩
    obtain ⟨stays, succeed, rfl⟩ := run_eq_running_iff.mp goesOn
    obtain ⟨front, behind, rfl, staysOn, rfl⟩ := iterate_eq_finished_iff.mp ends
    exact ⟨earlier, front, behind, later, rfl, List.not_mem_append stays staysOn, succeed, rfl⟩
  · rintro ⟨earlier, front, behind, later, rfl, stays, succeed, rfl⟩
    obtain ⟨staysBefore, staysOn⟩ := not_or.mp (mt List.mem_append.mpr stays)
    exact ⟨earlier, _, later, _, rfl, run_eq_running_iff.mpr ⟨staysBefore, succeed, rfl⟩,
      iterate_eq_finished_iff.mpr ⟨front, behind, rfl, staysOn, rfl⟩⟩

theorem run_eq_halted_iff {console last : Console δ} {failure : Failure}
    {batches : List (List Event)} :
    run batches console = .halted failure last ↔
      ∃ earlier events later, batches = earlier ++ events :: later ∧
        .quit ∉ earlier.flatten ++ events ∧
        (∀ answer ∈ console.answers earlier, answer.isOk) ∧
        console.answers (earlier ++ [events]) = console.answers earlier ++ [.error failure] ∧
        last = (console.reached (earlier ++ [events])).close := by
  have notRunning : ∀ next, Progress.halted failure last ≠ .running next := nofun
  rw [run_eq_iff_of_ended notRunning]
  constructor
  · rintro ⟨earlier, events, later, next, rfl, goesOn, stops⟩
    obtain ⟨stays, succeed, rfl⟩ := run_eq_running_iff.mp goesOn
    obtain ⟨staysOn, fails, rfl⟩ := iterate_eq_halted_iff.mp stops
    refine ⟨earlier, events, later, rfl, List.not_mem_append stays staysOn, succeed, ?_, ?_⟩
    · rw [answers_append, fails]
    · rw [reached_append]
  · rintro ⟨earlier, events, later, rfl, stays, succeed, fails, rfl⟩
    obtain ⟨staysBefore, staysOn⟩ := not_or.mp (mt List.mem_append.mpr stays)
    rw [answers_append] at fails
    refine ⟨earlier, events, later, _, rfl, run_eq_running_iff.mpr ⟨staysBefore, succeed, rfl⟩,
      iterate_eq_halted_iff.mpr ⟨staysOn, List.append_cancel_left fails, ?_⟩⟩
    rw [reached_append]

end Console

/-! ## Callbacks -/

namespace Terminal.Output

/-- The screen is there, and nobody has closed it. -/
def Open (output : Output) : Prop := output.channel.connected ∧ .quit ∉ output.channel.sent

theorem Open.accept {output : Output} (isOpen : output.Open) (signal : Signal) :
    (Sink.accept signal output).2.Open := by
  cases signal with
  | startTone => exact isOpen
  | stopTone => exact isOpen
  | refresh picture =>
      obtain ⟨connected, noQuit⟩ := isOpen
      change (output.send (.present ⟨picture, output.tone⟩)).2.Open
      rw [send, Channel.send, if_pos connected]
      refine ⟨connected, fun quit => ?_⟩
      rcases List.mem_append.mp quit with before | now
      · exact noQuit before
      · cases List.mem_singleton.mp now

end Terminal.Output

/-- Closing an open screen is the last thing that is sent to it. -/
theorem Console.close_of_open {δ : Type} [Device δ] {console : Console δ}
    (isOpen : console.rig.sink.Open) :
    console.close =
      ⟨{ console.rig with sink.channel.sent := console.rig.sink.channel.sent ++ [.quit] },
        console.keypad⟩ := by
  rw [close, Terminal.Output.send, Terminal.Channel.send, if_pos isOpen.1]

open Console in
/-- What a console does, from its first iteration in front of an open screen on, whatever the device
is and in whatever batches the events come. It has ended at the user's request exactly if it has
found one with all earlier steps done; every event before the request was handled, once and in
order, and nothing came of the others. It has ended with a fault exactly if a step has failed and no
request was found until then; closing the screen is the last that was sent. Otherwise it goes on.
Apart from closing, what was sent is what the calls of a scheduler send: each iteration chooses the
frequencies of its batch and makes a step with the key of the keypad that all events so far lead
to. -/
theorem console_follows_events {δ : Type} [Device δ] (device : δ) (scheduler : Scheduler)
    (batches : List (List Event)) :
    let start : Rig δ Terminal.Output := ⟨device, scheduler, .fresh⟩
    let controls : Controls := ⟨scheduler.timing, .idle⟩
    (∀ console : Console δ, run batches (.new device scheduler) = .finished console ↔
      ∃ earlier front behind later, batches = earlier ++ (front ++ .quit :: behind) :: later ∧
        .quit ∉ earlier.flatten ++ front ∧
        (∀ answer ∈ start.answers (controls.calls earlier), answer.isOk) ∧
        console =
          ⟨start.play (controls.calls earlier ++ (controls.after earlier.flatten).choices front),
            (controls.after (earlier.flatten ++ front)).keypad⟩) ∧
    (∀ (cause : Fault) (console : Console δ),
      run batches (.new device scheduler) = .halted (.fault cause) console ↔
        ∃ earlier events later, batches = earlier ++ events :: later ∧
          .quit ∉ earlier.flatten ++ events ∧
          (∀ answer ∈ start.answers (controls.calls earlier), answer.isOk) ∧
          start.answers (controls.calls (earlier ++ [events])) =
            start.answers (controls.calls earlier) ++ [.error (.fault cause)] ∧
          let stopped := start.play (controls.calls (earlier ++ [events]))
          console =
            ⟨{ stopped with sink.channel.sent := stopped.sink.channel.sent ++ [.quit] },
              (controls.after (earlier.flatten ++ events)).keypad⟩) ∧
    (∀ console : Console δ, run batches (.new device scheduler) = .running console ↔
      .quit ∉ batches.flatten ∧
        (∀ answer ∈ start.answers (controls.calls batches), answer.isOk) ∧
        console =
          ⟨start.play (controls.calls batches), (controls.after batches.flatten).keypad⟩) ∧
    (∀ actions, .quit ∉ (start.play actions).sink.channel.sent) ∧
    ∀ earlier events,
      let handled := controls.calls earlier ++ (controls.after earlier.flatten).choices events
      controls.calls (earlier ++ [events]) =
          handled ++ [.step (controls.after (earlier.flatten ++ events)).keypad.pressed] ∧
        (start.play handled).scheduler.timing =
          (controls.after (earlier.flatten ++ events)).timing := by
  intro start controls
  have isOpen : ∀ actions, (start.play actions).sink.Open :=
    Rig.sink_play_of_kept (fun signal output held => held.accept signal)
      ⟨rfl, List.not_mem_nil⟩
  refine ⟨?_, ?_, ?_, fun actions => (isOpen actions).2, ?_⟩
  · intro console
    simp only [run_eq_finished_iff, handled_reached]
    rfl
  · intro cause console
    have closed : ∀ batches, ((Console.new device scheduler).reached batches).close = _ :=
      fun batches => close_of_open (isOpen (controls.calls batches))
    simp only [run_eq_halted_iff, closed]
    simp only [reached, List.flatten_append, List.flatten_singleton]
    rfl
  · intro console
    exact run_eq_running_iff
  · intro earlier events handled
    refine ⟨?_, ?_⟩
    · rw [Controls.calls_append, Controls.after_append, List.append_assoc]
      rfl
    · rw [Rig.timing_play, Rig.timingAfter_append, Controls.after_append,
        ← Controls.timingAfter_choices]
      exact congrArg (Rig.timingAfter · _) (controls.timingAfter_calls earlier)

open Console in
/-- `LD V0, 5` and then no instruction, with a tick in every cycle. A request to quit in the middle
of the second batch comes before the failure and leaves one view on its way to the screen, which
nobody closes. Without it the second step fails, and closing the screen comes behind that view. -/
theorem quit_comes_before_failure :
    let machine : Machine :=
      { Machine.powerOn ⟨Vector.replicate 8 0, 0⟩ with
        memory := Memory.initial.put 0x200 [0x60, 0x05] }
    let start : Console Machine := .new machine (.new ⟨60, 60, true⟩)
    let first : List Event := [.press (.of 3), .slower]
    (∃ console, run [first, [.faster, .quit, .releaseAll], []] start = .finished console ∧
      console.instructionHz = 110 ∧ console.keypad.pressed = some (.of 3) ∧
      console.rig.sink.channel.sent.length = 1 ∧ .quit ∉ console.rig.sink.channel.sent) ∧
    ∃ console, run [first, [.faster], []] start = .halted (.fault (.unknownOpcode 0)) console ∧
      console.rig.sink.channel.sent.length = 2 ∧
      console.rig.sink.channel.sent.getLast? = some .quit := by
  intro machine start first
  obtain ⟨finishes, -, -, noQuit, -⟩ :=
    console_follows_events machine (.new ⟨60, 60, true⟩) [first, [.faster, .quit, .releaseAll], []]
  obtain ⟨-, halts, -⟩ :=
    console_follows_events machine (.new ⟨60, 60, true⟩) [first, [.faster], []]
  let rig : Rig Machine Terminal.Output := ⟨machine, .new ⟨60, 60, true⟩, .fresh⟩
  let controls : Controls := ⟨⟨60, 60, true⟩, .idle⟩
  have succeeds : ∀ answer ∈ rig.answers (controls.calls [first]), answer.isOk := by
    decide +kernel
  have fails : rig.answers (controls.calls [first, [.faster]]) =
      rig.answers (controls.calls [first]) ++ [.error (.fault (.unknownOpcode 0))] := by
    decide +kernel
  refine ⟨⟨_, (finishes _).mpr ⟨[first], [.faster], [.releaseAll], [[]], rfl, ?_, succeeds, rfl⟩,
    ?_, ?_, ?_, noQuit _⟩, _, (halts _ _).mpr ⟨[first], [.faster], [[]], rfl, ?_, succeeds, fails,
      rfl⟩, ?_, ?_⟩
  all_goals decide +kernel

end Chip8

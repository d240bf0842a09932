import Chip8.Proofs.Tone
import Chip8.Terminal

/-!
# Screens

What a terminal shows if the callbacks of a rig wait before they run. Each tick sends one callback,
which holds the picture and the tone of the tick. Callbacks run in the order in which they were
sent. So the callback of a tick puts on the screen what the machine showed in that tick, whatever
has become of the machine since.
-/

namespace Chip8

open Terminal

/-! ## Views -/

namespace Terminal

/-- A view prints a cell for each lit pixel, and below the picture the text of the tone. -/
theorem View.mem_prints_iff {view : View} {print : Print} :
    print ∈ view.prints ↔
      (∃ x y, x < Picture.width ∧ y < Picture.height ∧ view.picture.lit x y ∧
        print = ⟨x, y, " ", .black⟩) ∨
      view.tone ∧ print = ⟨0, Picture.height, toneText, .plain⟩ := by
  have cell : print ∈ cells view.picture ↔
      ∃ x y, x < Picture.width ∧ y < Picture.height ∧ view.picture.lit x y ∧
        print = ⟨x, y, " ", .black⟩ := by
    simp only [cells, List.mem_map, Prod.exists, Picture.mem_litPixels_iff]
    grind
  rw [prints, List.mem_append, cell]
  cases view.tone <;> simp

theorem Screen.length_layers_handle (screen : Screen) (view : View) :
    (screen.handle (.present view)).layers.length = max 1 screen.layers.length := by
  rw [handle, addLayer, popLayer, List.length_cons, List.length_tail]
  omega

end Terminal

/-! ## Ticks in front of a terminal -/

namespace Rig

variable {δ : Type} [Device δ]

/-- What a tick that begins in a rig shows. -/
def view (rig : Rig δ Output) : View :=
  ⟨Device.picture rig.decay.device, Device.sounding rig.decay.device⟩

/-- The channel has a receiver, and the sink holds the tone that the scheduler believes in. -/
structure InTune (rig : Rig δ Output) : Prop where
  connected : rig.sink.channel.connected
  tone : rig.sink.tone = rig.scheduler.tonePlaying

namespace InTune

variable {rig : Rig δ Output}

theorem prelude (inTune : rig.InTune) (action : Action) : (rig.prelude action).InTune := by
  refine ⟨?_, ?_⟩
  · rw [sink_prelude]
    exact inTune.connected
  · rw [sink_prelude, tonePlaying_prelude]
    exact inTune.tone

/-- Settling the tone before the refresh cannot fail. The sink then holds the tone of the device. -/
theorem settleTone (inTune : rig.InTune) :
    ∃ settled : Rig δ Output, rig.decay.settleTone = (.ok (), settled) ∧ settled.InTune ∧
      settled.device = rig.decay.device ∧ settled.sink.channel = rig.sink.channel ∧
      settled.sink.tone = Device.sounding rig.decay.device := by
  obtain ⟨connected, tone⟩ := inTune
  rw [← sink_decay rig] at connected
  rw [← sink_decay rig, ← scheduler_decay rig] at tone
  rw [← sink_decay rig]
  cases rig.decay.settling with
  | silent same result =>
      have agreed := toneChange_eq_none_iff.mp same
      exact ⟨_, result, ⟨connected, tone⟩, rfl, rfl, tone.trans agreed⟩
  | taken change _ result =>
      refine ⟨_, result, ?_⟩
      rw [(toneChange_eq_some_iff.mp change).2]
      cases Device.sounding rig.decay.device with
      | true => exact ⟨⟨connected, rfl⟩, rfl, rfl, rfl⟩
      | false => exact ⟨⟨connected, rfl⟩, rfl, rfl, rfl⟩
  | refused change answer _ =>
      -- The sink only remembers the tone, which cannot fail.
      rw [(toneChange_eq_some_iff.mp change).2] at answer
      revert answer
      cases Device.sounding rig.decay.device <;> exact fun answer => nomatch answer

/-- A tick sends one callback, with the picture and the tone of the device after the decay. -/
theorem tick (inTune : rig.InTune) :
    rig.tick.2.InTune ∧
      rig.tick.2.sink.channel.sent = rig.sink.channel.sent ++ [.present rig.view] := by
  obtain ⟨settled, result, ⟨connected, agreed⟩, device, channel, tone⟩ := inTune.settleTone
  rw [channel] at connected
  have sends : (settled.emit (.refresh (Device.picture settled.device))).2 =
      { settled with sink := { settled.sink with channel :=
        ⟨rig.sink.channel.sent ++ [.present rig.view], true⟩ } } := by
    simp only [emit, Sink.accept, Output.accept, Output.send, Channel.send, connected, if_true,
      channel, device, tone, view]
  rw [tick_of_settled result, sends]
  exact ⟨⟨rfl, agreed⟩, rfl⟩

/-- Beside what it says about the tone, a tick calls the sink for one refresh. -/
theorem refreshes_tickCalls (inTune : rig.InTune) :
    (rig.tickCalls.map Call.signal).filter (fun signal => !signal.isTone) =
      [.refresh (Device.picture rig.decay.device)] := by
  obtain ⟨settled, result, -, device, -⟩ := inTune.settleTone
  have refresh (picture : Picture) : (Signal.refresh picture).isTone = false := rfl
  rw [tickCalls, result]
  cases change : rig.decay.toneChange with
  | none => simp [device, refresh]
  | some signal => simp [device, refresh, isTone_of_toneChange change]

theorem act (inTune : rig.InTune) (action : Action) :
    (rig.act action).InTune ∧
      (rig.act action).sink.channel.sent = rig.sink.channel.sent ++
        if rig.beginsTick action then [.present (rig.prelude action).view] else [] := by
  have before := inTune.prelude action
  cases begins : rig.beginsTick action with
  | true =>
      rw [act_of_beginsTick begins, ← sink_prelude rig action]
      exact before.tick
  | false =>
      rw [act_of_not_beginsTick begins, ← sink_prelude rig action]
      exact ⟨before, (List.append_nil _).symm⟩

end InTune
end Rig

/-! ## Deliveries -/

/-- A rig in front of a terminal, and the screen on which the callbacks of the rig run. -/
structure Showing (δ : Type) where
  rig : Rig δ Output
  screen : Screen

/-- The run of a callback, and the screen that it found. -/
structure Delivery where
  callback : Callback
  before : Screen
  deriving DecidableEq

/-- The screen behind the run of a callback. -/
def Delivery.after (delivery : Delivery) : Screen := delivery.before.handle delivery.callback

namespace Showing

/-- Something that happens: the rig is driven, the oldest callback that waits is run, or somebody
else changes the screen. -/
inductive Action where
  | drive (action : Rig.Action)
  | deliver
  | arrange (screen : Screen)

variable {δ : Type}

/-- The callbacks that wait. -/
def pending (showing : Showing δ) : List Callback := showing.rig.sink.channel.sent

/-- The rig when only some callbacks wait. -/
def rigWith (showing : Showing δ) (sent : List Callback) : Rig δ Output :=
  { showing.rig with sink := { showing.rig.sink with channel :=
    { showing.rig.sink.channel with sent } } }

/-- The run of a callback that an action is, if one waits. -/
def delivery? (showing : Showing δ) : Action → Option Delivery
  | .deliver => showing.pending.head?.map fun callback => ⟨callback, showing.screen⟩
  | .drive _ | .arrange _ => none

variable [Device δ]

/-- The rig in which the tick of an action begins. -/
def tick? (showing : Showing δ) : Action → Option (Rig δ Output)
  | .drive action =>
      if showing.rig.beginsTick action then some (showing.rig.prelude action) else none
  | .deliver | .arrange _ => none

/-- What is there after an action. -/
def act (showing : Showing δ) : Action → Showing δ
  | .drive action => { showing with rig := showing.rig.act action }
  | .deliver =>
      match showing.pending with
      | [] => showing
      | callback :: later => ⟨showing.rigWith later, showing.screen.handle callback⟩
  | .arrange screen => { showing with screen }

/-- What is there after a run. -/
def run (showing : Showing δ) : List Action → Showing δ
  | [] => showing
  | action :: rest => (showing.act action).run rest

/-- The rigs in which the ticks of a run begin, in order. -/
def ticks (showing : Showing δ) : List Action → List (Rig δ Output)
  | [] => []
  | action :: rest => (showing.tick? action).toList ++ (showing.act action).ticks rest

/-- The runs of callbacks in a run, in order. -/
def deliveries (showing : Showing δ) : List Action → List Delivery
  | [] => []
  | action :: rest => (showing.delivery? action).toList ++ (showing.act action).deliveries rest

variable {showing : Showing δ}

/-- What waits before an action and what it sends is what it runs and what waits behind it. -/
theorem act_conserves (inTune : showing.rig.InTune) (action : Action) :
    (showing.act action).rig.InTune ∧
      showing.pending ++ (showing.tick? action).toList.map (fun rig => .present rig.view) =
        (showing.delivery? action).toList.map Delivery.callback ++
          (showing.act action).pending := by
  cases action with
  | drive action =>
      obtain ⟨still, sent⟩ := inTune.act action
      refine ⟨still, ?_⟩
      rw [tick?, delivery?, act, pending, pending, sent]
      split <;> rfl
  | deliver =>
      rw [tick?, act, delivery?]
      cases waits : showing.pending with
      | nil => exact ⟨inTune, waits.symm⟩
      | cons callback later => exact ⟨⟨inTune.connected, inTune.tone⟩, List.append_nil _⟩
  | arrange screen => exact ⟨inTune, List.append_nil _⟩

theorem run_conserves (inTune : showing.rig.InTune) (actions : List Action) :
    showing.pending ++ (showing.ticks actions).map (fun rig => .present rig.view) =
      (showing.deliveries actions).map Delivery.callback ++ (showing.run actions).pending := by
  induction actions generalizing showing with
  | nil => simp [ticks, deliveries, run]
  | cons action rest induction =>
      obtain ⟨still, step⟩ := act_conserves inTune action
      rw [ticks, deliveries, run, List.map_append, List.map_append, ← List.append_assoc, step,
        List.append_assoc, induction still, List.append_assoc]

theorem inTune_of_mem_ticks (inTune : showing.rig.InTune) {actions : List Action}
    {ticking : Rig δ Output} (ticks : ticking ∈ showing.ticks actions) : ticking.InTune := by
  induction actions generalizing showing with
  | nil => cases ticks
  | cons action rest induction =>
      rcases List.mem_append.mp ticks with here | later
      · cases action with
        | drive action =>
            rw [tick?, Option.mem_toList] at here
            split at here
            · cases here
              exact inTune.prelude action
            · cases here
        | deliver => cases here
        | arrange screen => cases here
      · exact induction (act_conserves inTune action).1 later

/-- The callback that runs in a place among the others is that of the tick in the same place. -/
theorem callback_of_deliveries (inTune : showing.rig.InTune) (empty : showing.pending = [])
    {actions : List Action} {i : Nat} {delivery : Delivery}
    (found : (showing.deliveries actions)[i]? = some delivery) :
    ∃ ticking, (showing.ticks actions)[i]? = some ticking ∧
      delivery.callback = .present ticking.view := by
  have sends := run_conserves inTune actions
  rw [empty, List.nil_append] at sends
  have sent : ((showing.ticks actions).map fun rig => Callback.present rig.view)[i]? =
      some delivery.callback := by
    obtain ⟨inside, -⟩ := List.getElem?_eq_some_iff.mp found
    rw [sends, List.getElem?_append_left (by rwa [List.length_map]), List.getElem?_map, found]
    rfl
  rw [List.getElem?_map, Option.map_eq_some_iff] at sent
  obtain ⟨ticking, there, presents⟩ := sent
  exact ⟨ticking, there, presents.symm⟩

end Showing

/-- Whatever a new scheduler does with a machine in front of a new terminal, and whenever callbacks
run on whatever screen: each tick refreshes once and sends one callback, and callbacks run in the
order of their ticks. The callback of a tick takes the place of the top layer, if there is one, with
a view that prints the cells of the pixels that were lit in the tick, and below them the text of the
tone if the sound timer was running after the decay of the tick. -/
theorem screen_shows_tick (machine : Machine) (timing : Timing) (screen : Screen)
    (actions : List Showing.Action) :
    let showing : Showing Machine := ⟨⟨machine, .new timing, .fresh⟩, screen⟩
    let ticks := showing.ticks actions
    let deliveries := showing.deliveries actions
    (∀ ticking ∈ ticks,
      (ticking.tickCalls.map Rig.Call.signal).filter (fun signal => !signal.isTone) =
        [.refresh ticking.decay.device.picture]) ∧
    ticks.length = deliveries.length + (showing.run actions).pending.length ∧
    ∀ (i : Nat) (delivery : Delivery), deliveries[i]? = some delivery →
      ∃ ticking : Rig Machine Output, ticks[i]? = some ticking ∧
        delivery.after.layers.length = max 1 delivery.before.layers.length ∧
        ∃ view : View, delivery.after.layers = view :: delivery.before.layers.tail ∧
          ∀ print, print ∈ view.prints ↔
            (∃ x y, x < 64 ∧ y < 32 ∧ ticking.decay.device.picture.lit x y ∧
              print = ⟨x, y, " ", .black⟩) ∨
            ticking.decay.device.registers.sound ≠ 0 ∧
              print = ⟨0, 32, View.toneText, .plain⟩ := by
  intro showing ticks deliveries
  have inTune : showing.rig.InTune := ⟨rfl, rfl⟩
  refine ⟨?_, ?_, ?_⟩
  · intro ticking member
    exact (Showing.inTune_of_mem_ticks inTune member).refreshes_tickCalls
  · have lengths := congrArg List.length (Showing.run_conserves inTune actions)
    rw [List.length_append, List.length_append, List.length_map, List.length_map] at lengths
    exact (Nat.zero_add _).symm.trans lengths
  · intro i delivery found
    obtain ⟨ticking, there, presents⟩ := Showing.callback_of_deliveries inTune rfl found
    rw [Delivery.after, presents]
    refine ⟨ticking, there, Screen.length_layers_handle _ _, ticking.view, rfl, fun print => ?_⟩
    have sounds : ticking.view.tone = true ↔ ticking.decay.device.registers.sound ≠ 0 := bne_iff_ne
    rw [View.mem_prints_iff, sounds]
    rfl

/-- A tick with the tone, a digit drawn and a tick without the tone, and only then both callbacks:
the first still shows the dark picture and the tone, the second the digit alone. -/
theorem late_callbacks_show_their_ticks :
    let machine : Machine :=
      { Machine.powerOn ⟨Vector.replicate 8 0, 0⟩ with
        memory := Memory.initial.put 0x200 [0xD0, 0x05]
        registers := { Registers.initial with sound := 2 } }
    let showing : Showing Machine := ⟨⟨machine, .new .standard, .fresh⟩, .empty⟩
    let actions : List Showing.Action :=
      [.drive .tick, .drive (.step none), .drive .tick, .deliver, .deliver]
    let digit := (Picture.dark.flip 0 0 [0xF0, 0x90, 0x90, 0x90, 0xF0]).1
    let first : Delivery := ⟨.present ⟨.dark, true⟩, .empty⟩
    let second : Delivery := ⟨.present ⟨digit, false⟩, first.after⟩
    showing.deliveries actions = [first, second] ∧ (showing.ticks actions).length = 2 ∧
      first.after.layers.length = 1 ∧ second.after.layers.length = 1 ∧
      ∃ view : View, second.after.layers = [view] ∧ ⟨0, 0, " ", .black⟩ ∈ view.prints ∧
        ⟨0, 32, View.toneText, .plain⟩ ∉ view.prints := by
  intro machine showing actions digit first second
  have ran : showing.deliveries actions = [first, second] := by decide +kernel
  have none : (showing.run actions).pending = [] := by decide +kernel
  have ticked : (showing.ticks actions)[1]?.map (fun ticking =>
      (ticking.decay.device.picture.lit 0 0, ticking.decay.device.registers.sound)) =
        some (true, 0) := by
    decide +kernel
  obtain ⟨-, count, shows⟩ := screen_shows_tick machine .standard .empty actions
  obtain ⟨_, -, one, -⟩ := shows 0 first (congrArg (·[0]?) ran)
  obtain ⟨ticking, there, still, view, top, prints⟩ := shows 1 second (congrArg (·[1]?) ran)
  obtain ⟨_, same, values⟩ := Option.map_eq_some_iff.mp ticked
  cases there.symm.trans same
  obtain ⟨lit, silent⟩ := Prod.mk.inj values
  refine ⟨ran, ?_, one, still, view, top, ?_, ?_⟩
  · rw [count, ran, none]
    rfl
  · exact (prints _).mpr (.inl ⟨0, 0, by decide, by decide, lit, rfl⟩)
  · intro printed
    rcases (prints _).mp printed with ⟨x, y, -, inside, -, cell⟩ | ⟨sounds, -⟩
    · have below : 32 = y := congrArg Print.y cell
      omega
    · exact sounds silent

end Chip8

import Chip8.Proofs.Drive
import Mathlib.Tactic.Common

/-!
# The tone

How a scheduler and its sink stay agreed on the tone although the sink may refuse any call. The
scheduler remembers a start or a stop only if the sink has taken it. Therefore starts and stops are
taken in turn, the tone is that of the device whenever the picture is refreshed, and what was
refused is asked for again by the next tick, unless the device has changed its mind by then.
-/

namespace Chip8

/-- Whether a signal starts or stops the tone. -/
def Signal.isTone : Signal → Bool
  | startTone | stopTone => true
  | refresh _ => false

/-! ## What a sink has taken -/

namespace SinkCall

/-- The starts and stops of the tone that were taken, in order. -/
def tones (calls : List SinkCall) : List Signal :=
  (calls.filter fun call => call.accepted && call.signal.isTone).map SinkCall.signal

/-- Whether the tone was started by the last call about it that was taken. -/
def toneOn (calls : List SinkCall) : Bool := (tones calls).getLast? = some .startTone

/-- A start comes first, and then stops and starts alternate. -/
def InTurn (signals : List Signal) : Prop :=
  ∀ position signal, signals[position]? = some signal →
    signal = if position % 2 = 0 then .startTone else .stopTone

theorem inTurn_nil : InTurn [] := by
  intro position signal found
  cases found

theorem InTurn.append_singleton {signals : List Signal} (inTurn : InTurn signals) {signal : Signal}
    (next : signal = if signals.length % 2 = 0 then .startTone else .stopTone) :
    InTurn (signals ++ [signal]) := by
  intro position other found
  rcases Nat.lt_trichotomy position signals.length with before | rfl | behind
  · rw [List.getElem?_append_left before] at found
    exact inTurn position other found
  · rw [List.getElem?_concat_length] at found
    cases found
    exact next
  · have outside : (signals ++ [signal]).length ≤ position := by
      rw [List.length_append, List.length_singleton]
      exact behind
    rw [List.getElem?_eq_none outside] at found
    cases found

/-- After an odd number of signals the last one is a start. -/
theorem InTurn.getLast?_eq_iff {signals : List Signal} (inTurn : InTurn signals) :
    signals.getLast? = some .startTone ↔ signals.length % 2 = 1 := by
  rw [List.getLast?_eq_getElem?]
  rcases Nat.eq_zero_or_pos signals.length with empty | positive
  · rw [empty, List.getElem?_eq_none (by omega)]
    simp
  · have last : signals.length - 1 < signals.length := by omega
    have turn := inTurn _ _ (List.getElem?_eq_getElem last)
    rw [List.getElem?_eq_getElem last, Option.some.injEq, turn]
    split
    · simp only [true_iff]
      omega
    · simp only [reduceCtorEq, false_iff]
      omega

theorem tones_append_refused (calls : List SinkCall) (signal : Signal) :
    tones (calls ++ [⟨signal, false⟩]) = tones calls := by
  simp [tones]

theorem tones_append_refresh (calls : List SinkCall) (picture : Picture) (accepted : Bool) :
    tones (calls ++ [⟨.refresh picture, accepted⟩]) = tones calls := by
  simp [tones, Signal.isTone]

theorem tones_append_taken (calls : List SinkCall) {signal : Signal} (tone : signal.isTone) :
    tones (calls ++ [⟨signal, true⟩]) = tones calls ++ [signal] := by
  simp [tones, tone]

end SinkCall

/-! ## The calls of a run -/

namespace Rig

open SinkCall

variable {δ ρ : Type} [Device δ]

theorem toneChange_eq_none_iff {rig : Rig δ ρ} :
    rig.toneChange = none ↔ rig.scheduler.tonePlaying = Device.sounding rig.device := by
  unfold toneChange
  cases Device.sounding rig.device <;> cases rig.scheduler.tonePlaying <;> simp

theorem toneChange_eq_some_iff {rig : Rig δ ρ} {signal : Signal} :
    rig.toneChange = some signal ↔
      rig.scheduler.tonePlaying = !Device.sounding rig.device ∧
        signal = if Device.sounding rig.device then .startTone else .stopTone := by
  unfold toneChange
  cases Device.sounding rig.device <;> cases rig.scheduler.tonePlaying <;> simp [eq_comm]

theorem isTone_of_toneChange {rig : Rig δ ρ} {signal : Signal}
    (change : rig.toneChange = some signal) : signal.isTone := by
  rw [(toneChange_eq_some_iff.mp change).2]
  split <;> rfl

/-- A call to the sink: the rig that makes it, and the signal. -/
structure Call (δ ρ : Type) where
  rig : Rig δ ρ
  signal : Signal

variable [Sink ρ]

/-- What the sink answers to a call. -/
def Call.answer (call : Call δ ρ) : Attempt Unit := (call.rig.emit call.signal).1

/-- What a recorder keeps of a call. -/
def Call.record (call : Call δ ρ) : SinkCall := ⟨call.signal, call.answer.isOk⟩

/-- The calls of a tick, in order. -/
def tickCalls (rig : Rig δ ρ) : List (Call δ ρ) :=
  rig.decay.toneChange.toList.map (Call.mk rig.decay) ++
    match rig.decay.settleTone with
    | (.ok (), settled) => [⟨settled, .refresh (Device.picture settled.device)⟩]
    | (.error _, _) => []

/-- The calls of a run, in order. -/
def calls (rig : Rig δ ρ) (actions : List Action) : List (Call δ ρ) :=
  (rig.ticks actions).flatMap tickCalls

omit [Device δ] in
theorem calls_emit (signal : Signal) (rig : Rig δ (Recorder ρ)) :
    (rig.emit signal).2.sink.calls = rig.sink.calls ++ [(Call.mk rig signal).record] := rfl

theorem calls_tick (rig : Rig δ (Recorder ρ)) :
    rig.tick.2.sink.calls = rig.sink.calls ++ rig.tickCalls.map Call.record := by
  rw [tickCalls, ← sink_decay rig]
  cases rig.decay.settling with
  | silent same result =>
      rw [tick_of_settled result, result, same]
      rfl
  | @taken signal change answer result =>
      rw [tick_of_settled result, result, change, calls_emit]
      change (rig.decay.emit signal).2.sink.calls ++ _ = _
      rw [calls_emit, List.append_assoc]
      rfl
  | refused change answer result =>
      rw [tick_of_refused result, result, change]
      rfl

/-- What a recorder keeps of a run are the calls of its ticks. -/
theorem calls_play (rig : Rig δ (Recorder ρ)) (actions : List Action) :
    (rig.play actions).sink.calls = rig.sink.calls ++ (rig.calls actions).map Call.record := by
  induction actions generalizing rig with
  | nil => simp [play, calls, ticks]
  | cons action rest induction =>
      rw [play, induction, calls, calls, ticks]
      cases begins : rig.beginsTick action with
      | true =>
          rw [act_of_beginsTick begins, calls_tick, sink_prelude]
          simp [List.append_assoc]
      | false =>
          rw [act_of_not_beginsTick begins, sink_prelude]
          simp

/-- Each of some calls is made by a recorder that holds the past and then the calls before it. -/
def Successive (past : List SinkCall) : List (Call δ (Recorder ρ)) → Prop
  | [] => True
  | call :: rest => call.rig.sink.calls = past ∧ Successive (past ++ [call.record]) rest

omit [Device δ] in
theorem Successive.append {past : List SinkCall} {first second : List (Call δ (Recorder ρ))}
    (earlier : Successive past first) (later : Successive (past ++ first.map Call.record) second) :
    Successive past (first ++ second) := by
  induction first generalizing past with
  | nil => simpa using later
  | cons call first induction =>
      refine ⟨earlier.1, induction earlier.2 ?_⟩
      simpa using later

omit [Device δ] in
theorem Successive.past {past : List SinkCall} {before after : List (Call δ (Recorder ρ))}
    {call : Call δ (Recorder ρ)} (successive : Successive past (before ++ call :: after)) :
    call.rig.sink.calls = past ++ before.map Call.record := by
  induction before generalizing past with
  | nil => simpa using successive.1
  | cons first before induction => simpa using induction successive.2

theorem successive_tick (rig : Rig δ (Recorder ρ)) : Successive rig.sink.calls rig.tickCalls := by
  rw [tickCalls, ← sink_decay rig]
  cases rig.decay.settling with
  | silent same result =>
      rw [result, same]
      exact ⟨rfl, trivial⟩
  | taken change answer result =>
      rw [result, change]
      exact ⟨rfl, rfl, trivial⟩
  | refused change answer result =>
      rw [result, change]
      exact ⟨rfl, trivial⟩

theorem successive_run (rig : Rig δ (Recorder ρ)) (actions : List Action) :
    Successive rig.sink.calls (rig.calls actions) := by
  induction actions generalizing rig with
  | nil => trivial
  | cons action rest induction =>
      have later := induction (rig.act action)
      rw [calls, ticks]
      cases begins : rig.beginsTick action with
      | true =>
          have first := (rig.prelude action).successive_tick
          rw [act_of_beginsTick begins, calls_tick] at later
          rw [sink_prelude] at first later
          rw [if_pos rfl, List.flatMap_cons, act_of_beginsTick begins]
          exact first.append later
      | false =>
          rw [act_of_not_beginsTick begins, sink_prelude] at later
          rw [if_neg Bool.false_ne_true, act_of_not_beginsTick begins]
          exact later

/-! ## Agreement -/

/-- What the scheduler remembers of the tone is what the sink has taken. -/
structure Attuned (rig : Rig δ (Recorder ρ)) : Prop where
  inTurn : InTurn (tones rig.sink.calls)
  flag : rig.scheduler.tonePlaying = toneOn rig.sink.calls

theorem tonePlaying_of_settled {rig settled : Rig δ ρ}
    (result : rig.settleTone = (.ok (), settled)) :
    settled.scheduler.tonePlaying = Device.sounding settled.device := by
  cases rig.settling with
  | silent same unchanged =>
      rw [unchanged] at result
      cases result
      exact toneChange_eq_none_iff.mp same
  | taken _ _ changed =>
      rw [changed] at result
      cases result
      rfl
  | refused _ _ stopped =>
      rw [stopped] at result
      cases result

namespace Attuned

variable {rig : Rig δ (Recorder ρ)}

omit [Sink ρ] in
theorem decay (attuned : rig.Attuned) : rig.decay.Attuned := by
  refine ⟨?_, ?_⟩
  · rw [sink_decay]
    exact attuned.inTurn
  · rw [sink_decay, scheduler_decay]
    exact attuned.flag

omit [Sink ρ] in
theorem prelude (attuned : rig.Attuned) (action : Action) : (rig.prelude action).Attuned := by
  refine ⟨?_, ?_⟩
  · rw [sink_prelude]
    exact attuned.inTurn
  · rw [sink_prelude, tonePlaying_prelude]
    exact attuned.flag

omit [Device δ] in
/-- A call that the sink refuses, or that is not about the tone, changes no agreement. -/
theorem emit (attuned : rig.Attuned) {signal : Signal}
    (same : tones (rig.emit signal).2.sink.calls = tones rig.sink.calls) :
    (rig.emit signal).2.Attuned := by
  refine ⟨?_, ?_⟩
  · rw [same]
    exact attuned.inTurn
  · rw [toneOn, same]
    exact attuned.flag

omit [Sink ρ] in
/-- A change that the device wants is the one whose turn it is. -/
theorem next_tone (attuned : rig.Attuned) {signal : Signal}
    (change : rig.toneChange = some signal) :
    signal = if (tones rig.sink.calls).length % 2 = 0 then .startTone else .stopTone := by
  obtain ⟨differs, rfl⟩ := toneChange_eq_some_iff.mp change
  have parity := attuned.inTurn.getLast?_eq_iff
  rw [attuned.flag, toneOn] at differs
  cases wanted : Device.sounding rig.device with
  | true =>
      rw [wanted, Bool.not_true, decide_eq_false_iff_not, parity] at differs
      rw [if_pos rfl, if_pos (by omega)]
  | false =>
      rw [wanted, Bool.not_false, decide_eq_true_iff, parity] at differs
      rw [if_neg Bool.false_ne_true, if_neg (by omega)]

theorem settleTone (attuned : rig.Attuned) : rig.settleTone.2.Attuned := by
  cases rig.settling with
  | silent same result =>
      rw [result]
      exact attuned
  | @refused signal failure change answer result =>
      rw [result]
      apply attuned.emit
      rw [calls_emit, Call.record, Call.answer, answer]
      exact tones_append_refused _ signal
  | @taken signal change answer result =>
      have grown : tones (rig.emit signal).2.sink.calls = tones rig.sink.calls ++ [signal] := by
        rw [calls_emit, Call.record, Call.answer, answer]
        exact tones_append_taken _ (isTone_of_toneChange change)
      rw [result]
      refine ⟨?_, ?_⟩
      · change InTurn (tones (rig.emit signal).2.sink.calls)
        rw [grown]
        exact attuned.inTurn.append_singleton (attuned.next_tone change)
      · change Device.sounding rig.device = toneOn (rig.emit signal).2.sink.calls
        rw [toneOn, grown, List.getLast?_concat, (toneChange_eq_some_iff.mp change).2]
        cases Device.sounding rig.device <;> rfl

theorem tick (attuned : rig.Attuned) : rig.tick.2.Attuned := by
  have settled := attuned.decay.settleTone
  rcases result : rig.decay.settleTone with ⟨failure | ⟨⟩, after⟩
  · rw [result] at settled
    rw [tick_of_refused result]
    exact settled
  · rw [result] at settled
    rw [tick_of_settled result]
    exact settled.emit (tones_append_refresh _ _ _)

theorem act (attuned : rig.Attuned) (action : Action) : (rig.act action).Attuned := by
  cases begins : rig.beginsTick action with
  | true =>
      rw [act_of_beginsTick begins]
      exact (attuned.prelude action).tick
  | false =>
      rw [act_of_not_beginsTick begins]
      exact attuned.prelude action

theorem play (attuned : rig.Attuned) (actions : List Action) : (rig.play actions).Attuned := by
  induction actions generalizing rig with
  | nil => exact attuned
  | cons action rest induction => exact induction (attuned.act action)

theorem of_mem_ticks (attuned : rig.Attuned) {actions : List Action} {ticking : Rig δ (Recorder ρ)}
    (member : ticking ∈ rig.ticks actions) : ticking.Attuned := by
  induction actions generalizing rig with
  | nil => cases member
  | cons action rest induction =>
      rw [ticks] at member
      split at member
      · rcases List.mem_cons.mp member with rfl | later
        · exact attuned.prelude action
        · exact induction (attuned.act action) later
      · exact induction (attuned.act action) member

/-- The calls of a tick fit what the sink has taken before. -/
theorem of_mem_tickCalls (attuned : rig.Attuned) {call : Call δ (Recorder ρ)}
    (member : call ∈ rig.tickCalls) :
    (call.signal = .startTone → toneOn call.rig.sink.calls = false) ∧
      (call.signal = .stopTone → toneOn call.rig.sink.calls = true) ∧
        ∀ picture, call.signal = .refresh picture →
          toneOn call.rig.sink.calls = Device.sounding call.rig.device := by
  have settled := attuned.decay.settleTone
  rcases List.mem_append.mp member with toneCall | refreshes
  · obtain ⟨signal, change, rfl⟩ := List.mem_map.mp toneCall
    obtain ⟨differs, rfl⟩ := toneChange_eq_some_iff.mp (Option.mem_toList.mp change)
    rw [attuned.decay.flag] at differs
    cases wanted : Device.sounding rig.decay.device <;> simp_all
  · rcases result : rig.decay.settleTone with ⟨failure | ⟨⟩, after⟩
    · rw [result] at refreshes
      cases refreshes
    · rw [result] at refreshes settled
      cases List.mem_singleton.mp refreshes
      refine ⟨nofun, nofun, fun picture _ => ?_⟩
      rw [← settled.flag, tonePlaying_of_settled result]

end Attuned

/-! ## Refused changes -/

variable {rig : Rig δ ρ} {call : Call δ ρ}

/-- A tick calls for a change of the tone exactly if the device wants one. -/
theorem mem_signals_iff {signal : Signal} (tone : signal.isTone) :
    signal ∈ rig.tickCalls.map Call.signal ↔ rig.decay.toneChange = some signal := by
  have other : ∀ picture, signal ≠ .refresh picture := by
    rintro picture rfl
    cases tone
  cases rig.decay.settling with
  | silent same result => simp [tickCalls, result, same, other]
  | taken change _ result => simp [tickCalls, result, change, other, eq_comm]
  | refused change _ result => simp [tickCalls, result, change, eq_comm]

/-- A tick whose call about the tone is refused makes no other call, and remembers nothing. -/
theorem tickCalls_of_refused (called : call ∈ rig.tickCalls) (tone : call.signal.isTone)
    (refused : call.answer ≠ .ok ()) :
    rig.tickCalls = [call] ∧ call.rig = rig.decay ∧
      rig.tick.2.scheduler.tonePlaying = rig.scheduler.tonePlaying := by
  cases rig.decay.settling with
  | silent same result =>
      rw [tickCalls, result, same] at called
      cases List.mem_singleton.mp called
      cases tone
  | @taken signal change answer result =>
      rw [tickCalls, result, change] at called
      rcases List.mem_cons.mp called with rfl | refreshes
      · exact absurd answer refused
      · cases List.mem_singleton.mp refreshes
        cases tone
  | @refused signal failure change answer result =>
      rw [tickCalls, result, change] at called
      cases List.mem_singleton.mp called
      rw [tickCalls, tick_of_refused result, result, change, scheduler_emit, scheduler_decay]
      exact ⟨rfl, rfl, rfl⟩

/-- A tick that finds the tone as a refused tick has left it repeats the call that was refused
exactly if the device still wants the same. -/
theorem repeats_iff {next : Rig δ ρ} (called : call ∈ rig.tickCalls) (tone : call.signal.isTone)
    (refused : call.answer ≠ .ok ())
    (left : next.scheduler.tonePlaying = rig.tick.2.scheduler.tonePlaying) :
    call.signal ∈ next.tickCalls.map Call.signal ↔
      Device.sounding next.decay.device = Device.sounding call.rig.device := by
  obtain ⟨-, caller, forgotten⟩ := tickCalls_of_refused called tone refused
  have change : rig.decay.toneChange = some call.signal :=
    (mem_signals_iff tone).mp (List.mem_map_of_mem called)
  obtain ⟨differs, signal⟩ := toneChange_eq_some_iff.mp change
  rw [mem_signals_iff tone, toneChange_eq_some_iff, signal, scheduler_decay, left, forgotten,
    ← scheduler_decay rig, differs, caller]
  cases Device.sounding rig.decay.device <;> cases Device.sounding next.decay.device <;> simp

/-- Until a tick begins, the scheduler remembers of the tone what it did. -/
theorem tonePlaying_of_ticks {actions : List Action} {first : Rig δ ρ} {later : List (Rig δ ρ)}
    (begun : rig.ticks actions = first :: later) :
    first.scheduler.tonePlaying = rig.scheduler.tonePlaying := by
  induction actions generalizing rig with
  | nil => cases begun
  | cons action rest induction =>
      rw [ticks] at begun
      cases begins : rig.beginsTick action with
      | true =>
          rw [if_pos begins] at begun
          cases begun
          exact tonePlaying_prelude rig action
      | false =>
          rw [if_neg (by simp [begins])] at begun
          rw [induction begun, act_of_not_beginsTick begins, tonePlaying_prelude]

/-- From one tick to the next, the scheduler remembers of the tone what the first one has left. -/
theorem tonePlaying_between {actions : List Action} {earlier later : List (Rig δ ρ)}
    {first second : Rig δ ρ} (begun : rig.ticks actions = earlier ++ first :: second :: later) :
    second.scheduler.tonePlaying = first.tick.2.scheduler.tonePlaying := by
  induction actions generalizing rig earlier with
  | nil => simp [ticks] at begun
  | cons action rest induction =>
      rw [ticks] at begun
      cases begins : rig.beginsTick action with
      | false =>
          rw [if_neg (by simp [begins])] at begun
          exact induction begun
      | true =>
          rw [if_pos begins] at begun
          cases earlier with
          | nil =>
              obtain ⟨rfl, next⟩ := List.cons.inj begun
              rw [tonePlaying_of_ticks next, act_of_beginsTick begins]
          | cons _ earlier => exact induction (List.cons.inj begun).2

end Rig

/-! ## The protocol -/

open SinkCall Rig

variable {δ ρ : Type} [Device δ] [Sink ρ]

/-- In every run of a new scheduler, whatever the device does and whichever calls the sink refuses:
starts and stops are taken in turn, and a start is called for only while none was taken last, a stop
only while a start was; a refresh finds the tone that the device wants; and a tick whose call about
the tone is refused does not refresh, and the next tick repeats the call exactly if the device still
wants the same. -/
theorem tone_stays_agreed (device : δ) (timing : Timing) (target : ρ) (actions : List Action) :
    let start : Rig δ (Recorder ρ) := ⟨device, .new timing, ⟨target, []⟩⟩
    let calls := start.calls actions
    (start.play actions).sink.calls = calls.map Call.record ∧
      InTurn (tones (calls.map Call.record)) ∧
      (∀ before call after, calls = before ++ call :: after →
        (call.signal = .startTone → toneOn (before.map Call.record) = false) ∧
        (call.signal = .stopTone → toneOn (before.map Call.record) = true) ∧
        ∀ picture, call.signal = .refresh picture →
          toneOn (before.map Call.record) = Device.sounding call.rig.device) ∧
      (∀ ticking ∈ start.ticks actions, ∀ call ∈ ticking.tickCalls,
        call.signal.isTone → call.answer ≠ .ok () → ticking.tickCalls = [call]) ∧
      ∀ earlier first second later, start.ticks actions = earlier ++ first :: second :: later →
        ∀ call ∈ first.tickCalls, call.signal.isTone → call.answer ≠ .ok () →
          (call.signal ∈ second.tickCalls.map Call.signal ↔
            Device.sounding second.decay.device = Device.sounding call.rig.device) := by
  intro start calls
  have attuned : start.Attuned := ⟨inTurn_nil, rfl⟩
  have recorded : (start.play actions).sink.calls = calls.map Call.record := by
    rw [calls_play]
    exact List.nil_append _
  refine ⟨recorded, ?_, ?_, ?_, ?_⟩
  · rw [← recorded]
    exact (attuned.play actions).inTurn
  · intro before call after made
    have past : call.rig.sink.calls = before.map Call.record := by
      have successive := start.successive_run actions
      change Successive _ calls at successive
      rw [made] at successive
      exact successive.past
    have member : call ∈ calls := made ▸ List.mem_append_right _ List.mem_cons_self
    obtain ⟨ticking, begun, called⟩ := List.mem_flatMap.mp member
    rw [← past]
    exact (attuned.of_mem_ticks begun).of_mem_tickCalls called
  · intro ticking _ call called tone refused
    exact (tickCalls_of_refused called tone refused).1
  · intro earlier first second later begun call called tone refused
    exact repeats_iff called tone refused (tonePlaying_between begun)

/-- A sink that refuses every start is asked again by the next tick, although the frequency was
chosen anew in between. -/
theorem refused_start_is_repeated :
    let machine : Machine :=
      { Machine.powerOn ⟨Vector.replicate 8 0, 0⟩ with
        registers := { Registers.initial with sound := 3 } }
    let start : Rig Machine (Recorder Selective) :=
      ⟨machine, .new .standard, ⟨⟨fun signal => signal = .startTone⟩, []⟩⟩
    let second := start.play [.tick, .setInstructionHz 300]
    let call : Call Machine (Recorder Selective) := ⟨start.decay, .startTone⟩
    start.ticks [.tick, .setInstructionHz 300, .tick] = [start, second] ∧
      call ∈ start.tickCalls ∧ call.answer ≠ .ok () ∧ start.tickCalls = [call] ∧
        Device.sounding second.decay.device = Device.sounding call.rig.device ∧
          .startTone ∈ second.tickCalls.map Call.signal := by
  intro machine start second call
  have begun : start.ticks [.tick, .setInstructionHz 300, .tick] = [start, second] := rfl
  have called : call ∈ start.tickCalls := List.mem_cons_self
  have refused : call.answer ≠ .ok () := nofun
  have same : Device.sounding second.decay.device = Device.sounding call.rig.device := by
    decide +kernel
  obtain ⟨-, -, -, single, repeated⟩ :=
    tone_stays_agreed machine .standard (⟨fun signal => signal = .startTone⟩ : Selective)
      [.tick, .setInstructionHz 300, .tick]
  have begins : start ∈ start.ticks [.tick, .setInstructionHz 300, .tick] :=
    begun ▸ List.mem_cons_self
  exact ⟨begun, called, refused, single start begins call called rfl refused, same,
    (repeated [] start second [] begun call called rfl refused).mpr same⟩

end Chip8

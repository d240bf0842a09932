import Chip8.Proofs.Host
import Mathlib.Data.List.Induction
import Mathlib.Data.List.Sort

/-!
# The keys of a history

What a keypad says follows from what has happened to its keys. A key is held if nothing has let it
up since it was pressed last, and the key reported is the one pressed last of all while nothing has
let it up, and otherwise the lowest key that is held. The keypad still remembers the key pressed
last when it has come up again, but it does not report it then. Asking leaves no trace.
-/

namespace Chip8

namespace Keypad

/-! ## Histories -/

/-- The keypad after some events. -/
def hear (keypad : Keypad) (events : List Event) : Keypad := events.foldl handle keypad

theorem hear_concat (keypad : Keypad) (events : List Event) (last : Event) :
    keypad.hear (events ++ [last]) = (keypad.hear events).handle last :=
  List.foldl_concat handle keypad last events

/-- Whether an event has happened with none but `quiet` ones after it. -/
def Since (events : List Event) (event : Event) (quiet : Event → Prop) : Prop :=
  ∃ before after, events = before ++ event :: after ∧ ∀ later ∈ after, quiet later

theorem not_since_nil (event : Event) (quiet : Event → Prop) : ¬ Since [] event quiet := by
  rintro ⟨before, after, split, -⟩
  exact List.append_ne_nil_of_right_ne_nil before (List.cons_ne_nil event after) split.symm

theorem since_concat_iff {events : List Event} {last event : Event} {quiet : Event → Prop} :
    Since (events ++ [last]) event quiet ↔
      last = event ∨ quiet last ∧ Since events event quiet := by
  constructor
  · rintro ⟨before, after, split, silent⟩
    cases after using List.reverseRecOn with
    | nil => exact .inl (List.singleton_inj.mp (List.append_inj' split rfl).2)
    | append_singleton middle final _ =>
        rw [← List.cons_append, ← List.append_assoc] at split
        obtain ⟨same, ends⟩ := List.append_inj' split rfl
        rw [List.singleton_inj.mp ends]
        exact .inr ⟨silent final (by simp),
          before, middle, same, fun later among => silent later (List.mem_append_left _ among)⟩
  · rintro (rfl | ⟨silent, before, after, rfl, earlier⟩)
    · exact ⟨events, [], rfl, by simp⟩
    · refine ⟨before, after ++ [last], by simp, fun later among => ?_⟩
      rcases List.mem_append.mp among with early | final
      · exact earlier later early
      · rw [List.mem_singleton.mp final]
        exact silent

/-- Whether a key was pressed last after it was released last and after all keys were let up. -/
def Down (events : List Event) (key : Key) : Prop :=
  Since events (.press key) fun later =>
    later ≠ .press key ∧ later ≠ .release key ∧ later ≠ .releaseAll

/-- Whether a key is the one pressed last since all keys were let up, and has not been released
since that press. -/
def Newest (events : List Event) (key : Key) : Prop :=
  Since events (.press key) fun later =>
    (∀ other, later ≠ .press other) ∧ later ≠ .releaseAll ∧ later ≠ .release key

/-! ## What the keypad keeps of its history -/

theorem isHeld_hear_iff {events : List Event} {key : Key} :
    (idle.hear events).isHeld key = true ↔ Down events key := by
  -- Both sides change with the last event, so the history is taken apart at its end.
  induction events using List.reverseRecOn with
  | nil => exact iff_of_false (by simp [hear]) (not_since_nil _ _)
  | append_singleton events last induction =>
      rw [Down, since_concat_iff, ← Down, ← induction, hear_concat]
      cases last with
      | press other =>
          simp only [handle, isHeld_press, Bool.or_eq_true, decide_eq_true_iff, ne_eq,
            Event.press.injEq, reduceCtorEq]
          tauto
      | release other =>
          simp only [handle, isHeld_release, Bool.and_eq_true, decide_eq_true_iff, ne_eq,
            Event.release.injEq, reduceCtorEq]
          tauto
      | releaseAll => simp [handle, releaseAll]

/-- The remembered key counts while it is held, and then it is the newest one. -/
theorem filter_latest_hear_iff {events : List Event} {key : Key} :
    (idle.hear events).latest.filter (idle.hear events).isHeld = some key ↔ Newest events key := by
  rw [Option.filter_eq_some_iff]
  induction events using List.reverseRecOn with
  | nil => exact iff_of_false (by simp [hear]) (not_since_nil _ _)
  | append_singleton events last induction =>
      rw [Newest, since_concat_iff, ← Newest, ← induction, hear_concat]
      cases last with
      | press other =>
          have loud : ¬ ∀ fresh, Event.press other ≠ .press fresh := fun quiet => quiet other rfl
          have kept : ((idle.hear events).press other).latest = some other := rfl
          simp only [handle, isHeld_press, Bool.or_eq_true, decide_eq_true_iff, kept,
            Option.some_inj, Event.press.injEq, loud]
          tauto
      | release other =>
          have kept : ((idle.hear events).release other).latest = (idle.hear events).latest := rfl
          simp only [handle, isHeld_release, Bool.and_eq_true, decide_eq_true_iff, ne_eq,
            Event.release.injEq, reduceCtorEq, kept]
          tauto
      | releaseAll => simp [handle, releaseAll]

/-! ## What the keypad reports -/

theorem pairwise_heldKeys (keypad : Keypad) : keypad.heldKeys.Pairwise (· < ·) :=
  (List.sortedLT_finRange 16).pairwise.filter keypad.isHeld

theorem head?_heldKeys_eq_some_iff {keypad : Keypad} {key : Key} :
    keypad.heldKeys.head? = some key ↔
      keypad.isHeld key = true ∧ ∀ other, keypad.isHeld other = true → key ≤ other := by
  have ascending := keypad.pairwise_heldKeys
  simp only [← mem_heldKeys]
  cases keys : keypad.heldKeys with
  | nil => simp
  | cons first rest =>
      rw [keys, List.pairwise_cons] at ascending
      rw [List.head?_cons, Option.some_inj, List.forall_mem_cons]
      constructor
      · rintro rfl
        exact ⟨List.mem_cons_self, le_rfl, fun other among => (ascending.1 other among).le⟩
      · rintro ⟨among, below, -⟩
        rcases List.mem_cons.mp among with same | later
        · exact same.symm
        · exact absurd (ascending.1 key later) (not_lt_of_ge below)

theorem pressed_eq_none_iff {keypad : Keypad} :
    keypad.pressed = none ↔ ∀ key, keypad.isHeld key = false := by
  rw [pressed]
  split
  next key current =>
    have held : keypad.isHeld key = true := (Option.filter_eq_some_iff.mp current).2
    exact iff_of_false (Option.some_ne_none key) fun idle => by simp [idle key] at held
  next stale =>
    rw [List.head?_eq_none_iff, List.eq_nil_iff_forall_not_mem]
    exact forall_congr' fun key => by rw [mem_heldKeys, Bool.not_eq_true]

theorem pressed_of_latest {keypad : Keypad} {key : Key}
    (current : keypad.latest.filter keypad.isHeld = some key) : keypad.pressed = some key := by
  rw [pressed, current]

theorem pressed_eq_some_iff_of_stale {keypad : Keypad}
    (stale : keypad.latest.filter keypad.isHeld = none) {key : Key} :
    keypad.pressed = some key ↔
      keypad.isHeld key = true ∧ ∀ other, keypad.isHeld other = true → key ≤ other := by
  rw [pressed, stale]
  exact head?_heldKeys_eq_some_iff

/-! ## Asking -/

/-- A call on a keypad: it is told of an event, or asked which key is pressed. -/
inductive Call where
  | tell (event : Event)
  | ask
  deriving DecidableEq

/-- The event that a call tells of. -/
def Call.event? : Call → Option Event
  | .tell event => some event
  | .ask => none

/-- The keypad after a call. -/
def serve (keypad : Keypad) : Call → Keypad
  | .tell event => keypad.handle event
  | .ask => keypad

/-- What the questions among some calls are answered, in order. -/
def answers (keypad : Keypad) : List Call → List (Option Key)
  | [] => []
  | .tell event :: rest => (keypad.serve (.tell event)).answers rest
  | .ask :: rest => keypad.pressed :: (keypad.serve .ask).answers rest

theorem answers_append (keypad : Keypad) (before after : List Call) :
    keypad.answers (before ++ after) =
      keypad.answers before ++ (before.foldl serve keypad).answers after := by
  induction before generalizing keypad with
  | nil => rfl
  | cons call before induction =>
      cases call <;> simp only [List.cons_append, answers, List.foldl_cons, induction]

/-- Calls leave the keypad as their events alone would have. -/
theorem foldl_serve (keypad : Keypad) (calls : List Call) :
    calls.foldl serve keypad = keypad.hear (calls.filterMap Call.event?) := by
  induction calls generalizing keypad with
  | nil => rfl
  | cons call calls induction =>
      cases call with
      | tell event => exact induction (keypad.handle event)
      | ask => exact induction keypad

/-- After any calls on a keypad that has just been made, a key is held if its last press came after
its last release and after all keys were let up last. No key is reported if none is held; the
newest key is reported if there is one, and otherwise the lowest that is held. Later questions are
answered as by a keypad that was told the same events and never asked. -/
theorem pressed_follows_history (calls : List Call) :
    let events := calls.filterMap Call.event?
    let keypad := calls.foldl serve idle
    (∀ key, keypad.isHeld key = true ↔ Down events key) ∧
      (keypad.pressed = none ↔ ∀ key, keypad.isHeld key = false) ∧
      (∀ key, Newest events key → keypad.pressed = some key) ∧
      ((∀ key, ¬ Newest events key) → ∀ key, keypad.pressed = some key ↔
        keypad.isHeld key = true ∧ ∀ other, keypad.isHeld other = true → key ≤ other) ∧
      ∀ later, idle.answers (calls ++ later) =
        idle.answers calls ++ (idle.hear events).answers later := by
  intro events keypad
  have heard : keypad = idle.hear events := foldl_serve idle calls
  rw [heard]
  refine ⟨fun key => isHeld_hear_iff, pressed_eq_none_iff, fun key newest => ?_,
    fun stale key => ?_, fun later => ?_⟩
  · exact pressed_of_latest (filter_latest_hear_iff.mpr newest)
  · refine pressed_eq_some_iff_of_stale (Option.eq_none_iff_forall_ne_some.mpr ?_)
    exact fun other current => stale other (filter_latest_hear_iff.mp current)
  · rw [answers_append, ← heard]

/-- Once the key pressed last is up again, the lowest key that is held is reported, and not the one
pressed before. -/
theorem released_key_gives_way_to_lowest :
    let calls : List Call :=
      [.tell (.press 2), .tell (.press 9), .tell (.press 5), .ask, .tell (.release 5)]
    (∀ key, ¬ Newest (calls.filterMap Call.event?) key) ∧
      (calls.foldl serve idle).pressed = some 2 := by
  intro calls
  have stale : ∀ key, ¬ Newest (calls.filterMap Call.event?) key := by
    intro key newest
    have current := filter_latest_hear_iff.mpr newest
    have forgotten : (idle.hear (calls.filterMap Call.event?)).latest.filter
        (idle.hear (calls.filterMap Call.event?)).isHeld = none := by decide +kernel
    rw [forgotten] at current
    cases current
  refine ⟨stale, ((pressed_follows_history calls).2.2.2.1 stale 2).mpr ?_⟩
  decide +kernel

end Keypad
end Chip8

import Chip8.Proofs.Footprint
import Chip8.Proofs.Host
import Chip8.Proofs.Sprites
import Mathlib.Algebra.Ring.Parity

/-!
# Drawings

What the picture of a played machine shows. Drawing a sprite flips the pixels that it covers,
clearing makes every pixel dark, and nothing else reaches the picture. So a pixel is lit exactly if
it was covered an odd number of times since the picture was cleared last. In which order sprites
were drawn does not matter, and drawing one again takes it back.
-/

namespace Chip8

/-- A sprite as it was drawn: where its upper left corner was put, and its rows. -/
structure Drawing where
  left : UInt8
  top : UInt8
  rows : List UInt8
  deriving DecidableEq

namespace Drawing

/-- Whether a drawing covers a pixel. -/
def Covers (drawing : Drawing) (x y : Nat) : Prop :=
  Sprite.Covers drawing.left.toNat drawing.top.toNat drawing.rows x y

instance (drawing : Drawing) (x y : Nat) : Decidable (drawing.Covers x y) :=
  inferInstanceAs (Decidable (Sprite.Covers _ _ _ x y))

/-- How many of some drawings cover a pixel. -/
def cover (drawings : List Drawing) (x y : Nat) : Nat :=
  drawings.countP fun drawing => drawing.Covers x y

theorem cover_cons (drawing : Drawing) (drawings : List Drawing) (x y : Nat) :
    cover (drawing :: drawings) x y = cover drawings x y + if drawing.Covers x y then 1 else 0 := by
  simp [cover, List.countP_cons]

theorem cover_eq_of_perm {first second : List Drawing} (same : first.Perm second) (x y : Nat) :
    cover first x y = cover second x y := same.countP_eq _

theorem odd_cover_cons_cons_iff (drawing : Drawing) (drawings : List Drawing) (x y : Nat) :
    Odd (cover (drawing :: drawing :: drawings) x y) ↔ Odd (cover drawings x y) := by
  rw [cover_cons, cover_cons, Nat.odd_iff, Nat.odd_iff]
  split <;> omega

end Drawing

/-- A picture shows some drawings if the pixels that an odd number of them cover are lit. -/
def Picture.Shows (picture : Picture) (drawings : List Drawing) : Prop :=
  ∀ x y, picture.lit x y = true ↔ Odd (Drawing.cover drawings x y)

namespace Picture

theorem shows_dark : dark.Shows [] := by
  intro x y
  simp [Drawing.cover]

theorem Shows.flip {picture : Picture} {drawings : List Drawing} (shows : picture.Shows drawings)
    (drawing : Drawing) (short : drawing.rows.length ≤ 32) :
    (picture.flip drawing.left.toNat drawing.top.toNat drawing.rows).1.Shows
      (drawing :: drawings) := by
  intro x y
  rw [picture.lit_flip _ _ short, Drawing.cover_cons]
  have flips : Sprite.Covers drawing.left.toNat drawing.top.toNat drawing.rows x y ↔
      drawing.Covers x y := Iff.rfl
  by_cases covered : drawing.Covers x y
  · rw [if_pos covered, Nat.odd_add_one, ← shows x y]
    simp [flips, covered]
  · rw [if_neg covered, Nat.add_zero, ← shows x y]
    simp [flips, covered]

theorem Shows.eq {first second : Picture} {drawings others : List Drawing}
    (shows : first.Shows drawings) (showsOther : second.Shows others)
    (same : ∀ x y, Odd (Drawing.cover drawings x y) ↔ Odd (Drawing.cover others x y)) :
    first = second := by
  refine eq_of_lit_eq fun x y => Bool.eq_iff_iff.mpr ?_
  rw [shows, same, showsOther]

end Picture

/-! ## Machines that draw -/

/-- The sprite that a machine draws from its index register, at the place that two registers name.
-/
def Machine.drawing (machine : Machine) (x y : Register) (height : Nat) : Drawing where
  left := machine.registers.get x
  top := machine.registers.get y
  rows := (List.range height).map fun row =>
    (machine.memory.byte? (machine.registers.index.toNat + row)).getD 0

theorem Machine.length_rows_drawing (machine : Machine) (x y : Register) (height : Nat) :
    (machine.drawing x y height).rows.length = height := by
  simp [drawing]

theorem Machine.picture_draw {machine : Machine} {x y : Register} {height : Nat}
    (allowed : Memory.checkRange machine.registers.index.toNat height = .ok ()) :
    (machine.draw x y height).2.picture =
      (machine.picture.flip (machine.drawing x y height).left.toNat
        (machine.drawing x y height).top.toNat (machine.drawing x y height).rows).1 := by
  rw [draw, Memory.readRange_eq, allowed]
  rfl

namespace Host

/-- Whether an action leaves the picture to the program. -/
def Action.sparesPicture : Action → Bool
  | reset | putStorage .. => false
  | _ => true

/-- What has been drawn since the picture was cleared last, the latest first, after an action. -/
def drawn (before : List Drawing) (host : Host) : Action → List Drawing
  | .cycle =>
      match Instruction.ofAnswer? host.answer with
      | some .clear => []
      | some (.draw x y height) => host.machine.drawing x y height :: before
      | _ => before
  | _ => before

/-- What has been drawn since the picture was cleared last, the latest first, after a run. -/
def drawings (before : List Drawing) (host : Host) : List Action → List Drawing
  | [] => before
  | action :: rest => (host.act action).drawings (host.drawn before action) rest

/-- A cycle that neither clears nor draws leaves the picture alone. -/
theorem picture_act_cycle {host : Host}
    (quiet : ∀ instruction, Instruction.ofAnswer? host.answer = some instruction →
      .picture ∉ instruction.parts) :
    (host.act .cycle).machine.picture = host.machine.picture := by
  have agree : Part.picture.Agree host.machine (host.machine.cycle host.keypad.pressed).2 :=
    Machine.cycle_agree nofun quiet
  exact agree

theorem shows_cycle {host : Host} {before : List Drawing}
    (shows : host.machine.picture.Shows before) :
    (host.act .cycle).machine.picture.Shows (host.drawn before .cycle) := by
  rw [drawn]
  split
  case h_1 executed =>
    rw [act, (Machine.cycle_of_executed executed).1]
    exact Picture.shows_dark
  case h_2 x y height executed =>
    obtain ⟨reached, allowed⟩ := Machine.cycle_of_executed executed
    have drew : (host.act .cycle).machine.picture = _ :=
      (congrArg Machine.picture reached).trans (Machine.picture_draw allowed)
    rw [drew]
    refine shows.flip (host.machine.drawing x y height) ?_
    rw [Machine.length_rows_drawing]
    omega
  case h_3 uncleared undrawn =>
    have kept : (host.act .cycle).machine.picture = host.machine.picture := by
      refine picture_act_cycle fun instruction executed => ?_
      rw [Instruction.picture_mem_parts_iff]
      rintro (rfl | ⟨x, y, height, rfl⟩)
      · exact uncleared executed
      · exact undrawn x y height executed
    rw [kept]
    exact shows

theorem shows_act {host : Host} {before : List Drawing}
    (shows : host.machine.picture.Shows before) {action : Action} (spared : action.sparesPicture) :
    (host.act action).machine.picture.Shows (host.drawn before action) := by
  cases action with
  | cycle => exact shows_cycle shows
  | reset => cases spared
  | putStorage memory stack picture => cases spared
  | _ => exact shows

theorem shows_run {host : Host} {before : List Drawing}
    (shows : host.machine.picture.Shows before) {actions : List Action}
    (spared : ∀ action ∈ actions, action.sparesPicture) :
    (host.run actions).machine.picture.Shows (host.drawings before actions) := by
  induction actions generalizing host before with
  | nil => exact shows
  | cons action rest induction =>
      obtain ⟨first, still⟩ := List.forall_mem_cons.mp spared
      exact induction (shows_act shows first) still

theorem shows_powerOn (random : RandomSource) {actions : List Action}
    (spared : ∀ action ∈ actions, action.sparesPicture) :
    ((powerOn random).run actions).machine.picture.Shows
      ((powerOn random).drawings [] actions) := by
  apply shows_run _ spared
  exact Picture.shows_dark

end Host

/-- After every run from power-on that leaves the picture to the program, a pixel is lit exactly if
an odd number of the sprites drawn since the picture was cleared last cover it. So another run
leaves the same picture if it drew the same sprites in some order, even if it drew one of them
twice more. -/
theorem lit_iff_odd_cover (random : RandomSource) (actions : List Host.Action)
    (spared : ∀ action ∈ actions, action.sparesPicture) :
    let picture := ((Host.powerOn random).run actions).machine.picture
    let drawings := (Host.powerOn random).drawings [] actions
    (∀ x y, picture.lit x y = true ↔
      Odd (drawings.countP fun drawing => drawing.Covers x y)) ∧
    ∀ other others, (∀ action ∈ others, action.sparesPicture) →
      let again := (Host.powerOn other).drawings [] others
      (again.Perm drawings ∨ ∃ drawing, again.Perm (drawing :: drawing :: drawings)) →
        ((Host.powerOn other).run others).machine.picture = picture := by
  intro picture drawings
  have shows : picture.Shows drawings := Host.shows_powerOn random spared
  refine ⟨shows, ?_⟩
  intro other others sparedOther again same
  refine (Host.shows_powerOn other sparedOther).eq shows fun x y => ?_
  rcases same with reordered | ⟨drawing, repeated⟩
  · rw [Drawing.cover_eq_of_perm reordered]
  · rw [Drawing.cover_eq_of_perm repeated, Drawing.odd_cover_cons_cons_iff]

/-- Two digits that overlap, drawn in either order: what both of them cover is dark. -/
theorem reordered_digits_show_alike :
    let random : RandomSource := ⟨Vector.replicate 8 0, 0⟩
    let zeroFirst : List Host.Action :=
      [.load [0xD0, 0x05, 0x60, 0x01, 0xA0, 0x05, 0xD0, 0x05], .cycle, .cycle, .cycle, .cycle]
    let oneFirst : List Host.Action :=
      [.load [0x60, 0x01, 0xA0, 0x05, 0xD0, 0x05, 0x60, 0x00, 0xA0, 0x00, 0xD0, 0x05],
        .cycle, .cycle, .cycle, .cycle, .cycle, .cycle]
    let zero : Drawing := ⟨0, 0, [0xF0, 0x90, 0x90, 0x90, 0xF0]⟩
    let one : Drawing := ⟨1, 1, [0x20, 0x60, 0x20, 0x20, 0x70]⟩
    let picture := ((Host.powerOn random).run zeroFirst).machine.picture
    (∀ action ∈ zeroFirst, action.sparesPicture) ∧ (∀ action ∈ oneFirst, action.sparesPicture) ∧
      (Host.powerOn random).drawings [] zeroFirst = [one, zero] ∧
      (Host.powerOn random).drawings [] oneFirst = [zero, one] ∧
      ((Host.powerOn random).run oneFirst).machine.picture = picture ∧
      picture.lit 0 0 = true ∧ picture.lit 3 4 = false := by
  intro random zeroFirst oneFirst zero one picture
  have spared : ∀ action ∈ zeroFirst, action.sparesPicture := by decide
  have sparedToo : ∀ action ∈ oneFirst, action.sparesPicture := by decide
  have drawn : (Host.powerOn random).drawings [] zeroFirst = [one, zero] := by decide +kernel
  have drawnToo : (Host.powerOn random).drawings [] oneFirst = [zero, one] := by decide +kernel
  obtain ⟨shows, alike⟩ := lit_iff_odd_cover random zeroFirst spared
  have corner : picture.lit 0 0 = true := (shows 0 0).mpr (by rw [drawn]; decide)
  have overlap : ¬ picture.lit 3 4 = true := fun lit => absurd ((shows 3 4).mp lit) (by
    rw [drawn]
    decide)
  refine ⟨spared, sparedToo, drawn, drawnToo, ?_, corner, Bool.eq_false_iff.mpr overlap⟩
  apply alike random oneFirst sparedToo
  rw [drawn, drawnToo]
  exact .inl (.swap one zero [])

end Chip8

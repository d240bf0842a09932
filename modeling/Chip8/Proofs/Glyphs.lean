import Chip8.Proofs.Collisions
import Chip8.Proofs.Stores

/-!
# Glyphs

The font stands below all programs. Loading a program writes behind it, and so does a program that
stores nothing below its end, so it is there at the end of every such run. Then the sprite behind
the index register, once it points to the glyph of a digit, is that glyph. A register may hold a
value that is no digit: the index register then points behind the font, but still so far below the
end of memory that a sprite of any height can be drawn from there.
-/

namespace Chip8

/-! ## The font in memory -/

namespace Memory

/-- The font stands at the bottom of memory, as it does at power-on. -/
def HasFont (memory : Memory) : Prop :=
  ∀ address < 0x50, memory.byte? address = Font.bytes[address]?

theorem hasFont_initial : initial.HasFont := by
  intro address within
  have inside : address < size := within.trans (by decide)
  rw [initial, byte?_put, Font.length_bytes, if_pos ⟨Nat.zero_le _, by omega, inside⟩, Nat.sub_zero]

variable {memory : Memory}

theorem HasFont.put (font : memory.HasFont) {start : Nat} (behind : 0x50 ≤ start)
    (data : List UInt8) : (memory.put start data).HasFont := by
  intro address within
  rw [byte?_put, if_neg (by omega)]
  exact font address within

theorem HasFont.loadProgram (font : memory.HasFont) (program : List UInt8) :
    (memory.loadProgram program).2.HasFont := by
  by_cases fits : program.length ≤ programCapacity
  · have behind : 0x50 ≤ programStart := by decide
    rw [memory.loadProgram_of_le fits]
    exact font.put behind program
  · rw [Memory.loadProgram, if_neg fits]
    exact font

/-- Five bytes from the address of a glyph on are the rows of that glyph. -/
theorem HasFont.glyph (font : memory.HasFont) (digit : Digit) :
    (List.range Font.glyphHeight).map
      (fun row => (memory.byte? (Font.glyphHeight * digit + row)).getD 0) = Font.glyph digit := by
  have rows : ∀ digit : Digit, (List.range Font.glyphHeight).map
      (fun row => (Font.bytes[Font.glyphHeight * digit + row]?).getD 0) = Font.glyph digit := by
    decide
  rw [← rows digit]
  refine List.map_congr_left fun row inside => ?_
  have below : row < 5 := List.mem_range.mp inside
  have within : Font.glyphHeight * digit + row < 0x50 := by
    have := digit.isLt
    simp only [Font.glyphHeight]
    omega
  rw [font _ within]

end Memory

namespace Machine

variable {machine : Machine} {x : Register} {pressed : Option Key}

theorem hasFont_cycle (font : machine.memory.HasFont)
    (behind : ∀ range, machine.written? pressed = some range → 0x50 ≤ range.1) :
    (machine.cycle pressed).2.memory.HasFont := by
  intro address within
  refine (byte_cycle fun range written => ?_).trans (font address within)
  have := behind range written
  omega

/-! ## Pointing to a glyph -/

/-- The multiplication does not overflow, and so this instruction is always executed. -/
theorem cycle_of_glyph (running : machine.awaiting = none)
    (faces : machine.Faces (Instruction.glyph x).toOpcode) (pressed : Option Key) :
    machine.cycle pressed =
      (.ok (.executed (Instruction.glyph x).toOpcode),
        machine.advance.setIndex (UInt16.ofNat (Font.address (machine.registers.get x)))) := by
  rw [cycle_of_faces running faces rfl]
  exact congrArg (fun result => (_, result.2)) (machine.advance.pointToGlyph_eq _)

theorem toNat_index_cycle_of_glyph (running : machine.awaiting = none)
    (faces : machine.Faces (Instruction.glyph x).toOpcode) (pressed : Option Key) :
    (machine.cycle pressed).2.registers.index.toNat = 5 * (machine.registers.get x).toNat := by
  have byte := (machine.registers.get x).toNat_lt
  rw [cycle_of_glyph running faces]
  refine UInt16.toNat_ofNat_of_lt ?_
  simp only [Font.address, Font.glyphHeight, UInt16.size]
  omega

/-- With the font in memory, what is drawn from the glyph of a digit is that glyph. -/
theorem covers_drawing_iff_of_font (font : machine.memory.HasFont) {digit : Digit}
    (index : machine.registers.index.toNat = 5 * digit) (x y : Register) (column row : Nat) :
    (machine.drawing x y Font.glyphHeight).Covers column row ↔
      Sprite.Covers (machine.registers.get x).toNat (machine.registers.get y).toNat
        (Font.glyph digit) column row := by
  have rows : (machine.drawing x y Font.glyphHeight).rows = Font.glyph digit := by
    rw [drawing, index]
    exact font.glyph digit
  rw [Drawing.Covers, rows]
  exact Iff.rfl

end Machine

/-! ## Runs of a host -/

namespace Host

namespace Action

/-- Whether an action leaves what stands in memory to the program, at most switching the machine on
anew. -/
def sparesMemory : Action → Bool
  | putStorage .. => false
  | _ => true

/-- Whether an action may come between two cycles of which one directly follows the other. -/
def fallsBetween : Action → Bool
  | decay | key _ | load _ => true
  | _ => false

end Action

/-- Whether each cycle of a run that stores digits or registers stores them from an address on that
is not below a bound. -/
def storesFrom (first : Nat) (host : Host) : List Action → Bool
  | [] => true
  | .cycle :: rest =>
      (host.machine.written? host.keypad.pressed).all (fun range => decide (first ≤ range.1)) &&
        (host.act .cycle).storesFrom first rest
  | action :: rest => (host.act action).storesFrom first rest

theorem storesFrom_cons_of_ne {action : Action} (other : action ≠ .cycle) (first : Nat)
    (host : Host) (rest : List Action) :
    host.storesFrom first (action :: rest) = (host.act action).storesFrom first rest := by
  cases action with
  | cycle => exact absurd rfl other
  | _ => simp only [storesFrom]

variable {host : Host} {x y z : Register}

theorem hasFont_act (font : host.machine.memory.HasFont) {action : Action}
    (spared : action.sparesMemory) (other : action ≠ .cycle) :
    (host.act action).machine.memory.HasFont := by
  cases action with
  | cycle => exact absurd rfl other
  | putStorage memory stack picture => cases spared
  | reset => exact Memory.hasFont_initial
  | load program => exact font.loadProgram program
  | _ => exact font

theorem hasFont_run {actions : List Action} (font : host.machine.memory.HasFont)
    (spared : actions.all Action.sparesMemory) (stores : host.storesFrom 0x50 actions) :
    (host.run actions).machine.memory.HasFont := by
  induction actions generalizing host with
  | nil => exact font
  | cons action rest induction =>
      obtain ⟨here, later⟩ := Bool.and_eq_true_iff.mp spared
      by_cases cycles : action = .cycle
      · subst cycles
        obtain ⟨behind, others⟩ := Bool.and_eq_true_iff.mp stores
        refine induction (Machine.hasFont_cycle font fun range written => ?_) later others
        exact of_decide_eq_true ((Option.all_eq_true _ _).mp behind range written)
      · rw [storesFrom_cons_of_ne cycles] at stores
        exact induction (hasFont_act font here cycles) later stores

/-- What falls between two cycles does not touch the index register, the font or a key wait. -/
theorem act_of_fallsBetween {action : Action} (falls : action.fallsBetween) :
    (host.act action).machine.registers.index = host.machine.registers.index ∧
      (host.act action).machine.awaiting = host.machine.awaiting ∧
      (host.machine.memory.HasFont → (host.act action).machine.memory.HasFont) := by
  cases action with
  | decay | key event => exact ⟨rfl, rfl, id⟩
  | load program => exact ⟨rfl, rfl, fun font => font.loadProgram program⟩
  | _ => cases falls

theorem run_of_fallsBetween {between : List Action} (falls : between.all Action.fallsBetween) :
    (host.run between).machine.registers.index = host.machine.registers.index ∧
      (host.run between).machine.awaiting = host.machine.awaiting ∧
      (host.machine.memory.HasFont → (host.run between).machine.memory.HasFont) := by
  induction between generalizing host with
  | nil => exact ⟨rfl, rfl, id⟩
  | cons action rest induction =>
      obtain ⟨here, later⟩ := Bool.and_eq_true_iff.mp falls
      obtain ⟨indexFirst, awaitingFirst, fontFirst⟩ := host.act_of_fallsBetween here
      obtain ⟨index, awaiting, font⟩ := @induction (host.act action) later
      exact ⟨index.trans indexFirst, awaiting.trans awaitingFirst, font ∘ fontFirst⟩

/-- A host executes `LD F, VX` next, and directly after it meets `DRW VY, VZ, height`. -/
structure DrawsGlyph (host : Host) (x y z : Register) (height : Digit)
    (between : List Action) : Prop where
  running : host.machine.awaiting = none
  points : host.machine.Faces (Instruction.glyph x).toOpcode
  falls : between.all Action.fallsBetween
  draws : ((host.act .cycle).run between).machine.Faces (Instruction.draw y z height).toOpcode

namespace DrawsGlyph

variable {height : Digit} {between : List Action}

theorem toNat_index (follows : host.DrawsGlyph x y z height between) :
    ((host.act .cycle).run between).machine.registers.index.toNat =
      5 * (host.machine.registers.get x).toNat := by
  rw [(run_of_fallsBetween follows.falls).1]
  exact Machine.toNat_index_cycle_of_glyph follows.running follows.points _

/-- Even for a value that is no digit, the sprite lies within memory. -/
theorem executes (follows : host.DrawsGlyph x y z height between) :
    let ready := (host.act .cycle).run between
    ready.answer = .ok (.executed (Instruction.draw y z height).toOpcode) ∧
      (ready.act .cycle).machine = ready.machine.drawn y z height := by
  intro ready
  have pointed := Machine.cycle_of_glyph follows.running follows.points host.keypad.pressed
  have running : ready.machine.awaiting = none :=
    (run_of_fallsBetween follows.falls).2.1.trans
      ((congrArg (·.2.awaiting) pointed).trans follows.running)
  have inside : ready.machine.registers.index.toNat + height ≤ 0x1000 := by
    have byte := (host.machine.registers.get x).toNat_lt
    have index : ready.machine.registers.index.toNat = _ := follows.toNat_index
    omega
  obtain ⟨answered, executed⟩ :=
    Machine.executes_draw running follows.draws inside ready.keypad.pressed
  exact ⟨answered, Machine.cycle_of_draw executed⟩

end DrawsGlyph
end Host

/-- As long as digits and registers are stored behind the font only, a run leaves the font as it was
at power-on. Pointing the index register to a digit and drawing five rows then succeeds, and flips
exactly the pixels that the glyph of the digit covers. Whatever a machine is in, pointing to a value
succeeds without a wrap, even if the value is no digit, and so does drawing rows from there. -/
theorem digits_draw_as_glyphs :
    (∀ (random : RandomSource) (actions : List Host.Action),
      actions.all Host.Action.sparesMemory → (Host.powerOn random).storesFrom 0x50 actions →
      let host := (Host.powerOn random).run actions
      (∀ address < 0x50, host.machine.memory.byte? address = Font.bytes[address]?) ∧
      ∀ (x y z : Register) (digit : Digit) (between : List Host.Action),
        (host.machine.registers.get x).toNat = digit → host.DrawsGlyph x y z 5 between →
        let ready := (host.act .cycle).run between
        let place := ready.machine.registers.get
        host.answer = .ok (.executed (Instruction.glyph x).toOpcode) ∧
        ready.answer = .ok (.executed (Instruction.draw y z 5).toOpcode) ∧
        ∀ column row, (ready.act .cycle).machine.picture.lit column row =
          (ready.machine.picture.lit column row ^^ decide
            (Sprite.Covers (place y).toNat (place z).toNat (Font.glyph digit) column row))) ∧
    ∀ (host : Host) (x : Register), host.machine.awaiting = none →
      host.machine.Faces (Instruction.glyph x).toOpcode →
      host.answer = .ok (.executed (Instruction.glyph x).toOpcode) ∧
      (host.act .cycle).machine.registers.index.toNat =
        5 * (host.machine.registers.get x).toNat ∧
      ∀ (y z : Register) (height : Digit) (between : List Host.Action),
        host.DrawsGlyph x y z height between →
        ((host.act .cycle).run between).answer =
          .ok (.executed (Instruction.draw y z height).toOpcode) := by
  refine ⟨fun random actions spared stores => ?_, fun host x running points => ?_⟩
  · intro host
    have font : host.machine.memory.HasFont :=
      Host.hasFont_run Memory.hasFont_initial spared stores
    refine ⟨font, fun x y z digit between holds follows => ?_⟩
    intro ready place
    have pointed := Machine.cycle_of_glyph follows.running follows.points host.keypad.pressed
    have still : ready.machine.memory.HasFont := by
      refine (Host.run_of_fallsBetween follows.falls).2.2 ?_
      rw [Host.act, pointed]
      exact font
    have index : ready.machine.registers.index.toNat = 5 * digit := by
      rw [← holds]
      exact follows.toNat_index
    obtain ⟨answered, reached⟩ := follows.executes
    refine ⟨congrArg Prod.fst pointed, answered, fun column row => ?_⟩
    have covers := Machine.covers_drawing_iff_of_font still index y z column row
    rw [reached, Machine.lit_drawn]
    exact congrArg _ (decide_eq_decide.mpr covers)
  · have pointed := Machine.cycle_of_glyph running points host.keypad.pressed
    exact ⟨congrArg Prod.fst pointed, Machine.toNat_index_cycle_of_glyph running points _,
      fun y z height between follows => follows.executes.1⟩

/-- A program stores digits and a register right behind the font, and then draws the digit in
`V0` at column and row 62. Two of its rows are above the lower edge, and two of its columns are
beyond the right one. -/
theorem stored_digit_is_drawn :
    let program : List UInt8 :=
      [0x61, 0x3E, 0x60, 0x0A, 0xA0, 0x50, 0xF0, 0x33, 0xF0, 0x55, 0xF0, 0x29, 0xD1, 0x15]
    let actions : List Host.Action :=
      [.load program, .cycle, .cycle, .decay, .cycle, .cycle, .cycle]
    let host := (Host.powerOn ⟨Vector.replicate 8 0, 0⟩).run actions
    let ready := (host.act .cycle).run [.decay]
    host.machine.memory.byte? 0x50 = some 0x0A ∧ host.machine.memory.byte? 0x4F = some 0x80 ∧
      (host.act .cycle).machine.registers.index.toNat = 50 ∧
      ready.answer = .ok (.executed 0xD115) ∧
      (ready.act .cycle).machine.picture.lit 0 0 = true ∧
      (ready.act .cycle).machine.picture.lit 63 31 = false := by
  intro program actions host ready
  have facts : (Host.powerOn ⟨Vector.replicate 8 0, 0⟩).storesFrom 0x50 actions = true ∧
      host.machine.awaiting = none ∧ host.machine.Faces (Instruction.glyph (.of 0)).toOpcode ∧
      ready.machine.Faces (Instruction.draw (.of 1) (.of 1) (.of 5)).toOpcode ∧
      host.machine.memory.byte? 0x50 = some 0x0A ∧ host.machine.registers.get (.of 0) = 10 ∧
      ready.machine.registers.get (.of 1) = 62 ∧ ready.machine.picture = .dark := by
    decide +kernel
  obtain ⟨stores, running, points, draws, stored, digit, place, dark⟩ := facts
  have follows : host.DrawsGlyph (.of 0) (.of 1) (.of 1) 5 [.decay] :=
    ⟨running, points, rfl, draws⟩
  obtain ⟨font, drawn⟩ := digits_draw_as_glyphs.1 _ actions rfl stores
  obtain ⟨-, answered, lit⟩ :=
    drawn (.of 0) (.of 1) (.of 1) 10 [.decay] (congrArg UInt8.toNat digit) follows
  obtain ⟨-, index, -⟩ := digits_draw_as_glyphs.2 host (.of 0) running points
  have shown (column row : Nat) : (ready.act .cycle).machine.picture.lit column row =
      (Picture.dark.lit column row ^^ decide (Sprite.Covers 62 62 (Font.glyph 10) column row)) := by
    refine (lit column row).trans ?_
    rw [place, dark]
    rfl
  refine ⟨stored, (font 0x4F (by decide)).trans rfl, ?_, answered, ?_, ?_⟩
  · rw [index, digit]
    rfl
  · rw [shown]
    decide +kernel
  · rw [shown]
    decide +kernel

end Chip8

import Chip8.Proofs.Footprint

/-!
# Timers and execution

One instruction reads the delay timer and none the sound timer. Every other instruction does the
same to two machines that differ in their timers, and save for the two that set a timer it leaves
the difference as it is. So what cycles come to, and all that they do to the rest of the machine,
cannot depend on the timers as long as the delay timer is not read. A machine whose timers decay a
number of times is the machine with that number taken off both.
-/

namespace Chip8
namespace Machine

/-- The machine with given values in its timers. -/
def withTimers (machine : Machine) (delay sound : UInt8) : Machine :=
  { machine with registers := { machine.registers with delay, sound } }

theorem decay_eq_withTimers (machine : Machine) :
    machine.decay = machine.withTimers (Registers.countDown machine.registers.delay)
      (Registers.countDown machine.registers.sound) := rfl

/-- No check looks at a timer. -/
theorem check_withTimers (instruction : Instruction) (machine : Machine) (delay sound : UInt8) :
    instruction.check (machine.withTimers delay sound) = instruction.check machine := by
  cases instruction <;> rfl

theorem ready_withTimers (machine : Machine) (delay sound : UInt8) :
    (machine.withTimers delay sound).ready = machine.ready := by
  have next : (machine.withTimers delay sound).next = machine.next := rfl
  simp only [ready, next, check_withTimers]

theorem skipIf_withTimers (machine : Machine) (delay sound : UInt8) (condition : Bool) :
    (machine.withTimers delay sound).skipIf condition =
      (machine.skipIf condition).withTimers delay sound := by
  cases condition <;> rfl

theorem combine_withTimers (machine : Machine) (delay sound : UInt8) (combination : Combination)
    (x y : Register) :
    (machine.withTimers delay sound).combine combination x y =
      (machine.combine combination x y).withTimers delay sound := by
  cases combination <;> rfl

theorem dropRandomByte_withTimers (machine : Machine) (delay sound : UInt8) :
    (machine.withTimers delay sound).dropRandomByte =
      machine.dropRandomByte.withTimers delay sound := by
  have fixed : (machine.withTimers delay sound).fixedByte = machine.fixedByte := rfl
  unfold dropRandomByte
  rw [fixed]
  split <;> rfl

theorem awaitKey_withTimers (machine : Machine) (delay sound : UInt8) (x : Register)
    (pressed : Option Key) :
    (machine.withTimers delay sound).awaitKey x pressed =
      (machine.awaitKey x pressed).withTimers delay sound := by
  cases pressed <;> rfl

end Machine

/-- What an execution has come to, with given values in the timers afterwards. -/
def retimed (delay sound : UInt8) (result : Attempt Unit × Machine) : Attempt Unit × Machine :=
  (result.1, result.2.withTimers delay sound)

theorem Machine.proceed_withTimers {α : Type} (machine : Machine) (delay sound : UInt8)
    (attempt : Attempt α) {rest later : α → Attempt Unit × Machine}
    (same : ∀ value, later value = retimed delay sound (rest value)) :
    Attempt.proceed (machine.withTimers delay sound) attempt later =
      retimed delay sound (Attempt.proceed machine attempt rest) := by
  cases attempt with
  | ok value => exact same value
  | error failure => rfl

namespace Instruction

/-- An instruction that neither reads nor sets a timer executes as it would with other timers. -/
theorem execute_withTimers {instruction : Instruction} (blind : ∀ x, instruction ≠ .readDelay x)
    (delayKept : .delay ∉ instruction.parts) (soundKept : .sound ∉ instruction.parts)
    (pressed : Option Key) (machine : Machine) (delay sound : UInt8) :
    instruction.execute pressed (machine.withTimers delay sound) =
      retimed delay sound (instruction.execute pressed machine) := by
  cases instruction with
  | readDelay x => exact absurd rfl (blind x)
  | setDelay x => exact absurd List.mem_cons_self delayKept
  | setSound x => exact absurd List.mem_cons_self soundKept
  | skipIfEqual x byte => exact congrArg _ (machine.skipIf_withTimers delay sound _)
  | skipUnlessEqual x byte => exact congrArg _ (machine.skipIf_withTimers delay sound _)
  | skipIfSame x y n => exact congrArg _ (machine.skipIf_withTimers delay sound _)
  | skipUnlessSame x y n => exact congrArg _ (machine.skipIf_withTimers delay sound _)
  | skipIfPressed x => exact congrArg _ (machine.skipIf_withTimers delay sound _)
  | skipUnlessPressed x => exact congrArg _ (machine.skipIf_withTimers delay sound _)
  | combine combination x y n =>
      exact congrArg _ (machine.combine_withTimers delay sound combination x y)
  | random x mask =>
      rw [execute, execute, Machine.loadRandom, Machine.dropRandomByte_withTimers]
      rfl
  | awaitKey x => exact congrArg _ (machine.awaitKey_withTimers delay sound x pressed)
  | restore x =>
      rw [execute, execute, Machine.restore_eq, Machine.restore_eq]
      refine machine.proceed_withTimers delay sound _ fun values => ?_
      have same : (machine.withTimers delay sound).registers.v = machine.registers.v := rfl
      have filled := Registers.v_putFrom_congr same 0 values
      rw [Registers.putFrom_eq, filled, Registers.putFrom_eq machine.registers]
      rfl
  | ret => exact machine.proceed_withTimers delay sound _ fun _ => rfl
  | jumpPlus target => exact machine.proceed_withTimers delay sound _ fun _ => rfl
  | draw x y height => exact machine.proceed_withTimers delay sound _ fun _ => rfl
  | glyph x => exact machine.proceed_withTimers delay sound _ fun _ => rfl
  | _ => rfl

end Instruction

/-! ## Cycles -/

namespace Machine

/-- Two machines that differ at most in their timers. -/
def SameButTimers (first second : Machine) : Prop :=
  ∃ delay sound, second = first.withTimers delay sound

namespace SameButTimers

theorem refl (machine : Machine) : machine.SameButTimers machine :=
  ⟨machine.registers.delay, machine.registers.sound, rfl⟩

theorem symm {first second : Machine} (same : first.SameButTimers second) :
    second.SameButTimers first := by
  obtain ⟨delay, sound, rfl⟩ := same
  exact ⟨first.registers.delay, first.registers.sound, rfl⟩

theorem trans {first second third : Machine} (earlier : first.SameButTimers second)
    (later : second.SameButTimers third) : first.SameButTimers third := by
  obtain ⟨_, _, rfl⟩ := earlier
  obtain ⟨delay, sound, rfl⟩ := later
  exact ⟨delay, sound, rfl⟩

end SameButTimers

theorem sameButTimers_decay (machine : Machine) : machine.SameButTimers machine.decay :=
  ⟨_, _, machine.decay_eq_withTimers⟩

/-- Unless an instruction reads the delay timer, the timers before decide nothing but the timers
after. -/
theorem execute_sameButTimers {instruction : Instruction} (blind : ∀ x, instruction ≠ .readDelay x)
    (pressed : Option Key) (machine : Machine) (delay sound : UInt8) :
    (instruction.execute pressed machine).2.SameButTimers
      (instruction.execute pressed (machine.withTimers delay sound)).2 := by
  by_cases setsDelay : .delay ∈ instruction.parts
  · obtain ⟨x, rfl⟩ := Instruction.delay_mem_parts_iff.mp setsDelay
    exact ⟨_, sound, rfl⟩
  by_cases setsSound : .sound ∈ instruction.parts
  · obtain ⟨x, rfl⟩ := Instruction.sound_mem_parts_iff.mp setsSound
    exact ⟨delay, _, rfl⟩
  · rw [Instruction.execute_withTimers blind setsDelay setsSound]
    exact ⟨delay, sound, rfl⟩

/-- What a cycle comes to does not depend on the timers, and unless it reads the delay timer, what
it does to the rest of the machine does not either. -/
theorem cycle_sameButTimers {first second : Machine} (same : first.SameButTimers second)
    (pressed : Option Key) :
    (second.cycle pressed).1 = (first.cycle pressed).1 ∧
      ((∀ x, Instruction.ofAnswer? (first.cycle pressed).1 ≠ some (.readDelay x)) →
        (first.cycle pressed).2.SameButTimers (second.cycle pressed).2) := by
  obtain ⟨delay, sound, rfl⟩ := same
  cases first.cycleKind pressed with
  | @received x key waiting held result =>
      have again : (first.withTimers delay sound).cycle pressed =
          (.ok (.received key), (first.receive x key).withTimers delay sound) :=
        cycle_of_received waiting held
      rw [result, again]
      exact ⟨rfl, fun _ => ⟨delay, sound, rfl⟩⟩
  | awaiting waiting idle result =>
      have again : (first.withTimers delay sound).cycle pressed = _ := cycle_of_idle waiting idle
      rw [result, again]
      exact ⟨rfl, fun _ => ⟨delay, sound, rfl⟩⟩
  | failed running refused result =>
      have again : (first.withTimers delay sound).cycle pressed = _ :=
        cycle_of_ready_error pressed running ((first.ready_withTimers delay sound).trans refused)
      rw [result, again]
      exact ⟨rfl, fun _ => ⟨delay, sound, rfl⟩⟩
  | @executed opcode instruction running found allowed result =>
      have again : (first.withTimers delay sound).cycle pressed = _ :=
        cycle_of_check_ok pressed running found
          ((check_withTimers instruction first delay sound).trans allowed)
      rw [result, again]
      refine ⟨rfl, fun blind => ?_⟩
      refine execute_sameButTimers (fun x reads => blind x ?_) pressed first.advance delay sound
      rw [← reads]
      exact (next_eq_ok_iff.mp found).2

/-! ## Decay -/

/-- The machine whose timers were counted down a number of times. -/
def decayed (machine : Machine) (ticks : Nat) : Machine :=
  { machine with
    registers :=
      { machine.registers with
        delay := UInt8.ofNat (machine.registers.delay.toNat - ticks)
        sound := UInt8.ofNat (machine.registers.sound.toNat - ticks) } }

theorem countDown_ofNat_sub (timer : UInt8) (ticks : Nat) :
    Registers.countDown (UInt8.ofNat (timer.toNat - ticks)) =
      UInt8.ofNat (timer.toNat - (ticks + 1)) := by
  have bound := timer.toNat_lt
  apply UInt8.toNat_inj.mp
  rw [Registers.toNat_countDown, UInt8.toNat_ofNat', UInt8.toNat_ofNat']
  omega

@[simp]
theorem decayed_zero (machine : Machine) : machine.decayed 0 = machine := by
  simp [decayed]

@[simp]
theorem decay_decayed (machine : Machine) (ticks : Nat) :
    (machine.decayed ticks).decay = machine.decayed (ticks + 1) := by
  simp only [decay, decayed, Registers.decay, countDown_ofNat_sub]

theorem ready_decayed (machine : Machine) (ticks : Nat) :
    (machine.decayed ticks).ready = machine.ready := machine.ready_withTimers _ _

end Machine
end Chip8

import Chip8.Proofs.Footprint
import Chip8.Proofs.Host

/-!
# Nested calls

The calls that a run has not returned from yet, read off what its cycles come to. The machine keeps
sixteen of them at most: its stack pointer counts modulo 256, and a call beyond the last slot is
lost. What ties the slots to the calls nevertheless is that a return cannot happen while the pointer
is beyond the slots, and that the pointer only comes back to them by further calls, each of which
fills its slot anew.
-/

namespace Chip8

/-- How the calls and returns of a run have matched. -/
structure Nesting where
  /-- The addresses behind the calls that have not been returned from, the latest first. -/
  outstanding : List UInt16
  /-- The number of returns at which no call was outstanding. -/
  unmatched : Nat
  deriving DecidableEq

namespace Nesting

/-- Before the first call. -/
def empty : Nesting := ⟨[], 0⟩

/-- A call that is to be returned from to an address. -/
def call (nesting : Nesting) (address : UInt16) : Nesting :=
  { nesting with outstanding := address :: nesting.outstanding }

/-- A return from the latest call, if there is one. -/
def ret (nesting : Nesting) : Nesting :=
  match nesting.outstanding with
  | [] => { nesting with unmatched := nesting.unmatched + 1 }
  | _ :: older => { nesting with outstanding := older }

/-- The nesting after the instruction at an address was executed. -/
def note (nesting : Nesting) (pc : UInt16) : Instruction → Nesting
  | .call _ => nesting.call (pc + 2)
  | .ret => nesting.ret
  | _ => nesting

end Nesting

namespace Host

/-- The nesting after an action. Only a cycle that executes an instruction can change it. -/
def observe (host : Host) (nesting : Nesting) : Action → Nesting
  | .cycle =>
      match host.answer with
      | .ok (.executed opcode) =>
          match Instruction.ofOpcode? opcode with
          | some instruction => nesting.note host.machine.registers.pc instruction
          | none => nesting
      | _ => nesting
  | _ => nesting

/-- The nesting after a run. -/
def nesting (host : Host) (before : Nesting) : List Action → Nesting
  | [] => before
  | action :: rest => (host.act action).nesting (host.observe before action) rest

theorem nesting_append (host : Host) (before : Nesting) (first second : List Action) :
    host.nesting before (first ++ second) =
      (host.run first).nesting (host.nesting before first) second := by
  induction first generalizing host before with
  | nil => rfl
  | cons action first induction => rw [List.cons_append, nesting, nesting, run, induction]

end Host

/-! ## What the call stack keeps of the calls -/

namespace Nesting

/-- A call stack and its pointer keep as much of the calls as a return may ask for. -/
structure KeptBy (nesting : Nesting) (stack : CallStack) (sp : UInt8) : Prop where
  /-- The pointer counts the outstanding calls, and an unmatched return took one off. -/
  count : (sp.toNat + nesting.unmatched) % 256 = nesting.outstanding.length % 256
  /-- After one unmatched return the pointer is beyond the slots, so there is no second one. -/
  once : nesting.unmatched ≤ 1
  /-- While the pointer selects a slot, the slots up to it hold the latest calls. -/
  slots : sp.toNat < CallStack.depth → ∀ pointer address, pointer.toNat ≤ sp.toNat →
    nesting.outstanding[sp.toNat - pointer.toNat]? = some address →
      stack.read? pointer = some address
  /-- No call fills the lowest slot before the pointer has come round. -/
  lowest : nesting.unmatched = 0 → nesting.outstanding.length < CallStack.depth →
    stack.read? 0 = some 0

theorem keptBy_initial : empty.KeptBy .initial 0 where
  count := rfl
  once := Nat.zero_le 1
  slots := by
    intro _ pointer address _ found
    cases found
  lowest := fun _ _ => rfl

namespace KeptBy

variable {nesting : Nesting} {stack : CallStack} {sp : UInt8}

/-- A call fills the slot above the pointer. Beyond the slots there is nothing to keep. -/
theorem call (kept : nesting.KeptBy stack sp) (address : UInt16) :
    (nesting.call address).KeptBy (stack.write (sp + 1) address) (sp + 1) := by
  have count := kept.count
  have bound := sp.toNat_lt
  have above : (sp + 1).toNat = (sp.toNat + 1) % 256 := by simp [UInt8.toNat_add]
  have slots : CallStack.depth = 16 := rfl
  refine ⟨?_, kept.once, ?_, ?_⟩
  · simp only [Nesting.call, List.length_cons]
    omega
  · intro inside pointer found below held
    rw [CallStack.read?_write]
    by_cases latest : sp + 1 = pointer
    · subst latest
      rw [Nesting.call, Nat.sub_self, List.getElem?_cons_zero] at held
      rw [if_pos ⟨rfl, inside⟩, held]
    · -- The other slots keep their calls, each of which is one further down the list.
      have strict : pointer.toNat ≠ (sp + 1).toNat := fun same =>
        latest (UInt8.toNat_inj.mp same.symm)
      have distance : (sp + 1).toNat - pointer.toNat = sp.toNat - pointer.toNat + 1 := by omega
      rw [Nesting.call, distance, List.getElem?_cons_succ] at held
      rw [if_neg fun written => latest written.1]
      exact kept.slots (by omega) pointer found (by omega) held
  · intro matched shallow
    simp only [Nesting.call, List.length_cons] at matched shallow
    have apart : sp + 1 ≠ 0 := by
      intro round
      have zero : (sp + 1).toNat = 0 := by rw [round]; rfl
      omega
    rw [CallStack.read?_write, if_neg fun written => apart written.1]
    exact kept.lowest matched (by omega)

/-- A return takes the latest call off. It needs a slot to return from. -/
theorem ret (kept : nesting.KeptBy stack sp) (inside : sp.toNat < CallStack.depth) :
    nesting.ret.KeptBy stack (sp - 1) := by
  have count := kept.count
  have once := kept.once
  have below : (sp - 1).toNat = (sp.toNat + 255) % 256 := by
    simp [UInt8.toNat_sub, Nat.add_comm]
  have slots : CallStack.depth = 16 := rfl
  cases calls : nesting.outstanding with
  | nil =>
      rw [calls, List.length_nil] at count
      rw [Nesting.ret, calls]
      refine ⟨?_, ?_, ?_, ?_⟩
      · simp only [List.length_nil]
        omega
      · change nesting.unmatched + 1 ≤ 1
        omega
      · intro again
        omega
      · intro impossible
        cases impossible
  | cons latest older =>
      rw [calls, List.length_cons] at count
      rw [Nesting.ret, calls]
      refine ⟨?_, once, ?_, ?_⟩
      · change ((sp - 1).toNat + nesting.unmatched) % 256 = older.length % 256
        omega
      · intro again pointer address under held
        have distance : sp.toNat - pointer.toNat = (sp - 1).toNat - pointer.toNat + 1 := by omega
        refine kept.slots inside pointer address (by omega) ?_
        rw [calls, distance, List.getElem?_cons_succ]
        exact held
      · intro matched shallow
        change older.length < CallStack.depth at shallow
        change nesting.unmatched = 0 at matched
        refine kept.lowest matched ?_
        rw [calls, List.length_cons]
        omega

end KeptBy

theorem note_of_ne {instruction : Instruction} (nesting : Nesting) (pc : UInt16)
    (noCall : ∀ target, instruction ≠ .call target) (noReturn : instruction ≠ .ret) :
    nesting.note pc instruction = nesting := by
  cases instruction with
  | call target => exact absurd rfl (noCall target)
  | ret => exact absurd rfl noReturn
  | _ => rfl

/-- An instruction whose demand is met does to the call stack what the nesting notes of it. -/
theorem KeptBy.execute {nesting : Nesting} {machine : Machine} {instruction : Instruction}
    (kept : nesting.KeptBy machine.stack machine.registers.sp) (pressed : Option Key)
    (allowed : instruction.check machine = .ok ()) :
    let after := (instruction.execute pressed machine.advance).2
    (nesting.note machine.registers.pc instruction).KeptBy after.stack after.registers.sp := by
  intro after
  by_cases calls : ∃ target, instruction = .call target
  · obtain ⟨target, rfl⟩ := calls
    exact kept.call (machine.registers.pc + 2)
  by_cases returns : instruction = .ret
  · subst returns
    obtain ⟨pc, read⟩ := Instruction.check_ret_eq_ok_iff.mp allowed
    have inside : machine.registers.sp.toNat < CallStack.depth := by
      refine Nat.lt_of_not_le fun beyond => ?_
      rw [CallStack.read?_eq_none_iff.mpr beyond] at read
      cases read
    have result : after = { machine.advance with registers :=
        { machine.advance.registers with pc, sp := machine.registers.sp - 1 } } :=
      congrArg Prod.snd (machine.advance.ret_of_read read)
    rw [result]
    exact kept.ret inside
  · have noCall : ∀ target, instruction ≠ .call target := fun target same => calls ⟨target, same⟩
    have noSlot : .stack ∉ instruction.parts := mt Instruction.stack_mem_parts_iff.mp calls
    have noPointer : .pointer ∉ instruction.parts := fun member =>
      (Instruction.pointer_mem_parts_iff.mp member).elim returns calls
    have stack : Part.stack.Agree machine.advance after :=
      Instruction.execute_agree noSlot pressed machine.advance
    have sp : Part.pointer.Agree machine.advance after :=
      Instruction.execute_agree noPointer pressed machine.advance
    rw [note_of_ne nesting _ noCall returns, show after.stack = machine.stack from stack,
      show after.registers.sp = machine.registers.sp from sp]
    exact kept

end Nesting

/-! ## Runs of a host -/

namespace Host

variable {host : Host} {before : Nesting}

/-- The call stack of the machine keeps the calls of a nesting. -/
def Keeps (host : Host) (nesting : Nesting) : Prop :=
  nesting.KeptBy host.machine.stack host.machine.registers.sp

theorem keeps_cycle (kept : host.Keeps before) :
    (host.act .cycle).Keeps (host.observe before .cycle) := by
  rw [Keeps, act, observe, answer]
  cases host.machine.cycleKind host.keypad.pressed with
  | received _ _ result => rw [result]; exact kept
  | awaiting _ _ result => rw [result]; exact kept
  | failed _ _ result => rw [result]; exact kept
  | executed _ found allowed result =>
      simp only [result, (Machine.next_eq_ok_iff.mp found).2]
      exact kept.execute _ allowed

theorem keeps_act (kept : host.Keeps before) {action : Action} (spared : action.sparesStack) :
    (host.act action).Keeps (host.observe before action) := by
  cases action with
  | cycle => exact keeps_cycle kept
  | load program => exact kept
  | decay => exact kept
  | key event => exact kept
  | jump pc => exact kept
  | fix byte => exact kept
  | _ => cases spared

/-- The call stack keeps the calls of every run that leaves it to the program. -/
theorem keeps_run (kept : host.Keeps before) (actions : List Action)
    (spared : ∀ action ∈ actions, action.sparesStack) :
    (host.run actions).Keeps (host.nesting before actions) := by
  induction actions generalizing host before with
  | nil => exact kept
  | cons action rest induction =>
      rw [run, nesting]
      obtain ⟨first, still⟩ := List.forall_mem_cons.mp spared
      exact induction (keeps_act kept first) still

theorem keeps_powerOn (random : RandomSource) : (powerOn random).Keeps .empty :=
  Nesting.keptBy_initial

end Host
end Chip8

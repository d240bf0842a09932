import Chip8.Proofs.Nesting
import Mathlib.Tactic.Common

/-!
# Returns

Where a return goes. While a call is outstanding, a return either continues behind the latest call
or fails, however deep the calls are nested. With no call outstanding it should fail, but the
pointer cannot tell an empty stack from one whose lowest slot is occupied: the first such return
continues at the zero that the lowest slot holds at power-on. Only the ones after it fail.
-/

namespace Chip8

/-! ## One return -/

namespace Machine

/-- The next cycle executes a return. -/
def AtReturn (machine : Machine) : Prop :=
  machine.awaiting = none ∧ machine.fetch = .ok 0x00EE

instance (machine : Machine) : Decidable machine.AtReturn :=
  inferInstanceAs (Decidable (_ ∧ _))

namespace AtReturn

variable {machine : Machine}

theorem next (returns : machine.AtReturn) : machine.next = .ok (0x00EE, .ret) :=
  next_eq_ok_iff.mpr ⟨returns.2, rfl⟩

theorem cycle_of_read (returns : machine.AtReturn) (pressed : Option Key) {pc : UInt16}
    (read : machine.stack.read? machine.registers.sp = some pc) :
    machine.cycle pressed =
      (.ok (.executed 0x00EE), { machine with
        registers := { machine.registers with pc, sp := machine.registers.sp - 1 } }) := by
  have allowed : Instruction.ret.check machine = .ok () :=
    Instruction.check_ret_eq_ok_iff.mpr ⟨pc, read⟩
  have result : machine.advance.ret = _ := machine.advance.ret_of_read read
  rw [cycle_of_check_ok pressed returns.1 returns.next allowed, Instruction.execute, result]
  rfl

theorem cycle_of_beyond (returns : machine.AtReturn) (pressed : Option Key)
    (beyond : CallStack.depth ≤ machine.registers.sp.toNat) :
    machine.cycle pressed =
      (.error (.fault (.stackOutOfRange machine.registers.sp)), machine) := by
  refine cycle_of_ready_error pressed returns.1 ?_
  rw [ready, returns.next]
  simp only [bind, Except.bind, Instruction.check, readStack_of_depth_le beyond, Attempt.refuse,
    Except.map]

end AtReturn
end Machine

namespace Nesting.KeptBy

variable {nesting : Nesting} {stack : CallStack} {sp : UInt8}

/-- A pointer that selects a slot selects that of the latest call. -/
theorem read_latest (kept : nesting.KeptBy stack sp) (inside : sp.toNat < CallStack.depth)
    {latest : UInt16} {older : List UInt16} (calls : nesting.outstanding = latest :: older) :
    stack.read? sp = some latest := by
  refine kept.slots inside sp latest (Nat.le_refl _) ?_
  rw [calls, Nat.sub_self, List.getElem?_cons_zero]

/-- While calls and returns match, the pointer counts the outstanding calls modulo 256. -/
theorem pointer_of_matched (kept : nesting.KeptBy stack sp) (matched : nesting.unmatched = 0) :
    sp.toNat = nesting.outstanding.length % 256 := by
  have count := kept.count
  have bound := sp.toNat_lt
  omega

theorem pointer_of_unmatched (kept : nesting.KeptBy stack sp) (unmatched : nesting.unmatched = 1)
    (nothing : nesting.outstanding = []) : sp = 0xFF := by
  have count := kept.count
  have bound := sp.toNat_lt
  rw [nothing, List.length_nil] at count
  have value : sp.toNat = (0xFF : UInt8).toNat := by
    change sp.toNat = 255
    omega
  exact UInt8.toNat_inj.mp value

end Nesting.KeptBy

/-! ## Deep recursion -/

namespace Host

/-- A call of the address that it stands at nests as deep as there are cycles. -/
theorem nesting_recursion {host : Host} {opcode : Opcode} {target : Address}
    (running : host.machine.awaiting = none)
    (found : host.machine.next = .ok (opcode, .call target))
    (same : UInt16.ofNat target = host.machine.registers.pc) (before : Nesting) (depth : Nat) :
    host.nesting before (List.replicate depth .cycle) =
        { before with outstanding :=
            List.replicate depth (host.machine.registers.pc + 2) ++ before.outstanding } ∧
      (host.run (List.replicate depth .cycle)).machine.memory = host.machine.memory ∧
        (host.run (List.replicate depth .cycle)).machine.awaiting = none := by
  induction depth generalizing host before with
  | zero => exact ⟨rfl, rfl, running⟩
  | succ depth induction =>
      have calls : host.machine.cycle host.keypad.pressed =
          (.ok (.executed opcode), host.machine.advance.call target) :=
        Machine.cycle_of_check_ok _ running found rfl
      have again : (host.machine.advance.call target).next = .ok (opcode, .call target) := by
        rw [← found, Machine.next, Machine.next, Machine.fetch, Machine.fetch, ← same]
        rfl
      have observed : host.observe before .cycle =
          before.call (host.machine.registers.pc + 2) := by
        simp only [observe, answer, calls, (Machine.next_eq_ok_iff.mp found).2]
        rfl
      obtain ⟨nested, memory, awaiting⟩ := @induction
        { host with machine := host.machine.advance.call target } running again rfl
        (before.call (host.machine.registers.pc + 2))
      have back : (host.machine.advance.call target).registers.pc = host.machine.registers.pc :=
        same
      rw [List.replicate_succ, nesting, run, observed, act, calls, nested, memory, awaiting]
      refine ⟨?_, rfl, rfl⟩
      rw [back, Nesting.call, List.replicate_succ', List.append_assoc]
      rfl

/-- The program `CALL 0x200`, `RET`, run for some cycles and then moved on to its return. -/
def recursion (cycles : Nat) : List Action :=
  .load [0x22, 0x00, 0x00, 0xEE] :: (List.replicate cycles .cycle ++ [.jump 0x202])

theorem nesting_of_recursion (cycles : Nat) :
    let start := powerOn ⟨Vector.replicate 8 0, 0⟩
    start.nesting .empty (recursion cycles) = ⟨List.replicate cycles 0x202, 0⟩ ∧
      (start.run (recursion cycles)).machine.AtReturn := by
  intro start
  let target : Address := ⟨0x200, by decide⟩
  have facts : (start.act (.load [0x22, 0x00, 0x00, 0xEE])).machine.awaiting = none ∧
      (start.act (.load [0x22, 0x00, 0x00, 0xEE])).machine.registers.pc = 0x200 ∧
      (start.act (.load [0x22, 0x00, 0x00, 0xEE])).machine.next = .ok (0x2200, .call target) ∧
      (start.act (.load [0x22, 0x00, 0x00, 0xEE])).machine.memory.readWord 0x202 =
        .ok 0x00EE := by decide +kernel
  have unseen : start.observe .empty (.load [0x22, 0x00, 0x00, 0xEE]) = .empty := rfl
  rw [recursion, nesting, run, unseen]
  generalize start.act (.load [0x22, 0x00, 0x00, 0xEE]) = loaded at facts ⊢
  obtain ⟨running, pc, found, last⟩ := facts
  obtain ⟨nested, memory, awaiting⟩ := nesting_recursion running found pc.symm .empty cycles
  rw [nesting_append, run_append, nested, pc]
  constructor
  · rw [Nesting.empty, List.append_nil]
    rfl
  · refine ⟨awaiting, ?_⟩
    rw [← last, ← memory]
    rfl

end Host

/-! ## Returns from calls -/

/-- In a run that has not returned without a call, a return from `depth` nested calls fails while
`depth` modulo 256 is beyond the slots, and otherwise continues behind the latest call. -/
theorem return_resumes_after_call (random : RandomSource) (actions : List Host.Action)
    (spared : ∀ action ∈ actions, action.sparesStack) :
    let host := (Host.powerOn random).run actions
    let nesting := (Host.powerOn random).nesting .empty actions
    let depth := nesting.outstanding.length
    nesting.unmatched = 0 → host.machine.AtReturn →
      ∀ latest older, nesting.outstanding = latest :: older →
        (16 ≤ depth % 256 →
          host.answer = .error (.fault (.stackOutOfRange (UInt8.ofNat depth))) ∧
            host.act .cycle = host) ∧
        (depth % 256 < 16 →
          host.answer = .ok (.executed 0x00EE) ∧
            (host.act .cycle).machine.registers.pc = latest) := by
  intro host nesting depth matched returns latest older calls
  have kept : host.Keeps nesting := Host.keeps_run (Host.keeps_powerOn random) actions spared
  have pointer : host.machine.registers.sp.toNat = depth % 256 := kept.pointer_of_matched matched
  constructor
  · intro beyond
    have same : host.machine.registers.sp = UInt8.ofNat depth := by
      apply UInt8.toNat_inj.mp
      rw [pointer, UInt8.toNat_ofNat']
    have fails := returns.cycle_of_beyond host.keypad.pressed (pointer ▸ beyond)
    rw [Host.answer, Host.act, fails, same]
    exact ⟨rfl, rfl⟩
  · intro inside
    have read : host.machine.stack.read? host.machine.registers.sp = some latest :=
      kept.read_latest (pointer ▸ inside) calls
    have resumes := returns.cycle_of_read host.keypad.pressed read
    rw [Host.answer, Host.act, resumes]
    exact ⟨rfl, rfl⟩

/-- From 257 nested calls a return continues behind the latest one, although the pointer has come
round. -/
theorem deep_return_resumes :
    let random : RandomSource := ⟨Vector.replicate 8 0, 0⟩
    let actions := Host.recursion 257
    let host := (Host.powerOn random).run actions
    let nesting := (Host.powerOn random).nesting .empty actions
    (∀ action ∈ actions, action.sparesStack) ∧ nesting.unmatched = 0 ∧
      nesting.outstanding.length = 257 ∧ host.machine.AtReturn ∧
        host.answer = .ok (.executed 0x00EE) ∧
          (host.act .cycle).machine.registers.pc = 0x202 := by
  intro random actions
  have spared : ∀ action ∈ actions, action.sparesStack := by
    intro action member
    simp only [actions, Host.recursion, List.mem_cons, List.mem_append,
      List.mem_replicate] at member
    rcases member with rfl | ⟨-, rfl⟩ | rfl | impossible
    · rfl
    · rfl
    · rfl
    · cases impossible
  obtain ⟨noted, returns⟩ := Host.nesting_of_recursion 257
  have matched : ((Host.powerOn random).nesting .empty actions).unmatched = 0 :=
    congrArg Nesting.unmatched noted
  have calls : ((Host.powerOn random).nesting .empty actions).outstanding =
      0x202 :: List.replicate 256 0x202 :=
    (congrArg Nesting.outstanding noted).trans List.replicate_succ
  have depth : ((Host.powerOn random).nesting .empty actions).outstanding.length = 257 := by
    rw [calls, List.length_cons, List.length_replicate]
  have shallow : ((Host.powerOn random).nesting .empty actions).outstanding.length % 256 < 16 := by
    rw [depth]
    decide
  have resumes := return_resumes_after_call random actions spared matched returns _ _ calls
  exact ⟨spared, matched, depth, returns, resumes.2 shallow⟩

/-! ## Returns without a call -/

/-- With no call outstanding, a return fails and changes nothing exactly if another one went before
it. The first one continues at address zero. -/
theorem empty_return_fails_iff (random : RandomSource) (actions : List Host.Action)
    (spared : ∀ action ∈ actions, action.sparesStack) :
    let host := (Host.powerOn random).run actions
    let nesting := (Host.powerOn random).nesting .empty actions
    nesting.outstanding = [] → host.machine.AtReturn →
      ((∃ pointer, host.answer = .error (.fault (.stackOutOfRange pointer))) ∧
          host.act .cycle = host ↔ 0 < nesting.unmatched) ∧
        (nesting.unmatched = 0 →
          host.answer = .ok (.executed 0x00EE) ∧
            (host.act .cycle).machine =
              { host.machine with
                registers := { host.machine.registers with pc := 0, sp := 0xFF } }) ∧
        nesting.unmatched ≤ 1 := by
  intro host nesting nothing returns
  have kept : host.Keeps nesting := Host.keeps_run (Host.keeps_powerOn random) actions spared
  have goesOn : nesting.unmatched = 0 → host.answer = .ok (.executed 0x00EE) ∧
      (host.act .cycle).machine =
        { host.machine with
          registers := { host.machine.registers with pc := 0, sp := 0xFF } } := by
    intro matched
    have zero : host.machine.registers.sp = 0 := by
      apply UInt8.toNat_inj.mp
      rw [kept.pointer_of_matched matched, nothing]
      rfl
    have shallow : nesting.outstanding.length < CallStack.depth := by
      rw [nothing]
      decide
    have read : host.machine.stack.read? host.machine.registers.sp = some 0 := by
      rw [zero]
      exact kept.lowest matched shallow
    have resumes := returns.cycle_of_read host.keypad.pressed read
    rw [zero] at resumes
    rw [Host.answer, Host.act, resumes]
    exact ⟨rfl, rfl⟩
  refine ⟨?_, goesOn, kept.once⟩
  constructor
  · rintro ⟨⟨pointer, failed⟩, -⟩
    refine Nat.pos_of_ne_zero fun matched => ?_
    rw [(goesOn matched).1] at failed
    cases failed
  · intro before
    have unmatched : nesting.unmatched = 1 := Nat.le_antisymm kept.once before
    have last : host.machine.registers.sp = 0xFF := kept.pointer_of_unmatched unmatched nothing
    have beyond : CallStack.depth ≤ host.machine.registers.sp.toNat := by
      rw [last]
      decide
    have fails := returns.cycle_of_beyond host.keypad.pressed beyond
    rw [Host.answer, Host.act, fails]
    exact ⟨⟨_, rfl⟩, rfl⟩

/-- The program `LD V0, 0x12`, `LD V1, 0x06`, `LD [I], V1`, `RET` puts a jump back to its return at
address zero. Its first return goes there, its second one fails. -/
theorem second_empty_return_fails :
    let random : RandomSource := ⟨Vector.replicate 8 0, 0⟩
    let actions : List Host.Action :=
      .load [0x60, 0x12, 0x61, 0x06, 0xF1, 0x55, 0x00, 0xEE] :: List.replicate 5 .cycle
    let host := (Host.powerOn random).run actions
    (∀ action ∈ actions, action.sparesStack) ∧
      (Host.powerOn random).nesting .empty actions = ⟨[], 1⟩ ∧ host.machine.AtReturn ∧
        (∃ pointer, host.answer = .error (.fault (.stackOutOfRange pointer))) ∧
          host.act .cycle = host := by
  intro random actions host
  have spared : ∀ action ∈ actions, action.sparesStack := by decide
  have facts : (Host.powerOn random).nesting .empty actions = ⟨[], 1⟩ ∧ host.machine.AtReturn := by
    decide +kernel
  obtain ⟨noted, returns⟩ := facts
  have nothing : ((Host.powerOn random).nesting .empty actions).outstanding = [] := by rw [noted]
  have before : 0 < ((Host.powerOn random).nesting .empty actions).unmatched := by
    rw [noted]
    decide
  exact ⟨spared, noted, returns,
    (empty_return_fails_iff random actions spared nothing returns).1.mpr before⟩

/-- The program `RET` alone is not refused. -/
theorem first_empty_return_goes_on :
    ¬ ∀ (random : RandomSource) (program : List UInt8) (actions : List Host.Action),
      (∀ action ∈ actions, action.plays) →
      let host := (Host.powerOn random).run (.load program :: actions)
      ((Host.powerOn random).nesting .empty (.load program :: actions)).outstanding = [] →
        host.machine.AtReturn →
          (∃ pointer, host.answer = .error (.fault (.stackOutOfRange pointer))) ∧
            host.act .cycle = host := by
  intro refused
  let random : RandomSource := ⟨Vector.replicate 8 0, 0⟩
  let host := (Host.powerOn random).run [.load [0x00, 0xEE]]
  have facts : host.machine.AtReturn ∧ host.answer = .ok (.executed 0x00EE) := by decide +kernel
  obtain ⟨returns, answered⟩ := facts
  obtain ⟨⟨pointer, failed⟩, -⟩ := refused random [0x00, 0xEE] [] (by decide) rfl returns
  rw [answered] at failed
  cases failed

end Chip8

import Chip8.Proofs.Refusals
import Mathlib.Tactic.Common

/-!
# Memory as a byte store

What memory holds after any writes to it, single bytes, ranges and programs in any order and
however they overlap. A request is granted as a whole if every byte of it has an address, and else
it is refused as a whole, so each address holds the byte that the last granted request gave for it.
Reading a range comes to the same as reading its bytes one by one.
-/

namespace Chip8
namespace Memory

/-! ## Requests -/

/-- A request to write to memory. -/
inductive Request where
  | write (address : Nat) (byte : UInt8)
  | writeRange (start : Nat) (data : List UInt8)
  | loadProgram (program : List UInt8)
  deriving DecidableEq

namespace Request

/-- The address of the first byte of a request. -/
def start : Request → Nat
  | write address _ => address
  | writeRange start _ => start
  | loadProgram _ => programStart

/-- The bytes that a request gives for consecutive addresses. -/
def data : Request → List UInt8
  | write _ byte => [byte]
  | writeRange _ data => data
  | loadProgram program => program

/-- The byte that a request gives for an address. -/
def byteFor? (request : Request) (address : Nat) : Option UInt8 :=
  if request.start ≤ address then request.data[address - request.start]? else none

/-- A request has an answer: an empty one begins inside memory or right behind it. -/
def Proper (request : Request) : Prop := request.data = [] → request.start ≤ size

/-- Every byte of a request has an address. -/
def Fits (request : Request) : Prop := request.start + request.data.length ≤ size

instance (request : Request) : Decidable request.Proper :=
  inferInstanceAs (Decidable (_ → _))

instance (request : Request) : Decidable request.Fits :=
  inferInstanceAs (Decidable (_ ≤ _))

/-- Why a request that does not fit is not granted. -/
def failure : Request → Failure
  | write address _ => .fault (.addressOutOfRange address)
  | writeRange start data =>
      if data = [] then .abort else .fault (.addressOutOfRange (start + data.length - 1))
  | loadProgram program => .fault (.programTooLarge program.length programCapacity)

theorem isSome_byteFor?_iff {request : Request} {address : Nat} :
    (request.byteFor? address).isSome = true ↔
      request.start ≤ address ∧ address < request.start + request.data.length := by
  rw [byteFor?]
  split <;> simp <;> omega

theorem loadProgram_fits_iff {program : List UInt8} :
    (loadProgram program).Fits ↔ program.length ≤ programCapacity := by
  simp only [Fits, start, data, programStart, programCapacity, size]
  omega

/-- A proper request does not fit exactly if it gives a byte for an address beyond memory. -/
theorem not_fits_iff {request : Request} (proper : request.Proper) :
    ¬ request.Fits ↔ ∃ address, 0xFFF < address ∧ (request.byteFor? address).isSome = true := by
  simp only [isSome_byteFor?_iff, Fits, size]
  constructor
  · intro outside
    have nonempty : 0 < request.data.length := by
      refine List.length_pos_iff.mpr fun empty => ?_
      have start := proper empty
      rw [empty] at outside
      exact outside start
    exact ⟨request.start + request.data.length - 1, by omega, by omega, by omega⟩
  · rintro ⟨address, beyond, -, within⟩
    omega

theorem Proper.failure {request : Request} (proper : request.Proper) (outside : ¬ request.Fits) :
    ∃ cause, request.failure = .fault cause := by
  cases request with
  | writeRange start data =>
      have nonempty : data ≠ [] := by
        rintro rfl
        exact outside (proper rfl)
      exact ⟨_, if_neg nonempty⟩
  | _ => exact ⟨_, rfl⟩

end Request

/-- Grant a request to write. -/
def serve (memory : Memory) : Request → Attempt Unit × Memory
  | .write address byte => memory.write address byte
  | .writeRange start data => memory.writeRange start data
  | .loadProgram program => memory.loadProgram program

/-- A request is granted as a whole, or else not at all. -/
theorem serve_eq (memory : Memory) (request : Request) :
    memory.serve request =
      if request.Fits then (.ok (), memory.put request.start request.data)
      else (.error request.failure, memory) := by
  cases request with
  | write address byte =>
      by_cases fits : (Request.write address byte).Fits
      · have inside : address < size := fits
        rw [if_pos fits, serve, write, checkAddress_eq_ok_iff.mpr inside]
        rfl
      · have beyond : ¬ address < size := fits
        rw [if_neg fits, serve, write, checkAddress, if_neg beyond]
        rfl
  | writeRange start data =>
      by_cases fits : (Request.writeRange start data).Fits
      · rw [if_pos fits]
        exact memory.writeRange_of_le fits
      · have beyond : size < start + data.length := Nat.lt_of_not_le fits
        rw [if_neg fits, serve, writeRange_eq, checkRange_of_lt beyond, Request.failure]
        simp only [List.length_eq_zero_iff]
        split <;> rfl
  | loadProgram program =>
      rw [if_congr Request.loadProgram_fits_iff rfl rfl]
      split
      case isTrue fits => exact memory.loadProgram_of_le fits
      case isFalse outside => exact if_neg outside

/-! ## Reading -/

variable {memory : Memory} {address start length : Nat}

theorem read_eq_ok_iff {byte : UInt8} :
    memory.read address = .ok byte ↔ memory.byte? address = some byte := by
  rw [read, byte?]
  split
  case isTrue inside => rw [Vector.getElem?_eq_getElem inside, Except.ok.injEq, Option.some.injEq]
  case isFalse outside => simp [Vector.getElem?_eq_none (Nat.le_of_not_lt outside), Attempt.refuse]

theorem read_eq_error_iff {failure : Failure} :
    memory.read address = .error failure ↔
      0xFFF < address ∧ failure = .fault (.addressOutOfRange address) := by
  rw [read]
  split
  case isTrue inside =>
    simp only [reduceCtorEq, false_iff]
    omega
  case isFalse outside =>
    have beyond : 0xFFF < address := by omega
    simp [Attempt.refuse, beyond, eq_comm]

theorem exists_byte? (memory : Memory) (address : Nat) (inside : address < size) :
    ∃ byte, memory.byte? address = some byte :=
  ⟨_, Vector.getElem?_eq_getElem inside⟩

theorem readRange_eq_fault_iff {cause : Fault} :
    memory.readRange start length = .error (.fault cause) ↔
      checkRange start length = .error (.fault cause) := by
  rw [readRange_eq]
  cases checkRange start length <;> simp [Except.map]

theorem le_of_readRange {data : List UInt8} (found : memory.readRange start length = .ok data) :
    start + length ≤ size := by
  rw [readRange_eq] at found
  cases allowed : checkRange start length with
  | ok => exact checkRange_eq_ok_iff.mp allowed
  | error failure => simp [allowed, Except.map] at found

/-- A range is refused exactly if one of its bytes is. -/
theorem readRange_refused_iff :
    (∃ cause, memory.readRange start length = .error (.fault cause)) ↔
      ∃ offset < length, ∃ cause, memory.read (start + offset) = .error (.fault cause) := by
  simp only [readRange_eq_fault_iff, checkRange_eq_fault_iff, read_eq_error_iff]
  constructor
  · rintro ⟨_, nonempty, beyond, -⟩
    exact ⟨length - 1, by omega, _, by omega, rfl⟩
  · rintro ⟨offset, within, _, beyond, -⟩
    exact ⟨_, by omega, by omega, rfl⟩

/-- The bytes of a range are those that reading them one by one gives. -/
theorem readRange_eq_ok_iff {data : List UInt8} (proper : length = 0 → start ≤ size) :
    memory.readRange start length = .ok data ↔
      data.length = length ∧
        ∀ offset < length, memory.read (start + offset) = .ok (data.getD offset 0) := by
  by_cases inside : start + length ≤ size
  · have stands (offset : Nat) (within : offset < length) : memory.read (start + offset) =
        .ok ((memory.byte? (start + offset)).getD 0) := by
      obtain ⟨byte, found⟩ := memory.exists_byte? (start + offset) (by omega)
      rw [read_eq_ok_iff, found]
      rfl
    rw [memory.readRange_of_le inside, Except.ok.injEq]
    constructor
    · rintro rfl
      refine ⟨by simp, fun offset within => ?_⟩
      rw [stands offset within]
      simp [within]
    · rintro ⟨rfl, same⟩
      refine List.ext_getElem (by simp) fun offset _ within => ?_
      have byte := (stands offset within).symm.trans (same offset within)
      simpa [within] using byte
  · refine iff_of_false (mt le_of_readRange inside) ?_
    rintro ⟨-, same⟩
    have last := same (length - 1) (by omega)
    have beyond : 0xFFF < start + (length - 1) := by
      simp only [size] at inside proper
      omega
    rw [read_eq_error_iff.mpr ⟨beyond, rfl⟩] at last
    cases last

end Memory

/-! ## Requests one after the other -/

namespace Machine

variable {machine : Machine} {request : Memory.Request} {address : Nat}

/-- What comes of a request, and the machine behind it. -/
def serve (machine : Machine) (request : Memory.Request) : Attempt Unit × Machine :=
  machine.withMemory (machine.memory.serve request)

/-- The machine behind some requests. -/
def serveAll (machine : Machine) : List Memory.Request → Machine
  | [] => machine
  | request :: rest => (machine.serve request).2.serveAll rest

/-- The bytes that the granted ones among some requests give for an address, in order. -/
def given (machine : Machine) (address : Nat) : List Memory.Request → List UInt8
  | [] => []
  | request :: rest =>
      (if (machine.serve request).1 = .ok () then (request.byteFor? address).toList else []) ++
        (machine.serve request).2.given address rest

theorem serve_of_fits (machine : Machine) (fits : request.Fits) :
    machine.serve request =
      (.ok (), { machine with memory := machine.memory.put request.start request.data }) := by
  rw [serve, Memory.serve_eq, if_pos fits, withMemory]

theorem serve_of_not_fits (machine : Machine) (outside : ¬ request.Fits) :
    machine.serve request = (.error request.failure, machine) := by
  rw [serve, Memory.serve_eq, if_neg outside, withMemory]

/-- A request that is not granted changes nothing. -/
theorem serve_of_not_granted (machine : Machine) (refused : (machine.serve request).1 ≠ .ok ()) :
    (machine.serve request).2 = machine := by
  have outside : ¬ request.Fits := fun fits => refused (by rw [machine.serve_of_fits fits])
  rw [machine.serve_of_not_fits outside]

theorem granted_or_refused (machine : Machine) (proper : request.Proper) :
    (machine.serve request).1 = .ok () ∨
      ∃ cause, (machine.serve request).1 = .error (.fault cause) := by
  by_cases fits : request.Fits
  · exact .inl (by rw [machine.serve_of_fits fits])
  · obtain ⟨cause, same⟩ := proper.failure fits
    exact .inr ⟨cause, by rw [machine.serve_of_not_fits fits, same]⟩

/-- A request is refused exactly if it gives a byte for an address beyond memory. -/
theorem refused_iff (machine : Machine) (proper : request.Proper) :
    (∃ cause, (machine.serve request).1 = .error (.fault cause)) ↔
      ∃ address, 0xFFF < address ∧ (request.byteFor? address).isSome = true := by
  rw [← Memory.Request.not_fits_iff proper]
  constructor
  · rintro ⟨cause, refused⟩ fits
    rw [machine.serve_of_fits fits] at refused
    cases refused
  · intro outside
    obtain ⟨cause, same⟩ := proper.failure outside
    exact ⟨cause, by rw [machine.serve_of_not_fits outside, same]⟩

theorem refused_loadProgram_iff (machine : Machine) {program : List UInt8} {cause : Fault} :
    (machine.serve (.loadProgram program)).1 = .error (.fault cause) ↔
      0xE00 < program.length ∧ cause = .programTooLarge program.length 0xE00 := by
  have fits_iff : (Memory.Request.loadProgram program).Fits ↔ program.length ≤ 0xE00 :=
    Memory.Request.loadProgram_fits_iff
  by_cases fits : (Memory.Request.loadProgram program).Fits
  · have small : ¬ 0xE00 < program.length := Nat.not_lt.mpr (fits_iff.mp fits)
    rw [machine.serve_of_fits fits]
    simp [small]
  · rw [machine.serve_of_not_fits fits]
    have large : 0xE00 < program.length := Nat.lt_of_not_le (mt fits_iff.mpr fits)
    simp [Memory.Request.failure, Memory.programCapacity, large, eq_comm]

/-- An address holds the byte that a granted request gives for it, or else what it held before. -/
theorem byte?_serve (machine : Machine) (request : Memory.Request)
    (inside : address < Memory.size) :
    (machine.serve request).2.memory.byte? address =
      (if (machine.serve request).1 = .ok () then request.byteFor? address else none).or
        (machine.memory.byte? address) := by
  by_cases fits : request.Fits
  · rw [machine.serve_of_fits fits, if_pos rfl, Memory.byte?_put, Memory.Request.byteFor?]
    by_cases covered : request.start ≤ address ∧ address < request.start + request.data.length
    · have given : request.data[address - request.start]? = some _ :=
        List.getElem?_eq_getElem (by omega)
      rw [if_pos ⟨covered.1, covered.2, inside⟩, if_pos covered.1, given, Option.some_or]
    · rw [if_neg fun within => covered ⟨within.1, within.2.1⟩]
      split
      · rw [List.getElem?_eq_none (by omega), Option.none_or]
      · rw [Option.none_or]
  · rw [machine.serve_of_not_fits fits, if_neg nofun, Option.none_or]

/-- After any requests an address holds the byte that the last granted one gave for it. -/
theorem byte?_serveAll (machine : Machine) (requests : List Memory.Request)
    (inside : address < Memory.size) :
    (machine.serveAll requests).memory.byte? address =
      (machine.given address requests).getLast?.or (machine.memory.byte? address) := by
  induction requests generalizing machine with
  | nil => rfl
  | cons request rest induction =>
      rw [serveAll, induction, byte?_serve machine request inside, given, List.getLast?_append,
        Option.or_assoc]
      split
      · cases request.byteFor? address <;> rfl
      · rfl

theorem serveAll_eq (machine : Machine) (requests : List Memory.Request) :
    machine.serveAll requests = { machine with memory := (machine.serveAll requests).memory } := by
  induction requests generalizing machine with
  | nil => rfl
  | cons request rest induction =>
      rw [serveAll, induction]
      by_cases fits : request.Fits
      · rw [machine.serve_of_fits fits]
      · rw [machine.serve_of_not_fits fits]

end Machine

/-- Memory is a byte store. Of any requests to write, each is granted or refused as a whole: refused
exactly if it gives a byte for an address beyond memory, which for a program means that it is too
large, and then nothing changes. Afterwards an address holds the byte that the last granted request
gave for it, or what it held at first. Reading a range whose end is a 64-bit number gives the bytes
that reading them one by one does, and is refused exactly if one of these is. The call stack and the
picture stay. -/
theorem memory_is_byte_store (machine : Machine) (requests : List Memory.Request)
    (proper : ∀ request ∈ requests, request.Proper) :
    let after := machine.serveAll requests
    (∀ before request later, requests = before ++ request :: later →
      let here := machine.serveAll before
      let result := here.serve request
      (result.1 = .ok () ∨ ∃ cause, result.1 = .error (.fault cause)) ∧
      ((∃ cause, result.1 = .error (.fault cause)) ↔
        ∃ address, 0xFFF < address ∧ (request.byteFor? address).isSome = true) ∧
      (∀ program, request = .loadProgram program → ∀ cause,
        result.1 = .error (.fault cause) ↔
          0xE00 < program.length ∧ cause = .programTooLarge program.length 0xE00) ∧
      (result.1 ≠ .ok () → result.2 = here)) ∧
    (∀ address ≤ 0xFFF, ∃ initial, machine.memory.read address = .ok initial ∧
      after.memory.read address =
        .ok ((machine.given address requests).getLast?.getD initial)) ∧
    (∀ start length, start + length < UInt64.size → (length = 0 → start ≤ 0x1000) →
      (∀ data, after.memory.readRange start length = .ok data ↔
        data.length = length ∧
          ∀ offset < length, after.memory.read (start + offset) = .ok (data.getD offset 0)) ∧
      ((∃ cause, after.memory.readRange start length = .error (.fault cause)) ↔
        ∃ offset < length, ∃ cause,
          after.memory.read (start + offset) = .error (.fault cause))) ∧
    after.stack = machine.stack ∧ after.picture = machine.picture := by
  intro after
  refine ⟨?_, ?_, ?_, ?_, ?_⟩
  · intro before request later split here result
    have mine : request.Proper := proper request (by simp [split])
    refine ⟨here.granted_or_refused mine, here.refused_iff mine, ?_, here.serve_of_not_granted⟩
    rintro program rfl cause
    exact here.refused_loadProgram_iff
  · intro address last
    have inside : address < Memory.size := Nat.lt_succ_of_le last
    obtain ⟨initial, held⟩ := machine.memory.exists_byte? address inside
    refine ⟨initial, Memory.read_eq_ok_iff.mpr held, Memory.read_eq_ok_iff.mpr ?_⟩
    rw [machine.byte?_serveAll requests inside, held]
    cases (machine.given address requests).getLast? <;> rfl
  · intro start length _ proper
    exact ⟨fun data => Memory.readRange_eq_ok_iff proper, Memory.readRange_refused_iff⟩
  · change (machine.serveAll requests).stack = _
    rw [machine.serveAll_eq]
  · change (machine.serveAll requests).picture = _
    rw [machine.serveAll_eq]

/-- A range that reaches too far and a byte beyond memory are refused. Of the others, the range that
overlaps the program is the last to give a byte for the first address of both. -/
theorem overlapping_writes_leave_last :
    let machine : Machine := .powerOn ⟨Vector.replicate 8 0, 0⟩
    let requests : List Memory.Request :=
      [.writeRange 0xFFE [1, 2, 3], .write 0xFFF 0xAB, .loadProgram [0x12, 0x34],
        .writeRange 0x1FF [9, 8], .write 0x1000 7, .writeRange 0x1000 []]
    let after := machine.serveAll requests
    (∀ request ∈ requests, request.Proper) ∧
      machine.given 0x200 requests = [0x12, 8] ∧ machine.given 0xFFE requests = [] ∧
      after.memory.read 0x200 = .ok 8 ∧ after.memory.read 0x201 = .ok 0x34 ∧
      after.memory.read 0xFFE = .ok 0 ∧ after.memory.read 0xFFF = .ok 0xAB ∧
      after.memory.readRange 0x200 2 = .ok [8, 0x34] ∧ after.picture = machine.picture := by
  intro machine requests after
  have facts : (∀ request ∈ requests, request.Proper) ∧
      machine.given 0x200 requests = [0x12, 8] ∧ machine.given 0x201 requests = [0x34] ∧
      machine.given 0xFFE requests = [] ∧ machine.given 0xFFF requests = [0xAB] ∧
      machine.memory.read 0xFFE = .ok 0 := by decide +kernel
  obtain ⟨proper, first, second, nothing, last, zero⟩ := facts
  obtain ⟨-, holds, ranges, -, picture⟩ := memory_is_byte_store machine requests proper
  have held {address : Nat} {byte : UInt8} (inside : address ≤ 0xFFF)
      (given : (machine.given address requests).getLast? = some byte) :
      after.memory.read address = .ok byte := by
    obtain ⟨initial, -, reads⟩ := holds address inside
    rw [given] at reads
    exact reads
  have low : after.memory.read 0x200 = .ok 8 := held (by decide) (by rw [first]; rfl)
  have high : after.memory.read 0x201 = .ok 0x34 := held (by decide) (by rw [second]; rfl)
  have top : after.memory.read 0xFFF = .ok 0xAB := held (by decide) (by rw [last]; rfl)
  refine ⟨proper, first, nothing, low, high, ?_, top, ?_, picture⟩
  · obtain ⟨initial, stood, reads⟩ := holds 0xFFE (by decide)
    cases zero.symm.trans stood
    rw [nothing] at reads
    exact reads
  · refine ((ranges 0x200 2 (by decide) nofun).1 _).mpr ⟨rfl, fun offset within => ?_⟩
    obtain rfl | rfl : offset = 0 ∨ offset = 1 := by omega
    · exact low
    · exact high

end Chip8

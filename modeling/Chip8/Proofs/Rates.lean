import Chip8.Proofs.Cadence
import Mathlib.Algebra.Order.Field.Rat

/-!
# Rates

How well a timing keeps the frequencies that it names. The budget of a cycle and the cycles of a
tick are quotients of whole numbers that drop the remainder, and a frequency of zero counts as one.
A host forms them in words and keeps budgets as durations, where a division by zero and a product
that leaves its word have no result. With whatever frequencies, none of this happens, and the words
hold the numbers of the timing.
-/

namespace Chip8

/-! ## Durations -/

/-- A stretch of time as a host keeps it: whole seconds in one word and the rest in another. -/
structure Duration where
  seconds : UInt64
  nanos : UInt32
  nanos_lt : nanos.toNat < Timing.second

namespace Duration

/-- The number of nanoseconds. -/
def length (duration : Duration) : Nat :=
  Timing.second * duration.seconds.toNat + duration.nanos.toNat

theorem toNat_rest (count : UInt64) :
    (count % 1000000000).toUInt32.toNat = count.toNat % Timing.second := by
  have small : count.toNat % Timing.second < Timing.second := Nat.mod_lt _ (by decide)
  rw [UInt64.toNat_toUInt32, UInt64.toNat_mod]
  exact Nat.mod_eq_of_lt (small.trans (by decide))

/-- A product of two words fits into one of twice the width. -/
theorem toNat_widened_mul (left right : UInt32) :
    (left.toUInt64 * right.toUInt64).toNat = left.toNat * right.toNat := by
  rw [UInt64.toNat_mul, UInt32.toNat_toUInt64, UInt32.toNat_toUInt64]
  have below := Nat.mul_lt_mul'' left.toNat_lt right.toNat_lt
  exact Nat.mod_eq_of_lt (below.trans_le (by decide))

/-- The duration of some nanoseconds. -/
def ofNanos (count : UInt64) : Duration where
  seconds := count / 1000000000
  nanos := (count % 1000000000).toUInt32
  nanos_lt := by
    rw [toNat_rest]
    exact Nat.mod_lt _ (by decide)

/-- A duration so many times over, unless there are more seconds than a word can hold. -/
def times? (duration : Duration) (factor : UInt32) : Option Duration :=
  let rest := ofNanos (duration.nanos.toUInt64 * factor.toUInt64)
  let seconds := duration.seconds.toNat * factor.toNat + rest.seconds.toNat
  if seconds < UInt64.size then some { rest with seconds := .ofNat seconds } else none

@[simp]
theorem length_ofNanos (count : UInt64) : (ofNanos count).length = count.toNat := by
  rw [length, ofNanos, toNat_rest, UInt64.toNat_div]
  exact Nat.div_add_mod count.toNat Timing.second

/-- Repeating a duration multiplies its length, as far as the product can be kept. -/
theorem map_length_times? (duration : Duration) (factor : UInt32) :
    (duration.times? factor).map length =
      if duration.length * factor.toNat < Timing.second * UInt64.size then
        some (duration.length * factor.toNat)
      else none := by
  have whole := length_ofNanos (duration.nanos.toUInt64 * factor.toUInt64)
  rw [toNat_widened_mul] at whole
  rw [times?]
  generalize ofNanos (duration.nanos.toUInt64 * factor.toUInt64) = rest at whole ⊢
  have total : duration.length * factor.toNat =
      Timing.second * (duration.seconds.toNat * factor.toNat + rest.seconds.toNat) +
        rest.nanos.toNat := by
    rw [length, Nat.add_mul, ← whole, length, Nat.mul_add, Nat.mul_assoc, Nat.add_assoc]
  rw [total]
  generalize duration.seconds.toNat * factor.toNat + rest.seconds.toNat = seconds
  -- What is left over is less than a second, so that the seconds alone decide.
  have fits_iff : Timing.second * seconds + rest.nanos.toNat < Timing.second * UInt64.size ↔
      seconds < UInt64.size := by
    have below := rest.nanos_lt
    simp only [Timing.second, UInt64.size] at below ⊢
    omega
  simp only [fits_iff]
  split
  · rename_i fits
    rw [Option.map_some, length, UInt64.toNat_ofNat_of_lt' fits]
  · rfl

end Duration

namespace Timing

/-! ## Budgets -/

theorem period_mul_le (timing : Timing) : timing.period * max timing.instructionHz 1 ≤ second :=
  Nat.div_mul_le_self _ _

theorem lt_period_succ_mul (timing : Timing) :
    second < (timing.period + 1) * max timing.instructionHz 1 := by
  rw [Nat.mul_comm]
  exact Nat.lt_mul_div_succ second (by omega)

/-- The budgets of the cycles of a tick are no more than a second in sum. -/
theorem cyclesPerTick_mul_period_le (timing : Timing) :
    timing.cyclesPerTick * timing.period ≤ second :=
  calc
    timing.cyclesPerTick * timing.period ≤ max timing.instructionHz 1 * timing.period :=
      Nat.mul_le_mul_right _ timing.cyclesPerTick_le
    _ = timing.period * max timing.instructionHz 1 := Nat.mul_comm _ _
    _ ≤ second := timing.period_mul_le

/-! ## Ticks -/

/-- The cycles of a tick, from the frequencies as they count. -/
theorem cyclesPerTick_eq (timing : Timing) :
    timing.cyclesPerTick = max (max timing.instructionHz 1 / max timing.timerHz 1) 1 := by
  rcases Nat.eq_zero_or_pos timing.instructionHz with zero | positive
  · have none_fit : max 0 1 / max timing.timerHz 1 ≤ 1 := Nat.div_le_self _ _
    rw [cyclesPerTick, zero, Nat.zero_div]
    omega
  · rw [cyclesPerTick, Nat.max_eq_left positive]

theorem lt_cyclesPerTick_succ_mul (timing : Timing) :
    max timing.instructionHz 1 < (timing.cyclesPerTick + 1) * max timing.timerHz 1 := by
  have quotient := Nat.lt_mul_div_succ (max timing.instructionHz 1)
    (show 0 < max timing.timerHz 1 by omega)
  rw [Nat.mul_comm] at quotient
  refine quotient.trans_le (Nat.mul_le_mul_right _ ?_)
  rw [cyclesPerTick_eq]
  omega

theorem cyclesPerTick_mul_le (timing : Timing)
    (fast : max timing.timerHz 1 ≤ max timing.instructionHz 1) :
    timing.cyclesPerTick * max timing.timerHz 1 ≤ max timing.instructionHz 1 := by
  have fits : 1 ≤ max timing.instructionHz 1 / max timing.timerHz 1 :=
    Nat.div_pos fast (by omega)
  rw [cyclesPerTick_eq, Nat.max_eq_left fits]
  exact Nat.div_mul_le_self _ _

theorem cyclesPerTick_eq_one (timing : Timing)
    (slow : max timing.instructionHz 1 < max timing.timerHz 1) : timing.cyclesPerTick = 1 := by
  rw [cyclesPerTick_eq, Nat.div_eq_of_lt slow]
  rfl

/-- With cycles enough, ticks come as often as is asked for, and less than twice as often. -/
theorem tickRate_bounds (timing : Timing)
    (fast : max timing.timerHz 1 ≤ max timing.instructionHz 1) :
    ((max timing.timerHz 1 : Nat) : ℚ) ≤ (max timing.instructionHz 1 : Nat) / timing.cyclesPerTick ∧
      ((max timing.instructionHz 1 : Nat) : ℚ) / timing.cyclesPerTick <
        2 * (max timing.timerHz 1 : Nat) := by
  have positive : (0 : ℚ) < timing.cyclesPerTick := Nat.cast_pos.mpr timing.cyclesPerTick_pos
  have enough := timing.cyclesPerTick_mul_le fast
  have doubled : max timing.instructionHz 1 < 2 * max timing.timerHz 1 * timing.cyclesPerTick := by
    refine timing.lt_cyclesPerTick_succ_mul.trans_le ?_
    rw [Nat.mul_right_comm]
    exact Nat.mul_le_mul_right _ (by have := timing.cyclesPerTick_pos; omega)
  rw [le_div_iff₀ positive, div_lt_iff₀ positive]
  rw [Nat.mul_comm] at enough
  exact ⟨by exact_mod_cast enough, by exact_mod_cast doubled⟩

/-! ## Words -/

/-- A timing whose frequencies are words. -/
structure Words where
  instructionHz : UInt32
  timerHz : UInt32
  runWhileWaiting : Bool

namespace Words

/-- The timing itself. -/
def timing (words : Words) : Timing :=
  ⟨words.instructionHz.toNat, words.timerHz.toNat, words.runWhileWaiting⟩

/-- The budget of one cycle, unless that takes a division by zero. -/
def period? (words : Words) : Option Duration :=
  let hz := max words.instructionHz 1
  if hz = 0 then none else some (.ofNanos (1000000000 / hz.toUInt64))

/-- The number of cycles from one tick to the next, unless that takes a division by zero. -/
def cyclesPerTick? (words : Words) : Option UInt32 :=
  let hz := max words.timerHz 1
  if hz = 0 then none else some (max (words.instructionHz / hz) 1)

theorem max_one_ne_zero (hz : UInt32) : max hz 1 ≠ 0 := by
  intro zero
  have same := hz.toNat_max 1
  rw [zero] at same
  exact absurd (same.trans_ge (Nat.le_max_right _ _)) (by decide)

theorem exists_period? (words : Words) :
    ∃ budget, words.period? = some budget ∧ budget.length = words.timing.period := by
  refine ⟨_, if_neg (max_one_ne_zero _), ?_⟩
  rw [Duration.length_ofNanos, UInt64.toNat_div, UInt32.toNat_toUInt64, UInt32.toNat_max]
  rfl

theorem exists_cyclesPerTick? (words : Words) :
    ∃ cycles, words.cyclesPerTick? = some cycles ∧ cycles.toNat = words.timing.cyclesPerTick := by
  refine ⟨_, if_neg (max_one_ne_zero _), ?_⟩
  rw [UInt32.toNat_max, UInt32.toNat_div, UInt32.toNat_max]
  rfl

end Words
end Timing

/-- However late a host was, after pacing it lags behind its deadlines by a tick at most. -/
theorem Scheduler.exists_deadline_pace (scheduler : Scheduler) (now : Nat) :
    ∃ deadline, (scheduler.pace now).2.deadline = some deadline ∧
      now + scheduler.timing.period ≤
        deadline + scheduler.timing.period * scheduler.timing.cyclesPerTick := by
  refine ⟨_, rfl, ?_⟩
  split <;> omega

/-- What a timing comes to, whatever words its frequencies are; a frequency of zero counts as one.
No division is by zero, and the product by which a host paces can be kept: in words all three have
results, and these are the numbers of the timing. The budget of a cycle is the longest that fits so
many times into a second. A tick takes at least one cycle, and the budgets of its cycles come to a
second at most, so that a host which has paced lags behind its deadlines by no more than that. If
there are as many cycles as ticks or more, a tick takes the most cycles with which ticks are no
rarer than asked for, and then they are less than twice as frequent. If there are fewer, every cycle
makes a tick due. -/
theorem timing_keeps_rates (words : Timing.Words) :
    let timing := words.timing
    let hz := max words.instructionHz.toNat 1
    let tickHz := max words.timerHz.toNat 1
    let cycles := timing.cyclesPerTick
    let period := timing.period
    (∃ budget count span,
      words.period? = some budget ∧ budget.length = period ∧
        words.cyclesPerTick? = some count ∧ count.toNat = cycles ∧
        budget.times? count = some span ∧ span.length = period * cycles) ∧
    1 ≤ cycles ∧
    period * hz ≤ 1000000000 ∧ 1000000000 < (period + 1) * hz ∧
    cycles * period ≤ 1000000000 ∧
    (∀ (scheduler : Scheduler) (now : Nat), scheduler.timing = timing →
      ∃ deadline, (scheduler.pace now).2.deadline = some deadline ∧
        now + period ≤ deadline + 1000000000) ∧
    (tickHz ≤ hz →
      cycles * tickHz ≤ hz ∧ hz < (cycles + 1) * tickHz ∧
        (tickHz : ℚ) ≤ hz / cycles ∧ (hz : ℚ) / cycles < 2 * tickHz) ∧
    (hz < tickHz → cycles = 1) := by
  intro timing hz tickHz cycles period
  have second_bounds : cycles * period ≤ 1000000000 := timing.cyclesPerTick_mul_period_le
  refine ⟨?_, timing.cyclesPerTick_pos, timing.period_mul_le, timing.lt_period_succ_mul,
    second_bounds, ?_, fun fast => ⟨timing.cyclesPerTick_mul_le fast,
      timing.lt_cyclesPerTick_succ_mul, timing.tickRate_bounds fast⟩, timing.cyclesPerTick_eq_one⟩
  · obtain ⟨budget, keepsBudget, budgetLength⟩ := words.exists_period?
    obtain ⟨count, keepsCount, countNumber⟩ := words.exists_cyclesPerTick?
    have product := budget.map_length_times? count
    have fits : period * cycles < Timing.second * UInt64.size := by
      rw [Nat.mul_comm]
      exact second_bounds.trans_lt (by decide)
    rw [budgetLength, countNumber, if_pos fits, Option.map_eq_some_iff] at product
    obtain ⟨span, keepsSpan, spanLength⟩ := product
    exact ⟨budget, count, span, keepsBudget, budgetLength, keepsCount, countNumber, keepsSpan,
      spanLength⟩
  · intro scheduler now same
    obtain ⟨deadline, sets, behind⟩ := scheduler.exists_deadline_pace now
    rw [same, Nat.mul_comm] at behind
    exact ⟨deadline, sets, behind.trans (Nat.add_le_add_left second_bounds deadline)⟩

/-- At the highest frequency a cycle has no budget and a tick takes millions of cycles, yet these
come no less than sixty times a second; and a host of five hundred cycles that is two seconds late
starts over. Thirty cycles a second are too few for sixty ticks, so that each ends with one. -/
theorem highest_rate_ticks_often_enough :
    let highest : Timing.Words := ⟨4294967295, 60, true⟩
    let usual : Timing.Words := ⟨500, 60, true⟩
    let lowest : Timing.Words := ⟨30, 60, true⟩
    let late : Scheduler := ⟨usual.timing, 3, false, some 5⟩
    (highest.timing.cyclesPerTick = 71582788 ∧ highest.timing.period = 0 ∧
      71582788 * 60 ≤ 4294967295 ∧ 4294967295 < (71582788 + 1) * 60 ∧
      ((60 : Nat) : ℚ) ≤ (4294967295 : Nat) / (71582788 : Nat)) ∧
    (∃ deadline, (late.pace 2000000005).2.deadline = some deadline ∧
      2000000005 + 2000000 ≤ deadline + 1000000000) ∧
    lowest.timing.cyclesPerTick = 1 := by
  intro highest usual lowest late
  obtain ⟨-, -, -, -, -, -, fast, -⟩ := timing_keeps_rates highest
  obtain ⟨-, -, -, -, -, paced, -, -⟩ := timing_keeps_rates usual
  obtain ⟨-, -, -, -, -, -, -, slow⟩ := timing_keeps_rates lowest
  have cycles : highest.timing.cyclesPerTick = 71582788 := by decide
  obtain ⟨enough, most, rate, -⟩ := fast (by decide)
  rw [cycles] at enough most rate
  have behind := paced late 2000000005 rfl
  rw [show usual.timing.period = 2000000 by decide] at behind
  exact ⟨⟨cycles, by decide, enough, most, rate⟩, behind, slow (by decide)⟩

end Chip8

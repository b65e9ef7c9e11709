import Jitter.Proofs.Conversion
import Jitter.Proofs.SteppedReadings

/-! How many readings of a stepped clock a wait takes, and where it leaves the clock. -/

namespace Jitter

theorem Unsigned.wrap_word64 (n : Nat) : wrap word64 n = n % word64 := by
  simp only [wrap, word64]
  split
  · omega
  · rfl

namespace SteppedClock

def readTimes (n : Nat) (d : SteppedClock) : SteppedClock :=
  { d with now := d.now + n * d.step, reads := Unsigned.wrap word64 (d.reads + n) }

def ticksAt (n : Nat) (d : SteppedClock) : Nat :=
  (d.now + n * d.step).toNat * d.frequency / nanosPerSecond

variable {d : SteppedClock} {n k last : Nat}

theorem readTimes_zero (words : d.reads < word64) : d.readTimes 0 = d := by
  simp [readTimes, Unsigned.wrap, words]

theorem reading_le_reading (moves : 0 < d.step) (fewer : n ≤ k) :
    d.now + n * d.step ≤ d.now + k * d.step := by
  have steps : (n : Int) * d.step ≤ k * d.step :=
    mul_le_mul_of_nonneg_right (Int.ofNat_le.mpr fewer) moves.le
  omega

theorem le_reading (start : 0 ≤ d.now) (moves : 0 < d.step) (n : Nat) :
    (n : Int) ≤ d.now + n * d.step := by
  have steps : (n : Int) * 1 ≤ n * d.step := mul_le_mul_of_nonneg_left moves (Int.natCast_nonneg n)
  omega

theorem ticksAt_le_ticksAt (moves : 0 < d.step) (fewer : n ≤ k) : d.ticksAt n ≤ d.ticksAt k :=
  Nat.div_le_div_right (Nat.mul_le_mul_right _ (Int.toNat_le_toNat (reading_le_reading moves fewer)))

theorem le_ticksAt (start : 0 ≤ d.now) (moves : 0 < d.step) (ticks : 0 < d.frequency)
    (count : Nat) : count ≤ d.ticksAt (count * nanosPerSecond) := by
  rw [ticksAt, Nat.le_div_iff_mul_le (by decide)]
  have time := le_reading start moves (count * nanosPerSecond)
  calc count * nanosPerSecond ≤ (d.now + (count * nanosPerSecond : Nat) * d.step).toNat := by omega
    _ ≤ (d.now + (count * nanosPerSecond : Nat) * d.step).toNat * d.frequency :=
        Nat.le_mul_of_pos_right _ ticks

theorem tick_readTimes (start : 0 ≤ d.now) (moves : 0 < d.step)
    (fits : d.now + (n + 1 : Nat) * d.step ≤ Signed.greatest) :
    tick (d.readTimes n) = .ok (d.now + (n + 1 : Nat) * d.step) (d.readTimes (n + 1)) := by
  have next : d.now + n * d.step + d.step = d.now + (n + 1 : Nat) * d.step := by
    push_cast
    ring
  have both : Signed.Fits (d.now + (n + 1 : Nat) * d.step) := by
    have least := le_reading start moves (n + 1)
    simp only [Signed.Fits, Signed.least] at *
    omega
  have counted : Unsigned.wrap word64 (Unsigned.wrap word64 (d.reads + n) + 1) =
      Unsigned.wrap word64 (d.reads + (n + 1)) := by
    simp only [Unsigned.wrap_word64, word64]
    omega
  simp only [tick, Signed.add, advance, readTimes, next, if_pos both, Signed.wrap, counted]

theorem readMonotonic_foretold (start : 0 ≤ d.now) (moves : 0 < d.step)
    (fits : d.now + last * d.step ≤ Signed.greatest) :
    Foretold Clock.readMonotonic (fun n w => w = d.readTimes n) (fun n => d.now + n * d.step) last := by
  rintro n below _ rfl
  have before := reading_le_reading moves (Nat.succ_le_of_lt below)
  have ticked := tick_readTimes start moves (Int.le_trans before fits)
  exact .of_ok (Action.ofFaulty_eq_ok.mpr ticked) ⟨rfl, rfl⟩

theorem readCycles_foretold (start : 0 ≤ d.now) (moves : 0 < d.step)
    (fits : d.now + last * d.step ≤ Signed.greatest) (word : d.ticksAt last < word64) :
    Foretold Clock.readCycles (fun n w => w = d.readTimes n) (fun n => d.ticksAt n) last := by
  rintro n below _ rfl
  have before := reading_le_reading moves (Nat.succ_le_of_lt below)
  have ticked := tick_readTimes start moves (Int.le_trans before fits)
  have few : d.ticksAt (n + 1) < word64 :=
    Nat.lt_of_le_of_lt (ticksAt_le_ticksAt moves (Nat.succ_le_of_lt below)) word
  have scaled : (d.now + (n + 1 : Nat) * d.step).toNat * d.frequency < word128 := by
    rw [ticksAt, Nat.div_lt_iff_lt_mul (by decide)] at few
    exact Nat.lt_trans few (by decide)
  have counted : cyclesAt d.frequency (d.now + (n + 1 : Nat) * d.step) = .ok (d.ticksAt (n + 1)) := by
    refine except_bind_eq_ok.mpr ⟨_, Unsigned.mul_of_lt scaled, ?_⟩
    rw [← ticksAt, Nat.mod_eq_of_lt few]
    rfl
  have read : (Clock.cycles : EStateM Fault SteppedClock Nat) (d.readTimes n) =
      .ok (d.ticksAt (n + 1)) (d.readTimes (n + 1)) := by
    refine (bind_of_ok ticked).trans ?_
    rw [run_get_bind]
    simp only [SteppedClock.counted, readTimes, counted]
    rfl
  exact .of_ok (Action.ofFaulty_eq_ok.mpr read) ⟨rfl, rfl⟩

end SteppedClock

namespace Spin

open SteppedClock

/-- The readings of a wait on a clock of this step: one to begin with, and as many as it takes to get
past the time that is left once two readings are paid for. -/
def readings (readCost step ns : Int) : Nat := 1 + (ns - 2 * readCost).toNat ⌈/⌉ step.toNat

variable {d : SteppedClock} {c : Calibration} {ns : Int}

theorem compensated_of_fits {readCost : Int} (some : 0 < ns) (fits : ns ≤ Signed.greatest)
    (left : (ns - 2 * readCost).toNat ≤ Signed.greatest) :
    compensated readCost ns = (ns - 2 * readCost).toNat := by
  simp only [compensated, Signed.saturate, Signed.least, Signed.greatest] at *
  omega

theorem poll_readings (start : 0 ≤ d.now) (moves : 0 < d.step) {left : Nat}
    (before : d.now + (1 + left ⌈/⌉ d.step.toNat : Nat) * d.step ≤ Signed.greatest) :
    Completes
      (unless d.now + d.step + left ≤ d.now + d.step do
        Clock.readUntil Clock.readMonotonic (d.now + d.step + left ≤ ·) Clock.patience)
      (d.readTimes 1) fun _ w => w = d.readTimes (1 + left ⌈/⌉ d.step.toNat) := by
  have foretold := readMonotonic_foretold start moves before
  obtain ⟨step, stepped⟩ := Int.eq_ofNat_of_zero_le moves.le
  have positive : 0 < step := by omega
  obtain ⟨more, counted⟩ : ∃ more, left ⌈/⌉ d.step.toNat = more := ⟨_, rfl⟩
  rw [counted] at before foretold ⊢
  rw [stepped, Int.toNat_natCast] at counted
  have reading : ∀ n : Nat, d.now + (1 + n : Nat) * d.step = d.now + d.step + (n * step : Nat) := by
    intro n
    rw [stepped]
    push_cast
    ring
  by_cases none : left = 0
  · have here : more = 0 := by
      rw [← counted, none]
      simp
    rw [if_pos (by omega), here]
    exact .pure rfl
  · have enough : left ≤ more * step := counted ▸ le_ceilDiv_mul left positive
    have several : 0 < more := by
      apply Nat.pos_of_ne_zero
      rintro rfl
      omega
    rw [if_neg (by omega)]
    refine foretold.readUntil rfl ?_ ?_ several ?_ (Nat.le_refl _)
    · intro i _ fewer
      have short : i * step < left := lt_of_lt_ceilDiv positive (counted ▸ fewer)
      rw [reading, decide_eq_false_iff_not]
      omega
    · rw [reading, decide_eq_true_eq]
      omega
    · have steps := le_reading start moves (1 + more)
      simp only [Clock.patience, Signed.greatest] at *
      omega

theorem onMonotonicClock_readings (start : 0 ≤ d.now) (moves : 0 < d.step) (words : d.reads < word64)
    (some : 0 < ns) (fits : ns ≤ Signed.greatest) (measured : c.readCost ≠ unmeasuredCost)
    (before : d.now + readings c.readCost d.step ns * d.step ≤ Signed.greatest) :
    Completes (onMonotonicClock c ns) d fun _ w => w = d.readTimes (readings c.readCost d.step ns) := by
  have allowed : c.requireReadCost = .ok () := if_neg measured
  have foretold := readMonotonic_foretold start moves before
  have far : d.now + d.step + (ns - 2 * c.readCost).toNat ≤ Signed.greatest := by
    have enough : (ns - 2 * c.readCost).toNat ≤
        (ns - 2 * c.readCost).toNat ⌈/⌉ d.step.toNat * d.step.toNat := le_ceilDiv_mul _ (by omega)
    have steps : ((ns - 2 * c.readCost).toNat : Int) ≤
        ((ns - 2 * c.readCost).toNat ⌈/⌉ d.step.toNat : Nat) * d.step := by
      have step : (d.step.toNat : Int) = d.step := Int.toNat_of_nonneg moves.le
      rw [← step]
      exact_mod_cast enough
    simp only [readings, Nat.cast_add, Nat.cast_one, Int.add_mul, Int.one_mul] at before
    omega
  have left : compensated c.readCost ns = (ns - 2 * c.readCost).toNat :=
    compensated_of_fits some fits (by omega)
  have stop : Signed.saturate (d.now + d.step + (ns - 2 * c.readCost).toNat) =
      d.now + d.step + (ns - 2 * c.readCost).toNat := by
    apply Signed.saturate_of_fits
    simp only [Signed.Fits, Signed.least]
    omega
  apply Completes.refusal_bind allowed
  apply (foretold 0 (Nat.lt_add_right _ Nat.one_pos) d (readTimes_zero words).symm).bind
  rintro now w ⟨shown, rfl⟩
  obtain rfl : now = d.now + d.step := by simpa using shown
  rw [left, stop]
  exact poll_readings start moves before

theorem countUp_readings (start : 0 ≤ d.now) (moves : 0 < d.step) (words : d.reads < word64)
    (known : c.hasFrequency = true) {n : Nat}
    (least : IsLeast {n | 2 ≤ n ∧ d.ticksAt 1 + ns.toNat * c.hz / nanosPerSecond ≤ d.ticksAt n} n)
    (fits : d.now + n * d.step ≤ Signed.greatest) (word : d.ticksAt n < word64) :
    Completes (countUp c ns) d fun _ w => w = d.readTimes n := by
  obtain ⟨⟨twice, reached⟩, soonest⟩ := least
  have foretold := readCycles_foretold start moves fits word
  obtain ⟨ahead, waited⟩ : ∃ ahead, ns.toNat * c.hz / nanosPerSecond = ahead := ⟨_, rfl⟩
  rw [waited] at reached soonest
  have converted : c.nanosToCycles ns = .ok ahead := by
    refine Calibration.nanosToCycles_eq_ok.mpr ⟨known, ?_, ?_⟩
    · have few : ns.toNat * c.hz < word64 * nanosPerSecond := by
        rw [← Nat.div_lt_iff_lt_mul (by decide), waited]
        omega
      exact Nat.lt_trans few (by decide)
    · simp only [waited, word64] at *
      omega
  obtain ⟨more, rfl⟩ : ∃ more, n = 1 + more := ⟨n - 1, by omega⟩
  apply Completes.except_bind converted
  apply (foretold 0 (by omega) d (readTimes_zero words).symm).bind
  rintro entry w ⟨rfl, rfl⟩
  have stop : Unsigned.saturate word64 (d.ticksAt 1 + ahead) = d.ticksAt 1 + ahead := by
    simp only [Unsigned.saturate, word64] at *
    omega
  rw [Nat.zero_add, stop]
  refine foretold.readUntil rfl ?_ ?_ (by omega) ?_ (Nat.le_refl _)
  · intro i some fewer
    rw [decide_eq_false_iff_not]
    intro arrived
    -- The reading that begins the wait is not among those that can end it.
    have sooner := soonest ⟨by omega, arrived⟩
    omega
  · exact decide_eq_true reached
  · have steps := le_reading start moves (1 + more)
    simp only [Clock.patience, Signed.greatest] at *
    omega

theorem exists_least_reading (start : 0 ≤ d.now) (moves : 0 < d.step) (ticks : 0 < d.frequency)
    (count : Nat) : ∃ n, IsLeast {n | 2 ≤ n ∧ count ≤ d.ticksAt n} n := by
  classical
  have some : ∃ n, 2 ≤ n ∧ count ≤ d.ticksAt n :=
    ⟨2 + count * nanosPerSecond, Nat.le_add_right _ _,
      Nat.le_trans (le_ticksAt start moves ticks count)
        (ticksAt_le_ticksAt moves (Nat.le_add_left _ _))⟩
  exact ⟨Nat.find some, Nat.find_spec some, fun n member => Nat.find_min' some member⟩

/-- A wait for no time does not read the clock. Any other on a clock that moves comes to an end, unless
time or ticks run out of their words before: on the clock with the reading that is past the time left,
which may be the first of all; on the counter with the first reading past its target, but for the one
from which the target is counted. -/
theorem wait_reads_exactly (c : Calibration) (d : SteppedClock) :
    (∀ timebase ns, ns ≤ 0 → wait c timebase ns d = .ok () d) ∧
    (0 ≤ d.now → 0 < d.step → d.reads < word64 → ∀ ns, 0 < ns →
      (ns ≤ Signed.greatest → c.readCost ≠ unmeasuredCost →
        d.now + readings c.readCost d.step ns * d.step ≤ Signed.greatest →
          wait c .monotonicClock ns d = .ok () (d.readTimes (readings c.readCost d.step ns))) ∧
      (d.counter = true → 0 < d.frequency → c.hasFrequency = true →
        ∃ n, IsLeast
            {n | 2 ≤ n ∧ d.ticksAt 1 + ns.toNat * c.hz / nanosPerSecond ≤ d.ticksAt n} n ∧
          (d.now + n * d.step ≤ Signed.greatest → d.ticksAt n < word64 →
            wait c .cycleCounter ns d = .ok () (d.readTimes n)))) := by
  refine ⟨fun timebase ns none => wait_of_nonpos none d,
    fun start moves words ns some => ⟨?clock, ?counter⟩⟩
  case clock =>
    intro fits measured before
    obtain ⟨_, w, waited, rfl⟩ :=
      onMonotonicClock_readings start moves words some fits measured before
    rw [wait_monotonicClock some]
    exact waited
  case counter =>
    intro there ticks known
    obtain ⟨n, least⟩ := exists_least_reading start moves ticks
      (d.ticksAt 1 + ns.toNat * c.hz / nanosPerSecond)
    refine ⟨n, least, fun fits word => ?_⟩
    obtain ⟨_, w, waited, rfl⟩ := countUp_readings start moves words known least fits word
    rw [wait_cycleCounter some, onCycleCounter_of_counter there]
    exact waited

/-- With a hundred nanoseconds to a tick, and a reading that is said to cost less than nothing. -/
theorem readings_of_waits_for_299 :
    wait (.ofMeasurements (-5) 10 10000000 100) .monotonicClock 299 (.new 10 10000000) =
        .ok () { SteppedClock.new 10 10000000 with now := 1000000320, reads := 32 } ∧
      wait (.ofMeasurements (-5) 10 10000000 100) .cycleCounter 299 (.new 10 10000000) =
        .ok () { SteppedClock.new 10 10000000 with now := 1000000200, reads := 20 } := by
  obtain ⟨-, waits⟩ :=
    wait_reads_exactly (.ofMeasurements (-5) 10 10000000 100) (.new 10 10000000)
  obtain ⟨clock, counter⟩ := waits (by decide) (by decide) (by decide) 299 (by decide)
  obtain ⟨n, least, waited⟩ := counter rfl (by decide) (by decide)
  have twenty : IsLeast {n | 2 ≤ n ∧ (SteppedClock.new 10 10000000).ticksAt 1 +
      (299 : Int).toNat * 10000000 / nanosPerSecond ≤ (SteppedClock.new 10 10000000).ticksAt n} 20 := by
    refine ⟨⟨by decide, by decide⟩, fun n member => ?_⟩
    have reached : 10000002 ≤ (1000000000 + (n : Int) * 10).toNat * 10000000 / 1000000000 := member.2
    omega
  obtain rfl : n = 20 := least.unique twenty
  exact ⟨clock (by decide) (by decide) (by decide), waited (by decide) (by decide)⟩

end Spin

end Jitter

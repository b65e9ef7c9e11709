import Jitter.Proofs.SteppedPasses
import Mathlib

/-! How near calibration comes to the frequency of the counter of a stepped clock. -/

namespace Jitter

namespace Movement

variable {v : Movement} {wall : Nat} {t : Int}

theorem ticks_bounds (nonneg : 0 ≤ t) (wall : Nat) :
    (v.count (t + wall) - v.count t) * nanosPerSecond < wall * v.frequency + nanosPerSecond ∧
      wall * v.frequency < (v.count (t + wall) - v.count t) * nanosPerSecond + nanosPerSecond := by
  have split : (t + wall).toNat * v.frequency = t.toNat * v.frequency + wall * v.frequency := by
    rw [← Nat.add_mul]
    congr 1
    omega
  simp only [count, split, nanosPerSecond]
  generalize t.toNat * v.frequency = before
  generalize wall * v.frequency = within
  omega

/-- Rounding down twice, to whole ticks and to whole ticks per second, does not take the estimate
further away than a tick in the window and one per second. -/
theorem estimate_bounds (nonneg : 0 ≤ t) (some : 0 < wall) (slow : v.frequency ≤ 2 ^ 63) :
    v.estimate t wall * wall < wall * v.frequency + nanosPerSecond ∧
      wall * v.frequency < (v.estimate t wall + 1) * wall + nanosPerSecond := by
  rcases ticks_bounds (v := v) nonneg wall with ⟨most, least⟩
  simp only [estimate]
  generalize (v.count (t + wall) - v.count t) * nanosPerSecond = scaled at *
  have low : scaled / wall * wall ≤ scaled := Nat.div_mul_le_self scaled wall
  have high : scaled < (scaled / wall + 1) * wall := Nat.lt_mul_of_div_lt (Nat.lt_succ_self _) some
  have short : scaled / wall < v.frequency + nanosPerSecond := by
    apply Nat.div_lt_of_lt_mul
    have seconds : nanosPerSecond ≤ wall * nanosPerSecond := Nat.le_mul_of_pos_left _ some
    rw [Nat.mul_add]
    omega
  have kept : Unsigned.saturate word64 (scaled / wall) = scaled / wall := by
    simp only [Unsigned.saturate, nanosPerSecond, word64] at *
    omega
  rw [kept]
  omega

/-- Less than one tick in the interval, and one per second, away from the frequency. -/
def Near (v : Movement) (interval : Int) (hz : Nat) : Prop :=
  |(hz : ℚ) - v.frequency| < 10 ^ 9 / interval + 1

theorem near_estimate {interval : Int} (nonneg : 0 ≤ t) (positive : 0 < interval)
    (long : interval ≤ wall) (slow : v.frequency ≤ 2 ^ 63) : v.Near interval (v.estimate t wall) := by
  have some : 0 < wall := by omega
  rcases estimate_bounds nonneg some slow with ⟨most, least⟩
  have wide : (0 : ℚ) < wall := by exact_mod_cast some
  have share : (10 ^ 9 : ℚ) / wall ≤ 10 ^ 9 / interval := by
    apply div_le_div_of_nonneg_left (by norm_num)
    · exact_mod_cast positive
    · exact_mod_cast long
  have above : (v.estimate t wall : ℚ) < v.frequency + 10 ^ 9 / wall := by
    have cast : (v.estimate t wall : ℚ) * wall < wall * v.frequency + 10 ^ 9 := by
      exact_mod_cast most
    rw [← sub_lt_iff_lt_add', lt_div_iff₀ wide]
    linarith
  have below : (v.frequency : ℚ) < v.estimate t wall + 1 + 10 ^ 9 / wall := by
    have cast : (wall : ℚ) * v.frequency < (v.estimate t wall + 1) * wall + 10 ^ 9 := by
      exact_mod_cast least
    rw [← sub_lt_iff_lt_add', lt_div_iff₀ wide]
    linarith
  rw [Near, abs_lt]
  constructor
  · linarith
  · linarith

theorem estimate_pos {interval : Int} (nonneg : 0 ≤ t) (positive : 0 < interval)
    (long : interval ≤ wall) (slow : v.frequency ≤ 2 ^ 63)
    (fast : 10 ^ 9 + interval ≤ v.frequency * interval) : 0 < v.estimate t wall := by
  have some : 0 < wall := by omega
  rcases estimate_bounds nonneg some slow with ⟨-, least⟩
  by_contra none
  have zero : v.estimate t wall = 0 := by omega
  rw [zero] at least
  have wide : (wall : Int) * v.frequency < wall + 10 ^ 9 := by
    have cast : wall * v.frequency < wall + 10 ^ 9 := by simpa [nanosPerSecond] using least
    exact_mod_cast cast
  have more : (0 : Int) < v.frequency := by nlinarith
  nlinarith

theorem estimate_lt (nonneg : 0 ≤ t) (some : 0 < wall) (slow : v.frequency ≤ 2 ^ 63) :
    v.estimate t wall < unmeasuredHz := by
  rcases estimate_bounds nonneg some slow with ⟨most, -⟩
  have short : v.estimate t wall < v.frequency + nanosPerSecond := by
    apply Nat.lt_of_mul_lt_mul_right (a := wall)
    have seconds : nanosPerSecond ≤ nanosPerSecond * wall := Nat.le_mul_of_pos_right _ some
    rw [Nat.add_mul, Nat.mul_comm v.frequency]
    omega
  simp only [unmeasuredHz, nanosPerSecond, word64] at *
  omega

structure Found (v : Movement) (interval : Int) (hz : Nat) : Prop where
  near : v.Near interval hz
  pos : 0 < hz
  lt : hz < unmeasuredHz

theorem found_estimate {interval : Int} (nonneg : 0 ≤ t) (positive : 0 < interval)
    (long : interval ≤ wall) (slow : v.frequency ≤ 2 ^ 63)
    (fast : 10 ^ 9 + interval ≤ v.frequency * interval) : v.Found interval (v.estimate t wall) where
  near := near_estimate nonneg positive long slow
  pos := estimate_pos nonneg positive long slow fast
  lt := estimate_lt nonneg (by omega) slow

theorem Found.known {interval : Int} {hz : Nat} (found : v.Found interval hz) :
    ¬(hz = unmeasuredHz ∨ hz = 0) := by
  have above := found.pos
  have below := found.lt
  omega

theorem Found.lowerHz {interval : Int} {hz est : Nat} (found : v.Found interval est)
    (before : hz = unmeasuredHz ∨ v.Found interval hz) :
    v.Found interval (Calibration.lowerHz hz est) := by
  rw [Calibration.lowerHz, if_pos found.pos]
  rcases before with rfl | before
  · rw [min_eq_right (Nat.le_of_lt found.lt)]
    exact found
  · rcases min_choice hz est with lower | lower
    · rw [lower]
      exact before
    · rw [lower]
      exact found

/-- The comparison is no shorter than the interval, since a reading does not seem to cost more than it
does. -/
theorem interval_le_window {p : CalibrationPlan} {cost : Nat} (moves : 0 < v.step)
    (cheap : cost ≤ v.step) : p.interval ≤ v.window p cost := by
  have far := le_ceilDiv_mul (p.interval.toNat - 2 * cost) moves
  simp only [window, waitReads, Nat.add_mul]
  omega

/-- When the pass after the first `n` begins, if these begin at `t` and none lowers what a reading
seems to cost. -/
def lap (v : Movement) (p : CalibrationPlan) (t : Int) (n : Nat) : Int :=
  v.after (n * v.passReads p (v.readCost p.reads)) t

variable {p : CalibrationPlan} {n k : Nat}

theorem lap_zero : v.lap p t 0 = t := by rw [lap, Nat.zero_mul, after_zero]

theorem lap_succ : v.lap p t (n + 1) = v.after (v.passReads p (v.readCost p.reads)) (v.lap p t n) := by
  rw [lap, lap, after_after, Nat.succ_mul]

theorem le_lap : t ≤ v.lap p t n := le_after

theorem lap_le_lap (fewer : n ≤ k) : v.lap p t n ≤ v.lap p t k :=
  after_le_after (Nat.mul_le_mul_right _ fewer)

theorem after_two_le_lap (some : n ≠ 0) : v.after 2 t ≤ v.lap p t n := by
  apply after_le_after
  calc 2 ≤ v.passReads p (v.readCost p.reads) := by
        rw [passReads]
        omega
    _ ≤ n * v.passReads p (v.readCost p.reads) := Nat.le_mul_of_pos_left _ (Nat.pos_of_ne_zero some)

end Movement

namespace Instrument

variable {κ : Type} {v : Movement} {p : CalibrationPlan} {t : Int} {x : κ} {n : Nat}
  {i : Instrument (SteppedClock × κ)}

/-- An instrument after `n` passes that began at `t`: nothing is lower than what a pass may find. -/
structure Homed (v : Movement) (p : CalibrationPlan) (t : Int) (x : κ) (n : Nat)
    (i : Instrument (SteppedClock × κ)) : Prop where
  stands : Stands v (v.lap p t n) x i.clock
  passes_eq : i.calibration.passes = n
  readCost_le : v.readCost p.reads ≤ i.calibration.readCost
  hz_found : n = 0 ∧ i.calibration.hz = unmeasuredHz ∨ v.Found p.interval i.calibration.hz

theorem pass_homed (homed : Homed v p t x n i) (nonneg : 0 ≤ t) (moves : 0 < v.step)
    (counter : v.counter = true) (slow : v.frequency ≤ 2 ^ 63)
    (fast : 10 ^ 9 + p.interval ≤ v.frequency * p.interval) (valid : p.validate = .ok ())
    (fits : Signed.Fits p.interval) (few : n + 1 < word32)
    (before : v.lap p t (n + 1) ≤ Signed.greatest) (word : v.count (v.lap p t (n + 1)) < word64) :
    Completes (pass p) i fun _ => Homed v p t x (n + 1) := by
  have positive : 0 < p.interval := (CalibrationPlan.validate_eq_ok.mp valid).2.1
  have frequency : v.frequency < word64 := Nat.lt_of_le_of_lt slow (by decide)
  have begins : 0 ≤ v.lap p t n := Int.le_trans nonneg Movement.le_lap
  have compared : 0 ≤ v.after (p.reads + 2) (v.lap p t n) := Int.le_trans begins Movement.le_after
  have long := Movement.interval_le_window (p := p) moves (v.readCost_le_step p.reads)
  have estimated := Movement.found_estimate compared positive long slow fast
  have lowered := estimated.lowerHz (homed.hz_found.imp_left And.right)
  rw [Movement.lap_succ] at before word
  have measured := pass_stands homed.stands begins moves counter frequency valid fits
    (by rw [homed.passes_eq]; exact few) (min_eq_right homed.readCost_le)
    (fun _ same => same ▸ lowered.known) before word
  apply measured.mono
  intro _ i' done
  rcases done with ⟨stands, found⟩
  refine ⟨Movement.lap_succ ▸ stands, ?_, found.readCost_eq.ge, .inr ?_⟩
  · rw [found.passes_eq, homed.passes_eq]
  · rw [found.hz_eq]
    exact lowered

/-- However many passes a new calibration is given, the frequency that it finds is less than one tick
in the interval, and one per second, away from the counter's. -/
theorem calibratePasses_frequency_near (stands : Stands v t x i.clock) (nonneg : 0 ≤ t)
    (moves : 0 < v.step) (counter : v.counter = true) (slow : v.frequency ≤ 2 ^ 63)
    (fast : 10 ^ 9 + p.interval ≤ v.frequency * p.interval) (new : i.calibration = .new)
    (valid : p.validate = .ok ()) (fits : Signed.Fits p.interval) (passes : p.passes < word32)
    (before : v.lap p t p.passes ≤ Signed.greatest)
    (word : v.count (v.lap p t p.passes) < word64) :
    ∃ i', calibratePasses p i = .ok () i' ∧
      |(i'.calibration.hz : ℚ) - v.frequency| < 10 ^ 9 / p.interval + 1 := by
  have some : p.passes ≠ 0 := (CalibrationPlan.validate_eq_ok.mp valid).2.2.2
  have homed : Completes (repeatedly (pass p) p.passes) i fun _ => Homed v p t x (0 + p.passes) := by
    refine .repeatedly ?_ ?_
    · intro n _ below j homed
      have within : v.lap p t (n + 1) ≤ v.lap p t p.passes := Movement.lap_le_lap (by omega)
      exact pass_homed homed nonneg moves counter slow fast valid fits (by omega)
        (Int.le_trans within before) (Nat.lt_of_le_of_lt (Movement.count_le_count within) word)
    · have twice : v.after 2 t ≤ Signed.greatest :=
        Int.le_trans (Movement.after_two_le_lap some) before
      have cheap := Movement.readCost_lt_greatest nonneg twice p.reads
      rw [← Movement.lap_zero (v := v) (p := p) (t := t)] at stands
      -- Nothing is known before the first pass, so nothing is too low.
      refine ⟨stands, ?_, ?_, .inl ⟨rfl, ?_⟩⟩
      · rw [new]
        rfl
      · rw [new]
        exact Int.le_of_lt cheap
      · rw [new]
        rfl
  have ran : Completes (calibratePasses p) i fun _ => Homed v p t x (0 + p.passes) :=
    .refusal_bind valid homed
  rcases ran with ⟨⟨⟩, i', ran, homed⟩
  rcases homed.hz_found with none | found
  · omega
  · exact ⟨i', ran, found.near⟩

/-- A counter whose ticks are not whole nanoseconds, read every seven of them. -/
theorem two_passes_find_odd_frequency :
    ∃ i i' : Instrument (SteppedClock × Unit), i.clock.1 = .new 7 1234567891 ∧
      i.calibration = .new ∧ calibratePasses ⟨100, 300, 5, 2⟩ i = .ok () i' ∧
      |(i'.calibration.hz : ℚ) - 1234567891| < 10 ^ 9 / 300 + 1 := by
  let v : Movement := ⟨7, 1234567891, true⟩
  let i : Instrument (SteppedClock × Unit) := ⟨(.new 7 1234567891, ()), .new⟩
  have stands : Stands v 1000000000 () i.clock := ⟨rfl, rfl, rfl, rfl, rfl, by decide⟩
  have fast : 10 ^ 9 + (300 : Int) ≤ (1234567891 : Nat) * (300 : Int) := by decide
  have interval : Signed.Fits 300 := by decide
  have time : v.lap ⟨100, 300, 5, 2⟩ 1000000000 2 ≤ Signed.greatest := by
    dsimp only [v]
    decide +kernel
  have cycles : v.count (v.lap ⟨100, 300, 5, 2⟩ 1000000000 2) < word64 := by
    dsimp only [v]
    decide +kernel
  rcases calibratePasses_frequency_near (p := ⟨100, 300, 5, 2⟩) stands (by decide) (by decide) rfl
    (by decide) fast rfl rfl interval (by decide) time cycles with ⟨i', ran, near⟩
  exact ⟨i, i', rfl, rfl, ran, near⟩

set_option maxRecDepth 4000 in
/-- Before zero a counter stands still, so that no frequency is found. -/
theorem no_frequency_found_before_zero :
    ∃ i i' : Instrument SteppedClock,
      i.clock = (SteppedClock.new 10 nanosPerSecond).advance (-5000000001000000000) ∧
        i.calibration = .new ∧ 10 ^ 9 + 300 ≤ nanosPerSecond * 300 ∧
        calibratePasses ⟨100, 300, 1000, 1⟩ i = .ok () i' ∧ Signed.Fits i'.clock.now ∧
        ¬|(i'.calibration.hz : ℚ) - nanosPerSecond| < 10 ^ 9 / 300 + 1 := by
  let i : Instrument SteppedClock :=
    ⟨(SteppedClock.new 10 nanosPerSecond).advance (-5000000001000000000), .new⟩
  let i' : Instrument SteppedClock :=
    ⟨{ i.clock with now := -4999999999999998630, reads := 137 },
      ⟨9, unmeasuredCost, unmeasuredHz, 1, 1, false⟩⟩
  have ran : calibratePasses ⟨100, 300, 1000, 1⟩ i = .ok () i' := by
    cbv
  refine ⟨i, i', rfl, rfl, by decide, ran, by decide, ?_⟩
  have far : (10 ^ 9 / 300 + 1 : ℚ) ≤ |(unmeasuredHz : ℚ) - nanosPerSecond| := by
    rw [abs_of_nonneg] <;> norm_num [unmeasuredHz, word64, nanosPerSecond]
  exact not_lt.mpr far

end Instrument

end Jitter

import Jitter.Proofs.Readiness
import Jitter.Proofs.SteppedPasses

/-! Calibration on a clock that moves by one step with each reading: the first pass finds all that there
is to be found, and no later one changes it. -/

namespace Jitter

namespace Movement

def loopCost (v : Movement) (p : CalibrationPlan) : Nat :=
  v.step ⌈/⌉ (p.reads + 1) * loopUnit / p.loops

/-- What there is to be found; without a counter nothing is known of one. -/
def figures (v : Movement) (p : CalibrationPlan) : Calibration where
  readCost := v.readCost p.reads
  cycleReadCost := if v.counter then v.readCost p.reads else unmeasuredCost
  hz := if v.counter then v.frequency else unmeasuredHz
  loopCost := v.loopCost p
  passes := 0
  preset := false

def afterPasses (v : Movement) (p : CalibrationPlan) : Nat → Calibration
  | 0 => .new
  | n + 1 => { v.figures p with passes := n + 1 }

/-- The readings of a pass once a reading costs what it seems to. -/
def steadyReads (v : Movement) (p : CalibrationPlan) : Nat :=
  if v.counter then v.passReads p (v.readCost p.reads) else p.reads + 3

/-- A counter, if there is one, ticks a whole number of times a nanosecond, and its counts are words up
to `last`. -/
def Ticks (v : Movement) (last : Int) : Prop :=
  v.counter = true → ∃ rate, 0 < rate ∧ v.frequency = rate * nanosPerSecond ∧
    v.frequency < word64 ∧ v.count last < word64

variable {v : Movement} {p : CalibrationPlan} {n : Nat} {t last : Int}

theorem Ticks.mono (ticks : v.Ticks last) (earlier : t ≤ last) : v.Ticks t := by
  intro counter
  obtain ⟨rate, positive, whole, frequency, word⟩ := ticks counter
  exact ⟨rate, positive, whole, frequency, Nat.lt_of_le_of_lt (count_le_count earlier) word⟩

theorem afterPasses_passes (n : Nat) : (v.afterPasses p n).passes = n := by
  cases n <;> rfl

theorem afterPasses_preset (n : Nat) : (v.afterPasses p n).preset = false := by
  cases n <;> rfl

theorem min_afterPasses {α : Type} [LinearOrder α] (field : Calibration → α) {found : α}
    (first : found ≤ field .new) (again : ∀ n, field (v.afterPasses p (n + 1)) = found) (n : Nat) :
    min (field (v.afterPasses p n)) found = found := by
  cases n with
  | zero => exact min_eq_right first
  | succ n => rw [again, min_self]

theorem lowerHz_afterPasses {rate cost : Nat} (counter : v.counter = true) (positive : 0 < rate)
    (whole : v.frequency = rate * nanosPerSecond) (frequency : v.frequency < word64)
    (nonneg : 0 ≤ t) (moves : 0 < v.step) (n : Nat) :
    Calibration.lowerHz (v.afterPasses p n).hz (v.estimate t (v.window p cost)) = v.frequency := by
  have wide : 0 < v.window p cost := Nat.mul_pos (by omega) moves
  rw [estimate_of_rate whole frequency nonneg wide, Calibration.lowerHz,
    if_pos (frequency_pos positive whole)]
  exact min_afterPasses Calibration.hz (Nat.le_sub_one_of_lt frequency) (fun _ => if_pos counter) n

theorem eq_afterPasses {c : Calibration} (readCost : c.readCost = v.readCost p.reads)
    (cycleReadCost : c.cycleReadCost = if v.counter then (v.readCost p.reads : Int) else unmeasuredCost)
    (hz : c.hz = if v.counter then v.frequency else unmeasuredHz)
    (loopCost : c.loopCost = v.loopCost p) (passes : c.passes = n + 1) (preset : c.preset = false) :
    c = v.afterPasses p (n + 1) := by
  cases c
  simp only at readCost cycleReadCost hz loopCost passes preset
  rw [readCost, cycleReadCost, hz, loopCost, passes, preset]
  rfl

theorem loopCost_le (reads : 100 ≤ p.reads) (nonneg : 0 ≤ t)
    (before : v.after (p.reads + 3) t ≤ Signed.greatest) :
    (v.loopCost p : Int) ≤ Signed.greatest := by
  have share : v.step ⌈/⌉ (p.reads + 1) ≤ v.step ⌈/⌉ 101 := by
    rw [ceilDiv_le_iff_le_mul (Nat.succ_pos _)]
    calc v.step ≤ v.step ⌈/⌉ 101 * 101 := le_ceilDiv_mul _ (by decide)
      _ ≤ v.step ⌈/⌉ 101 * (p.reads + 1) := Nat.mul_le_mul_left _ (by omega)
      _ = (p.reads + 1) * (v.step ⌈/⌉ 101) := Nat.mul_comm _ _
  have whole : v.loopCost p ≤ v.step ⌈/⌉ (p.reads + 1) * loopUnit := Nat.div_le_self _ _
  have steps : 103 * v.step ≤ (p.reads + 3) * v.step := Nat.mul_le_mul_right _ (by omega)
  rw [Nat.ceilDiv_eq_add_pred_div (a := v.step) (b := 101)] at share
  simp only [after, Signed.greatest, loopUnit] at *
  omega

theorem loopTime_of_rate {rate : Nat} (positive : 0 < rate)
    (whole : v.frequency = rate * nanosPerSecond) (nonneg : 0 ≤ t)
    (before : v.after 2 t ≤ Signed.greatest) (n : Nat) :
    v.loopTime v.frequency (v.readCost n) t = (v.step ⌈/⌉ (n + 1) : Nat) := by
  have second : v.after 2 t = v.after 1 t + (v.step : Nat) := after_succ
  have ticks : v.count (v.after 2 t) - v.count (v.after 1 t) = rate * v.step := by
    rw [second]
    exact count_sub_of_rate whole (Int.le_trans nonneg le_after) v.step
  have nanos : rate * v.step * nanosPerSecond / v.frequency = v.step := by
    rw [whole, Nat.mul_right_comm, Nat.mul_div_cancel_left _ (Nat.mul_pos positive (by decide))]
  have cost := v.readCost_le_step n
  have left := v.step_sub_readCost n
  rw [loopTime, ticks, nanos]
  simp only [after, Signed.saturate, Signed.least, Signed.greatest] at *
  omega

end Movement

namespace Instrument

open Movement

variable {κ : Type} {v : Movement} {p : CalibrationPlan} {n : Nat} {t : Int} {x : κ}
  {i : Instrument (SteppedClock × κ)}

theorem loopCost_afterPasses (small : (v.loopCost p : Int) ≤ Signed.greatest) (n : Nat) :
    min (v.afterPasses p n).loopCost (loopShare (v.step ⌈/⌉ (p.reads + 1) : Nat) p.loops) =
      v.loopCost p := by
  have share : loopShare (v.step ⌈/⌉ (p.reads + 1) : Nat) p.loops = v.loopCost p := min_eq_left small
  rw [share]
  exact min_afterPasses Calibration.loopCost small (fun _ => rfl) n

theorem timeLoops_stands (stands : Stands v t x i.clock) (nonneg : 0 ≤ t) (loops : Nat)
    (before : v.after 2 t ≤ Signed.greatest) :
    Completes (timeLoops loops) i fun elapsed i' =>
      elapsed = Signed.saturate (v.step - i.calibration.readCost) ∧
        Stands v (v.after 2 t) x i'.clock ∧ i'.calibration = i.calibration := by
  have start : Stands v (v.after 0 t) x i.clock := by rwa [after_zero]
  have reads := (Stands.monotonic_foretold (x := x) before).aroundLoops start
    (fun _ _ _ stands => stands.idle) loops (Nat.le_refl _)
  apply Completes.onClock_bind reads
  intro both w read
  rw [read.1]
  have step : v.after 2 t - v.after 1 t = v.step := by
    rw [after_sub_after (by decide), Nat.one_mul]
  have fits : Signed.Fits (v.step : Int) := by
    have first : t ≤ v.after 1 t := le_after
    simp only [Signed.Fits, Signed.least, Signed.greatest] at *
    omega
  apply Completes.checked_bind (Signed.sub_eq_ok.mpr ⟨step.symm ▸ fits, step.symm⟩)
  apply Completes.calibrationNow_bind
  exact .pure ⟨rfl, read.2, rfl⟩

theorem measureLoopCost_uncounted (stands : Stands v t x i.clock) (nonneg : 0 ≤ t)
    (uncounted : v.counter = false) (some : p.loops ≠ 0) (before : v.after 2 t ≤ Signed.greatest) :
    Completes (measureLoopCost p) i fun _ i' =>
      Stands v (v.after 2 t) x i'.clock ∧
        i'.calibration = { i.calibration with
          loopCost := min i.calibration.loopCost
            (loopShare (Signed.saturate (v.step - i.calibration.readCost)) p.loops) } := by
  have without : Clock.hasCycleCounter i.clock = false := stands.counter_eq.trans uncounted
  apply Completes.get_bind
  rw [without, Bool.false_and, if_neg (by decide)]
  apply (timeLoops_stands stands nonneg p.loops before).bind
  intro elapsed i' timed
  rcases timed with ⟨rfl, now, same⟩
  apply (lowerLoopCost_completes (Signed.saturate_le _) some).mono
  intro _ i'' lowered
  rw [lowered.1, lowered.2, same]
  exact ⟨now, rfl⟩

theorem pass_uncounted (stands : Stands v t x i.clock) (nonneg : 0 ≤ t)
    (uncounted : v.counter = false) (some : p.loops ≠ 0)
    (few : i.calibration.passes + 1 < word32)
    (before : v.after (p.reads + 3) t ≤ Signed.greatest) :
    Completes (pass p) i fun _ i' =>
      Stands v (v.after (p.reads + 3) t) x i'.clock ∧
        i'.calibration = { i.calibration with
          readCost := min i.calibration.readCost (v.readCost p.reads)
          loopCost := min i.calibration.loopCost
            (loopShare (Signed.saturate
              (v.step - min i.calibration.readCost (v.readCost p.reads))) p.loops)
          passes := i.calibration.passes + 1 } := by
  have split : v.after 2 (v.after (p.reads + 1) t) = v.after (p.reads + 3) t := after_after
  have early : v.after (p.reads + 1) t ≤ v.after (p.reads + 3) t := after_le_after (by omega)
  apply (measureReadCost_stands stands nonneg (Int.le_trans early before)).bind
  intro _ i₁ priced
  rcases priced with ⟨stands₁, found₁⟩
  apply Completes.get_bind
  have without : Clock.hasCycleCounter i₁.clock = false := stands₁.counter_eq.trans uncounted
  rw [without, if_neg (by decide)]
  apply (measureLoopCost_uncounted stands₁ (Int.le_trans nonneg le_after) uncounted some
    (split ▸ before)).bind
  intro _ i₂ looped
  rcases looped with ⟨stands₂, found₂⟩
  have passes₂ : i₂.calibration.passes = i.calibration.passes := by rw [found₂, found₁]
  apply (countPass_completes (by rw [passes₂]; exact few)).mono
  intro _ i' last
  rw [last, found₂, found₁]
  exact ⟨split ▸ stands₂, rfl⟩

structure Steady (v : Movement) (p : CalibrationPlan) (t : Int) (x : κ) (n : Nat)
    (i : Instrument (SteppedClock × κ)) : Prop where
  stands : Stands v (v.after (n * v.steadyReads p) t) x i.clock
  calibration_eq : i.calibration = v.afterPasses p n

theorem Measured.afterPasses {rate : Nat} {c c' : Calibration}
    (m : Measured v p (v.readCost p.reads) t c c') (known : c = v.afterPasses p n) (nonneg : 0 ≤ t)
    (moves : 0 < v.step) (counter : v.counter = true) (positive : 0 < rate)
    (whole : v.frequency = rate * nanosPerSecond) (frequency : v.frequency < word64)
    (reads : 100 ≤ p.reads)
    (before : v.after (v.passReads p (v.readCost p.reads)) t ≤ Signed.greatest) :
    c' = v.afterPasses p (n + 1) := by
  have total : v.passReads p (v.readCost p.reads) =
      2 * p.reads + 8 + v.waitReads (v.readCost p.reads) p.interval := rfl
  have early : ∀ k ≤ v.passReads p (v.readCost p.reads), v.after k t ≤ Signed.greatest :=
    fun k fewer => Int.le_trans (after_le_after fewer) before
  have later : ∀ k, 0 ≤ v.after k t := fun _ => Int.le_trans nonneg le_after
  have cheap := Int.le_of_lt (readCost_lt_greatest nonneg (early 2 (by omega)) p.reads)
  have small := loopCost_le reads nonneg (early (p.reads + 3) (by omega))
  have hz : c'.hz = v.frequency := by
    rw [m.hz_eq, known]
    exact lowerHz_afterPasses counter positive whole frequency (later _) moves n
  have cycleReadCost : c'.cycleReadCost = v.readCost p.reads := by
    rw [m.cycleReadCost_eq, hz, counterCost_of_rate whole (later _),
      rateCost_of_exact positive whole, min_eq_left cheap, known]
    exact min_afterPasses Calibration.cycleReadCost cheap (fun _ => if_pos counter) n
  have loopCost : c'.loopCost = v.loopCost p := by
    have twice := early (2 * p.reads + 6 + v.waitReads (v.readCost p.reads) p.interval + 2) (by omega)
    rw [← after_after] at twice
    rw [m.loopCost_eq, hz, cycleReadCost, loopTime_of_rate positive whole (later _) twice, known]
    exact loopCost_afterPasses small n
  refine eq_afterPasses m.readCost_eq ?_ ?_ loopCost ?_ ?_
  · rw [cycleReadCost, if_pos counter]
  · rw [hz, if_pos counter]
  · rw [m.passes_eq, known, afterPasses_passes]
  · rw [m.preset_eq, known, afterPasses_preset]

theorem calibrate_counted {rate : Nat} (stands : Stands v t x i.clock)
    (known : i.calibration = v.afterPasses p n) (nonneg : 0 ≤ t) (moves : 0 < v.step)
    (counter : v.counter = true) (positive : 0 < rate) (whole : v.frequency = rate * nanosPerSecond)
    (frequency : v.frequency < word64) (valid : p.validate = .ok ()) (fits : Signed.Fits p.interval)
    (few : n + 1 < word32) (before : v.after (v.steadyReads p) t ≤ Signed.greatest)
    (word : v.count (v.after (v.steadyReads p) t) < word64) :
    Completes (calibrate p) i fun _ i' =>
      Stands v (v.after (v.steadyReads p) t) x i'.clock ∧
        i'.calibration = v.afterPasses p (n + 1) := by
  have reads : v.steadyReads p = v.passReads p (v.readCost p.reads) := if_pos counter
  rw [reads] at before word ⊢
  have twice : v.after 2 t ≤ Signed.greatest :=
    Int.le_trans (after_le_after (by unfold passReads; omega)) before
  have cheap := Int.le_of_lt (readCost_lt_greatest nonneg twice p.reads)
  have priced : min i.calibration.readCost (v.readCost p.reads) = v.readCost p.reads := by
    rw [known]
    exact min_afterPasses Calibration.readCost cheap (fun _ => rfl) n
  have estimated : Calibration.lowerHz i.calibration.hz
      (v.estimate (v.after (p.reads + 2) t) (v.window p (v.readCost p.reads))) = v.frequency := by
    rw [known]
    exact lowerHz_afterPasses counter positive whole frequency (Int.le_trans nonneg le_after) moves n
  have found := min_frequency_known positive whole frequency (frequency_pos positive whole)
  rw [min_self, ← estimated] at found
  have measured := pass_stands stands nonneg moves counter frequency valid fits
    (by rw [known, afterPasses_passes]; exact few) priced (fun _ same => same ▸ found) before word
  rw [calibrate_of_valid valid]
  apply measured.mono
  intro _ i' done
  exact ⟨done.1, done.2.afterPasses known nonneg moves counter positive whole frequency
    (CalibrationPlan.validate_eq_ok.mp valid).1 before⟩

theorem calibrate_uncounted (stands : Stands v t x i.clock)
    (known : i.calibration = v.afterPasses p n) (nonneg : 0 ≤ t) (uncounted : v.counter = false)
    (valid : p.validate = .ok ()) (few : n + 1 < word32)
    (before : v.after (v.steadyReads p) t ≤ Signed.greatest) :
    Completes (calibrate p) i fun _ i' =>
      Stands v (v.after (v.steadyReads p) t) x i'.clock ∧
        i'.calibration = v.afterPasses p (n + 1) := by
  have without : ¬v.counter = true := by rw [uncounted]; decide
  have reads : v.steadyReads p = p.reads + 3 := if_neg without
  rw [reads] at before ⊢
  rcases CalibrationPlan.validate_eq_ok.mp valid with ⟨enough, -, loops, -⟩
  have twice : v.after 2 t ≤ Signed.greatest :=
    Int.le_trans (after_le_after (by omega)) before
  have cheap := Int.le_of_lt (readCost_lt_greatest nonneg twice p.reads)
  have small := loopCost_le enough nonneg before
  have priced : min i.calibration.readCost (v.readCost p.reads) = v.readCost p.reads := by
    rw [known]
    exact min_afterPasses Calibration.readCost cheap (fun _ => rfl) n
  have left : Signed.saturate (v.step - v.readCost p.reads) = (v.step ⌈/⌉ (p.reads + 1) : Nat) := by
    have share := v.step_sub_readCost p.reads
    have cost := v.readCost_le_step p.reads
    simp only [after, Signed.saturate, Signed.least, Signed.greatest] at *
    omega
  rw [calibrate_of_valid valid]
  apply (pass_uncounted stands nonneg uncounted loops
    (by rw [known, afterPasses_passes]; exact few) before).mono
  intro _ i' measured
  rcases measured with ⟨stands', found⟩
  rw [priced, left] at found
  refine ⟨stands', eq_afterPasses ?_ ?_ ?_ ?_ ?_ ?_⟩
  · rw [found]
  · rw [found, known, if_neg without]
    cases n with
    | zero => rfl
    | succ n => exact if_neg without
  · rw [found, known, if_neg without]
    cases n with
    | zero => rfl
    | succ n => exact if_neg without
  · rw [found, known]
    exact loopCost_afterPasses small n
  · rw [found, known, afterPasses_passes]
  · rw [found, known, afterPasses_preset]

theorem Steady.calibrate {m : Nat} (steady : Steady v p t x m i) (below : m < n) (nonneg : 0 ≤ t)
    (moves : 0 < v.step) (valid : p.validate = .ok ()) (fits : Signed.Fits p.interval)
    (few : n < word32) (before : v.after (n * v.steadyReads p) t ≤ Signed.greatest)
    (ticks : v.Ticks (v.after (n * v.steadyReads p) t)) :
    Completes (calibrate p) i fun _ => Steady v p t x (m + 1) := by
  have step : v.after (v.steadyReads p) (v.after (m * v.steadyReads p) t) =
      v.after ((m + 1) * v.steadyReads p) t := by rw [after_after, Nat.succ_mul]
  have within : v.after ((m + 1) * v.steadyReads p) t ≤ v.after (n * v.steadyReads p) t :=
    after_le_after (Nat.mul_le_mul_right _ below)
  have begins : 0 ≤ v.after (m * v.steadyReads p) t := Int.le_trans nonneg le_after
  have ends := Int.le_trans within before
  have passed : Completes (Instrument.calibrate p) i fun _ i' =>
      Stands v (v.after (v.steadyReads p) (v.after (m * v.steadyReads p) t)) x i'.clock ∧
        i'.calibration = v.afterPasses p (m + 1) := by
    by_cases counter : v.counter = true
    · obtain ⟨rate, positive, whole, frequency, word⟩ := ticks.mono within counter
      rw [← step] at ends word
      exact calibrate_counted steady.stands steady.calibration_eq begins moves counter positive whole
        frequency valid fits (by omega) ends word
    · rw [← step] at ends
      exact calibrate_uncounted steady.stands steady.calibration_eq begins
        (Bool.eq_false_iff.mpr counter) valid (by omega) ends
  apply passed.mono
  intro _ i' done
  exact ⟨step ▸ done.1, done.2⟩

theorem passes_steady (start : Stands v t x i.clock) (new : i.calibration = .new) (nonneg : 0 ≤ t)
    (moves : 0 < v.step) (valid : p.validate = .ok ()) (fits : Signed.Fits p.interval)
    (few : n < word32) (before : v.after (n * v.steadyReads p) t ≤ Signed.greatest)
    (ticks : v.Ticks (v.after (n * v.steadyReads p) t)) :
    Completes (repeatedly (calibrate p) n) i fun _ => Steady v p t x n := by
  have first : Steady v p t x 0 i := by
    refine ⟨?_, new⟩
    rwa [Nat.zero_mul, after_zero]
  have all : Completes (repeatedly (calibrate p) n) i fun _ => Steady v p t x (0 + n) := by
    refine .repeatedly (fun m _ below j steady => ?_) first
    exact steady.calibrate (by omega) nonneg moves valid fits few before ticks
  rwa [Nat.zero_add] at all

/-- What a reading and one unit of loops seem to cost on a clock of steps of `s`. -/
structure Costs (s : Nat) (p : CalibrationPlan) (c : Calibration) : Prop where
  readCost_eq : c.readCost = (p.reads * s / (p.reads + 1) : Nat)
  loopCost_eq : c.loopCost = (s ⌈/⌉ (p.reads + 1) * loopUnit / p.loops : Nat)

def countedReads (s : Nat) (p : CalibrationPlan) : Nat :=
  2 * p.reads + 9 + (p.interval.toNat - 2 * (p.reads * s / (p.reads + 1))) ⌈/⌉ s

theorem steadyReads_counted (s hz : Nat) :
    (⟨s, hz, true⟩ : Movement).steadyReads p = countedReads s p := by
  simp only [steadyReads, if_true, passReads, waitReads, readCost, countedReads]
  omega

theorem passes_completed {w : SteppedClock × κ} {reads : Nat} (start : Stands v nanosPerSecond x w)
    (counted : v.steadyReads p = reads) (moves : 0 < v.step) (valid : p.validate = .ok ())
    (fits : Signed.Fits p.interval) (few : n < word32)
    (time : nanosPerSecond + n * reads * v.step < 2 ^ 63)
    (ticks : v.Ticks (nanosPerSecond + n * reads * v.step : Nat)) :
    ∃ i, repeatedly (calibrate p) n ⟨w, .new⟩ = .ok () i ∧ i.calibration = v.afterPasses p n := by
  have ends : v.after (n * v.steadyReads p) nanosPerSecond =
      (nanosPerSecond + n * reads * v.step : Nat) := by
    rw [counted]
    rfl
  have before : v.after (n * v.steadyReads p) nanosPerSecond ≤ Signed.greatest := by
    rw [ends]
    simp only [Signed.greatest]
    omega
  obtain ⟨⟨⟩, i, ran, steady⟩ := passes_steady (i := ⟨w, .new⟩) start rfl (by decide) moves valid fits
    few before (ends ▸ ticks)
  exact ⟨i, ran, steady.calibration_eq⟩

end Instrument

theorem Calibration.ensureReady_of_no_frequency {c : Calibration} (known : c.readCost ≠ unmeasuredCost)
    (none : c.hz = unmeasuredHz) :
    c.ensureReady .monotonicClock = .ok () ∧
      c.ensureReady .cycleCounter = .error (.notCalibrated "cycle counter frequency") := by
  rw [ensureReady_eq, ensureReady_eq, gaps, gaps, if_neg known, if_pos (.inl none)]
  exact ⟨rfl, rfl⟩

namespace Instrument

open Movement

/-- After any passes on a clock of steps of `s`, the first or a later one, all costs are what the steps
make of them, whether it is the counter that times the loops or the clock. -/
theorem calibration_on_steady_clock {κ : Type} (x : κ) {p : CalibrationPlan} {s n : Nat}
    (moves : 0 < s) (valid : p.validate = .ok ()) (fits : Signed.Fits p.interval) (some : 0 < n)
    (few : n < word32) :
    (∀ k, 0 < k → k * nanosPerSecond < word64 →
      nanosPerSecond + n * countedReads s p * s < 2 ^ 63 →
      (nanosPerSecond + n * countedReads s p * s) * k < word64 →
      ∃ i, repeatedly (calibrate p) n ⟨(SteppedClock.new s (k * nanosPerSecond), x), .new⟩ =
        .ok () i ∧
        Costs s p i.calibration ∧ i.calibration.cycleReadCost = i.calibration.readCost ∧
        i.calibration.hz = k * nanosPerSecond ∧ i.calibration.passes = n) ∧
    (nanosPerSecond + n * (p.reads + 3) * s < 2 ^ 63 →
      ∃ i, repeatedly (calibrate p) n ⟨(SteppedClock.withoutCycleCounter s, x), .new⟩ =
        .ok () i ∧
        Costs s p i.calibration ∧ i.calibration.cycleReadCost = unmeasuredCost ∧
        i.calibration.hz = unmeasuredHz ∧ i.calibration.passes = n ∧
        i.calibration.ensureReady .monotonicClock = .ok () ∧
        i.calibration.ensureReady .cycleCounter =
          .error (.notCalibrated "cycle counter frequency")) := by
  obtain ⟨n, rfl⟩ : ∃ m, n = m + 1 := ⟨n - 1, by omega⟩
  constructor
  · intro k positive frequency time word
    let v : Movement := ⟨s, k * nanosPerSecond, true⟩
    have start : Stands v nanosPerSecond x (SteppedClock.new s (k * nanosPerSecond), x) :=
      ⟨rfl, rfl, rfl, rfl, rfl, by decide⟩
    have ticks : v.Ticks (nanosPerSecond + (n + 1) * countedReads s p * s : Nat) := by
      refine fun _ => ⟨k, positive, rfl, frequency, ?_⟩
      rwa [count_of_rate rfl]
    obtain ⟨i, ran, found⟩ := passes_completed start (steadyReads_counted s _) moves valid fits few
      time ticks
    refine ⟨i, ran, ?_⟩
    rw [found]
    exact ⟨⟨rfl, rfl⟩, rfl, rfl, rfl⟩
  · intro time
    let v : Movement := ⟨s, 0, false⟩
    have start : Stands v nanosPerSecond x (SteppedClock.withoutCycleCounter s, x) :=
      ⟨rfl, rfl, rfl, rfl, rfl, by decide⟩
    obtain ⟨i, ran, found⟩ := passes_completed start rfl moves valid fits few time nofun
    have cheap : (v.afterPasses p (n + 1)).readCost ≠ unmeasuredCost := by
      have low : v.readCost p.reads ≤ s := v.readCost_le_step p.reads
      have once : s ≤ (n + 1) * (p.reads + 3) * s :=
        Nat.le_mul_of_pos_left s (Nat.mul_pos some (by omega))
      change (v.readCost p.reads : Int) ≠ unmeasuredCost
      simp only [unmeasuredCost, Signed.greatest, nanosPerSecond] at *
      omega
    refine ⟨i, ran, ?_⟩
    rw [found]
    exact ⟨⟨rfl, rfl⟩, rfl, rfl, rfl, Calibration.ensureReady_of_no_frequency cheap rfl⟩

/-- Readings of 10 ns seem to cost 9, and five loops the rest of one. -/
theorem two_passes_on_steady_clock :
    ∃ i j : Instrument (SteppedClock × Unit),
      repeatedly (calibrate ⟨100, 300, 5, 2⟩) 2
        ⟨(SteppedClock.new (10 : Nat) (2 * nanosPerSecond), ()), .new⟩ = .ok () i ∧
      i.calibration.readCost = 9 ∧ i.calibration.cycleReadCost = 9 ∧
      i.calibration.hz = 2000000000 ∧ i.calibration.loopCost = 200 ∧
      repeatedly (calibrate ⟨100, 300, 5, 2⟩) 2
        ⟨(SteppedClock.withoutCycleCounter (10 : Nat), ()), .new⟩ = .ok () j ∧
      j.calibration.readCost = 9 ∧ j.calibration.loopCost = 200 ∧ j.calibration.passes = 2 ∧
      j.calibration.ensureReady .cycleCounter =
        .error (.notCalibrated "cycle counter frequency") := by
  have interval : Signed.Fits 300 := by decide
  obtain ⟨counted, uncounted⟩ := calibration_on_steady_clock (p := ⟨100, 300, 5, 2⟩) (s := 10)
    (n := 2) () (by decide) rfl interval (by decide) (by decide)
  obtain ⟨i, ran, costs, cycleReadCost, hz, -⟩ := counted 2 (by decide) (by decide)
    (by decide +kernel) (by decide +kernel)
  obtain ⟨j, ran', costs', -, -, passes, -, unready⟩ := uncounted (by decide)
  exact ⟨i, j, ran, costs.readCost_eq, cycleReadCost.trans costs.readCost_eq, hz, costs.loopCost_eq,
    ran', costs'.readCost_eq, costs'.loopCost_eq, passes, unready⟩

end Instrument

end Jitter

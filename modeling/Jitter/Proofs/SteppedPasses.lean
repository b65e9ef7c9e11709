import Jitter.Proofs.PassArithmetic
import Jitter.Proofs.SteppedReadings

/-! What a calibration pass finds out about a stepped clock with a counter of whatever frequency. -/

namespace Jitter

namespace Movement

/-- What one of `n + 1` readings in a row seems to cost. -/
def readCost (v : Movement) (n : Nat) : Nat := n * v.step / (n + 1)

/-- The readings of a wait on the clock; the first may end it. -/
def waitReads (v : Movement) (cost : Nat) (ns : Int) : Nat := 1 + (ns.toNat - 2 * cost) ⌈/⌉ v.step

def passReads (v : Movement) (p : CalibrationPlan) (cost : Nat) : Nat :=
  2 * p.reads + 8 + v.waitReads cost p.interval

def window (v : Movement) (p : CalibrationPlan) (cost : Nat) : Nat :=
  (2 + v.waitReads cost p.interval) * v.step

def estimate (v : Movement) (t : Int) (window : Nat) : Nat :=
  Unsigned.saturate word64 ((v.count (t + window) - v.count t) * nanosPerSecond / window)

def counterCost (v : Movement) (n hz : Nat) (t : Int) : Int :=
  min (((v.count (v.after (n + 1) t) - v.count (v.after 1 t)) / (n + 1) * nanosPerSecond / hz : Nat))
    Signed.greatest

def rateCost (v : Movement) (rate n hz : Nat) : Nat :=
  rate * (n * v.step) / (n + 1) * nanosPerSecond / hz

def loopTime (v : Movement) (hz : Nat) (cost t : Int) : Int :=
  Signed.saturate
    (min (((v.count (v.after 2 t) - v.count (v.after 1 t)) * nanosPerSecond / hz : Nat) : Int)
      Signed.greatest - cost)

variable {v : Movement}

theorem after_sub_after {n k : Nat} {t : Int} (fewer : n ≤ k) :
    v.after k t - v.after n t = ((k - n) * v.step : Nat) := by
  have products : n * v.step ≤ k * v.step := Nat.mul_le_mul_right v.step fewer
  simp only [after, Nat.sub_mul]
  omega

theorem after_add_window {cost n : Nat} {p : CalibrationPlan} {t : Int} :
    v.after (n + (2 + v.waitReads cost p.interval)) t = v.after n t + v.window p cost := by
  simp only [after, window, Nat.add_mul]
  omega

theorem readCost_le_step (n : Nat) : v.readCost n ≤ v.step := by
  simp only [readCost]
  apply Nat.div_le_of_le_mul
  exact Nat.mul_le_mul_right v.step (Nat.le_succ n)

theorem step_sub_readCost (n : Nat) : v.step - v.readCost n = v.step ⌈/⌉ (n + 1) := by
  have positive : 0 < n + 1 := Nat.succ_pos n
  have whole : (n + 1) * v.step = n * v.step + v.step := Nat.succ_mul n v.step
  apply Nat.le_antisymm
  · have share : v.step ≤ v.step ⌈/⌉ (n + 1) * (n + 1) := le_ceilDiv_mul v.step positive
    have cost : v.step - v.step ⌈/⌉ (n + 1) ≤ v.readCost n := by
      rw [readCost, Nat.le_div_iff_mul_le positive, Nat.sub_mul, Nat.mul_comm v.step]
      omega
    omega
  · have cost : (n + 1) * v.readCost n ≤ n * v.step := Nat.mul_div_le _ _
    rw [ceilDiv_le_iff_le_mul positive, Nat.mul_sub]
    omega

theorem readCost_lt_greatest {t : Int} (nonneg : 0 ≤ t) (twice : v.after 2 t ≤ Signed.greatest)
    (n : Nat) : (v.readCost n : Int) < Signed.greatest := by
  have low := v.readCost_le_step n
  simp only [after, Signed.greatest] at *
  omega

theorem estimate_of_rate {rate wall : Nat} {t : Int} (whole : v.frequency = rate * nanosPerSecond)
    (frequency : v.frequency < word64) (nonneg : 0 ≤ t) (some : 0 < wall) :
    v.estimate t wall = v.frequency := by
  have divided : rate * wall * nanosPerSecond / wall = v.frequency := by
    rw [Nat.mul_right_comm, Nat.mul_div_cancel _ some, whole]
  rw [estimate, count_sub_of_rate whole nonneg, divided]
  exact min_eq_left (Nat.le_sub_one_of_lt frequency)

theorem counterCost_of_rate {rate : Nat} {t : Int} (whole : v.frequency = rate * nanosPerSecond)
    (nonneg : 0 ≤ t) (n hz : Nat) :
    v.counterCost n hz t = min (v.rateCost rate n hz : Int) Signed.greatest := by
  have last : v.after (n + 1) t = v.after 1 t + (n * v.step : Nat) := by
    simp only [after, Nat.add_mul]
    omega
  rw [counterCost, rateCost, last, count_sub_of_rate whole (Int.le_trans nonneg le_after)]

/-- The two roundings, to whole ticks and then to whole nanoseconds, amount to one. -/
theorem rateCost_of_exact {rate : Nat} (positive : 0 < rate)
    (whole : v.frequency = rate * nanosPerSecond) (n : Nat) :
    v.rateCost rate n v.frequency = v.readCost n := by
  rw [rateCost, whole, Nat.mul_div_mul_right _ _ (by decide), Nat.div_div_eq_div_mul,
    Nat.mul_comm (n + 1), Nat.mul_div_mul_left _ _ positive, readCost]

end Movement

def Calibration.lowerHz (hz found : Nat) : Nat := if 0 < found then min hz found else hz

namespace Stands

variable {κ : Type} {v : Movement} {cost : Nat} {t ns : Int} {x : κ} {w : SteppedClock × κ}
  {c : Calibration}

theorem waitEnd_of_fits (moves : 0 < v.step) (fits : Signed.Fits ns) (nonneg : 0 ≤ t)
    (before : v.after (v.waitReads cost ns) t ≤ Signed.greatest) :
    waitEnd v.step cost ns t = v.after (v.waitReads cost ns) t := by
  have far := le_ceilDiv_mul (ns.toNat - 2 * cost) moves
  have split : v.after (v.waitReads cost ns) t =
      t + v.step + ((ns.toNat - 2 * cost) ⌈/⌉ v.step * v.step : Nat) := by
    simp only [Movement.after, Movement.waitReads, Nat.add_mul]
    omega
  have ahead : (Signed.saturate (t + v.step + Spin.compensated cost ns) - (t + v.step)).toNat =
      ns.toNat - 2 * cost := by
    rw [split] at before
    rw [Spin.compensated_natCast cost fits]
    simp only [Signed.saturate, Signed.least, Signed.greatest] at *
    omega
  rw [waitEnd, arrival, ahead, split]

theorem waitOnClock (stands : Stands v t x w) (moves : 0 < v.step) (known : c.readCost = cost)
    (measured : c.readCost ≠ unmeasuredCost) (fits : Signed.Fits ns) (nonneg : 0 ≤ t)
    (before : v.after (v.waitReads cost ns) t ≤ Signed.greatest) :
    Completes (Spin.onMonotonicClock c ns) w fun _ =>
      Stands v (v.after (v.waitReads cost ns) t) x := by
  have same := waitEnd_of_fits moves fits nonneg before
  rw [← same, ← known] at before ⊢
  exact stands.wait moves measured before

end Stands

namespace Instrument

variable {κ : Type} {v : Movement} {cost : Nat} {t : Int} {x : κ} {p : CalibrationPlan}
  {i : Instrument (SteppedClock × κ)}

theorem measureReadCost_stands (stands : Stands v t x i.clock) (nonneg : 0 ≤ t)
    (before : v.after (p.reads + 1) t ≤ Signed.greatest) :
    Completes (measureReadCost p) i fun _ i' =>
      Stands v (v.after (p.reads + 1) t) x i'.clock ∧
        i'.calibration = { i.calibration with
          readCost := min i.calibration.readCost (v.readCost p.reads) } := by
  have start : Stands v (v.after 0 t) x i.clock := by rwa [Movement.after_zero]
  apply Completes.onClock_bind ((Stands.monotonic_foretold before).span start (Nat.le_refl _))
  intro both w read
  rw [read.1]
  dsimp only
  have elapsed : v.after (p.reads + 1) t - v.after 1 t = (p.reads * v.step : Nat) :=
    Movement.after_sub_after (Nat.le_add_left 1 p.reads)
  have fits : Signed.Fits (v.after (p.reads + 1) t - v.after 1 t) := by
    have first : t ≤ v.after 1 t := Movement.le_after
    simp only [Signed.Fits, Signed.least, Signed.greatest] at *
    omega
  apply Completes.checked_bind (Signed.sub_eq_ok.mpr ⟨fits, rfl⟩)
  have cost : perRead (v.after (p.reads + 1) t - v.after 1 t) p.reads =
      .ok (v.readCost p.reads : Int) := by
    rw [elapsed, perRead_natCast, Movement.readCost]
  apply Completes.checked_bind cost
  exact .modify ⟨read.2, rfl⟩

theorem measureFrequency_stands (stands : Stands v t x i.clock) (nonneg : 0 ≤ t)
    (moves : 0 < v.step) (frequency : v.frequency < word64) (known : i.calibration.readCost = cost)
    (measured : i.calibration.readCost ≠ unmeasuredCost) (positive : 0 < p.interval)
    (fits : Signed.Fits p.interval)
    (before : v.after (4 + v.waitReads cost p.interval) t ≤ Signed.greatest)
    (word : v.count (v.after (4 + v.waitReads cost p.interval) t) < word64) :
    Completes (measureFrequency p) i fun _ i' =>
      Stands v (v.after (4 + v.waitReads cost p.interval) t) x i'.clock ∧
        i'.calibration = { i.calibration with
          hz := Calibration.lowerHz i.calibration.hz
            (v.estimate (v.after 1 t) (v.window p cost)) } := by
  have clock := Stands.monotonic_foretold (x := x) before
  have counter := Stands.cycles_foretold (x := x) before frequency word
  have start : Stands v (v.after 0 t) x i.clock := by rwa [Movement.after_zero]
  have early : ∀ n ≤ 4 + v.waitReads cost p.interval, v.after n t ≤ Signed.greatest :=
    fun n fewer => Int.le_trans (Movement.after_le_after fewer) before
  apply Completes.calibrationNow_bind
  apply Completes.onClock_bind (counter 0 (by omega) _ start)
  intro firstCycles w₁ read₁
  apply Completes.onClock_bind (clock 1 (by omega) w₁ read₁.2)
  intro firstNs w₂ read₂
  have waiting : Completes (regardless (Spin.wait i.calibration .monotonicClock p.interval)) w₂
      fun _ w₃ => Stands v (v.after (2 + v.waitReads cost p.interval) t) x w₃ := by
    have within := early (2 + v.waitReads cost p.interval) (by omega)
    rw [← Movement.after_after] at within ⊢
    have spun := read₂.2.waitOnClock moves known measured fits
      (Int.le_trans nonneg Movement.le_after) within
    exact .regardless (.of_eq (Spin.wait_monotonicClock positive w₂) spun)
  apply Completes.onClock_bind waiting
  intro _ w₃ waited
  apply Completes.onClock_bind (counter _ (by omega) w₃ waited)
  intro lastCycles w₄ read₄
  apply Completes.onClock_bind (clock _ (by omega) w₄ read₄.2)
  intro lastNs w₅ read₅
  dsimp only at read₁ read₂ read₄ read₅
  have ends : 2 + v.waitReads cost p.interval + 1 + 1 = 2 + (2 + v.waitReads cost p.interval) ∧
      2 + v.waitReads cost p.interval + 1 = 0 + 1 + (2 + v.waitReads cost p.interval) := by omega
  rw [ends.1] at read₅
  rw [ends.2] at read₄
  have some : 0 < v.window p cost := Nat.mul_pos (by omega) moves
  have counted : lastCycles - firstCycles < word64 := by
    rw [read₄.1]
    have last : v.after (0 + 1 + (2 + v.waitReads cost p.interval)) t ≤
        v.after (4 + v.waitReads cost p.interval) t := Movement.after_le_after (by omega)
    exact Nat.lt_of_le_of_lt (Nat.le_trans (Nat.sub_le _ _) (Movement.count_le_count last)) word
  have wall : Signed.sub lastNs firstNs = .ok (v.window p cost : Int) := by
    have last := early (2 + (2 + v.waitReads cost p.interval)) (by omega)
    have first : firstNs = v.after 2 t := read₂.1
    have second : 0 ≤ v.after 2 t := Int.le_trans nonneg Movement.le_after
    rw [Movement.after_add_window] at last
    rw [Signed.sub_eq_ok, read₅.1, first, Movement.after_add_window]
    simp only [Signed.Fits, Signed.least, Signed.greatest] at *
    omega
  apply Completes.checked_bind wall
  rw [if_pos (by omega)]
  apply Completes.checked_bind (frequency_eq counted (by omega))
  have found : Unsigned.saturate word64 ((lastCycles - firstCycles) * nanosPerSecond /
      (v.window p cost : Int).toNat) = v.estimate (v.after 1 t) (v.window p cost) := by
    rw [read₄.1, read₁.1, Movement.after_add_window, Int.toNat_natCast]
    rfl
  have ended : Stands v (v.after (4 + v.waitReads cost p.interval) t) x w₅ := by
    have all : 4 + v.waitReads cost p.interval = 2 + (2 + v.waitReads cost p.interval) := by omega
    rw [all]
    exact read₅.2
  rw [found]
  by_cases ticked : 0 < v.estimate (v.after 1 t) (v.window p cost)
  · rw [if_pos ticked]
    exact .modify ⟨ended, by rw [Calibration.lowerHz, if_pos ticked]⟩
  · rw [if_neg ticked]
    exact .pure ⟨ended, by rw [Calibration.lowerHz, if_neg ticked]⟩

theorem measureCycleReadCost_stands (stands : Stands v t x i.clock) (frequency : v.frequency < word64)
    (known : i.calibration.hasFrequency = true)
    (before : v.after (p.reads + 1) t ≤ Signed.greatest)
    (word : v.count (v.after (p.reads + 1) t) < word64) :
    Completes (measureCycleReadCost p) i fun _ i' =>
      Stands v (v.after (p.reads + 1) t) x i'.clock ∧
        i'.calibration = { i.calibration with
          cycleReadCost := min i.calibration.cycleReadCost
            (v.counterCost p.reads i.calibration.hz t) } := by
  have start : Stands v (v.after 0 t) x i.clock := by rwa [Movement.after_zero]
  have reads := (Stands.cycles_foretold (x := x) before frequency word).span start (Nat.le_refl _)
  apply Completes.calibrationNow_bind
  rw [if_pos known]
  apply Completes.onClock_bind reads
  intro both w read
  rw [read.1]
  dsimp only
  apply Completes.calibrationNow_bind
  have counted : (v.count (v.after (p.reads + 1) t) - v.count (v.after 1 t)) / (p.reads + 1) <
      word64 :=
    Nat.lt_of_le_of_lt (Nat.le_trans (Nat.div_le_self _ _) (Nat.sub_le _ _)) word
  apply Completes.checked_bind (Calibration.nanos_of_known counted known)
  exact .modify ⟨read.2, rfl⟩

theorem timeLoopsInCycles_stands (stands : Stands v t x i.clock) (frequency : v.frequency < word64)
    (known : i.calibration.hasFrequency = true) (loops : Nat)
    (before : v.after 2 t ≤ Signed.greatest) (word : v.count (v.after 2 t) < word64) :
    Completes (timeLoopsInCycles loops) i fun elapsed i' =>
      elapsed = v.loopTime i.calibration.hz i.calibration.cycleReadCost t ∧
        Stands v (v.after 2 t) x i'.clock ∧ i'.calibration = i.calibration := by
  have start : Stands v (v.after 0 t) x i.clock := by rwa [Movement.after_zero]
  have reads := (Stands.cycles_foretold (x := x) before frequency word).aroundLoops start
    (fun _ _ _ stands => stands.idle) loops (Nat.le_refl _)
  apply Completes.onClock_bind reads
  intro both w read
  rw [read.1]
  apply Completes.calibrationNow_bind
  have counted : v.count (v.after 2 t) - v.count (v.after 1 t) < word64 :=
    Nat.lt_of_le_of_lt (Nat.sub_le _ _) word
  apply Completes.checked_bind (Calibration.nanos_of_known counted known)
  exact .pure ⟨rfl, read.2, rfl⟩

theorem lowerLoopCost_completes {ω : Type} {i : Instrument ω} {elapsed : Int}
    (fits : elapsed ≤ Signed.greatest) {loops : Nat} (some : loops ≠ 0) :
    Completes
      ((do
        let cost ← perLoopUnit (max elapsed 0) loops
        refine fun c => { c with loopCost := min c.loopCost cost }) : Action (Instrument ω) Unit)
      i fun _ i' => i'.clock = i.clock ∧ i'.calibration = { i.calibration with
        loopCost := min i.calibration.loopCost (loopShare elapsed loops) } :=
  .checked_bind (perLoopUnit_eq fits some) (.modify ⟨rfl, rfl⟩)

theorem measureLoopCost_stands (stands : Stands v t x i.clock) (counter : v.counter = true)
    (frequency : v.frequency < word64) (known : i.calibration.hasFrequency = true)
    (some : p.loops ≠ 0) (before : v.after 2 t ≤ Signed.greatest)
    (word : v.count (v.after 2 t) < word64) :
    Completes (measureLoopCost p) i fun _ i' =>
      Stands v (v.after 2 t) x i'.clock ∧
        i'.calibration = { i.calibration with
          loopCost := min i.calibration.loopCost
            (loopShare (v.loopTime i.calibration.hz i.calibration.cycleReadCost t) p.loops) } := by
  have there : Clock.hasCycleCounter i.clock = true := stands.counter_eq.trans counter
  have both : (Clock.hasCycleCounter i.clock && i.calibration.hasFrequency) = true := by
    rw [there, known]
    rfl
  apply Completes.get_bind
  rw [if_pos both]
  apply (timeLoopsInCycles_stands stands frequency known p.loops before word).bind
  intro elapsed i' timed
  rcases timed with ⟨rfl, now, same⟩
  apply (lowerLoopCost_completes (Signed.saturate_le _) some).mono
  intro _ i'' lowered
  rw [lowered.1, lowered.2, same]
  exact ⟨now, rfl⟩

theorem countPass_completes {ω : Type} {i : Instrument ω} (fits : i.calibration.passes + 1 < word32) :
    Completes countPass i fun _ i' =>
      i' = { i with calibration := { i.calibration with passes := i.calibration.passes + 1 } } := by
  apply Completes.calibrationNow_bind
  exact .checked_bind (Unsigned.add_of_lt fits) (.modify rfl)

/-- What a pass that begins at `t` makes of `c` once a reading is known to cost `cost`. -/
structure Measured (v : Movement) (p : CalibrationPlan) (cost : Nat) (t : Int)
    (c c' : Calibration) : Prop where
  readCost_eq : c'.readCost = cost
  hz_eq : c'.hz = Calibration.lowerHz c.hz
    (v.estimate (v.after (p.reads + 2) t) (v.window p cost))
  cycleReadCost_eq : c'.cycleReadCost = min c.cycleReadCost
    (v.counterCost p.reads c'.hz (v.after (p.reads + 5 + v.waitReads cost p.interval) t))
  loopCost_eq : c'.loopCost = min c.loopCost (loopShare (v.loopTime c'.hz c'.cycleReadCost
    (v.after (2 * p.reads + 6 + v.waitReads cost p.interval) t)) p.loops)
  passes_eq : c'.passes = c.passes + 1
  preset_eq : c'.preset = c.preset

theorem pass_stands (stands : Stands v t x i.clock) (nonneg : 0 ≤ t) (moves : 0 < v.step)
    (counter : v.counter = true) (frequency : v.frequency < word64) (valid : p.validate = .ok ())
    (fits : Signed.Fits p.interval) (few : i.calibration.passes + 1 < word32)
    (known : min i.calibration.readCost (v.readCost p.reads) = cost)
    (found : ∀ hz, hz = Calibration.lowerHz i.calibration.hz
      (v.estimate (v.after (p.reads + 2) t) (v.window p cost)) → ¬(hz = unmeasuredHz ∨ hz = 0))
    (before : v.after (v.passReads p cost) t ≤ Signed.greatest)
    (word : v.count (v.after (v.passReads p cost) t) < word64) :
    Completes (pass p) i fun _ i' =>
      Stands v (v.after (v.passReads p cost) t) x i'.clock ∧
        Measured v p cost t i.calibration i'.calibration := by
  have total : v.passReads p cost = 2 * p.reads + 8 + v.waitReads cost p.interval := rfl
  have early : ∀ n k, n + k ≤ v.passReads p cost → v.after k (v.after n t) ≤ Signed.greatest := by
    intro n k fewer
    rw [Movement.after_after]
    exact Int.le_trans (Movement.after_le_after fewer) before
  have counted : ∀ n k, n + k ≤ v.passReads p cost → v.count (v.after k (v.after n t)) < word64 := by
    intro n k fewer
    rw [Movement.after_after]
    exact Nat.lt_of_le_of_lt (Movement.count_le_count (Movement.after_le_after fewer)) word
  rcases CalibrationPlan.validate_eq_ok.mp valid with ⟨_, positive, loops, _⟩
  -- Each of the parts begins where the one before it has left the clock.
  have first := early 0 (p.reads + 1) (by omega)
  rw [Movement.after_zero] at first
  apply (measureReadCost_stands stands nonneg first).bind
  intro _ i₁ priced
  rcases priced with ⟨stands₁, found₁⟩
  have cost₁ : i₁.calibration.readCost = cost := by rw [found₁, ← known]
  have measured : i₁.calibration.readCost ≠ unmeasuredCost := by
    have twice := early 0 2 (by omega)
    rw [Movement.after_zero] at twice
    have cheap := Movement.readCost_lt_greatest nonneg twice p.reads
    rw [cost₁, ← known]
    exact ne_of_lt (Int.lt_of_le_of_lt (min_le_right _ _) cheap)
  apply Completes.get_bind
  have there : Clock.hasCycleCounter i₁.clock = true := stands₁.counter_eq.trans counter
  rw [if_pos there]
  apply (measureFrequency_stands stands₁ (Int.le_trans nonneg Movement.le_after) moves frequency cost₁
    measured positive fits (early _ _ (by omega)) (counted _ _ (by omega))).bind
  intro _ i₂ timed
  rcases timed with ⟨stands₂, found₂⟩
  rw [Movement.after_after] at stands₂ found₂
  have hz₂ : i₂.calibration.hz = Calibration.lowerHz i.calibration.hz
      (v.estimate (v.after (p.reads + 2) t) (v.window p cost)) := by
    rw [found₂, found₁]
  have frequency₂ : i₂.calibration.hasFrequency = true :=
    i₂.calibration.hasFrequency_iff.mpr (found _ hz₂)
  apply (measureCycleReadCost_stands stands₂ frequency frequency₂ (early _ _ (by omega))
    (counted _ _ (by omega))).bind
  intro _ i₃ counterPriced
  rcases counterPriced with ⟨stands₃, found₃⟩
  rw [Movement.after_after] at stands₃
  have hz₃ : i₃.calibration.hz = Calibration.lowerHz i.calibration.hz
      (v.estimate (v.after (p.reads + 2) t) (v.window p cost)) := by
    rw [found₃, hz₂]
  have frequency₃ : i₃.calibration.hasFrequency = true :=
    i₃.calibration.hasFrequency_iff.mpr (found _ hz₃)
  apply (measureLoopCost_stands stands₃ counter frequency frequency₃ loops (early _ _ (by omega))
    (counted _ _ (by omega))).bind
  intro _ i₄ looped
  rcases looped with ⟨stands₄, found₄⟩
  rw [Movement.after_after] at stands₄
  have passes₄ : i₄.calibration.passes = i.calibration.passes := by
    rw [found₄, found₃, found₂, found₁]
  apply (countPass_completes (by rw [passes₄]; exact few)).mono
  intro _ i' last
  have reads : p.reads + 1 + (4 + v.waitReads cost p.interval) + (p.reads + 1) + 2 =
      v.passReads p cost := by omega
  have begins : p.reads + 1 + (4 + v.waitReads cost p.interval) =
      p.reads + 5 + v.waitReads cost p.interval := by omega
  have loops : p.reads + 1 + (4 + v.waitReads cost p.interval) + (p.reads + 1) =
      2 * p.reads + 6 + v.waitReads cost p.interval := by omega
  rw [loops] at found₄
  rw [begins] at found₃
  rw [last]
  refine ⟨reads ▸ stands₄, ?_, ?_, ?_, ?_, ?_, ?_⟩
  · simp only [found₄, found₃, found₂, cost₁]
  · simp only [found₄, hz₃]
  · simp only [found₄, found₃, found₂, found₁]
  · simp only [found₄, found₃, found₂, found₁]
  · simp only [passes₄]
  · simp only [found₄, found₃, found₂, found₁]

end Instrument

end Jitter

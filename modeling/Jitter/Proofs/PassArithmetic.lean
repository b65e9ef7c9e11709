import Jitter.Proofs.Conversion
import Jitter.Proofs.PassLoops
import Mathlib.Tactic

/-! The arithmetic of calibration passes: it has a value for all readings that are words. -/

namespace Jitter

theorem CalibrationPlan.validate_eq_ok {p : CalibrationPlan} :
    p.validate = .ok () ↔ 100 ≤ p.reads ∧ 0 < p.interval ∧ p.loops ≠ 0 ∧ p.passes ≠ 0 := by
  simp only [validate, complaint]
  by_cases reads : p.reads < 100
  · simp [reads, Nat.not_le.mpr reads]
  · by_cases interval : p.interval ≤ 0
    · simp [reads, interval, Int.not_lt.mpr interval]
    · by_cases loops : p.loops = 0
      · simp [reads, interval, loops]
      · by_cases passes : p.passes = 0
        · simp [reads, interval, loops, passes]
        · simp [reads, interval, loops, passes, Nat.le_of_not_lt reads, Int.lt_of_not_ge interval]

namespace Instrument

theorem calibrate_of_valid {ω : Type} [Clock ω] {p : CalibrationPlan} (valid : p.validate = .ok ()) :
    (calibrate p : Action (Instrument ω) Unit) = pass p := by
  rw [calibrate, valid]
  rfl

theorem perRead_eq (elapsed : Int) (n : Nat) :
    perRead elapsed n = .ok (max (elapsed.tdiv (n + 1)) 0) := by
  have divisor : (n + 1 : Int) ≠ 0 := by omega
  rw [perRead, Signed.div, if_neg divisor]
  rfl

theorem perRead_natCast (elapsed n : Nat) : perRead elapsed n = .ok (elapsed / (n + 1) : Nat) := by
  have divided : (elapsed : Int).tdiv (n + 1) = (elapsed / (n + 1) : Nat) := by
    rw [Int.tdiv_eq_ediv_of_nonneg (by omega)]
    rfl
  rw [perRead_eq, divided, max_eq_left (Int.natCast_nonneg _)]

theorem perRead_le {elapsed : Int} {n : Nat} (reads : 100 ≤ n) (fits : Signed.Fits elapsed) :
    max (elapsed.tdiv (n + 1)) 0 ≤ Signed.greatest / 101 := by
  apply max_le
  · by_cases forward : 0 ≤ elapsed
    · rw [Int.tdiv_eq_ediv_of_nonneg forward, Int.le_ediv_iff_mul_le (by decide)]
      have share : 0 ≤ elapsed / (n + 1) := Int.ediv_nonneg forward (by omega)
      calc elapsed / (n + 1) * 101 ≤ elapsed / (n + 1) * (n + 1) :=
            Int.mul_le_mul_of_nonneg_left (by omega) share
        _ ≤ elapsed := Int.ediv_mul_le _ (by omega)
        _ ≤ Signed.greatest := fits.2
    · have backward : elapsed.tdiv (n + 1) ≤ 0 := by
        have opposite := Int.tdiv_nonneg (a := -elapsed) (b := n + 1) (by omega) (by omega)
        rw [Int.neg_tdiv] at opposite
        omega
      exact backward.trans (by decide)
  · decide

theorem frequency_eq {cycles : Nat} {wall : Int} (word : cycles < word64) (positive : 0 < wall) :
    frequency cycles wall =
      .ok (Unsigned.saturate word64 (cycles * nanosPerSecond / wall.toNat)) := by
  have divisor : wall.toNat ≠ 0 := by omega
  refine except_bind_eq_ok.mpr ⟨_, Unsigned.mul_of_lt (Calibration.mul_nanosPerSecond_lt word), ?_⟩
  exact except_bind_eq_ok.mpr ⟨_, Unsigned.div_of_ne divisor, rfl⟩

theorem perLoopUnit_natCast {cost loops : Nat} (fits : (cost : Int) ≤ Signed.greatest)
    (some : loops ≠ 0) :
    perLoopUnit cost loops = .ok (min ((cost * loopUnit / loops : Nat) : Int) Signed.greatest) := by
  simp only [perLoopUnit]
  by_cases one : loops = loopUnit
  · rw [if_pos one, one, Nat.mul_div_cancel _ (by decide), min_eq_left fits]
    rfl
  · have scaled : Signed.mulWide cost loopUnit = .ok ((cost * loopUnit : Nat) : Int) := by
      apply if_pos
      simp only [Signed.greatest, Signed.least128, Signed.greatest128, loopUnit] at *
      omega
    have divided : Signed.div (cost * loopUnit : Nat) loops = .ok ((cost * loopUnit / loops : Nat)) := by
      apply (if_neg (by omega)).trans
      rw [Int.tdiv_eq_ediv_of_nonneg (Int.natCast_nonneg _)]
      rfl
    rw [if_neg one, scaled, ← Signed.saturate_natCast]
    exact except_bind_eq_ok.mpr ⟨_, rfl, except_bind_eq_ok.mpr ⟨_, divided, rfl⟩⟩

def loopShare (elapsed : Int) (loops : Nat) : Int :=
  min ((elapsed.toNat * loopUnit / loops : Nat) : Int) Signed.greatest

theorem perLoopUnit_eq {elapsed : Int} (fits : elapsed ≤ Signed.greatest) {loops : Nat}
    (some : loops ≠ 0) : perLoopUnit (max elapsed 0) loops = .ok (loopShare elapsed loops) := by
  have short : (elapsed.toNat : Int) ≤ Signed.greatest := by
    rw [Int.toNat_eq_max]
    exact max_le fits (by decide)
  rw [← Int.toNat_eq_max, perLoopUnit_natCast short some, loopShare]

theorem loopShare_nonneg (elapsed : Int) (loops : Nat) : 0 ≤ loopShare elapsed loops :=
  le_min (Int.natCast_nonneg _) (by decide)

end Instrument

end Jitter

import Jitter.Calibration.Basic
import Jitter.Proofs.Effects
import Jitter.Proofs.Word

/-! What cycles are as nanoseconds, and nanoseconds as cycles. -/

namespace Jitter.Calibration

variable {c : Calibration}

theorem hasFrequency_iff (c : Calibration) :
    c.hasFrequency = true ↔ ¬(c.hz = unmeasuredHz ∨ c.hz = 0) := by
  simp [hasFrequency, Nat.pos_iff_ne_zero]

theorem requireFrequency_eq_ok : c.requireFrequency = .ok () ↔ c.hasFrequency = true := by
  simp only [requireFrequency]
  split
  · rename_i known
    simp [known]
  · rename_i unknown
    simp [unknown]

theorem mul_nanosPerSecond_lt {cycles : Nat} (word : cycles < word64) :
    cycles * nanosPerSecond < word128 :=
  calc cycles * nanosPerSecond < word64 * nanosPerSecond :=
        Nat.mul_lt_mul_of_pos_right word (by decide)
    _ < word128 := by decide

theorem nanos_eq_ok {cycles : Nat} {ns : Int} :
    c.nanos cycles = .ok ns ↔
      cycles * nanosPerSecond < word128 ∧ c.hz ≠ 0 ∧
        ns = min ((cycles * nanosPerSecond / c.hz : Nat) : Int) Signed.greatest := by
  rw [← Signed.saturate_natCast]
  constructor
  · intro value
    rcases except_bind_eq_ok.mp value with ⟨scaled, scaling, rest⟩
    rcases except_bind_eq_ok.mp rest with ⟨quotient, dividing, rest⟩
    rcases Unsigned.mul_eq_ok.mp scaling with ⟨fits, rfl⟩
    rcases Unsigned.div_eq_ok.mp dividing with ⟨known, rfl⟩
    cases rest
    exact ⟨fits, known, rfl⟩
  · intro conditions
    rcases conditions with ⟨fits, known, rfl⟩
    refine except_bind_eq_ok.mpr ⟨_, Unsigned.mul_of_lt fits, ?_⟩
    exact except_bind_eq_ok.mpr ⟨_, Unsigned.div_of_ne known, rfl⟩

theorem nanos_of_known {cycles : Nat} (word : cycles < word64)
    (known : c.hasFrequency = true) :
    c.nanos cycles =
      .ok (min ((cycles * nanosPerSecond / c.hz : Nat) : Int) Signed.greatest) := by
  have positive : c.hz ≠ 0 := fun zero => c.hasFrequency_iff.mp known (.inr zero)
  exact nanos_eq_ok.mpr ⟨mul_nanosPerSecond_lt word, positive, rfl⟩

theorem nanosToCycles_eq_ok {ns : Int} {cycles : Nat} :
    c.nanosToCycles ns = .ok cycles ↔
      c.hasFrequency = true ∧ ns.toNat * c.hz < word128 ∧
        cycles = min (ns.toNat * c.hz / nanosPerSecond) (word64 - 1) := by
  constructor
  · intro value
    rcases except_bind_eq_ok.mp value with ⟨_, allowed, rest⟩
    rcases except_bind_eq_ok.mp rest with ⟨scaled, scaling, rest⟩
    rcases except_bind_eq_ok.mp rest with ⟨quotient, dividing, rest⟩
    rcases Unsigned.mul_eq_ok.mp (mapError_eq_ok.mp scaling) with ⟨fits, rfl⟩
    rcases Unsigned.div_eq_ok.mp (mapError_eq_ok.mp dividing) with ⟨_, rfl⟩
    cases rest
    exact ⟨requireFrequency_eq_ok.mp (mapError_eq_ok.mp allowed), fits, rfl⟩
  · intro conditions
    rcases conditions with ⟨known, fits, rfl⟩
    refine except_bind_eq_ok.mpr ⟨(), mapError_eq_ok.mpr (requireFrequency_eq_ok.mpr known), ?_⟩
    refine except_bind_eq_ok.mpr ⟨_, mapError_eq_ok.mpr (Unsigned.mul_of_lt fits), ?_⟩
    refine except_bind_eq_ok.mpr ⟨_, mapError_eq_ok.mpr (Unsigned.div_of_ne (by decide)), ?_⟩
    rfl

theorem cyclesToNanos_eq {cycles : Nat} (word : cycles < word64) :
    c.cyclesToNanos cycles =
      if c.hasFrequency then .ok (min ((cycles * nanosPerSecond / c.hz : Nat) : Int) Signed.greatest)
      else .error (.error (.notCalibrated "cycle counter frequency")) := by
  by_cases known : c.hasFrequency = true
  · rw [if_pos known]
    refine except_bind_eq_ok.mpr ⟨(), mapError_eq_ok.mpr (requireFrequency_eq_ok.mpr known), ?_⟩
    exact mapError_eq_ok.mpr (nanos_of_known word known)
  · rw [if_neg known, cyclesToNanos, requireFrequency, if_neg known]
    rfl

theorem nanosToCycles_eq {ns : Int} (word : c.hz < word64) (fits : ns ≤ Signed.greatest) :
    c.nanosToCycles ns =
      if c.hasFrequency then .ok (min (ns.toNat * c.hz / nanosPerSecond) (word64 - 1))
      else .error (.error (.notCalibrated "cycle counter frequency")) := by
  by_cases known : c.hasFrequency = true
  · rw [if_pos known, nanosToCycles_eq_ok]
    exact ⟨known, Signed.toNat_mul_lt fits word, rfl⟩
  · rw [if_neg known, nanosToCycles, requireFrequency, if_neg known]
    rfl

theorem widened_ne_zero {x : Int} (fits : Signed.Fits x) (some : x ≠ 0) : widened x ≠ 0 := by
  simp only [widened, Signed.Fits, Signed.least, Signed.greatest, word128] at *
  omega

theorem busyLoopCount_eq {wait : Int} (loopCost : Signed.Fits c.loopCost)
    (fits : wait ≤ Signed.greatest) :
    c.busyLoopCount wait =
      if c.loopCost = unmeasuredCost then .error (.error (.notCalibrated "tight loop cost"))
      else if wait ≤ 0 then .ok 0
      else if c.loopCost = 0 then .ok (word64 - 1)
      else .ok (min (wait.toNat * loopUnit / widened c.loopCost) (word64 - 1)) := by
  simp only [busyLoopCount]
  by_cases unmeasured : c.loopCost = unmeasuredCost
  · rw [if_pos unmeasured, if_pos unmeasured]
    rfl
  · rw [if_neg unmeasured, if_neg unmeasured]
    by_cases none : wait ≤ 0
    · rw [if_pos none, if_pos none]
      rfl
    · rw [if_neg none, if_neg none]
      by_cases free : c.loopCost = 0
      · rw [if_pos free, if_pos free]
        rfl
      · have scaled : wait.toNat * loopUnit < word128 := by
          simp only [Signed.greatest, loopUnit, word128] at *
          omega
        have divided := Unsigned.div_of_ne (a := wait.toNat * loopUnit) (widened_ne_zero loopCost free)
        rw [if_neg free, if_neg free, Unsigned.mul_of_lt scaled]
        change (liftM (Unsigned.div (wait.toNat * loopUnit) (widened c.loopCost)) >>= fun count =>
          pure (Unsigned.saturate word64 count) : Except Failure Nat) = _
        rw [divided]
        rfl

end Jitter.Calibration

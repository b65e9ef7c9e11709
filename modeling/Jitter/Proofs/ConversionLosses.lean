import Jitter.Proofs.Conversion
import Mathlib.Algebra.Order.Floor.Div
import Mathlib.Tactic

/-! Nanoseconds as cycles and back again, and cycles as nanoseconds and back again: both ways round
down, so that nothing is won, and little is lost. -/

namespace Jitter

def rescaled (p q amount : Nat) : Nat := amount * p / q

variable {p q a b top : Nat}

theorem rescaled_mono (ordered : a ≤ b) : rescaled p q a ≤ rescaled p q b :=
  Nat.div_le_div_right (Nat.mul_le_mul_right p ordered)

theorem rescaled_bounds (positive : 0 < q) (a : Nat) :
    rescaled p q a * q ≤ a * p ∧ a * p < (rescaled p q a + 1) * q :=
  ⟨Nat.div_mul_le_self _ _, Nat.lt_mul_of_div_lt (Nat.lt_succ_self _) positive⟩

theorem rescaled_back_le (positive : 0 < q) (a : Nat) : rescaled q p (rescaled p q a) ≤ a := by
  apply Nat.div_le_of_le_mul
  rw [Nat.mul_comm p]
  exact (rescaled_bounds positive a).1

/-- An amount that was cut short on the way there does not come back longer. -/
theorem rescaled_back_min_le (positive : 0 < q) (a top : Nat) :
    rescaled q p (min (rescaled p q a) top) ≤ a :=
  Nat.le_trans (rescaled_mono (min_le_left _ _)) (rescaled_back_le positive a)

theorem le_rescaled_back (units : 0 < p) (positive : 0 < q) (a : Nat) :
    a ≤ rescaled q p (rescaled p q a) + q ⌈/⌉ p := by
  have there := (rescaled_bounds (p := p) positive a).2
  have back := (rescaled_bounds (p := q) units (rescaled p q a)).2
  have unit : q ≤ p * (q ⌈/⌉ p) := le_smul_ceilDiv units
  apply Nat.le_of_lt_succ
  apply Nat.lt_of_mul_lt_mul_right (a := p)
  calc a * p < rescaled p q a * q + q := by rwa [Nat.succ_mul] at there
    _ < (rescaled q p (rescaled p q a) + 1) * p + p * (q ⌈/⌉ p) := by omega
    _ = (rescaled q p (rescaled p q a) + q ⌈/⌉ p + 1) * p := by ring

namespace Calibration

variable {c : Calibration}

theorem hz_pos (known : c.hasFrequency = true) : 0 < c.hz :=
  Nat.pos_of_ne_zero fun none => c.hasFrequency_iff.mp known (.inr none)

theorem nanosToCycles_of_frequency (known : c.hasFrequency = true) (word : c.hz < word64) {ns : Int}
    (fits : ns ≤ Signed.greatest) :
    c.nanosToCycles ns = .ok (min (rescaled c.hz nanosPerSecond ns.toNat) (word64 - 1)) := by
  rw [nanosToCycles_eq word fits, if_pos known, rescaled]

theorem cyclesToNanos_of_frequency (known : c.hasFrequency = true) {cycles : Nat}
    (fits : cycles < word64) :
    c.cyclesToNanos cycles =
      .ok (min (rescaled nanosPerSecond c.hz cycles) Signed.greatest.toNat : Nat) := by
  rw [cyclesToNanos_eq fits, if_pos known, rescaled]
  congr 1
  simp only [Signed.greatest]
  omega

theorem cycles_back_to_nanos (known : c.hasFrequency = true) (word : c.hz < word64) {ns : Int}
    (nonneg : 0 ≤ ns) (fits : ns ≤ Signed.greatest) :
    ∃ cycles back, c.nanosToCycles ns = .ok cycles ∧ c.cyclesToNanos cycles = .ok back ∧
      back ≤ ns ∧
      (ns.toNat * c.hz / nanosPerSecond < word64 →
        ns - back ≤ (nanosPerSecond ⌈/⌉ c.hz : Nat)) := by
  obtain ⟨n, rfl⟩ := Int.eq_ofNat_of_zero_le nonneg
  have units : 0 < nanosPerSecond := by decide
  have least : min (rescaled c.hz nanosPerSecond n) (word64 - 1) < word64 := by
    simp only [word64]
    omega
  have short : rescaled nanosPerSecond c.hz (min (rescaled c.hz nanosPerSecond n) (word64 - 1)) ≤ n :=
    rescaled_back_min_le units n _
  refine ⟨_, _, nanosToCycles_of_frequency known word fits, cyclesToNanos_of_frequency known least,
    ?_, ?_⟩
  · simp only [Int.toNat_natCast]
    omega
  · intro whole
    have exact :
        min (rescaled c.hz nanosPerSecond n) (word64 - 1) = rescaled c.hz nanosPerSecond n := by
      simp only [rescaled, Int.toNat_natCast, word64] at *
      omega
    have loss := le_rescaled_back (hz_pos known) units n
    simp only [Int.toNat_natCast, exact, Signed.greatest] at *
    omega

theorem nanos_back_to_cycles (known : c.hasFrequency = true) (word : c.hz < word64) {cycles : Nat}
    (fits : cycles < word64) :
    ∃ ns back, c.cyclesToNanos cycles = .ok ns ∧ c.nanosToCycles ns = .ok back ∧
      back ≤ cycles ∧
      ((cycles * nanosPerSecond / c.hz : Nat) ≤ Signed.greatest →
        cycles - back ≤ c.hz ⌈/⌉ nanosPerSecond) := by
  have least : ((min (rescaled nanosPerSecond c.hz cycles) Signed.greatest.toNat : Nat) : Int) ≤
      Signed.greatest := by
    simp only [Signed.greatest]
    omega
  have short : rescaled c.hz nanosPerSecond
      (min (rescaled nanosPerSecond c.hz cycles) Signed.greatest.toNat) ≤ cycles :=
    rescaled_back_min_le (hz_pos known) cycles _
  refine ⟨_, _, cyclesToNanos_of_frequency known fits, nanosToCycles_of_frequency known word least,
    ?_, ?_⟩
  · rw [Int.toNat_natCast]
    exact Nat.le_trans (min_le_left _ _) short
  · intro whole
    have exact : min (rescaled nanosPerSecond c.hz cycles) Signed.greatest.toNat =
        rescaled nanosPerSecond c.hz cycles := by
      simp only [rescaled, Signed.greatest] at *
      omega
    have loss := le_rescaled_back (by decide : 0 < nanosPerSecond) (hz_pos known) cycles
    simp only [Int.toNat_natCast, exact, word64] at *
    omega

/-- With a known frequency every amount has a value in the other unit, and a longer one no shorter value.
An amount that comes back is no longer than it was; unless it was cut short at the end of a word, it is
shorter by no more than what one unit of the other kind stands for. -/
theorem conversions_lose_little (c : Calibration) (known : c.hasFrequency = true)
    (word : c.hz < word64) :
    (∀ ns : Int, 0 ≤ ns → ns ≤ Signed.greatest →
      ∃ cycles back, c.nanosToCycles ns = .ok cycles ∧ c.cyclesToNanos cycles = .ok back ∧
        back ≤ ns ∧
        (ns.toNat * c.hz / nanosPerSecond < word64 →
          ns - back ≤ (nanosPerSecond ⌈/⌉ c.hz : Nat))) ∧
    (∀ cycles : Nat, cycles < word64 →
      ∃ ns back, c.cyclesToNanos cycles = .ok ns ∧ c.nanosToCycles ns = .ok back ∧
        back ≤ cycles ∧
        ((cycles * nanosPerSecond / c.hz : Nat) ≤ Signed.greatest →
          cycles - back ≤ c.hz ⌈/⌉ nanosPerSecond)) ∧
    (∀ first second : Int, first ≤ second → second ≤ Signed.greatest →
      ∃ fewer more, c.nanosToCycles first = .ok fewer ∧ c.nanosToCycles second = .ok more ∧
        fewer ≤ more) ∧
    (∀ first second : Nat, first ≤ second → second < word64 →
      ∃ shorter longer, c.cyclesToNanos first = .ok shorter ∧ c.cyclesToNanos second = .ok longer ∧
        shorter ≤ longer) ∧
    ∀ ns : Int, ns ≤ 0 → c.nanosToCycles ns = .ok 0 := by
  refine ⟨fun ns nonneg fits => cycles_back_to_nanos known word nonneg fits,
    fun cycles fits => nanos_back_to_cycles known word fits, ?cycles, ?nanos, ?negative⟩
  case cycles =>
    intro first second ordered fits
    refine ⟨_, _, nanosToCycles_of_frequency known word (Int.le_trans ordered fits),
      nanosToCycles_of_frequency known word fits, ?_⟩
    exact min_le_min_right _ (rescaled_mono (Int.toNat_le_toNat ordered))
  case nanos =>
    intro first second ordered fits
    refine ⟨_, _, cyclesToNanos_of_frequency known (Nat.lt_of_le_of_lt ordered fits),
      cyclesToNanos_of_frequency known fits, ?_⟩
    exact Int.ofNat_le.mpr (min_le_min_right _ (rescaled_mono ordered))
  case negative =>
    intro ns none
    have nothing : ns.toNat = 0 := Int.toNat_of_nonpos none
    rw [nanosToCycles_of_frequency known word (Int.le_trans none (by decide)), nothing, rescaled,
      Nat.zero_mul, Nat.zero_div, Nat.zero_min]

/-- A counter that ticks a little less than three times in a nanosecond. -/
theorem microsecond_comes_back_short :
    ∃ cycles back, (ofMeasurements 20 8 2999999999 300).nanosToCycles 1000 = .ok cycles ∧
      (ofMeasurements 20 8 2999999999 300).cyclesToNanos cycles = .ok back ∧
      back < 1000 ∧ 1000 - back ≤ 1 := by
  obtain ⟨nanos, -⟩ :=
    conversions_lose_little (ofMeasurements 20 8 2999999999 300) (by decide) (by decide)
  obtain ⟨cycles, back, there, again, -, loss⟩ := nanos 1000 (by decide) (by decide)
  have short : (ofMeasurements 20 8 2999999999 300).cyclesToNanos 2999 = .ok 999 := by decide
  have counted : (ofMeasurements 20 8 2999999999 300).nanosToCycles 1000 = .ok 2999 := by decide
  obtain rfl : cycles = 2999 := Except.ok.inj (there.symm.trans counted)
  obtain rfl : back = 999 := Except.ok.inj (again.symm.trans short)
  exact ⟨2999, 999, there, again, by decide, loss (by decide)⟩

end Calibration

end Jitter

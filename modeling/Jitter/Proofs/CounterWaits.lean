import Jitter.Proofs.Conversion
import Jitter.Proofs.SteppedReadings
import Mathlib

/-! How long a wait on the cycle counter of a stepped clock takes at least. -/

namespace Jitter

theorem add_le_of_ticks_le {a d b tick : Nat} (positive : 0 < tick)
    (ticks : a / tick + d / tick ≤ b / tick) : a + d ≤ b + 2 * (tick - 1) := by
  have left : a < (a / tick + 1) * tick := Nat.lt_mul_of_div_lt (Nat.lt_succ_self _) positive
  have right : d < (d / tick + 1) * tick := Nat.lt_mul_of_div_lt (Nat.lt_succ_self _) positive
  have whole : (a / tick + d / tick) * tick ≤ b :=
    Nat.le_trans (Nat.mul_le_mul_right tick ticks) (Nat.div_mul_le_self b tick)
  rw [Nat.add_mul] at left right whole
  omega

namespace Movement

variable {v : Movement} {n : Nat} {t : Int}

/-- Before zero time may pass without a tick, but never a tick without time. -/
theorem toNat_after_le : (v.after n t).toNat ≤ t.toNat + n * v.step := by
  simp only [after]
  omega

end Movement

namespace Stands

variable {κ : Type} {v : Movement} {t ns : Int} {x : κ} {w w' : SteppedClock × κ} {c : Calibration}

theorem of_counterWait (stands : Stands v t x w) (known : c.hz = v.frequency) (some : 0 < ns)
    (target : v.count (v.after 1 t) + ns.toNat * v.frequency / nanosPerSecond < word64)
    (waited : Spin.wait c .cycleCounter ns w = .ok () w') :
    0 < v.frequency ∧ ∃ n, 2 ≤ n ∧ Stands v (v.after n t) x w' ∧
      v.count (v.after 1 t) + ns.toNat * v.frequency / nanosPerSecond ≤ v.count (v.after n t) := by
  have there : Clock.hasCycleCounter w := by
    by_contra missing
    rw [Spin.wait_cycleCounter some, Spin.onCycleCounter_of_none missing] at waited
    cases waited
  rw [Spin.wait_cycleCounter some, Spin.onCycleCounter_of_counter there] at waited
  rcases bind_eq_ok.mp waited with ⟨cycles, w₁, converted, counting⟩
  rcases Action.except_eq_ok.mp converted with ⟨value, rfl⟩
  rcases Calibration.nanosToCycles_eq_ok.mp value with ⟨frequency, -, rfl⟩
  rcases bind_eq_ok.mp counting with ⟨entry, w₂, shown, polling⟩
  rcases stands.of_readCycles shown with ⟨rfl, entered⟩
  have once : t + v.step = v.after 1 t := by rw [Movement.after_succ, Movement.after_zero]
  rw [once] at entered polling
  rcases entered.of_readUntil polling with ⟨n, positive, ended, reached⟩
  rw [Movement.after_after] at ended reached
  refine ⟨?_, 1 + n, by omega, ended, ?_⟩
  · have nonzero := c.hasFrequency_iff.mp frequency
    omega
  · rw [known] at reached
    have word : v.count (v.after 1 t) < word64 := Nat.lt_of_le_of_lt (Nat.le_add_right _ _) target
    rw [Nat.mod_eq_of_lt word] at reached
    simp only [Unsigned.saturate, word64] at *
    omega

/-- A wait on the counter, and the reading that begins it, end less than two ticks early: rounded down
are the time to wait and the count at its end. Where a reading takes two ticks the wait is never too
short, nor is it where a nanosecond is made up of whole ticks. -/
theorem counter_wait_nearly_long_enough (stands : Stands v t x w) (known : c.hz = v.frequency)
    (some : 0 < ns)
    (target : v.count (v.after 1 t) + ns.toNat * v.frequency / nanosPerSecond < word64)
    (waited : Spin.wait c .cycleCounter ns w = .ok () w') :
    ∃ n, 2 ≤ n ∧ Stands v (v.after n t) x w' ∧
      (ns.toNat + v.step) * v.frequency ≤ n * v.step * v.frequency + 2 * (nanosPerSecond - 1) ∧
      (2 * (nanosPerSecond - 1) ≤ v.step * v.frequency → ns ≤ (n * v.step : Nat)) ∧
      (nanosPerSecond ∣ v.frequency → ns + v.step ≤ (n * v.step : Nat)) := by
  rcases stands.of_counterWait known some target waited with ⟨frequency, n, twice, ended, reached⟩
  have later : (v.after n t).toNat ≤ (v.after 1 t).toNat + (n - 1) * v.step := by
    have split : v.after (n - 1) (v.after 1 t) = v.after n t := by
      rw [Movement.after_after]
      congr 1
      omega
    rw [← split]
    exact Movement.toNat_after_le
  have steps : (n - 1) * v.step + v.step = n * v.step := by
    rw [← Nat.succ_mul]
    congr 1
    omega
  have nearly : (ns.toNat + v.step) * v.frequency ≤
      n * v.step * v.frequency + 2 * (nanosPerSecond - 1) := by
    have rounded := add_le_of_ticks_le (by decide) reached
    have elapsed := Nat.mul_le_mul_right v.frequency later
    rw [← steps]
    simp only [Nat.add_mul] at *
    omega
  refine ⟨n, twice, ended, nearly, ?_, ?_⟩
  · intro coarse
    have whole : ns.toNat * v.frequency ≤ n * v.step * v.frequency := by
      rw [Nat.add_mul] at nearly
      omega
    have long := Nat.le_of_mul_le_mul_right whole frequency
    omega
  · intro divides
    rcases divides with ⟨rate, whole⟩
    rw [Nat.mul_comm] at whole
    have positive : 0 < rate := Nat.pos_of_ne_zero fun none => by simp [none] at whole; omega
    have exact : ns.toNat * v.frequency / nanosPerSecond = ns.toNat * rate := by
      rw [whole, ← Nat.mul_assoc, Nat.mul_div_cancel _ (by decide)]
    rw [exact, Movement.count_of_rate whole, Movement.count_of_rate whole, ← Nat.add_mul] at reached
    have long := Nat.le_of_mul_le_mul_right reached positive
    omega

/-- With four nanoseconds to a tick, and a reading every ten. -/
theorem wait_with_readings_of_two_ticks :
    ∃ w w' : SteppedClock × Unit,
      Spin.wait (.ofMeasurements 9 9 250000000 100) .cycleCounter 35 w = .ok () w' ∧
        w.1 = .new 10 250000000 ∧ 35 ≤ w'.1.now - w.1.now := by
  let v : Movement := ⟨10, 250000000, true⟩
  let w : SteppedClock × Unit := (.new 10 250000000, ())
  let w' : SteppedClock × Unit := ({ w.1 with now := 1000000040, reads := 4 }, ())
  have stands : Stands v 1000000000 () w := ⟨rfl, rfl, rfl, rfl, rfl, by decide⟩
  have waited : Spin.wait (.ofMeasurements 9 9 250000000 100) .cycleCounter 35 w = .ok () w' := by
    cbv
  have target : v.count (v.after 1 1000000000) +
      (35 : Int).toNat * v.frequency / nanosPerSecond < word64 := by decide
  rcases counter_wait_nearly_long_enough stands rfl (by decide) target waited with
    ⟨n, -, ended, -, long, -⟩
  have enough : (35 : Int) ≤ (n * v.step : Nat) := long (by decide)
  refine ⟨w, w', waited, rfl, ?_⟩
  rw [ended.now_eq, stands.now_eq, Movement.after]
  omega

/-- With a hundred nanoseconds to a tick, a wait for 299 of them is one for two ticks. -/
theorem wait_of_three_ticks_cut_short :
    ∃ (c : Calibration) (w w' : SteppedClock), w = .new 10 10000000 ∧ c.hz = w.frequency ∧
      Spin.wait c .cycleCounter 299 w = .ok () w' ∧ w'.now - w.now = 200 := by
  let w : SteppedClock := .new 10 10000000
  have waited : Spin.wait (.ofMeasurements 10 10 10000000 100) .cycleCounter 299 w =
      .ok () { w with now := 1000000200, reads := 20 } := by
    cbv
  exact ⟨.ofMeasurements 10 10 10000000 100, w, _, rfl, rfl, waited, rfl⟩

end Stands

end Jitter

import Jitter.Proofs.Readiness
import Jitter.Proofs.SteppedPasses
import Mathlib

/-! Whether the counter of a stepped clock can be used after a pass. -/

namespace Jitter

theorem Calibration.ensureReady_cycleCounter {c : Calibration} :
    c.ensureReady .cycleCounter = .ok () ↔
      c.readCost ≠ unmeasuredCost ∧ ¬(c.hz = unmeasuredHz ∨ c.hz = 0) ∧
        c.cycleReadCost ≠ unmeasuredCost := by
  rw [ensureReady_eq_ok]
  simp only [gaps, List.append_eq_nil_iff, ite_eq_right_iff, List.cons_ne_nil, imp_false, ne_eq]

namespace Instrument

variable {κ : Type} {v : Movement} {p : CalibrationPlan} {t : Int} {x : κ} {cost rate : Nat}
  {i : Instrument (SteppedClock × κ)}

theorem calibrate_of_rate (stands : Stands v t x i.clock) (nonneg : 0 ≤ t) (moves : 0 < v.step)
    (counter : v.counter = true) (positive : 0 < rate)
    (whole : v.frequency = rate * nanosPerSecond) (frequency : v.frequency < word64)
    (valid : p.validate = .ok ()) (fits : Signed.Fits p.interval)
    (few : i.calibration.passes + 1 < word32) (some : 0 < i.calibration.hz)
    (known : min i.calibration.readCost (v.readCost p.reads) = cost)
    (before : v.after (v.passReads p cost) t ≤ Signed.greatest)
    (word : v.count (v.after (v.passReads p cost) t) < word64) :
    Completes (calibrate p) i fun _ i' =>
      i'.calibration.readCost ≠ unmeasuredCost ∧
        i'.calibration.hz = min i.calibration.hz v.frequency ∧
        i'.calibration.cycleReadCost = min i.calibration.cycleReadCost
          (min (v.rateCost rate p.reads (min i.calibration.hz v.frequency) : Int)
            Signed.greatest) := by
  have wide : 0 < v.window p cost := Nat.mul_pos (by omega) moves
  have estimated : v.estimate (v.after (p.reads + 2) t) (v.window p cost) = v.frequency :=
    Movement.estimate_of_rate whole frequency (Int.le_trans nonneg Movement.le_after) wide
  have ticks := Movement.frequency_pos positive whole
  have lowered : Calibration.lowerHz i.calibration.hz v.frequency =
      min i.calibration.hz v.frequency := if_pos ticks
  have found := Movement.min_frequency_known positive whole frequency some
  have measured := pass_stands stands nonneg moves counter frequency valid fits few known (by
    rw [estimated, lowered]
    exact fun _ same => same ▸ found) before word
  apply Completes.refusal_bind valid
  apply measured.mono
  intro _ i' done
  have hz : i'.calibration.hz = min i.calibration.hz v.frequency := by
    rw [done.2.hz_eq, estimated, lowered]
  refine ⟨?_, hz, ?_⟩
  · have twice : v.after 2 t ≤ Signed.greatest :=
      Int.le_trans (Movement.after_le_after (by unfold Movement.passReads; omega)) before
    have cheap := Movement.readCost_lt_greatest nonneg twice p.reads
    rw [done.2.readCost_eq, ← known]
    exact ne_of_lt (Int.lt_of_le_of_lt (min_le_right _ _) cheap)
  · rw [done.2.cycleReadCost_eq, hz,
      Movement.counterCost_of_rate whole (Int.le_trans nonneg Movement.le_after)]

/-- After a pass over a counter of whole cycles per nanosecond, a calibration that knew of some
frequency lacks at most the cost of its readings: where none was known before, and where it seems to be
a word of nanoseconds or more at the lower of the two frequencies. -/
theorem calibrate_readies_counter (stands : Stands v t x i.clock) (nonneg : 0 ≤ t)
    (moves : 0 < v.step) (counter : v.counter = true) (positive : 0 < rate)
    (whole : v.frequency = rate * nanosPerSecond) (frequency : v.frequency < word64)
    (valid : p.validate = .ok ()) (fits : Signed.Fits p.interval)
    (few : i.calibration.passes + 1 < word32) (some : 0 < i.calibration.hz)
    (known : min i.calibration.readCost (v.readCost p.reads) = cost)
    (held : i.calibration.cycleReadCost ≤ Signed.greatest)
    (before : v.after (v.passReads p cost) t ≤ Signed.greatest)
    (word : v.count (v.after (v.passReads p cost) t) < word64) :
    ∃ i', calibrate p i = .ok () i' ∧
      (i'.calibration.ensureReady .cycleCounter = .ok () ↔
        i.calibration.cycleReadCost ≠ unmeasuredCost ∨
          v.rateCost rate p.reads (min i.calibration.hz v.frequency) < Signed.greatest) := by
  rcases calibrate_of_rate stands nonneg moves counter positive whole frequency valid fits few some
    known before word with ⟨⟨⟩, i', ran, readCost, hz, counterCost⟩
  have lower : i'.calibration.cycleReadCost ≤ Signed.greatest := by
    rw [counterCost]
    exact Int.le_trans (min_le_left _ _) held
  have told : i'.calibration.cycleReadCost ≠ unmeasuredCost ↔
      i.calibration.cycleReadCost ≠ unmeasuredCost ∨
        v.rateCost rate p.reads (min i.calibration.hz v.frequency) < Signed.greatest := by
    rw [← lower.lt_iff_ne, ← held.lt_iff_ne, counterCost, min_lt_iff, min_lt_iff]
    simp only [lt_irrefl, or_false]
  refine ⟨i', ran, ?_⟩
  rw [Calibration.ensureReady_cycleCounter, hz, ← told]
  have found := Movement.min_frequency_known positive whole frequency some
  exact ⟨fun ready => ready.2.2, fun last => ⟨readCost, found, last⟩⟩

/-- A preset frequency above the true one, with no cost of a reading. -/
theorem counter_ready_after_pass :
    ∃ i i' : Instrument (SteppedClock × Unit), i.clock.1 = .new 10 2000000000 ∧
      i.calibration = .ofMeasurements 5 unmeasuredCost 3000000000 0 ∧
      calibrate ⟨100, 300, 1000, 1⟩ i = .ok () i' ∧
      i'.calibration.ensureReady .cycleCounter = .ok () := by
  let v : Movement := ⟨10, 2000000000, true⟩
  let i : Instrument (SteppedClock × Unit) :=
    ⟨(.new 10 2000000000, ()), .ofMeasurements 5 unmeasuredCost 3000000000 0⟩
  have stands : Stands v 1000000000 () i.clock := ⟨rfl, rfl, rfl, rfl, rfl, by decide⟩
  have interval : Signed.Fits 300 := by decide
  have known : min (5 : Int) (v.readCost 100) = (5 : Nat) := by decide
  have time : v.after (v.passReads ⟨100, 300, 1000, 1⟩ 5) 1000000000 ≤ Signed.greatest := by
    dsimp only [v]
    decide +kernel
  have cycles : v.count (v.after (v.passReads ⟨100, 300, 1000, 1⟩ 5) 1000000000) < word64 := by
    dsimp only [v]
    decide +kernel
  have positive : 0 < 2 := by decide
  have cost : v.rateCost 2 100 (min 3000000000 2000000000) < Signed.greatest := by decide
  rcases calibrate_readies_counter (p := ⟨100, 300, 1000, 1⟩) stands (by decide) (by decide) rfl
    positive rfl (by decide) rfl interval (by decide) (by decide) known (Int.le_refl _) time
    cycles with ⟨i', ran, ready⟩
  exact ⟨i, i', rfl, rfl, ran, ready.mpr (.inr cost)⟩

set_option maxRecDepth 4000 in
/-- The minimum keeps a frequency of none, a cost that no word holds is as good as unknown, and before
zero a counter stands still. -/
theorem counter_not_ready_after_pass :
    (∃ i i' : Instrument SteppedClock, i.clock = .new 10 nanosPerSecond ∧
      i.calibration = .ofMeasurements 10 10 0 100 ∧
      calibrate ⟨100, 300, 1000, 1⟩ i = .ok () i' ∧
      i'.calibration.ensureReady .cycleCounter =
        .error (.notCalibrated "cycle counter frequency")) ∧
    (∃ i i' : Instrument SteppedClock, i.clock = .new 10000000000 nanosPerSecond ∧
      i.calibration = .ofMeasurements 10 unmeasuredCost 1 100 ∧
      calibrate ⟨100, 300, 1000, 1⟩ i = .ok () i' ∧
      i'.calibration.ensureReady .cycleCounter =
        .error (.notCalibrated "cycle counter read cost")) ∧
    ∃ i i' : Instrument SteppedClock,
      i.clock = (SteppedClock.new 10 nanosPerSecond).advance (-5000000001000000000) ∧
      i.calibration = .ofMeasurements 10 10 unmeasuredHz 100 ∧
      calibrate ⟨100, 300, 1000, 1⟩ i = .ok () i' ∧
      i'.calibration.ensureReady .cycleCounter =
        .error (.notCalibrated "cycle counter frequency") := by
  let zero : Instrument SteppedClock := ⟨.new 10 nanosPerSecond, .ofMeasurements 10 10 0 100⟩
  let slow : Instrument SteppedClock :=
    ⟨.new 10000000000 nanosPerSecond, .ofMeasurements 10 unmeasuredCost 1 100⟩
  let early : Instrument SteppedClock :=
    ⟨(SteppedClock.new 10 nanosPerSecond).advance (-5000000001000000000),
      .ofMeasurements 10 10 unmeasuredHz 100⟩
  have kept : calibrate ⟨100, 300, 1000, 1⟩ zero = .ok ()
      ⟨{ zero.clock with now := 1000001370, reads := 137 }, ⟨9, 10, 0, 1, 1, true⟩⟩ := by
    cbv
  have dear : calibrate ⟨100, 300, 1000, 1⟩ slow = .ok ()
      ⟨{ slow.clock with now := 2101000000000, reads := 210 },
        ⟨10, unmeasuredCost, 1, 0, 1, true⟩⟩ := by
    cbv
  have still : calibrate ⟨100, 300, 1000, 1⟩ early = .ok ()
      ⟨{ early.clock with now := -4999999999999998630, reads := 137 },
        ⟨9, 10, unmeasuredHz, 1, 1, true⟩⟩ := by
    cbv
  exact ⟨⟨zero, _, rfl, rfl, kept, rfl⟩, ⟨slow, _, rfl, rfl, dear, rfl⟩,
    ⟨early, _, rfl, rfl, still, rfl⟩⟩

end Instrument

end Jitter

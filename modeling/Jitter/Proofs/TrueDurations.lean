import Jitter.Proofs.RunSamples
import Jitter.Proofs.SteppedRun
import Mathlib

/-! A calibrated meter on a stepped clock records how long its operation really takes. -/

namespace Jitter.Meter

open Tempo

variable {g : Tempo} {κ : Type} {t : Int} {x : κ} {m : Meter (SteppedClock × κ)} {c : Calibration}
  {h : Histogram} {plan : RunPlan} {op : Operation (SteppedClock × κ)} {a : Nat → Nat}
  {before : Nat → κ → Prop} {i n : Nat}

/-- The time of a call and a share of the step before and after it. -/
def trueSample (g : Tempo) (n : Nat) (a : Nat → Nat) (i : Nat) : Nat := a i + g.step ⌈/⌉ (n + 1)

theorem trueSample_lt (nonneg : 0 ≤ t) (range : g.InRange (g.readCost n) plan a t)
    (within : i < plan.warmup + plan.measured) : trueSample g n a i < word64 := by
  have share : g.step ⌈/⌉ (n + 1) ≤ g.step := ceilDiv_le_self (Nat.succ_pos n)
  have begins : t + i ≤ g.turnStart (g.readCost n) plan a t i := add_le_turnStart i
  have ends : g.turnStart (g.readCost n) plan a t (i + 1) ≤ Signed.greatest :=
    Int.le_trans (turnStart_strictMono.monotone within) range.time
  have second : g.secondReading (g.turnStart (g.readCost n) plan a t i) (a i) ≤ Signed.greatest :=
    Int.le_trans le_pausedUntil ends
  have first : g.turnStart (g.readCost n) plan a t i ≤
      g.after 1 (g.turnStart (g.readCost n) plan a t i) := le_after
  rw [secondReading_eq] at second
  simp only [trueSample, Signed.greatest, word64] at *
  omega

theorem turns_lt (nonneg : 0 ≤ t) (range : g.InRange (g.readCost n) plan a t) :
    plan.warmup + plan.measured < word64 := by
  have ends : t + (plan.warmup + plan.measured : Nat) ≤ Signed.greatest :=
    Int.le_trans (add_le_turnStart _) range.time
  simp only [Signed.greatest, word64] at *
  omega

theorem accumulateAll_trueSamples {width count : Nat} (described : h.Describes width count 0)
    (nonneg : 0 ≤ t) (range : g.InRange (g.readCost n) plan a t) :
    ∃ h', h.accumulateAll ((List.range' plan.warmup plan.measured).map (trueSample g n a)) =
      .ok h' := by
  have words : ∀ y ∈ (List.range' plan.warmup plan.measured).map (trueSample g n a),
      y < word64 := by
    intro y member
    rcases List.mem_map.mp member with ⟨j, inside, rfl⟩
    rcases List.mem_range'_1.mp inside with ⟨_, below⟩
    exact trueSample_lt nonneg range below
  have few : (0 : Multiset Nat).card +
      ((List.range' plan.warmup plan.measured).map (trueSample g n a)).length < word64 := by
    have turns := turns_lt nonneg range
    rw [List.length_map, List.length_range', Multiset.card_zero]
    omega
  rcases described.accumulateAll words (by simp) few with ⟨h', all, _⟩
  exact ⟨h', all⟩

theorem measures_of_exact (advances : Advances op a before) (exact : g.Exact n c)
    (pause : Signed.Fits plan.pause) (range : g.InRange (g.readCost n) plan a t) :
    Measures op plan c (trueSample g n a) fun i w =>
      ∃ x, before i x ∧ g.Shows (g.turnStart (g.readCost n) plan a t i) x w := by
  intro i within w here
  rcases here with ⟨x, called, shown⟩
  have ends : g.turnStart (g.readCost n) plan a t (i + 1) ≤ Signed.greatest :=
    Int.le_trans (turnStart_strictMono.monotone within) range.time
  exact sample_completes advances shown called exact pause ends fun counted =>
    range.cycles counted i within

theorem objections_of_exact (exact : g.Exact n m.calibration)
    (cheap : (g.readCost n : Int) < unmeasuredCost) (there : Clock.hasCycleCounter m.clock = true)
    (sized : 0 < m.histogram.count) (few : plan.warmup + plan.measured < word64) :
    objections plan m = [] := by
  have known : ¬(m.calibration.hz = unmeasuredHz ∨ m.calibration.hz = 0) :=
    m.calibration.hasFrequency_iff.mp (hasFrequency_of_known exact.hz_eq)
  have readCost : m.calibration.readCost ≠ unmeasuredCost := by
    rw [exact.readCost_eq]
    exact ne_of_lt cheap
  have cycleReadCost : m.calibration.cycleReadCost ≠ unmeasuredCost := by
    rw [exact.cycleReadCost_eq]
    exact ne_of_lt cheap
  have gaps : m.calibration.gaps plan.timebase = [] := by
    simp only [Calibration.gaps]
    rw [if_neg readCost]
    cases plan.timebase with
    | monotonicClock => rfl
    | cycleCounter =>
        dsimp only
        rw [if_neg known, if_neg cycleReadCost]
        rfl
  have present : ¬(plan.timebase = .cycleCounter ∧ Clock.hasCycleCounter m.clock = false) := by
    rw [there]
    simp
  rw [objections, obstacles, if_neg present, gaps, if_neg (Nat.pos_iff_ne_zero.mp sized),
    RunPlan.excess, if_neg (Nat.not_le.mpr few)]
  rfl

/-- After calibration, a run on either timebase and with any pause between its turns records for
each measured call the time that it takes and one share of a step, in the order of the calls. The
clock shows a time that is not negative, and all its times and counts stay words. -/
theorem calibrated_run_records_durations {p : CalibrationPlan} {width count : Nat}
    (shown : g.Shows t x m.clock) (new : m.calibration = .new)
    (sized : Histogram.withBuckets width count = .ok m.histogram) (valid : p.validate = .ok ())
    (interval : Signed.Fits p.interval) (passes : p.passes < word32)
    (calibrationTime : g.calibrationEnd p t ≤ Signed.greatest)
    (calibrationCount : g.count (g.calibrationEnd p t) < word64)
    (advances : Advances op a before) (called : before 0 x) (pause : Signed.Fits plan.pause)
    (range : g.InRange (g.readCost p.reads) plan a (g.calibrationEnd p t)) :
    ∃ m₁ m₂, calibratePasses p m = .ok () m₁ ∧
      m₁.clock.1.now = g.calibrationEnd p t ∧ m₁.histogram = m.histogram ∧
      run plan op m₁ = .ok ⟨plan.warmup + plan.measured, plan.measured⟩ m₂ ∧
      m₂.clock.1.now = g.turnStart (g.readCost p.reads) plan a (g.calibrationEnd p t)
        (plan.warmup + plan.measured) ∧
      m.histogram.accumulateAll ((List.range' plan.warmup plan.measured).map fun i =>
        a i + g.step ⌈/⌉ (p.reads + 1)) = .ok m₂.histogram := by
  rcases Instrument.calibratePasses_completes shown new valid interval passes calibrationTime
    calibrationCount with ⟨⟨⟩, j, tuned, settled⟩
  have calibrated : calibratePasses p m = .ok () { m with toInstrument := j } := by
    rw [calibratePasses_eq_onInstrument]
    exact onInstrument_of_ok tuned
  have exact : g.Exact p.reads j.calibration :=
    settled.exact_of_pos (Nat.pos_of_ne_zero (CalibrationPlan.validate_eq_ok.mp valid).2.2.2)
  have cheap := readCost_lt_of_calibrated valid shown.nonneg calibrationTime
  have now : g.Shows (g.calibrationEnd p t) x j.clock := settled.shows
  rcases Histogram.withBuckets_describes sized with ⟨some, described⟩
  have buckets : 0 < m.histogram.count := by
    rw [Histogram.count, described.size_eq]
    exact some
  have clear : objections plan { m with toInstrument := j } = [] :=
    objections_of_exact exact cheap now.counter_eq buckets (turns_lt now.nonneg range)
  have measures := measures_of_exact advances exact pause range
  have outcome := measures.run (m := { m with toInstrument := j }) clear ⟨x, called, now⟩
  rcases accumulateAll_trueSamples described now.nonneg range with ⟨h, taken⟩
  cases ran : run plan op { m with toInstrument := j } with
  | error e m₂ =>
      -- Only the histogram could break the run off, and it has room.
      rcases outcome.of_error ran with ⟨f, -, full⟩
      cases taken.symm.trans full
  | ok stats m₂ =>
      rcases outcome.of_ok ran with ⟨rfl, recorded, -, _, -, last⟩
      exact ⟨_, m₂, calibrated, now.now_eq, rfl, ran, last.now_eq, recorded⟩

theorem durations_of_two_calls :
    ∃ (m m₁ m₂ : Meter (SteppedClock × Nat)) (op : Operation (SteppedClock × Nat)),
      calibratePasses ⟨100, 300, 5, 2⟩ m = .ok () m₁ ∧
        run ⟨1, 2, 35, .cycleCounter⟩ op m₁ = .ok ⟨3, 2⟩ m₂ ∧
        m.histogram.accumulateAll [101, 201] = .ok m₂.histogram := by
  let g : Tempo := ⟨10, 2, by decide, by decide, by decide⟩
  let m : Meter (SteppedClock × Nat) :=
    { clock := (.new 10 2000000000, 0), calibration := .new
      histogram := .blank 50 (by decide) (Array.replicate 10 0), notices := [] }
  let op : Operation (SteppedClock × Nat) := fun w => (w.1.advance (100 * w.2 : Nat), w.2 + 1)
  have advances : Advances op (fun i => 100 * i) fun i calls => calls = i := by
    constructor
    · intro i c calls same
      rw [← same]
    · intro i c calls same
      rw [← same]
  have shown : g.Shows 1000000000 0 m.clock := ⟨rfl, rfl, by decide, rfl, rfl, by decide⟩
  have sized : Histogram.withBuckets 50 10 = .ok m.histogram := rfl
  have valid : CalibrationPlan.validate ⟨100, 300, 5, 2⟩ = .ok () := rfl
  have passes : CalibrationPlan.passes ⟨100, 300, 5, 2⟩ < word32 := by decide
  have interval : Signed.Fits (CalibrationPlan.interval ⟨100, 300, 5, 2⟩) := by decide
  have time : g.calibrationEnd ⟨100, 300, 5, 2⟩ 1000000000 ≤ Signed.greatest := by
    dsimp only [g]
    decide +kernel
  have cycles : g.count (g.calibrationEnd ⟨100, 300, 5, 2⟩ 1000000000) < word64 := by
    dsimp only [g]
    decide +kernel
  have pause : Signed.Fits (RunPlan.pause ⟨1, 2, 35, .cycleCounter⟩) := by decide
  have range : g.InRange (g.readCost 100) ⟨1, 2, 35, .cycleCounter⟩ (fun i => 100 * i)
      (g.calibrationEnd ⟨100, 300, 5, 2⟩ 1000000000) := by
    dsimp only [g]
    constructor
    · decide +kernel
    · intro _
      decide +kernel
  rcases calibrated_run_records_durations shown rfl sized valid interval passes time cycles advances
    rfl pause range with ⟨m₁, m₂, calibrated, _, _, ran, _, recorded⟩
  have samples : (List.range' 1 2).map (fun i => 100 * i + g.step ⌈/⌉ (100 + 1)) = [101, 201] := by
    dsimp only [g]
    decide +kernel
  rw [← samples]
  exact ⟨m, m₁, m₂, op, calibrated, ran, recorded⟩

set_option maxRecDepth 4000 in
/-- Before zero a counter stands still, so that no frequency is found, and two times may be more
than a word apart. -/
theorem negative_time_not_recorded :
    ∃ m m₁ m₂ : Meter SteppedClock, ∃ p : CalibrationPlan,
      m.clock = (SteppedClock.new 10 nanosPerSecond).advance (-5000000001000000000) ∧
        m.calibration = .new ∧ Histogram.withBuckets 10 10 = .ok m.histogram ∧
        p.validate = .ok () ∧ calibratePasses p m = .ok () m₁ ∧
        run ⟨0, 1, 0, .cycleCounter⟩ (SteppedClock.advance 50) m₁ =
          .error (.error (.notCalibrated "cycle counter frequency")) m₁ ∧
        run ⟨0, 1, 0, .monotonicClock⟩ (SteppedClock.advance Signed.greatest) m₁ =
          .error (.fault .subOverflow) m₂ ∧
        Signed.Fits m₂.clock.now := by
  let m : Meter SteppedClock :=
    { clock := (SteppedClock.new 10 nanosPerSecond).advance (-5000000001000000000)
      calibration := .new, histogram := .blank 10 (by decide) (Array.replicate 10 0)
      notices := [] }
  let m₁ : Meter SteppedClock :=
    { m with
      clock := { m.clock with now := -4999999999999998630, reads := 137 }
      calibration := ⟨9, unmeasuredCost, unmeasuredHz, 200, 1, false⟩ }
  let m₂ : Meter SteppedClock :=
    { m₁ with
      clock := { m₁.clock with now := 4223372036854777197, reads := 139 }, notices := [.fewPasses] }
  have calibrated : calibratePasses ⟨100, 300, 5, 1⟩ m = .ok () m₁ := by
    cbv
  have uncounted : run ⟨0, 1, 0, .cycleCounter⟩ (SteppedClock.advance 50) m₁ =
      .error (.error (.notCalibrated "cycle counter frequency")) m₁ := by
    cbv
  have apart : run ⟨0, 1, 0, .monotonicClock⟩ (SteppedClock.advance Signed.greatest) m₁ =
      .error (.fault .subOverflow) m₂ := by
    cbv
  exact ⟨m, m₁, m₂, ⟨100, 300, 5, 1⟩, rfl, rfl, rfl, rfl, calibrated, uncounted, apart, by decide⟩

end Jitter.Meter

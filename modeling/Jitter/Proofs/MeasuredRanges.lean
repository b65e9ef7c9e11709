import Jitter.Proofs.CalibrationPasses
import Jitter.Proofs.PlotFile
import Jitter.Proofs.ReportRanges

/-! What the program measures is within the words that it is kept in. -/

namespace Jitter

namespace Calibration

variable {c c' c'' : Calibration}

structure Advanced (passes : Nat) (c c' : Calibration) : Prop where
  refined : Refined { c with passes := 0 } { c' with passes := 0 }
  passes_eq : c'.passes = c.passes + passes

theorem Advanced.refl (c : Calibration) : Advanced 0 c c := ⟨.refl _, rfl⟩

theorem Advanced.trans {m n : Nat} (first : Advanced m c c') (second : Advanced n c' c'') :
    Advanced (m + n) c c'' where
  refined := first.refined.trans second.refined
  passes_eq := by rw [second.passes_eq, first.passes_eq, Nat.add_assoc]

theorem Refined.uncounted (refined : Refined c c') :
    Refined { c with passes := 0 } { c' with passes := 0 } :=
  { refined with
    passes_eq := rfl
    sound := fun sound =>
      have whole : c.Sound := { sound with }
      { refined.sound whole with } }

theorem Advanced.inRange {n : Nat} (advanced : Advanced n .new c) (few : n < word32) :
    c.InRange := by
  obtain ⟨readCost, cycleReadCost, hz, loopCost, -, -, sound⟩ := advanced.refined
  have measured := sound { new_sound with }
  have fits {cost : Int} (nonneg : 0 ≤ cost) (most : cost ≤ Signed.greatest) : Signed.Fits cost :=
    ⟨(by decide : Signed.least ≤ 0).trans nonneg, most⟩
  refine ⟨fits measured.readCost_nonneg readCost, fits measured.cycleReadCost_nonneg cycleReadCost,
    Nat.lt_of_le_of_lt hz (by decide), fits measured.loopCost_nonneg loopCost, ?_⟩
  rw [advanced.passes_eq]
  simpa [new] using few

end Calibration

open Calibration (Advanced)

namespace Instrument

variable {ω : Type} [Clock ω] {i i' : Instrument ω}

omit [Clock ω] in
theorem Passed.advanced {c : Calibration} (passed : Passed c i) : Advanced 1 c i.calibration := by
  rcases passed with ⟨c', refined, -, same⟩
  rw [same]
  exact ⟨refined.uncounted, rfl⟩

theorem passes_advanced (counts : Counts ω) {p : CalibrationPlan} (valid : p.validate = .ok ())
    {n : Nat} (ran : repeatedly (pass p) n i = .ok () i') :
    Advanced n i.calibration i'.calibration := by
  obtain ⟨reads, -, loops, -⟩ := CalibrationPlan.validate_eq_ok.mp valid
  induction n generalizing i with
  | zero =>
      cases ran
      exact .refl _
  | succ n ih =>
      rcases bind_eq_ok.mp ran with ⟨_, between, once, ran⟩
      rw [Nat.add_comm]
      exact ((pass_ends counts reads loops i).of_ok once).advanced.trans (ih ran)

theorem calibratePasses_advanced (counts : Counts ω) {p : CalibrationPlan}
    (ran : calibratePasses p i = .ok () i') : Advanced p.passes i.calibration i'.calibration := by
  rcases bind_eq_ok.mp ran with ⟨_, _, accepted, ran⟩
  rcases Action.refusal_eq_ok.mp accepted with ⟨valid, rfl⟩
  exact passes_advanced counts valid ran

end Instrument

theorem SteppedClock.counts : Counts SteppedClock := by
  intro c n c' shown
  rcases bind_eq_ok.mp shown with ⟨now, c'', -, shown⟩
  simp only [run_get_bind, SteppedClock.counted] at shown
  cases counted : SteppedClock.cyclesAt c''.frequency now with
  | ok count =>
      rw [counted] at shown
      cases shown
      rcases except_bind_eq_ok.mp counted with ⟨scaled, -, ⟨⟩⟩
      exact Nat.mod_lt _ (by decide)
  | error e =>
      rw [counted] at shown
      cases shown

theorem SimulatedHost.counts : Counts SimulatedHost := by
  intro h n h' shown
  have ran : SimulatedHost.onClock Clock.cycles h = .ok n h' := shown
  simp only [SimulatedHost.onClock] at ran
  cases counted : (Clock.cycles h.clock : EStateM.Result Fault _ Nat) with
  | ok count clock =>
      rw [counted] at ran
      cases ran
      exact SteppedClock.counts _ _ _ counted
  | error e clock =>
      rw [counted] at ran
      cases ran

namespace Histogram

variable {h : Histogram} {width count : Nat} {samples : Multiset Nat}

theorem Describes.inRange (d : Describes h width count samples) (word : width < word64)
    (number : count < word64) (fewer : samples.card < word64)
    (sampled : ∀ x ∈ samples, (x : Int) ≤ Signed.greatest) : h.InRange := by
  have some (p : Nat → Prop) [DecidablePred p] : samples.countP p < word64 :=
    Nat.lt_of_le_of_lt (Multiset.countP_le_card _ _) fewer
  have small {x : Nat} (member : x ∈ samples) : x < word64 := by
    have bound := sampled x member
    simp only [Signed.greatest, word64] at *
    omega
  refine ⟨d.width_eq ▸ word, ?_, fun i => ?_, d.overflow_eq ▸ some _, ?_, ?_, d.samples_eq ▸ fewer⟩
  · rwa [Histogram.count, d.size_eq]
  · by_cases inside : i < count
    · rw [Array.getD_eq_getD_getElem?, d.bucket_eq i inside]
      exact some _
    · rw [Array.getD_eq_getD_getElem?, Array.getElem?_eq_none (by rw [d.size_eq]; omega)]
      decide
  · by_cases none : samples = 0
    · rw [d.least_of_empty none]
      decide
    · exact small (d.isLeast none).1
  · by_cases none : samples = 0
    · rw [d.greatest_of_empty none]
      decide
    · exact small (d.isGreatest none).1

end Histogram

namespace Program

open CommandLine (Arguments)
open Session (HoldsOneRun)

theorem Session.round_calibration {ω : Type} [Clock ω] {a : Arguments} {m next : Meter ω}
    (ran : round a m = .ok () next) : next.calibration = m.calibration := by
  rcases bind_eq_ok.mp ran with ⟨_, sized, emptied, ran⟩
  rcases bind_eq_ok.mp ran with ⟨stats, _, ran, ⟨⟩⟩
  rcases Meter.initHistogram_eq_ok.mp emptied with ⟨h, -, rfl⟩
  obtain ⟨xs, -, -, -, same⟩ := Meter.run_samples ran
  exact same

theorem Session.Rounds.calibration {ω : Type} [Clock ω] {a : Arguments} {m : Meter ω}
    {ms : List (Meter ω)} (rounds : Rounds a m ms) :
    ∀ next ∈ ms, next.calibration = m.calibration := by
  induction rounds with
  | done m => exact fun _ absurdly => nomatch absurdly
  | @more m next ms ran rest ih =>
      have same := round_calibration ran
      exact List.forall_mem_cons.mpr ⟨same, fun later member => (ih later member).trans same⟩

theorem runPlan_inRange {a : Arguments} (ranged : a.InRange) : a.runPlan.InRange :=
  ⟨ranged.warmup, ranged.samples, ranged.pause⟩

variable {ω : Type} {a : Arguments}

theorem Session.HoldsOneRun.inRange {m : Meter ω} (holds : HoldsOneRun a m) (ranged : a.InRange) :
    m.histogram.InRange := by
  obtain ⟨xs, counted, small, described⟩ := holds.describes ranged
  exact described.inRange ranged.bucketWidth ranged.buckets (counted ▸ ranged.samples) small

theorem Measured.advanced [Host ω] {w : ω} {ms : List (Meter ω)} (measured : Measured a w ms)
    (counts : Counts ω) : ∀ m ∈ ms, Advanced a.passes .new m.calibration := by
  cases measured with
  | @intro w' fresh m prepared made calibrated rounds all =>
      intro m' member
      rw [rounds.calibration m' member]
      rcases except_bind_eq_ok.mp made with ⟨h, -, ⟨⟩⟩
      rw [Session.calibrate, Meter.calibratePasses_eq_onInstrument] at calibrated
      rcases Action.within_eq_ok.mp calibrated with ⟨i, passed, rfl⟩
      exact Instrument.calibratePasses_advanced counts passed

end Program

end Jitter

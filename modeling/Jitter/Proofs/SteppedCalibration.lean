import Jitter.Proofs.SteppedPasses
import Jitter.Proofs.SteppedWaits

/-! What calibration passes find out about a stepped clock. -/

namespace Jitter

namespace Tempo

def readCost (g : Tempo) (n : Nat) : Nat := n * g.step / (n + 1)

def passWait (g : Tempo) (p : CalibrationPlan) : Nat :=
  (p.interval.toNat - 2 * g.readCost p.reads) ⌈/⌉ g.step

def passReads (g : Tempo) (p : CalibrationPlan) : Nat := 2 * p.reads + 9 + g.passWait p

def calibrationEnd (g : Tempo) (p : CalibrationPlan) (t : Int) : Int :=
  g.after (p.passes * g.passReads p) t

variable {g : Tempo}

theorem readCost_lt_step (n : Nat) : g.readCost n < g.step := by
  simp only [readCost]
  apply Nat.div_lt_of_lt_mul
  exact Nat.mul_lt_mul_of_pos_right (Nat.lt_succ_self n) g.step_pos

theorem readCost_lt_greatest {t : Int} (nonneg : 0 ≤ t) (before : g.after 1 t ≤ Signed.greatest)
    (n : Nat) : (g.readCost n : Int) < Signed.greatest := by
  have cheap := g.readCost_lt_step n
  simp only [after, Nat.one_mul] at before
  omega

theorem nanos_of_known {c : Calibration} (known : c.hz = g.frequency) {cycles : Nat}
    (word : cycles < word64) (short : ((cycles / g.rate : Nat) : Int) ≤ Signed.greatest) :
    c.nanos cycles = .ok (cycles / g.rate : Nat) := by
  have divided : cycles * nanosPerSecond / g.frequency = cycles / g.rate :=
    Nat.mul_div_mul_right cycles g.rate (by decide)
  rw [Calibration.nanos_of_known word (hasFrequency_of_known known), known, divided,
    min_eq_left short]

theorem readCost_lt_of_calibrated {p : CalibrationPlan} {t : Int} (valid : p.validate = .ok ())
    (nonneg : 0 ≤ t) (before : g.calibrationEnd p t ≤ Signed.greatest) :
    (g.readCost p.reads : Int) < Signed.greatest := by
  have passes := (CalibrationPlan.validate_eq_ok.mp valid).2.2.2
  have some : 1 ≤ p.passes * g.passReads p :=
    Nat.mul_pos (Nat.pos_of_ne_zero passes) (by unfold passReads; omega)
  exact readCost_lt_greatest nonneg (Int.le_trans (after_le_after some) before) p.reads

/-- Nothing has been measured below its true value. -/
structure AtLeast (g : Tempo) (n : Nat) (c : Calibration) : Prop where
  readCost_ge : (g.readCost n : Int) ≤ c.readCost
  cycleReadCost_ge : (g.readCost n : Int) ≤ c.cycleReadCost
  hz_ge : g.frequency ≤ c.hz

/-- What a clock of this tempo costs and counts, as `n + 1` readings in a row tell. -/
structure Exact (g : Tempo) (n : Nat) (c : Calibration) : Prop where
  readCost_eq : c.readCost = g.readCost n
  cycleReadCost_eq : c.cycleReadCost = g.readCost n
  hz_eq : c.hz = g.frequency

theorem Exact.atLeast {n : Nat} {c : Calibration} (exact : g.Exact n c) : g.AtLeast n c where
  readCost_ge := exact.readCost_eq.ge
  cycleReadCost_ge := exact.cycleReadCost_eq.ge
  hz_ge := exact.hz_eq.ge

end Tempo

namespace Instrument

open Tempo

variable {g : Tempo} {κ : Type} {t : Int} {x : κ} {i : Instrument (SteppedClock × κ)}
  {p : CalibrationPlan}

theorem movement_passReads : g.movement.passReads p (g.readCost p.reads) = g.passReads p := by
  have same : g.movement.waitReads (g.readCost p.reads) p.interval = 1 + g.passWait p := rfl
  rw [Movement.passReads, same, passReads]
  omega

theorem pass_completes (shown : g.Shows t x i.clock) (above : g.AtLeast p.reads i.calibration)
    (valid : p.validate = .ok ()) (fits : Signed.Fits p.interval)
    (few : i.calibration.passes + 1 < word32)
    (before : g.after (g.passReads p) t ≤ Signed.greatest)
    (word : g.count (g.after (g.passReads p) t) < word64) :
    Completes (pass p) i fun _ i' =>
      g.Shows (g.after (g.passReads p) t) x i'.clock ∧ g.Exact p.reads i'.calibration ∧
        i'.calibration.passes = i.calibration.passes + 1 := by
  have later : ∀ n, 0 ≤ g.movement.after n t := fun _ => Int.le_trans shown.nonneg Movement.le_after
  have some : 0 < g.movement.window p (g.readCost p.reads) := Nat.mul_pos (by omega) g.step_pos
  have estimated : g.movement.estimate (g.movement.after (p.reads + 2) t)
      (g.movement.window p (g.readCost p.reads)) = g.frequency :=
    Movement.estimate_of_rate rfl g.rate_lt (later _) some
  have lowered : Calibration.lowerHz i.calibration.hz g.frequency = g.frequency := by
    rw [Calibration.lowerHz, if_pos frequency_pos]
    exact min_eq_right above.hz_ge
  have cheap : (g.readCost p.reads : Int) < Signed.greatest :=
    readCost_lt_greatest shown.nonneg
      (Int.le_trans (after_le_after (by unfold passReads; omega)) before) p.reads
  have priced : min i.calibration.readCost (g.movement.readCost p.reads) = g.readCost p.reads :=
    min_eq_right above.readCost_ge
  have same : g.movement.after (g.movement.passReads p (g.readCost p.reads)) t =
      g.after (g.passReads p) t := by rw [movement_passReads, movement_after]
  rw [← same] at before word ⊢
  rw [← movement_count] at word
  have measured := pass_stands (x := x) shown.stands shown.nonneg g.step_pos rfl g.rate_lt valid fits
    few priced (by rw [estimated, lowered]; exact fun _ found => found ▸ frequency_known) before word
  apply measured.mono
  intro _ i' found
  rcases found with ⟨stands, found⟩
  have hz : i'.calibration.hz = g.frequency := by rw [found.hz_eq, estimated, lowered]
  refine ⟨shows_of_stands stands (later _), ⟨found.readCost_eq, ?_, hz⟩, found.passes_eq⟩
  have counterCost : ∀ t', 0 ≤ t' → g.movement.counterCost p.reads g.frequency t' =
      min (g.readCost p.reads : Int) Signed.greatest := by
    intro t' nonneg
    have exact : g.movement.rateCost g.rate p.reads g.frequency = g.readCost p.reads :=
      Movement.rateCost_of_exact g.rate_pos rfl p.reads
    rw [Movement.counterCost_of_rate rfl nonneg, exact]
  rw [found.cycleReadCost_eq, hz, counterCost _ (later _), min_eq_left (Int.le_of_lt cheap)]
  exact min_eq_right above.cycleReadCost_ge

structure Tuned (g : Tempo) (p : CalibrationPlan) (t : Int) (x : κ) (n : Nat)
    (i : Instrument (SteppedClock × κ)) : Prop where
  shows : g.Shows (g.after (n * g.passReads p) t) x i.clock
  passes_eq : i.calibration.passes = n
  atLeast : g.AtLeast p.reads i.calibration
  exact_of_pos : 0 < n → g.Exact p.reads i.calibration

theorem calibratePasses_completes (shown : g.Shows t x i.clock) (new : i.calibration = .new)
    (valid : p.validate = .ok ()) (fits : Signed.Fits p.interval) (few : p.passes < word32)
    (before : g.calibrationEnd p t ≤ Signed.greatest)
    (word : g.count (g.calibrationEnd p t) < word64) :
    Completes (calibratePasses p) i fun _ => Tuned g p t x p.passes := by
  apply Completes.refusal_bind valid
  have passed : Completes (repeatedly (pass p) p.passes) i fun _ =>
      Tuned g p t x (0 + p.passes) := by
    refine .repeatedly ?_ ?_
    · intro n _ below j tuned
      have step : g.after (g.passReads p) (g.after (n * g.passReads p) t) =
          g.after ((n + 1) * g.passReads p) t := by rw [after_after, Nat.succ_mul]
      have within : g.after ((n + 1) * g.passReads p) t ≤ g.calibrationEnd p t :=
        after_le_after (Nat.mul_le_mul_right _ (by omega))
      have done := pass_completes tuned.shows tuned.atLeast valid fits
        (by rw [tuned.passes_eq]; omega) (by rw [step]; exact Int.le_trans within before)
        (by rw [step]; exact Nat.lt_of_le_of_lt (count_le_count within) word)
      apply done.mono
      intro _ j' done
      rcases done with ⟨now, exact, passes⟩
      refine ⟨step ▸ now, ?_, exact.atLeast, fun _ => exact⟩
      rw [passes, tuned.passes_eq]
    · have cheap := readCost_lt_of_calibrated valid shown.nonneg before
      refine ⟨?_, by rw [new]; rfl, ⟨?_, ?_, ?_⟩, fun absurdly => absurd absurdly (by decide)⟩
      · rw [Nat.zero_mul, after_zero]
        exact shown
      · rw [new]
        exact Int.le_of_lt cheap
      · rw [new]
        exact Int.le_of_lt cheap
      · rw [new]
        exact Nat.le_sub_one_of_lt g.rate_lt
  rw [Nat.zero_add] at passed
  exact passed

end Instrument

end Jitter

import Jitter.Proofs.HistogramFigures
import Jitter.Proofs.LostCounters

/-! What a meter has counted after any history of its operations, those that failed among them. -/

namespace Jitter

namespace Meter

variable {ω : Type}

inductive Step (ω : Type) where
  | withCalibration (c : Calibration)
  | calibrate (p : CalibrationPlan)
  | calibratePasses (p : CalibrationPlan)
  | initHistogram (count : Nat)
  | run (plan : RunPlan) (op : Operation ω)

/-- A step, and whether it was done. One that was not is `lost` when the clock had a cycle counter
before it, and has none any more. -/
inductive Entry (ω : Type) where
  | done (step : Step ω)
  | refused (step : Step ω)
  | lost (step : Step ω)

/-- The measured calls of a history, the last step first, back to the last sizing. -/
def counted : List (Entry ω) → Nat
  | [] => 0
  | .done (.initHistogram _) :: _ => 0
  | .done (.run plan _) :: past => plan.measured + counted past
  | _ :: past => counted past

/-- How many samples the lost runs since the last sizing can have left: the turn in which a run finds
its counter gone counts none. -/
def spilled : List (Entry ω) → Nat
  | [] => 0
  | .done (.initHistogram _) :: _ => 0
  | .lost (.run plan _) :: past => plan.measured - 1 + spilled past
  | _ :: past => spilled past

/-- The buckets of the first sizing that was not refused, and none before there is one. -/
def firstSize : List (Entry ω) → Nat
  | [] => 0
  | .done (.initHistogram count) :: past => if firstSize past = 0 then count else firstSize past
  | _ :: past => firstSize past

theorem firstSize_append {past : List (Entry ω)} (sized : 0 < firstSize past)
    (later : List (Entry ω)) : firstSize (later ++ past) = firstSize past := by
  induction later with
  | nil => rfl
  | cons entry later ih =>
      rw [List.cons_append]
      cases entry with
      | refused step => exact ih
      | lost step => exact ih
      | done step =>
          cases step with
          | initHistogram count => rw [firstSize, ih, if_neg (by omega)]
          | withCalibration c => exact ih
          | calibrate p => exact ih
          | calibratePasses p => exact ih
          | run plan op => exact ih

/-- `samples` are what a history has left in the histogram. -/
structure Holds (past : List (Entry ω)) (h : Histogram) (samples : Multiset Nat) : Prop where
  described : h.Describes h.width (firstSize past) samples
  words : ∀ x ∈ samples, x < word64
  counted_le : counted past ≤ samples.card
  le_spilled : samples.card ≤ counted past + spilled past
  unsized : firstSize past = 0 → samples = 0

theorem Holds.again {past more : List (Entry ω)} {h h' : Histogram} {samples : Multiset Nat}
    (holds : Holds past h samples) (same : h' = h) (sizes : firstSize more = firstSize past)
    (counts : counted more = counted past) (spills : spilled more = spilled past) :
    Holds more h' samples := by
  rw [same]
  refine ⟨?_, holds.words, ?_, ?_, ?_⟩
  · rw [sizes]
    exact holds.described
  · rw [counts]
    exact holds.counted_le
  · rw [counts, spills]
    exact holds.le_spilled
  · rw [sizes]
    exact holds.unsized

theorem onInstrument_histogram {α : Type} (act : Action (Instrument ω) α) {m : Meter ω}
    {result : EStateM.Result Failure (Meter ω) α} (ran : onInstrument act m = result) :
    (remains result).histogram = m.histogram := by
  rw [← ran]
  simp only [onInstrument, Action.within]
  cases act m.toInstrument <;> rfl

theorem initHistogram_of_error {count : Nat} {m m' : Meter ω} {e : Failure}
    (refused : initHistogram count m = .error e m') : m' = m := by
  simp only [initHistogram] at refused
  rw [run_get_bind] at refused
  cases sized : m.histogram.init count with
  | ok h =>
      rw [sized] at refused
      cases refused
  | error e =>
      rw [sized] at refused
      cases refused
      rfl

variable [Clock ω]

def act : Step ω → Action (Meter ω) Unit
  | .withCalibration c => modify (withCalibration c)
  | .calibrate p => calibrate p
  | .calibratePasses p => calibratePasses p
  | .initHistogram count => initHistogram count
  | .run plan op => do let _ ← run plan op

/-- The steps that took one meter to another, the last one first; none of them broke off. -/
inductive History (start : Meter ω) : List (Entry ω) → Meter ω → Prop where
  | nil : History start [] start
  | done {past : List (Entry ω)} {m m' : Meter ω} {step : Step ω} (history : History start past m)
    (ran : act step m = .ok () m') : History start (.done step :: past) m'
  | refused {past : List (Entry ω)} {m m' : Meter ω} {step : Step ω} {e : Error}
    (history : History start past m) (broke : act step m = .error (.error e) m')
    (kept : Clock.hasCycleCounter m.clock = true → Clock.hasCycleCounter m'.clock = true) :
    History start (.refused step :: past) m'
  | lost {past : List (Entry ω)} {m m' : Meter ω} {step : Step ω} {e : Error}
    (history : History start past m) (broke : act step m = .error (.error e) m')
    (there : Clock.hasCycleCounter m.clock = true)
    (gone : Clock.hasCycleCounter m'.clock = false) : History start (.lost step :: past) m'

theorem History.append {start m m' : Meter ω} {past later : List (Entry ω)}
    (before : History start past m) (after : History m later m') :
    History start (later ++ past) m' := by
  induction after with
  | nil => exact before
  | done _ ran ih => exact ih.done ran
  | refused _ broke kept ih => exact ih.refused broke kept
  | lost _ broke there gone ih => exact ih.lost broke there gone

/-- What fails leaves everything but the warnings as it was, unless it is a run that lost its counter. -/
theorem unchanged_or_lost {step : Step ω} {m m' : Meter ω} {e : Error}
    (broke : act step m = .error (.error e) m') :
    m'.toInstrument = m.toInstrument ∧ m'.histogram = m.histogram ∨
      ∃ plan op, step = .run plan op ∧ Lost plan m m' e := by
  have same : m' = m → m'.toInstrument = m.toInstrument ∧ m'.histogram = m.histogram := by
    rintro rfl
    exact ⟨rfl, rfl⟩
  cases step with
  | withCalibration c => cases broke
  | calibrate p => exact .inl (same (onInstrument_refused_eq Instrument.calibrate_refused_eq broke))
  | calibratePasses p =>
      rw [act, calibratePasses_eq_onInstrument] at broke
      exact .inl (same (onInstrument_refused_eq Instrument.calibratePasses_refused_eq broke))
  | initHistogram count => exact .inl (same (initHistogram_of_error broke))
  | run plan op =>
      rcases bind_eq_error.mp broke with now | ⟨_, _, _, ⟨⟩⟩
      rcases objection_or_lost now with ⟨-, rfl⟩ | lost
      · exact .inl ⟨refused_instrument plan m, refused_histogram plan m⟩
      · exact .inr ⟨plan, op, rfl, lost⟩

namespace Holds

variable {past : List (Entry ω)} {m m' : Meter ω} {samples : Multiset Nat}

omit [Clock ω] in
theorem initHistogram (holds : Holds past m.histogram samples) {count : Nat}
    (sized : Meter.initHistogram count m = .ok () m') :
    Holds (.done (.initHistogram count) :: past) m'.histogram 0 := by
  rcases initHistogram_eq_ok.mp sized with ⟨h, accepted, rfl⟩
  rcases Histogram.init_eq_ok.mp accepted with ⟨some, fitting, -, rfl⟩
  -- A later sizing is not refused only where it asks for the buckets that there are.
  have same : firstSize (.done (.initHistogram count) :: past) = count := by
    have size : m.histogram.count = firstSize past := holds.described.size_eq
    rw [m.histogram.isSized_iff, size] at fitting
    rw [firstSize]
    split
    · rfl
    · omega
  refine ⟨?_, by simp, Nat.le_refl _, Nat.le_refl _, fun _ => rfl⟩
  rw [same]
  exact Histogram.blank_describes _ _ count

omit [Clock ω] in
theorem grown (holds : Holds past m.histogram samples) {xs : List Nat} {more : List (Entry ω)}
    (taken : m.histogram.accumulateAll xs = .ok m'.histogram)
    (small : ∀ x ∈ xs, (x : Int) ≤ Signed.greatest) (sized : m.histogram.count ≠ 0)
    (sizes : firstSize more = firstSize past) (least : counted more ≤ xs.length + samples.card)
    (most : xs.length + samples.card ≤ counted more + spilled more) :
    Holds more m'.histogram (xs + samples) := by
  have words : ∀ x ∈ xs, x < word64 := by
    intro x member
    have bound := small x member
    simp only [Signed.greatest, word64] at *
    omega
  have described := holds.described.of_accumulateAll words taken
  have some : firstSize past ≠ 0 := by
    rw [← holds.described.size_eq]
    exact sized
  refine ⟨?_, ?_, ?_, ?_, fun none => absurd (sizes ▸ none) some⟩
  · rw [sizes]
    exact described.width_eq ▸ described
  · intro x member
    rcases Multiset.mem_add.mp member with new | old
    · exact words x new
    · exact holds.words x old
  · rwa [Multiset.card_add, Multiset.coe_card]
  · rwa [Multiset.card_add, Multiset.coe_card]

theorem run (holds : Holds past m.histogram samples) {plan : RunPlan} {op : Operation ω}
    {stats : RunStats} (ran : Meter.run plan op m = .ok stats m') :
    ∃ more, Holds (.done (.run plan op) :: past) m'.histogram more := by
  obtain ⟨xs, length, small, taken, -⟩ := run_samples ran
  have sized := sized_of_clear (run_eq_ok.mp ran).1
  have least := holds.counted_le
  have most := holds.le_spilled
  refine ⟨_, holds.grown taken small sized rfl ?_ ?_⟩
  · change plan.measured + counted past ≤ xs.length + samples.card
    omega
  · change xs.length + samples.card ≤ plan.measured + counted past + spilled past
    omega

theorem lostRun (holds : Holds past m.histogram samples) {plan : RunPlan} {op : Operation ω}
    {e : Error} (lost : Lost plan m m' e) :
    ∃ more, Holds (.lost (.run plan op) :: past) m'.histogram more := by
  rcases lost.records with ⟨xs, small, taken⟩
  have length := Histogram.samples_of_accumulateAll taken
  have sized := sized_of_clear lost.clear
  have fewer := lost.fewer
  have least := holds.counted_le
  have most := holds.le_spilled
  refine ⟨_, holds.grown taken small sized rfl ?_ ?_⟩
  · change counted past ≤ xs.length + samples.card
    omega
  · change xs.length + samples.card ≤ counted past + (plan.measured - 1 + spilled past)
    omega

theorem done (holds : Holds past m.histogram samples) {step : Step ω}
    (ran : act step m = .ok () m') : ∃ more, Holds (.done step :: past) m'.histogram more := by
  cases step with
  | withCalibration c =>
      cases ran
      exact ⟨samples, holds.again rfl rfl rfl rfl⟩
  | calibrate p =>
      have kept := onInstrument_histogram (Instrument.calibrate p) ran
      exact ⟨samples, holds.again kept rfl rfl rfl⟩
  | calibratePasses p =>
      rw [act, calibratePasses_eq_onInstrument] at ran
      have kept := onInstrument_histogram (Instrument.calibratePasses p) ran
      exact ⟨samples, holds.again kept rfl rfl rfl⟩
  | initHistogram count => exact ⟨0, holds.initHistogram ran⟩
  | run plan op =>
      rcases bind_eq_ok.mp ran with ⟨stats, _, ran, ⟨⟩⟩
      exact holds.run ran

theorem refused (holds : Holds past m.histogram samples) {step : Step ω} {e : Error}
    (broke : act step m = .error (.error e) m')
    (kept : Clock.hasCycleCounter m.clock = true → Clock.hasCycleCounter m'.clock = true) :
    Holds (.refused step :: past) m'.histogram samples := by
  rcases unchanged_or_lost broke with ⟨-, same⟩ | ⟨plan, op, -, lost⟩
  · exact holds.again same rfl rfl rfl
  · -- A run that lost its counter is not entered as refused.
    have there := kept lost.there
    rw [lost.gone] at there
    cases there

theorem lost (holds : Holds past m.histogram samples) {step : Step ω} {e : Error}
    (broke : act step m = .error (.error e) m') (there : Clock.hasCycleCounter m.clock = true)
    (gone : Clock.hasCycleCounter m'.clock = false) :
    ∃ more, Holds (.lost step :: past) m'.histogram more := by
  rcases unchanged_or_lost broke with ⟨same, -⟩ | ⟨plan, op, rfl, lost⟩
  · rw [same, there] at gone
    cases gone
  · exact holds.lostRun lost

end Holds

theorem History.holds {start m : Meter ω} {past : List (Entry ω)}
    (fresh : Holds ([] : List (Entry ω)) start.histogram 0) (history : History start past m) :
    ∃ samples, Holds past m.histogram samples := by
  induction history with
  | nil => exact ⟨0, fresh⟩
  | done _ ran ih =>
      rcases ih with ⟨_, holds⟩
      exact holds.done ran
  | refused _ broke kept ih =>
      rcases ih with ⟨xs, holds⟩
      exact ⟨xs, holds.refused broke kept⟩
  | lost _ broke there gone ih =>
      rcases ih with ⟨_, holds⟩
      exact holds.lost broke there gone

theorem History.of_error {start m m' : Meter ω} {past : List (Entry ω)}
    (history : History start past m) {step : Step ω} {e : Error}
    (broke : act step m = .error (.error e) m') :
    History start (.refused step :: past) m' ∧ m'.toInstrument = m.toInstrument ∧
        m'.histogram = m.histogram ∨
      History start (.lost step :: past) m' ∧
        ∃ plan op, step = .run plan op ∧ Lost plan m m' e := by
  rcases unchanged_or_lost broke with ⟨same, unchanged⟩ | ⟨plan, op, rfl, lost⟩
  · exact .inl ⟨history.refused broke fun there => same ▸ there, same, unchanged⟩
  · exact .inr ⟨history.lost broke lost.there lost.gone, plan, op, rfl, lost⟩

end Meter

end Jitter

import Jitter.Proofs.MeasuredRanges
import Jitter.Proofs.Meter

/-! The ways to calibrate agree: all passes of a plan from nothing, all of them on a meter, and one
after the other. By a plan that is not in order none of them reads anything. -/

namespace Jitter

namespace CalibrationPlan

inductive Field where
  | reads
  | interval
  | loops
  | passes
  deriving DecidableEq, Repr

namespace Field

def all : List Field := [reads, interval, loops, passes]

def name : Field → String
  | reads => "clock_reads"
  | interval => "frequency_interval_ns"
  | loops => "loop_iterations"
  | passes => "passes"

def Holds (p : CalibrationPlan) : Field → Prop
  | reads => 100 ≤ p.reads
  | interval => 0 < p.interval
  | loops => 0 < p.loops
  | passes => 0 < p.passes

instance (p : CalibrationPlan) : (field : Field) → Decidable (Holds p field)
  | reads => inferInstanceAs (Decidable (100 ≤ p.reads))
  | interval => inferInstanceAs (Decidable (0 < p.interval))
  | loops => inferInstanceAs (Decidable (0 < p.loops))
  | passes => inferInstanceAs (Decidable (0 < p.passes))

def demand (p : CalibrationPlan) : Field → String
  | reads => " must be >= 100, got " ++ toString p.reads
  | interval => " must be positive, got " ++ toString p.interval
  | loops => " must be non-zero"
  | passes => " must be non-zero"

end Field

variable {p : CalibrationPlan} {field : Field}

def Blames (p : CalibrationPlan) (field : Field) : Prop :=
  ∃ before after, Field.all = before ++ field :: after ∧ (∀ f ∈ before, f.Holds p) ∧
    ¬field.Holds p

def Field.text (p : CalibrationPlan) (field : Field) : String := field.name ++ field.demand p

def Field.refusal (p : CalibrationPlan) (field : Field) : Error := .invalidConfig (field.text p)

theorem find_blamed (p : CalibrationPlan) (field : Field) (later : List Field) :
    ((field :: later).find? fun f => ¬f.Holds p).map (Field.text p) =
      if field.Holds p then (later.find? fun f => ¬f.Holds p).map (Field.text p)
      else some (field.text p) := by
  by_cases holds : field.Holds p
  · rw [List.find?_cons_of_neg (by simpa using holds), if_pos holds]
  · rw [List.find?_cons_of_pos (by simpa using holds), if_neg holds]
    rfl

theorem complaint_eq (p : CalibrationPlan) :
    p.complaint = (Field.all.find? fun f => ¬f.Holds p).map (Field.text p) := by
  have reads : "clock_reads must be >= 100, got " ++ toString p.reads = Field.reads.text p := by
    change _ = "clock_reads" ++ (" must be >= 100, got " ++ toString p.reads)
    rw [← String.append_assoc]
    rfl
  have interval : "frequency_interval_ns must be positive, got " ++ toString p.interval =
      Field.interval.text p := by
    change _ = "frequency_interval_ns" ++ (" must be positive, got " ++ toString p.interval)
    rw [← String.append_assoc]
    rfl
  have loops : "loop_iterations must be non-zero" = Field.loops.text p := rfl
  have passes : "passes must be non-zero" = Field.passes.text p := rfl
  rw [complaint, reads, interval, loops, passes, Field.all, find_blamed, find_blamed, find_blamed,
    find_blamed]
  simp only [Field.Holds, ← Nat.not_le, ← Int.not_lt, ← Nat.pos_iff_ne_zero.not_left, ite_not,
    List.find?_nil, Option.map_none]

theorem blames_iff : p.Blames field ↔ (Field.all.find? fun f => ¬f.Holds p) = some field := by
  rw [List.find?_eq_some_iff_append]
  simp only [Blames]
  constructor
  · rintro ⟨before, after, parts, earlier, fails⟩
    exact ⟨by simpa using fails, before, after, parts, by simpa using earlier⟩
  · rintro ⟨fails, before, after, parts, earlier⟩
    exact ⟨before, after, parts, by simpa using earlier, by simpa using fails⟩

theorem validate_of_blamed (blamed : p.Blames field) :
    p.validate = .error (field.refusal p) := by
  rw [validate, complaint_eq, blames_iff.mp blamed]
  rfl

theorem exists_blamed (invalid : p.validate ≠ .ok ()) : ∃ field, p.Blames field := by
  cases found : Field.all.find? fun f => ¬f.Holds p with
  | none =>
      rw [validate, complaint_eq, found] at invalid
      exact absurd rfl invalid
  | some field => exact ⟨field, blames_iff.mpr found⟩

end CalibrationPlan

open CalibrationPlan (Field)

namespace Instrument

variable {ω : Type} [Clock ω] {p : CalibrationPlan} {refusal : Error}

theorem calibratePasses_of_valid (valid : p.validate = .ok ()) :
    (calibratePasses p : Action (Instrument ω) Unit) = repeatedly (calibrate p) p.passes := by
  rw [calibrate_of_valid valid, calibratePasses, valid]
  rfl

theorem calibrate_refused (refused : p.validate = .error refusal) (i : Instrument ω) :
    calibrate p i = .error (.error refusal) i := by
  rw [calibrate, refused]
  rfl

theorem calibrated_eq_ok {w w' : ω} {c : Calibration} :
    calibrated p w = .ok c w' ↔ calibratePasses p ⟨w, .new⟩ = .ok () ⟨w', c⟩ := by
  rw [calibrated_eq_apart, apart_eq_ok]

theorem calibrated_refused (refused : p.validate = .error refusal) (w : ω) :
    calibrated p w = .error (.error refusal) w := by
  rw [calibrated, refused]
  rfl

end Instrument

namespace Meter

variable {ω : Type} {w : ω} {width : Nat} {fresh : Meter ω}

theorem instrument_of_new (made : new w width = .ok fresh) : fresh.toInstrument = ⟨w, .new⟩ := by
  obtain ⟨h, -, ⟨⟩⟩ := except_bind_eq_ok.mp made
  rfl

variable [Clock ω] {p : CalibrationPlan}

theorem calibratePasses_refused {refusal : Error} (refused : p.validate = .error refusal)
    (m : Meter ω) : calibratePasses p m = .error (.error refusal) m := by
  rw [calibratePasses, refused]
  rfl

theorem calibratePasses_of_new (made : new w width = .ok fresh) {m : Meter ω} :
    calibratePasses p fresh = .ok () m ↔
      ∃ c w', Instrument.calibrated p w = .ok c w' ∧
        m = { fresh with clock := w', calibration := c } := by
  rw [calibratePasses_eq_onInstrument, onInstrument, Action.within_eq_ok, instrument_of_new made]
  constructor
  · rintro ⟨i, ran, rfl⟩
    exact ⟨i.calibration, i.clock, Instrument.calibrated_eq_ok.mpr ran, rfl⟩
  · rintro ⟨c, w', ran, rfl⟩
    exact ⟨⟨w', c⟩, Instrument.calibrated_eq_ok.mp ran, rfl⟩

end Meter

namespace Instrument

variable {ω : Type} [Clock ω]

/-- All passes from nothing, all passes on a new meter and one pass after the other end together, with
the same calibration and the same clock. By a plan that is not in order each of them is refused with
the name of the first field that does not hold, and nothing is read. -/
theorem ways_to_calibrate_agree (counts : Counts ω) (p : CalibrationPlan) :
    (p.validate = .ok () → ∀ (w : ω) (width : Nat) (fresh : Meter ω), Meter.new w width = .ok fresh →
      (∀ c w', calibrated p w = .ok c w' ↔
        repeatedly (calibrate p) p.passes ⟨w, .new⟩ = .ok () ⟨w', c⟩) ∧
      (∀ m, Meter.calibratePasses p fresh = .ok () m ↔
        ∃ c w', calibrated p w = .ok c w' ∧ m = { fresh with clock := w', calibration := c }) ∧
      ∀ c w', calibrated p w = .ok c w' → c.passes = p.passes) ∧
    (p.validate ≠ .ok () → ∃ field, p.Blames field) ∧
    ∀ field, p.Blames field →
      (∀ w : ω, calibrated p w = .error (.error (field.refusal p)) w) ∧
      (∀ m : Meter ω, Meter.calibratePasses p m = .error (.error (field.refusal p)) m) ∧
      ∀ i : Instrument ω, calibrate p i = .error (.error (field.refusal p)) i := by
  refine ⟨fun valid w width fresh made => ⟨?again, ?meter, ?passes⟩, CalibrationPlan.exists_blamed,
    fun field blamed => ?refused⟩
  case again =>
    intro c w'
    rw [calibrated_eq_ok, calibratePasses_of_valid valid]
  case meter => exact fun m => Meter.calibratePasses_of_new made
  case passes =>
    intro c w' ran
    have advanced := calibratePasses_advanced counts (calibrated_eq_ok.mp ran)
    simpa [Calibration.new] using advanced.passes_eq
  case refused =>
    have refused := CalibrationPlan.validate_of_blamed blamed
    exact ⟨calibrated_refused refused, Meter.calibratePasses_refused refused,
      calibrate_refused refused⟩

set_option maxRecDepth 2048 in
/-- Two passes on a clock with a counter, and a plan with two fields that do not hold. -/
theorem two_passes_by_each_way :
    ∃ (c : Calibration) (w w' : SteppedClock) (fresh m : Meter SteppedClock),
      w = .new 10 1000000000 ∧ Meter.new w 250 = .ok fresh ∧
      calibrated ⟨100, 300, 5, 2⟩ w = .ok c w' ∧ c.passes = 2 ∧
      repeatedly (calibrate ⟨100, 300, 5, 2⟩) 2 ⟨w, .new⟩ = .ok () ⟨w', c⟩ ∧
      Meter.calibratePasses ⟨100, 300, 5, 2⟩ fresh = .ok () m ∧ m.calibration = c ∧ m.clock = w' ∧
      calibrate ⟨100, -1, 0, 2⟩ m.toInstrument =
        .error (.error (.invalidConfig "frequency_interval_ns must be positive, got -1"))
          m.toInstrument := by
  let w : SteppedClock := .new 10 1000000000
  let w' : SteppedClock := { w with now := 1000004760, reads := 476 }
  let c : Calibration := ⟨9, 9, 1000000000, 200, 2, false⟩
  have ran : calibrated ⟨100, 300, 5, 2⟩ w = .ok c w' := by cbv
  have made : Meter.new w 250 = .ok _ := rfl
  obtain ⟨agree, -, -⟩ := ways_to_calibrate_agree SteppedClock.counts ⟨100, 300, 5, 2⟩
  obtain ⟨again, meter, passes⟩ := agree rfl w 250 _ made
  obtain ⟨-, -, refused⟩ := ways_to_calibrate_agree SteppedClock.counts ⟨100, -1, 0, 2⟩
  obtain ⟨-, -, unread⟩ := refused .interval ⟨[.reads], _, rfl, by decide, by decide⟩
  exact ⟨c, w, w', _, _, rfl, made, ran, passes c w' ran, (again c w').mp ran,
    (meter _).mpr ⟨c, w', ran, rfl⟩, rfl, rfl, unread _⟩

end Instrument

end Jitter

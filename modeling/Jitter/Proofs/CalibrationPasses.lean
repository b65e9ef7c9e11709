import Jitter.Clock.Scripted
import Jitter.Proofs.PassArithmetic
import Jitter.Proofs.Readings
import Mathlib

/-! What calibration passes do to a calibration, whatever the clock shows: no value is ever raised, and
none is taken from a reading that says nothing. -/

namespace Jitter

namespace Calibration

/-- Values as they can be measured: the cost of the counter is known only when its frequency is. -/
structure Sound (c : Calibration) : Prop where
  readCost_nonneg : 0 ≤ c.readCost
  cycleReadCost_nonneg : 0 ≤ c.cycleReadCost
  loopCost_nonneg : 0 ≤ c.loopCost
  hz_pos : 0 < c.hz
  hz_lt : c.hz < word64
  frequency : c.cycleReadCost ≠ unmeasuredCost → c.hasFrequency = true

/-- No value of `c'` is above that of `c`, and those that differ are as they should be. -/
structure Refined (c c' : Calibration) : Prop where
  readCost_le : c'.readCost ≤ c.readCost
  cycleReadCost_le : c'.cycleReadCost ≤ c.cycleReadCost
  hz_le : c'.hz ≤ c.hz
  loopCost_le : c'.loopCost ≤ c.loopCost
  passes_eq : c'.passes = c.passes
  preset_eq : c'.preset = c.preset
  sound : c.Sound → c'.Sound

variable {c c' c'' : Calibration}

theorem Refined.refl (c : Calibration) : Refined c c :=
  ⟨le_rfl, le_rfl, le_rfl, le_rfl, rfl, rfl, id⟩

theorem Refined.trans (first : Refined c c') (second : Refined c' c'') : Refined c c'' where
  readCost_le := second.readCost_le.trans first.readCost_le
  cycleReadCost_le := second.cycleReadCost_le.trans first.cycleReadCost_le
  hz_le := second.hz_le.trans first.hz_le
  loopCost_le := second.loopCost_le.trans first.loopCost_le
  passes_eq := second.passes_eq.trans first.passes_eq
  preset_eq := second.preset_eq.trans first.preset_eq
  sound := second.sound ∘ first.sound

theorem refined_readCost {cost : Int} (nonneg : 0 ≤ cost) (c : Calibration) :
    Refined c { c with readCost := min c.readCost cost } where
  readCost_le := min_le_left _ _
  cycleReadCost_le := le_rfl
  hz_le := le_rfl
  loopCost_le := le_rfl
  passes_eq := rfl
  preset_eq := rfl
  sound s := { s with readCost_nonneg := le_min s.readCost_nonneg nonneg }

theorem refined_cycleReadCost {cost : Int} (nonneg : 0 ≤ cost) (known : c.hasFrequency = true) :
    Refined c { c with cycleReadCost := min c.cycleReadCost cost } where
  readCost_le := le_rfl
  cycleReadCost_le := min_le_left _ _
  hz_le := le_rfl
  loopCost_le := le_rfl
  passes_eq := rfl
  preset_eq := rfl
  sound s :=
    { s with
      cycleReadCost_nonneg := le_min s.cycleReadCost_nonneg nonneg
      frequency := fun _ => known }

theorem refined_hz {hz : Nat} (positive : 0 < hz) (c : Calibration) :
    Refined c { c with hz := min c.hz hz } where
  readCost_le := le_rfl
  cycleReadCost_le := le_rfl
  hz_le := min_le_left _ _
  loopCost_le := le_rfl
  passes_eq := rfl
  preset_eq := rfl
  sound s :=
    { s with
      hz_pos := lt_min s.hz_pos positive
      hz_lt := (min_le_left _ _).trans_lt s.hz_lt
      frequency := by
        intro measured
        -- What is lower than a known frequency is not the number that stands for an unknown one.
        have known := (c.hasFrequency_iff).mp (s.frequency measured)
        have word := s.hz_lt
        rw [hasFrequency_iff]
        simp only [unmeasuredHz, word64] at *
        omega }

theorem refined_loopCost {cost : Int} (nonneg : 0 ≤ cost) (c : Calibration) :
    Refined c { c with loopCost := min c.loopCost cost } where
  readCost_le := le_rfl
  cycleReadCost_le := le_rfl
  hz_le := le_rfl
  loopCost_le := min_le_left _ _
  passes_eq := rfl
  preset_eq := rfl
  sound s := { s with loopCost_nonneg := le_min s.loopCost_nonneg nonneg }

end Calibration

open Calibration (Refined)

namespace Instrument

variable {ω : Type} [Clock ω]

def Broken (c : Calibration) (e : Failure) (i : Instrument ω) : Prop :=
  ClockFailure ω e ∧ Refined c i.calibration

theorem onClock_bind {α β : Type} {act : Action ω α} {P : α → Prop}
    {next : α → Action (Instrument ω) β} {i : Instrument ω} {last : β → Instrument ω → Prop}
    (reads : Yields act P)
    (rest : ∀ a w, P a → Ends (next a) { i with clock := w } last (Broken i.calibration)) :
    Ends (onClock act >>= next) i last (Broken i.calibration) := by
  cases ran : act i.clock with
  | ok a w =>
      have done : onClock act i = .ok a { i with clock := w } := Action.within_of_ok ran
      rw [Ends, bind_of_ok done]
      exact rest a w ((reads i.clock).of_ok ran)
  | error e w =>
      have broke : onClock act i = .error e { i with clock := w } := by
        simp only [onClock, Action.within, ran]
      rw [Ends, bind_of_error broke]
      exact ⟨(reads i.clock).of_error ran, .refl _⟩

omit [Clock ω] in
theorem calibrationNow_bind {β : Type} {next : Calibration → Action (Instrument ω) β}
    {i : Instrument ω} {last : β → Instrument ω → Prop} {broken : Failure → Instrument ω → Prop}
    (rest : Ends (next i.calibration) i last broken) :
    Ends (calibrationNow >>= next) i last broken := rest

theorem sub_bind {β : Type} {a b : Int} {next : Int → Action (Instrument ω) β} {i : Instrument ω}
    {last : β → Instrument ω → Prop}
    (rest : Signed.Fits (a - b) → Ends (next (a - b)) i last (Broken i.calibration)) :
    Ends ((liftM (Signed.sub a b) : Action (Instrument ω) Int) >>= next) i last
      (Broken i.calibration) := by
  refine .checked_bind ?_ ?_
  · intro difference value
    obtain ⟨fits, rfl⟩ := Signed.sub_eq_ok.mp value
    exact rest fits
  · intro f broke
    rw [Signed.sub] at broke
    split at broke
    · cases broke
    · cases broke
      exact ⟨.apart, .refl _⟩

theorem measureReadCost_ends {p : CalibrationPlan} (reads : 100 ≤ p.reads) (i : Instrument ω) :
    Ends (measureReadCost p) i
      (fun _ i' => Refined i.calibration i'.calibration ∧
        i'.calibration.readCost ≤ Signed.greatest / 101)
      (Broken i.calibration) := by
  refine onClock_bind (Yields.monotonic.span _) fun both w _ => sub_bind fun fits => ?_
  rw [perRead_eq]
  generalize both.2 - both.1 = elapsed at fits
  have bound := perRead_le reads fits
  exact ⟨Calibration.refined_readCost (le_max_right _ _) _, (min_le_right _ _).trans bound⟩

theorem measureFrequency_ends (counts : Counts ω) (p : CalibrationPlan) (i : Instrument ω) :
    Ends (measureFrequency p) i (fun _ i' => Refined i.calibration i'.calibration)
      (Broken i.calibration) := by
  rw [measureFrequency]
  refine calibrationNow_bind ?_
  refine onClock_bind (.cycles counts) fun firstCycles w _ => ?_
  refine onClock_bind .monotonic fun firstNs w _ => ?_
  refine onClock_bind (.regardless_wait _ _) fun _ w _ => ?_
  refine onClock_bind (.cycles counts) fun lastCycles w word => ?_
  refine onClock_bind .monotonic fun lastNs w _ => sub_bind fun _ => ?_
  by_cases forward : 0 < lastNs - firstNs
  · have counted : lastCycles - firstCycles < word64 := by omega
    rw [if_pos forward, Action.checked_bind_of_ok (frequency_eq counted forward)]
    generalize Unsigned.saturate word64 _ = hz
    by_cases positive : 0 < hz
    · rw [if_pos positive]
      exact Calibration.refined_hz positive _
    · rw [if_neg positive]
      exact .refl _
  · rw [if_neg forward]
    exact .refl _

theorem measureCycleReadCost_ends (counts : Counts ω) (p : CalibrationPlan) (i : Instrument ω) :
    Ends (measureCycleReadCost p) i (fun _ i' => Refined i.calibration i'.calibration)
      (Broken i.calibration) := by
  rw [measureCycleReadCost]
  refine calibrationNow_bind ?_
  by_cases known : i.calibration.hasFrequency = true
  · rw [if_pos known]
    refine onClock_bind ((Yields.cycles counts).span _) fun both w word => calibrationNow_bind ?_
    have counted : (both.2 - both.1) / (p.reads + 1) < word64 :=
      Nat.lt_of_le_of_lt (Nat.div_le_self _ _) (by omega)
    rw [Action.checked_bind_of_ok (Calibration.nanos_of_known counted known)]
    exact Calibration.refined_cycleReadCost (le_min (Int.natCast_nonneg _) (by decide)) known
  · rw [if_neg known]
    exact .refl _

theorem timeLoopsInCycles_ends (counts : Counts ω) (loops : Nat) {i : Instrument ω}
    (known : i.calibration.hasFrequency = true) :
    Ends (timeLoopsInCycles loops) i
      (fun elapsed i' => elapsed ≤ Signed.greatest ∧ i'.calibration = i.calibration)
      (Broken i.calibration) := by
  rw [timeLoopsInCycles]
  refine onClock_bind ((Yields.cycles counts).aroundLoops _) fun both w word => calibrationNow_bind ?_
  have counted : both.2 - both.1 < word64 := by omega
  rw [Action.checked_bind_of_ok (Calibration.nanos_of_known counted known)]
  exact ⟨Signed.saturate_le _, rfl⟩

theorem timeLoops_ends (loops : Nat) (i : Instrument ω) :
    Ends (timeLoops loops) i
      (fun elapsed i' => elapsed ≤ Signed.greatest ∧ i'.calibration = i.calibration)
      (Broken i.calibration) := by
  rw [timeLoops]
  refine onClock_bind (Yields.monotonic.aroundLoops _) fun both w _ => sub_bind fun _ => ?_
  exact calibrationNow_bind ⟨Signed.saturate_le _, rfl⟩

theorem measureLoopCost_ends (counts : Counts ω) {p : CalibrationPlan} (some : p.loops ≠ 0)
    (i : Instrument ω) :
    Ends (measureLoopCost p) i (fun _ i' => Refined i.calibration i'.calibration)
      (Broken i.calibration) := by
  have taken : ∀ elapsed (i' : Instrument ω),
      elapsed ≤ Signed.greatest ∧ i'.calibration = i.calibration →
      Ends
        ((do
          let cost ← perLoopUnit (max elapsed 0) p.loops
          refine fun c => { c with loopCost := min c.loopCost cost }) : Action (Instrument ω) Unit)
        i' (fun _ i' => Refined i.calibration i'.calibration) (Broken i.calibration) := by
    intro elapsed i' ended
    obtain ⟨small, same⟩ := ended
    rw [Action.checked_bind_of_ok (perLoopUnit_eq small some), ← same]
    exact Calibration.refined_loopCost (loopShare_nonneg _ _) _
  rw [measureLoopCost]
  refine .get_bind ?_
  by_cases counted : (Clock.hasCycleCounter i.clock && i.calibration.hasFrequency) = true
  · rw [if_pos counted]
    exact (timeLoopsInCycles_ends counts _ (Bool.and_eq_true_iff.mp counted).2).bind taken
  · rw [if_neg counted]
    exact (timeLoops_ends _ _).bind taken

structure Underway (c : Calibration) (i : Instrument ω) : Prop where
  refined : Refined c i.calibration
  readCost_le : i.calibration.readCost ≤ Signed.greatest / 101

theorem Underway.ends {c : Calibration} {act : Action (Instrument ω) Unit} {i : Instrument ω}
    (underway : Underway c i)
    (ends : Ends act i (fun _ i' => Refined i.calibration i'.calibration) (Broken i.calibration)) :
    Ends act i (fun _ => Underway c) (Broken c) := by
  refine ends.mono (fun _ i' later => ?_) fun e i' failed => ?_
  · exact ⟨underway.refined.trans later, later.readCost_le.trans underway.readCost_le⟩
  · exact ⟨failed.1, underway.refined.trans failed.2⟩

def Passed (c : Calibration) (i : Instrument ω) : Prop :=
  ∃ c', Refined c c' ∧ c'.readCost ≤ Signed.greatest / 101 ∧
    i.calibration = { c' with passes := c.passes + 1 }

/-- Broken off by the clock, unless there are too many passes to count another. -/
def Interrupted (c : Calibration) (e : Failure) (i : Instrument ω) : Prop :=
  Refined c i.calibration ∧ (c.passes + 1 < word32 → ClockFailure ω e)

theorem Broken.interrupted {c : Calibration} {e : Failure} {i : Instrument ω}
    (broken : Broken c e i) : Interrupted c e i := ⟨broken.2, fun _ => broken.1⟩

theorem countPass_ends {c : Calibration} {i : Instrument ω} (underway : Underway c i) :
    Ends countPass i (fun _ => Passed c) (Interrupted c) := by
  rw [countPass]
  refine calibrationNow_bind ?_
  rw [underway.refined.passes_eq, Unsigned.add]
  by_cases few : c.passes + 1 < word32
  · rw [if_pos few]
    exact ⟨i.calibration, underway.refined, underway.readCost_le, rfl⟩
  · rw [if_neg few]
    exact ⟨underway.refined, fun more => absurd more few⟩

theorem pass_ends (counts : Counts ω) {p : CalibrationPlan} (reads : 100 ≤ p.reads)
    (loops : p.loops ≠ 0) (i : Instrument ω) :
    Ends (pass p) i (fun _ => Passed i.calibration) (Interrupted i.calibration) := by
  have step : ∀ {act : Action (Instrument ω) Unit} {i' : Instrument ω}, Underway i.calibration i' →
      Ends act i' (fun _ i'' => Refined i'.calibration i''.calibration) (Broken i'.calibration) →
      Ends act i' (fun _ => Underway i.calibration) (Interrupted i.calibration) :=
    fun underway ends => (underway.ends ends).mono (fun _ _ => id) fun _ _ => Broken.interrupted
  have rest : ∀ i' : Instrument ω, Underway i.calibration i' →
      Ends (measureLoopCost p >>= fun _ => countPass) i' (fun _ => Passed i.calibration)
        (Interrupted i.calibration) := fun i' underway =>
    (step underway (measureLoopCost_ends counts loops i')).bind fun _ _ => countPass_ends
  have first : Ends (measureReadCost p) i (fun _ => Underway i.calibration)
      (Interrupted i.calibration) :=
    (measureReadCost_ends reads i).mono (fun _ _ measured => ⟨measured.1, measured.2⟩)
      fun _ _ => Broken.interrupted
  rw [pass]
  refine first.bind fun _ i' underway => .get_bind ?_
  by_cases counter : Clock.hasCycleCounter i'.clock = true
  · rw [if_pos counter]
    refine (step underway (measureFrequency_ends counts p i')).bind fun _ i' underway => ?_
    refine (step underway (measureCycleReadCost_ends counts p i')).bind fun _ i' underway => ?_
    exact rest i' underway
  · rw [if_neg counter]
    exact rest i' underway

end Instrument

/-- Calibrations that come from nothing by passes, on any clocks and also by passes that broke off. -/
inductive Attained : Calibration → Prop
  | new : Attained .new
  | pass {ω : Type} [Clock ω] (counts : Counts ω) {p : CalibrationPlan} (valid : p.validate = .ok ())
      {i : Instrument ω} (before : Attained i.calibration) :
      Attained (remains (Instrument.pass p i)).calibration

theorem new_sound : Calibration.new.Sound where
  readCost_nonneg := by decide
  cycleReadCost_nonneg := by decide
  loopCost_nonneg := by decide
  hz_pos := by decide
  hz_lt := by decide
  frequency unmeasured := absurd rfl unmeasured

theorem Attained.sound {c : Calibration} (attained : Attained c) : c.Sound := by
  induction attained with
  | new => exact new_sound
  | @pass ω _ counts p valid i _ ih =>
      obtain ⟨reads, -, loops, -⟩ := CalibrationPlan.validate_eq_ok.mp valid
      have ends := Instrument.pass_ends counts reads loops i
      cases ran : Instrument.pass p i with
      | ok _ i' =>
          obtain ⟨c', refined, -, same⟩ := ends.of_ok ran
          have sound := refined.sound ih
          rw [remains, same]
          exact { sound with }
      | error e i' => exact (ends.of_error ran).1.sound ih

namespace Instrument

variable {ω : Type} [Clock ω]

end Instrument

end Jitter

import Jitter.Proofs.CalibrationPasses
import Jitter.Proofs.ForwardClocks
import Jitter.Proofs.Refusal

/-! Calibration and runs on a clock that does not run backward: no arithmetic breaks them off. -/

namespace Jitter

theorem Signed.fits_sub {a b : Int} (nonneg : 0 ≤ a) (later : a ≤ b) (word : b ≤ Signed.greatest) :
    Signed.Fits (b - a) := by
  simp only [Signed.Fits, Signed.least, Signed.greatest] at *
  omega

theorem Calibration.hasFrequency_of_ready {c : Calibration} {timebase : Timebase}
    (ready : c.gaps timebase = []) : timebase = .cycleCounter → c.hasFrequency = true := by
  rintro rfl
  exact requireFrequency_eq_ok.mp (frequency_of_ready ready)

theorem Lasts.onClock_bind {ω α β : Type} {past : Int → ω → Prop} {own : Fault → ω → Prop}
    {act : Action ω α} {shows : Int → α → Prop} {t : Int} {i : Instrument ω}
    {next : α → Action (Instrument ω) β} {last : β → Instrument ω → Prop}
    (lasts : Lasts past own act shows t i.clock)
    (rest : ∀ t' a w, t ≤ t' → shows t' a → past t' w →
      Ends (next a) { i with clock := w } last fun e i' => Excused own e i'.clock) :
    Ends (Instrument.onClock act >>= next) i last fun e i' => Excused own e i'.clock := by
  cases ran : act i.clock with
  | ok a w =>
      have done : Instrument.onClock act i = .ok a { i with clock := w } := Action.within_of_ok ran
      rcases Ends.of_ok lasts ran with ⟨t', after, shown, there⟩
      rw [Ends, bind_of_ok done]
      exact rest t' a w after shown there
  | error e w =>
      have broke : Instrument.onClock act i = .error e { i with clock := w } :=
        Action.within_of_error ran
      have excused := Ends.of_error lasts ran
      rw [Ends, bind_of_error broke]
      exact excused

namespace Instrument

variable {ω : Type} [Clock ω] {past : Int → ω → Prop} {own : Fault → ω → Prop} {p : CalibrationPlan}
  {i : Instrument ω} {n : Nat}

/-- An instrument after `n` passes, whose clock has come to a time that is not negative. -/
structure Aged (past : Int → ω → Prop) (n : Nat) (i : Instrument ω) : Prop where
  passes_eq : i.calibration.passes = n
  here : ∃ t, 0 ≤ t ∧ past t i.clock

omit [Clock ω] in
theorem Aged.refine (aged : Aged past n i) {f : Calibration → Calibration}
    (same : (f i.calibration).passes = i.calibration.passes) :
    Ends (refine f) i (fun _ => Aged past n) fun e i' => Excused own e i'.clock :=
  ⟨same.trans aged.passes_eq, aged.here⟩

theorem measureReadCost_aged (forward : Forward ω past own) (aged : Aged past n i) :
    Ends (measureReadCost p) i (fun _ => Aged past n) fun e i' => Excused own e i'.clock := by
  rcases aged.here with ⟨t, nonneg, here⟩
  apply (Lasts.span (Lasts.readMonotonic forward) here p.reads).onClock_bind
  rintro t' ⟨first, last⟩ w after ⟨⟨rfl, word⟩, t₁, since, before, rfl, -⟩ there
  have fits : Signed.Fits (last - first) := Signed.fits_sub (Int.le_trans nonneg since) before word
  dsimp only
  rw [Action.checked_bind_of_ok (Signed.sub_eq_ok.mpr ⟨fits, rfl⟩),
    Action.checked_bind_of_ok (perRead_eq _ _)]
  have later : Aged past n { i with clock := w } :=
    ⟨aged.passes_eq, last, Int.le_trans nonneg after, there⟩
  exact later.refine rfl

theorem measureFrequency_aged (forward : Forward ω past own) (aged : Aged past n i) :
    Ends (measureFrequency p) i (fun _ => Aged past n) fun e i' => Excused own e i'.clock := by
  rcases aged.here with ⟨t, nonneg, here⟩
  rw [measureFrequency]
  apply calibrationNow_bind
  apply (Lasts.readCycles forward t _ here).onClock_bind
  intro t₁ firstCycles w₁ after₁ _ here₁
  apply (Lasts.readMonotonic forward t₁ w₁ here₁).onClock_bind
  rintro t₂ firstNs w₂ after₂ ⟨rfl, -⟩ here₂
  apply (Lasts.regardless_wait forward here₂).onClock_bind
  intro t₃ _ w₃ after₃ _ here₃
  apply (Lasts.readCycles forward t₃ w₃ here₃).onClock_bind
  intro t₄ lastCycles w₄ after₄ word here₄
  apply (Lasts.readMonotonic forward t₄ w₄ here₄).onClock_bind
  rintro t₅ lastNs w₅ after₅ ⟨rfl, long⟩ here₅
  have fits : Signed.Fits (lastNs - firstNs) := Signed.fits_sub (by omega) (by omega) long
  have later : Aged past n { i with clock := w₅ } := ⟨aged.passes_eq, lastNs, by omega, here₅⟩
  rw [Action.checked_bind_of_ok (Signed.sub_eq_ok.mpr ⟨fits, rfl⟩)]
  by_cases moved : 0 < lastNs - firstNs
  · have counted : lastCycles - firstCycles < word64 := Nat.lt_of_le_of_lt (Nat.sub_le _ _) word
    rw [if_pos moved, Action.checked_bind_of_ok (frequency_eq counted moved)]
    generalize Unsigned.saturate word64 _ = hz
    by_cases ticked : 0 < hz
    · rw [if_pos ticked]
      exact later.refine rfl
    · rw [if_neg ticked]
      exact later
  · rw [if_neg moved]
    exact later

theorem measureCycleReadCost_aged (forward : Forward ω past own) (aged : Aged past n i) :
    Ends (measureCycleReadCost p) i (fun _ => Aged past n) fun e i' => Excused own e i'.clock := by
  rcases aged.here with ⟨t, nonneg, here⟩
  rw [measureCycleReadCost]
  apply calibrationNow_bind
  by_cases known : i.calibration.hasFrequency = true
  · rw [if_pos known]
    apply (Lasts.span (Lasts.readCycles forward) here p.reads).onClock_bind
    intro t' both w after shown there
    apply calibrationNow_bind
    have counted : (both.2 - both.1) / (p.reads + 1) < word64 :=
      Nat.lt_of_le_of_lt (Nat.le_trans (Nat.div_le_self _ _) (Nat.sub_le _ _)) shown.1
    rw [Action.checked_bind_of_ok (Calibration.nanos_of_known counted known)]
    have later : Aged past n { i with clock := w } :=
      ⟨aged.passes_eq, t', Int.le_trans nonneg after, there⟩
    exact later.refine rfl
  · rw [if_neg known]
    exact aged

theorem timeLoops_aged (forward : Forward ω past own) (aged : Aged past n i) (loops : Nat) :
    Ends (timeLoops loops) i (fun elapsed i' => elapsed ≤ Signed.greatest ∧ Aged past n i')
      fun e i' => Excused own e i'.clock := by
  rcases aged.here with ⟨t, nonneg, here⟩
  rw [timeLoops]
  apply (Lasts.aroundLoops forward (Lasts.readMonotonic forward) here loops).onClock_bind
  rintro t' ⟨first, last⟩ w after ⟨⟨rfl, word⟩, t₁, since, before, rfl, -⟩ there
  have fits : Signed.Fits (last - first) := Signed.fits_sub (Int.le_trans nonneg since) before word
  dsimp only
  rw [Action.checked_bind_of_ok (Signed.sub_eq_ok.mpr ⟨fits, rfl⟩)]
  apply calibrationNow_bind
  exact ⟨Signed.saturate_le _, aged.passes_eq, last, Int.le_trans nonneg after, there⟩

theorem timeLoopsInCycles_aged (forward : Forward ω past own) (aged : Aged past n i)
    (known : i.calibration.hasFrequency = true) (loops : Nat) :
    Ends (timeLoopsInCycles loops) i (fun elapsed i' => elapsed ≤ Signed.greatest ∧ Aged past n i')
      fun e i' => Excused own e i'.clock := by
  rcases aged.here with ⟨t, nonneg, here⟩
  rw [timeLoopsInCycles]
  apply (Lasts.aroundLoops forward (Lasts.readCycles forward) here loops).onClock_bind
  rintro t' ⟨first, last⟩ w after ⟨word, -⟩ there
  apply calibrationNow_bind
  have counted : last - first < word64 := Nat.lt_of_le_of_lt (Nat.sub_le _ _) word
  dsimp only
  rw [Action.checked_bind_of_ok (Calibration.nanos_of_known counted known)]
  exact ⟨Signed.saturate_le _, aged.passes_eq, t', Int.le_trans nonneg after, there⟩

theorem measureLoopCost_aged (forward : Forward ω past own) (aged : Aged past n i)
    (some : p.loops ≠ 0) :
    Ends (measureLoopCost p) i (fun _ => Aged past n) fun e i' => Excused own e i'.clock := by
  have taken : ∀ elapsed (i' : Instrument ω), elapsed ≤ Signed.greatest ∧ Aged past n i' →
      Ends
        ((do
          let cost ← perLoopUnit (max elapsed 0) p.loops
          refine fun c => { c with loopCost := min c.loopCost cost }) : Action (Instrument ω) Unit)
        i' (fun _ => Aged past n) fun e i' => Excused own e i'.clock := by
    intro elapsed i' done
    rw [Action.checked_bind_of_ok (perLoopUnit_eq done.1 some)]
    exact done.2.refine rfl
  rw [measureLoopCost]
  apply Ends.get_bind
  by_cases counted : (Clock.hasCycleCounter i.clock && i.calibration.hasFrequency) = true
  · rw [if_pos counted]
    have known := (Bool.and_eq_true_iff.mp counted).2
    exact (timeLoopsInCycles_aged forward aged known p.loops).bind taken
  · rw [if_neg counted]
    exact (timeLoops_aged forward aged p.loops).bind taken

omit [Clock ω] in
theorem countPass_aged (aged : Aged past n i) (few : n + 1 < word32) :
    Ends countPass i (fun _ => Aged past (n + 1)) fun e i' => Excused own e i'.clock := by
  rw [countPass]
  apply calibrationNow_bind
  rw [aged.passes_eq, Action.checked_bind_of_ok (Unsigned.add_of_lt few)]
  exact ⟨rfl, aged.here⟩

theorem calibrate_aged (forward : Forward ω past own) (aged : Aged past n i)
    (valid : p.validate = .ok ()) (few : n + 1 < word32) :
    Ends (calibrate p) i (fun _ => Aged past (n + 1)) fun e i' => Excused own e i'.clock := by
  have loops : p.loops ≠ 0 := (CalibrationPlan.validate_eq_ok.mp valid).2.2.1
  have rest : ∀ i' : Instrument ω, Aged past n i' →
      Ends (measureLoopCost p >>= fun _ => countPass) i' (fun _ => Aged past (n + 1))
        fun e i' => Excused own e i'.clock := by
    intro i' later
    apply (measureLoopCost_aged forward later loops).bind
    exact fun _ i'' last => countPass_aged last few
  rw [calibrate_of_valid valid, pass]
  apply (measureReadCost_aged forward aged).bind
  intro _ i₁ aged₁
  apply Ends.get_bind
  by_cases counter : Clock.hasCycleCounter i₁.clock = true
  · rw [if_pos counter]
    apply (measureFrequency_aged forward aged₁).bind
    intro _ i₂ aged₂
    apply (measureCycleReadCost_aged forward aged₂).bind
    exact fun _ i₃ aged₃ => rest i₃ aged₃
  · rw [if_neg counter]
    exact rest i₁ aged₁

end Instrument

namespace Meter

variable {ω : Type} [Clock ω] {past : Int → ω → Prop} {own : Fault → ω → Prop} {op : Operation ω}
  {plan : RunPlan} {c : Calibration} {t : Int} {w : ω} {m : Meter ω}

structure Onward (past : Int → ω → Prop) (op : Operation ω) (plan : RunPlan) : Prop where
  call : ∀ {t w}, past t w → past t (op w)
  rest : plan.pause < 0 → ∀ {t w}, past t w → past t (Clock.sleep (plan.pause.natAbs / 1000) w)

theorem elapsed_lasts (forward : Forward ω past own) (onward : Onward past op plan)
    (here : past t w) (nonneg : 0 ≤ t) {timebase : Timebase}
    (known : timebase = .cycleCounter → c.hasFrequency = true) :
    Lasts past own (elapsed op c timebase) (fun _ _ => True) t w := by
  have called : ∀ t₁ w₁, past t₁ w₁ →
      Lasts past own (modify op) (fun t₂ _ => t₂ = t₁) t₁ w₁ := fun t₁ w₁ here₁ =>
    .of_modify (onward.call here₁) rfl
  cases timebase with
  | cycleCounter =>
      apply (Lasts.readCycles forward t w here).bind
      intro t₁ first w₁ _ _ here₁
      apply (called t₁ w₁ here₁).bind
      intro t₂ _ w₂ _ _ here₂
      apply (Lasts.readCycles forward t₂ w₂ here₂).bind
      intro t₃ last w₃ _ word here₃
      have counted : last - first < word64 := Nat.lt_of_le_of_lt (Nat.sub_le _ _) word
      rw [Calibration.nanos_of_known counted (known rfl)]
      exact .pure here₃ trivial
  | monotonicClock =>
      apply (Lasts.readMonotonic forward t w here).bind
      rintro t₁ first w₁ after₁ ⟨rfl, -⟩ here₁
      apply (called first w₁ here₁).bind
      rintro _ _ w₂ _ rfl here₂
      apply (Lasts.readMonotonic forward _ w₂ here₂).bind
      rintro t₃ last w₃ after₃ ⟨rfl, word⟩ here₃
      have fits := Signed.fits_sub (Int.le_trans nonneg after₁) after₃ word
      rw [Signed.sub_eq_ok.mpr ⟨fits, rfl⟩]
      exact .pure here₃ trivial

theorem pace_lasts (forward : Forward ω past own) (onward : Onward past op plan) (here : past t w)
    (word : c.hz < word64) (pause : Signed.Fits plan.pause) :
    Lasts past own (pace c plan.timebase plan.pacing) (fun _ _ => True) t w := by
  rw [RunPlan.pacing, Pacing.ofPause]
  by_cases spun : 0 ≤ plan.pause
  · rw [if_pos spun]
    exact Lasts.wait forward here word pause.2 plan.timebase
  · rw [if_neg spun]
    exact .of_modify (onward.rest (Int.not_le.mp spun) here) trivial

theorem sample_lasts (forward : Forward ω past own) (onward : Onward past op plan)
    (here : past t w) (nonneg : 0 ≤ t) (word : c.hz < word64) (pause : Signed.Fits plan.pause)
    (known : plan.timebase = .cycleCounter → c.hasFrequency = true) :
    Lasts past own (sample op plan c) (fun _ _ => True) t w := by
  apply (elapsed_lasts forward onward here nonneg known).bind
  intro t₁ ns w₁ after₁ _ here₁
  apply (pace_lasts forward onward here₁ word pause).bind
  intro t₂ _ w₂ _ _ here₂
  exact .pure here₂ trivial

/-- What can break a run off: what a turn is excused for, and a histogram without room. -/
def Stopped (own : Fault → ω → Prop) (e : Failure) (m : Meter ω) : Prop :=
  Excused own e m.clock ∨ ∃ f sample, e = .fault f ∧ m.histogram.room sample = .error f

structure Underway (past : Int → ω → Prop) (c : Calibration) (m : Meter ω) : Prop where
  calibration_eq : m.calibration = c
  here : ∃ t, 0 ≤ t ∧ past t m.clock

theorem onClock_sample_ends (forward : Forward ω past own) (onward : Onward past op plan)
    (word : c.hz < word64) (pause : Signed.Fits plan.pause)
    (known : plan.timebase = .cycleCounter → c.hasFrequency = true) (underway : Underway past c m) :
    Ends (onClock (sample op plan m.calibration)) m (fun _ => Underway past c) (Stopped own) := by
  rcases underway.here with ⟨t, nonneg, here⟩
  rw [underway.calibration_eq]
  have lasts := sample_lasts forward onward here nonneg word pause known
  cases ran : sample op plan c m.clock with
  | ok x w =>
      rcases Ends.of_ok lasts ran with ⟨t', after, -, there⟩
      rw [Ends, onClock_of_ok ran]
      exact ⟨underway.calibration_eq, t', Int.le_trans nonneg after, there⟩
  | error e w =>
      have excused := Ends.of_error lasts ran
      rw [Ends, onClock_of_error ran]
      exact .inl excused

omit [Clock ω] in
theorem record_ends (underway : Underway past c m) (x : Nat) :
    Ends (record x) m (fun _ => Underway past c) (Stopped own) := by
  cases room : m.histogram.room x with
  | ok _ =>
      simp only [Ends, record, room]
      exact ⟨underway.calibration_eq, underway.here⟩
  | error f =>
      simp only [Ends, record, room]
      exact .inr ⟨f, x, rfl, room⟩

/-- Whatever each turn keeps, and no turn is to blame: a run is refused, or has all its turns, or one of
them stops it. -/
theorem run_ends (forward : Forward ω past own) (onward : Onward past op plan)
    (word : m.calibration.hz < word64) (pause : Signed.Fits plan.pause)
    (underway : Underway past m.calibration m) :
    Ends (run plan op) m (fun _ => Underway past m.calibration) (Stopped own) := by
  cases listed : objections plan m with
  | cons objection more =>
      have first : (objections plan m).head? = some objection := by rw [listed, List.head?_cons]
      rw [Ends, run_of_objection first]
      exact .inl (.refused objection)
  | nil =>
      have known := Calibration.hasFrequency_of_ready (gaps_of_clear listed).1
      have timed : ∀ m' : Meter ω, Underway past m.calibration m' →
          Ends (onClock (sample op plan m'.calibration)) m' (fun _ => Underway past m.calibration)
            (Stopped own) := fun _ => onClock_sample_ends forward onward word pause known
      have warned : Underway past m.calibration m.warned := by
        refine ⟨warned_calibration m, ?_⟩
        rw [warned_clock]
        exact underway.here
      have discarded : Ends (repeatedly (discardOne op plan) plan.warmup) m.warned
          (fun _ => Underway past m.calibration) (Stopped own) := by
        refine .repeatedly (fun m' here => ?_) warned plan.warmup
        apply Ends.get_bind
        exact (timed m' here).bind fun _ _ later => later
      have looped : Ends (loop op plan) m.warned (fun _ => Underway past m.calibration)
          (Stopped own) := by
        apply discarded.bind
        intro _ m₁ begun
        refine .repeatedly (fun m' here => ?_) begun plan.measured
        apply Ends.get_bind
        exact (timed m' here).bind fun x _ later => record_ends later x
      rw [Ends, run_of_clear listed]
      exact looped.bind fun _ _ done => done

end Meter

end Jitter

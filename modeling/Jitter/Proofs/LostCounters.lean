import Jitter.Proofs.Outcome
import Jitter.Proofs.RunReports
import Jitter.Proofs.UnrefusedPasses

/-! What refuses a run that has begun: a cycle counter that is gone, and nothing else. -/

namespace Jitter

variable {ω α : Type} [Clock ω] {c : Calibration} {timebase : Timebase}

/-- A fault, or the refusal of a timebase whose counter is gone. -/
def Gone (timebase : Timebase) : Failure → ω → Prop
  | .error e, w => timebase = .cycleCounter ∧ e = .timebaseUnavailable .cycleCounter ∧
      Clock.hasCycleCounter w = false
  | .fault _, _ => True

theorem Unrefused.ends {act : Action ω α} (clear : Unrefused (fun _ => True) act) (w : ω) :
    Ends act w (fun _ _ => True) (Gone timebase) := by
  cases ran : act w with
  | ok a w' =>
      rw [Ends, ran]
      trivial
  | error e w' =>
      rw [Ends, ran]
      cases e with
      | error e => exact absurd ran ((clear w trivial).2 e w')
      | fault f => trivial

/-- The counter is looked for at the beginning of a wait, and nothing is read when it is not there. -/
theorem wait_ends (ready : c.gaps timebase = []) (ns : Int) (w : ω) :
    Ends (Spin.wait c timebase ns) w (fun _ _ => True) (Gone timebase) := by
  by_cases none : ns ≤ 0
  · rw [Ends, Spin.wait_of_nonpos none]
    trivial
  · have some : 0 < ns := by omega
    cases timebase with
    | monotonicClock =>
        rw [Ends, Spin.wait_monotonicClock some]
        exact (onMonotonicClock_unrefused Unrefused.readMonotonic ready ns).ends w
    | cycleCounter =>
        rw [Ends, Spin.wait_cycleCounter some]
        by_cases there : Clock.hasCycleCounter w
        · rw [Spin.onCycleCounter_of_counter there]
          exact (countUp_unrefused Unrefused.readCycles ready ns).ends w
        · rw [Spin.onCycleCounter_of_none there]
          exact ⟨rfl, rfl, eq_false_of_ne_true there⟩

namespace Meter

variable (op : Operation ω) {plan : RunPlan} {m m' : Meter ω} {e : Error}

theorem sample_ends (ready : c.gaps plan.timebase = []) (w : ω) :
    Ends (sample op plan c) w (fun _ _ => True) (Gone plan.timebase) := by
  have timed : Unrefused (fun _ => True) (elapsed op c plan.timebase) :=
    elapsed_unrefused Unrefused.readMonotonic Unrefused.readCycles (fun _ _ => trivial) c
      plan.timebase
  refine (timed.ends w).bind fun ns w₁ _ => ?_
  have paced : Ends (pace c plan.timebase plan.pacing) w₁ (fun _ _ => True)
      (Gone plan.timebase) := by
    cases plan.pacing with
    | spin ns => exact wait_ends ready ns w₁
    | sleep us => trivial
  exact paced.bind fun _ _ _ => trivial

theorem discardAll_ends (ready : m.calibration.gaps plan.timebase = []) (n : Nat) :
    Ends (repeatedly (discardOne op plan) n) m
      (fun _ m' => m'.calibration = m.calibration ∧ m'.histogram = m.histogram)
      (fun e m' => Gone plan.timebase e m'.clock ∧ m'.histogram = m.histogram) := by
  refine .repeatedly (fun m₁ same => ?_) ⟨rfl, rfl⟩ n
  rcases same with ⟨known, same⟩
  have timed := sample_ends op (known ▸ ready) m₁.clock
  cases sampled : sample op plan m₁.calibration m₁.clock with
  | ok x w =>
      rw [Ends, discardOne_eq_ok.mpr ⟨x, w, sampled, rfl⟩]
      exact ⟨known, same⟩
  | error e w =>
      rw [Ends, discardOne_of_error sampled]
      exact ⟨timed.of_error sampled, same⟩

/-- The turn that is broken off counts no sample. -/
theorem recordAll_ends (ready : m.calibration.gaps plan.timebase = []) (n : Nat) :
    Ends (repeatedly (recordOne op plan) n) m (fun _ _ => True)
      (fun e m' => Gone plan.timebase e m'.clock ∧
        m'.histogram.samples < m.histogram.samples + n) := by
  induction n generalizing m with
  | zero => trivial
  | succ n ih =>
      have timed := sample_ends op ready m.clock
      rw [repeatedly]
      cases sampled : sample op plan m.calibration m.clock with
      | error e w =>
          rw [Ends, bind_of_error (recordOne_of_error sampled)]
          exact ⟨timed.of_error sampled, by simp⟩
      | ok x w =>
          cases taken : m.histogram.accumulate x with
          | error f =>
              rw [Ends, bind_of_error (recordOne_of_full sampled taken)]
              exact ⟨trivial, by simp⟩
          | ok h =>
              have one : h.samples = m.histogram.samples + 1 := by
                rw [(Histogram.accumulate_eq_ok.mp taken).2, Histogram.insert_samples]
              have later := ih (m := { m with clock := w, histogram := h }) ready
              rw [Ends, bind_of_ok (recordOne_eq_ok.mpr ⟨x, w, h, sampled, taken, rfl⟩)]
              refine later.mono (fun _ _ _ => trivial) fun e m' broken => ⟨broken.1, ?_⟩
              -- One sample is in, and of the turns that are left the last adds none.
              have fewer := broken.2
              simp only [one] at fewer
              omega

theorem loop_ends (ready : m.calibration.gaps plan.timebase = []) :
    Ends (loop op plan) m (fun _ _ => True)
      (fun e m' => Gone plan.timebase e m'.clock ∧
        m'.histogram.samples ≤ m.histogram.samples + (plan.measured - 1)) := by
  have warmup := discardAll_ends op ready plan.warmup
  rw [loop]
  refine (warmup.mono (fun _ _ same => same) fun e m' broken => ?_).bind fun _ m₁ same => ?_
  · exact ⟨broken.1, by rw [broken.2]; omega⟩
  · rcases same with ⟨known, same⟩
    have measured := recordAll_ends op (known ▸ ready) plan.measured
    refine measured.mono (fun _ _ _ => trivial) fun e m' broken => ⟨broken.1, ?_⟩
    have fewer := broken.2
    rw [same] at fewer
    omega

/-- A run that began with the counter there, and that was refused once it was gone. -/
structure Lost (plan : RunPlan) (m m' : Meter ω) (e : Error) : Prop where
  clear : objections plan m = []
  timebase_eq : plan.timebase = .cycleCounter
  error_eq : e = .timebaseUnavailable .cycleCounter
  there : Clock.hasCycleCounter m.clock = true
  gone : Clock.hasCycleCounter m'.clock = false
  records : Records m m'
  fewer : m'.histogram.samples ≤ m.histogram.samples + (plan.measured - 1)

variable {op}

theorem objection_or_lost (broke : run plan op m = .error (.error e) m') :
    (objections plan m).head? = some e ∧ m' = refused plan m ∨ Lost plan m m' e := by
  cases listed : objections plan m with
  | cons objection more =>
      have first : (objections plan m).head? = some objection := by rw [listed, List.head?_cons]
      rw [run_of_objection first] at broke
      cases broke
      exact .inl ⟨rfl, rfl⟩
  | nil =>
      have recorded := run_recording plan op m
      rw [broke] at recorded
      rcases gaps_of_clear listed with ⟨ready, there⟩
      have looped := loop_ends op (m := m.warned) (warned_calibration m ▸ ready)
      rw [run_of_clear listed] at broke
      rcases bind_eq_error.mp broke with now | ⟨_, _, _, ⟨⟩⟩
      obtain ⟨⟨timebase, error, gone⟩, fewer⟩ := looped.of_error now
      rw [warned_histogram] at fewer
      exact .inr ⟨listed, timebase, error, there timebase, gone, recorded, fewer⟩

end Meter

/-- A stepped clock that has its counter for so many readings more. -/
structure FadingClock where
  clock : SteppedClock
  left : Nat
  deriving DecidableEq, Repr

namespace FadingClock

def reading (act : EStateM Fault SteppedClock α) : EStateM Fault FadingClock α := fun c =>
  match act c.clock with
  | .ok a clock => .ok a ⟨clock, c.left - 1⟩
  | .error f clock => .error f ⟨clock, c.left - 1⟩

instance : Clock FadingClock where
  monotonic := reading Clock.monotonic
  cycles := reading Clock.cycles
  hasCycleCounter c := 0 < c.left
  sleep us c := { c with clock := Clock.sleep us c.clock }
  idle loops c := { c with clock := Clock.idle loops c.clock }

end FadingClock

end Jitter

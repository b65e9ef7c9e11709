import Jitter.Proofs.RunSamples
import Jitter.Proofs.SteppedRun
import Mathlib

/-! What a run on the monotonic clock of a stepped world records, however it is paced. -/

namespace Jitter

namespace Stands

def pauseEnd (s : Nat) (cost pause t : Int) : Int :=
  if pause < 0 then t + (pause.natAbs / 1000 * 1000 : Nat)
  else if pause = 0 then t
  else waitEnd s cost pause t

def turnEnd (s : Nat) (cost pause t : Int) (n : Nat) : Int :=
  pauseEnd s cost pause (t + s + (n + s : Nat))

def turnStart (s : Nat) (cost pause : Int) (a : Nat → Nat) (t : Int) : Nat → Int
  | 0 => t
  | i + 1 => turnEnd s cost pause (turnStart s cost pause a t i) (a i)

variable {s : Nat} {t cost pause : Int} {a : Nat → Nat}

theorem le_pauseEnd : t ≤ pauseEnd s cost pause t := by
  have waited : t + s ≤ waitEnd s cost pause t := le_arrival
  simp only [pauseEnd]
  split
  · omega
  · split
    · omega
    · omega

theorem turnStart_monotone : Monotone (turnStart s cost pause a t) := by
  apply monotone_nat_of_le_succ
  intro i
  have paused : _ ≤ turnStart s cost pause a t (i + 1) := le_pauseEnd
  omega

end Stands

namespace Meter

open Stands

variable {κ : Type} {v : Movement} {s i : Nat} {t : Int} {x : κ} {w : SteppedClock × κ} {c : Calibration}
  {a : Nat → Nat} {before : Nat → κ → Prop} {plan : RunPlan} {op : Operation (SteppedClock × κ)}
  {m : Meter (SteppedClock × κ)}

/-- What is left of a call and one step when the cost of a reading is paid; at most a word. -/
def leftOf (s : Nat) (cost : Int) (n : Nat) : Nat :=
  (min (max 0 ((n + s : Nat) - cost)) Signed.greatest).toNat

theorem sampleOf_eq_leftOf (cost : Int) (n : Nat) : sampleOf (n + s : Nat) cost = leftOf s cost n := by
  simp only [sampleOf, leftOf, Signed.saturate, Signed.least, Signed.greatest]
  omega

def measuredCalls (s : Nat) (cost : Int) (a : Nat → Nat) (plan : RunPlan) : List Nat :=
  (List.range' plan.warmup plan.measured).map fun i => leftOf s cost (a i)

theorem elapsed_stands (advances : Advances op a before) (stands : Stands v t x w)
    (called : before i x) (short : ((a i + v.step : Nat) : Int) ≤ Signed.greatest)
    (ends : t + v.step + (a i + v.step : Nat) ≤ Signed.greatest) :
    Completes (elapsed op c .monotonicClock) w fun ns w' =>
      ns = (a i + v.step : Nat) ∧
        ∃ x', before (i + 1) x' ∧ Stands v (t + v.step + (a i + v.step : Nat)) x' w' := by
  have second : t + v.step + (a i + v.step : Nat) = t + v.step + a i + v.step := by omega
  rw [second] at ends ⊢
  apply (stands.read (by omega)).bind
  intro first w₁ read₁
  rcases read₁ with ⟨rfl, stands₁⟩
  rcases stands₁.call advances called (by omega) with ⟨x', later, moved⟩
  have call : Completes (ε := Failure) (modify op) w₁ fun _ w₂ =>
      Stands v (t + v.step + a i) x' w₂ := .modify moved
  apply call.bind
  intro _ w₂ stands₂
  apply (stands₂.read ends).bind
  intro last w₃ read₃
  rcases read₃ with ⟨rfl, stands₃⟩
  have subtracted : Signed.sub (t + v.step + a i + v.step) (t + v.step) =
      .ok ((a i + v.step : Nat) : Int) := by
    rw [Signed.sub_eq_ok]
    simp only [Signed.Fits, Signed.least, Signed.greatest] at *
    omega
  exact .of_ok (Action.checked_eq_ok.mpr ⟨subtracted, rfl⟩) ⟨rfl, x', later, stands₃⟩

theorem pace_stands (stands : Stands v t x w) (known : c.readCost ≠ unmeasuredCost)
    (pause : Signed.Fits plan.pause) (moves : 0 < plan.pause → 0 < v.step)
    (fits : pauseEnd v.step c.readCost plan.pause t ≤ Signed.greatest) :
    Completes (pace c .monotonicClock plan.pacing) w fun _ =>
      Stands v (pauseEnd v.step c.readCost plan.pause t) x := by
  simp only [RunPlan.pacing, Pacing.ofPause, pauseEnd] at *
  by_cases slept : plan.pause < 0
  · rw [if_neg (Int.not_le.mpr slept)]
    rw [if_pos slept] at fits ⊢
    have word : ((plan.pause.natAbs / 1000 * 1000 : Nat) : Int) ≤ Signed.greatest := by
      simp only [Signed.Fits, Signed.least, Signed.greatest] at *
      omega
    exact .modify (stands.sleep word fits)
  · rw [if_pos (Int.not_lt.mp slept)]
    rw [if_neg slept] at fits ⊢
    by_cases none : plan.pause = 0
    · rw [if_pos none, pace]
      exact .of_ok (Spin.wait_of_nonpos (Int.le_of_eq none) w) stands
    · have some : 0 < plan.pause := by omega
      rw [if_neg none] at fits ⊢
      exact .of_eq (Spin.wait_monotonicClock some w) (stands.wait (moves some) known fits)

/-- A run on the monotonic clock of a stepped world whose times stay in a word, as do the times that
it measures. -/
structure OnTime (s : Nat) (a : Nat → Nat) (before : Nat → κ → Prop) (plan : RunPlan)
    (op : Operation (SteppedClock × κ)) (m : Meter (SteppedClock × κ)) : Prop where
  timebase : plan.timebase = .monotonicClock
  step_eq : m.clock.1.step = s
  least_le : Signed.least ≤ m.clock.1.now
  advances : Advances op a before
  called : before 0 m.clock.2
  pause : Signed.Fits plan.pause
  /-- No wait would come to an end on a clock that does not move. -/
  moves : 0 < plan.pause → 0 < s
  known : m.calibration.readCost ≠ unmeasuredCost
  sized : 0 < m.histogram.count
  few : plan.warmup + plan.measured < word64
  ends : turnStart s m.calibration.readCost plan.pause a m.clock.1.now
    (plan.warmup + plan.measured) ≤ Signed.greatest
  short : ∀ i < plan.warmup + plan.measured, ((a i + s : Nat) : Int) ≤ Signed.greatest

namespace OnTime

theorem clear (timely : OnTime s a before plan op m) : objections plan m = [] := by
  have gaps : m.calibration.gaps .monotonicClock = [] := by
    simp [Calibration.gaps, timely.known]
  rw [objections, obstacles, timely.timebase, gaps, RunPlan.excess,
    if_neg (Nat.not_le.mpr timely.few), if_neg (Nat.pos_iff_ne_zero.mp timely.sized)]
  rfl

def movement (s : Nat) (m : Meter (SteppedClock × κ)) : Movement :=
  ⟨s, m.clock.1.frequency, m.clock.1.counter⟩

theorem start (timely : OnTime s a before plan op m) :
    ∃ x, before 0 x ∧ Stands (movement s m)
      (turnStart s m.calibration.readCost plan.pause a m.clock.1.now 0) x m.clock :=
  ⟨m.clock.2, timely.called, rfl, timely.step_eq, rfl, rfl, rfl, timely.least_le⟩

theorem measures (timely : OnTime s a before plan op m) :
    Measures op plan m.calibration (fun i => leftOf s m.calibration.readCost (a i)) fun i w =>
      ∃ x, before i x ∧ Stands (movement s m)
        (turnStart s m.calibration.readCost plan.pause a m.clock.1.now i) x w := by
  intro i below w here
  rcases here with ⟨x, called, stands⟩
  have ends : turnStart s m.calibration.readCost plan.pause a m.clock.1.now (i + 1) ≤
      Signed.greatest := Int.le_trans (turnStart_monotone below) timely.ends
  have second : _ ≤ Signed.greatest := Int.le_trans le_pauseEnd ends
  simp only [Meter.sample, timely.timebase]
  apply (elapsed_stands timely.advances stands called (timely.short i below) second).bind
  intro ns w₁ timed
  rcases timed with ⟨rfl, x', later, stands₁⟩
  apply (pace_stands stands₁ timely.known timely.pause timely.moves ends).bind
  intro _ w₂ stands₂
  exact .pure ⟨sampleOf_eq_leftOf _ _, x', later, stands₂⟩

theorem run_ok (timely : OnTime s a before plan op m) {h : Histogram}
    (taken : m.histogram.accumulateAll (measuredCalls s m.calibration.readCost a plan) = .ok h) :
    ∃ m', run plan op m = .ok ⟨plan.warmup + plan.measured, plan.measured⟩ m' ∧ m'.histogram = h ∧
      m'.calibration = m.calibration ∧
      m'.clock.1.now = turnStart s m.calibration.readCost plan.pause a m.clock.1.now
        (plan.warmup + plan.measured) := by
  have outcome := timely.measures.run timely.clear timely.start
  rw [← measuredCalls, taken] at outcome
  cases ran : run plan op m with
  | ok stats m' =>
      rcases outcome.of_ok ran with ⟨rfl, recorded, known, x, -, stands⟩
      cases recorded
      exact ⟨m', rfl, rfl, known, stands.now_eq⟩
  | error e m' =>
      rcases outcome.of_error ran with ⟨f, -, full⟩
      cases full

theorem run_error (timely : OnTime s a before plan op m) {f : Fault}
    (full : m.histogram.accumulateAll (measuredCalls s m.calibration.readCost a plan) = .error f) :
    ∃ m', run plan op m = .error (.fault f) m' := by
  have outcome := timely.measures.run timely.clear timely.start
  rw [← measuredCalls, full] at outcome
  cases ran : run plan op m with
  | ok stats m' =>
      rcases outcome.of_ok ran with ⟨-, recorded, -⟩
      cases recorded
  | error e m' =>
      rcases outcome.of_error ran with ⟨g, rfl, same⟩
      cases same
      exact ⟨m', rfl⟩

end OnTime

/-- A run takes in what is left of each measured call, in the order of the calls. Neither the pauses
between them nor the calls before them leave a trace in the histogram. -/
theorem paced_run_records_calls (timely : OnTime s a before plan op m) :
    (∀ h, m.histogram.accumulateAll (measuredCalls s m.calibration.readCost a plan) = .ok h →
      ∃ m', run plan op m = .ok ⟨plan.warmup + plan.measured, plan.measured⟩ m' ∧
        m'.histogram = h ∧ m'.calibration = m.calibration ∧
        m'.clock.1.now = turnStart s m.calibration.readCost plan.pause a m.clock.1.now
          (plan.warmup + plan.measured)) ∧
      (∀ f, m.histogram.accumulateAll (measuredCalls s m.calibration.readCost a plan) = .error f →
        ∃ m', run plan op m = .error (.fault f) m') ∧
      ∀ (a' : Nat → Nat) (before' : Nat → κ → Prop) (plan' : RunPlan)
        (op' : Operation (SteppedClock × κ)), OnTime s a' before' plan' op' m →
        plan'.warmup = plan.warmup → plan'.measured = plan.measured →
        (∀ i, plan.warmup ≤ i → i < plan.warmup + plan.measured → a' i = a i) →
        ∀ stats m₁, run plan op m = .ok stats m₁ →
          ∃ m₂, run plan' op' m = .ok stats m₂ ∧ m₂.histogram = m₁.histogram := by
  refine ⟨fun h taken => timely.run_ok taken, fun f full => timely.run_error full, ?_⟩
  intro a' before' plan' op' timely' warmups counts same stats m₁ ran
  have calls : measuredCalls s m.calibration.readCost a' plan' =
      measuredCalls s m.calibration.readCost a plan := by
    rw [measuredCalls, measuredCalls, warmups, counts]
    apply List.map_congr_left
    intro i member
    rcases List.mem_range'_1.mp member with ⟨late, below⟩
    rw [same i late below]
  cases taken : m.histogram.accumulateAll (measuredCalls s m.calibration.readCost a plan) with
  | error f =>
      rcases timely.run_error taken with ⟨m', broke⟩
      rw [broke] at ran
      cases ran
  | ok h =>
      rcases timely.run_ok taken with ⟨m', first, rfl, -⟩
      rw [← calls] at taken
      rcases timely'.run_ok taken with ⟨m₂, second, recorded, -⟩
      rw [first] at ran
      cases ran
      rw [warmups, counts] at second
      exact ⟨m₂, second, recorded⟩

/-- A pause and a warmup call that differ: the samples are the same. -/
theorem pauses_leave_no_trace :
    ∃ (m m₁ m₂ : Meter (SteppedClock × Nat)) (op op' : Operation (SteppedClock × Nat)),
      run ⟨1, 2, 35, .monotonicClock⟩ op m = .ok ⟨3, 2⟩ m₁ ∧
        run ⟨1, 2, -3000, .monotonicClock⟩ op' m = .ok ⟨3, 2⟩ m₂ ∧
        m.histogram.accumulateAll [35, 135] = .ok m₁.histogram ∧ m₂.histogram = m₁.histogram := by
  let m : Meter (SteppedClock × Nat) :=
    { clock := (.new 10 1000000000, 0), calibration := .ofMeasurements 25 10 1000000000 100
      histogram := .blank 50 (by decide) (Array.replicate 10 0), notices := [] }
  let calls (warmup : Nat) (i : Nat) : Nat := if i = 0 then warmup else 100 * i - 50
  let op (warmup : Nat) : Operation (SteppedClock × Nat) :=
    fun w => (w.1.advance (calls warmup w.2), w.2 + 1)
  have advances (warmup : Nat) : Advances (op warmup) (calls warmup) fun i done => done = i := by
    constructor
    · intro i c done same
      rw [← same]
    · intro i c done same
      rw [← same]
  have timely (warmup : Nat) (few : warmup ≤ 1000) (pause : Int) (fits : Signed.Fits pause)
      (ends : turnStart 10 25 pause (calls warmup) 1000000000 3 ≤ Signed.greatest) :
      OnTime 10 (calls warmup) (fun i done => done = i) ⟨1, 2, pause, .monotonicClock⟩ (op warmup)
        m := by
    have turns : 1 + 2 < word64 := by decide
    refine ⟨rfl, rfl, by decide, advances warmup, rfl, fits, fun _ => by decide, by decide,
      by decide, turns, ends, fun i below => ?_⟩
    simp only [calls, Signed.greatest] at *
    split <;> omega
  have slow := timely 1000 (by decide) 35 (by decide) (by decide +kernel)
  have fast := timely 0 (by decide) (-3000) (by decide) (by decide +kernel)
  rcases paced_run_records_calls slow with ⟨records, -, same⟩
  let h : Histogram :=
    { m.histogram with
      buckets := #[1, 0, 1, 0, 0, 0, 0, 0, 0, 0], least := 35, greatest := 135, total := 170
      samples := 2, average := 85, average_eq := rfl }
  have taken : m.histogram.accumulateAll [35, 135] = .ok h := by cbv
  rcases records h taken with ⟨m₁, first, recorded, -⟩
  have alike : ∀ i, 1 ≤ i → i < 1 + 2 → calls 0 i = calls 1000 i := by
    intro i late _
    simp only [calls, if_neg (Nat.ne_of_gt late)]
  rcases same _ _ _ _ fast rfl rfl alike _ _ first with ⟨m₂, second, equal⟩
  rw [← recorded] at taken
  exact ⟨m, m₁, m₂, op 1000, op 0, first, second, taken, equal⟩

/-- A cost far below zero makes a sample of more than a word, and a call that begins before zero may
take more than a word. -/
theorem vast_times_not_recorded :
    ∃ m m₁ m₂ m₃ : Meter SteppedClock,
      run ⟨0, 1, 0, .monotonicClock⟩ (SteppedClock.advance 0) m = .ok ⟨1, 1⟩ m₁ ∧
        m.histogram.accumulate (max 0 (0 + 10 - m.calibration.readCost)).toNat ≠
          .ok m₁.histogram ∧
        m₁.histogram.total = 9223372036854775807 ∧
        run ⟨0, 1, 0, .monotonicClock⟩ (SteppedClock.advance Signed.greatest) m₂ =
          .error (.fault .subOverflow) m₃ ∧
        Signed.Fits m₃.clock.now := by
  let m : Meter SteppedClock :=
    { clock := .new 10 1000000000, calibration := .ofMeasurements Signed.least 10 1000000000 100
      histogram := .blank 10 (by decide) (Array.replicate 10 0), notices := [] }
  let m₁ : Meter SteppedClock :=
    { m with
      clock := { m.clock with now := 1000000020, reads := 2 }
      histogram :=
        { m.histogram with
          overflow := 1, least := 9223372036854775807, greatest := 9223372036854775807
          total := 9223372036854775807, samples := 1, average := 9223372036854775807
          average_eq := rfl } }
  let m₂ : Meter SteppedClock :=
    { m with
      clock := { m.clock with now := -5000000000000000000 }
      calibration := .ofMeasurements 10 10 1000000000 100 }
  let m₃ : Meter SteppedClock :=
    { m₂ with clock := { m.clock with now := 4223372036854775827, reads := 2 } }
  have saturated : run ⟨0, 1, 0, .monotonicClock⟩ (SteppedClock.advance 0) m = .ok ⟨1, 1⟩ m₁ := by
    cbv
  have apart : run ⟨0, 1, 0, .monotonicClock⟩ (SteppedClock.advance Signed.greatest) m₂ =
      .error (.fault .subOverflow) m₃ := by
    cbv
  have other : m.histogram.accumulate (max 0 (0 + 10 - m.calibration.readCost)).toNat ≠
      .ok m₁.histogram := by
    intro taken
    have total := congrArg Histogram.total (Histogram.accumulate_eq_ok.mp taken).2
    rw [Histogram.insert_total] at total
    exact absurd total (by decide)
  exact ⟨m, m₁, m₂, m₃, saturated, other, rfl, apart, by decide⟩

end Meter

end Jitter

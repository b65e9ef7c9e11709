import Jitter.Proofs.Conversion
import Jitter.Proofs.TurnLoops
import Mathlib.Tactic

/-! All that can speak against a run, whether or not something else does so first. -/

namespace Jitter

/-- What a calibration lacks for a timebase, in the order in which it is asked for. -/
def Calibration.gaps (c : Calibration) (timebase : Timebase) : List String :=
  (if c.readCost = unmeasuredCost then ["monotonic clock read cost"] else []) ++
    match timebase with
    | .monotonicClock => []
    | .cycleCounter =>
      (if c.hz = unmeasuredHz ∨ c.hz = 0 then ["cycle counter frequency"] else []) ++
        if c.cycleReadCost = unmeasuredCost then ["cycle counter read cost"] else []

def RunPlan.excess (plan : RunPlan) : List Error :=
  if word64 ≤ plan.warmup + plan.measured then
    [.invalidConfig
      ("warmup_count " ++ toString plan.warmup ++ " + measured_count " ++ toString plan.measured ++
        " overflows")]
  else []

theorem RunPlan.excess_eq_nil {plan : RunPlan} :
    plan.excess = [] ↔ plan.warmup + plan.measured < word64 := by
  simp [excess]

namespace Meter

variable {ω : Type}

def warned (m : Meter ω) : Meter ω :=
  if m.calibration.passes < recommendedPasses ∧ ¬m.calibration.preset then
    { m with notices := m.notices ++ [.fewPasses] }
  else m

@[simp]
theorem warned_clock (m : Meter ω) : m.warned.clock = m.clock := by
  simp only [warned]
  split <;> rfl

@[simp]
theorem warned_calibration (m : Meter ω) : m.warned.calibration = m.calibration := by
  simp only [warned]
  split <;> rfl

@[simp]
theorem warned_histogram (m : Meter ω) : m.warned.histogram = m.histogram := by
  simp only [warned]
  split <;> rfl

variable [Clock ω]

def obstacles (plan : RunPlan) (m : Meter ω) : List Error :=
  (if plan.timebase = .cycleCounter ∧ Clock.hasCycleCounter m.clock = false then
    [.timebaseUnavailable .cycleCounter]
  else []) ++
  (m.calibration.gaps plan.timebase).map .notCalibrated ++
  if m.histogram.count = 0 then [.invalidConfig "histogram must be initialized before a run"] else []

def objections (plan : RunPlan) (m : Meter ω) : List Error := obstacles plan m ++ plan.excess

end Meter

/-- The outcome of a check that reports the first of all objections. -/
def firstOf {ε : Type} : List ε → Except ε Unit
  | [] => .ok ()
  | e :: _ => .error e

theorem firstOf_eq_ok {ε : Type} {l : List ε} : firstOf l = .ok () ↔ l = [] := by
  cases l with
  | nil => exact ⟨fun _ => rfl, fun _ => rfl⟩
  | cons e l => exact ⟨fun clear => (nomatch clear), fun none => (nomatch none)⟩

theorem Calibration.ensureReady_eq (c : Calibration) (timebase : Timebase) :
    c.ensureReady timebase = firstOf ((c.gaps timebase).map .notCalibrated) := by
  simp only [ensureReady, gaps, requireReadCost, requireFrequency, requireCycleReadCost]
  simp only [c.hasFrequency_iff]
  by_cases cost : c.readCost = unmeasuredCost
  · simp [cost, firstOf, bind, Except.bind]
  · cases timebase with
    | monotonicClock => simp [cost, firstOf, bind, Except.bind, pure, Except.pure]
    | cycleCounter =>
        by_cases frequency : c.hz = unmeasuredHz ∨ c.hz = 0
        · simp only [cost, frequency]
          rfl
        · simp only [cost, frequency]
          by_cases counterCost : c.cycleReadCost = unmeasuredCost
          · simp only [counterCost]
            rfl
          · simp only [counterCost]
            rfl

theorem Calibration.ensureReady_eq_ok {c : Calibration} {timebase : Timebase} :
    c.ensureReady timebase = .ok () ↔ c.gaps timebase = [] := by
  rw [ensureReady_eq, firstOf_eq_ok, List.map_eq_nil_iff]

namespace Meter

variable {ω : Type} [Clock ω]

theorem ensureReady_eq (plan : RunPlan) (m : Meter ω) :
    ensureReady plan m =
      match firstOf (obstacles plan m) with
      | .ok () => .ok () m.warned
      | .error e => .error (.error e) m := by
  simp only [ensureReady, obstacles]
  rw [run_get_bind]
  by_cases away : plan.timebase = .cycleCounter ∧ Clock.hasCycleCounter m.clock = false
  · simp [away, firstOf]
  · have present : ¬(plan.timebase = .cycleCounter ∧ ¬Clock.hasCycleCounter m.clock = true) := by
      simpa using away
    simp only [if_neg away, if_neg present, Calibration.ensureReady_eq]
    cases gaps : m.calibration.gaps plan.timebase with
    | cons what more => rfl
    | nil =>
        have ready : (liftM (firstOf (([] : List String).map Error.notCalibrated)) :
            Action (Meter ω) Unit) m = .ok () m := rfl
        rw [bind_of_ok ready]
        by_cases unsized : m.histogram.count = 0
        · simp [m.histogram.isSized_iff, unsized, firstOf]
        · have sized : m.histogram.isSized = true :=
            m.histogram.isSized_iff.mpr (Nat.pos_of_ne_zero unsized)
          rw [if_pos sized, if_neg unsized]
          simp only [warned, notify]
          split
          · rfl
          · rfl

theorem iterations_eq (plan : RunPlan) :
    plan.iterations = (firstOf plan.excess).map fun _ => plan.warmup + plan.measured := by
  simp only [RunPlan.iterations, RunPlan.excess]
  by_cases counted : plan.warmup + plan.measured < word64
  · rw [if_pos counted, if_neg (Nat.not_le.mpr counted)]
    rfl
  · rw [if_neg counted, if_pos (Nat.le_of_not_lt counted)]
    rfl

theorem run_eq (plan : RunPlan) (op : Operation ω) (m : Meter ω) :
    run plan op m =
      match firstOf (obstacles plan m), firstOf plan.excess with
      | .error e, _ => .error (.error e) m
      | .ok (), .error e => .error (.error e) m.warned
      | .ok (), .ok () =>
        (loop op plan >>= fun _ => pure ⟨plan.warmup + plan.measured, plan.measured⟩) m.warned := by
  simp only [run]
  cases obstructed : firstOf (obstacles plan m) with
  | error e =>
      have refused : ensureReady plan m = .error (.error e) m := by
        rw [ensureReady_eq, obstructed]
      exact bind_of_error refused
  | ok _ =>
      have ready : ensureReady plan m = .ok () m.warned := by
        rw [ensureReady_eq, obstructed]
      rw [bind_of_ok ready, iterations_eq]
      cases excess : firstOf plan.excess with
      | error e => rfl
      | ok _ =>
          have counted : plan.warmup + plan.measured < word64 :=
            RunPlan.excess_eq_nil.mp (firstOf_eq_ok.mp excess)
          have counts : (turns op plan (plan.warmup + plan.measured) 0 0 >>= fun samples =>
                pure (⟨plan.warmup + plan.measured, samples⟩ : RunStats)) =
              loop op plan >>= fun _ => pure ⟨plan.warmup + plan.measured, plan.measured⟩ := by
            rw [turns_eq_loop op counted, bind_assoc]
            rfl
          exact congrFun counts m.warned

theorem run_of_clear {plan : RunPlan} {m : Meter ω} (clear : objections plan m = [])
    (op : Operation ω) :
    run plan op m =
      (loop op plan >>= fun _ => pure ⟨plan.warmup + plan.measured, plan.measured⟩) m.warned := by
  rcases List.append_eq_nil_iff.mp clear with ⟨obstacles, excess⟩
  rw [run_eq, obstacles, excess]
  rfl

end Meter

end Jitter

import Jitter.Proofs.Completion
import Jitter.Proofs.HistogramContents
import Jitter.Proofs.Meter
import Jitter.Proofs.Outcome
import Jitter.Proofs.Readiness

/-! A run whose samples are known before it begins. -/

namespace Jitter.Meter

variable {ω : Type} [Clock ω] {op : Operation ω} {plan : RunPlan} {m : Meter ω} {c : Calibration}
  {value : Nat → Nat} {inv : Nat → ω → Prop} {k n : Nat}

/-- The `i`-th turn of a run measures `value i`, where the turns before it leave `inv i`. -/
def Measures (op : Operation ω) (plan : RunPlan) (c : Calibration) (value : Nat → Nat)
    (inv : Nat → ω → Prop) : Prop :=
  ∀ i < plan.warmup + plan.measured, ∀ w, inv i w →
    Completes (sample op plan c) w fun v w' => v = value i ∧ inv (i + 1) w'

namespace Measures

theorem discardAll (measures : Measures op plan c value inv) (known : m.calibration = c)
    (within : k + n ≤ plan.warmup + plan.measured) (start : inv k m.clock) :
    Completes (repeatedly (discardOne op plan) n) m fun _ m' =>
      m'.calibration = c ∧ m'.histogram = m.histogram ∧ inv (k + n) m'.clock := by
  have turn : ∀ i, k ≤ i → i < k + n → ∀ m₁ : Meter ω,
      m₁.calibration = c ∧ m₁.histogram = m.histogram ∧ inv i m₁.clock →
      Completes (discardOne op plan) m₁ fun _ m₂ =>
        m₂.calibration = c ∧ m₂.histogram = m.histogram ∧ inv (i + 1) m₂.clock := by
    intro i _ below m₁ before
    rcases before with ⟨rfl, same, here⟩
    rcases measures i (by omega) m₁.clock here with ⟨v, w, sampled, -, after⟩
    exact .of_ok (discardOne_eq_ok.mpr ⟨v, w, sampled, rfl⟩) ⟨rfl, same, after⟩
  exact .repeatedly turn ⟨known, rfl, start⟩

theorem recordAll (measures : Measures op plan c value inv) (known : m.calibration = c)
    (within : k + n ≤ plan.warmup + plan.measured) (start : inv k m.clock) :
    Ends (repeatedly (recordOne op plan) n) m
      (fun _ m' => m.histogram.accumulateAll ((List.range' k n).map value) = .ok m'.histogram ∧
        m'.calibration = c ∧ inv (k + n) m'.clock)
      (fun e _ => ∃ f, e = .fault f ∧
        m.histogram.accumulateAll ((List.range' k n).map value) = .error f) := by
  induction n generalizing k m with
  | zero => exact ⟨rfl, known, start⟩
  | succ n ih =>
      rcases measures k (by omega) m.clock start with ⟨v, w, sampled, rfl, after⟩
      rw [← known] at sampled
      rw [List.range'_succ, List.map_cons, Histogram.accumulateAll, List.foldlM_cons, Ends, repeatedly]
      cases taken : m.histogram.accumulate (value k) with
      | error f =>
          rw [bind_of_error (recordOne_of_full sampled taken)]
          exact ⟨f, rfl, rfl⟩
      | ok h =>
          have recorded := recordOne_eq_ok.mpr ⟨value k, w, h, sampled, taken, rfl⟩
          have rest : k + (n + 1) = k + 1 + n := by omega
          rw [bind_of_ok recorded]
          rw [rest] at within ⊢
          exact ih (m := { m with clock := w, histogram := h }) known within after

theorem run (measures : Measures op plan m.calibration value inv) (clear : objections plan m = [])
    (start : inv 0 m.clock) :
    Ends (Meter.run plan op) m
      (fun stats m' => stats = ⟨plan.warmup + plan.measured, plan.measured⟩ ∧
        m.histogram.accumulateAll ((List.range' plan.warmup plan.measured).map value) =
          .ok m'.histogram ∧
        m'.calibration = m.calibration ∧ inv (plan.warmup + plan.measured) m'.clock)
      (fun e _ => ∃ f, e = .fault f ∧
        m.histogram.accumulateAll ((List.range' plan.warmup plan.measured).map value) =
          .error f) := by
  have warned : inv 0 m.warned.clock := by
    rw [warned_clock]
    exact start
  have early : 0 + plan.warmup ≤ plan.warmup + plan.measured := by omega
  rcases measures.discardAll (warned_calibration m) early warned with
    ⟨_, m₁, warming, known, same, here⟩
  rw [Nat.zero_add] at here
  have counted := measures.recordAll known (Nat.le_refl _) here
  rw [same, warned_histogram] at counted
  rw [Ends, run_of_clear clear, loop, bind_assoc, bind_of_ok warming]
  exact counted.bind fun _ _ all => ⟨rfl, all⟩

end Measures

end Jitter.Meter

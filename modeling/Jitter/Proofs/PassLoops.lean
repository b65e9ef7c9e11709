import Jitter.Meter.Basic
import Jitter.Proofs.Effects

/-! Passes on a meter and passes over a calibration of their own come to the same passes on an
instrument. -/

namespace Jitter

namespace Action

variable {σ τ α β : Type} {part : τ → σ} {put : τ → σ → τ}

theorem within_bind (get_put : ∀ t s, part (put t s) = s)
    (put_put : ∀ t s s', put (put t s) s' = put t s') (act : Action σ α) (next : α → Action σ β) :
    within part put (act >>= next) = within part put act >>= fun a => within part put (next a) := by
  funext t
  cases ran : act (part t) with
  | error e s =>
      rw [within_of_error (bind_of_error ran), bind_of_error (within_of_error ran)]
  | ok a s =>
      rw [bind_of_ok (within_of_ok ran)]
      simp only [within, bind_of_ok ran, get_put, put_put]

theorem within_repeatedly (get_put : ∀ t s, part (put t s) = s)
    (put_put : ∀ t s s', put (put t s) s' = put t s') (put_get : ∀ t, put t (part t) = t)
    (act : Action σ Unit) (n : Nat) :
    within part put (repeatedly act n) = repeatedly (within part put act) n := by
  induction n with
  | zero =>
      funext t
      exact congrArg (EStateM.Result.ok ()) (put_get t)
  | succ n ih =>
      rw [repeatedly, within_bind get_put put_put, ih]
      rfl

end Action

namespace Instrument

variable {ω : Type} {act : Action (Instrument ω) Unit} {c c' : Calibration} {w w' : ω}

theorem apart_bind (next : Action (Instrument ω) Unit) :
    apart (act >>= fun _ => next) c = apart act c >>= apart next := by
  funext w
  cases ran : act ⟨w, c⟩ with
  | error e i =>
      have broke : apart act c w = .error e i.clock := by rw [apart, ran]
      rw [bind_of_error broke, apart, bind_of_error ran]
  | ok _ i =>
      have ended : apart act c w = .ok i.calibration i.clock := by rw [apart, ran]
      rw [bind_of_ok ended, apart, bind_of_ok ran]
      rfl

theorem apart_eq_ok : apart act c w = .ok c' w' ↔ act ⟨w, c⟩ = .ok () ⟨w', c'⟩ := by
  rw [apart]
  cases act ⟨w, c⟩ with
  | error e i => simp
  | ok _ i =>
      constructor
      · intro ended
        cases ended
        rfl
      · intro ended
        cases ended
        rfl

variable [Clock ω]

def calibratePasses (p : CalibrationPlan) : Action (Instrument ω) Unit := do
  p.validate
  repeatedly (pass p) p.passes

theorem refined_eq_apart (p : CalibrationPlan) (n : Nat) (c : Calibration) :
    (refined p n c : Action ω Calibration) = apart (repeatedly (pass p) n) c := by
  induction n generalizing c with
  | zero => rfl
  | succ n ih =>
      rw [repeatedly, apart_bind, refined]
      exact congrArg _ (funext ih)

theorem calibrated_eq_apart (p : CalibrationPlan) :
    (calibrated p : Action ω Calibration) = apart (calibratePasses p) .new := by
  rw [calibrated, calibratePasses, refined_eq_apart]
  cases p.validate with
  | ok _ => rfl
  | error e => rfl

end Instrument

namespace Meter

variable {ω : Type}

theorem onInstrument_repeatedly (act : Action (Instrument ω) Unit) (n : Nat) :
    onInstrument (repeatedly act n) = repeatedly (onInstrument act) n := by
  apply Action.within_repeatedly
  · intro _ _
    rfl
  · intro _ _ _
    rfl
  · intro _
    rfl

theorem calibratePasses_eq_onInstrument [Clock ω] (p : CalibrationPlan) :
    (calibratePasses p : Action (Meter ω) Unit) = onInstrument (Instrument.calibratePasses p) := by
  rw [calibratePasses, Instrument.calibratePasses, ← onInstrument_repeatedly]
  cases p.validate with
  | ok _ => rfl
  | error e => rfl

end Meter

end Jitter

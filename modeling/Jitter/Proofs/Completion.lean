import Jitter.Meter.Run
import Jitter.Proofs.Effects

/-! Operations that are sure to have a value, by what holds of it and of the state they leave. -/

namespace Jitter

def Completes {ε σ α : Type} (act : EStateM ε σ α) (s : σ) (post : α → σ → Prop) : Prop :=
  ∃ a s', act s = .ok a s' ∧ post a s'

namespace Completes

section

variable {ε σ α β : Type} {act : EStateM ε σ α} {next : α → EStateM ε σ β} {s : σ} {a : α}
  {mid post : α → σ → Prop} {last : β → σ → Prop}

theorem of_ok {s' : σ} (ran : act s = .ok a s') (holds : post a s') : Completes act s post :=
  ⟨a, s', ran, holds⟩

theorem of_eq {act' : EStateM ε σ α} (same : act s = act' s) (ran : Completes act' s post) :
    Completes act s post := by
  rcases ran with ⟨a, s', ran, holds⟩
  exact of_ok (same.trans ran) holds

theorem pure (holds : post a s) : Completes (Pure.pure a : EStateM ε σ α) s post :=
  of_ok rfl holds

theorem modify {f : σ → σ} {post : Unit → σ → Prop} (holds : post () (f s)) :
    Completes (ε := ε) (modify f) s post := ⟨(), f s, rfl, holds⟩

theorem mono (first : Completes act s mid) (weaker : ∀ a s', mid a s' → post a s') :
    Completes act s post := by
  rcases first with ⟨a, s', ran, holds⟩
  exact of_ok ran (weaker a s' holds)

theorem bind (first : Completes act s mid)
    (rest : ∀ a s', mid a s' → Completes (next a) s' last) : Completes (act >>= next) s last := by
  rcases first with ⟨a, s', ran, holds⟩
  rcases rest a s' holds with ⟨b, t, ended, done⟩
  exact of_ok ((bind_of_ok ran).trans ended) done

theorem repeatedly {act : EStateM ε σ Unit} {n k : Nat} {inv : Nat → σ → Prop}
    (turn : ∀ i, k ≤ i → i < k + n → ∀ s, inv i s → Completes act s fun _ => inv (i + 1))
    (start : inv k s) : Completes (repeatedly act n) s fun _ => inv (k + n) := by
  induction n generalizing s k with
  | zero => exact Completes.pure start
  | succ n ih =>
      apply bind (turn k (Nat.le_refl k) (by omega) s start)
      intro _ s' holds
      have rest : k + (n + 1) = k + 1 + n := by omega
      rw [rest] at turn ⊢
      exact ih (fun i after => turn i (Nat.le_of_succ_le after)) holds

end

section

variable {σ α β : Type} {next : α → Action σ β} {s : σ} {a : α} {last : β → σ → Prop}

theorem get_bind {next : σ → Action σ β} (rest : Completes (next s) s last) :
    Completes (get >>= next) s last := rest

theorem refusal_bind {x : Except Error α} (value : x = .ok a) (rest : Completes (next a) s last) :
    Completes ((liftM x : Action σ α) >>= next) s last := by
  rw [value]
  exact rest

theorem checked_bind {x : Checked α} (value : x = .ok a) (rest : Completes (next a) s last) :
    Completes ((liftM x : Action σ α) >>= next) s last := by
  rw [value]
  exact rest

theorem except_bind {x : Except Failure α} (value : x = .ok a) (rest : Completes (next a) s last) :
    Completes ((liftM x : Action σ α) >>= next) s last := by
  rw [value]
  exact rest

end

variable {ω α β : Type} {act : Action ω α}

theorem onClock_bind {i : Instrument ω} {next : α → Action (Instrument ω) β} {mid : α → ω → Prop}
    {last : β → Instrument ω → Prop} (ran : Completes act i.clock mid)
    (rest : ∀ a w, mid a w → Completes (next a) { i with clock := w } last) :
    Completes (Instrument.onClock act >>= next) i last := by
  rcases ran with ⟨a, w, ran, holds⟩
  have within : Instrument.onClock act i = .ok a { i with clock := w } := Action.within_of_ok ran
  rcases rest a w holds with ⟨b, t, ended, done⟩
  exact of_ok ((bind_of_ok within).trans ended) done

theorem calibrationNow_bind {i : Instrument ω} {next : Calibration → Action (Instrument ω) β}
    {last : β → Instrument ω → Prop} (rest : Completes (next i.calibration) i last) :
    Completes (Instrument.calibrationNow >>= next) i last := rest

theorem regardless {act : Action ω Unit} {w : ω} {post : Unit → ω → Prop}
    (ran : Completes act w post) : Completes (Instrument.regardless act) w post := by
  rcases ran with ⟨a, w', ran, holds⟩
  refine of_ok ?_ holds
  rw [Instrument.regardless, ran]

end Completes

end Jitter

import Jitter.Clock.Basic

/-! How operations run: one law for each way to build them. -/

namespace Jitter

instance resultDecidableEq {ε σ α : Type} [DecidableEq ε] [DecidableEq σ] [DecidableEq α] :
    DecidableEq (EStateM.Result ε σ α)
  | .ok a s, .ok b t => decidable_of_iff (a = b ∧ s = t) (by simp)
  | .error e s, .error f t => decidable_of_iff (e = f ∧ s = t) (by simp)
  | .ok _ _, .error _ _ => .isFalse nofun
  | .error _ _, .ok _ _ => .isFalse nofun

def remains {ε σ α : Type} : EStateM.Result ε σ α → σ
  | .ok _ s => s
  | .error _ s => s

section

variable {ε σ α β : Type} {act : EStateM ε σ α} {next : α → EStateM ε σ β} {s s' t : σ}
  {a : α} {b : β} {e : ε}

theorem bind_of_ok (ran : act s = .ok a s') : (act >>= next) s = next a s' := by
  simp only [bind, EStateM.bind, ran]

theorem bind_of_error (broke : act s = .error e s') : (act >>= next) s = .error e s' := by
  simp only [bind, EStateM.bind, broke]

theorem bind_eq_ok :
    (act >>= next) s = .ok b t ↔ ∃ a s', act s = .ok a s' ∧ next a s' = .ok b t := by
  cases ran : act s with
  | ok a s' =>
      rw [bind_of_ok ran]
      constructor
      · intro rest
        exact ⟨a, s', rfl, rest⟩
      · intro ended
        rcases ended with ⟨_, _, ⟨⟩, rest⟩
        exact rest
  | error e s' => simp [bind_of_error ran]

theorem bind_eq_error :
    (act >>= next) s = .error e t ↔
      act s = .error e t ∨ ∃ a s', act s = .ok a s' ∧ next a s' = .error e t := by
  cases ran : act s with
  | ok a s' =>
      rw [bind_of_ok ran]
      constructor
      · intro rest
        exact .inr ⟨a, s', rfl, rest⟩
      · intro ended
        rcases ended with now | ⟨_, _, ⟨⟩, rest⟩
        · cases now
        · exact rest
  | error e s' => simp [bind_of_error ran]

@[simp]
theorem run_pure (a : α) (s : σ) : (pure a : EStateM ε σ α) s = .ok a s := rfl

@[simp]
theorem run_throw_bind (e : ε) (next : α → EStateM ε σ β) (s : σ) :
    (throw e >>= next) s = .error e s := rfl

@[simp]
theorem run_get_bind (next : σ → EStateM ε σ β) (s : σ) : (get >>= next) s = next s s := rfl

end

section

variable {ε α β : Type} {x : Except ε α} {next : α → Except ε β} {b : β}

theorem except_bind_eq_ok : (x >>= next) = .ok b ↔ ∃ a, x = .ok a ∧ next a = .ok b := by
  cases x <;> simp [bind, Except.bind]

theorem except_map_eq_ok {f : α → β} : f <$> x = .ok b ↔ ∃ a, x = .ok a ∧ b = f a := by
  cases x <;> simp [Functor.map, Except.map, eq_comm]

theorem mapError_eq_ok {δ : Type} {f : ε → δ} {a : α} : x.mapError f = .ok a ↔ x = .ok a := by
  cases x with
  | ok b =>
      constructor
      · intro ended
        cases ended
        rfl
      · intro ended
        cases ended
        rfl
  | error e =>
      constructor
      · intro ended
        cases ended
      · intro ended
        cases ended

end

namespace Action

variable {σ τ α : Type}

@[simp]
theorem run_refusal (x : Except Error α) (s : σ) :
    (liftM x : Action σ α) s =
      match x with
      | .ok a => .ok a s
      | .error e => .error (.error e) s := by
  cases x <;> rfl

@[simp]
theorem run_checked (x : Checked α) (s : σ) :
    (liftM x : Action σ α) s =
      match x with
      | .ok a => .ok a s
      | .error f => .error (.fault f) s := by
  cases x <;> rfl

@[simp]
theorem run_except (x : Except Failure α) (s : σ) :
    (liftM x : Action σ α) s =
      match x with
      | .ok a => .ok a s
      | .error e => .error e s := by
  cases x <;> rfl

theorem refusal_eq_ok {x : Except Error α} {s s' : σ} {a : α} :
    (liftM x : Action σ α) s = .ok a s' ↔ x = .ok a ∧ s = s' := by
  cases x <;> simp

theorem checked_eq_ok {x : Checked α} {s s' : σ} {a : α} :
    (liftM x : Action σ α) s = .ok a s' ↔ x = .ok a ∧ s = s' := by
  cases x <;> simp

theorem checked_bind_of_ok {β : Type} {x : Checked α} {a : α} (value : x = .ok a)
    (next : α → Action σ β) : (liftM x >>= next) = next a := by
  rw [value]
  rfl

theorem except_eq_ok {x : Except Failure α} {s s' : σ} {a : α} :
    (liftM x : Action σ α) s = .ok a s' ↔ x = .ok a ∧ s = s' := by
  cases x <;> simp

theorem ofFaulty_eq_ok {act : EStateM Fault σ α} {s s' : σ} {a : α} :
    ofFaulty act s = .ok a s' ↔ act s = .ok a s' := by
  simp only [ofFaulty]
  cases act s <;> simp

theorem within_of_ok {part : τ → σ} {put : τ → σ → τ} {act : Action σ α} {t : τ} {a : α} {s : σ}
    (ran : act (part t) = .ok a s) : within part put act t = .ok a (put t s) := by
  simp only [within, ran]

theorem within_of_error {part : τ → σ} {put : τ → σ → τ} {act : Action σ α} {t : τ} {e : Failure}
    {s : σ} (broke : act (part t) = .error e s) : within part put act t = .error e (put t s) := by
  simp only [within, broke]

theorem within_eq_ok {part : τ → σ} {put : τ → σ → τ} {act : Action σ α} {t t' : τ} {a : α} :
    within part put act t = .ok a t' ↔ ∃ s, act (part t) = .ok a s ∧ t' = put t s := by
  simp only [within]
  cases act (part t) with
  | ok b s =>
      constructor
      · intro ended
        cases ended
        exact ⟨s, rfl, rfl⟩
      · intro ended
        rcases ended with ⟨_, ⟨⟩, rfl⟩
        rfl
  | error e s => simp

end Action

end Jitter

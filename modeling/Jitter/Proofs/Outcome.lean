import Jitter.Proofs.Effects

/-! Operations that may break off, by what holds when they have a value and what when they have none. -/

namespace Jitter

def Ends {ε σ α : Type} (act : EStateM ε σ α) (s : σ) (post : α → σ → Prop)
    (broken : ε → σ → Prop) : Prop :=
  match act s with
  | .ok a s' => post a s'
  | .error e s' => broken e s'

namespace Ends

section

variable {ε σ α β : Type} {act : EStateM ε σ α} {next : α → EStateM ε σ β} {s s' : σ} {a : α} {e : ε}
  {post mid : α → σ → Prop} {last : β → σ → Prop} {broken early : ε → σ → Prop}

theorem of_ok (ends : Ends act s post broken) (ran : act s = .ok a s') : post a s' := by
  rwa [Ends, ran] at ends

theorem of_error (ends : Ends act s post broken) (broke : act s = .error e s') : broken e s' := by
  rwa [Ends, broke] at ends

theorem mono (ends : Ends act s mid early) (values : ∀ a s', mid a s' → post a s')
    (failures : ∀ e s', early e s' → broken e s') : Ends act s post broken := by
  cases ran : act s with
  | ok a s' =>
      rw [Ends, ran]
      exact values a s' (ends.of_ok ran)
  | error e s' =>
      rw [Ends, ran]
      exact failures e s' (ends.of_error ran)

theorem bind (first : Ends act s mid broken)
    (rest : ∀ a s', mid a s' → Ends (next a) s' last broken) : Ends (act >>= next) s last broken := by
  cases ran : act s with
  | ok a s' =>
      rw [Ends, bind_of_ok ran]
      exact rest a s' (first.of_ok ran)
  | error e s' =>
      rw [Ends, bind_of_error ran]
      exact first.of_error ran

theorem repeatedly {act : EStateM ε σ Unit} {inv : σ → Prop}
    (turn : ∀ s, inv s → Ends act s (fun _ => inv) broken) (start : inv s) (n : Nat) :
    Ends (repeatedly act n) s (fun _ => inv) broken := by
  induction n generalizing s with
  | zero => exact start
  | succ n ih => exact (turn s start).bind fun _ _ holds => ih holds

theorem get_bind {next : σ → EStateM ε σ β} (rest : Ends (next s) s last broken) :
    Ends (get >>= next) s last broken := rest

end

variable {σ α β : Type} {next : α → Action σ β} {s : σ} {last : β → σ → Prop}
  {broken : Failure → σ → Prop}

theorem checked_bind {x : Checked α} (value : ∀ a, x = .ok a → Ends (next a) s last broken)
    (fault : ∀ f, x = .error f → broken (.fault f) s) :
    Ends ((liftM x : Action σ α) >>= next) s last broken := by
  cases x with
  | ok a => exact value a rfl
  | error f => exact fault f rfl

end Ends

end Jitter

import Jitter.Proofs.Completion

/-! Readings in a row, where it is known in advance what each of them will show. -/

namespace Jitter

variable {ω α : Type}

/-- In a world of `here n` the next reading is `value (n + 1)`, and leads to one of `here (n + 1)`; this
holds up to the reading `last`. -/
def Foretold (read : Action ω α) (here : Nat → ω → Prop) (value : Nat → α) (last : Nat) : Prop :=
  ∀ n, n < last → ∀ w, here n w → Completes read w fun a w' => a = value (n + 1) ∧ here (n + 1) w'

namespace Foretold

variable {read : Action ω α} {here : Nat → ω → Prop} {value : Nat → α} {last k n : Nat} {w : ω}

theorem again (foretold : Foretold read here value last) (start : here k w) {now : α}
    (first : now = value k) (before : k + n ≤ last) :
    Completes (Clock.span.again read n now) w fun a w' => a = value (k + n) ∧ here (k + n) w' := by
  induction n generalizing k w now with
  | zero => exact .pure ⟨first, start⟩
  | succ n ih =>
      apply (foretold k (by omega) w start).bind
      intro a w' shown
      have rest : k + (n + 1) = k + 1 + n := by omega
      rw [rest] at before ⊢
      exact ih shown.2 shown.1 before

theorem span (foretold : Foretold read here value last) (start : here 0 w) (before : n + 1 ≤ last) :
    Completes (Clock.span read n) w fun both w' =>
      both = (value 1, value (n + 1)) ∧ here (n + 1) w' := by
  apply (foretold 0 (by omega) w start).bind
  intro a w₁ shown
  rw [Nat.add_comm] at before ⊢
  apply (foretold.again shown.2 shown.1 before).bind
  intro b w₂ later
  exact .pure ⟨by rw [shown.1, later.1], later.2⟩

theorem aroundLoops [Clock ω] (foretold : Foretold read here value last) (start : here 0 w)
    (still : ∀ n loops w, here n w → here n (Clock.idle loops w)) (loops : Nat) (before : 2 ≤ last) :
    Completes (Clock.aroundLoops read loops) w fun both w' =>
      both = (value 1, value 2) ∧ here 2 w' := by
  apply (foretold 0 (by omega) w start).bind
  intro a w₁ shown
  have idle : Completes (ε := Failure) (modify (Clock.idle loops)) w₁ fun _ w₂ => here 1 w₂ :=
    .modify (still _ _ _ shown.2)
  apply idle.bind
  intro _ w₂ later
  apply (foretold 1 before w₂ later).bind
  intro b w₃ reread
  exact .pure ⟨by rw [shown.1, reread.1], reread.2⟩

theorem readUntil (foretold : Foretold read here value last) (start : here k w) {late : α → Bool}
    {fuel : Nat} (early : ∀ i, 0 < i → i < n → late (value (k + i)) = false)
    (arrives : late (value (k + n)) = true) (some : 0 < n) (enough : n ≤ fuel)
    (before : k + n ≤ last) :
    Completes (Clock.readUntil read late fuel) w fun _ => here (k + n) := by
  induction fuel generalizing k w n with
  | zero => omega
  | succ fuel ih =>
      apply (foretold k (by omega) w start).bind
      intro a w' shown
      rw [shown.1]
      by_cases only : n = 1
      · rw [only] at arrives ⊢
        rw [if_pos arrives]
        exact .pure shown.2
      · rw [if_neg (by simp [early 1 (by decide) (by omega)])]
        have rest : k + n = k + 1 + (n - 1) := by omega
        rw [rest] at arrives before ⊢
        refine ih shown.2 ?_ arrives (by omega) (by omega) before
        intro i positive below
        rw [Nat.add_assoc]
        exact early (1 + i) (by omega) (by omega)

end Foretold

end Jitter

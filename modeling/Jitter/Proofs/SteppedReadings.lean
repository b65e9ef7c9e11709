import Jitter.Proofs.Foretold
import Jitter.Proofs.SteppedWorld

/-! What a stepped clock shows, whatever the frequency of its counter. -/

namespace Jitter

namespace Movement

def after (v : Movement) (n : Nat) (t : Int) : Int := t + (n * v.step : Nat)

/-- The ticks of the counter up to a time; none before zero. -/
def count (v : Movement) (t : Int) : Nat := t.toNat * v.frequency / nanosPerSecond

variable {v : Movement} {n k : Nat} {t t' : Int}

@[simp]
theorem after_zero : v.after 0 t = t := by simp [after]

theorem after_succ : v.after (n + 1) t = v.after n t + v.step := by
  simp only [after, Nat.succ_mul]
  omega

theorem after_after : v.after k (v.after n t) = v.after (n + k) t := by
  simp only [after, Nat.add_mul]
  omega

theorem after_le_after (fewer : n ≤ k) : v.after n t ≤ v.after k t := by
  have products : n * v.step ≤ k * v.step := Nat.mul_le_mul_right v.step fewer
  simp only [after]
  omega

theorem le_after : t ≤ v.after n t := by
  simp only [after]
  omega

theorem count_le_count (earlier : t ≤ t') : v.count t ≤ v.count t' :=
  Nat.div_le_div_right (Nat.mul_le_mul_right v.frequency (Int.toNat_le_toNat earlier))

theorem count_of_rate {rate : Nat} (whole : v.frequency = rate * nanosPerSecond) (t : Int) :
    v.count t = t.toNat * rate := by
  rw [count, whole, ← Nat.mul_assoc, Nat.mul_div_cancel _ (by decide)]

theorem count_sub_of_rate {rate : Nat} (whole : v.frequency = rate * nanosPerSecond) (nonneg : 0 ≤ t)
    (n : Nat) : v.count (t + n) - v.count t = rate * n := by
  have elapsed : (t + n).toNat = t.toNat + n := by omega
  rw [count_of_rate whole, count_of_rate whole, elapsed, Nat.add_mul, Nat.add_sub_cancel_left,
    Nat.mul_comm]

theorem frequency_pos {rate : Nat} (positive : 0 < rate)
    (whole : v.frequency = rate * nanosPerSecond) : 0 < v.frequency := by
  rw [whole]
  exact Nat.mul_pos positive (by decide)

theorem min_frequency_known {rate hz : Nat} (positive : 0 < rate)
    (whole : v.frequency = rate * nanosPerSecond) (frequency : v.frequency < word64)
    (some : 0 < hz) : ¬(min hz v.frequency = unmeasuredHz ∨ min hz v.frequency = 0) := by
  simp only [unmeasuredHz, word64, nanosPerSecond] at *
  omega

end Movement

theorem SteppedClock.cyclesAt_eq_ok {v : Movement} {t : Int} {n : Nat} :
    SteppedClock.cyclesAt v.frequency t = .ok n ↔
      t.toNat * v.frequency < word128 ∧ n = v.count t % word64 := by
  constructor
  · intro counted
    rcases except_bind_eq_ok.mp counted with ⟨scaled, scaling, ⟨⟩⟩
    rcases Unsigned.mul_eq_ok.mp scaling with ⟨fits, rfl⟩
    exact ⟨fits, rfl⟩
  · intro conditions
    rcases conditions with ⟨fits, rfl⟩
    exact except_bind_eq_ok.mpr ⟨_, Unsigned.mul_of_lt fits, rfl⟩

namespace Stands

variable {κ : Type} {v : Movement} {n last : Nat} {t ns : Int} {x : κ} {w w' : SteppedClock × κ}

theorem of_tick (stands : Stands v t x w) {now : Int} {d : SteppedClock}
    (ticked : SteppedClock.tick w.1 = .ok now d) :
    now = t + v.step ∧ Stands v (t + v.step) x (d, w.2) := by
  have fits : t + v.step ≤ Signed.greatest := by
    simp only [SteppedClock.tick, Signed.add, stands.now_eq, stands.step_eq] at ticked
    by_contra late
    rw [if_neg fun both => late both.2] at ticked
    cases ticked
  rcases stands.tick fits with ⟨d', told, later⟩
  rw [ticked] at told
  cases told
  exact ⟨rfl, later⟩

theorem of_readCycles (stands : Stands v t x w) (shown : Clock.readCycles w = .ok n w') :
    n = v.count (t + v.step) % word64 ∧ Stands v (t + v.step) x w' := by
  have raw : Clock.onFirst Clock.cycles w = .ok n w' := Action.ofFaulty_eq_ok.mp shown
  simp only [Clock.onFirst] at raw
  cases counted : (Clock.cycles w.1 : EStateM.Result Fault SteppedClock Nat) with
  | error f d =>
      rw [counted] at raw
      cases raw
  | ok m d =>
      rw [counted] at raw
      cases raw
      rcases bind_eq_ok.mp counted with ⟨now, d', ticked, rest⟩
      rcases stands.of_tick ticked with ⟨rfl, later⟩
      rw [run_get_bind, SteppedClock.counted, later.frequency_eq] at rest
      cases valued : SteppedClock.cyclesAt v.frequency (t + v.step) with
      | error f =>
          rw [valued] at rest
          cases rest
      | ok m =>
          rw [valued] at rest
          cases rest
          exact ⟨(SteppedClock.cyclesAt_eq_ok.mp valued).2, later⟩

theorem readCycles (stands : Stands v t x w) (fits : t + v.step ≤ Signed.greatest)
    (frequency : v.frequency < word64) (word : v.count (t + v.step) < word64) :
    Completes Clock.readCycles w fun n w' =>
      n = v.count (t + v.step) ∧ Stands v (t + v.step) x w' := by
  rcases stands.tick fits with ⟨d, ticked, later⟩
  have counted : SteppedClock.cyclesAt d.frequency (t + v.step) = .ok (v.count (t + v.step)) := by
    rw [later.frequency_eq, SteppedClock.cyclesAt_eq_ok, Nat.mod_eq_of_lt word]
    exact ⟨Signed.toNat_mul_lt fits frequency, rfl⟩
  have read : (Clock.cycles : EStateM Fault SteppedClock Nat) w.1 =
      .ok (v.count (t + v.step)) d := by
    refine (bind_of_ok ticked).trans ?_
    rw [run_get_bind, SteppedClock.counted, counted]
    rfl
  refine .of_ok (Action.ofFaulty_eq_ok.mpr ?_) ⟨rfl, later⟩
  change Clock.onFirst Clock.cycles w = .ok (v.count (t + v.step)) (d, w.2)
  rw [Clock.onFirst, read]

theorem monotonic_foretold (fits : v.after last t ≤ Signed.greatest) :
    Foretold Clock.readMonotonic (fun n => Stands v (v.after n t) x)
      (fun n => v.after n t) last := by
  intro n below w stands
  dsimp only at stands ⊢
  rw [Movement.after_succ]
  have next : v.after n t + v.step ≤ v.after last t := by
    rw [← Movement.after_succ]
    exact Movement.after_le_after below
  exact stands.read (Int.le_trans next fits)

theorem cycles_foretold (fits : v.after last t ≤ Signed.greatest) (frequency : v.frequency < word64)
    (word : v.count (v.after last t) < word64) :
    Foretold Clock.readCycles (fun n => Stands v (v.after n t) x)
      (fun n => v.count (v.after n t)) last := by
  intro n below w stands
  dsimp only at stands ⊢
  rw [Movement.after_succ]
  have next : v.after n t + v.step ≤ v.after last t := by
    rw [← Movement.after_succ]
    exact Movement.after_le_after below
  exact stands.readCycles (Int.le_trans next fits) frequency
    (Nat.lt_of_le_of_lt (Movement.count_le_count next) word)

theorem of_readUntil {stop fuel : Nat} (stands : Stands v t x w)
    (ended : Clock.readUntil Clock.readCycles (stop ≤ ·) fuel w = .ok () w') :
    ∃ n, 0 < n ∧ Stands v (v.after n t) x w' ∧ stop ≤ v.count (v.after n t) := by
  induction fuel generalizing t w with
  | zero => cases ended
  | succ fuel ih =>
      rcases bind_eq_ok.mp ended with ⟨count, w₁, shown, rest⟩
      rcases stands.of_readCycles shown with ⟨rfl, later⟩
      have once : v.after 1 t = t + v.step := by rw [Movement.after_succ, Movement.after_zero]
      by_cases arrived : stop ≤ v.count (t + v.step) % word64
      · rw [if_pos (decide_eq_true arrived)] at rest
        cases rest
        rw [← once] at arrived later
        exact ⟨1, by decide, later, Nat.le_trans arrived (Nat.mod_le _ _)⟩
      · rw [if_neg (by simp [arrived])] at rest
        rcases ih later rest with ⟨n, -, stands', reached⟩
        rw [← once, Movement.after_after] at stands' reached
        exact ⟨1 + n, by omega, stands', reached⟩

end Stands

end Jitter

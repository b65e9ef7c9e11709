import Jitter.Clock.Stepped
import Jitter.Proofs.Completion
import Jitter.Proofs.Spin
import Jitter.Proofs.Word
import Mathlib.Algebra.Order.Floor.Div
import Mathlib.Tactic

/-! A world with a stepped clock: what moves its time, and how far a wait takes it. -/

namespace Jitter

theorem lt_of_lt_ceilDiv {n ahead step : Nat} (positive : 0 < step) (fewer : n < ahead ⌈/⌉ step) :
    n * step < ahead := by
  rw [← Nat.not_le, ceilDiv_le_iff_le_mul positive, Nat.not_le, Nat.mul_comm] at fewer
  exact fewer

theorem le_ceilDiv_mul (ahead : Nat) {step : Nat} (positive : 0 < step) :
    ahead ≤ ahead ⌈/⌉ step * step := by
  rw [Nat.mul_comm]
  exact le_smul_ceilDiv positive

theorem ceilDiv_le_self {ahead step : Nat} (positive : 0 < step) : ahead ⌈/⌉ step ≤ ahead := by
  rw [ceilDiv_le_iff_le_mul positive]
  exact Nat.le_mul_of_pos_left ahead positive

theorem SteppedClock.sleep_eq_advance {us : Nat} (word : ((us * 1000 : Nat) : Int) ≤ Signed.greatest)
    (c : SteppedClock) :
    c.sleep us = ({ c with sleeps := us :: c.sleeps } : SteppedClock).advance (us * 1000 : Nat) := by
  have few : Signed.Fits us := by
    simp only [Signed.Fits, Signed.least, Signed.greatest] at *
    omega
  have long : Signed.Fits (us * 1000) := by
    simp only [Signed.Fits, Signed.least, Signed.greatest] at *
    omega
  rw [sleep, Signed.wrap, if_pos few, Signed.saturate_of_fits long]
  rfl

structure Movement where
  step : Nat
  frequency : Nat
  counter : Bool

/-- A world whose clock has this movement and shows `t`, and whose other part is `x`. -/
structure Stands {κ : Type} (v : Movement) (t : Int) (x : κ) (w : SteppedClock × κ) : Prop where
  now_eq : w.1.now = t
  step_eq : w.1.step = v.step
  frequency_eq : w.1.frequency = v.frequency
  counter_eq : w.1.counter = v.counter
  rest_eq : w.2 = x
  least_le : Signed.least ≤ t

namespace Stands

/-- The first of `t` and the times after it, in steps of `s`, that is not before `stop`. -/
def arrival (s : Nat) (stop t : Int) : Int := t + ((stop - t).toNat ⌈/⌉ s * s : Nat)

def waitEnd (s : Nat) (cost ns t : Int) : Int :=
  arrival s (Signed.saturate (t + s + Spin.compensated cost ns)) (t + s)

variable {κ : Type} {v : Movement} {s n : Nat} {t stop ns : Int} {x : κ} {w : SteppedClock × κ}
  {c : Calibration}

theorem le_arrival : t ≤ arrival s stop t := by
  simp only [arrival]
  omega

theorem arrival_of_le (there : stop ≤ t) : arrival s stop t = t := by
  have none : (stop - t).toNat = 0 := by omega
  simp [arrival, none]

theorem ceilDiv_eq_succ {ahead : Nat} (moves : 0 < s) (some : 0 < ahead) :
    ahead ⌈/⌉ s = (ahead - s) ⌈/⌉ s + 1 := by
  have left : ahead + s - 1 = ahead - 1 + s := by omega
  rw [Nat.ceilDiv_eq_add_pred_div, Nat.ceilDiv_eq_add_pred_div, left, Nat.add_div_right _ moves]
  by_cases short : ahead < s
  · rw [Nat.div_eq_of_lt (by omega), Nat.div_eq_of_lt (by omega)]
  · have right : ahead - s + s - 1 = ahead - 1 := by omega
    rw [right]

theorem arrival_step (moves : 0 < s) (ahead : t < stop) :
    arrival s stop (t + s) = arrival s stop t := by
  have some : 0 < (stop - t).toNat := by omega
  have steps := ceilDiv_eq_succ moves some
  have later : (stop - (t + s)).toNat = (stop - t).toNat - s := by omega
  simp only [arrival, later, steps, Nat.add_mul]
  omega

theorem le_arrival_of_lt (moves : 0 < s) (ahead : t < stop) : t + s ≤ arrival s stop t := by
  rw [← arrival_step moves ahead]
  exact le_arrival

theorem advance (stands : Stands v t x w) {y : κ} (fits : t + n ≤ Signed.greatest) :
    Stands v (t + n) y (w.1.advance n, y) := by
  have low := stands.least_le
  have both : Signed.Fits (w.1.now + n) := by
    rw [stands.now_eq]
    exact ⟨by omega, fits⟩
  refine ⟨?_, stands.step_eq, stands.frequency_eq, stands.counter_eq, rfl, by omega⟩
  change Signed.wrap (w.1.now + n) = t + n
  rw [Signed.wrap, if_pos both, stands.now_eq]

theorem sleep (stands : Stands v t x w) {us : Nat}
    (word : ((us * 1000 : Nat) : Int) ≤ Signed.greatest)
    (fits : t + (us * 1000 : Nat) ≤ Signed.greatest) :
    Stands v (t + (us * 1000 : Nat)) x (Clock.sleep us w) := by
  have listed : Stands v t x ({ w.1 with sleeps := us :: w.1.sleeps }, w.2) :=
    ⟨stands.now_eq, stands.step_eq, stands.frequency_eq, stands.counter_eq, stands.rest_eq,
      stands.least_le⟩
  have moved : Clock.sleep us w = (SteppedClock.sleep us w.1, w.2) := rfl
  rw [moved, SteppedClock.sleep_eq_advance word, stands.rest_eq]
  exact listed.advance fits

theorem idle {loops : Nat} (stands : Stands v t x w) : Stands v t x (Clock.idle loops w) :=
  ⟨stands.now_eq, stands.step_eq, stands.frequency_eq, stands.counter_eq, stands.rest_eq,
    stands.least_le⟩

theorem tick (stands : Stands v t x w) (fits : t + v.step ≤ Signed.greatest) :
    ∃ d, SteppedClock.tick w.1 = .ok (t + v.step) d ∧ Stands v (t + v.step) x (d, w.2) := by
  have moved : Stands v (t + v.step) x (w.1.advance v.step, x) := stands.advance fits
  have both : Signed.Fits (w.1.now + w.1.step) := by
    have low := stands.least_le
    rw [stands.now_eq, stands.step_eq]
    exact ⟨by omega, fits⟩
  refine ⟨{ w.1.advance v.step with reads := Unsigned.wrap word64 (w.1.reads + 1) }, ?_,
    moved.now_eq, moved.step_eq, moved.frequency_eq, moved.counter_eq, stands.rest_eq,
    moved.least_le⟩
  rw [SteppedClock.tick, Signed.add, if_pos both, stands.now_eq, stands.step_eq]

theorem read (stands : Stands v t x w) (fits : t + v.step ≤ Signed.greatest) :
    Completes Clock.readMonotonic w fun ns w' =>
      ns = t + v.step ∧ Stands v (t + v.step) x w' := by
  rcases stands.tick fits with ⟨d, ticked, later⟩
  refine .of_ok (Action.ofFaulty_eq_ok.mpr ?_) ⟨rfl, later⟩
  change Clock.onFirst SteppedClock.tick w = .ok (t + v.step) (d, w.2)
  rw [Clock.onFirst, ticked]

theorem readUntil (moves : 0 < v.step) {fuel : Nat} (stands : Stands v t x w) (ahead : t < stop)
    (enough : (stop - t).toNat ≤ fuel) (fits : arrival v.step stop t ≤ Signed.greatest) :
    Completes (Clock.readUntil Clock.readMonotonic (stop ≤ ·) fuel) w fun _ =>
      Stands v (arrival v.step stop t) x := by
  induction fuel generalizing t w with
  | zero => omega
  | succ fuel ih =>
      apply (stands.read (Int.le_trans (le_arrival_of_lt moves ahead) fits)).bind
      intro now w' read
      rcases read with ⟨rfl, later⟩
      rw [← arrival_step moves ahead] at fits ⊢
      by_cases there : stop ≤ t + v.step
      · rw [if_pos (decide_eq_true there), arrival_of_le there]
        exact .pure later
      · rw [if_neg (by simp [there])]
        exact ih later (by omega) (by omega) fits

theorem wait (moves : 0 < v.step) (stands : Stands v t x w) (known : c.readCost ≠ unmeasuredCost)
    (fits : waitEnd v.step c.readCost ns t ≤ Signed.greatest) :
    Completes (Spin.onMonotonicClock c ns) w fun _ =>
      Stands v (waitEnd v.step c.readCost ns t) x := by
  have allowed : c.requireReadCost = .ok () := if_neg known
  apply Completes.refusal_bind allowed
  apply (stands.read (Int.le_trans le_arrival fits)).bind
  intro now w' read
  rcases read with ⟨rfl, later⟩
  have low := later.least_le
  simp only [waitEnd] at fits ⊢
  by_cases there :
      Signed.saturate (t + v.step + Spin.compensated c.readCost ns) ≤ t + v.step
  · rw [if_pos there, arrival_of_le there]
    exact .pure later
  · rw [if_neg there]
    refine later.readUntil moves (by omega) ?_ fits
    simp only [Spin.compensated, Signed.saturate, Signed.least, Signed.greatest, Clock.patience] at *
    omega

end Stands

end Jitter

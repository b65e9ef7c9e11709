import Jitter.Proofs.Meter
import Jitter.Proofs.SteppedCalibration

/-! The turns of a run on a stepped clock: how long each takes, and what it measures. -/

namespace Jitter

/-- An operation that moves its clock by `a i` in the `i`-th call, and nothing else of it. What it
keeps for itself is such that `before i` holds of it when that call is made. -/
structure Advances {κ : Type} (op : Meter.Operation (SteppedClock × κ)) (a : Nat → Nat)
    (before : Nat → κ → Prop) : Prop where
  clock : ∀ i c x, before i x → (op (c, x)).1 = c.advance (a i)
  rest : ∀ i c x, before i x → before (i + 1) (op (c, x)).2

namespace Tempo

def pausedUntil (g : Tempo) (cost : Nat) (plan : RunPlan) (t : Int) : Int :=
  if plan.pause < 0 then t + (plan.pause.natAbs / 1000 * 1000 : Nat)
  else if plan.pause = 0 then t
  else g.after (g.waitReads plan.timebase cost plan.pause.toNat t) t

def secondReading (g : Tempo) (t : Int) (a : Nat) : Int := g.after 1 (g.after 1 t + a)

def turnEnd (g : Tempo) (cost : Nat) (plan : RunPlan) (t : Int) (a : Nat) : Int :=
  g.pausedUntil cost plan (g.secondReading t a)

/-- The last reading of a turn; a clock that sleeps is not read. -/
def lastReading (g : Tempo) (cost : Nat) (plan : RunPlan) (t : Int) (a : Nat) : Int :=
  if plan.pause ≤ 0 then g.secondReading t a else g.turnEnd cost plan t a

def turnStart (g : Tempo) (cost : Nat) (plan : RunPlan) (a : Nat → Nat) (t : Int) : Nat → Int
  | 0 => t
  | i + 1 => g.turnEnd cost plan (turnStart g cost plan a t i) (a i)

/-- The time stays in a word throughout a run, and so do the counts that are read. -/
structure InRange (g : Tempo) (cost : Nat) (plan : RunPlan) (a : Nat → Nat) (t : Int) : Prop where
  time : g.turnStart cost plan a t (plan.warmup + plan.measured) ≤ Signed.greatest
  cycles : plan.timebase = .cycleCounter → ∀ i < plan.warmup + plan.measured,
    g.count (g.lastReading cost plan (g.turnStart cost plan a t i) (a i)) < word64

variable {g : Tempo} {cost : Nat} {plan : RunPlan} {a : Nat → Nat} {t : Int}

theorem le_pausedUntil : t ≤ g.pausedUntil cost plan t := by
  simp only [pausedUntil]
  split
  · omega
  · split
    · exact Int.le_refl t
    · exact le_after

theorem secondReading_eq (n : Nat) : g.secondReading t n = g.after 1 t + (n + g.step : Nat) := by
  simp only [secondReading, after]
  omega

theorem lt_turnEnd (n : Nat) : t < g.turnEnd cost plan t n := by
  have positive := g.step_pos
  calc t < g.secondReading t n := by
        simp only [secondReading, after]
        omega
    _ ≤ g.turnEnd cost plan t n := le_pausedUntil

theorem turnStart_strictMono : StrictMono (g.turnStart cost plan a t) :=
  strictMono_nat_of_lt_succ fun i => lt_turnEnd (a i)

theorem add_le_turnStart (i : Nat) : t + i ≤ g.turnStart cost plan a t i := by
  induction i with
  | zero => simp [turnStart]
  | succ i ih =>
      have longer : g.turnStart cost plan a t i < g.turnStart cost plan a t (i + 1) :=
        lt_turnEnd (a i)
      omega

theorem count_add (nonneg : 0 ≤ t) (n : Nat) : g.count (t + n) = g.count t + g.rate * n := by
  have split : (t + n).toNat = t.toNat + n := by omega
  rw [count, count, split, Nat.mul_add]

theorem step_sub_readCost (n : Nat) : g.step - g.readCost n = g.step ⌈/⌉ (n + 1) :=
  Movement.step_sub_readCost (v := g.movement) n

end Tempo

open Tempo

variable {g : Tempo} {κ : Type} {t : Int} {x : κ} {w : SteppedClock × κ} {c : Calibration}
  {plan : RunPlan} {op : Meter.Operation (SteppedClock × κ)} {a : Nat → Nat}
  {before : Nat → κ → Prop} {i n : Nat}

theorem Stands.call {v : Movement} (stands : Stands v t x w) (advances : Advances op a before)
    (called : before i x) (fits : t + a i ≤ Signed.greatest) :
    ∃ x', before (i + 1) x' ∧ Stands v (t + a i) x' (op w) := by
  have here : before i w.2 := by
    rw [stands.rest_eq]
    exact called
  have moved : op w = (w.1.advance (a i), (op w).2) :=
    Prod.ext (advances.clock i w.1 w.2 here) rfl
  refine ⟨(op w).2, advances.rest i w.1 w.2 here, ?_⟩
  rw [moved]
  exact stands.advance fits

theorem Advances.shows (advances : Advances op a before) (shown : g.Shows t x w)
    (called : before i x) (fits : t + a i ≤ Signed.greatest) :
    ∃ x', before (i + 1) x' ∧ g.Shows (t + a i) x' (op w) := by
  rcases shown.stands.call advances called fits with ⟨x', later, stands⟩
  exact ⟨x', later, shows_of_stands stands (Int.add_nonneg shown.nonneg (Int.natCast_nonneg _))⟩

theorem Tempo.Reads.around {α β : Type} {read : Action (SteppedClock × κ) α} {value : Int → α}
    {last : Int} (reads : g.Reads read value last) (fits : last ≤ Signed.greatest)
    (advances : Advances op a before) (shown : g.Shows t x w) (called : before i x)
    (ends : g.secondReading t (a i) ≤ last) {next : α → α → Action (SteppedClock × κ) β}
    {post : β → SteppedClock × κ → Prop}
    (rest : ∀ x' w', before (i + 1) x' → g.Shows (g.secondReading t (a i)) x' w' →
      Completes (next (value (g.after 1 t)) (value (g.secondReading t (a i)))) w' post) :
    Completes (do
      let first ← read
      modify op
      let last ← read
      next first last) w post := by
  have called_by : g.after 1 t + a i ≤ last := Int.le_trans le_after ends
  have first_by : g.after 1 t ≤ last := by omega
  apply (reads t x w shown first_by).bind
  intro first w₁ read₁
  rcases advances.shows read₁.2 called (Int.le_trans called_by fits) with ⟨x', later, moved⟩
  have call : Completes (ε := Failure) (modify op) w₁ fun _ w₂ =>
      g.Shows (g.after 1 t + a i) x' w₂ := .modify moved
  apply call.bind
  intro _ w₂ moved
  apply (reads _ x' w₂ moved ends).bind
  intro last w₃ read₃
  rw [read₁.1, read₃.1]
  exact rest x' w₃ later read₃.2

namespace Meter

theorem elapsed_completes (advances : Advances op a before) (shown : g.Shows t x w)
    (called : before i x) (exact : g.Exact n c) (timebase : Timebase)
    (ends : g.secondReading t (a i) ≤ Signed.greatest)
    (word : timebase = .cycleCounter → g.count (g.secondReading t (a i)) < word64) :
    Completes (elapsed op c timebase) w fun ns w' =>
      ns = (a i + g.step : Nat) ∧
        ∃ x', before (i + 1) x' ∧ g.Shows (g.secondReading t (a i)) x' w' := by
  have nonneg : 0 ≤ g.after 1 t := Int.le_trans shown.nonneg le_after
  have second := secondReading_eq (g := g) (t := t) (a i)
  cases timebase with
  | monotonicClock =>
      have reads := monotonic_reads (g := g) (κ := κ) (Int.le_refl Signed.greatest)
      apply reads.around (Int.le_refl _) advances shown called ends
      intro x' w' later now
      have subtracted : Signed.sub (g.secondReading t (a i)) (g.after 1 t) =
          .ok ((a i + g.step : Nat) : Int) := by
        rw [Signed.sub_eq_ok, second]
        rw [second] at ends
        simp only [Signed.Fits, Signed.least, Signed.greatest] at *
        omega
      exact .of_ok (Action.checked_eq_ok.mpr ⟨subtracted, rfl⟩) ⟨rfl, x', later, now⟩
  | cycleCounter =>
      have reads := cycles_reads (κ := κ) ends (word rfl)
      apply reads.around ends advances shown called (Int.le_refl _)
      intro x' w' later now
      have cycles : g.count (g.secondReading t (a i)) - g.count (g.after 1 t) =
          g.rate * (a i + g.step) := by
        rw [second, count_add nonneg, Nat.add_sub_cancel_left]
      have divided : g.rate * (a i + g.step) / g.rate = a i + g.step :=
        Nat.mul_div_cancel_left _ g.rate_pos
      have counted : g.rate * (a i + g.step) < word64 := by
        rw [← cycles]
        exact Nat.lt_of_le_of_lt (Nat.sub_le _ _) (word rfl)
      have converted : c.nanos (g.rate * (a i + g.step)) = .ok ((a i + g.step : Nat) : Int) := by
        rw [nanos_of_known exact.hz_eq counted, divided]
        rw [divided]
        omega
      rw [cycles]
      exact .of_ok (Action.checked_eq_ok.mpr ⟨converted, rfl⟩) ⟨rfl, x', later, now⟩

theorem pace_completes (shown : g.Shows t x w) (exact : g.Exact n c)
    (cheap : (g.readCost n : Int) < unmeasuredCost) (pause : Signed.Fits plan.pause)
    (ends : g.pausedUntil (g.readCost n) plan t ≤ Signed.greatest)
    (word : plan.timebase = .cycleCounter → 0 < plan.pause →
      g.count (g.pausedUntil (g.readCost n) plan t) < word64) :
    Completes (pace c plan.timebase plan.pacing) w fun _ w' =>
      g.Shows (g.pausedUntil (g.readCost n) plan t) x w' := by
  simp only [RunPlan.pacing, Pacing.ofPause, pausedUntil] at *
  by_cases slept : plan.pause < 0
  · rw [if_neg (Int.not_le.mpr slept)]
    rw [if_pos slept] at ends ⊢
    have word : ((plan.pause.natAbs / 1000 * 1000 : Nat) : Int) ≤ Signed.greatest := by
      simp only [Signed.Fits, Signed.least, Signed.greatest] at *
      omega
    have nonneg := Int.add_nonneg shown.nonneg (Int.natCast_nonneg (plan.pause.natAbs / 1000 * 1000))
    exact .modify (shows_of_stands (shown.stands.sleep word ends) nonneg)
  · rw [if_pos (Int.not_lt.mp slept)]
    rw [if_neg slept] at ends word ⊢
    by_cases none : plan.pause = 0
    · rw [if_pos none]
      exact .of_ok (Spin.wait_of_nonpos (Int.le_of_eq none) w) shown
    · have some : 0 < plan.pause := by omega
      rw [if_neg none] at ends word ⊢
      have measured : c.readCost ≠ unmeasuredCost := by
        rw [exact.readCost_eq]
        exact ne_of_lt cheap
      cases timebase : plan.timebase with
      | monotonicClock =>
          rw [timebase] at ends
          have spun := onMonotonicClock_completes exact.readCost_eq measured pause shown ends
          exact .of_eq (Spin.wait_monotonicClock some w) spun
      | cycleCounter =>
          rw [timebase] at ends word
          have spun := onCycleCounter_completes exact.hz_eq pause shown ends (word rfl some)
          exact .of_eq (Spin.wait_cycleCounter some w) spun

theorem sample_completes (advances : Advances op a before) (shown : g.Shows t x w)
    (called : before i x) (exact : g.Exact n c) (pause : Signed.Fits plan.pause)
    (ends : g.turnEnd (g.readCost n) plan t (a i) ≤ Signed.greatest)
    (word : plan.timebase = .cycleCounter →
      g.count (g.lastReading (g.readCost n) plan t (a i)) < word64) :
    Completes (sample op plan c) w fun v w' =>
      v = a i + g.step ⌈/⌉ (n + 1) ∧
        ∃ x', before (i + 1) x' ∧ g.Shows (g.turnEnd (g.readCost n) plan t (a i)) x' w' := by
  have second_by : g.secondReading t (a i) ≤ Signed.greatest := Int.le_trans le_pausedUntil ends
  have first_by : g.after 1 t ≤ Signed.greatest := by
    rw [secondReading_eq] at second_by
    omega
  have cheap := readCost_lt_greatest shown.nonneg first_by n
  have second_word : plan.timebase = .cycleCounter →
      g.count (g.secondReading t (a i)) < word64 := by
    intro counted
    refine Nat.lt_of_le_of_lt (count_le_count ?_) (word counted)
    simp only [lastReading]
    split
    · exact Int.le_refl _
    · exact le_pausedUntil
  have timed := elapsed_completes advances shown called exact plan.timebase second_by second_word
  apply timed.bind
  intro ns w₁ timed
  rcases timed with ⟨value, x', later, now⟩
  have paused := pace_completes now exact cheap pause ends (by
    intro counted some
    have last := word counted
    rwa [lastReading, if_neg (Int.not_le.mpr some)] at last)
  refine paused.bind fun _ w₂ now => .pure ⟨?_, x', later, now⟩
  have overhead : c.overhead plan.timebase = g.readCost n := by
    cases plan.timebase with
    | monotonicClock => exact exact.readCost_eq
    | cycleCounter => exact exact.cycleReadCost_eq
  have cost := g.readCost_lt_step n
  have left := step_sub_readCost (g := g) n
  have difference : Signed.Fits ((a i + g.step : Nat) - g.readCost n : Int) := by
    have nonneg : 0 ≤ g.after 1 t := Int.le_trans shown.nonneg le_after
    rw [secondReading_eq] at second_by
    simp only [Signed.Fits, Signed.least, Signed.greatest] at *
    omega
  rw [overhead, value, sampleOf, Signed.saturate_of_fits difference]
  omega

end Meter

end Jitter

import Jitter.Proofs.SteppedReadings

/-! What is read from a clock that moves by one step with each reading and counts whole cycles. -/

namespace Jitter

structure Tempo where
  step : Nat
  rate : Nat
  step_pos : 0 < step
  rate_pos : 0 < rate
  rate_lt : rate * nanosPerSecond < word64

namespace Tempo

def frequency (g : Tempo) : Nat := g.rate * nanosPerSecond

def after (g : Tempo) (n : Nat) (t : Int) : Int := t + (n * g.step : Nat)

def count (g : Tempo) (t : Int) : Nat := g.rate * t.toNat

def movement (g : Tempo) : Movement := ⟨g.step, g.frequency, true⟩

/-- A world whose clock has this tempo and shows `t`, and whose other part is `x`. -/
structure Shows {κ : Type} (g : Tempo) (t : Int) (x : κ) (w : SteppedClock × κ) : Prop where
  now_eq : w.1.now = t
  step_eq : w.1.step = g.step
  frequency_eq : w.1.frequency = g.frequency
  counter_eq : w.1.counter = true
  rest_eq : w.2 = x
  nonneg : 0 ≤ t

variable {g : Tempo} {n k : Nat} {t last : Int}

theorem movement_after : g.movement.after n t = g.after n t := rfl

@[simp]
theorem after_zero : g.after 0 t = t := Movement.after_zero (v := g.movement)

theorem after_after : g.after k (g.after n t) = g.after (n + k) t :=
  Movement.after_after (v := g.movement)

theorem after_le_after (fewer : n ≤ k) : g.after n t ≤ g.after k t :=
  Movement.after_le_after (v := g.movement) fewer

theorem le_after : t ≤ g.after n t := Movement.le_after (v := g.movement)

theorem count_after (nonneg : 0 ≤ t) :
    g.count (g.after n t) = g.count t + n * (g.rate * g.step) := by
  have elapsed : (g.after n t).toNat = t.toNat + n * g.step := by
    simp only [after]
    omega
  rw [count, count, elapsed]
  ring

theorem count_le_count {t' : Int} (earlier : t ≤ t') : g.count t ≤ g.count t' :=
  Nat.mul_le_mul_left g.rate (Int.toNat_le_toNat earlier)

theorem scaled_div : t.toNat * g.frequency / nanosPerSecond = g.count t := by
  rw [frequency, ← Nat.mul_assoc, Nat.mul_div_cancel _ (by decide), Nat.mul_comm, count]

theorem movement_count : g.movement.count t = g.count t := scaled_div

variable {κ α : Type} {x : κ} {w : SteppedClock × κ}

theorem after_one : g.after 1 t = t + g.movement.step := by
  rw [after, Nat.one_mul]
  rfl

theorem Shows.stands (shown : g.Shows t x w) : Stands g.movement t x w :=
  ⟨shown.now_eq, shown.step_eq, shown.frequency_eq, shown.counter_eq, shown.rest_eq,
    Int.le_trans (by decide) shown.nonneg⟩

theorem shows_of_stands (stands : Stands g.movement t x w) (nonneg : 0 ≤ t) : g.Shows t x w :=
  ⟨stands.now_eq, stands.step_eq, stands.frequency_eq, stands.counter_eq, stands.rest_eq, nonneg⟩

/-- Up to `last`, a reading is the value at the time to which it moves the clock. -/
def Reads (g : Tempo) (read : Action (SteppedClock × κ) α) (value : Int → α) (last : Int) : Prop :=
  ∀ t x w, g.Shows t x w → g.after 1 t ≤ last →
    Completes read w fun v w' => v = value (g.after 1 t) ∧ g.Shows (g.after 1 t) x w'

theorem monotonic_reads (fits : last ≤ Signed.greatest) :
    g.Reads (κ := κ) Clock.readMonotonic (fun t => t) last := by
  intro t x w shown before
  have nonneg : 0 ≤ g.after 1 t := Int.le_trans shown.nonneg le_after
  rw [after_one] at before nonneg ⊢
  apply (shown.stands.read (Int.le_trans before fits)).mono
  intro v w' read
  exact ⟨read.1, shows_of_stands read.2 nonneg⟩

theorem cycles_reads (fits : last ≤ Signed.greatest) (word : g.count last < word64) :
    g.Reads (κ := κ) Clock.readCycles g.count last := by
  intro t x w shown before
  have nonneg : 0 ≤ g.after 1 t := Int.le_trans shown.nonneg le_after
  have counted : g.movement.count (g.after 1 t) < word64 := by
    rw [movement_count]
    exact Nat.lt_of_le_of_lt (count_le_count before) word
  rw [after_one] at before nonneg counted ⊢
  apply (shown.stands.readCycles (Int.le_trans before fits) g.rate_lt counted).mono
  intro v w' read
  rw [movement_count] at read
  exact ⟨read.1, shows_of_stands read.2 nonneg⟩

namespace Reads

variable {read : Action (SteppedClock × κ) α} {value : Int → α}

theorem foretold (reads : g.Reads read value last) (before : g.after n t ≤ last) :
    Foretold read (fun k => g.Shows (g.after k t) x) (fun k => value (g.after k t)) n := by
  intro k below w shown
  dsimp only at shown ⊢
  have next : g.after 1 (g.after k t) = g.after (k + 1) t := after_after
  rw [← next]
  apply reads _ x w shown
  rw [next]
  exact Int.le_trans (after_le_after below) before

theorem readUntil (reads : g.Reads read value last) (shown : g.Shows t x w) {late : α → Bool}
    {fuel : Nat} (early : ∀ i, 0 < i → i < n → late (value (g.after i t)) = false)
    (arrives : late (value (g.after n t)) = true) (some : 0 < n) (enough : n ≤ fuel)
    (before : g.after n t ≤ last) :
    Completes (Clock.readUntil read late fuel) w fun _ => g.Shows (g.after n t) x := by
  have start : g.Shows (g.after 0 t) x w := by rwa [after_zero]
  rw [← Nat.zero_add n] at arrives ⊢
  refine (reads.foretold before).readUntil start ?_ arrives some enough (by omega)
  intro i positive below
  rw [Nat.zero_add]
  exact early i positive below

end Reads

end Tempo

end Jitter

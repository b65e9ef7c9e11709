import Jitter.Proofs.Conversion
import Jitter.Proofs.Spin
import Jitter.Proofs.SteppedTime

/-! How many readings a wait takes on a stepped clock. -/

namespace Jitter.Tempo

/-- The readings of a wait on the clock that begins at `t`; the first may end it. -/
def clockReads (g : Tempo) (cost ns : Nat) (t : Int) : Nat :=
  1 + min (ns - 2 * cost) (Signed.greatest - g.after 1 t).toNat ⌈/⌉ g.step

/-- The readings of a wait on the counter that begins at `t`; the first does not end it. -/
def counterReads (g : Tempo) (ns : Nat) (t : Int) : Nat :=
  1 + max 1 (min (g.rate * ns) (word64 - 1 - g.count (g.after 1 t)) ⌈/⌉ (g.rate * g.step))

def waitReads (g : Tempo) (timebase : Timebase) (cost ns : Nat) (t : Int) : Nat :=
  match timebase with
  | .monotonicClock => g.clockReads cost ns t
  | .cycleCounter => g.counterReads ns t

variable {g : Tempo} {κ : Type} {t : Int} {x : κ} {w : SteppedClock × κ} {c : Calibration}
  {ns : Int}

theorem Reads.reach {α : Type} {read : Action (SteppedClock × κ) α} {value : Int → α} {last : Int}
    (reads : g.Reads read value last) (shown : g.Shows t x w) {late : α → Bool}
    {ahead stride fuel : Nat} (positive : 0 < stride)
    (arrives : ∀ i, late (value (g.after i t)) = true ↔ ahead ≤ i * stride)
    (enough : max 1 (ahead ⌈/⌉ stride) ≤ fuel)
    (before : g.after (max 1 (ahead ⌈/⌉ stride)) t ≤ last) :
    Completes (Clock.readUntil read late fuel) w fun _ =>
      g.Shows (g.after (max 1 (ahead ⌈/⌉ stride)) t) x := by
  refine reads.readUntil shown ?_ ?_ (by omega) enough before
  · intro i some fewer
    have short : i * stride < ahead := lt_of_lt_ceilDiv positive (by omega)
    rw [← Bool.not_eq_true, arrives]
    omega
  · rw [arrives]
    calc ahead ≤ ahead ⌈/⌉ stride * stride := le_ceilDiv_mul ahead positive
      _ ≤ max 1 (ahead ⌈/⌉ stride) * stride := Nat.mul_le_mul_right stride (le_max_right _ _)

theorem waitEnd_eq (cost : Nat) (fits : Signed.Fits ns) (nonneg : 0 ≤ t)
    (first : g.after 1 t ≤ Signed.greatest) :
    Stands.waitEnd g.step cost ns t = g.after (g.clockReads cost ns.toNat t) t := by
  have entry : t + g.step = g.after 1 t := after_one.symm
  have later : ∀ n, g.after (1 + n) t = g.after n (g.after 1 t) := fun n => after_after.symm
  have ahead : (Signed.saturate (g.after 1 t + Spin.compensated cost ns) - g.after 1 t).toNat =
      min (ns.toNat - 2 * cost) (Signed.greatest - g.after 1 t).toNat := by
    rw [Spin.compensated_natCast cost fits]
    have advanced : 0 ≤ g.after 1 t := Int.le_trans nonneg le_after
    simp only [Signed.saturate, Signed.least, Signed.greatest] at *
    omega
  rw [Stands.waitEnd, Stands.arrival, entry, ahead, clockReads, later]
  rfl

theorem onMonotonicClock_completes {cost : Nat} (known : c.readCost = cost)
    (measured : c.readCost ≠ unmeasuredCost) (fits : Signed.Fits ns) (shown : g.Shows t x w)
    (before : g.after (g.clockReads cost ns.toNat t) t ≤ Signed.greatest) :
    Completes (Spin.onMonotonicClock c ns) w fun _ =>
      g.Shows (g.after (g.clockReads cost ns.toNat t) t) x := by
  have first : g.after 1 t ≤ Signed.greatest :=
    Int.le_trans (after_le_after (Nat.le_add_right 1 _)) before
  have nonneg : 0 ≤ g.after (g.clockReads cost ns.toNat t) t := Int.le_trans shown.nonneg le_after
  have same := waitEnd_eq cost fits shown.nonneg first
  rw [← same, ← known] at before nonneg ⊢
  apply (shown.stands.wait g.step_pos measured before).mono
  intro _ w' stands
  exact shows_of_stands stands nonneg

theorem frequency_pos : 0 < g.frequency := Nat.mul_pos g.rate_pos (by decide)

theorem frequency_known : ¬(g.frequency = unmeasuredHz ∨ g.frequency = 0) := by
  have same : g.movement.frequency = g.frequency := rfl
  rw [← same, ← min_self g.movement.frequency]
  exact Movement.min_frequency_known g.rate_pos rfl g.rate_lt frequency_pos

theorem hasFrequency_of_known (known : c.hz = g.frequency) : c.hasFrequency = true := by
  rw [c.hasFrequency_iff, known]
  exact frequency_known

theorem nanosToCycles_of_known (known : c.hz = g.frequency) (fits : Signed.Fits ns) :
    c.nanosToCycles ns = .ok (min (g.rate * ns.toNat) (word64 - 1)) := by
  rw [Calibration.nanosToCycles_eq_ok, known, scaled_div]
  exact ⟨hasFrequency_of_known known, Signed.toNat_mul_lt fits.2 g.rate_lt, rfl⟩

theorem onCycleCounter_completes (known : c.hz = g.frequency) (fits : Signed.Fits ns)
    (shown : g.Shows t x w)
    (before : g.after (g.counterReads ns.toNat t) t ≤ Signed.greatest)
    (word : g.count (g.after (g.counterReads ns.toNat t) t) < word64) :
    Completes (Spin.onCycleCounter c ns) w fun _ =>
      g.Shows (g.after (g.counterReads ns.toNat t) t) x := by
  have reads := cycles_reads (κ := κ) before word
  have there : Clock.hasCycleCounter w = true := shown.counter_eq
  have counting : Completes (Spin.countUp c ns) w fun _ =>
      g.Shows (g.after (g.counterReads ns.toNat t) t) x := by
    apply Completes.except_bind (nanosToCycles_of_known known fits)
    have first_before : g.after 1 t ≤ g.after (g.counterReads ns.toNat t) t :=
      after_le_after (Nat.le_add_right 1 _)
    apply (reads t x w shown first_before).bind
    intro entry w₁ read
    rw [read.1]
    dsimp only
    have split : ∀ n, g.after (1 + n) t = g.after n (g.after 1 t) := fun n => after_after.symm
    have nonneg : 0 ≤ g.after 1 t := read.2.nonneg
    have entry_word : g.count (g.after 1 t) < word64 :=
      Nat.lt_of_le_of_lt (count_le_count first_before) word
    simp only [counterReads] at before word reads ⊢
    rw [split] at before word reads ⊢
    generalize g.after 1 t = entry at *
    have stops : Unsigned.saturate word64 (g.count entry + min (g.rate * ns.toNat) (word64 - 1)) =
        g.count entry + min (g.rate * ns.toNat) (word64 - 1 - g.count entry) := by
      simp only [Unsigned.saturate, word64] at *
      omega
    have far : min (g.rate * ns.toNat) (word64 - 1 - g.count entry) ≤ g.rate * ns.toNat :=
      min_le_left _ _
    rw [stops]
    generalize min (g.rate * ns.toNat) (word64 - 1 - g.count entry) = ahead at *
    refine reads.reach read.2 (Nat.mul_pos g.rate_pos g.step_pos) ?_ ?_ (Int.le_refl _)
    · intro i
      rw [decide_eq_true_iff, count_after nonneg]
      omega
    · have short : ns.toNat ≤ Clock.patience := by
        simp only [Signed.Fits, Signed.greatest, Clock.patience] at *
        omega
      have reached : ahead ⌈/⌉ (g.rate * g.step) ≤ Clock.patience := by
        rw [ceilDiv_le_iff_le_mul (Nat.mul_pos g.rate_pos g.step_pos)]
        calc ahead ≤ g.rate * ns.toNat := far
          _ ≤ g.rate * Clock.patience := Nat.mul_le_mul_left g.rate short
          _ ≤ g.rate * g.step * Clock.patience :=
            Nat.mul_le_mul_right _ (Nat.le_mul_of_pos_right g.rate g.step_pos)
      exact max_le (by decide) reached
  exact .of_eq (Spin.onCycleCounter_of_counter there) counting

end Jitter.Tempo

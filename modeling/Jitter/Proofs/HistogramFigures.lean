import Jitter.Proofs.Percentile

/-! The figures of a histogram fit their words for as long as the samples can be counted, and go
together. -/

namespace Jitter.Histogram

/-- The figures of a histogram with samples. All of them fit their words, the mean too before it is cut
down to one. -/
structure Consistent (h : Histogram) : Prop where
  bucket_lt : ∀ i, h.buckets.getD i 0 < word64
  overflow_lt : h.overflow < word64
  samples_lt : h.samples < word64
  total_lt : h.total < word128
  mean_lt : h.total / h.samples < word64
  average_eq : h.average = h.total / h.samples
  total_between : h.samples * h.least ≤ h.total ∧ h.total ≤ h.samples * h.greatest
  average_between : h.least ≤ h.average ∧ h.average ≤ h.greatest
  sum_eq : h.buckets.sum + h.overflow = h.samples

variable {h next : Histogram} {width count : Nat} {samples : Multiset Nat}

theorem inFirst_eq_sum (buckets : Array Nat) (k : Nat) :
    inFirst buckets k = (buckets.toList.take k).sum := by
  induction k with
  | zero => rfl
  | succ k ih =>
      have bucket : buckets.getD k 0 = (buckets.toList[k]?.toList).sum := by
        rw [Array.getD_eq_getD_getElem?, Array.getElem?_toList]
        cases buckets[k]? <;> simp
      rw [inFirst, ih, bucket, List.take_add_one, List.sum_append]

theorem Describes.sum_buckets (d : Describes h width count samples) :
    h.buckets.sum + h.overflow = samples.card := by
  have inside : h.buckets.sum = samples.countP (· < count * width) := by
    rw [← d.inFirst_eq (Nat.le_refl count), inFirst_eq_sum, ← d.size_eq, ← Array.length_toList,
      List.take_length, Array.sum_toList]
  have all := Multiset.card_eq_countP_add_countP (· < count * width) samples
  rw [inside, d.overflow_eq, all]
  simp

theorem Describes.total_between (d : Describes h width count samples) (some : samples ≠ 0) :
    h.samples * h.least ≤ h.total ∧ h.total ≤ h.samples * h.greatest := by
  have low := Multiset.card_nsmul_le_sum fun x member => (d.isLeast some).2 member
  have high := Multiset.sum_le_card_nsmul _ _ fun x member => (d.isGreatest some).2 member
  rw [smul_eq_mul] at low high
  rw [d.samples_eq, d.total_eq]
  exact ⟨low, high⟩

theorem Describes.average_between (d : Describes h width count samples)
    (words : ∀ x ∈ samples, x < word64) (some : samples ≠ 0) :
    h.least ≤ h.average ∧ h.average ≤ h.greatest := by
  have filled : 0 < samples.card := Multiset.card_pos.mpr some
  rcases d.total_between some with ⟨low, high⟩
  rw [d.samples_eq, d.total_eq] at low high
  rw [d.average_eq words]
  exact ⟨(Nat.le_div_iff_mul_le filled).mpr (Nat.mul_comm .. ▸ low), Nat.div_le_of_le_mul high⟩

theorem Describes.consistent (d : Describes h width count samples)
    (words : ∀ x ∈ samples, x < word64) (some : samples ≠ 0) (fewer : samples.card < word64) :
    h.Consistent where
  bucket_lt i := Nat.lt_of_le_of_lt (d.getD_le_card i (Nat.zero_le _)) fewer
  overflow_lt := Nat.lt_of_le_of_lt d.overflow_le_card fewer
  samples_lt := d.samples_eq ▸ fewer
  total_lt := by
    have bound := sum_le words
    rw [d.total_eq]
    simp only [word64, word128] at *
    omega
  mean_lt := by
    rw [d.total_eq, d.samples_eq]
    exact Histogram.mean_lt words
  average_eq := by rw [d.average_eq words, d.total_eq, d.samples_eq]
  total_between := d.total_between some
  average_between := d.average_between words some
  sum_eq := by rw [d.sum_buckets, d.samples_eq]

theorem room_eq_ok {x : Nat} :
    h.room x = .ok () ↔
      h.buckets.getD (h.index x) h.overflow + 1 < word64 ∧ h.total + x < word128 ∧
        h.samples + 1 < word64 := by
  simp only [room, except_bind_eq_ok, Unsigned.add_eq_ok]
  simp [pure, Except.pure]

theorem Describes.accumulate_iff (d : Describes h width count samples) {x : Nat}
    (word : x < word64) (words : ∀ y ∈ samples, y < word64) :
    (∃ next, h.accumulate x = .ok next) ↔ samples.card + 1 < word64 := by
  constructor
  · rintro ⟨next, taken⟩
    rw [← d.samples_eq]
    exact (room_eq_ok.mp (accumulate_eq_ok.mp taken).1).2.2
  · exact fun fewer => ⟨_, d.accumulate word words fewer⟩

theorem perform_samples_lt {step : Step} (before : h.samples < word64)
    (done : h.perform step = .ok next) : next.samples < word64 := by
  cases step with
  | accumulate x =>
      obtain ⟨room, rfl⟩ := accumulate_eq_ok.mp done
      rw [insert_samples]
      exact (room_eq_ok.mp room).2.2
  | init k =>
      simp only [perform] at done
      split at done
      · rename_i emptied accepted
        cases done
        obtain ⟨-, -, -, rfl⟩ := init_eq_ok.mp accepted
        exact Nat.zero_lt_succ _
      · cases done
        exact before

variable {fresh : Histogram} {steps : List Step}

theorem describes_of_after (start : Describes fresh width 0 0)
    (words : ∀ x, Step.accumulate x ∈ steps → x < word64) (reached : fresh.after steps = .ok h) :
    Describes h width (firstSize steps) (recent steps) ∧ (recent steps).card < word64 := by
  induction steps using List.reverseRecOn generalizing h with
  | nil =>
      cases reached
      exact ⟨start, by decide⟩
  | append_singleton past step ih =>
      rw [after_append] at reached
      obtain ⟨before, halfway, last⟩ := except_bind_eq_ok.mp reached
      obtain ⟨d, fewer⟩ := ih (fun x member => words x (List.mem_append_left _ member)) halfway
      have last : before.perform step = .ok h := by simpa [after] using last
      have counted := perform_samples_lt (d.samples_eq ▸ fewer) last
      obtain ⟨other, done, e⟩ : ∃ other, before.perform step = .ok other ∧
          Describes other width (firstSize (past ++ [step])) (recent (past ++ [step])) := by
        cases step with
        | init k => exact d.perform_init k
        | accumulate x =>
            refine d.perform_accumulate words ?_
            obtain ⟨-, rfl⟩ := accumulate_eq_ok.mp last
            rw [insert_samples, d.samples_eq] at counted
            rwa [recent_accumulate, Multiset.card_cons]
      obtain rfl : other = h := Except.ok.inj (done.symm.trans last)
      exact ⟨e, e.samples_eq ▸ counted⟩

theorem after_iff (start : Describes fresh width 0 0)
    (words : ∀ x, Step.accumulate x ∈ steps → x < word64) :
    (∃ h, fresh.after steps = .ok h) ↔ ∀ past, past <+: steps → (recent past).card < word64 := by
  constructor
  · rintro ⟨h, reached⟩ past ⟨rest, rfl⟩
    rw [after_append] at reached
    obtain ⟨before, halfway, -⟩ := except_bind_eq_ok.mp reached
    have earlier : ∀ x, Step.accumulate x ∈ past → x < word64 :=
      fun x member => words x (List.mem_append_left _ member)
    exact (describes_of_after start earlier halfway).2
  · intro fewer
    obtain ⟨h, reached, -⟩ := describes_after start steps words fewer
    exact ⟨h, reached⟩

/-- After any history there is room for one more sample for as long as the samples since the last
sizing can be counted; all figures then fit their words and go together. -/
theorem accumulate_fits_while_counted (width : Nat) (positive : 0 < width) (steps : List Step)
    (words : ∀ x, Step.accumulate x ∈ steps → x < word64) :
    ∃ fresh, new width = .ok fresh ∧
      ((∃ h, fresh.after steps = .ok h) ↔
        ∀ past, past <+: steps → (recent past).card < word64) ∧
      ∀ h, fresh.after steps = .ok h → ∀ x < word64,
        ((∃ next, h.accumulate x = .ok next) ↔ (recent steps).card + 1 < word64) ∧
        ∀ next, h.accumulate x = .ok next →
          Describes next width (firstSize steps) (x ::ₘ recent steps) ∧ next.Consistent := by
  have start : Describes (blank width positive #[]) width 0 0 := blank_describes width positive 0
  refine ⟨blank width positive #[], dif_pos positive, after_iff start words, ?_⟩
  intro h reached x word
  have d := (describes_of_after start words reached).1
  have earlier : ∀ y ∈ recent steps, y < word64 := fun y member => words y (mem_recent member)
  have room := d.accumulate_iff word earlier
  refine ⟨room, fun next taken => ?_⟩
  have fewer := room.mp ⟨next, taken⟩
  obtain ⟨-, rfl⟩ := accumulate_eq_ok.mp taken
  have all : ∀ y ∈ x ::ₘ recent steps, y < word64 := by
    simpa using ⟨word, earlier⟩
  have e := d.insert word
  exact ⟨e, e.consistent all Multiset.cons_ne_zero (by rwa [Multiset.card_cons])⟩

/-- The greatest sample of all, before and after a sizing and one that is refused. -/
theorem three_greatest_samples :
    ∃ fresh h next, new 10 = .ok fresh ∧
      fresh.after [.accumulate 18446744073709551615, .init 3, .accumulate 18446744073709551615,
        .init 4, .accumulate 7] = .ok h ∧
      h.accumulate 18446744073709551615 = .ok next ∧ next.Consistent ∧
      next.samples = 3 ∧ next.total = 36893488147419103237 := by
  obtain ⟨fresh, made, followed, room⟩ := accumulate_fits_while_counted 10 (by decide)
    [.accumulate 18446744073709551615, .init 3, .accumulate 18446744073709551615, .init 4,
      .accumulate 7]
    (by
      intro x member
      simp at member
      simp only [word64]
      omega)
  obtain ⟨h, reached⟩ := followed.mpr fun past early =>
    Nat.lt_of_le_of_lt ((card_recent_le past).trans early.length_le) (by decide)
  obtain ⟨counted, figures⟩ := room h reached 18446744073709551615 (by decide)
  obtain ⟨next, taken⟩ := counted.mpr (by decide)
  obtain ⟨d, consistent⟩ := figures next taken
  exact ⟨fresh, h, next, made, reached, taken, consistent, d.samples_eq, d.total_eq⟩

end Jitter.Histogram

import Jitter.Proofs.Refusal
import Jitter.Proofs.Reporting

/-! Reports on one run: its samples and no others are in them, and none of their figures is missing. -/

namespace Jitter

namespace Histogram

variable {h : Histogram} {width count : Nat} {samples : Multiset Nat}

theorem Describes.standardPercentile_ok (d : Describes h width count samples)
    (word : width < word64) (fewer : samples.card < word64)
    (sampled : ∀ x ∈ samples, (x : Int) ≤ Signed.greatest) {p : Float}
    (member : p ∈ standardPercentiles) : ∃ answer, h.percentile p = .ok answer := by
  have most : target p h.samples ≤ samples.card := by
    rw [d.samples_eq]
    exact Rounding.target_le_of_standard member fewer
  obtain ⟨answer, answered⟩ := d.percentileAt_ok word fewer sampled p most
  exact ⟨answer, percentile_eq_ok.mpr ⟨standardPercentiles_valid p member, answered⟩⟩

theorem sum_countsBelow (buckets : Array Nat) (k : Nat) (found : List (Nat × Nat)) :
    ((countsBelow buckets k found).map Prod.snd).sum =
      inFirst buckets k + (found.map Prod.snd).sum := by
  induction k generalizing found with
  | zero => simp [countsBelow, inFirst]
  | succ k ih =>
      rw [countsBelow, ih, inFirst]
      split
      · rename_i none
        omega
      · rw [List.map_cons, List.sum_cons]
        omega

theorem count_of_bucket {i n : Nat} {b : Bucket} (made : h.bucket i n = .ok b) : b.count = n := by
  rcases except_bind_eq_ok.mp made with ⟨_, _, made⟩
  rcases except_bind_eq_ok.mp made with ⟨_, _, made⟩
  rcases except_bind_eq_ok.mp made with ⟨_, _, ⟨⟩⟩
  rfl

theorem counts_of_buckets {xs : List (Nat × Nat)} {bs : List Bucket}
    (made : xs.mapM (fun (i, n) => h.bucket i n) = .ok bs) :
    bs.map Bucket.count = xs.map Prod.snd := by
  induction xs generalizing bs with
  | nil =>
      cases made
      rfl
  | cons x xs ih =>
      rw [List.mapM_cons] at made
      rcases except_bind_eq_ok.mp made with ⟨b, now, made⟩
      rcases except_bind_eq_ok.mp made with ⟨rest, later, ⟨⟩⟩
      rw [List.map_cons, List.map_cons, count_of_bucket now, ih later]

theorem Describes.sum_counts (d : Describes h width count samples) {bs : List Bucket}
    (listed : h.nonemptyBuckets = .ok bs) :
    (bs.map Bucket.count).sum + h.overflow = samples.card := by
  have inside : inFirst h.buckets h.count = samples.countP (· < count * width) := by
    rw [Histogram.count, d.size_eq]
    exact d.inFirst_eq (Nat.le_refl count)
  have all := Multiset.card_eq_countP_add_countP (· < count * width) samples
  rw [counts_of_buckets listed, counts, sum_countsBelow, inside, d.overflow_eq, all]
  simp

end Histogram

theorem Report.new_ok {h : Histogram} {width count : Nat} {samples : Multiset Nat}
    (d : h.Describes width count samples) (word : width < word64) (fewer : samples.card < word64)
    (sampled : ∀ x ∈ samples, (x : Int) ≤ Signed.greatest) (title : String) (run : RunPlan)
    (c : Calibration) (verbose : Int) :
    ∃ r, new title run c h verbose = .ok r ∧ r.summary.samples = samples.card ∧
      (0 < verbose → (r.buckets.map Bucket.count).sum + r.summary.overflow = samples.card) := by
  obtain ⟨r, made⟩ := new_of_parts
    (fun p member => d.standardPercentile_ok word fewer sampled member)
    (d.nonemptyBuckets_ok word sampled) title run c verbose
  rcases new_eq_ok.mp made with ⟨percentiles, buckets, -, listed, rfl⟩
  refine ⟨_, made, d.samples_eq, fun asked => ?_⟩
  rw [if_pos asked] at listed
  exact d.sum_counts listed

namespace Meter

variable {ω : Type}

theorem initHistogram_eq_ok {count : Nat} {m m' : Meter ω} :
    initHistogram count m = .ok () m' ↔
      ∃ h, m.histogram.init count = .ok h ∧ m' = { m with histogram := h } := by
  simp only [initHistogram]
  rw [run_get_bind, bind_eq_ok]
  constructor
  · intro ended
    rcases ended with ⟨h, _, sized, ⟨⟩⟩
    rcases Action.except_eq_ok.mp sized with ⟨accepted, rfl⟩
    exact ⟨h, accepted, rfl⟩
  · intro ended
    rcases ended with ⟨h, accepted, rfl⟩
    exact ⟨h, m, Action.except_eq_ok.mpr ⟨accepted, rfl⟩, rfl⟩

variable [Clock ω]

theorem run_samples {plan : RunPlan} {op : Operation ω} {m m' : Meter ω} {stats : RunStats}
    (ran : run plan op m = .ok stats m') :
    ∃ xs : List Nat, xs.length = plan.measured ∧ (∀ x ∈ xs, (x : Int) ≤ Signed.greatest) ∧
      m.histogram.accumulateAll xs = .ok m'.histogram ∧ m'.calibration = m.calibration := by
  obtain ⟨-, looped, -⟩ := run_eq_ok.mp ran
  rcases bind_eq_ok.mp looped with ⟨_, v, warming, measuring⟩
  rcases repeatedly_turns discardOne_turn _ warming with ⟨_, -, first⟩
  rcases repeatedly_turns recordOne_turn _ measuring with ⟨turns, counted, second⟩
  have unchanged : v.histogram = m.histogram := by
    have kept := first.kept
    rw [drop_all, warned_histogram] at kept
    exact (Except.ok.inj kept).symm
  refine ⟨turns.map (Turn.sample v.calibration plan.timebase), by simp [counted], ?_, ?_, ?_⟩
  · intro x member
    rcases List.mem_map.mp member with ⟨turn, -, rfl⟩
    simp only [Turn.sample, Signed.greatest]
    omega
  · rw [← unchanged]
    exact second.kept
  · rw [second.calibration_eq, first.calibration_eq, warned_calibration]

end Meter

end Jitter

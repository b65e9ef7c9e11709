import Jitter.Histogram.Percentile
import Jitter.Proofs.HistogramHistory

/-! Percentiles by the samples: the bound is the first end of a bucket with enough samples below it. -/

namespace Jitter.Histogram

def inFirst (buckets : Array Nat) : Nat → Nat
  | 0 => 0
  | k + 1 => inFirst buckets k + buckets.getD k 0

/-- Where a walk ends: as soon as the buckets hold `target` samples, or after the last of them. -/
structure Stop (buckets : Array Nat) (target k : Nat) : Prop where
  inside : k ≤ buckets.size
  early : ∀ j < k, inFirst buckets j < target
  late : k < buckets.size → target ≤ inFirst buckets k

theorem walk_stops {target : Nat} {buckets : Array Nat}
    (words : ∀ k ≤ buckets.size, inFirst buckets k < word64) {left : Nat}
    (inside : left ≤ buckets.size)
    (early : ∀ j < buckets.size - left, inFirst buckets j < target) :
    ∃ k, Stop buckets target k ∧
      walk target buckets left (inFirst buckets (buckets.size - left)) =
        .ok (k, inFirst buckets k) := by
  -- On the buckets still to take: those before them have never held `target` samples.
  induction left with
  | zero =>
      refine ⟨buckets.size, ⟨Nat.le_refl _, early, fun absurdly => ?_⟩, rfl⟩
      exact absurd absurdly (Nat.lt_irrefl _)
  | succ left ih =>
      have next : buckets.size - left = buckets.size - (left + 1) + 1 := by omega
      by_cases short : inFirst buckets (buckets.size - (left + 1)) < target
      · obtain ⟨k, stop, walked⟩ := ih (by omega) (by
          intro j before
          rw [next] at before
          rcases Nat.lt_succ_iff_lt_or_eq.mp before with before | rfl
          · exact early j before
          · exact short)
        refine ⟨k, stop, ?_⟩
        have fits := words (buckets.size - left) (Nat.sub_le _ _)
        rw [next, inFirst] at fits walked
        rw [walk, if_pos short, Unsigned.add_of_lt fits]
        exact walked
      · refine ⟨buckets.size - (left + 1), ⟨Nat.sub_le _ _, early, fun _ => ?_⟩, ?_⟩
        · exact Nat.le_of_not_lt short
        · rw [walk, if_neg short]
          rfl

theorem countP_below_add {a b : Nat} (ordered : a ≤ b) (samples : Multiset Nat) :
    samples.countP (· < b) =
      samples.countP (· < a) + samples.countP fun x => a ≤ x ∧ x < b := by
  induction samples using Multiset.induction_on with
  | empty => rfl
  | cons x samples ih =>
      simp only [Multiset.countP_cons, ih]
      by_cases low : x < a
      · have below : x < b := Nat.lt_of_lt_of_le low ordered
        simp only [low, below, Nat.not_le.mpr low, if_true, false_and, if_false]
        omega
      · simp only [low, Nat.le_of_not_lt low, true_and, if_false]
        omega

variable {h : Histogram} {width count : Nat} {samples : Multiset Nat}

theorem percentile_eq_ok {p : Float} {answer : Percentile} :
    h.percentile p = .ok answer ↔
      isPercentile p = true ∧ h.percentileAt p (target p h.samples) = .ok answer := by
  rw [percentile]
  by_cases share : isPercentile p = true
  · rw [if_pos share, and_iff_right share]
    exact mapError_eq_ok
  · rw [if_neg share]
    constructor
    · intro answered
      cases answered
    · intro answered
      exact absurd answered.1 share

theorem Describes.inFirst_eq (d : Describes h width count samples) {k : Nat} (inside : k ≤ count) :
    inFirst h.buckets k = samples.countP (· < k * width) := by
  induction k with
  | zero => simp [inFirst]
  | succ k ih =>
      have held : h.buckets.getD k 0 =
          samples.countP fun x => k * width ≤ x ∧ x < (k + 1) * width := by
        rw [Array.getD_eq_getD_getElem?, d.bucket_eq k inside, Option.getD_some]
      rw [inFirst, held, ih (Nat.le_of_succ_le inside)]
      exact (countP_below_add (Nat.mul_le_mul_right width (Nat.le_succ k)) samples).symm

theorem Describes.walk_stops (d : Describes h width count samples) (fewer : samples.card < word64)
    (target : Nat) :
    ∃ k, Stop h.buckets target k ∧ walk target h.buckets h.count 0 = .ok (k, inFirst h.buckets k) := by
  have words : ∀ k ≤ h.buckets.size, inFirst h.buckets k < word64 := by
    intro k inside
    rw [d.inFirst_eq (d.size_eq ▸ inside)]
    exact Nat.lt_of_le_of_lt (Multiset.countP_le_card _ _) fewer
  have whole := @Histogram.walk_stops target _ words _ (Nat.le_refl _) (by simp)
  simpa [Histogram.count, inFirst] using whole

/-- The numbers of first buckets that hold `target` samples. -/
def Sufficient (width count : Nat) (samples : Multiset Nat) (target : Nat) : Set Nat :=
  {k | k ≤ count ∧ target ≤ samples.countP (· < k * width)}

theorem exists_least_sufficient {target : Nat}
    (enough : target ≤ samples.countP (· < count * width)) :
    ∃ k, IsLeast (Sufficient width count samples target) k := by
  classical
  have some : ∃ k, k ∈ Sufficient width count samples target := ⟨count, Nat.le_refl _, enough⟩
  exact ⟨Nat.find some, Nat.find_spec some, fun k member => Nat.find_min' some member⟩

theorem Describes.percentileAt_eq (d : Describes h width count samples)
    (fewer : samples.card < word64) (p : Float) (target : Nat) :
    ∃ k, Stop h.buckets target k ∧ k ≤ count ∧ h.percentileAt p target =
      if target ≤ samples.countP (· < k * width) then
        (Unsigned.mul word64 k width).map (.below p)
      else (Unsigned.mul word64 count width).map (.overflow p) := by
  obtain ⟨k, stop, walked⟩ := d.walk_stops fewer target
  have inside : k ≤ count := d.size_eq ▸ stop.inside
  refine ⟨k, stop, inside, ?_⟩
  rw [percentileAt, walked, limit, d.width_eq, Histogram.count, d.size_eq, ← d.inFirst_eq inside]
  by_cases reached : target ≤ inFirst h.buckets k
  · rw [if_pos reached]
    exact if_pos reached
  · rw [if_neg reached]
    exact if_neg reached

theorem Describes.percentileAt_of_enough (d : Describes h width count samples)
    (fewer : samples.card < word64) {target k : Nat}
    (least : IsLeast (Sufficient width count samples target) k) (p : Float) :
    h.percentileAt p target = (Unsigned.mul word64 k width).map (.below p) := by
  obtain ⟨stopped, stop, inside, answered⟩ := d.percentileAt_eq fewer p target
  have same : stopped = k := by
    apply Nat.le_antisymm
    · apply Nat.le_of_not_lt
      intro passed
      have short := stop.early k passed
      rw [d.inFirst_eq least.1.1] at short
      exact absurd least.1.2 (Nat.not_le.mpr short)
    · by_cases last : stopped < h.buckets.size
      · exact least.2 ⟨inside, d.inFirst_eq inside ▸ stop.late last⟩
      · have ended : stopped = count := d.size_eq ▸ Nat.le_antisymm stop.inside (by omega)
        exact ended ▸ least.1.1
  rw [answered, same, if_pos least.1.2]

theorem Describes.percentileAt_of_few (d : Describes h width count samples)
    (fewer : samples.card < word64) {target : Nat}
    (few : samples.countP (· < count * width) < target) (p : Float) :
    h.percentileAt p target = (Unsigned.mul word64 count width).map (.overflow p) := by
  obtain ⟨stopped, _, inside, answered⟩ := d.percentileAt_eq fewer p target
  have short : samples.countP (· < stopped * width) ≤ samples.countP (· < count * width) := by
    rw [countP_below_add (Nat.mul_le_mul_right width inside)]
    exact Nat.le_add_right _ _
  rw [answered, if_neg (by omega)]

theorem Describes.percentileAt_eq_below (d : Describes h width count samples)
    (fewer : samples.card < word64) {p q : Float} {target bound : Nat} :
    h.percentileAt p target = .ok (.below q bound) ↔
      q = p ∧ bound < word64 ∧
        ∃ k, IsLeast (Sufficient width count samples target) k ∧ bound = k * width := by
  by_cases enough : target ≤ samples.countP (· < count * width)
  · obtain ⟨k, least⟩ := exists_least_sufficient enough
    rw [d.percentileAt_of_enough fewer least, Unsigned.mul_map]
    constructor
    · intro answered
      split at answered
      · rename_i fits
        cases answered
        exact ⟨rfl, fits, k, least, rfl⟩
      · cases answered
    · rintro ⟨rfl, fits, other, least', rfl⟩
      obtain rfl := least.unique least'
      rw [if_pos fits]
  · rw [d.percentileAt_of_few fewer (Nat.lt_of_not_le enough), Unsigned.mul_map]
    constructor
    · intro answered
      split at answered
      · cases answered
      · cases answered
    · rintro ⟨-, -, k, ⟨⟨inside, some⟩, -⟩, -⟩
      have more := countP_below_add (Nat.mul_le_mul_right width inside) samples
      omega

theorem Describes.percentileAt_eq_overflow (d : Describes h width count samples)
    (fewer : samples.card < word64) {p q : Float} {target limit : Nat} :
    h.percentileAt p target = .ok (.overflow q limit) ↔
      q = p ∧ limit < word64 ∧ samples.countP (· < count * width) < target ∧
        limit = count * width := by
  by_cases enough : target ≤ samples.countP (· < count * width)
  · obtain ⟨k, least⟩ := exists_least_sufficient enough
    rw [d.percentileAt_of_enough fewer least, Unsigned.mul_map]
    constructor
    · intro answered
      split at answered
      · cases answered
      · cases answered
    · rintro ⟨-, -, few, -⟩
      exact absurd enough (Nat.not_le.mpr few)
  · have few := Nat.lt_of_not_le enough
    rw [d.percentileAt_of_few fewer few, Unsigned.mul_map]
    constructor
    · intro answered
      split at answered
      · rename_i fits
        cases answered
        exact ⟨rfl, fits, few, rfl⟩
      · cases answered
    · rintro ⟨rfl, fits, -, rfl⟩
      rw [if_pos fits]

theorem Describes.percentile_eq_below (d : Describes h width count samples)
    (fewer : samples.card < word64) {p q : Float} {bound : Nat} :
    h.percentile p = .ok (.below q bound) ↔
      isPercentile p = true ∧ q = p ∧ bound < word64 ∧
        ∃ k, IsLeast (Sufficient width count samples (Histogram.target p samples.card)) k ∧
          bound = k * width := by
  rw [percentile_eq_ok, d.samples_eq, d.percentileAt_eq_below fewer]

theorem Describes.percentile_eq_overflow (d : Describes h width count samples)
    (fewer : samples.card < word64) {p q : Float} {limit : Nat} :
    h.percentile p = .ok (.overflow q limit) ↔
      isPercentile p = true ∧ q = p ∧ limit < word64 ∧
        samples.countP (· < count * width) < Histogram.target p samples.card ∧
          limit = count * width := by
  rw [percentile_eq_ok, d.samples_eq, d.percentileAt_eq_overflow fewer]

/-- The answer to a query, unless it is too large for a word: a bound, the end of the first bucket
with `target` samples below it, or the end of the last bucket when fewer samples are below that. -/
theorem percentile_bounds_target (width : Nat) (positive : 0 < width) (steps : List Step)
    (words : ∀ x, Step.accumulate x ∈ steps → x < word64)
    (fewer : ∀ past, past <+: steps → (recent past).card < word64) :
    ∃ fresh h, new width = .ok fresh ∧ fresh.after steps = .ok h ∧ h.count = firstSize steps ∧
      (∀ p, isPercentile p = true →
        h.percentile p = (h.percentileAt p (target p (recent steps).card)).mapError .fault) ∧
      ∀ p target, ∃ answer : Percentile, answer.share = p ∧
        h.percentileAt p target =
          (if answer.nanos < word64 then .ok answer else .error .mulOverflow) ∧
        (∀ k, answer = .below p (k * width) ↔
          IsLeast {k | k ≤ firstSize steps ∧ target ≤ (recent steps).countP (· < k * width)} k) ∧
        (answer = .overflow p (firstSize steps * width) ↔
          (recent steps).countP (· < firstSize steps * width) < target) := by
  have start : Describes (blank width positive #[]) width 0 0 := blank_describes width positive 0
  obtain ⟨h, reached, d⟩ := describes_after start steps words fewer
  have card := fewer steps (List.prefix_refl _)
  refine ⟨_, h, dif_pos positive, reached, d.size_eq, ?query, ?answer⟩
  case query =>
    intro p share
    rw [← d.samples_eq]
    simp only [percentile, if_pos share]
    rfl
  case answer =>
    intro p target
    by_cases enough : target ≤ (recent steps).countP (· < firstSize steps * width)
    · obtain ⟨k, least⟩ := exists_least_sufficient enough
      refine ⟨.below p (k * width), rfl, ?_, fun j => ?_, ?_⟩
      · rw [d.percentileAt_of_enough card least, Unsigned.mul_map]
        rfl
      · constructor
        · intro same
          obtain rfl : k = j := Nat.eq_of_mul_eq_mul_right positive (Percentile.below.inj same).2
          exact least
        · intro other
          rw [least.unique other]
      · simpa using enough
    · refine ⟨.overflow p (firstSize steps * width), rfl, ?_, fun j => ?_, ?_⟩
      · rw [d.percentileAt_of_few card (Nat.lt_of_not_le enough), Unsigned.mul_map]
        rfl
      · constructor
        · intro same
          cases same
        · intro least
          -- A number of buckets that is enough would make all of them enough.
          have inside := Nat.mul_le_mul_right width least.1.1
          have below := countP_below_add inside (recent steps)
          have counted := least.1.2
          omega
      · simpa using enough

/-- Two of four samples are below 20, and the four of them are not all below 30. -/
theorem percentile_of_four_samples :
    ∃ fresh h, new 10 = .ok fresh ∧
      fresh.after [.init 3, .accumulate 25, .accumulate 1005, .accumulate 15, .accumulate 5] =
        .ok h ∧
      h.percentileAt 50.0 2 = .ok (.below 50.0 20) ∧
      h.percentileAt 99.0 4 = .ok (.overflow 99.0 30) := by
  obtain ⟨fresh, h, made, reached, -, -, answers⟩ := percentile_bounds_target 10 (by decide)
    [.init 3, .accumulate 25, .accumulate 1005, .accumulate 15, .accumulate 5]
    (by
      intro x member
      simp at member
      simp only [word64]
      omega)
    (fun past early =>
      Nat.lt_of_le_of_lt ((card_recent_le past).trans early.length_le) (by decide))
  refine ⟨fresh, h, made, reached, ?_, ?_⟩
  · obtain ⟨answer, -, answered, below, -⟩ := answers 50.0 2
    have bound : answer = .below 50.0 (2 * 10) := by
      refine (below 2).mpr ⟨⟨by decide, by decide⟩, fun k sufficient => ?_⟩
      by_contra early
      have few : k < 2 := Nat.lt_of_not_le early
      rcases sufficient with ⟨-, enough⟩
      interval_cases k
      · exact absurd enough (by decide)
      · exact absurd enough (by decide)
    rw [answered, bound]
    rfl
  · obtain ⟨answer, -, answered, -, overflow⟩ := answers 99.0 4
    rw [answered, overflow.mpr (by decide)]
    rfl

end Jitter.Histogram

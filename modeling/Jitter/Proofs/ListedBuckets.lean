import Jitter.Proofs.PercentileOrder
import Jitter.Proofs.RunReports

/-! The ranges that are listed for the buckets with samples: they rise, they do not meet, and they
leave out no sample below the end of the last bucket. -/

namespace Jitter

/-- Where values can fail in one way only, a list of them does so if any of them does. -/
theorem mapM_eq_error {α β ε : Type} {f : α → Except ε β} {xs : List α} {e : ε}
    (each : ∀ x ∈ xs, (∃ b, f x = .ok b) ∨ f x = .error e) (broken : ∃ x ∈ xs, f x = .error e) :
    xs.mapM f = .error e := by
  induction xs with
  | nil =>
      rcases broken with ⟨x, absurdly, -⟩
      cases absurdly
  | cons x xs ih =>
      rw [List.mapM_cons]
      rcases each x List.mem_cons_self with ⟨b, now⟩ | now
      · have later : ∃ y ∈ xs, f y = .error e := by
          rcases broken with ⟨y, member, broke⟩
          rcases List.mem_cons.mp member with rfl | after
          · cases now.symm.trans broke
          · exact ⟨y, after, broke⟩
        rw [now, ih (fun y member => each y (List.mem_cons_of_mem x member)) later]
        rfl
      · rw [now]
        rfl

theorem mapM_eq_map {α β ε : Type} {f : α → Except ε β} {value : α → β} {xs : List α}
    (each : ∀ x ∈ xs, f x = .ok (value x)) : xs.mapM f = .ok (xs.map value) := by
  induction xs with
  | nil => rfl
  | cons x xs ih =>
      rw [List.mapM_cons, each x List.mem_cons_self,
        ih fun y member => each y (List.mem_cons_of_mem x member)]
      rfl

namespace Histogram

variable {h : Histogram} {width count i n : Nat} {samples : Multiset Nat}

theorem countsBelow_pairwise {buckets : Array Nat} {k : Nat} {found : List (Nat × Nat)}
    (ordered : found.Pairwise fun a b => a.1 < b.1) (past : ∀ listed ∈ found, k ≤ listed.1) :
    (countsBelow buckets k found).Pairwise fun a b => a.1 < b.1 := by
  induction k generalizing found with
  | zero => exact ordered
  | succ k ih =>
      rw [countsBelow]
      split
      · exact ih ordered fun listed member => Nat.le_of_succ_le (past listed member)
      · refine ih (.cons past ordered) fun listed member => ?_
        rcases List.mem_cons.mp member with rfl | after
        · exact Nat.le_refl _
        · exact Nat.le_of_succ_le (past listed after)

theorem mem_counts : (i, n) ∈ h.counts ↔ n = h.buckets.getD i 0 ∧ n ≠ 0 := by
  rw [counts, mem_countsBelow]
  constructor
  · rintro (absurdly | ⟨-, counted, some⟩)
    · cases absurdly
    · dsimp only at counted some
      exact ⟨counted, counted ▸ some⟩
  · rintro ⟨rfl, some⟩
    refine .inr ⟨?_, rfl, some⟩
    by_contra past
    rw [Array.getD_eq_getD_getElem?, Array.getElem?_eq_none (Nat.le_of_not_lt past)] at some
    exact some rfl

/-- The first value past the bucket that holds the last word of all is none, and it is that value
which the top of the bucket is taken from. -/
theorem bucket_of_last (last : (i + 1) * h.width = word64) (n : Nat) :
    h.bucket i n = .error .addOverflow := by
  rw [Nat.add_mul, Nat.one_mul] at last
  have positive := h.positive
  have low : Unsigned.mul word64 i h.width = .ok (i * h.width) := Unsigned.mul_of_lt (by omega)
  have next : Unsigned.add word64 (i * h.width) h.width = .error .addOverflow := if_neg (by omega)
  rw [bucket, low]
  change (Unsigned.add word64 (i * h.width) h.width >>= _) = _
  rw [next]
  rfl

def range (h : Histogram) (i : Nat) : Bucket :=
  ⟨i, i * h.width, i * h.width + (h.width - 1), h.buckets.getD i 0⟩

def places (h : Histogram) : List Nat := h.counts.map Prod.fst

theorem places_pairwise (h : Histogram) : h.places.Pairwise (· < ·) :=
  List.pairwise_map.mpr (countsBelow_pairwise .nil fun _ absurdly => nomatch absurdly)

theorem mem_places : i ∈ h.places ↔ h.buckets.getD i 0 ≠ 0 := by
  rw [places, List.mem_map]
  constructor
  · rintro ⟨⟨_, n⟩, member, rfl⟩
    obtain ⟨rfl, some⟩ := mem_counts.mp member
    exact some
  · exact fun some => ⟨(i, h.buckets.getD i 0), mem_counts.mpr ⟨rfl, some⟩, rfl⟩

theorem bucket_eq_range (fits : (i + 1) * h.width < word64) :
    h.bucket i (h.buckets.getD i 0) = .ok (h.range i) := by
  have positive := h.positive
  have top : (i + 1) * h.width - 1 = i * h.width + (h.width - 1) := by
    rw [Nat.add_mul, Nat.one_mul]
    omega
  rw [bucket_ok fits, top, range]

theorem nonemptyBuckets_of_edges
    (edges : ∀ i, h.buckets.getD i 0 ≠ 0 → (i + 1) * h.width < word64) :
    h.nonemptyBuckets = .ok (h.places.map h.range) := by
  rw [places, List.map_map]
  apply mapM_eq_map
  intro (i, n) member
  obtain ⟨rfl, some⟩ := mem_counts.mp member
  exact bucket_eq_range (edges i some)

theorem nonemptyBuckets_of_last
    (edges : ∀ i, h.buckets.getD i 0 ≠ 0 → (i + 1) * h.width ≤ word64)
    (last : ∃ i, h.buckets.getD i 0 ≠ 0 ∧ (i + 1) * h.width = word64) :
    h.nonemptyBuckets = .error .addOverflow := by
  apply mapM_eq_error
  · intro (i, n) member
    obtain ⟨rfl, some⟩ := mem_counts.mp member
    rcases Nat.lt_or_eq_of_le (edges i some) with fits | whole
    · exact .inl ⟨_, bucket_eq_range fits⟩
    · exact .inr (bucket_of_last whole _)
  · rcases last with ⟨i, some, whole⟩
    exact ⟨_, mem_counts.mpr ⟨rfl, some⟩, bucket_of_last whole _⟩

/-- What a list of ranges tells of the samples. -/
structure Lists (h : Histogram) (width count : Nat) (samples : Multiset Nat)
    (listed : List Bucket) : Prop where
  ascending : listed.Pairwise fun a b => a.index < b.index
  listed_iff : ∀ i, (∃ b ∈ listed, b.index = i) ↔ h.buckets.getD i 0 ≠ 0
  low_eq : ∀ b ∈ listed, b.low = b.index * width
  high_eq : ∀ b ∈ listed, b.high = b.index * width + (width - 1)
  count_eq : ∀ b ∈ listed, b.count = samples.countP fun x => b.low ≤ x ∧ x ≤ b.high
  apart : listed.Pairwise fun a b => a.high < b.low
  covers : ∀ x ∈ samples, x < count * width → ∃! b, b ∈ listed ∧ b.low ≤ x ∧ x ≤ b.high
  sum_eq : (listed.map Bucket.count).sum + h.overflow = h.samples

theorem range_apart {j : Nat} (before : i < j) : (h.range i).high < (h.range j).low := by
  have positive := h.positive
  have steps : (i + 1) * h.width ≤ j * h.width := Nat.mul_le_mul_right _ before
  rw [Nat.add_mul, Nat.one_mul] at steps
  simp only [range]
  omega

theorem within_range_iff {x : Nat} :
    (h.range i).low ≤ x ∧ x ≤ (h.range i).high ↔ x / h.width = i := by
  have positive := h.positive
  rw [div_width_eq_iff positive, Nat.add_mul, Nat.one_mul]
  simp only [range]
  omega

theorem Describes.getD_eq (d : Describes h width count samples) (inside : i < count) :
    h.buckets.getD i 0 = samples.countP fun x => x / width = i := by
  rw [Array.getD_eq_getD_getElem?, d.bucket_eq i inside, Option.getD_some]
  simp only [div_width_eq_iff d.positive]

theorem Describes.inside (d : Describes h width count samples) (some : h.buckets.getD i 0 ≠ 0) :
    i < count := by
  by_contra past
  rw [Array.getD_eq_getD_getElem?, Array.getElem?_eq_none (by rw [d.size_eq]; omega)] at some
  exact some rfl

theorem Describes.getD_ne_zero_iff (d : Describes h width count samples) :
    h.buckets.getD i 0 ≠ 0 ↔ ∃ x ∈ samples, x < count * width ∧ x / width = i := by
  have positive := d.positive
  constructor
  · intro some
    have inside := d.inside some
    rw [d.getD_eq inside] at some
    obtain ⟨x, member, rfl⟩ := Multiset.countP_pos.mp (Nat.pos_of_ne_zero some)
    exact ⟨x, member, (Nat.div_lt_iff_lt_mul positive).mp inside, rfl⟩
  · rintro ⟨x, member, below, rfl⟩
    rw [d.getD_eq ((Nat.div_lt_iff_lt_mul positive).mpr below)]
    exact Nat.ne_of_gt (Multiset.countP_pos.mpr ⟨x, member, rfl⟩)

theorem Describes.lists (d : Describes h width count samples)
    (listed : h.nonemptyBuckets = .ok (h.places.map h.range)) :
    h.Lists width count samples (h.places.map h.range) where
  ascending := List.pairwise_map.mpr h.places_pairwise
  listed_iff i := by
    rw [← mem_places]
    simp [range]
  low_eq b member := by
    rcases List.mem_map.mp member with ⟨i, -, rfl⟩
    rw [← d.width_eq]
    rfl
  high_eq b member := by
    rcases List.mem_map.mp member with ⟨i, -, rfl⟩
    rw [← d.width_eq]
    rfl
  count_eq b member := by
    rcases List.mem_map.mp member with ⟨i, place, rfl⟩
    simp only [within_range_iff, d.width_eq]
    exact d.getD_eq (d.inside (mem_places.mp place))
  apart := List.pairwise_map.mpr (h.places_pairwise.imp range_apart)
  covers x member below := by
    have place : x / width ∈ h.places :=
      mem_places.mpr (d.getD_ne_zero_iff.mpr ⟨x, member, below, rfl⟩)
    refine ⟨h.range (x / width), ⟨List.mem_map_of_mem place, ?_⟩, ?_⟩
    · rw [within_range_iff, d.width_eq]
    · rintro b ⟨other, within⟩
      rcases List.mem_map.mp other with ⟨j, -, rfl⟩
      rw [within_range_iff, d.width_eq] at within
      rw [within]
  sum_eq := by rw [d.sum_counts listed, d.samples_eq]

/-- Where the top of each bucket that is hit is a word, the buckets with samples are listed with their
ranges, and every sample below the end of the last bucket is in one of these. Only the bucket that ends
with the last word of all can not be listed. -/
theorem listed_ranges_hold_samples {width count : Nat} {fresh : Histogram}
    (sized : withBuckets width count = .ok fresh) (xs : List Nat) (words : ∀ x ∈ xs, x < word64)
    (fewer : xs.length < word64)
    (tops : ∀ x ∈ xs, x < count * width → x / width * width + (width - 1) < word64) :
    ∃ h, fresh.accumulateAll xs = .ok h ∧
      ((∀ x ∈ xs, x < count * width → (x / width + 1) * width ≠ word64) →
        ∃ listed, h.nonemptyBuckets = .ok listed ∧ h.Lists width count xs listed) ∧
      ((∃ x ∈ xs, x < count * width ∧ (x / width + 1) * width = word64) →
        h.nonemptyBuckets = .error .addOverflow) := by
  obtain ⟨-, start⟩ := withBuckets_describes sized
  obtain ⟨h, taken, d⟩ := start.accumulateAll words (by simp) (by simpa using fewer)
  rw [add_zero] at d
  have positive := d.positive
  have edges : ∀ i, h.buckets.getD i 0 ≠ 0 → (i + 1) * h.width ≤ word64 := by
    intro i some
    obtain ⟨x, member, below, rfl⟩ := d.getD_ne_zero_iff.mp some
    have top := tops x member below
    rw [d.width_eq, Nat.add_mul, Nat.one_mul]
    omega
  refine ⟨h, taken, ?before, ?last⟩
  case before =>
    intro before
    have listed : h.nonemptyBuckets = .ok (h.places.map h.range) := by
      apply nonemptyBuckets_of_edges
      intro i some
      refine Nat.lt_of_le_of_ne (edges i some) ?_
      obtain ⟨x, member, below, rfl⟩ := d.getD_ne_zero_iff.mp some
      rw [d.width_eq]
      exact before x member below
    exact ⟨_, listed, d.lists listed⟩
  case last =>
    intro last
    rcases last with ⟨x, member, below, whole⟩
    have some : h.buckets.getD (x / width) 0 ≠ 0 :=
      d.getD_ne_zero_iff.mpr ⟨x, member, below, rfl⟩
    exact nonemptyBuckets_of_last edges ⟨x / width, some, by rw [d.width_eq, whole]⟩

/-- Four buckets of which the last ends with the last word of all, and is not hit. -/
theorem ranges_of_quarters :
    ∃ fresh h listed, withBuckets 4611686018427387904 4 = .ok fresh ∧
      fresh.accumulateAll [13835058055282163711, 5, 9223372036854775808] = .ok h ∧
      h.nonemptyBuckets = .ok listed ∧
      h.Lists 4611686018427387904 4 [13835058055282163711, 5, 9223372036854775808] listed := by
  have sized : withBuckets 4611686018427387904 4 =
      .ok (blank 4611686018427387904 (by decide) (Array.replicate 4 0)) := rfl
  obtain ⟨h, taken, listed, -⟩ := listed_ranges_hold_samples sized
    [13835058055282163711, 5, 9223372036854775808] (by decide) (by decide) (by decide)
  obtain ⟨listed, all, lists⟩ := listed (by decide)
  exact ⟨_, h, listed, sized, taken, all, lists⟩

/-- The second half of all words is a bucket whose top is a word, and it is not listed. -/
theorem upper_half_not_listed :
    ∃ fresh h, withBuckets 9223372036854775808 2 = .ok fresh ∧
      fresh.accumulateAll [9223372036854775808] = .ok h ∧
      (∀ x ∈ [9223372036854775808], x < 2 * 9223372036854775808 →
        x / 9223372036854775808 * 9223372036854775808 + (9223372036854775808 - 1) < word64) ∧
      h.nonemptyBuckets = .error .addOverflow :=
  ⟨_, _, rfl, rfl, by decide, rfl⟩

end Histogram

end Jitter

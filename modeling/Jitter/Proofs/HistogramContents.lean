import Jitter.Histogram.Basic
import Jitter.Proofs.Effects
import Jitter.Proofs.Word
import Mathlib.Algebra.Order.BigOperators.Group.Multiset
import Mathlib.Order.Bounds.Basic
import Mathlib.Tactic

/-! What a histogram says of the samples it has taken in, in whatever order they came. -/

namespace Jitter.Histogram

/-- The figures of `h` are those of `samples`, counted in `count` buckets of `width`. -/
structure Describes (h : Histogram) (width count : Nat) (samples : Multiset Nat) : Prop where
  width_eq : h.width = width
  size_eq : h.buckets.size = count
  bucket_eq : ∀ i < count,
    h.buckets[i]? = some (samples.countP fun x => i * width ≤ x ∧ x < (i + 1) * width)
  overflow_eq : h.overflow = samples.countP (count * width ≤ ·)
  samples_eq : h.samples = samples.card
  total_eq : h.total = samples.sum
  least_of_empty : samples = 0 → h.least = word64 - 1
  isLeast : samples ≠ 0 → IsLeast {x | x ∈ samples} h.least
  greatest_of_empty : samples = 0 → h.greatest = 0
  isGreatest : samples ≠ 0 → IsGreatest {x | x ∈ samples} h.greatest

theorem blank_describes (width : Nat) (positive : 0 < width) (count : Nat) :
    Describes (blank width positive (Array.replicate count 0)) width count 0 where
  width_eq := rfl
  size_eq := by simp [blank]
  bucket_eq := by
    intro i below
    simp [blank, below]
  overflow_eq := rfl
  samples_eq := rfl
  total_eq := rfl
  least_of_empty _ := rfl
  isLeast absurdly := absurd rfl absurdly
  greatest_of_empty _ := rfl
  isGreatest absurdly := absurd rfl absurdly

theorem div_width_eq_iff {width : Nat} (positive : 0 < width) (x i : Nat) :
    x / width = i ↔ i * width ≤ x ∧ x < (i + 1) * width := by
  rw [Nat.div_eq_iff positive]
  constructor
  · intro between
    rcases between with ⟨low, high⟩
    exact ⟨low, by rw [Nat.add_mul]; omega⟩
  · intro between
    rcases between with ⟨low, high⟩
    rw [Nat.add_mul] at high
    exact ⟨low, by omega⟩

@[simp]
theorem insert_width (h : Histogram) (x : Nat) : (h.insert x).width = h.width := by
  simp only [insert, tally]
  split <;> rfl

@[simp]
theorem insert_samples (h : Histogram) (x : Nat) : (h.insert x).samples = h.samples + 1 := by
  simp only [insert, tally]
  split <;> rfl

@[simp]
theorem insert_total (h : Histogram) (x : Nat) : (h.insert x).total = h.total + x := by
  simp only [insert, tally]
  split <;> rfl

@[simp]
theorem insert_least (h : Histogram) (x : Nat) : (h.insert x).least = min h.least x := by
  simp only [insert, tally]
  split <;> rfl

@[simp]
theorem insert_greatest (h : Histogram) (x : Nat) : (h.insert x).greatest = max h.greatest x := by
  simp only [insert, tally]
  split <;> rfl

@[simp]
theorem insert_size (h : Histogram) (x : Nat) : (h.insert x).buckets.size = h.buckets.size := by
  simp only [insert, tally]
  split <;> simp

theorem insert_bucket (h : Histogram) (x i : Nat) :
    (h.insert x).buckets[i]? =
      if x / h.width = i then h.buckets[i]?.map (· + 1) else h.buckets[i]? := by
  simp only [insert, tally, index]
  by_cases inside : x / h.width < h.buckets.size
  · simp [inside, Array.getElem?_modify]
  · simp only [inside, if_false]
    by_cases here : x / h.width = i
    · have past : h.buckets.size ≤ i := by omega
      simp [here, past]
    · simp [here]

theorem insert_overflow (h : Histogram) (x : Nat) :
    (h.insert x).overflow =
      if x / h.width < h.buckets.size then h.overflow else h.overflow + 1 := by
  simp only [insert, tally, index]
  by_cases inside : x / h.width < h.buckets.size
  · simp [inside]
  · simp [inside]

theorem accumulate_eq_ok {h next : Histogram} {x : Nat} :
    h.accumulate x = .ok next ↔ h.room x = .ok () ∧ next = h.insert x := by
  simp only [accumulate]
  cases h.room x with
  | ok _ => simp [eq_comm]
  | error f => simp

theorem accumulateAll_cons_eq_ok {h last : Histogram} {x : Nat} {xs : List Nat} :
    h.accumulateAll (x :: xs) = .ok last ↔
      h.room x = .ok () ∧ (h.insert x).accumulateAll xs = .ok last := by
  rw [accumulateAll, List.foldlM_cons, except_bind_eq_ok]
  constructor
  · intro ended
    rcases ended with ⟨next, taken, rest⟩
    rcases accumulate_eq_ok.mp taken with ⟨room, rfl⟩
    exact ⟨room, rest⟩
  · intro parts
    rcases parts with ⟨room, rest⟩
    exact ⟨_, accumulate_eq_ok.mpr ⟨room, rfl⟩, rest⟩

theorem samples_of_accumulateAll {h last : Histogram} {xs : List Nat}
    (taken : h.accumulateAll xs = .ok last) : last.samples = h.samples + xs.length := by
  induction xs generalizing h with
  | nil =>
      cases taken
      rfl
  | cons x xs ih =>
      rw [ih (accumulateAll_cons_eq_ok.mp taken).2, insert_samples, List.length_cons]
      omega

variable {h : Histogram} {width count : Nat} {samples : Multiset Nat}

theorem Describes.positive (d : Describes h width count samples) : 0 < width := by
  rw [← d.width_eq]
  exact h.positive

theorem Describes.insert (d : Describes h width count samples) {x : Nat} (word : x < word64) :
    Describes (h.insert x) width count (x ::ₘ samples) where
  width_eq := by rw [insert_width, d.width_eq]
  size_eq := by rw [insert_size, d.size_eq]
  bucket_eq := by
    intro i below
    rw [insert_bucket, d.bucket_eq i below, d.width_eq, Multiset.countP_cons]
    simp only [div_width_eq_iff d.positive]
    split <;> rfl
  overflow_eq := by
    rw [insert_overflow, d.width_eq, d.size_eq, d.overflow_eq, Multiset.countP_cons]
    simp only [Nat.div_lt_iff_lt_mul d.positive]
    by_cases inside : x < count * width
    · simp [inside]
    · simp [inside, Nat.le_of_not_lt inside]
  samples_eq := by simp [d.samples_eq]
  total_eq := by simp [d.total_eq, Nat.add_comm]
  least_of_empty filled := absurd filled (Multiset.cons_ne_zero)
  isLeast _ := by
    rw [insert_least]
    by_cases empty : samples = 0
    · rw [d.least_of_empty empty, min_eq_right (Nat.le_sub_one_of_lt word)]
      simp [empty]
    · have extended := (d.isLeast empty).insert x
      simpa [Set.insert_def, min_comm] using extended
  greatest_of_empty filled := absurd filled (Multiset.cons_ne_zero)
  isGreatest _ := by
    rw [insert_greatest]
    by_cases empty : samples = 0
    · simp [empty, d.greatest_of_empty empty]
    · have extended := (d.isGreatest empty).insert x
      simpa [Set.insert_def, max_comm] using extended

theorem sum_le (words : ∀ y ∈ samples, y < word64) :
    samples.sum ≤ samples.card * (word64 - 1) :=
  Multiset.sum_le_card_nsmul _ _ fun y member => Nat.le_sub_one_of_lt (words y member)

theorem Describes.getD_le_card (d : Describes h width count samples) (i : Nat) {other : Nat}
    (otherwise : other ≤ samples.card) : h.buckets.getD i other ≤ samples.card := by
  rw [Array.getD_eq_getD_getElem?]
  by_cases inside : i < count
  · rw [d.bucket_eq i inside]
    exact Multiset.countP_le_card _ _
  · rw [Array.getElem?_eq_none (by rw [d.size_eq]; omega)]
    exact otherwise

theorem Describes.overflow_le_card (d : Describes h width count samples) :
    h.overflow ≤ samples.card := by
  rw [d.overflow_eq]
  exact Multiset.countP_le_card _ _

theorem Describes.room (d : Describes h width count samples) {x : Nat} (word : x < word64)
    (words : ∀ y ∈ samples, y < word64) (fewer : samples.card + 1 < word64) :
    h.room x = .ok () := by
  have tallied : h.buckets.getD (h.index x) h.overflow + 1 < word64 :=
    Nat.lt_of_le_of_lt (Nat.succ_le_succ (d.getD_le_card _ d.overflow_le_card)) fewer
  have summed : h.total + x < word128 := by
    have bound := sum_le words
    rw [d.total_eq]
    simp only [word64, word128] at *
    omega
  have counted : h.samples + 1 < word64 := by rwa [d.samples_eq]
  simp only [Histogram.room, Unsigned.add_of_lt tallied, Unsigned.add_of_lt summed,
    Unsigned.add_of_lt counted]
  rfl

theorem Describes.accumulate (d : Describes h width count samples) {x : Nat} (word : x < word64)
    (words : ∀ y ∈ samples, y < word64) (fewer : samples.card + 1 < word64) :
    h.accumulate x = .ok (h.insert x) := by
  rw [Histogram.accumulate, d.room word words fewer]

theorem Describes.accumulateAll (d : Describes h width count samples) {xs : List Nat}
    (taken : ∀ x ∈ xs, x < word64) (words : ∀ y ∈ samples, y < word64)
    (fewer : samples.card + xs.length < word64) :
    ∃ h', h.accumulateAll xs = .ok h' ∧ Describes h' width count (xs + samples) := by
  induction xs generalizing h samples with
  | nil => exact ⟨h, rfl, by simpa using d⟩
  | cons x xs ih =>
      have word : x < word64 := taken x List.mem_cons_self
      rw [List.length_cons] at fewer
      have next := d.accumulate word words (by omega)
      have later : ∀ y ∈ xs, y < word64 := fun y member => taken y (List.mem_cons_of_mem x member)
      have counted : ∀ y ∈ x ::ₘ samples, y < word64 := by
        intro y member
        rcases Multiset.mem_cons.mp member with same | member
        · rw [same]
          exact word
        · exact words y member
      have enough : (x ::ₘ samples).card + xs.length < word64 := by
        rw [Multiset.card_cons]
        omega
      rcases ih (d.insert word) later counted enough with ⟨h', rest, described⟩
      refine ⟨h', ?_, ?_⟩
      · rw [Histogram.accumulateAll, List.foldlM_cons, next]
        exact rest
      · rw [Multiset.add_cons] at described
        rw [← Multiset.cons_coe, Multiset.cons_add]
        exact described

theorem Describes.of_accumulateAll {last : Histogram} (d : Describes h width count samples)
    {xs : List Nat} (words : ∀ x ∈ xs, x < word64) (taken : h.accumulateAll xs = .ok last) :
    Describes last width count (xs + samples) := by
  induction xs generalizing h samples with
  | nil =>
      cases taken
      simpa using d
  | cons x xs ih =>
      have later := ih (d.insert (words x List.mem_cons_self))
        (fun y member => words y (List.mem_cons_of_mem x member))
        (accumulateAll_cons_eq_ok.mp taken).2
      rw [Multiset.add_cons] at later
      rw [← Multiset.cons_coe, Multiset.cons_add]
      exact later

theorem init_eq_ok {sized : Histogram} :
    h.init count = .ok sized ↔
      0 < count ∧ ¬(h.isSized ∧ count ≠ h.count) ∧ count < bucketLimit ∧
        sized = blank h.width h.positive (Array.replicate count 0) := by
  constructor
  · intro accepted
    simp only [init] at accepted
    split at accepted
    · cases accepted
    · rename_i some
      split at accepted
      · cases accepted
      · rename_i fitting
        split at accepted
        · cases accepted
        · rename_i modest
          cases accepted
          exact ⟨Nat.pos_of_ne_zero some, fitting, Nat.lt_of_not_le modest, rfl⟩
  · intro parts
    rcases parts with ⟨some, fitting, modest, rfl⟩
    rw [init, if_neg (Nat.ne_of_gt some), if_neg fitting, if_neg (Nat.not_le_of_lt modest)]

theorem withBuckets_describes {width count : Nat} {h : Histogram}
    (sized : withBuckets width count = .ok h) : 0 < count ∧ Describes h width count 0 := by
  rcases except_bind_eq_ok.mp sized with ⟨unsized, made, sized⟩
  have made := mapError_eq_ok.mp made
  simp only [new] at made
  split at made
  · rename_i positive
    cases made
    rcases init_eq_ok.mp sized with ⟨some, -, -, rfl⟩
    exact ⟨some, blank_describes width positive count⟩
  · cases made

theorem mean_lt (words : ∀ y ∈ samples, y < word64) :
    samples.sum / samples.card < word64 :=
  Nat.lt_of_le_pred (by decide) (Nat.div_le_of_le_mul (sum_le words))

theorem Describes.average_eq (d : Describes h width count samples)
    (words : ∀ y ∈ samples, y < word64) : h.average = samples.sum / samples.card := by
  rw [h.average_eq, d.samples_eq, d.total_eq]
  by_cases none : samples.card = 0
  · simp [none]
  · rw [if_neg none]
    exact Nat.mod_eq_of_lt (mean_lt words)

theorem Describes.unique {other : Histogram} (d : Describes h width count samples)
    (e : Describes other width count samples) : h = other := by
  have widths : h.width = other.width := d.width_eq.trans e.width_eq.symm
  have buckets : h.buckets = other.buckets := by
    apply Array.ext_getElem?
    intro i
    by_cases below : i < count
    · rw [d.bucket_eq i below, e.bucket_eq i below]
    · rw [Array.getElem?_eq_none (by rw [d.size_eq]; omega),
        Array.getElem?_eq_none (by rw [e.size_eq]; omega)]
  have least : h.least = other.least := by
    by_cases empty : samples = 0
    · rw [d.least_of_empty empty, e.least_of_empty empty]
    · exact (d.isLeast empty).unique (e.isLeast empty)
  have greatest : h.greatest = other.greatest := by
    by_cases empty : samples = 0
    · rw [d.greatest_of_empty empty, e.greatest_of_empty empty]
    · exact (d.isGreatest empty).unique (e.isGreatest empty)
  have overflow := d.overflow_eq.trans e.overflow_eq.symm
  have total := d.total_eq.trans e.total_eq.symm
  have samples := d.samples_eq.trans e.samples_eq.symm
  have sized : h.isSized = other.isSized := by rw [h.isSized_eq, other.isSized_eq, buckets]
  have average : h.average = other.average := by
    rw [h.average_eq, other.average_eq, samples, total]
  cases h
  cases other
  simp_all

end Jitter.Histogram

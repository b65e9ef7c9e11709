import Jitter.Proofs.PercentileShares
import Jitter.Proofs.ReportRanges

/-! Percentiles among one another: the bounds rise with the shares, no bound comes after an overflow, and
where there is a bound a bucket with samples ends. -/

namespace Jitter

theorem mapM_covers {α β ε : Type} {f : α → Except ε β} {xs : List α} {bs : List β}
    (made : xs.mapM f = .ok bs) {x : α} (member : x ∈ xs) : ∃ b ∈ bs, f x = .ok b := by
  induction xs generalizing bs with
  | nil => cases member
  | cons first xs ih =>
      rw [List.mapM_cons] at made
      rcases except_bind_eq_ok.mp made with ⟨b, now, made⟩
      rcases except_bind_eq_ok.mp made with ⟨others, later, ⟨⟩⟩
      rcases List.mem_cons.mp member with rfl | after
      · exact ⟨b, List.mem_cons_self, now⟩
      · obtain ⟨c, present, same⟩ := ih later after
        exact ⟨c, List.mem_cons_of_mem b present, same⟩

theorem mapM_pairwise {α β ε : Type} {R : α → α → Prop} {S : β → β → Prop} {f : α → Except ε β}
    {xs : List α} {bs : List β} (made : xs.mapM f = .ok bs) (ordered : xs.Pairwise R)
    (kept : ∀ x y a b, R x y → f x = .ok a → f y = .ok b → S a b) : bs.Pairwise S := by
  induction xs generalizing bs with
  | nil =>
      cases made
      exact .nil
  | cons x xs ih =>
      rw [List.mapM_cons] at made
      rcases except_bind_eq_ok.mp made with ⟨a, now, made⟩
      rcases except_bind_eq_ok.mp made with ⟨others, later, ⟨⟩⟩
      obtain ⟨first, rest⟩ := List.pairwise_cons.mp ordered
      refine .cons (fun b member => ?_) (ih later rest)
      obtain ⟨y, present, same⟩ := mapM_member later member
      exact kept x y a b (first y present) now same

namespace Percentile

def Precedes (a b : Percentile) : Prop :=
  ∀ upper, b.bound = some upper → ∃ lower ≤ upper, a.bound = some lower

theorem bounds_then_overflows {answers : List Percentile} (ordered : answers.Pairwise Precedes) :
    ∃ (bounds : List Nat) (lost : Nat),
      answers.map bound = bounds.map some ++ List.replicate lost none ∧
        bounds.Pairwise (· ≤ ·) := by
  induction answers with
  | nil => exact ⟨[], 0, rfl, .nil⟩
  | cons a answers ih =>
      obtain ⟨first, rest⟩ := List.pairwise_cons.mp ordered
      cases resolved : a.bound with
      | none =>
          have lost : ∀ b ∈ answers, b.bound = none := by
            intro b member
            by_contra some
            obtain ⟨upper, told⟩ := Option.ne_none_iff_exists'.mp some
            obtain ⟨lower, -, early⟩ := first b member upper told
            rw [resolved] at early
            cases early
          refine ⟨[], answers.length + 1, ?_, .nil⟩
          rw [List.map_cons, resolved, List.map_nil, List.nil_append, List.replicate_succ]
          refine congrArg _ (List.eq_replicate_iff.mpr ⟨List.length_map _, fun b member => ?_⟩)
          obtain ⟨answer, present, rfl⟩ := List.mem_map.mp member
          exact lost answer present
      | some n =>
          obtain ⟨bounds, lost, split, sorted⟩ := ih rest
          refine ⟨n :: bounds, lost, ?_, .cons (fun upper member => ?_) sorted⟩
          · rw [List.map_cons, resolved, split]
            rfl
          · have told : some upper ∈ answers.map bound := by
              rw [split]
              exact List.mem_append_left _ (List.mem_map_of_mem member)
            obtain ⟨b, present, told⟩ := List.mem_map.mp told
            obtain ⟨lower, below, early⟩ := first b present upper told
            rw [resolved] at early
            cases early
            exact below

end Percentile

namespace Histogram

variable {h : Histogram} {width count : Nat} {samples : Multiset Nat} {p q : Float}

theorem Describes.below_of_below (d : Describes h width count samples)
    (fewer : samples.card < word64) (share : isPercentile p = true) (ordered : p ≤ q) {r : Float}
    {bound : Nat} (answered : h.percentile q = .ok (.below r bound)) :
    ∃ lower ≤ bound, h.percentile p = .ok (.below p lower) := by
  obtain ⟨share', -, fits, k, ⟨⟨inside, enough⟩, -⟩, rfl⟩ := (d.percentile_eq_below fewer).mp answered
  have fewest := Rounding.target_mono share share' ordered fewer
  have sufficient : k ∈ Sufficient width count samples (Histogram.target p samples.card) :=
    ⟨inside, fewest.trans enough⟩
  have all : Histogram.target p samples.card ≤ samples.countP (· < count * width) := by
    rw [countP_below_add (Nat.mul_le_mul_right width inside)]
    exact Nat.le_add_right_of_le sufficient.2
  obtain ⟨first, least⟩ := exists_least_sufficient all
  have early : first * width ≤ k * width := Nat.mul_le_mul_right width (least.2 sufficient)
  refine ⟨first * width, early, (d.percentile_eq_below fewer).mpr ?_⟩
  exact ⟨share, rfl, early.trans_lt fits, first, least, rfl⟩

theorem Describes.overflow_of_overflow (d : Describes h width count samples)
    (fewer : samples.card < word64) (share : isPercentile q = true) (ordered : p ≤ q) {r : Float}
    {limit : Nat} (answered : h.percentile p = .ok (.overflow r limit)) :
    h.percentile q = .ok (.overflow q limit) := by
  obtain ⟨share', -, fits, few, past⟩ := (d.percentile_eq_overflow fewer).mp answered
  have fewest := Rounding.target_mono share' share ordered fewer
  exact (d.percentile_eq_overflow fewer).mpr ⟨share, rfl, fits, few.trans_le fewest, past⟩

theorem Describes.precedes (d : Describes h width count samples) (fewer : samples.card < word64)
    (ordered : p ≤ q) {a b : Percentile} (first : h.percentile p = .ok a)
    (second : h.percentile q = .ok b) : a.Precedes b := by
  intro upper told
  cases b with
  | overflow r limit => cases told
  | below r bound =>
      cases told
      obtain ⟨lower, small, answered⟩ :=
        d.below_of_below fewer (percentile_eq_ok.mp first).1 ordered second
      obtain rfl := Except.ok.inj (first.symm.trans answered)
      exact ⟨lower, small, rfl⟩

theorem Describes.bound_ends_bucket (d : Describes h width count samples)
    (fewer : samples.card < word64) {bound : Nat} (answered : h.percentile p = .ok (.below q bound)) :
    bound = 0 ∨ ∃ listed ∈ h.counts, ∃ b, h.bucket listed.1 listed.2 = .ok b ∧ bound = b.high + 1 := by
  obtain ⟨-, -, fits, k, ⟨⟨inside, enough⟩, first⟩, rfl⟩ :=
    (d.percentile_eq_below fewer).mp answered
  cases k with
  | zero => exact .inl (Nat.zero_mul width)
  | succ i =>
      right
      have early : samples.countP (· < i * width) < Histogram.target p samples.card := by
        by_contra late
        exact absurd (first ⟨Nat.le_of_succ_le inside, Nat.le_of_not_lt late⟩) (Nat.not_succ_le_self i)
      have held : h.buckets.getD i 0 =
          samples.countP fun x => i * width ≤ x ∧ x < (i + 1) * width := by
        rw [Array.getD_eq_getD_getElem?, d.bucket_eq i inside, Option.getD_some]
      have some : h.buckets.getD i 0 ≠ 0 := by
        have parts := countP_below_add (Nat.mul_le_mul_right width (Nat.le_add_right i 1)) samples
        omega
      have below : i < h.count := by rwa [Histogram.count, d.size_eq]
      have fits' : (i + 1) * h.width < word64 := by rwa [d.width_eq]
      refine ⟨(i, h.buckets.getD i 0), ?_, _, bucket_ok fits' _, ?_⟩
      · exact mem_countsBelow.mpr (.inr ⟨below, rfl, some⟩)
      · have wide : 0 < (i + 1) * h.width := Nat.mul_pos (Nat.succ_pos i) h.positive
        rw [d.width_eq] at wide ⊢
        exact (Nat.sub_add_cancel wide).symm

theorem Describes.bound_ends_listed (d : Describes h width count samples)
    (fewer : samples.card < word64) {bound : Nat} (answered : h.percentile p = .ok (.below q bound))
    {buckets : List Bucket} (listed : h.nonemptyBuckets = .ok buckets) :
    bound = 0 ∨ ∃ b ∈ buckets, bound = b.high + 1 := by
  refine (d.bound_ends_bucket fewer answered).imp_right fun ended => ?_
  obtain ⟨place, member, b, made, ends⟩ := ended
  obtain ⟨b', present, same⟩ := mapM_covers listed member
  obtain rfl := Except.ok.inj (made.symm.trans same)
  exact ⟨b, present, ends⟩

theorem Describes.answers_in_order (d : Describes h width count samples)
    (fewer : samples.card < word64) {shares : List Float} (rising : shares.Pairwise (· ≤ ·))
    {answers : List Percentile} (resolved : shares.mapM h.percentile = .ok answers) :
    ∃ (bounds : List Nat) (lost : Nat),
      answers.map Percentile.bound = bounds.map some ++ List.replicate lost none ∧
        bounds.Pairwise (· ≤ ·) ∧
        ∀ bound ∈ bounds, ∃ p, h.percentile p = .ok (.below p bound) := by
  obtain ⟨bounds, lost, split, sorted⟩ := Percentile.bounds_then_overflows
    (mapM_pairwise resolved rising fun _ _ _ _ ordered => d.precedes fewer ordered)
  refine ⟨bounds, lost, split, sorted, fun bound member => ?_⟩
  have told : some bound ∈ answers.map Percentile.bound := by
    rw [split]
    exact List.mem_append_left _ (List.mem_map_of_mem member)
  obtain ⟨answer, present, same⟩ := List.mem_map.mp told
  obtain ⟨p, -, answered⟩ := mapM_member resolved present
  cases answer with
  | overflow q limit => cases same
  | below q n =>
      obtain rfl : n = bound := Option.some.inj same
      obtain ⟨-, rfl, -⟩ := (d.percentile_eq_below fewer).mp answered
      exact ⟨q, answered⟩

theorem standardPercentiles_pairwise : standardPercentiles.Pairwise (· ≤ ·) := by decide

theorem Describes.report_in_order (d : Describes h width count samples)
    (fewer : samples.card < word64) {title : String} {run : RunPlan} {c : Calibration} {verbose : Int}
    {r : Report} (told : Report.new title run c h verbose = .ok r) :
    ∃ (bounds : List Nat) (lost : Nat),
      r.percentiles.map Percentile.bound = bounds.map some ++ List.replicate lost none ∧
        bounds.Pairwise (· ≤ ·) ∧
        (0 < verbose → ∀ bound ∈ bounds, bound = 0 ∨ ∃ b ∈ r.buckets, bound = b.high + 1) := by
  obtain ⟨percentiles, buckets, resolved, listed, rfl⟩ := Report.new_eq_ok.mp told
  obtain ⟨bounds, lost, split, sorted, answered⟩ :=
    d.answers_in_order fewer standardPercentiles_pairwise resolved
  refine ⟨bounds, lost, split, sorted, fun asked bound member => ?_⟩
  rw [if_pos asked] at listed
  obtain ⟨p, answered⟩ := answered bound member
  exact d.bound_ends_listed fewer answered listed

theorem Describes.bounded (d : Describes h width count samples) (fewer : samples.card < word64)
    (fits : count * width < word64) : h.Bounded where
  edges := by rwa [Histogram.count, d.size_eq, d.width_eq]
  counted := by
    rw [Histogram.count, d.size_eq, d.inFirst_eq (Nat.le_refl count)]
    exact (Multiset.countP_le_card _ _).trans_lt fewer

/-- A smaller share has no larger a bound, past an overflow there are only overflows, and each bound but
zero ends a bucket that is listed. So a report has bounds that do not decrease, and then overflows. -/
theorem percentiles_in_order (width : Nat) (positive : 0 < width) (steps : List Step)
    (words : ∀ x, Step.accumulate x ∈ steps → x < word64)
    (fewer : ∀ past, past <+: steps → (recent past).card < word64) :
    ∃ fresh h, new width = .ok fresh ∧ fresh.after steps = .ok h ∧
      (∀ p q, isPercentile p = true → isPercentile q = true → p ≤ q →
        (∀ bound, h.percentile q = .ok (.below q bound) →
          ∃ lower ≤ bound, h.percentile p = .ok (.below p lower)) ∧
        ∀ limit, h.percentile p = .ok (.overflow p limit) →
          h.percentile q = .ok (.overflow q limit)) ∧
      (∀ p bound buckets, h.percentile p = .ok (.below p bound) → h.nonemptyBuckets = .ok buckets →
        bound = 0 ∨ ∃ b ∈ buckets, bound = b.high + 1) ∧
      (∀ title run c verbose r, Report.new title run c h verbose = .ok r →
        ∃ (bounds : List Nat) (lost : Nat),
          r.percentiles.map Percentile.bound = bounds.map some ++ List.replicate lost none ∧
            bounds.Pairwise (· ≤ ·) ∧
            (0 < verbose → ∀ bound ∈ bounds, bound = 0 ∨ ∃ b ∈ r.buckets, bound = b.high + 1)) ∧
      (firstSize steps * width < word64 →
        (∀ p, isPercentile p = true → ∃ answer, h.percentile p = .ok answer ∧ answer.share = p) ∧
        (∃ buckets, h.nonemptyBuckets = .ok buckets) ∧
        ∀ title run c verbose, ∃ r, Report.new title run c h verbose = .ok r) := by
  have start : Describes (blank width positive #[]) width 0 0 := blank_describes width positive 0
  obtain ⟨h, reached, d⟩ := describes_after start steps words fewer
  have card := fewer steps (List.prefix_refl _)
  refine ⟨_, h, dif_pos positive, reached, ?ordered, ?ends, ?reports, ?answers⟩
  case ordered =>
    exact fun p q share share' ordered =>
      ⟨fun bound => d.below_of_below card share ordered,
        fun limit => d.overflow_of_overflow card share' ordered⟩
  case ends =>
    exact fun p bound buckets answered => d.bound_ends_listed card answered
  case reports => exact fun title run c verbose r => d.report_in_order card
  case answers =>
    intro fits
    have bounded := d.bounded card fits
    refine ⟨fun p share => ?_, bounded.nonemptyBuckets_ok, Report.new_of_bounded bounded⟩
    obtain ⟨answer, told⟩ := bounded.percentileAt_ok p (target p h.samples)
    have answered := percentile_eq_ok.mpr ⟨share, told⟩
    exact ⟨answer, answered, (percentile_share answered).1⟩

/-- Ten samples after a reset, with empty buckets among them, the last of them past all buckets. -/
def tenSamples : List Step :=
  [.accumulate 3, .init 6, .accumulate 12, .init 6, .accumulate 5, .accumulate 7, .accumulate 7,
    .accumulate 8, .accumulate 9, .accumulate 22, .accumulate 24, .accumulate 51, .accumulate 59,
    .accumulate 60]

def ofTenSamples : Histogram :=
  { ofSixSamples with
    buckets := #[5, 0, 2, 0, 0, 2], overflow := 1, greatest := 60, total := 252, samples := 10
    average := 25, average_eq := rfl }

theorem after_tenSamples : (blank 10 (by decide) #[]).after tenSamples = .ok ofTenSamples := by
  decide +kernel

theorem percentiles_of_ten_in_order :
    ∃ fresh, new 10 = .ok fresh ∧ fresh.after tenSamples = .ok ofTenSamples ∧
      ofTenSamples.percentile 90.0 = .ok (.below 90.0 60) ∧
      (∃ lower ≤ 60, ofTenSamples.percentile 60.0 = .ok (.below 60.0 lower)) ∧
      ∃ r, Report.new "ten" .standard .new ofTenSamples 1 = .ok r ∧
        ∃ (bounds : List Nat) (lost : Nat),
          r.percentiles.map Percentile.bound = bounds.map some ++ List.replicate lost none ∧
            bounds.Pairwise (· ≤ ·) ∧
            ∀ bound ∈ bounds, bound = 0 ∨ ∃ b ∈ r.buckets, bound = b.high + 1 := by
  obtain ⟨fresh, h, made, reached, ordered, -, reports, answers⟩ :=
    percentiles_in_order 10 (by decide) tenSamples
      (by
        intro x member
        simp [tenSamples] at member
        simp only [word64]
        omega)
      (fun past early =>
        Nat.lt_of_le_of_lt ((card_recent_le past).trans early.length_le) (by decide))
  obtain rfl : blank 10 (by decide) #[] = fresh := Except.ok.inj made
  obtain rfl : ofTenSamples = h := Except.ok.inj (after_tenSamples.symm.trans reached)
  have answered : ofTenSamples.percentile 90.0 = .ok (.below 90.0 60) := by decide +kernel
  obtain ⟨-, -, told⟩ := answers (by decide)
  obtain ⟨r, told⟩ := told "ten" .standard .new 1
  obtain ⟨bounds, lost, split, sorted, ends⟩ := reports "ten" .standard .new 1 r told
  exact ⟨_, made, reached, answered,
    (ordered 60.0 90.0 (by decide) (by decide) (by decide)).1 60 answered,
    r, told, bounds, lost, split, sorted, ends (by decide)⟩

theorem Describes.least_sufficient_all (d : Describes h width count samples) (some : samples ≠ 0)
    (inside : ∀ x ∈ samples, x < count * width) :
    IsLeast (Sufficient width count samples samples.card) (h.greatest / width + 1) := by
  obtain ⟨member, most⟩ := d.isGreatest some
  have edge (k : Nat) : h.greatest / width < k ↔ h.greatest < k * width :=
    Nat.div_lt_iff_lt_mul d.positive
  refine ⟨⟨(edge count).mpr (inside _ member), ?_⟩, fun k sufficient => ?_⟩
  · refine Nat.le_of_eq (Multiset.countP_eq_card.mpr fun x present => ?_).symm
    exact (most present).trans_lt ((edge _).mp (Nat.lt_succ_self _))
  · have all := Multiset.countP_eq_card.mp
      (Nat.le_antisymm (Multiset.countP_le_card _ samples) sufficient.2)
    exact (edge k).mpr (all _ member)

/-- The bound of all samples ends the bucket of the greatest, and is lost with any of them. -/
theorem hundredth_percentile (width : Nat) (positive : 0 < width) (steps : List Step)
    (words : ∀ x, Step.accumulate x ∈ steps → x < word64)
    (fewer : ∀ past, past <+: steps → (recent past).card < word64)
    (some : 1 ≤ (recent steps).card) (few : (recent steps).card < 2 ^ 52) :
    ∃ fresh h, new width = .ok fresh ∧ fresh.after steps = .ok h ∧ h.samples = (recent steps).card ∧
      ((∃ limit, h.percentile 100.0 = .ok (.overflow 100.0 limit)) ↔ 0 < h.overflow) ∧
      (h.overflow = 0 → (h.greatest / width + 1) * width < word64 →
        ∃ bound, h.percentile 100.0 = .ok (.below 100.0 bound) ∧
          bound = (h.greatest / width + 1) * width ∧
          h.greatest < bound ∧ bound ≤ h.greatest + width) := by
  have start : Describes (blank width positive #[]) width 0 0 := blank_describes width positive 0
  obtain ⟨h, reached, d⟩ := describes_after start steps words fewer
  have card := fewer steps (List.prefix_refl _)
  have share : isPercentile 100.0 = true := by decide
  have aimed := Rounding.target_hundred few
  have all := Multiset.card_eq_countP_add_countP (· < firstSize steps * width) (recent steps)
  simp only [Nat.not_lt, ← d.overflow_eq] at all
  refine ⟨_, h, dif_pos positive, reached, d.samples_eq, ⟨?lost, ?past⟩, ?resolved⟩
  case lost =>
    rintro ⟨limit, answered⟩
    obtain ⟨-, -, -, short, -⟩ := (d.percentile_eq_overflow card).mp answered
    omega
  case past =>
    intro past
    obtain ⟨x, member, above⟩ := Multiset.countP_pos.mp (d.overflow_eq ▸ past)
    have fits : firstSize steps * width < word64 := above.trans_lt (words x (mem_recent member))
    have short : (recent steps).countP (· < firstSize steps * width) <
        target 100.0 (recent steps).card := by omega
    exact ⟨_, (d.percentile_eq_overflow card).mpr ⟨share, rfl, fits, short, rfl⟩⟩
  case resolved =>
    intro none fits
    have inside : ∀ x ∈ recent steps, x < firstSize steps * width :=
      Multiset.countP_eq_card.mp (by omega)
    have least := d.least_sufficient_all (Multiset.card_pos.mp some) inside
    have place := Nat.div_add_mod h.greatest width
    have rest := Nat.mod_lt h.greatest positive
    refine ⟨_, (d.percentile_eq_below card).mpr ⟨share, rfl, fits, _, ?_, rfl⟩, rfl, ?_, ?_⟩
    · rwa [aimed]
    · rw [Nat.add_mul, Nat.mul_comm]
      omega
    · rw [Nat.add_mul, Nat.mul_comm]
      omega

theorem hundredth_percentile_of_six :
    ∃ fresh h, new 10 = .ok fresh ∧ fresh.after sixSamples = .ok h ∧
      h.percentile 100.0 = .ok (.below 100.0 60) := by
  obtain ⟨fresh, h, made, reached, -, -, resolved⟩ := hundredth_percentile 10 (by decide) sixSamples
    (by
      intro x member
      simp [sixSamples] at member
      simp only [word64]
      omega)
    (fun past early =>
      Nat.lt_of_le_of_lt ((card_recent_le past).trans early.length_le) (by decide))
    (by decide) (by decide)
  obtain rfl : blank 10 (by decide) #[] = fresh := Except.ok.inj made
  obtain rfl : ofSixSamples = h := Except.ok.inj (after_sixSamples.symm.trans reached)
  obtain ⟨bound, answered, rfl, -, -⟩ := resolved rfl (by decide)
  exact ⟨_, _, made, reached, answered⟩

end Histogram

end Jitter

import Jitter.Histogram.Percentile
import Jitter.Proofs.RoundedArithmetic

/-! How many samples a percentile aims at: more for a larger share, all for the whole of them and never
more than all, and nearly what the share makes out. -/

namespace Jitter

theorem Histogram.standardPercentiles_valid :
    ∀ p ∈ Histogram.standardPercentiles, Histogram.isPercentile p = true := by
  decide

namespace Rounding

open Float.Model Float.Model.UnpackedFloat

variable {n : ℕ} {p q : Float}

theorem lt_iff (a b : Float) : a < b ↔ a.toModel.unpack.lt b.toModel.unpack = true :=
  decide_eq_true_iff

theorem le_iff (a b : Float) : a ≤ b ↔ a.toModel.unpack.le b.toModel.unpack = true :=
  decide_eq_true_iff

theorem unpack_percentile (share : Histogram.isPercentile p = true) :
    ∃ (m k : Nat) (positive : 0 < m),
      p.toModel.unpack = .finite .positive m (-46 - k) positive ∧ m ≤ 100 * 2 ^ 46 * 2 ^ k := by
  rw [Histogram.isPercentile, Bool.and_eq_true, decide_eq_true_eq, decide_eq_true_eq] at share
  obtain ⟨above, most⟩ := share
  have zero : (0.0 : Float).toModel.unpack = .zero .positive := rfl
  have hundred : (100.0 : Float).toModel.unpack =
      .finite .positive (100 * 2 ^ 46) (-46) (by decide) := rfl
  rw [lt_iff, zero] at above
  rw [le_iff, hundred] at most
  cases unpacked : p.toModel.unpack with
  | notANumber =>
      rw [unpacked] at above
      cases above
  | infinity sign =>
      rw [unpacked] at above most
      cases sign with
      | negative => cases above
      | positive => cases most
  | zero =>
      rw [unpacked] at above
      cases above
  | finite sign m e positive =>
      rw [unpacked] at above most
      cases sign with
      | negative => cases above
      | positive =>
          have bits := (unpack_finite unpacked).1
          have ordered : e < -46 ∨ e = -46 ∧ m ≤ 100 * 2 ^ 46 := by
            simpa [UnpackedFloat.le, UnpackedFloat.compare, Ordering.isLE_then_iff_or,
              compare_lt_iff_lt, compare_eq_iff_eq, Std.isLE_compare] using most
          obtain ⟨k, rfl⟩ : ∃ k : Nat, e = -46 - k := ⟨(-46 - e).toNat, by omega⟩
          refine ⟨m, k, positive, rfl, ?_⟩
          rcases Nat.eq_zero_or_pos k with rfl | finer
          · omega
          · calc m ≤ 100 * 2 ^ 46 * 2 ^ 1 := by omega
              _ ≤ 100 * 2 ^ 46 * 2 ^ k :=
                  Nat.mul_le_mul_left _ (Nat.pow_le_pow_right (by decide) finer)

def percent (p : Float) : ℚ := exact p.toModel.unpack

theorem percent_bounds (share : Histogram.isPercentile p = true) :
    0 ≤ percent p ∧ percent p ≤ 100 := by
  obtain ⟨m, k, positive, unpacked, most⟩ := unpack_percentile share
  have value : percent p = m * 2 ^ (-46 - k : ℤ) := by rw [percent, unpacked, exact]
  have weight : (2 : ℚ) ^ (-46 - k : ℤ) = 1 / (2 ^ 46 * 2 ^ k) := by
    rw [zpow_sub₀ two_ne_zero, zpow_natCast, zpow_neg, inv_eq_one_div, div_div]
    norm_cast
  have bound : (m : ℚ) ≤ 100 * 2 ^ 46 * 2 ^ k := by exact_mod_cast most
  rw [value, weight, mul_one_div]
  constructor
  · positivity
  · rw [div_le_iff₀ (by positivity)]
    linarith

theorem percentile_plain (share : Histogram.isPercentile p = true) :
    Plain p.toModel.unpack := by
  obtain ⟨m, k, positive, unpacked, -⟩ := unpack_percentile share
  obtain ⟨few, fine, full⟩ := unpack_finite unpacked
  rw [unpacked]
  exact .finite few fine full

theorem percent_mono (share : Histogram.isPercentile p = true)
    (share' : Histogram.isPercentile q = true) (ordered : p ≤ q) : percent p ≤ percent q :=
  (percentile_plain share).exact_le (percentile_plain share') ((le_iff p q).mp ordered)

theorem share_rounded (share : Histogram.isPercentile p = true) :
    Rounded (percent p / 100) (p / 100.0).toModel.unpack := by
  have divided : (p / 100.0).toModel.unpack = UnpackedFloat.unpack Format.binary64
      (UnpackedFloat.pack Format.binary64 (UnpackedFloat.div Format.binary64 p.toModel.unpack
        (.finite .positive (100 * 2 ^ 46) (-46) (by decide)))) := rfl
  obtain ⟨m, k, positive, unpacked, -⟩ := unpack_percentile share
  have value : (m * 2 ^ (-46 - k : ℤ) / ((100 * 2 ^ 46 : ℕ) * 2 ^ (-46 : ℤ)) : ℚ) =
      percent p / 100 := by
    rw [percent, unpacked, exact]
    norm_num
  have quotient := div_rounded (-46 - k) (-46) positive (by decide : 0 < 100 * 2 ^ 46)
  have most := (percent_bounds share).2
  rw [value] at quotient
  rw [divided, unpacked]
  exact quotient.stored (by norm_num; linarith)

theorem count_rounded (word : n < word64) : Rounded n n.toUInt64.toFloat.toModel.unpack := by
  have counted : n.toUInt64.toNat = n := by
    rw [Nat.toUInt64_eq, UInt64.toNat_ofNat']
    exact Nat.mod_eq_of_lt word
  have few : (n : ℚ) ≤ 2 ^ (64 : ℤ) := by exact_mod_cast word.le
  have converted := ofUInt64_rounded n.toUInt64
  rw [counted] at converted
  exact converted.stored (few.trans (two_zpow_le_iff.mpr (by decide)))

/-- A target comes of four roundings: of the share, of the number of samples, of the product of the two
and of the sum with a half. -/
theorem target_rounds (share : Histogram.isPercentile p = true) (word : n < word64) :
    ∃ ratio count product sum : ℚ, RoundsTo (percent p / 100) ratio ∧ RoundsTo n count ∧
      RoundsTo (ratio * count) product ∧ RoundsTo (product + 1 / 2) sum ∧
      Histogram.target p n = min ⌊sum⌋₊ (word64 - 1) := by
  have ratio := share_rounded share
  have count := count_rounded word
  have most := (percent_bounds share).2
  have part : exact (p / 100.0).toModel.unpack ≤ 2 ^ (0 : ℤ) :=
    ratio.nearest.le_two_zpow (by norm_num; linarith) (by decide)
  have all : exact n.toUInt64.toFloat.toModel.unpack ≤ 2 ^ (64 : ℤ) :=
    count.nearest.le_two_zpow (by exact_mod_cast word.le) (by decide)
  have size : exact (p / 100.0).toModel.unpack * exact n.toUInt64.toFloat.toModel.unpack ≤
      2 ^ (64 : ℤ) := by
    calc _ ≤ (2 : ℚ) ^ (0 : ℤ) * 2 ^ (64 : ℤ) :=
          mul_le_mul part all count.nearest.nonneg.2 (by positivity)
      _ = 2 ^ (64 : ℤ) := by norm_num
  have product := (ratio.plain.mul count.plain).stored (size.trans (two_zpow_le_iff.mpr (by decide)))
  have limit := product.nearest.le_two_zpow size (by decide)
  have sum := product.plain.add_half.stored (by norm_num at limit ⊢; linarith)
  exact ⟨_, _, _, _, ratio.nearest, count.nearest, product.nearest, sum.nearest, sum.plain.toUInt64⟩

theorem target_mono (share : Histogram.isPercentile p = true)
    (share' : Histogram.isPercentile q = true) (ordered : p ≤ q) (word : n < word64) :
    Histogram.target p n ≤ Histogram.target q n := by
  obtain ⟨ratio, count, product, sum, divided, counted, multiplied, added, aimed⟩ :=
    target_rounds share word
  obtain ⟨ratio', count', product', sum', divided', counted', multiplied', added', aimed'⟩ :=
    target_rounds share' word
  obtain rfl := counted.unique counted'
  have ratios : ratio ≤ ratio' := divided.mono divided' (by linarith [percent_mono share share' ordered])
  have products : product ≤ product' :=
    multiplied.mono multiplied' (mul_le_mul_of_nonneg_right ratios counted.nonneg.2)
  have sums : sum ≤ sum' := added.mono added' (by linarith)
  rw [aimed, aimed']
  exact min_le_min_right _ (Nat.floor_mono sums)

theorem target_hundred (few : n < 2 ^ 52) : Histogram.target 100.0 n = n := by
  obtain ⟨ratio, count, product, sum, divided, counted, multiplied, added, aimed⟩ :=
    target_rounds (n := n) (by decide : Histogram.isPercentile 100.0 = true)
      (by simp only [word64]; omega)
  have hundred : percent 100.0 = 100 := by
    have unpacked : (100.0 : Float).toModel.unpack =
        .finite .positive (100 * 2 ^ 46) (-46) (by decide) := rfl
    rw [percent, unpacked, exact]
    norm_num
  have one : ratio = 1 := by
    have power : percent 100.0 / 100 = (1 : ℕ) * 2 ^ (0 : ℤ) := by
      rw [hundred]
      norm_num
    rw [power] at divided
    simpa using divided.eq_of_few_digits (by decide) (by decide)
  have whole : (n : ℚ) = n * 2 ^ (0 : ℤ) := by simp
  rw [whole] at counted
  obtain rfl := counted.eq_of_few_digits (by omega) (by decide)
  rw [one, one_mul] at multiplied
  obtain rfl := multiplied.eq_of_few_digits (by omega) (by decide)
  have raised : (n : ℚ) * 2 ^ (0 : ℤ) + 1 / 2 = (2 * n + 1 : ℕ) * 2 ^ (-1 : ℤ) := by
    push_cast
    norm_num
    ring
  rw [raised] at added
  obtain rfl := added.eq_of_few_digits (by omega) (by decide)
  have floor : ⌊((2 * n + 1 : ℕ) : ℚ) * 2 ^ (-1 : ℤ)⌋₊ = n := by
    rw [← raised, zpow_zero, mul_one, Nat.floor_eq_iff (by positivity)]
    constructor <;> linarith
  rw [aimed, floor]
  simp only [word64]
  omega

theorem target_le (share : Histogram.isPercentile p = true) (fewer : n < 2 ^ 52) :
    Histogram.target p n ≤ n := by
  have most : p ≤ 100.0 := by
    rw [Histogram.isPercentile, Bool.and_eq_true, decide_eq_true_eq, decide_eq_true_eq] at share
    exact share.2
  have word : n < word64 := by
    simp only [word64]
    omega
  have ordered := target_mono share (by decide) most word
  rwa [target_hundred fewer] at ordered

theorem raised_near {share count ratio number product sum : ℚ} (least : 1 / 2 ^ 67 ≤ share)
    (one : 1 ≤ count) (divided : RoundsTo share ratio) (counted : RoundsTo count number)
    (multiplied : RoundsTo (ratio * number) product) (added : RoundsTo (product + 1 / 2) sum) :
    share * count * (1 - 4 * unit) + (1 - unit) / 2 ≤ sum ∧
      sum ≤ share * count * (1 + 5 * unit) + (1 + unit) / 2 := by
  have small : 0 ≤ 1 - unit := by norm_num [unit]
  obtain ⟨ratioLow, ratioHigh⟩ := divided.near (by norm_num; linarith)
  obtain ⟨numberLow, numberHigh⟩ := counted.near (by norm_num; linarith)
  have productLow : share * (1 - unit) * (count * (1 - unit)) ≤ ratio * number :=
    mul_le_mul ratioLow numberLow (mul_nonneg (by linarith) small) divided.nonneg.2
  have productHigh : ratio * number ≤ share * (1 + unit) * (count * (1 + unit)) :=
    mul_le_mul ratioHigh numberHigh counted.nonneg.2 (divided.nonneg.2.trans ratioHigh)
  have whole : 1 / 2 ^ 67 ≤ share * count :=
    least.trans (le_mul_of_one_le_right (by linarith) one)
  obtain ⟨scaledLow, scaledHigh⟩ := multiplied.near (by
    norm_num [unit] at productLow ⊢
    linarith)
  obtain ⟨sumLow, sumHigh⟩ := added.near (by
    norm_num
    linarith [multiplied.nonneg.2])
  norm_num [unit] at productLow productHigh scaledLow scaledHigh sumLow sumHigh ⊢
  constructor <;> linarith

/-- A target is a share of all samples, rounded to the nearest whole number but for what four
roundings before that can make out. -/
theorem target_bounds (share : Histogram.isPercentile p = true) {samples : ℕ}
    (word : samples < word64) (some : 50 < percent p * samples) :
    percent p * samples * (1 - 8 * unit) ≤ 100 * Histogram.target p samples + 50 ∧
      100 * Histogram.target p samples ≤ percent p * samples * (1 + 8 * unit) + 51 := by
  obtain ⟨nonneg, most⟩ := percent_bounds share
  obtain ⟨ratio, count, product, sum, divided, counted, multiplied, added, aimed⟩ :=
    target_rounds share word
  have several : 0 < samples := by
    apply Nat.pos_of_ne_zero
    rintro rfl
    norm_num at some
  have few : (samples : ℚ) ≤ 2 ^ 64 := by exact_mod_cast word.le
  have one : (1 : ℚ) ≤ samples := by exact_mod_cast several
  have size : 1 / 2 ^ 60 ≤ percent p := by
    have scaled := mul_le_mul_of_nonneg_left few nonneg
    linarith
  obtain ⟨lower, upper⟩ := raised_near (by linarith) one divided counted multiplied added
  have floor := Nat.floor_le added.nonneg.2
  have next := Nat.lt_floor_add_one sum
  rcases Nat.le_total ⌊sum⌋₊ (word64 - 1) with fits | large
  · rw [aimed, min_eq_left fits]
    norm_num [unit] at lower upper ⊢
    constructor <;> linarith
  -- A target that is cut down to a word is still more than all samples.
  · obtain ⟨limit, limited⟩ : ∃ limit, word64 - 1 = limit := ⟨_, rfl⟩
    rw [limited] at aimed large
    have all : (samples : ℚ) ≤ limit := by exact_mod_cast (by omega)
    have past : (limit : ℚ) ≤ ⌊sum⌋₊ := by exact_mod_cast large
    have part := mul_le_mul_of_nonneg_right most (zero_le_one.trans one)
    rw [aimed, min_eq_right large]
    norm_num [unit] at lower upper ⊢
    constructor <;> linarith

theorem percent_of_standard (member : p ∈ Histogram.standardPercentiles) :
    1 ≤ percent p ∧ percent p ≤ 99.9991 := by
  have value {p : Float} {m : ℕ} {e : ℤ} {positive : 0 < m}
      (unpacked : p.toModel.unpack = .finite .positive m e positive) : percent p = m * 2 ^ e := by
    rw [percent, unpacked, exact]
  have first : (90.0 : Float).toModel.unpack =
    .finite .positive 6333186975989760 (-46) (by decide) := rfl
  have second : (99.0 : Float).toModel.unpack =
    .finite .positive 6966505673588736 (-46) (by decide) := rfl
  have third : (99.9 : Float).toModel.unpack =
    .finite .positive 7029837543348634 (-46) (by decide) := rfl
  have fourth : (99.99 : Float).toModel.unpack =
    .finite .positive 7036170730324623 (-46) (by decide) := rfl
  have fifth : (99.999 : Float).toModel.unpack =
    .finite .positive 7036804049022222 (-46) (by decide) := rfl
  simp only [Histogram.standardPercentiles, List.mem_cons, List.not_mem_nil, or_false] at member
  rcases member with rfl | rfl | rfl | rfl | rfl
  · rw [value first]
    norm_num
  · rw [value second]
    norm_num
  · rw [value third]
    norm_num
  · rw [value fourth]
    norm_num
  · rw [value fifth]
    norm_num

theorem target_le_of_standard (member : p ∈ Histogram.standardPercentiles)
    {samples : ℕ} (word : samples < word64) : Histogram.target p samples ≤ samples := by
  have share := Histogram.standardPercentiles_valid p member
  by_cases few : samples < 2 ^ 52
  · exact target_le share few
  · obtain ⟨least, most⟩ := percent_of_standard member
    have many : (2 ^ 52 : ℚ) ≤ samples := by exact_mod_cast (by omega)
    have low := mul_le_mul_of_nonneg_right least (by linarith : (0 : ℚ) ≤ samples)
    have high := mul_le_mul_of_nonneg_right most (by linarith : (0 : ℚ) ≤ samples)
    obtain ⟨-, bound⟩ := target_bounds share word (by linarith)
    have all : (Histogram.target p samples : ℚ) ≤ samples := by
      norm_num [unit] at bound high
      linarith
    exact_mod_cast all

end Rounding

end Jitter

import Jitter.Proofs.Rounding
import Jitter.Word

/-! What floats stand for, and that their arithmetic rounds the exact result, whether or not it has been
put into 64 bits. -/

namespace Jitter.Rounding

open Float.Model Float.Model.UnpackedFloat

variable {m n k : ℕ} {v : ℚ}

def exact : UnpackedFloat → ℚ
  | .finite .positive m e _ => m * 2 ^ e
  | .finite .negative m e _ => -(m * 2 ^ e)
  | _ => 0

@[simp]
theorem unpackSign_packComponents {spec : Format} (sign : Sign)
    (exponent : BitVec spec.exponentBits) (mantissa : BitVec spec.mantissaBitsWithoutImplicit) :
    unpackSign (packComponents spec sign exponent mantissa) = sign.toBitVec := by
  ext i inside
  obtain rfl : i = 0 := by omega
  simp [unpackSign, packComponents, BitVec.getLsbD_append, BitVec.getElem_append]

theorem unpack_of_normal {exponent : BitVec 11} (last : exponent ≠ -1#_) (first : exponent ≠ 0#_)
    (mantissa : BitVec 52) :
    UnpackedFloat.unpack Format.binary64
        (packComponents Format.binary64 .positive exponent mantissa) =
      .finite .positive (2 ^ 52 + mantissa.toNat) (exponent.toNat - 1075)
        (Nat.add_pos_left (Nat.two_pow_pos 52) _) := by
  have implicit : (1#1 ++ mantissa).toNat = 2 ^ 52 + mantissa.toNat := by
    rw [BitVec.toNat_append]
    exact (Nat.two_pow_add_eq_or_of_lt mantissa.isLt 1).symm
  simp only [UnpackedFloat.unpack, unpackExponent_packComponents, unpackMantissa_packComponents,
    unpackSign_packComponents, if_neg last, if_neg first, implicit]
  rfl

theorem unpack_of_subnormal (mantissa : BitVec 52) :
    UnpackedFloat.unpack Format.binary64
        (packComponents Format.binary64 .positive 0#_ mantissa) =
      if positive : 0 < mantissa.toNat then .finite .positive mantissa.toNat leastExponent positive
      else .zero .positive := by
  have first : (0#11 : BitVec 11) ≠ -1#_ := by decide
  simp only [UnpackedFloat.unpack, unpackExponent_packComponents, unpackMantissa_packComponents,
    unpackSign_packComponents, if_neg first]
  by_cases none : mantissa = 0#_
  · subst none
    rfl
  · have positive : 0 < mantissa.toNat :=
      Nat.pos_of_ne_zero fun zero => none (BitVec.toNat_inj.mp zero)
    rw [dif_neg none, dif_pos positive]
    rfl

theorem pack_finite {e : Int} {positive : 0 < m} {biased : Nat} (biasing : biased = e + 1075)
    (inside : biased + 1 < 2 ^ 11) :
    UnpackedFloat.pack Format.binary64 (.finite .positive m e positive) =
      packComponents Format.binary64 .positive (if m.log2 = 52 then BitVec.ofNat 11 biased else 0#_)
        (BitVec.ofNat 52 m) := by
  have bias :
      (e + Format.binary64.exponentBias + Format.binary64.mantissaBitsWithoutImplicit).toNat =
        biased := by
    norm_num [Format.exponentBias]
    omega
  have full : m.log2 + 1 = Format.binary64.mantissaBits ↔ m.log2 = 52 := by
    simp only [Format.mantissaBits]
    omega
  simp only [UnpackedFloat.pack, bias, full]
  rw [if_neg (by omega)]
  split
  · rfl
  · rfl

theorem stored_of_full {e : Int} {positive : 0 < m} (full : m.log2 = 52) (small : -1074 ≤ e)
    (large : e ≤ 971) :
    UnpackedFloat.unpack Format.binary64
        (UnpackedFloat.pack Format.binary64 (.finite .positive m e positive)) =
      .finite .positive m e positive := by
  obtain ⟨least, most⟩ := (Nat.log2_eq_iff (Nat.ne_of_gt positive)).mp full
  obtain ⟨biased, biasing⟩ : ∃ biased : Nat, biased = e + 1075 := ⟨(e + 1075).toNat, by omega⟩
  have exponent : (BitVec.ofNat 11 biased).toNat = biased := by
    rw [BitVec.toNat_ofNat]
    omega
  have mantissa : 2 ^ 52 + (BitVec.ofNat 52 m).toNat = m := by
    rw [BitVec.toNat_ofNat]
    omega
  have last : BitVec.ofNat 11 biased ≠ -1#_ := by
    intro last
    have all : biased = 2 ^ 11 - 1 := exponent.symm.trans (congrArg BitVec.toNat last)
    omega
  have first : BitVec.ofNat 11 biased ≠ 0#_ := by
    intro first
    have zero : biased = 0 := exponent.symm.trans (congrArg BitVec.toNat first)
    omega
  have whole : (biased : Int) - 1075 = e := by omega
  rw [pack_finite biasing (by omega), if_pos full, unpack_of_normal last first]
  simp only [mantissa, exponent, whole]

theorem unpack_finite {b : BitVec 64} {e : ℤ} {sign : Sign} {positive : 0 < m}
    (unpacked : UnpackedFloat.unpack Format.binary64 b = .finite sign m e positive) :
    m < 2 ^ 53 ∧ leastExponent ≤ e ∧ (e = leastExponent ∨ 2 ^ 52 ≤ m) := by
  simp only [UnpackedFloat.unpack] at unpacked
  split at unpacked
  · split at unpacked
    · cases unpacked
    · cases unpacked
  · split at unpacked
    · rename_i first
      split at unpacked
      · cases unpacked
      · cases unpacked
        refine ⟨Nat.lt_trans (BitVec.isLt _) (by decide), ?_, .inl ?_⟩
        · rw [first]
          decide
        · rw [first]
          decide
    · rename_i first
      cases unpacked
      have some : 1 ≤ (@unpackExponent Format.binary64 b).toNat := by
        apply Nat.one_le_iff_ne_zero.mpr
        intro none
        exact first (BitVec.eq_of_toNat_eq none)
      have bias : (Format.binary64.exponentBias : ℤ) = 1023 := by norm_num [Format.exponentBias]
      refine ⟨BitVec.isLt _, ?_, .inr ?_⟩
      · rw [bias]
        simp only [leastExponent]
        omega
      · rw [BitVec.toNat_append]
        exact Nat.le_trans (by decide) Nat.left_le_or

/-- A float that is not negative and has all its digits, or all down to those of the least exponent. -/
inductive Plain : UnpackedFloat → Prop
  | zero : Plain (.zero .positive)
  | finite {m : ℕ} {e : ℤ} {positive : 0 < m} (few : m < 2 ^ 53) (fine : leastExponent ≤ e)
      (full : e = leastExponent ∨ 2 ^ 52 ≤ m) : Plain (.finite .positive m e positive)

structure Rounded (x : ℚ) (f : UnpackedFloat) : Prop where
  plain : Plain f
  nearest : RoundsTo x (exact f)

theorem targetExponent_eq (m : ℕ) (e : ℤ) :
    Format.binary64.targetExponent (totalExponent m e) = max (m.log2 + e - 52) leastExponent := by
  simp only [Format.targetExponent, totalExponent, Format.mantissaBits, Format.minExponent]
  norm_num
  omega

theorem decreaseExponent_eq (m : Nat) (e target : Int) :
    decreaseExponent m e target = (m * 2 ^ (e - target).toNat, e - (e - target).toNat) := by
  rw [decreaseExponent, Nat.shiftLeft_eq]

/-- A mantissa that was rounded may have become a power of two, and is then cut once more. -/
theorem shiftToTargetExponent_of_short {r : ℕ} {t : ℤ} (short : r ≤ 2 ^ 53) (least : leastExponent ≤ t)
    (full : t = leastExponent ∨ 2 ^ 52 ≤ r) :
    ∃ (em : ExtendedMantissa) (e : ℤ), shiftToTargetExponent Format.binary64 r t .exact = (em, e) ∧
      (em.mantissa : ℚ) * 2 ^ e = r * 2 ^ t ∧ em.mantissa < 2 ^ 53 ∧ leastExponent ≤ e ∧
        (e = leastExponent ∨ 2 ^ 52 ≤ em.mantissa) := by
  rcases Nat.lt_or_eq_of_le short with few | rfl
  · have digits : r.log2 < 53 := by
      rcases Nat.eq_zero_or_pos r with rfl | some
      · decide
      · exact (Nat.log2_lt (Nat.ne_of_gt some)).mpr few
    have stays : (max (r.log2 + t - 52) leastExponent - t).toNat = 0 := by omega
    refine ⟨_, _, rfl, ?_⟩
    simp only [targetExponent_eq, stays, shiftRight_mantissa, ofMantissaAndAccuracy_mantissa,
      pow_zero, Nat.div_one, Nat.cast_zero, add_zero]
    exact ⟨trivial, few, least, full⟩
  · have digits : (2 ^ 53).log2 = 53 := Nat.log2_two_pow
    have once : (max ((53 : ℕ) + t - 52) leastExponent - t).toNat = 1 := by omega
    refine ⟨_, _, rfl, ?_⟩
    simp only [targetExponent_eq, digits, once, shiftRight_mantissa, ofMantissaAndAccuracy_mantissa]
    refine ⟨?_, by norm_num, by omega, .inr (by norm_num)⟩
    rw [two_zpow_add]
    push_cast
    ring

theorem roundWithAccuracy_rounded {e : ℤ} {accuracy : Accuracy}
    (digits : Digits (.ofMantissaAndAccuracy m accuracy) v)
    (fine : 52 ≤ m.log2 ∨ e ≤ leastExponent) :
    Rounded (v * 2 ^ e) (roundWithAccuracy Format.binary64 .positive m e accuracy) := by
  obtain ⟨t, target⟩ : ∃ t, max (m.log2 + e - 52) leastExponent = t := ⟨_, rfl⟩
  obtain ⟨k, cut⟩ : ∃ k : ℕ, t = e + k := ⟨(t - e).toNat, by omega⟩
  have least : leastExponent ≤ t := by omega
  obtain ⟨floor, next⟩ := digits.floor
  rw [ofMantissaAndAccuracy_mantissa] at floor next
  have weight := two_zpow_pos e
  have below : v * 2 ^ e < 2 ^ (53 + t) := by
    have bits : (m + 1 : ℚ) ≤ 2 ^ ((m.log2 + 1 : ℕ) : ℤ) := by
      rw [zpow_natCast]
      exact_mod_cast Nat.lt_log2_self
    calc v * 2 ^ e < (m + 1) * 2 ^ e := mul_lt_mul_of_pos_right next weight
      _ ≤ 2 ^ ((m.log2 + 1 : ℕ) : ℤ) * 2 ^ e := mul_le_mul_of_nonneg_right bits weight.le
      _ = 2 ^ ((m.log2 + 1 : ℕ) + e) := (two_zpow_add _ e).symm
      _ ≤ 2 ^ (53 + t) := two_zpow_le_iff.mpr (by omega)
  have above : t = leastExponent ∨ 2 ^ (52 + t) ≤ v * 2 ^ e := by
    by_cases smallest : t = leastExponent
    · exact .inl smallest
    · right
      have some : m ≠ 0 := by
        rintro rfl
        simp at fine target
        omega
      have bits : (2 : ℚ) ^ ((m.log2 : ℕ) : ℤ) ≤ m := by
        rw [zpow_natCast]
        exact_mod_cast Nat.log2_self_le some
      calc (2 : ℚ) ^ (52 + t) ≤ 2 ^ ((m.log2 : ℕ) + e) := two_zpow_le_iff.mpr (by omega)
        _ = 2 ^ ((m.log2 : ℕ) : ℤ) * 2 ^ e := two_zpow_add _ e
        _ ≤ v * 2 ^ e := mul_le_mul_of_nonneg_right (bits.trans floor) weight.le
  have shifted := digits.shiftRight k
  have scaled : v / 2 ^ k = v * 2 ^ e / 2 ^ t := by
    rw [cut, two_zpow_add, zpow_natCast]
    field_simp
  rw [scaled] at shifted
  have first : shiftToTargetExponent Format.binary64 m e accuracy =
      (ExtendedMantissa.ofMantissaAndAccuracy m accuracy >>> k, t) := by
    have steps : (t - e).toNat = k := by omega
    simp only [shiftToTargetExponent, shiftToExponent, targetExponent_eq, target, steps]
    exact Prod.ext rfl cut.symm
  have nearest := RoundsTo.nearest least below above shifted
  obtain ⟨most, full⟩ := RoundsTo.mantissa_bounds below above shifted
  obtain ⟨down, up⟩ :=
    roundedMantissa_bounds (ExtendedMantissa.ofMantissaAndAccuracy m accuracy >>> k)
  obtain ⟨last, e', second, same, few, fine', full'⟩ :=
    shiftToTargetExponent_of_short (up.trans most) least (full.imp_right fun least => least.trans down)
  rw [← same] at nearest
  simp only [roundWithAccuracy, first, second]
  split
  · rename_i none
    rw [none, Nat.cast_zero, zero_mul] at nearest
    exact ⟨.zero, nearest⟩
  · exact ⟨.finite few fine' full', nearest⟩

theorem Plain.stored {f : UnpackedFloat} (plain : Plain f) (size : exact f < 2 ^ (1000 : ℤ)) :
    UnpackedFloat.unpack Format.binary64 (UnpackedFloat.pack Format.binary64 f) = f := by
  cases plain with
  | zero => rfl
  | @finite m e positive few fine full =>
      by_cases bits : 2 ^ 52 ≤ m
      · have digits : m.log2 = 52 := (Nat.log2_eq_iff (Nat.ne_of_gt positive)).mpr ⟨bits, few⟩
        have large : (2 : ℚ) ^ (52 + e) < 2 ^ (1000 : ℤ) := by
          calc (2 : ℚ) ^ (52 + e) = 2 ^ (52 : ℤ) * 2 ^ e := two_zpow_add 52 e
            _ ≤ m * 2 ^ e := mul_le_mul_of_nonneg_right (by exact_mod_cast bits) (two_zpow_pos e).le
            _ < 2 ^ (1000 : ℤ) := size
        have ordered := two_zpow_lt_iff.mp large
        exact stored_of_full digits fine (by omega)
      · obtain rfl : e = leastExponent := full.resolve_right bits
        have digits : m.log2 ≠ 52 := by
          intro digits
          exact bits ((Nat.log2_eq_iff (Nat.ne_of_gt positive)).mp digits).1
        have mantissa : (BitVec.ofNat 52 m).toNat = m := by
          rw [BitVec.toNat_ofNat]
          exact Nat.mod_eq_of_lt (by omega)
        have packed : UnpackedFloat.pack Format.binary64 (.finite .positive m leastExponent positive) =
            packComponents Format.binary64 .positive (if m.log2 = 52 then BitVec.ofNat 11 1 else 0#_)
              (BitVec.ofNat 52 m) := pack_finite rfl (by decide)
        rw [packed, if_neg digits, unpack_of_subnormal, dif_pos (mantissa.symm ▸ positive)]
        simp only [mantissa]

theorem Plain.rounded {f : UnpackedFloat} (plain : Plain f) : Rounded (exact f) f := by
  refine ⟨plain, ?_⟩
  cases plain with
  | zero =>
      have none : Digits ⟨0, false, false⟩ (0 / 2 ^ leastExponent) := .whole (by simp)
      have nearest : RoundsTo 0 ((0 : ℕ) * 2 ^ leastExponent) :=
        .nearest le_rfl (two_zpow_pos _) (.inl rfl) none
      rwa [Nat.cast_zero, zero_mul] at nearest
  | @finite m e positive few fine full =>
      have weight := two_zpow_pos e
      have whole : Digits ⟨m, false, false⟩ (m * 2 ^ e / 2 ^ e) :=
        .whole (mul_div_cancel_right₀ _ weight.ne')
      refine RoundsTo.nearest fine ?_ ?_ whole
      · rw [two_zpow_add]
        exact mul_lt_mul_of_pos_right (by exact_mod_cast few) weight
      · refine full.imp_right fun bits => ?_
        rw [two_zpow_add]
        exact mul_le_mul_of_nonneg_right (by exact_mod_cast bits) weight.le

section

variable {f g : UnpackedFloat}

theorem Plain.mul (first : Plain f) (second : Plain g) :
    Rounded (exact f * exact g) (UnpackedFloat.mul Format.binary64 f g) := by
  cases first with
  | zero =>
      have none : Rounded 0 (.zero .positive) := Plain.zero.rounded
      simp only [exact, zero_mul]
      cases second with
      | zero => exact none
      | finite => exact none
  | @finite m e positive few fine full =>
      cases second with
      | zero =>
          have none : Rounded 0 (.zero .positive) := Plain.zero.rounded
          simp only [exact, mul_zero]
          exact none
      | @finite l e' positive' few' fine' full' =>
          have product : ((m * l : ℕ) : ℚ) * 2 ^ (e + e') = m * 2 ^ e * (l * 2 ^ e') := by
            rw [two_zpow_add]
            push_cast
            ring
          have digits : 52 ≤ (m * l).log2 ∨ e + e' ≤ leastExponent := by
            rw [Nat.le_log2 (Nat.ne_of_gt (Nat.mul_pos positive positive'))]
            rcases full with rfl | bits
            · rcases full' with rfl | bits'
              · exact .inr (by decide)
              · exact .inl (bits'.trans (Nat.le_mul_of_pos_left l positive))
            · exact .inl (bits.trans (Nat.le_mul_of_pos_right m positive'))
          have rounded := roundWithAccuracy_rounded (Digits.of_exact (m * l)) digits
          rwa [product] at rounded

theorem normalize_rounded (m : ℕ) (e : ℤ) :
    Rounded (m * 2 ^ e) (UnpackedFloat.normalize Format.binary64 m e .positive) := by
  rcases Nat.eq_zero_or_pos m with rfl | positive
  · have none : Rounded 0 (.zero .positive) := Plain.zero.rounded
    simpa [UnpackedFloat.normalize] using none
  · have some : compare (m : ℤ) 0 = .gt := compare_gt_iff_gt.mpr (by omega)
    obtain ⟨more, finer⟩ : ∃ more, (e - max (m.log2 + e - 52) leastExponent).toNat = more := ⟨_, rfl⟩
    have same : ((m * 2 ^ more : ℕ) : ℚ) * 2 ^ (e - more) = m * 2 ^ e := by
      push_cast
      rw [zpow_sub₀ two_ne_zero, zpow_natCast]
      field_simp
    have digits : 52 ≤ (m * 2 ^ more).log2 ∨ e - more ≤ leastExponent := by
      by_cases smallest : e - more ≤ leastExponent
      · exact .inr smallest
      · left
        rw [Nat.le_log2 (by positivity)]
        calc 2 ^ 52 ≤ 2 ^ (m.log2 + more) := Nat.pow_le_pow_right (by decide) (by omega)
          _ = 2 ^ m.log2 * 2 ^ more := Nat.pow_add ..
          _ ≤ m * 2 ^ more := Nat.mul_le_mul_right _ (Nat.log2_self_le (Nat.ne_of_gt positive))
    have rounded := roundWithAccuracy_rounded (Digits.of_exact (m * 2 ^ more)) digits
    rw [same] at rounded
    rw [UnpackedFloat.normalize, some, Int.toNat_natCast]
    simp only [UnpackedFloat.round, decreaseExponent_eq, targetExponent_eq, finer]
    exact rounded

theorem ofUInt64_rounded (word : UInt64) :
    Rounded word.toNat (UnpackedFloat.ofUInt64 Format.binary64 word) := by
  have rounded := normalize_rounded word.toNat 0
  rwa [zpow_zero, mul_one] at rounded

theorem Plain.add_half (plain : Plain f) :
    Rounded (exact f + 1 / 2)
      (UnpackedFloat.add Format.binary64 f (.finite .positive (2 ^ 52) (-53) (by decide))) := by
  have point : (1 / 2 : ℚ) = 2 ^ 52 * 2 ^ (-53 : ℤ) := by norm_num
  cases plain with
  | zero =>
      have half : Plain (.finite .positive (2 ^ 52) (-53) (by decide)) :=
        .finite (by decide) (by decide) (.inr le_rfl)
      have value : exact (.finite .positive (2 ^ 52) (-53) (by decide)) =
          exact (.zero .positive) + 1 / 2 := by norm_num [exact]
      rw [← value]
      exact half.rounded
  | @finite m e positive few fine full =>
      obtain ⟨smaller, finest⟩ : ∃ smaller, min e (-53) = smaller := ⟨_, rfl⟩
      obtain ⟨i, first⟩ : ∃ i : ℕ, e - smaller = i := ⟨(e - smaller).toNat, by omega⟩
      obtain ⟨j, second⟩ : ∃ j : ℕ, -53 - smaller = j := ⟨(-53 - smaller).toNat, by omega⟩
      have exponent : e = i + smaller := by omega
      have half : (-53 : ℤ) = j + smaller := by omega
      have sum : ((m * 2 ^ i + 2 ^ 52 * 2 ^ j : ℕ) : ℚ) * 2 ^ smaller = m * 2 ^ e + 1 / 2 := by
        rw [point, half, exponent, two_zpow_add, two_zpow_add, zpow_natCast, zpow_natCast]
        push_cast
        ring
      have rounded := normalize_rounded (m * 2 ^ i + 2 ^ 52 * 2 ^ j) smaller
      rw [sum] at rounded
      simp only [UnpackedFloat.add, decreaseExponent_eq, Sign.apply, finest, first, second,
        Int.toNat_natCast]
      exact rounded

theorem div_rounded {l : ℕ} (e e' : ℤ) (some : 0 < m) (divisor : 0 < l) :
    Rounded (m * 2 ^ e / (l * 2 ^ e'))
      (UnpackedFloat.div Format.binary64 (.finite .positive m e some)
        (.finite .positive l e' divisor)) := by
  obtain ⟨target, targeted⟩ : ∃ target, min (e - e') (Format.binary64.targetExponent
      (totalExponent m e - totalExponent l e')) = target := ⟨_, rfl⟩
  obtain ⟨more, finer⟩ : ∃ more : ℕ, e - e' - target = more := ⟨(e - e' - target).toNat, by omega⟩
  have exponent : target = e - e' - more := by omega
  have value : ((m * 2 ^ more : ℕ) / l : ℚ) * 2 ^ target = m * 2 ^ e / (l * 2 ^ e') := by
    push_cast
    rw [exponent, zpow_sub₀ two_ne_zero, zpow_sub₀ two_ne_zero, zpow_natCast]
    field_simp
  have digits : 52 ≤ (m * 2 ^ more / l).log2 ∨ target ≤ leastExponent := by
    by_cases smallest : target ≤ leastExponent
    · exact .inr smallest
    · left
      have wanted : Format.binary64.targetExponent (totalExponent m e - totalExponent l e') =
          max (m.log2 + e - (l.log2 + e') - 53) leastExponent := by
        simp only [Format.targetExponent, totalExponent, Format.mantissaBits, Format.minExponent]
        norm_num
        omega
      have enough : l.log2 + 53 ≤ m.log2 + more := by omega
      have many : 2 ^ 52 ≤ m * 2 ^ more / l := by
        rw [Nat.le_div_iff_mul_le divisor]
        calc 2 ^ 52 * l ≤ 2 ^ 52 * 2 ^ (l.log2 + 1) :=
              Nat.mul_le_mul_left _ (Nat.le_of_lt Nat.lt_log2_self)
          _ = 2 ^ (l.log2 + 53) := by rw [← Nat.pow_add]; congr 1; omega
          _ ≤ 2 ^ (m.log2 + more) := Nat.pow_le_pow_right (by decide) enough
          _ = 2 ^ m.log2 * 2 ^ more := Nat.pow_add ..
          _ ≤ m * 2 ^ more := Nat.mul_le_mul_right _ (Nat.log2_self_le (Nat.ne_of_gt some))
      exact (Nat.le_log2 (Nat.ne_of_gt (Nat.lt_of_lt_of_le (by decide) many))).mpr many
  have rounded := roundWithAccuracy_rounded (Digits.of_quotient (m * 2 ^ more) divisor) digits
  rw [value] at rounded
  simp only [UnpackedFloat.div, divCore, targeted, finer, Int.toNat_natCast, Nat.shiftLeft_eq]
  exact rounded

theorem Plain.toUInt64 (plain : Plain f) : f.toUInt64.toNat = min ⌊exact f⌋₊ (word64 - 1) := by
  cases plain with
  | zero => simp [exact, UnpackedFloat.toUInt64, UnpackedFloat.toInt, UInt64.ofNatClamp]
  | @finite m e positive few fine full =>
      obtain ⟨i, raised⟩ : ∃ i : ℕ, e.toNat = i := ⟨_, rfl⟩
      obtain ⟨j, cut⟩ : ∃ j : ℕ, (i - e).toNat = j := ⟨_, rfl⟩
      have exponent : e = i - j := by omega
      have value : (m * 2 ^ e : ℚ) = (m * 2 ^ i : ℕ) / (2 ^ j : ℕ) := by
        push_cast
        rw [exponent, zpow_sub₀ two_ne_zero, zpow_natCast, zpow_natCast, mul_div_assoc]
      have whole : roundToInt .positive m e = (m * 2 ^ i / 2 ^ j : ℕ) := by
        simp [roundToInt, decreaseExponent_eq, shiftToExponent, shiftRight_mantissa,
          ofMantissaAndAccuracy_mantissa, Sign.apply, raised, cut]
      have floor : ⌊(m * 2 ^ e : ℚ)⌋₊ = m * 2 ^ i / 2 ^ j := by rw [value, Nat.floor_div_eq_div]
      simp only [UnpackedFloat.toUInt64, UnpackedFloat.toInt, whole, Int.toNat_natCast, exact]
      rw [floor]
      by_cases fits : m * 2 ^ i / 2 ^ j < word64
      · rw [UInt64.ofNatClamp, dif_pos fits, min_eq_left (by omega)]
        rfl
      · rw [UInt64.ofNatClamp, dif_neg fits, min_eq_right (by omega)]
        rfl

theorem Plain.exact_le {f g : UnpackedFloat} (first : Plain f) (second : Plain g)
    (ordered : f.le g = true) : exact f ≤ exact g := by
  cases first with
  | zero => exact second.rounded.nearest.nonneg.1
  | @finite m e positive few fine full =>
      cases second with
      | zero => cases ordered
      | @finite m' e' positive' few' fine' full' =>
          have parts : e < e' ∨ e = e' ∧ m ≤ m' := by
            simpa [UnpackedFloat.le, UnpackedFloat.compare, Ordering.isLE_then_iff_or,
              compare_lt_iff_lt, compare_eq_iff_eq, Std.isLE_compare] using ordered
          have weight := two_zpow_pos e
          rcases parts with finer | ⟨rfl, fewer⟩
          · have bits := full'.resolve_left (by omega)
            calc (m : ℚ) * 2 ^ e ≤ 2 ^ (53 : ℤ) * 2 ^ e :=
                  mul_le_mul_of_nonneg_right (by exact_mod_cast few.le) weight.le
              _ = 2 ^ (53 + e) := (two_zpow_add 53 e).symm
              _ ≤ 2 ^ (52 + e') := two_zpow_le_iff.mpr (by omega)
              _ = 2 ^ (52 : ℤ) * 2 ^ e' := two_zpow_add 52 e'
              _ ≤ m' * 2 ^ e' :=
                  mul_le_mul_of_nonneg_right (by exact_mod_cast bits) (two_zpow_pos e').le
          · exact mul_le_mul_of_nonneg_right (by exact_mod_cast fewer) weight.le

end

theorem RoundsTo.of_few_digits {g : ℤ} (few : k < 2 ^ 53) (fine : leastExponent ≤ g) :
    RoundsTo (k * 2 ^ g) (k * 2 ^ g) := by
  have rounded := (normalize_rounded k g).nearest
  have same := rounded.eq_of_few_digits few fine
  rwa [same] at rounded

theorem RoundsTo.le_two_zpow {x y : ℚ} {g : ℤ} (rounds : RoundsTo x y) (size : x ≤ 2 ^ g)
    (fine : leastExponent ≤ g) : y ≤ 2 ^ g := by
  have power := RoundsTo.of_few_digits (k := 1) (by decide) fine
  rw [Nat.cast_one, one_mul] at power
  exact rounds.mono power size

theorem Rounded.stored {x : ℚ} {f : UnpackedFloat} (rounded : Rounded x f)
    (size : x ≤ 2 ^ (100 : ℤ)) :
    Rounded x (UnpackedFloat.unpack Format.binary64 (UnpackedFloat.pack Format.binary64 f)) := by
  have below : exact f < 2 ^ (1000 : ℤ) :=
    (rounded.nearest.le_two_zpow size (by decide)).trans_lt (two_zpow_lt_iff.mpr (by decide))
  rwa [rounded.plain.stored below]

end Jitter.Rounding

import Mathlib

/-! Rounding to the nearest number that has few enough digits. It keeps the order of numbers, leaves a
number with few digits as it is, and moves any other by no more than the weight of its last digit. -/

namespace Jitter.Rounding

open Float.Model Float.Model.UnpackedFloat

abbrev leastExponent : Int := -1074

def unit : ℚ := 1 / 2 ^ 52

theorem two_zpow_le_iff {i j : ℤ} : (2 : ℚ) ^ i ≤ 2 ^ j ↔ i ≤ j :=
  zpow_le_zpow_iff_right₀ one_lt_two

theorem two_zpow_lt_iff {i j : ℤ} : (2 : ℚ) ^ i < 2 ^ j ↔ i < j :=
  zpow_lt_zpow_iff_right₀ one_lt_two

theorem two_zpow_add (i j : ℤ) : (2 : ℚ) ^ (i + j) = 2 ^ i * 2 ^ j := zpow_add₀ two_ne_zero i j

theorem two_zpow_pos (t : ℤ) : 0 < (2 : ℚ) ^ t := zpow_pos two_pos t

/-- `v` up to its point, and how what is behind it compares with a half. -/
inductive Digits : ExtendedMantissa → ℚ → Prop
  | whole {m : ℕ} {v : ℚ} (same : v = m) : Digits ⟨m, false, false⟩ v
  | less {m : ℕ} {v : ℚ} (above : m < v) (below : v < m + 1 / 2) : Digits ⟨m, false, true⟩ v
  | half {m : ℕ} {v : ℚ} (same : v = m + 1 / 2) : Digits ⟨m, true, false⟩ v
  | more {m : ℕ} {v : ℚ} (above : m + 1 / 2 < v) (below : v < m + 1) : Digits ⟨m, true, true⟩ v

theorem roundedMantissa_bounds (em : ExtendedMantissa) :
    em.mantissa ≤ em.roundedMantissa ∧ em.roundedMantissa ≤ em.mantissa + 1 := by
  rcases em with ⟨mantissa, half, rest⟩
  cases half with
  | false =>
      cases rest with
      | false => exact ⟨Nat.le_refl _, Nat.le_succ _⟩
      | true => exact ⟨Nat.le_refl _, Nat.le_succ _⟩
  | true =>
      cases rest with
      | false =>
          have even : mantissa ≤ mantissa + mantissa % 2 ∧ mantissa + mantissa % 2 ≤ mantissa + 1 := by
            omega
          exact even
      | true => exact ⟨Nat.le_succ _, Nat.le_refl _⟩

theorem ofMantissaAndAccuracy_mantissa (m : Nat) (accuracy : Accuracy) :
    (ExtendedMantissa.ofMantissaAndAccuracy m accuracy).mantissa = m := by
  cases accuracy with
  | exact => rfl
  | inexact side => cases side <;> rfl

theorem shiftRight_mantissa (em : ExtendedMantissa) (k : Nat) :
    (em >>> k).mantissa = em.mantissa / 2 ^ k := by
  induction k with
  | zero => exact (Nat.div_one _).symm
  | succ k ih =>
      have next : (em >>> (k + 1)).mantissa = (em >>> k).mantissa / 2 := rfl
      rw [next, ih, Nat.div_div_eq_div_mul, Nat.pow_succ]

variable {em em' : ExtendedMantissa} {v v' : ℚ} {n d m k : ℕ}

namespace Digits

theorem floor (digits : Digits em v) : em.mantissa ≤ v ∧ v < em.mantissa + 1 := by
  cases digits with
  | whole same => constructor <;> linarith
  | less above below => constructor <;> linarith
  | half same => constructor <;> linarith
  | more above below => constructor <;> linarith

theorem shiftRightOne (digits : Digits em v) : Digits em.shiftRightOne (v / 2) := by
  have parts : (em.mantissa : ℚ) = 2 * (em.mantissa / 2 : ℕ) + (em.mantissa % 2 : ℕ) := by
    exact_mod_cast (Nat.div_add_mod em.mantissa 2).symm
  rcases Nat.mod_two_eq_zero_or_one em.mantissa with even | odd
  · rw [even, Nat.cast_zero, add_zero] at parts
    cases digits with
    | whole same =>
        simp only [ExtendedMantissa.shiftRightOne, even]
        exact .whole (by linarith)
    | less above below =>
        simp only [ExtendedMantissa.shiftRightOne, even]
        exact .less (by linarith) (by linarith)
    | half same =>
        simp only [ExtendedMantissa.shiftRightOne, even]
        exact .less (by linarith) (by linarith)
    | more above below =>
        simp only [ExtendedMantissa.shiftRightOne, even]
        exact .less (by linarith) (by linarith)
  · rw [odd, Nat.cast_one] at parts
    cases digits with
    | whole same =>
        simp only [ExtendedMantissa.shiftRightOne, odd]
        exact .half (by linarith)
    | less above below =>
        simp only [ExtendedMantissa.shiftRightOne, odd]
        exact .more (by linarith) (by linarith)
    | half same =>
        simp only [ExtendedMantissa.shiftRightOne, odd]
        exact .more (by linarith) (by linarith)
    | more above below =>
        simp only [ExtendedMantissa.shiftRightOne, odd]
        exact .more (by linarith) (by linarith)

theorem shiftRight (digits : Digits em v) (k : ℕ) : Digits (em >>> k) (v / 2 ^ k) := by
  induction k with
  | zero =>
      rw [pow_zero, div_one]
      exact digits
  | succ k ih =>
      have once : v / 2 ^ (k + 1) = v / 2 ^ k / 2 := by rw [pow_succ, div_div]
      rw [once]
      exact ih.shiftRightOne

theorem of_exact (m : ℕ) : Digits (.ofMantissaAndAccuracy m .exact) m := .whole rfl

theorem of_quotient (n : ℕ) (positive : 0 < d) :
    Digits (.ofMantissaAndAccuracy (n / d) (accuracyOfFraction (n % d) d)) (n / d) := by
  have divisor : (0 : ℚ) < d := by exact_mod_cast positive
  have parts : (n : ℚ) = d * (n / d : ℕ) + (n % d : ℕ) := by
    exact_mod_cast (Nat.div_add_mod n d).symm
  have value : (n : ℚ) / d = (n / d : ℕ) + (n % d : ℕ) / d := by
    rw [← mul_div_cancel_left₀ ((n / d : ℕ) : ℚ) divisor.ne', ← add_div, ← parts]
  have short : ((n % d : ℕ) : ℚ) / d < 1 := by
    rw [div_lt_one divisor]
    exact_mod_cast Nat.mod_lt n positive
  rw [value, accuracyOfFraction]
  by_cases none : n % d = 0
  · rw [if_pos none, none]
    exact .whole (by simp)
  · have some : 0 < ((n % d : ℕ) : ℚ) / d := div_pos (by exact_mod_cast Nat.pos_of_ne_zero none) divisor
    rw [if_neg none]
    rcases Nat.lt_trichotomy (2 * (n % d)) d with less | half | more
    · rw [compare_lt_iff_lt.mpr less]
      have below : ((n % d : ℕ) : ℚ) / d < 1 / 2 := by
        rw [div_lt_div_iff₀ divisor two_pos]
        exact_mod_cast (by omega : n % d * 2 < 1 * d)
      exact .less (by linarith) (by linarith)
    · rw [compare_eq_iff_eq.mpr half]
      have same : ((n % d : ℕ) : ℚ) / d = 1 / 2 := by
        rw [div_eq_div_iff divisor.ne' two_ne_zero]
        exact_mod_cast (by omega : n % d * 2 = 1 * d)
      exact .half (by linarith)
    · rw [compare_gt_iff_gt.mpr more]
      have above : 1 / 2 < ((n % d : ℕ) : ℚ) / d := by
        rw [div_lt_div_iff₀ two_pos divisor]
        exact_mod_cast (by omega : 1 * d < n % d * 2)
      exact .more (by linarith) (by linarith)

theorem mantissa_le (digits : Digits em v) (digits' : Digits em' v') (ordered : v ≤ v') :
    em.mantissa ≤ em'.mantissa := by
  have close : (em.mantissa : ℚ) < em'.mantissa + 1 := by
    linarith [digits.floor.1, digits'.floor.2]
  exact Nat.le_of_lt_succ (by exact_mod_cast close)

theorem roundedMantissa_le (digits : Digits em v) (digits' : Digits em' v') (ordered : v ≤ v') :
    em.roundedMantissa ≤ em'.roundedMantissa := by
  have up := (roundedMantissa_bounds em).2
  have down := (roundedMantissa_bounds em').1
  rcases Nat.lt_or_eq_of_le (digits.mantissa_le digits' ordered) with apart | same
  · omega
  · have weight : (em.mantissa : ℚ) = em'.mantissa := by exact_mod_cast same
    cases digits with
    | whole => exact Nat.le_trans (Nat.le_of_eq same) down
    | less => exact Nat.le_trans (Nat.le_of_eq same) down
    | @half m _ exactly =>
        have even : m + m % 2 ≤ m + 1 := by omega
        cases digits' with
        | whole => simp only at weight; linarith
        | less => simp only at weight; linarith
        | half =>
            obtain rfl := same
            exact Nat.le_refl _
        | more =>
            obtain rfl := same
            exact even
    | more =>
        cases digits' with
        | whole => simp only at weight; linarith
        | less => simp only at weight; linarith
        | half => simp only at weight; linarith
        | more =>
            obtain rfl := same
            exact Nat.le_refl _

theorem roundedMantissa_natCast (digits : Digits em n) : em.roundedMantissa = n :=
  Nat.le_antisymm (digits.roundedMantissa_le (of_exact n) le_rfl)
    ((of_exact n).roundedMantissa_le digits le_rfl)

end Digits

/-- `y` is the nearest to `x` of the numbers with 53 digits, or with all digits down to those of the
least exponent, and the even one of two that are as near. The last digit weighs `2 ^ t`. -/
inductive RoundsTo (x : ℚ) : ℚ → Prop
  | nearest {t : ℤ} {em : ExtendedMantissa} (least : leastExponent ≤ t) (below : x < 2 ^ (53 + t))
      (above : t = leastExponent ∨ 2 ^ (52 + t) ≤ x) (digits : Digits em (x / 2 ^ t)) :
      RoundsTo x (em.roundedMantissa * 2 ^ t)

namespace RoundsTo

variable {x x' y y' : ℚ} {g : ℤ}

theorem nonneg (rounds : RoundsTo x y) : 0 ≤ x ∧ 0 ≤ y := by
  cases rounds with
  | @nearest t em least below above digits =>
      have weight := two_zpow_pos t
      have floor := digits.floor.1
      rw [le_div_iff₀ weight] at floor
      exact ⟨le_trans (by positivity) floor, by positivity⟩

theorem mantissa_bounds {t : ℤ} (below : x < 2 ^ (53 + t))
    (above : t = leastExponent ∨ 2 ^ (52 + t) ≤ x) (digits : Digits em (x / 2 ^ t)) :
    em.mantissa + 1 ≤ 2 ^ 53 ∧ (t = leastExponent ∨ 2 ^ 52 ≤ em.mantissa) := by
  have weight := two_zpow_pos t
  obtain ⟨floor, next⟩ := digits.floor
  constructor
  · have short : (em.mantissa : ℚ) < 2 ^ 53 := by
      rw [two_zpow_add] at below
      exact floor.trans_lt ((div_lt_iff₀ weight).mpr below)
    exact Nat.succ_le_of_lt (by exact_mod_cast short)
  · rcases above with least | above
    · exact .inl least
    · right
      rw [two_zpow_add] at above
      have full : (2 ^ 52 : ℚ) < em.mantissa + 1 := ((le_div_iff₀ weight).mpr above).trans_lt next
      exact Nat.le_of_lt_succ (by exact_mod_cast full)

theorem mono (rounds : RoundsTo x y) (rounds' : RoundsTo x' y') (ordered : x ≤ x') : y ≤ y' := by
  cases rounds with
  | @nearest t em least below above digits =>
      cases rounds' with
      | @nearest t' em' least' below' above' digits' =>
          rcases lt_trichotomy t t' with finer | rfl | coarser
          -- A power of two lies between numbers whose last digits do not weigh the same.
          · have short : em.roundedMantissa ≤ 2 ^ 53 :=
              (roundedMantissa_bounds em).2.trans (mantissa_bounds below above digits).1
            have full : 2 ^ 52 ≤ em'.roundedMantissa :=
              ((mantissa_bounds below' above' digits').2.resolve_left (by omega)).trans
                (roundedMantissa_bounds em').1
            calc (em.roundedMantissa : ℚ) * 2 ^ t ≤ 2 ^ (53 : ℤ) * 2 ^ t :=
                  mul_le_mul_of_nonneg_right (by exact_mod_cast short) (two_zpow_pos t).le
              _ = 2 ^ (53 + t) := (two_zpow_add 53 t).symm
              _ ≤ 2 ^ (52 + t') := two_zpow_le_iff.mpr (by omega)
              _ = 2 ^ (52 : ℤ) * 2 ^ t' := two_zpow_add 52 t'
              _ ≤ em'.roundedMantissa * 2 ^ t' :=
                  mul_le_mul_of_nonneg_right (by exact_mod_cast full) (two_zpow_pos t').le
          · have scaled : x / 2 ^ t ≤ x' / 2 ^ t :=
              div_le_div_of_nonneg_right ordered (two_zpow_pos t).le
            have rounded := digits.roundedMantissa_le digits' scaled
            exact mul_le_mul_of_nonneg_right (by exact_mod_cast rounded) (two_zpow_pos t).le
          · have large : (2 : ℚ) ^ (52 + t) ≤ x := above.resolve_left (by omega)
            have apart : (52 + t) < 53 + t' :=
              two_zpow_lt_iff.mp (large.trans_lt (ordered.trans_lt below'))
            omega

theorem unique (rounds : RoundsTo x y) (rounds' : RoundsTo x y') : y = y' :=
  le_antisymm (rounds.mono rounds' le_rfl) (rounds'.mono rounds le_rfl)

theorem eq_of_few_digits (rounds : RoundsTo (k * 2 ^ g) y) (few : k < 2 ^ 53)
    (fine : leastExponent ≤ g) : y = k * 2 ^ g := by
  cases rounds with
  | @nearest t em least below above digits =>
      have finer : t ≤ g := by
        rcases above with rfl | above
        · exact fine
        · have size : (2 : ℚ) ^ (52 + t) < 2 ^ (53 + g) := by
            calc (2 : ℚ) ^ (52 + t) ≤ k * 2 ^ g := above
              _ < 2 ^ (53 : ℤ) * 2 ^ g := mul_lt_mul_of_pos_right (by exact_mod_cast few) (two_zpow_pos g)
              _ = 2 ^ (53 + g) := (two_zpow_add 53 g).symm
          have ordered := two_zpow_lt_iff.mp size
          omega
      obtain ⟨more, gap⟩ : ∃ more : ℕ, g = more + t := ⟨(g - t).toNat, by omega⟩
      have whole : (k * 2 ^ g : ℚ) = (k * 2 ^ more : ℕ) * 2 ^ t := by
        rw [gap, two_zpow_add, zpow_natCast]
        push_cast
        ring
      rw [whole, mul_div_cancel_right₀ _ (two_zpow_pos t).ne'] at digits
      rw [digits.roundedMantissa_natCast, whole]

theorem near (rounds : RoundsTo x y) (normal : 2 ^ (-200 : ℤ) ≤ x) :
    x * (1 - unit) ≤ y ∧ y ≤ x * (1 + unit) := by
  cases rounds with
  | @nearest t em least below above digits =>
      have weight := two_zpow_pos t
      obtain ⟨floor, next⟩ := digits.floor
      obtain ⟨down, up⟩ := roundedMantissa_bounds em
      have large : 2 ^ 52 * (2 : ℚ) ^ t ≤ x := by
        have finer : t ≠ leastExponent := by
          rintro rfl
          have size := two_zpow_lt_iff.mp (normal.trans_lt below)
          exact absurd size (by decide)
        have bits := above.resolve_left finer
        rwa [two_zpow_add] at bits
      rw [le_div_iff₀ weight] at floor
      rw [div_lt_iff₀ weight, add_mul, one_mul] at next
      have low : (em.mantissa : ℚ) * 2 ^ t ≤ em.roundedMantissa * 2 ^ t :=
        mul_le_mul_of_nonneg_right (by exact_mod_cast down) weight.le
      have high : (em.roundedMantissa : ℚ) * 2 ^ t ≤ (em.mantissa + 1) * 2 ^ t :=
        mul_le_mul_of_nonneg_right (by exact_mod_cast up) weight.le
      rw [add_mul, one_mul] at high
      have small : (2 : ℚ) ^ t ≤ x * unit := by
        rw [unit]
        linarith
      constructor <;> linarith

end RoundsTo

end Jitter.Rounding

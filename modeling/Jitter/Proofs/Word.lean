import Jitter.Word
import Mathlib.Tactic

/-! When the checked operations have a value, and which. -/

namespace Jitter

namespace Unsigned

theorem add_of_lt {word a b : Nat} (fits : a + b < word) : add word a b = .ok (a + b) :=
  if_pos fits

theorem mul_of_lt {word a b : Nat} (fits : a * b < word) : mul word a b = .ok (a * b) :=
  if_pos fits

theorem div_of_ne {a b : Nat} (divisor : b ≠ 0) : div a b = .ok (a / b) := if_neg divisor

theorem mul_eq_ok {word a b n : Nat} : mul word a b = .ok n ↔ a * b < word ∧ n = a * b := by
  simp only [mul]
  split
  · rename_i fits
    simp [fits, eq_comm]
  · rename_i large
    simp [large]

theorem add_eq_ok {word a b n : Nat} : add word a b = .ok n ↔ a + b < word ∧ n = a + b := by
  simp only [add]
  split
  · rename_i fits
    simp [fits, eq_comm]
  · rename_i large
    simp [large]

theorem sub_eq_ok {a b n : Nat} : sub a b = .ok n ↔ b ≤ a ∧ n = a - b := by
  simp only [sub]
  split
  · rename_i fits
    simp [fits, eq_comm]
  · rename_i large
    simp [large]

theorem mul_map {α : Type} (word a b : Nat) (f : Nat → α) :
    (mul word a b).map f = if a * b < word then .ok (f (a * b)) else .error .mulOverflow := by
  rw [mul]
  split
  · rfl
  · rfl

theorem div_eq_ok {a b n : Nat} : div a b = .ok n ↔ b ≠ 0 ∧ n = a / b := by
  simp only [div]
  split
  · rename_i zero
    simp [zero]
  · rename_i positive
    simp [positive, eq_comm]

end Unsigned

namespace Signed

theorem sub_eq_ok {a b n : Int} : sub a b = .ok n ↔ Fits (a - b) ∧ n = a - b := by
  simp only [sub]
  split
  · rename_i fits
    simp [fits, eq_comm]
  · rename_i large
    simp [large]

theorem saturate_le (x : Int) : saturate x ≤ greatest := by
  simp only [saturate, least, greatest]
  omega

theorem saturate_of_fits {x : Int} (fits : Fits x) : saturate x = x := by
  simp only [saturate, Fits, least, greatest] at *
  omega

theorem saturate_natCast (n : Nat) : saturate n = min (n : Int) greatest := by
  simp only [saturate, least, greatest]
  omega

theorem toNat_mul_lt {x : Int} {n : Nat} (fits : x ≤ greatest) (word : n < word64) :
    x.toNat * n < word128 := by
  have short : x.toNat < word64 := by
    simp only [greatest, word64] at *
    omega
  calc x.toNat * n < word64 * word64 := Nat.mul_lt_mul'' short word
    _ = word128 := by decide

theorem max_zero_saturate (x : Int) : max 0 (saturate x) = max 0 (min x greatest) := by
  simp only [saturate, least, greatest]
  omega

end Signed

end Jitter

import Jitter.CommandLine.Arguments
import Jitter.Proofs.Effects
import Jitter.Proofs.JsonTokens

/-! Numbers on the command line: every numeral of a number within range is read as that number. -/

namespace Jitter.CommandLine

open Json.Reader (isDigit_toDigits le_ofDigitChars toDigits_head)

/-- A row of digits by its number, which zeros may stand before. -/
structure Digits (s : List Char) (n : Nat) : Prop where
  present : s ≠ []
  digits : ∀ c ∈ s, c.isDigit = true
  number : Nat.ofDigitChars 10 s 0 = n

inductive Numeral : List Char → Nat → Prop
  | plain {s : List Char} {n : Nat} (digits : Digits s n) : Numeral s n
  | plus {s : List Char} {n : Nat} (digits : Digits s n) : Numeral ('+' :: s) n

inductive SignedNumeral : List Char → Int → Prop
  | unsigned {s : List Char} {n : Nat} (numeral : Numeral s n) : SignedNumeral s n
  | minus {s : List Char} {n : Nat} (digits : Digits s n) : SignedNumeral ('-' :: s) (-n)

theorem digits_toDigits (n : Nat) : Digits (Nat.toDigits 10 n) n := by
  rcases toDigits_head n with ⟨c, s, front, -⟩
  exact ⟨front ▸ List.cons_ne_nil c s, isDigit_toDigits, Nat.ofDigitChars_ten_toDigits⟩

theorem exists_signedNumeral (n : Int) : ∃ s, SignedNumeral s n := by
  cases n with
  | ofNat n => exact ⟨_, .unsigned (.plain (digits_toDigits n))⟩
  | negSucc n => exact ⟨_, .minus (digits_toDigits (n + 1))⟩

def Begins (dash : Bool) : List Char → Prop
  | [] => False
  | c :: _ => c ≠ '=' ∧ (c = '-' → dash = true)

section

variable {dash : Bool} {s : List Char} {n : Nat}

theorem Digits.front (row : Digits s n) : ∃ c rest, s = c :: rest ∧ c.isDigit = true := by
  rcases List.exists_cons_of_ne_nil row.present with ⟨c, rest, rfl⟩
  exact ⟨c, rest, rfl, row.digits c List.mem_cons_self⟩

theorem Digits.begins (row : Digits s n) : Begins dash s := by
  rcases row.front with ⟨c, rest, rfl, digit⟩
  constructor
  · rintro rfl
    cases digit
  · rintro rfl
    cases digit

theorem Numeral.begins (numeral : Numeral s n) : Begins dash s := by
  cases numeral with
  | plain digits => exact digits.begins
  | plus digits => exact ⟨by decide, fun minus => absurd minus (by decide)⟩

theorem SignedNumeral.begins {n : Int} (numeral : SignedNumeral s n) : Begins true s := by
  cases numeral with
  | unsigned numeral => exact numeral.begins
  | minus digits => exact ⟨by decide, fun _ => rfl⟩

end

variable {limit word : Nat} {past : IntegerError} {s : List Char}

/-- No prefix of a row of digits has a larger number than the row, so the limit is never passed on the
way. -/
theorem magnitude_digits {n : Nat} (digits : ∀ c ∈ s, c.isDigit = true)
    (within : Nat.ofDigitChars 10 s n ≤ limit) :
    magnitude limit past n s = .ok (Nat.ofDigitChars 10 s n) := by
  induction s generalizing n with
  | nil => rfl
  | cons c rest ih =>
      rw [Nat.ofDigitChars_cons, Nat.mul_comm] at within ⊢
      have digit := digits c List.mem_cons_self
      have small := Nat.le_trans (le_ofDigitChars rest _) within
      rw [magnitude, if_neg (by simp [digit]), if_neg (Nat.not_lt_of_le small)]
      exact ih (fun d member => digits d (List.mem_cons_of_mem _ member)) within

theorem Digits.magnitude {n : Nat} (row : Digits s n) (within : n ≤ limit) :
    magnitude limit past 0 s = .ok n := by
  rcases row with ⟨-, digits, rfl⟩
  exact magnitude_digits digits within

theorem natural_numeral {n : Nat} (numeral : Numeral s n) (fits : n < word) :
    natural word s = .ok n := by
  have within : n ≤ word - 1 := Nat.le_sub_one_of_lt fits
  cases numeral with
  | plain digits =>
      rcases digits.front with ⟨c, rest, rfl, digit⟩
      rw [natural]
      · exact digits.magnitude within
      · rintro ⟨⟩
      · rintro ⟨⟩
        cases digit
      · rintro _ ⟨⟩
        cases digit
  | plus digits =>
      rcases digits.front with ⟨c, rest, rfl, -⟩
      rw [natural]
      · exact digits.magnitude within
      · rintro ⟨⟩

theorem integer_numeral {n : Int} (numeral : SignedNumeral s n) (fits : Signed.Fits n) :
    integer s = .ok n := by
  rcases fits with ⟨least, most⟩
  cases numeral with
  | unsigned numeral =>
      rename_i n
      have within : n ≤ Signed.greatest.toNat := by
        simp only [Signed.greatest] at *
        omega
      cases numeral with
      | plain digits =>
          rcases digits.front with ⟨c, rest, rfl, digit⟩
          rw [integer, digits.magnitude within]
          · rfl
          · rintro ⟨⟩
          · rintro ⟨⟩
            cases digit
          · rintro ⟨⟩
            cases digit
          · rintro _ ⟨⟩
            cases digit
          · rintro _ ⟨⟩
            cases digit
      | plus digits =>
          rcases digits.front with ⟨c, rest, rfl, -⟩
          rw [integer, digits.magnitude within]
          · rfl
          · rintro ⟨⟩
  | minus digits =>
      rename_i s n
      have within : n ≤ (-Signed.least).toNat := by
        simp only [Signed.least] at *
        omega
      rcases digits.front with ⟨c, rest, rfl, -⟩
      rw [integer, digits.magnitude within]
      · rfl
      · rintro ⟨⟩

namespace Arguments

variable {text : String}

theorem natural64_numeral {n : Nat} (numeral : Numeral text.toList n) (fits : n < word64) :
    natural64 text = .ok n := by
  rw [natural64, natural_numeral numeral fits]
  rfl

theorem integer64_numeral {n : Int} (numeral : SignedNumeral text.toList n) (fits : Signed.Fits n) :
    integer64 text = .ok n := by
  rw [integer64, integer_numeral numeral fits]
  rfl

theorem between_numeral {least greatest n : Int} (numeral : SignedNumeral text.toList n)
    (fits : Signed.Fits n) (inside : least ≤ n ∧ n ≤ greatest) :
    between least greatest text = .ok n := by
  rw [between, integer_numeral numeral fits]
  exact if_pos inside

theorem integer32_numeral {n : Int} (numeral : SignedNumeral text.toList n)
    (fits : Signed.least32 ≤ n ∧ n ≤ Signed.greatest32) : integer32 text = .ok n := by
  have wide : Signed.Fits n := by
    simp only [Signed.Fits, Signed.least, Signed.greatest, Signed.least32, Signed.greatest32] at *
    omega
  exact between_numeral numeral wide fits

theorem natural32_numeral {n : Nat} (numeral : Numeral text.toList n) (fits : n < word32) :
    natural32 text = .ok n := by
  have wide : Signed.Fits n := by
    simp only [Signed.Fits, Signed.least, Signed.greatest, word32] at *
    omega
  have inside : (0 : Int) ≤ n ∧ (n : Int) ≤ word32 - 1 := by
    simp only [word32] at *
    omega
  rw [natural32, between_numeral (.unsigned numeral) wide inside]
  rfl

end Arguments

end Jitter.CommandLine

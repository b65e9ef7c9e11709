import Jitter.Decimal.Binary

/-! Doubles with a fixed number of places, rounded from the exact value. -/

namespace Jitter.Decimal

/-- The nearest whole number to `num / den`; a tie goes to the even one. -/
def roundDiv (num den : Nat) : Nat :=
  let q := num / den
  let twice := 2 * (num % den)
  if twice < den ∨ (twice = den ∧ q % 2 = 0) then q else q + 1

def padLeft (width : Nat) (c : Char) (s : List Char) : List Char :=
  List.replicate (width - s.length) c ++ s

def pointed (places n : Nat) : List Char :=
  let s := padLeft (places + 1) '0' (Nat.toDigits 10 n)
  s.take (s.length - places) ++ ['.'] ++ s.drop (s.length - places)

def fixed (places : Nat) (x : Float) : List Char :=
  match binary x with
  | .nan => "NaN".toList
  | .infinite negative => (if negative then "-inf" else "inf").toList
  | .finite negative m e _ =>
    let (num, den) := scaled m 2 e
    (if negative then ['-'] else []) ++ pointed places (roundDiv (num * Nat.pow 10 places) den)

def column (width places : Nat) (x : Float) : String :=
  String.ofList (padLeft width ' ' (fixed places x))

end Jitter.Decimal

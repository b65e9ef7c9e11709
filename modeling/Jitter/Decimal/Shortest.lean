import Jitter.Decimal.Binary

/-! The shortest decimal that reads back as the same double. -/

namespace Jitter.Decimal

/-- `digits * 10 ^ exponent`. -/
structure Digits where
  digits : Nat
  exponent : Int
  deriving DecidableEq, Repr

inductive Tie where
  | even
  | above
  deriving DecidableEq, Repr

def Tie.choose : Tie → Nat → Nat
  | even, below => if below % 2 = 0 then below else below + 1
  | above, below => below + 1

def countDigits (n : Nat) : Nat := (Nat.toDigits 10 n).length

/-- The `k` with `10 ^ (k - 1) ≤ num / den < 10 ^ k`, for a positive quotient. -/
def magnitude (num den : Nat) : Int :=
  if den ≤ num then countDigits (num / den)
  else 1 - (countDigits ((den - 1) / num) : Int)

/-- Multiples of `den` that stand for the same double lie from `low` to `high`. -/
structure Interval where
  low : Nat
  value : Nat
  high : Nat
  den : Nat
  closed : Bool

def Interval.holds (i : Interval) (n : Nat) : Bool :=
  if i.closed then i.low ≤ n * i.den && n * i.den ≤ i.high
  else i.low < n * i.den && n * i.den < i.high

def interval (mantissa : Nat) (exponent : Int) (narrow : Bool) (unit : Int) : Interval :=
  let (two, half) := scaled 1 2 (exponent - 2)
  let (ten, tenth) := scaled 1 10 (-unit)
  let up := two * ten
  { low := (4 * mantissa - if narrow then 1 else 2) * up
    value := 4 * mantissa * up
    high := (4 * mantissa + 2) * up
    den := half * tenth
    closed := mantissa % 2 = 0 }

/-- The neighbours of the value on its grid: the nearer one that lies inside. -/
def Interval.nearest (i : Interval) (tie : Tie) : Option Nat :=
  let below := i.value / i.den
  let above := below + 1
  let toBelow := i.value - below * i.den
  let toAbove := above * i.den - i.value
  match i.holds below, i.holds above with
  | true, true =>
    if toBelow < toAbove then some below
    else if toAbove < toBelow then some above
    else some (tie.choose below)
  | true, false => some below
  | false, true => some above
  | false, false => none

/-- Drops the zeros at the end of the digits; `fuel` bounds their number. -/
def Digits.trim : Nat → Digits → Digits
  | 0, d => d
  | fuel + 1, d =>
    if d.digits ≠ 0 ∧ d.digits % 10 = 0 then trim fuel ⟨d.digits / 10, d.exponent + 1⟩ else d

/-- The first of the grids with one digit, two digits and so on that has a point inside. -/
def shortestFrom (tie : Tie) (mantissa : Nat) (exponent : Int) (narrow : Bool) (k : Int) :
    Nat → Nat → Digits
  | 0, n => ⟨(interval mantissa exponent narrow (k - n)).value /
      (interval mantissa exponent narrow (k - n)).den, k - n⟩
  | more + 1, n =>
    match (interval mantissa exponent narrow (k - n)).nearest tie with
    | some d => Digits.trim (n + 1) ⟨d, k - n⟩
    | none => shortestFrom tie mantissa exponent narrow k more (n + 1)

def shortest (tie : Tie) (mantissa : Nat) (exponent : Int) (narrow : Bool) : Digits :=
  if mantissa = 0 then ⟨0, 0⟩
  else
    let (num, den) := scaled mantissa 2 exponent
    shortestFrom tie mantissa exponent narrow (magnitude num den) 17 1

end Jitter.Decimal

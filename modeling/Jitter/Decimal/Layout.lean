import Jitter.Decimal.Shortest

/-! How the digits of a double are laid out: positional or with an exponent. -/

namespace Jitter.Decimal

/-- Numbers from `10 ^ low` on and below `10 ^ high` are positional; `point` gives whole ones a `.0`, and
`plus` gives an exponent that is not negative a sign. -/
structure Layout where
  low : Option Int
  high : Option Int
  point : Bool
  plus : Bool
  tie : Tie

def plain : Layout := ⟨none, none, false, false, .above⟩

def inspected : Layout := ⟨some (-4), some 16, true, false, .above⟩

def json : Layout := ⟨some (-5), some 16, true, true, .even⟩

def zeros (n : Nat) : List Char := List.replicate n '0'

def positional (point : Bool) (d : Digits) : List Char :=
  let s := Nat.toDigits 10 d.digits
  let whole : Int := s.length + d.exponent
  if 0 ≤ d.exponent then
    s ++ zeros d.exponent.toNat ++ if point then ['.', '0'] else []
  else if 0 < whole then s.take whole.toNat ++ ['.'] ++ s.drop whole.toNat
  else ['0', '.'] ++ zeros (-whole).toNat ++ s

def exponential (plus : Bool) (d : Digits) : List Char :=
  let s := Nat.toDigits 10 d.digits
  let e : Int := s.length + d.exponent - 1
  s.take 1 ++ (if s.length = 1 then [] else '.' :: s.drop 1) ++ ['e'] ++
    (if plus && 0 ≤ e then ['+'] else []) ++ (toString e).toList

def Layout.isPositional (l : Layout) (e : Int) : Bool :=
  l.low.all (· ≤ e) && l.high.all (e < ·)

def Layout.magnitude (l : Layout) (d : Digits) : List Char :=
  let e : Int := (Nat.toDigits 10 d.digits).length + d.exponent - 1
  if d.digits = 0 ∨ l.isPositional e then positional l.point d else exponential l.plus d

/-- A double in the fewest digits that read back as itself. -/
def Layout.text (l : Layout) (x : Float) : String :=
  match binary x with
  | .nan => "NaN"
  | .infinite negative => if negative then "-inf" else "inf"
  | .finite negative m e narrow =>
    String.ofList ((if negative then ['-'] else []) ++ l.magnitude (shortest l.tie m e narrow))

end Jitter.Decimal

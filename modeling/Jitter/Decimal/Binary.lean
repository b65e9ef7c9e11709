/-! Doubles taken apart: a sign, a mantissa and a power of two. -/

namespace Jitter.Decimal

/-- A finite double is `mantissa * 2 ^ exponent`; `narrow` when its lower neighbour is only half as far
away as its upper one. -/
inductive Binary where
  | nan
  | infinite (negative : Bool)
  | finite (negative : Bool) (mantissa : Nat) (exponent : Int) (narrow : Bool)
  deriving DecidableEq, Repr

/-- The bit above those of a fraction, which is not stored. -/
abbrev hidden : Nat := 4503599627370496

def binary (x : Float) : Binary :=
  let bits : Nat := x.toBits.toNat
  let negative := decide (9223372036854775808 ≤ bits)
  let scale : Nat := bits / hidden % 2048
  let fraction : Nat := bits % hidden
  if scale = 2047 then
    if fraction = 0 then .infinite negative else .nan
  else if scale = 0 then .finite negative fraction (-1074) false
  else .finite negative (fraction + hidden) (scale - 1075) (decide (fraction = 0 ∧ 1 < scale))

def scaled (n base : Nat) (e : Int) : Nat × Nat :=
  (n * Nat.pow base e.toNat, Nat.pow base (-e).toNat)

end Jitter.Decimal

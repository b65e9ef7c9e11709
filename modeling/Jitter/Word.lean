/-! Machine integers as numbers with a range: the checked, saturating and wrapping operations. -/

namespace Jitter

inductive Fault where
  | addOverflow
  | subOverflow
  | mulOverflow
  | divideByZero
  | capacityOverflow
  | stalled
  deriving DecidableEq, Repr

def Fault.message : Fault → String
  | addOverflow => "attempt to add with overflow"
  | subOverflow => "attempt to subtract with overflow"
  | mulOverflow => "attempt to multiply with overflow"
  | divideByZero => "attempt to divide by zero"
  | capacityOverflow => "capacity overflow"
  | stalled => "the clock never reaches the deadline"

abbrev Checked := Except Fault

abbrev word32 : Nat := 4294967296
abbrev word64 : Nat := 18446744073709551616
abbrev word128 : Nat := 340282366920938463463374607431768211456

namespace Unsigned

def add (word a b : Nat) : Checked Nat :=
  if a + b < word then .ok (a + b) else .error .addOverflow

def sub (a b : Nat) : Checked Nat :=
  if b ≤ a then .ok (a - b) else .error .subOverflow

def mul (word a b : Nat) : Checked Nat :=
  if a * b < word then .ok (a * b) else .error .mulOverflow

def div (a b : Nat) : Checked Nat :=
  if b = 0 then .error .divideByZero else .ok (a / b)

def wrap (word n : Nat) : Nat := if n < word then n else n % word

def saturate (word n : Nat) : Nat := min n (word - 1)

end Unsigned

namespace Signed

abbrev least : Int := -9223372036854775808
abbrev greatest : Int := 9223372036854775807

abbrev least32 : Int := -2147483648
abbrev greatest32 : Int := 2147483647

abbrev least128 : Int := -170141183460469231731687303715884105728
abbrev greatest128 : Int := 170141183460469231731687303715884105727

def Fits (x : Int) : Prop := least ≤ x ∧ x ≤ greatest

instance (x : Int) : Decidable (Fits x) := inferInstanceAs (Decidable (_ ∧ _))

def add (a b : Int) : Checked Int :=
  if Fits (a + b) then .ok (a + b) else .error .addOverflow

def sub (a b : Int) : Checked Int :=
  if Fits (a - b) then .ok (a - b) else .error .subOverflow

def mulWide (a b : Int) : Checked Int :=
  if least128 ≤ a * b ∧ a * b ≤ greatest128 then .ok (a * b) else .error .mulOverflow

/-- Division toward zero. -/
def div (a b : Int) : Checked Int :=
  if b = 0 then .error .divideByZero else .ok (a.tdiv b)

def saturate (x : Int) : Int := max least (min x greatest)

def wrap (x : Int) : Int := if Fits x then x else x.bmod word64

end Signed

end Jitter

import Jitter.Word

/-! Reading integers from the command line. -/

namespace Jitter.CommandLine

inductive IntegerError where
  | empty
  | invalidDigit
  | tooLarge
  | tooSmall
  deriving DecidableEq, Repr

def IntegerError.message : IntegerError → String
  | empty => "cannot parse integer from empty string"
  | invalidDigit => "invalid digit found in string"
  | tooLarge => "number too large to fit in target type"
  | tooSmall => "number too small to fit in target type"

/-- Digits from the left, up to the first that is none or that takes the number past its limit. -/
def magnitude (limit : Nat) (past : IntegerError) : Nat → List Char → Except IntegerError Nat
  | n, [] => .ok n
  | n, c :: rest =>
    let next := n * 10 + (c.toNat - '0'.toNat)
    if !c.isDigit then .error .invalidDigit
    else if limit < next then .error past
    else magnitude limit past next rest

def natural (word : Nat) (s : List Char) : Except IntegerError Nat :=
  match s with
  | [] => .error .empty
  | ['+'] => .error .invalidDigit
  | '+' :: rest => magnitude (word - 1) .tooLarge 0 rest
  | s => magnitude (word - 1) .tooLarge 0 s

def integer (s : List Char) : Except IntegerError Int :=
  match s with
  | [] => .error .empty
  | ['+'] | ['-'] => .error .invalidDigit
  | '-' :: rest => (magnitude (-Signed.least).toNat .tooSmall 0 rest).map fun n => -(n : Int)
  | '+' :: rest => (magnitude Signed.greatest.toNat .tooLarge 0 rest).map Int.ofNat
  | s => (magnitude Signed.greatest.toNat .tooLarge 0 s).map Int.ofNat

end Jitter.CommandLine

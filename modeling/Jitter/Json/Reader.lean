import Jitter.Json.Value
import Jitter.Word

/-! Reading the tokens of a JSON text. -/

namespace Jitter.Json

inductive Rejection where
  | malformed
  | truncated
  /-- Well formed as far as it was read, but not what is asked for. -/
  | mismatched
  deriving DecidableEq, Repr

abbrev Reader := StateT (List Char) (Except Rejection)

namespace Reader

def isBlank (c : Char) : Bool := c = ' ' || c = '\n' || c = '\t' || c = '\r'

def visible : Reader (Option Char) := fun s =>
  let s := s.dropWhile isBlank
  pure (s.head?, s)

def present : Reader Char := do
  match ← visible with
  | some c => pure c
  | none => throw .truncated

def drop : Reader Unit := modify List.tail

def word (chars : List Char) (s : List Char) : Except Rejection (Unit × List Char) :=
  match chars, s with
  | [], s => .ok ((), s)
  | _ :: _, [] => .error .truncated
  | c :: chars, d :: s => if d = c then word chars s else .error .malformed

def digitValue (c : Char) : Nat := c.toNat - '0'.toNat

def digits (value taken : Nat) : List Char → Nat × Nat × List Char
  | [] => (value, taken, [])
  | c :: s =>
    if c.isDigit ∧ value * 10 + digitValue c < word64 then
      digits (value * 10 + digitValue c) (taken + 1) s
    else (value, taken, c :: s)

def skipDigits (s : List Char) : List Char := s.dropWhile Char.isDigit

def countDigits (s : List Char) : Nat := (s.takeWhile Char.isDigit).length

def powerOfTen (n : Nat) : Float := Float.ofScientific 1 false n

def divideDown (x : Float) : Nat → Float
  | 0 => x
  | n + 1 => if x == 0 then x else divideDown (x / powerOfTen 308) n

/-- `value * 10 ^ exponent` by one rounding for the value and one for each power, if it is finite. -/
def scale (value : Nat) (exponent : Int) : Option Float :=
  let x := value.toUInt64.toFloat
  if 308 < exponent then
    if x == 0 then some x else none
  else if 0 ≤ exponent then
    let y := x * powerOfTen exponent.toNat
    if y.isInf then none else some y
  else
    let steps := ((-exponent).toNat - 1) / 308
    let y := divideDown x steps
    if y == 0 then some y else some (y / powerOfTen ((-exponent).toNat - 308 * steps))

def signed (negative : Bool) (x : Float) : Json := .real (if negative then -x else x)

def exponentPart (negative : Bool) (value : Nat) (exponent : Int) (s : List Char) :
    Except Rejection (Json × List Char) :=
  let finish (e : Int) (s : List Char) : Except Rejection (Json × List Char) :=
    match scale value e with
    | some x => .ok (signed negative x, s)
    | none => .error .malformed
  match s with
  | c :: s =>
    if c = 'e' ∨ c = 'E' then
      let (down, s) :=
        match s with
        | '+' :: s => (false, s)
        | '-' :: s => (true, s)
        | s => (false, s)
      match s with
      | [] => .error .truncated
      | d :: _ =>
        if d.isDigit then
          let e : Nat := (s.takeWhile Char.isDigit).foldl (fun n c => n * 10 + digitValue c) 0
          finish (if down then exponent - e else exponent + e) (skipDigits s)
        else .error .malformed
    else finish exponent (c :: s)
  | [] => finish exponent []

/-- A number from its point or its exponent on; `exponent` counts the digits dropped before. -/
def pointPart (negative : Bool) (value : Nat) (exponent : Nat) (s : List Char) :
    Except Rejection (Json × List Char) :=
  match s with
  | '.' :: s =>
    match s with
    | [] => .error .truncated
    | d :: _ =>
      if d.isDigit then
        let (value, taken, s) := digits value 0 s
        exponentPart negative value (exponent - taken) (skipDigits s)
      else .error .malformed
  | s => exponentPart negative value exponent s

/-- A whole number; below its range, and for a negative zero, it is a double. -/
def wholeNumber (negative : Bool) (value : Nat) : Json :=
  if !negative then .int value
  else if value = 0 ∨ -Signed.least < value then .real (-value.toUInt64.toFloat)
  else .int (-value)

def magnitude (negative : Bool) (s : List Char) : Except Rejection (Json × List Char) :=
  match s with
  | [] => .error .truncated
  | c :: rest =>
    if c = '0' ∧ rest.head?.any Char.isDigit then .error .malformed
    else if c.isDigit then
      let (value, _, rest) := digits 0 0 s
      match rest with
      | [] => .ok (wholeNumber negative value, [])
      | d :: after =>
        if d.isDigit then pointPart negative value (countDigits rest) (skipDigits rest)
        else if d = '.' ∨ d = 'e' ∨ d = 'E' then pointPart negative value 0 rest
        else .ok (wholeNumber negative value, d :: after)
    else .error .malformed

def number : Reader Json := fun s =>
  match s with
  | '-' :: s => magnitude true s
  | s => magnitude false s

def startsNumber (c : Char) : Bool := c = '-' || c.isDigit

def skipNumber : Reader Unit := fun s =>
  let s := match s with
    | '-' :: s => s
    | s => s
  match s with
  | [] => .error .malformed
  | c :: rest =>
    if !c.isDigit ∨ (c = '0' ∧ rest.head?.any Char.isDigit) then .error .malformed
    else
      match skipDigits s with
      | '.' :: s => if s.head?.any Char.isDigit then skipExponent (skipDigits s) else .error .malformed
      | s => skipExponent s
where
  skipExponent (s : List Char) : Except Rejection (Unit × List Char) :=
    match s with
    | [] => .ok ((), [])
    | c :: rest =>
      if c = 'e' ∨ c = 'E' then
        let s := match rest with
          | '+' :: s => s
          | '-' :: s => s
          | s => s
        if s.head?.any Char.isDigit then .ok ((), skipDigits s) else .error .malformed
      else .ok ((), c :: rest)

end Reader

end Jitter.Json

import Jitter.Decimal.Layout

/-! JSON values and their text. -/

namespace Jitter

inductive Json where
  | null
  | bool (value : Bool)
  | int (value : Int)
  | real (value : Float)
  | str (value : String)
  | arr (items : List Json)
  | obj (fields : List (String × Json))

namespace Json

/-- The text between two brackets: what is put before an item `depth` levels down, and after a key. -/
structure Spacing where
  line : Nat → List Char
  colon : List Char

def Spacing.compact : Spacing := ⟨fun _ => [], [':']⟩

def Spacing.pretty : Spacing := ⟨fun depth => '\n' :: List.replicate (2 * depth) ' ', [':', ' ']⟩

def hexDigit (n : Nat) : Char := Nat.digitChar n

def escape (c : Char) : List Char :=
  match c with
  | '"' => ['\\', '"']
  | '\\' => ['\\', '\\']
  | '\x08' => ['\\', 'b']
  | '\x0c' => ['\\', 'f']
  | '\n' => ['\\', 'n']
  | '\r' => ['\\', 'r']
  | '\t' => ['\\', 't']
  | c =>
    if c.toNat < 0x20 then ['\\', 'u', '0', '0', hexDigit (c.toNat / 16), hexDigit (c.toNat % 16)]
    else [c]

def quoted (s : String) : List Char := '"' :: s.toList.flatMap escape ++ ['"']

def integer (n : Int) : List Char :=
  if n < 0 then '-' :: Nat.toDigits 10 n.natAbs else Nat.toDigits 10 n.natAbs

/-- A double that is not finite has no text of its own. -/
def double (x : Float) : List Char :=
  if x.isFinite then (Decimal.json.text x).toList else "null".toList

def enclosed (s : Spacing) (depth : Nat) (opening closing : Char) : List (List Char) → List Char
  | [] => [opening, closing]
  | item :: rest =>
    opening :: s.line (depth + 1) ++ item ++
      rest.flatMap (fun item => ',' :: s.line (depth + 1) ++ item) ++ s.line depth ++ [closing]

mutual

def print (s : Spacing) (depth : Nat) : Json → List Char
  | null => "null".toList
  | bool true => "true".toList
  | bool false => "false".toList
  | int n => integer n
  | real x => double x
  | str t => quoted t
  | arr items => enclosed s depth '[' ']' (printItems s (depth + 1) items)
  | obj fields => enclosed s depth '\x7b' '\x7d' (printFields s (depth + 1) fields)

def printItems (s : Spacing) (depth : Nat) : List Json → List (List Char)
  | [] => []
  | item :: rest => print s depth item :: printItems s depth rest

def printFields (s : Spacing) (depth : Nat) : List (String × Json) → List (List Char)
  | [] => []
  | (name, value) :: rest =>
    (quoted name ++ s.colon ++ print s depth value) :: printFields s depth rest

end

def compact (j : Json) : String := String.ofList (print .compact 0 j)

def pretty (j : Json) : String := String.ofList (print .pretty 0 j)

end Json

end Jitter

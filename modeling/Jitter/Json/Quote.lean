import Jitter.Json.Reader

/-! Reading quoted JSON text. -/

namespace Jitter.Json.Reader

def hexValue (c : Char) : Option Nat :=
  if c.isDigit then some (c.toNat - '0'.toNat)
  else if 'a' ≤ c ∧ c ≤ 'f' then some (c.toNat - 'a'.toNat + 10)
  else if 'A' ≤ c ∧ c ≤ 'F' then some (c.toNat - 'A'.toNat + 10)
  else none

def hexUnit (a b c d : Char) : Option Nat := do
  let a ← hexValue a
  let b ← hexValue b
  let c ← hexValue c
  let d ← hexValue d
  pure (((a * 16 + b) * 16 + c) * 16 + d)

/-- An escape that has too few characters left: its length counts in bytes. -/
def shortUnit (s : List Char) : Rejection :=
  if 4 ≤ (s.map Char.utf8Size).foldl (· + ·) 0 then .malformed else .truncated

def isLeading (n : Nat) : Bool := 0xD800 ≤ n && n ≤ 0xDBFF

def isTrailing (n : Nat) : Bool := 0xDC00 ≤ n && n ≤ 0xDFFF

def paired (leading trailing : Nat) : Char :=
  Char.ofNat ((leading - 0xD800) * 0x400 + (trailing - 0xDC00) + 0x10000)

def unpaired : List Char → Rejection
  | [] | ['\\'] => .truncated
  | '\\' :: 'u' :: s => if s.length < 4 then shortUnit s else .malformed
  | _ => .malformed

def unescape : Char → Option Char
  | '"' => some '"'
  | '\\' => some '\\'
  | '/' => some '/'
  | 'b' => some '\x08'
  | 'f' => some '\x0c'
  | 'n' => some '\n'
  | 'r' => some '\r'
  | 't' => some '\t'
  | _ => none

def before (c : Char) : List Char × List Char → List Char × List Char
  | (text, s) => (c :: text, s)

def unquote : List Char → Except Rejection (List Char × List Char)
  | [] | ['\\'] => .error .truncated
  | '"' :: s => .ok ([], s)
  | '\\' :: 'u' :: a :: b :: c :: d :: s =>
    match hexUnit a b c d with
    | none => .error .malformed
    | some n =>
      if isTrailing n then .error .malformed
      else if isLeading n then
        match s with
        | '\\' :: 'u' :: e :: f :: g :: h :: s =>
          match hexUnit e f g h with
          | none => .error .malformed
          | some m =>
            if isTrailing m then (unquote s).map (before (paired n m)) else .error .malformed
        | s => .error (unpaired s)
      else (unquote s).map (before (Char.ofNat n))
  | '\\' :: 'u' :: s => .error (shortUnit s)
  | '\\' :: c :: s =>
    match unescape c with
    | some e => (unquote s).map (before e)
    | none => .error .malformed
  | c :: s => if c.toNat < 0x20 then .error .malformed else (unquote s).map (before c)

/-- Skips a text up to its closing quote; halves of pairs may stand alone. -/
def skipQuoted : List Char → Except Rejection (Unit × List Char)
  | [] | ['\\'] => .error .truncated
  | '"' :: s => .ok ((), s)
  | '\\' :: 'u' :: a :: b :: c :: d :: s =>
    match hexUnit a b c d with
    | none => .error .malformed
    | some _ => skipQuoted s
  | '\\' :: 'u' :: s => .error (shortUnit s)
  | '\\' :: c :: s =>
    match unescape c with
    | some _ => skipQuoted s
    | none => .error .malformed
  | c :: s => if c.toNat < 0x20 then .error .malformed else skipQuoted s

def quotedText : Reader String := fun s => do
  let (text, s) ← unquote s
  pure (String.ofList text, s)

end Jitter.Json.Reader

import Jitter.Json.Quote

/-! Reading lists, records and values of any kind. -/

namespace Jitter.Json.Reader

/-- The levels of brackets that a text may have, and one more. -/
def depthLimit : Nat := 128

def fail {α : Type} (r : Rejection) : Reader α := throw r

def hasItem (first : Bool) : Reader Bool := do
  match ← present with
  | ']' => pure false
  | c =>
    if first then pure true
    else if c = ',' then
      drop
      if (← present) = ']' then fail .malformed else pure true
    else fail .malformed

/-- Whether another field follows in a record; its opening quote is taken. -/
def hasField (first : Bool) : Reader Bool := do
  match ← present with
  | '\x7d' => pure false
  | '"' =>
    if first then
      drop
      pure true
    else fail .malformed
  | ',' =>
    if first then fail .malformed
    else
      drop
      if (← present) = '"' then
        drop
        pure true
      else fail .malformed
  | _ => fail .malformed

def colon : Reader Unit := do
  if (← present) = ':' then drop else fail .malformed

def closing (c : Char) : Reader Unit := do
  if (← present) = c then drop else fail .malformed

/-- More steps than characters are left, so that each step may take one and the last finds the end. -/
def stepsFor (s : List Char) : List Char := ' ' :: s

def itemsFrom (item : Reader Json) : List Char → Bool → Reader (List Json)
  | [], _ => fail .malformed
  | _ :: steps, first => do
    if ← hasItem first then
      let value ← item
      return value :: (← itemsFrom item steps false)
    else return []

def items (item : Reader Json) (first : Bool) : Reader (List Json) := fun s =>
  itemsFrom item (stepsFor s) first s

abbrev Field := List (String × Json) → String → Reader (List (String × Json))

def fieldsFrom (name : Reader String) (field : Field) :
    List Char → Bool → List (String × Json) → Reader (List (String × Json))
  | [], _, _ => fail .malformed
  | _ :: steps, first, seen => do
    if ← hasField first then
      let seen ← field seen (← name)
      fieldsFrom name field steps false seen
    else return seen

def fields (name : Reader String) (field : Field) : Reader (List (String × Json)) := fun s =>
  fieldsFrom name field (stepsFor s) true [] s

def anyField (value : Reader Json) : Field := fun seen name => do
  colon
  return seen ++ [(name, ← value)]

structure Leaves where
  number : Reader Json
  text : Reader String

def Leaves.read : Leaves := ⟨Reader.number, quotedText⟩

def Leaves.skip : Leaves :=
  ⟨do
    skipNumber
    pure .null,
  do
    skipQuoted
    pure ""⟩

/-- Any value, with fewer than `depth` levels of brackets. -/
def anyValue (leaves : Leaves) : Nat → Reader Json
  | 0 => fail .malformed
  | depth + 1 => do
    match ← present with
    | 'n' => do
      word "null".toList
      pure .null
    | 't' => do
      word "true".toList
      pure (.bool true)
    | 'f' => do
      word "false".toList
      pure (.bool false)
    | '"' => do
      drop
      return .str (← leaves.text)
    | '[' =>
      if depth = 0 then fail .malformed
      else do
        drop
        let values ← items (anyValue leaves depth) true
        drop
        pure (.arr values)
    | '\x7b' =>
      if depth = 0 then fail .malformed
      else do
        drop
        let values ← fields leaves.text (anyField (anyValue leaves depth))
        drop
        pure (.obj values)
    | c => if startsNumber c then leaves.number else fail .malformed

/-- No value has as many levels of brackets as its text has characters. -/
def levels (s : List Char) : Nat :=
  match s with
  | '[' :: _ | '\x7b' :: _ => s.length + 1
  | _ => 1

def skipValue : Reader Unit := do
  let _ ← present
  let _ ← anyValue Leaves.skip (levels (← get))

/-- Refuses a value of another kind, once it is known to be well formed. -/
def wrongKind {α : Type} : Reader α := do
  match ← present with
  | '[' | '\x7b' => fail .mismatched
  | _ =>
    let _ ← anyValue Leaves.read 1
    fail .mismatched

end Jitter.Json.Reader

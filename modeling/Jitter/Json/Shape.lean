import Jitter.Json.Nested

/-! Reading JSON text of a known shape. -/

namespace Jitter.Json

inductive Scalar where
  | unsigned (word : Nat)
  | signed
  | double
  deriving DecidableEq, Repr

/-- A number as a value of its kind; a whole number may stand for a double. -/
def Scalar.accept : Scalar → Json → Option Json
  | unsigned word, int n => if 0 ≤ n ∧ n < word then some (int n) else none
  | signed, int n => if Signed.Fits n then some (int n) else none
  | double, int n => some (real (Float.ofInt n))
  | double, real x => some (real x)
  | _, _ => none

inductive Shape where
  | number (kind : Scalar)
  | text
  | choice (names : List String)
  /-- An omittable list is an empty one where it is left out. -/
  | list (item : Shape) (omittable : Bool)
  | tuple (items : List Shape)
  | record (fields : List (String × Shape))
  /-- A record of numbers whose other fields depend on the text of one field. -/
  | tagged (tag : String) (variants : List (String × List (String × Scalar)))

namespace Reader

def expect {α : Type} : Option α → Reader α
  | some a => pure a
  | none => fail .mismatched

def numberOf (kind : Scalar) : Reader Json := do
  if startsNumber (← present) then expect (kind.accept (← number)) else wrongKind

def text : Reader String := do
  if (← present) = '"' then
    drop
    quotedText
  else wrongKind

def name (names : List String) : Reader String := do
  let s ← text
  expect (if s ∈ names then some s else none)

/-- A name by itself, or as the only field of a record that holds nothing. -/
def choice (names : List String) : Reader Json := do
  match ← present with
  | '"' => return .str (← name names)
  | '\x7b' =>
    drop
    unless (← present) = '"' do fail .malformed
    let s ← name names
    colon
    if (← present) = 'n' then word "null".toList else wrongKind
    closing '\x7d'
    return .str s
  | _ => fail .malformed

structure Slot where
  name : String
  value : Reader Json
  omittable : Bool

def recordField (slots : List Slot) : Field := fun seen name => do
  match slots.find? (·.name = name) with
  | some slot =>
    if (seen.lookup name).isSome then fail .mismatched
    colon
    return seen ++ [(name, ← slot.value)]
  | none =>
    colon
    skipValue
    return seen

/-- The fields in their own order; one that may not be omitted has to be there. -/
def arrange (seen : List (String × Json)) : List Slot → Option (List (String × Json))
  | [] => some []
  | slot :: rest =>
    match seen.lookup slot.name with
    | some value => (arrange seen rest).map ((slot.name, value) :: ·)
    | none => if slot.omittable then arrange seen rest else none

def listedFields : List Slot → Bool → Reader (List (String × Json))
  | [], _ => pure []
  | slot :: rest, first => do
    if ← hasItem first then
      let value ← slot.value
      return (slot.name, value) :: (← listedFields rest false)
    else if slot.omittable then listedFields rest first
    else fail .mismatched

def recordOf (slots : List Slot) : Reader Json := do
  match ← present with
  | '[' =>
    drop
    let values ← listedFields slots true
    closing ']'
    return .obj values
  | '\x7b' =>
    drop
    let seen ← fields quotedText (recordField slots)
    let values ← expect (arrange seen slots)
    drop
    return .obj values
  | _ => wrongKind

def tupleOf : List (Reader Json) → Bool → Reader (List Json)
  | [], _ => pure []
  | item :: rest, first => do
    if ← hasItem first then
      let value ← item
      return value :: (← tupleOf rest false)
    else fail .mismatched

/-- Values that were read before their kind was known, in the order of the fields. -/
def acceptAll : List (String × Scalar) → List Json → Option (List (String × Json))
  | [], [] => some []
  | (name, kind) :: rest, value :: values => do
    let value ← kind.accept value
    return (name, value) :: (← acceptAll rest values)
  | _, _ => none

def only (seen : List (String × Json)) (name : String) : Option Json :=
  match seen.filter (·.1 = name) with
  | [(_, value)] => some value
  | _ => none

def acceptNamed (kinds : List (String × Scalar)) (seen : List (String × Json)) :
    Option (List (String × Json)) :=
  (kinds.mapM fun kind => only seen kind.1).bind (acceptAll kinds)

def taggedField (tag : String) (names : List String) (depth : Nat) : Field := fun seen field => do
  if field = tag then
    if (seen.lookup tag).isSome then fail .mismatched
    colon
    return seen ++ [(tag, .str (← name names))]
  else anyField (anyValue Leaves.read depth) seen field

def taggedOf (tag : String) (variants : List (String × List (String × Scalar))) (depth : Nat) :
    Reader Json := do
  let names := variants.map Prod.fst
  match ← present with
  | '[' =>
    drop
    unless ← hasItem true do fail .mismatched
    let which ← name names
    let values ← items (anyValue Leaves.read depth) false
    drop
    let values ← expect ((variants.lookup which).bind (acceptAll · values))
    return .obj ((tag, .str which) :: values)
  | '\x7b' =>
    drop
    let seen ← fields quotedText (taggedField tag names depth)
    match ← expect (seen.lookup tag) with
    | .str which =>
      drop
      let values ← expect ((variants.lookup which).bind (acceptNamed · seen))
      return .obj ((tag, .str which) :: values)
    | _ => fail .mismatched
  | _ => wrongKind

end Reader

namespace Shape

open Reader

def omittable : Shape → Bool
  | list _ b => b
  | _ => false

mutual

def reader : Shape → Nat → Reader Json
  | number kind, _ => numberOf kind
  | text, _ => return .str (← Reader.text)
  | choice names, _ => Reader.choice names
  | list item _, depth => do
    if (← present) = '[' then
      drop
      let values ← items (reader item (depth - 1)) true
      drop
      return .arr values
    else wrongKind
  | tuple items, depth => do
    if (← present) = '[' then
      drop
      let values ← tupleOf (readers items (depth - 1)) true
      closing ']'
      return .arr values
    else wrongKind
  | record fields, depth => recordOf (slots fields (depth - 1))
  | tagged tag variants, depth => taggedOf tag variants (depth - 1)

def readers : List Shape → Nat → List (Reader Json)
  | [], _ => []
  | s :: rest, depth => reader s depth :: readers rest depth

def slots : List (String × Shape) → Nat → List Slot
  | [], _ => []
  | (name, s) :: rest, depth => ⟨name, reader s depth, s.omittable⟩ :: slots rest depth

end

def readText (shape : Shape) (text : String) : Except Rejection Json := do
  let (value, s) ← shape.reader depthLimit text.toList
  match ← visible s with
  | (none, _) => pure value
  | (some _, _) => throw .malformed

end Shape

end Jitter.Json

import Jitter.Text.Quoted
import Jitter.Word

/-! What is said against a JSON text, and about which place in it. -/

namespace Jitter.Json

/-- The first line is 1; a complaint about no place has line 0. -/
structure Complaint where
  text : String
  line : Nat
  column : Nat
  deriving DecidableEq, Repr

namespace Complaint

/-- A number at the end of a reversed text, after a word, and what stands before both. -/
def lastNumber (word : String) (s : List Char) : Option (Nat × List Char) :=
  let digits := (s.takeWhile Char.isDigit).reverse
  let before := s.dropWhile Char.isDigit
  let word := word.toList.reverse
  let n : Nat := digits.foldl (fun n c => n * 10 + (c.toNat - '0'.toNat)) 0
  if digits ≠ [] ∧ n < word64 ∧ word.isPrefixOf before then some (n, before.drop word.length)
  else none

def ofText (s : String) : Complaint :=
  match lastNumber " column " s.toList.reverse with
  | none => ⟨s, 0, 0⟩
  | some (column, before) =>
    match lastNumber " at line " before with
    | none => ⟨s, 0, 0⟩
    | some (line, before) => ⟨String.ofList before.reverse, line, column⟩

def message (c : Complaint) : String :=
  if c.line = 0 then c.text
  else c.text ++ " at line " ++ toString c.line ++ " column " ++ toString c.column

def inspected (c : Complaint) : String :=
  "Error(" ++ Text.quoted c.text ++ ", line: " ++ toString c.line ++ ", column: " ++ toString c.column ++ ")"

end Complaint

end Jitter.Json

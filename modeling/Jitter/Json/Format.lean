import Jitter.Json.Shape

/-! Types that are written as JSON and read back. -/

namespace Jitter.Json

structure Format (α : Type) where
  shape : Shape
  encode : α → Json
  decode : Json → Option α

namespace Format

variable {α : Type}

def compact (f : Format α) (a : α) : String := (f.encode a).compact

def pretty (f : Format α) (a : α) : String := (f.encode a).pretty

def read (f : Format α) (text : String) : Except Rejection α := do
  match f.decode (← f.shape.readText text) with
  | some a => pure a
  | none => throw .mismatched

def list (f : Format α) : Format (List α) where
  shape := .list f.shape false
  encode as := .arr (as.map f.encode)
  decode
    | .arr items => items.mapM f.decode
    | _ => none

end Format

def nat64 : Shape := .number (.unsigned word64)

def int64 : Shape := .number .signed

def nat32 : Shape := .number (.unsigned word32)

def toNat? : Json → Option Nat
  | int (.ofNat n) => some n
  | _ => none

def ofNat (n : Nat) : Json := int n

end Jitter.Json

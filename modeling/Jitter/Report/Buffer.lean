import Jitter.Failure
import Jitter.Notice

/-! Text that is written piece by piece into a buffer of limited capacity. -/

namespace Jitter

/-- What is appended in one go, after the notice that it gives. -/
structure Piece where
  text : String
  notice : Option Notice
  deriving DecidableEq, Repr

def Piece.plain (text : String) : Piece := ⟨text, none⟩

/-- Pieces in order, each worked out when its turn comes. -/
abbrev Pieces := List (Except Failure Piece)

structure ReportBuffer where
  text : String
  capacity : Nat
  notices : List Notice
  deriving DecidableEq, Repr

namespace ReportBuffer

/-- In bytes. -/
def standardCapacity : Nat := 65536

def ofCapacity (capacity : Nat) : ReportBuffer := ⟨"", capacity, []⟩

def new : ReportBuffer := ofCapacity standardCapacity

def length (b : ReportBuffer) : Nat := b.text.utf8ByteSize

def clear (b : ReportBuffer) : ReportBuffer := { b with text := "" }

/-- A text that would fill the buffer is left out as a whole. -/
def append (piece : String) : Action ReportBuffer Unit := fun b =>
  let needed := b.length + piece.utf8ByteSize
  if needed < b.capacity then .ok () { b with text := b.text ++ piece }
  else .error (.error (.bufferExhausted b.capacity needed)) b

def notify (n : Notice) : Action ReportBuffer Unit :=
  modify fun b => { b with notices := b.notices ++ [n] }

def appendPiece (piece : Piece) : Action ReportBuffer Unit := do
  piece.notice.forM notify
  append piece.text

/-- Stops at the first piece that fails; those before it stay. -/
def appendAll : Pieces → Action ReportBuffer Unit
  | [] => pure ()
  | piece :: rest => do
    appendPiece (← piece)
    appendAll rest

end ReportBuffer

end Jitter

import Jitter.Program

/-! The command line program on the clock of its host. -/

namespace Jitter

abbrev Process := Void IO.RealWorld

namespace Process

def ofBase {ε α : Type} (act : BaseIO α) : EStateM ε Process α := fun w =>
  match act w with
  | .mk a w => .ok a w

def doing (act : BaseIO Unit) (w : Process) : Process :=
  match act w with
  | .mk _ w => w

def spend : Nat → BaseIO Unit
  | 0 => pure ()
  | n + 1 => do spend n

end Process

def ioError : IO.Error → IoError
  | .alreadyExists _ number text | .otherError number text | .resourceBusy number text
  | .resourceVanished number text | .unsupportedOperation number text | .hardwareFault number text
  | .unsatisfiedConstraints number text | .illegalOperation number text | .protocolError number text
  | .timeExpired number text | .interrupted _ number text | .noFileOrDirectory _ number text
  | .invalidArgument _ number text | .permissionDenied _ number text | .resourceExhausted _ number text
  | .inappropriateType _ number text | .noSuchThing _ number text => .system text number.toNat
  | .unexpectedEof => .denied "unexpected end of file"
  | .userError text => .denied text

/-- Writes a file to the end, so that what does not fit is noticed. -/
def writeFile (file text : String) : IO Unit :=
  IO.FS.withFile file .write fun handle => do
    handle.putStr text
    handle.flush

namespace Process

def write (file text : String) : EStateM IoError Process Unit := fun w =>
  match (writeFile file text).toBaseIO w with
  | .mk (.ok _) w => .ok () w
  | .mk (.error e) w => .error (ioError e) w

/-- A host without a cycle counter, and with no say in the schedule. -/
instance : Host Process where
  monotonic := ofBase (do pure (Int.ofNat (← IO.monoNanosNow)))
  cycles := pure 0
  hasCycleCounter _ := false
  sleep us := doing (IO.sleep (us / 1000).toUInt32)
  idle loops := doing (spend loops)
  pin _ := throw .unsupported
  setFifo _ := throw .unsupported
  write

end Process

def settled {ε α : Type} (act : EStateM ε Process α) : BaseIO (Except ε α) := fun w =>
  match act w with
  | .ok a w => .mk (.ok a) w
  | .error e w => .mk (.error e) w

end Jitter

open Jitter in
def main (args : List String) : IO UInt32 := do
  let outcome ← match ← settled (Program.perform args) with
    | .error outcome =>
      IO.print outcome.stdout
      pure outcome
    | .ok output =>
      IO.print output.text
      pure (output.outcome (← settled output.save))
  IO.eprint outcome.stderr
  return outcome.exit.toUInt32

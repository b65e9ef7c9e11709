import Jitter.Clock.Stepped
import Jitter.Host.Basic
import Jitter.Host.Files

/-! A host that answers as an unprivileged process would see it. -/

namespace Jitter

structure SimulatedHost where
  clock : SteppedClock
  processors : Nat
  /-- The processors that the process may run on. -/
  affinity : List Nat
  files : FileTree
  deriving DecidableEq, Repr

namespace SimulatedHost

def onClock {ε α : Type} (act : EStateM ε SteppedClock α) : EStateM ε SimulatedHost α := fun h =>
  match act h.clock with
  | .ok a clock => .ok a { h with clock }
  | .error e clock => .error e { h with clock }

def isPriority (n : Int) : Bool := 1 ≤ n && n ≤ 99

def write (path text : String) : EStateM IoError SimulatedHost Unit := fun h =>
  match h.files.write path text with
  | .ok files => .ok () { h with files }
  | .error e => .error e h

/-- An empty loop takes a nanosecond. -/
instance : Host SimulatedHost where
  monotonic := onClock Clock.monotonic
  cycles := onClock Clock.cycles
  hasCycleCounter h := Clock.hasCycleCounter h.clock
  sleep us h := { h with clock := Clock.sleep us h.clock }
  idle loops h := { h with clock := h.clock.advance loops }
  pin cpu h :=
    if cpu < h.processors then .ok () { h with affinity := [cpu] } else .error .invalidArgument h
  setFifo priority h :=
    .error (if isPriority priority then IoError.notPermitted else .invalidArgument) h
  write

end SimulatedHost

end Jitter

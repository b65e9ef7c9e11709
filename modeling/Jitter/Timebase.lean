import Jitter.Text.Blank

/-! The instrument that times a run. -/

namespace Jitter

inductive Timebase where
  | cycleCounter
  | monotonicClock
  deriving DecidableEq, Repr

/-- A text that names no timebase, as it was compared. -/
structure UnknownTimebase where
  text : String
  deriving DecidableEq, Repr

def UnknownTimebase.message (e : UnknownTimebase) : String :=
  "unknown timebase '" ++ e.text ++ "' (expected rdtsc|1 or clock|2)"

namespace Timebase

def name : Timebase → String
  | cycleCounter => "cycle-counter"
  | monotonicClock => "monotonic-clock"

def label : Timebase → String
  | cycleCounter => "CycleCounter"
  | monotonicClock => "MonotonicClock"

def aliases : Timebase → List String
  | cycleCounter => ["1", "rdtsc", "cycles", cycleCounter.name]
  | monotonicClock => ["2", "clock", "gettime", "monotonic", monotonicClock.name]

/-- Padding is dropped and ASCII letters are lowered before the comparison. -/
def normalize (s : String) : String :=
  String.ofList ((Text.trim s.toList).map Char.toLower)

def parse (s : String) : Except UnknownTimebase Timebase :=
  let text := normalize s
  if text ∈ cycleCounter.aliases then .ok cycleCounter
  else if text ∈ monotonicClock.aliases then .ok monotonicClock
  else .error ⟨text⟩

end Timebase

end Jitter

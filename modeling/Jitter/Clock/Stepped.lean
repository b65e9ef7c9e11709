import Jitter.Clock.Basic

/-! A clock that advances by a step whenever it is read. -/

namespace Jitter

structure SteppedClock where
  now : Int
  step : Int
  frequency : Nat
  counter : Bool
  reads : Nat
  /-- The last one first. -/
  sleeps : List Nat
  deriving DecidableEq, Repr

namespace SteppedClock

def new (step : Int) (frequency : Nat) : SteppedClock :=
  { now := nanosPerSecond, step, frequency, counter := true, reads := 0, sleeps := [] }

def withoutCycleCounter (step : Int) : SteppedClock :=
  { new step 0 with counter := false }

def advance (ns : Int) (c : SteppedClock) : SteppedClock :=
  { c with now := Signed.wrap (c.now + ns) }

def setStep (step : Int) (c : SteppedClock) : SteppedClock := { c with step }

/-- Time has advanced even when its value can not be told. -/
def tick : EStateM Fault SteppedClock Int := fun c =>
  let after := { advance c.step c with reads := Unsigned.wrap word64 (c.reads + 1) }
  match Signed.add c.now c.step with
  | .ok now => .ok now after
  | .error e => .error e after

/-- The count at a time, with the bits that a counter of 64 bits keeps. -/
def cyclesAt (frequency : Nat) (now : Int) : Checked Nat := do
  let scaled ← Unsigned.mul word128 now.toNat frequency
  pure (scaled / nanosPerSecond % word64)

def counted (c : SteppedClock) (now : Int) : EStateM Fault SteppedClock Nat :=
  match cyclesAt c.frequency now with
  | .ok n => pure n
  | .error e => throw e

def sleep (us : Nat) (c : SteppedClock) : SteppedClock :=
  advance (Signed.saturate (Signed.wrap us * 1000)) { c with sleeps := us :: c.sleeps }

instance : Clock SteppedClock where
  monotonic := tick
  cycles := do
    let now ← tick
    counted (← get) now
  hasCycleCounter c := c.counter
  sleep := sleep
  idle _ := id

end SteppedClock

end Jitter

import Jitter.Clock.Basic

/-! What the instruments cost, and the conversions that this allows. -/

namespace Jitter

abbrev unmeasuredCost : Int := Signed.greatest

abbrev unmeasuredHz : Nat := word64 - 1

def loopUnit : Nat := 1000

/-- Fewer passes than these are worth a notice. -/
def recommendedPasses : Nat := 10

structure Calibration where
  readCost : Int
  cycleReadCost : Int
  hz : Nat
  loopCost : Int
  passes : Nat
  preset : Bool
  deriving DecidableEq, Repr

namespace Calibration

def new : Calibration := ⟨unmeasuredCost, unmeasuredCost, unmeasuredHz, unmeasuredCost, 0, false⟩

def ofMeasurements (readCost cycleReadCost : Int) (hz : Nat) (loopCost : Int) : Calibration :=
  ⟨readCost, cycleReadCost, hz, loopCost, 0, true⟩

def hasFrequency (c : Calibration) : Bool := c.hz != unmeasuredHz && 0 < c.hz

def requireFrequency (c : Calibration) : Except Error Unit :=
  if c.hasFrequency then .ok () else .error (.notCalibrated "cycle counter frequency")

def requireReadCost (c : Calibration) : Except Error Unit :=
  if c.readCost = unmeasuredCost then .error (.notCalibrated "monotonic clock read cost") else .ok ()

def requireCycleReadCost (c : Calibration) : Except Error Unit :=
  if c.cycleReadCost = unmeasuredCost then .error (.notCalibrated "cycle counter read cost")
  else .ok ()

def ensureReady (c : Calibration) (timebase : Timebase) : Except Error Unit := do
  c.requireReadCost
  match timebase with
  | .cycleCounter => do
    c.requireFrequency
    c.requireCycleReadCost
  | .monotonicClock => pure ()

def overhead (c : Calibration) : Timebase → Int
  | .cycleCounter => c.cycleReadCost
  | .monotonicClock => c.readCost

def nanos (c : Calibration) (cycles : Nat) : Checked Int := do
  let scaled ← Unsigned.mul word128 cycles nanosPerSecond
  let ns ← Unsigned.div scaled c.hz
  pure (Signed.saturate ns)

def cyclesToNanos (c : Calibration) (cycles : Nat) : Except Failure Int := do
  c.requireFrequency
  c.nanos cycles

/-- A negative time has no cycles. -/
def nanosToCycles (c : Calibration) (ns : Int) : Except Failure Nat := do
  c.requireFrequency
  let scaled ← Unsigned.mul word128 ns.toNat c.hz
  let cycles ← Unsigned.div scaled nanosPerSecond
  pure (Unsigned.saturate word64 cycles)

/-- A signed word read as an unsigned one of 128 bits. -/
def widened (x : Int) : Nat := (x % (word128 : Int)).toNat

def busyLoopCount (c : Calibration) (wait : Int) : Except Failure Nat := do
  if c.loopCost = unmeasuredCost then throw (.error (.notCalibrated "tight loop cost"))
  if wait ≤ 0 then return 0
  if c.loopCost = 0 then return word64 - 1
  let scaled ← Unsigned.mul word128 wait.toNat loopUnit
  let count ← Unsigned.div scaled (widened c.loopCost)
  pure (Unsigned.saturate word64 count)

end Calibration

end Jitter

import Jitter.Calibration.Basic

/-! Waiting by reading a clock over and over. -/

namespace Jitter.Spin

/-- The time left to wait once the readings at both ends are paid for. -/
def compensated (readCost ns : Int) : Int :=
  max (Signed.saturate (ns - Signed.saturate (readCost * 2))) 0

variable {ω : Type} [Clock ω]

def onMonotonicClock (c : Calibration) (ns : Int) : Action ω Unit := do
  c.requireReadCost
  let now ← Clock.readMonotonic
  let stop := Signed.saturate (now + compensated c.readCost ns)
  unless stop ≤ now do
    Clock.readUntil Clock.readMonotonic (stop ≤ ·) Clock.patience

def onCycleCounter (c : Calibration) (ns : Int) : Action ω Unit := do
  unless Clock.hasCycleCounter (← get) do
    throw (.error (.timebaseUnavailable .cycleCounter))
  let cycles ← c.nanosToCycles ns
  let stop := Unsigned.saturate word64 ((← Clock.readCycles) + cycles)
  Clock.readUntil Clock.readCycles (stop ≤ ·) Clock.patience

/-- Waits for at least `ns` nanoseconds on a timebase; without a read when that is none. -/
def wait (c : Calibration) (timebase : Timebase) (ns : Int) : Action ω Unit := do
  if ns ≤ 0 then return
  match timebase with
  | .cycleCounter => onCycleCounter c ns
  | .monotonicClock => onMonotonicClock c ns

end Jitter.Spin

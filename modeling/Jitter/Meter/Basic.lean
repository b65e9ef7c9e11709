import Jitter.Calibration.Pass
import Jitter.Histogram.Basic
import Jitter.Notice

/-! An instrument with a histogram of what it measured. -/

namespace Jitter

structure Meter (ω : Type) extends Instrument ω where
  histogram : Histogram
  notices : List Notice
  deriving DecidableEq, Repr

namespace Meter

variable {ω : Type}

def new (clock : ω) (width : Nat) : Except Error (Meter ω) := do
  pure { clock, calibration := .new, histogram := ← Histogram.new width, notices := [] }

def withCalibration (calibration : Calibration) (m : Meter ω) : Meter ω := { m with calibration }

def onInstrument {α : Type} (act : Action (Instrument ω) α) : Action (Meter ω) α :=
  act.within toInstrument fun m toInstrument => { m with toInstrument }

def onClock {α : Type} (act : Action ω α) : Action (Meter ω) α :=
  onInstrument (Instrument.onClock act)

def notify (n : Notice) : Action (Meter ω) Unit :=
  modify fun m => { m with notices := m.notices ++ [n] }

def initHistogram (count : Nat) : Action (Meter ω) Unit := do
  let histogram ← (← get).histogram.init count
  modify fun m => { m with histogram }

def record (sample : Nat) : Action (Meter ω) Unit := fun m =>
  match m.histogram.room sample with
  | .ok () => .ok () { m with histogram := m.histogram.insert sample }
  | .error f => .error (.fault f) m

variable [Clock ω]

def calibrate (p : CalibrationPlan) : Action (Meter ω) Unit := onInstrument (Instrument.calibrate p)

def calibratePasses (p : CalibrationPlan) : Action (Meter ω) Unit := do
  p.validate
  repeatedly (onInstrument (Instrument.pass p)) p.passes

end Meter

end Jitter

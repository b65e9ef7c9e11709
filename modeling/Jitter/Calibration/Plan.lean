import Jitter.Calibration.Basic

/-! How a calibration pass is to be made. -/

namespace Jitter

structure CalibrationPlan where
  /-- Readings in a row that price one of them. -/
  reads : Nat
  /-- Nanoseconds over which the cycle counter is compared with the clock. -/
  interval : Int
  /-- Empty loops that are timed. -/
  loops : Nat
  passes : Nat
  deriving DecidableEq, Repr

namespace CalibrationPlan

def standard : CalibrationPlan := ⟨1000, 100000000, loopUnit, recommendedPasses⟩

def quick : CalibrationPlan := { standard with interval := 5000000 }

/-- The first field that is out of range. -/
def complaint (p : CalibrationPlan) : Option String :=
  if p.reads < 100 then some ("clock_reads must be >= 100, got " ++ toString p.reads)
  else if p.interval ≤ 0 then
    some ("frequency_interval_ns must be positive, got " ++ toString p.interval)
  else if p.loops = 0 then some "loop_iterations must be non-zero"
  else if p.passes = 0 then some "passes must be non-zero"
  else none

def validate (p : CalibrationPlan) : Except Error Unit :=
  match p.complaint with
  | some text => .error (.invalidConfig text)
  | none => .ok ()

end CalibrationPlan

end Jitter

import Jitter.Meter.Basic
import Jitter.Meter.Plan

/-! Measurement runs: an operation is timed over and over, and what the reading costs is taken off. -/

namespace Jitter.Meter

variable {ω : Type} [Clock ω]

/-- An operation is what it does to the world that it shares with the clock. -/
abbrev Operation (ω : Type) := ω → ω

def elapsed (op : Operation ω) (c : Calibration) : Timebase → Action ω Int
  | .cycleCounter => do
    let first ← Clock.readCycles
    modify op
    let last ← Clock.readCycles
    c.nanos (last - first)
  | .monotonicClock => do
    let first ← Clock.readMonotonic
    modify op
    let last ← Clock.readMonotonic
    Signed.sub last first

def sampleOf (elapsed overhead : Int) : Nat := (Signed.saturate (elapsed - overhead)).toNat

def pace (c : Calibration) (timebase : Timebase) : Pacing → Action ω Unit
  | .spin ns => Spin.wait c timebase ns
  | .sleep us => modify (Clock.sleep us)

def sample (op : Operation ω) (plan : RunPlan) (c : Calibration) : Action ω Nat := do
  let ns ← elapsed op c plan.timebase
  pace c plan.timebase plan.pacing
  pure (sampleOf ns (c.overhead plan.timebase))

/-- A sample counts once the warmup is over. -/
def turn (op : Operation ω) (plan : RunPlan) (iteration samples : Nat) : Action (Meter ω) Nat := do
  let c := (← get).calibration
  let ns ← onClock (sample op plan c)
  if plan.warmup ≤ iteration then
    record ns
    Unsigned.add word64 samples 1
  else
    pure samples

/-- The turns that remain, from an iteration on, with so many samples before them. -/
def turns (op : Operation ω) (plan : RunPlan) : Nat → Nat → Nat → Action (Meter ω) Nat
  | 0, _, samples => pure samples
  | remaining + 1, iteration, samples => do
    let samples ← turn op plan iteration samples
    turns op plan remaining (iteration + 1) samples

def ensureReady (plan : RunPlan) : Action (Meter ω) Unit := do
  let m ← get
  if plan.timebase = .cycleCounter ∧ ¬Clock.hasCycleCounter m.clock then
    throw (.error (.timebaseUnavailable plan.timebase))
  m.calibration.ensureReady plan.timebase
  unless m.histogram.isSized do
    throw (.error (.invalidConfig "histogram must be initialized before a run"))
  if m.calibration.passes < recommendedPasses ∧ ¬m.calibration.preset then
    notify .fewPasses

def run (plan : RunPlan) (op : Operation ω) : Action (Meter ω) RunStats := do
  ensureReady plan
  let invocations ← plan.iterations
  let samples ← turns op plan invocations 0 0
  pure { invocations, samples }

end Jitter.Meter

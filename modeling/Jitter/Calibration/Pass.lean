import Jitter.Calibration.Plan
import Jitter.Spin

/-! Calibration passes: each measures every cost again and keeps the lower value. -/

namespace Jitter

structure Instrument (ω : Type) where
  clock : ω
  calibration : Calibration
  deriving DecidableEq, Repr

namespace Instrument

variable {ω : Type}

def onClock {α : Type} (act : Action ω α) : Action (Instrument ω) α :=
  act.within clock fun i clock => { i with clock }

def refine (f : Calibration → Calibration) : Action (Instrument ω) Unit :=
  modify fun i => { i with calibration := f i.calibration }

def calibrationNow : Action (Instrument ω) Calibration := return (← get).calibration

/-- The cost of one of `n + 1` readings that took so long together. -/
def perRead (elapsed : Int) (n : Nat) : Checked Int := do
  pure (max (← Signed.div elapsed (n + 1)) 0)

def frequency (cycles : Nat) (wall : Int) : Checked Nat := do
  let scaled ← Unsigned.mul word128 cycles nanosPerSecond
  pure (Unsigned.saturate word64 (← Unsigned.div scaled wall.toNat))

def perLoopUnit (cost : Int) (loops : Nat) : Checked Int := do
  if loops = loopUnit then return cost
  let scaled ← Signed.mulWide cost loopUnit
  pure (Signed.saturate (← Signed.div scaled loops))

variable [Clock ω]

/-- An outcome that does not matter, a fault excepted. -/
def regardless (act : Action ω Unit) : Action ω Unit := fun w =>
  match act w with
  | .error (.error _) w => .ok () w
  | result => result

def measureReadCost (p : CalibrationPlan) : Action (Instrument ω) Unit := do
  let (first, last) ← onClock (Clock.span Clock.readMonotonic p.reads)
  let cost ← perRead (← Signed.sub last first) p.reads
  refine fun c => { c with readCost := min c.readCost cost }

def measureFrequency (p : CalibrationPlan) : Action (Instrument ω) Unit := do
  let c ← calibrationNow
  let firstCycles ← onClock Clock.readCycles
  let firstNs ← onClock Clock.readMonotonic
  onClock (regardless (Spin.wait c .monotonicClock p.interval))
  let lastCycles ← onClock Clock.readCycles
  let lastNs ← onClock Clock.readMonotonic
  let wall ← Signed.sub lastNs firstNs
  if 0 < wall then
    let hz ← frequency (lastCycles - firstCycles) wall
    if 0 < hz then
      refine fun c => { c with hz := min c.hz hz }

def measureCycleReadCost (p : CalibrationPlan) : Action (Instrument ω) Unit := do
  if (← calibrationNow).hasFrequency then
    let (first, last) ← onClock (Clock.span Clock.readCycles p.reads)
    let cost ← (← calibrationNow).nanos ((last - first) / (p.reads + 1))
    refine fun c => { c with cycleReadCost := min c.cycleReadCost cost }

def timeLoopsInCycles (loops : Nat) : Action (Instrument ω) Int := do
  let (first, last) ← onClock (Clock.aroundLoops Clock.readCycles loops)
  let c ← calibrationNow
  pure (Signed.saturate ((← c.nanos (last - first)) - c.cycleReadCost))

def timeLoops (loops : Nat) : Action (Instrument ω) Int := do
  let (first, last) ← onClock (Clock.aroundLoops Clock.readMonotonic loops)
  let elapsed ← Signed.sub last first
  pure (Signed.saturate (elapsed - (← calibrationNow).readCost))

def measureLoopCost (p : CalibrationPlan) : Action (Instrument ω) Unit := do
  let i ← get
  let elapsed ←
    if Clock.hasCycleCounter i.clock && i.calibration.hasFrequency then timeLoopsInCycles p.loops
    else timeLoops p.loops
  let cost ← perLoopUnit (max elapsed 0) p.loops
  refine fun c => { c with loopCost := min c.loopCost cost }

def countPass : Action (Instrument ω) Unit := do
  let passes ← Unsigned.add word32 (← calibrationNow).passes 1
  refine fun c => { c with passes }

def pass (p : CalibrationPlan) : Action (Instrument ω) Unit := do
  measureReadCost p
  if Clock.hasCycleCounter (← get).clock then
    measureFrequency p
    measureCycleReadCost p
  measureLoopCost p
  countPass

/-- One pass; nothing is read by a plan that is not in order. -/
def calibrate (p : CalibrationPlan) : Action (Instrument ω) Unit := do
  p.validate
  pass p

/-- What `act` makes of a calibration that is kept apart from the clock. -/
def apart (act : Action (Instrument ω) Unit) (c : Calibration) : Action ω Calibration := fun w =>
  match act ⟨w, c⟩ with
  | .ok () i => .ok i.calibration i.clock
  | .error e i => .error e i.clock

def refined (p : CalibrationPlan) : Nat → Calibration → Action ω Calibration
  | 0, c => pure c
  | n + 1, c => do
    let c ← apart (pass p) c
    refined p n c

def calibrated (p : CalibrationPlan) : Action ω Calibration := do
  p.validate
  refined p p.passes .new

end Instrument

end Jitter

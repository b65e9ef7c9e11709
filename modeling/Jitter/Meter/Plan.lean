import Jitter.Error
import Jitter.Word

/-! What a measurement run does: how often it times its operation, and what happens in between. -/

namespace Jitter

inductive Pacing where
  /-- So many nanoseconds are spent reading the clock. -/
  | spin (ns : Int)
  /-- The processor is given up for so many microseconds. -/
  | sleep (us : Nat)
  deriving DecidableEq, Repr

/-- A negative pause is slept. -/
def Pacing.ofPause (ns : Int) : Pacing :=
  if 0 ≤ ns then spin ns else sleep (ns.natAbs / 1000)

structure RunPlan where
  /-- Calls whose samples are dropped. -/
  warmup : Nat
  measured : Nat
  pause : Int
  timebase : Timebase
  deriving DecidableEq, Repr

namespace RunPlan

/-- The nanoseconds that a 10 Gbit/s line takes for 98 bytes of framing and a message of 1 KiB. -/
def standardPause : Int := 898

def standard : RunPlan := ⟨500, 1000000, standardPause, .cycleCounter⟩

def pacing (p : RunPlan) : Pacing := .ofPause p.pause

def iterations (p : RunPlan) : Except Error Nat :=
  if p.warmup + p.measured < word64 then .ok (p.warmup + p.measured)
  else .error (.invalidConfig
    ("warmup_count " ++ toString p.warmup ++ " + measured_count " ++ toString p.measured ++
      " overflows"))

end RunPlan

structure RunStats where
  invocations : Nat
  samples : Nat
  deriving DecidableEq, Repr

end Jitter

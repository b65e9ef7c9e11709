import Jitter.Proofs.Effects
import Jitter.Spin

/-! What a wait comes down to on each instrument. -/

namespace Jitter.Spin

theorem compensated_natCast (cost : Nat) {ns : Int} (fits : Signed.Fits ns) :
    compensated cost ns = (ns.toNat - 2 * cost : Nat) := by
  simp only [compensated, Signed.saturate, Signed.Fits, Signed.least, Signed.greatest] at *
  omega

variable {ω : Type} [Clock ω]

theorem wait_of_nonpos {c : Calibration} {timebase : Timebase} {ns : Int} (none : ns ≤ 0) (w : ω) :
    wait c timebase ns w = .ok () w := by
  simp [wait, none]

theorem wait_monotonicClock {c : Calibration} {ns : Int} (some : 0 < ns) (w : ω) :
    wait c .monotonicClock ns w = onMonotonicClock c ns w := by
  simp [wait, Int.not_le.mpr some]

theorem wait_cycleCounter {c : Calibration} {ns : Int} (some : 0 < ns) (w : ω) :
    wait c .cycleCounter ns w = onCycleCounter c ns w := by
  simp [wait, Int.not_le.mpr some]

theorem wait_of_unmeasured {c : Calibration} {ns : Int} {why : Error}
    (unknown : c.requireReadCost = .error why) (some : 0 < ns) (w : ω) :
    wait c .monotonicClock ns w = .error (.error why) w := by
  rw [wait_monotonicClock some, onMonotonicClock, unknown]
  rfl

def countUp (c : Calibration) (ns : Int) : Action ω Unit := do
  let cycles ← c.nanosToCycles ns
  let entry ← Clock.readCycles
  let stop := Unsigned.saturate word64 (entry + cycles)
  Clock.readUntil Clock.readCycles (stop ≤ ·) Clock.patience

theorem onCycleCounter_of_counter {c : Calibration} {ns : Int} {w : ω}
    (there : Clock.hasCycleCounter w) : onCycleCounter c ns w = countUp c ns w := by
  simp only [onCycleCounter, run_get_bind, if_pos there]
  rfl

theorem onCycleCounter_of_none {c : Calibration} {ns : Int} {w : ω}
    (missing : ¬Clock.hasCycleCounter w) :
    onCycleCounter c ns w = .error (.error (.timebaseUnavailable .cycleCounter)) w := by
  simp only [onCycleCounter, run_get_bind, if_neg missing, run_throw_bind]

end Jitter.Spin

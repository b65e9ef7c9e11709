import Jitter.Clock.Stepped
import Jitter.Proofs.ForwardRuns
import Jitter.Proofs.ReportRanges

/-! Nothing overflows and nothing is divided by zero on a clock that does not run backward, whatever
its counter shows and whatever was known before. -/

namespace Jitter

/-- Conversions have their exact values, or the nearest at the end of a word, unless what they need was
never measured. -/
structure Calibration.Saturating (c : Calibration) : Prop where
  cyclesToNanos : ∀ cycles < word64, c.cyclesToNanos cycles =
    if c.hasFrequency then .ok (min ((cycles * nanosPerSecond / c.hz : Nat) : Int) Signed.greatest)
    else .error (.error (.notCalibrated "cycle counter frequency"))
  nanosToCycles : ∀ ns, Signed.Fits ns → c.nanosToCycles ns =
    if c.hasFrequency then .ok (min (ns.toNat * c.hz / nanosPerSecond) (word64 - 1))
    else .error (.error (.notCalibrated "cycle counter frequency"))
  busyLoopCount : ∀ ns, Signed.Fits ns → c.busyLoopCount ns =
    if c.loopCost = unmeasuredCost then .error (.error (.notCalibrated "tight loop cost"))
    else if ns ≤ 0 then .ok 0
    else if c.loopCost = 0 then .ok (word64 - 1)
    else .ok (min (ns.toNat * loopUnit / widened c.loopCost) (word64 - 1))
  frequency : ∀ cycles < word64, ∀ wall : Int, 0 < wall → Instrument.frequency cycles wall =
    .ok (min (cycles * nanosPerSecond / wall.toNat) (word64 - 1))
  perLoopUnit : ∀ cost loops : Nat, cost ≤ Signed.greatest → loops ≠ 0 →
    Instrument.perLoopUnit cost loops =
      .ok (min ((cost * loopUnit / loops : Nat) : Int) Signed.greatest)

theorem Calibration.InRange.saturating {c : Calibration} (ranged : c.InRange) : c.Saturating where
  cyclesToNanos _ word := cyclesToNanos_eq word
  nanosToCycles _ fits := nanosToCycles_eq ranged.hz fits.2
  busyLoopCount _ fits := busyLoopCount_eq ranged.loopCost fits.2
  frequency _ word _ positive := Instrument.frequency_eq word positive
  perLoopUnit _ _ fits some := Instrument.perLoopUnit_natCast fits some

namespace Meter

variable {ω : Type} [Clock ω] {past : Int → ω → Prop} {own : Fault → ω → Prop} {t : Int}
  {m : Meter ω}

/-- Any calibration, on a clock that does not run backward: a pass, a wait and a turn of a run have no
faults but those of the clock itself, a wait without end apart, and a run has no others than its
histogram without room. All conversions saturate. -/
theorem faults_are_the_clocks (forward : Forward ω past own) (here : past t m.clock) (nonneg : 0 ≤ t)
    (ranged : m.calibration.InRange) :
    (∀ p : CalibrationPlan, p.validate = .ok () → m.calibration.passes + 1 < word32 →
      ∀ f i', Instrument.calibrate p m.toInstrument = .error (.fault f) i' →
        f = .stalled ∨ own f i'.clock) ∧
    (∀ timebase ns, Signed.Fits ns →
      ∀ f w', Spin.wait m.calibration timebase ns m.clock = .error (.fault f) w' →
        f = .stalled ∨ own f w') ∧
    (∀ plan op, Signed.Fits plan.pause → Onward past op plan →
      (m.calibration.ensureReady plan.timebase = .ok () → ∀ t w, 0 ≤ t → past t w →
        ∀ f w', sample op plan m.calibration w = .error (.fault f) w' →
          f = .stalled ∨ own f w') ∧
      ∀ f m', run plan op m = .error (.fault f) m' →
        f = .stalled ∨ own f m'.clock ∨ ∃ sample, m'.histogram.room sample = .error f) ∧
    m.calibration.Saturating := by
  refine ⟨?_, ?_, ?_, ranged.saturating⟩
  · intro p valid few f i' broke
    have aged : Instrument.Aged past m.calibration.passes m.toInstrument := ⟨rfl, t, nonneg, here⟩
    exact ((Instrument.calibrate_aged forward aged valid few).of_error broke).fault
  · intro timebase ns fits f w' broke
    have excused := Ends.of_error (Lasts.wait forward here ranged.hz fits.2 timebase) broke
    exact excused.fault
  · intro plan op pause onward
    constructor
    · intro ready t' w later there f w' broke
      have known := Calibration.hasFrequency_of_ready (Calibration.ensureReady_eq_ok.mp ready)
      have excused := Ends.of_error
        (sample_lasts forward onward there later ranged.hz pause known) broke
      exact excused.fault
    · intro f m' broke
      have underway : Underway past m.calibration m := ⟨rfl, t, nonneg, here⟩
      rcases (run_ends forward onward ranged.hz pause underway).of_error broke with excused | full
      · rcases excused.fault with stalled | clock
        · exact .inl stalled
        · exact .inr (.inl clock)
      · rcases full with ⟨_, sample, ⟨⟩, full⟩
        exact .inr (.inr ⟨sample, full⟩)

end Meter

namespace SteppedClock

structure Past (t : Int) (c : SteppedClock) : Prop where
  le_now : t ≤ c.now
  now_fits : Signed.Fits c.now
  step_nonneg : 0 ≤ c.step
  step_le : c.step ≤ Signed.greatest
  frequency_lt : c.frequency < word64

/-- The time of a stepped clock has come to its end, and goes on before zero. -/
def Overrun (f : Fault) (c : SteppedClock) : Prop := f = .addOverflow ∧ c.now < 0

variable {t : Int} {c : SteppedClock}

theorem Past.tick (past : Past t c) :
    Ends tick c (fun ns c' => t ≤ ns ∧ ns ≤ Signed.greatest ∧ Past ns c') Overrun := by
  have later := past.step_nonneg
  by_cases told : Signed.Fits (c.now + c.step)
  · have moved : Signed.wrap (c.now + c.step) = c.now + c.step := if_pos told
    simp only [Ends, SteppedClock.tick, Signed.add, if_pos told]
    refine ⟨Int.le_trans past.le_now (by omega), told.2, ?_, ?_, past.step_nonneg, past.step_le,
      past.frequency_lt⟩
    · exact Int.le_of_eq moved.symm
    · change Signed.Fits (Signed.wrap (c.now + c.step))
      rwa [moved]
  · simp only [Ends, SteppedClock.tick, Signed.add, if_neg told]
    refine ⟨rfl, ?_⟩
    change Signed.wrap (c.now + c.step) < 0
    have now := past.now_fits
    have short := past.step_le
    rw [Signed.wrap, if_neg told, Int.bmod_def]
    simp only [Signed.Fits, Signed.least, Signed.greatest, word64] at *
    split
    · omega
    · omega

theorem Past.counted (past : Past t c) {now : Int} (word : now ≤ Signed.greatest) :
    ∃ n, cyclesAt c.frequency now = .ok n ∧ n < word64 := by
  have scaled := Signed.toNat_mul_lt word past.frequency_lt
  exact ⟨_, except_bind_eq_ok.mpr ⟨_, Unsigned.mul_of_lt scaled, rfl⟩, Nat.mod_lt _ (by decide)⟩

theorem forward : Forward SteppedClock Past Overrun where
  monotonic past := past.tick
  cycles := by
    intro t c past
    apply past.tick.bind
    intro now c' told
    apply Ends.get_bind
    rcases told.2.2.counted told.2.1 with ⟨n, counted, word⟩
    rw [SteppedClock.counted, counted]
    exact ⟨word, Int.le_trans told.1 told.2.2.le_now, told.2.2.now_fits, told.2.2.step_nonneg,
      told.2.2.step_le, told.2.2.frequency_lt⟩
  idle _ past := past

end SteppedClock

/-- With half a second between readings and a counter that begins again every two seconds, and with
costs below zero. -/
theorem Meter.wrapping_counter_has_no_fault :
    ∃ m : Meter SteppedClock, m.clock = .new 500000000 9223372036854775808 ∧
      m.calibration = ⟨-5, -7, 3, -2, 0, true⟩ ∧
      (∀ f i', Instrument.calibrate ⟨100, 300, 1000, 1⟩ m.toInstrument = .error (.fault f) i' →
        f = .stalled ∨ SteppedClock.Overrun f i'.clock) ∧
      (∀ f w', Spin.wait m.calibration .cycleCounter 35 m.clock = .error (.fault f) w' →
        f = .stalled ∨ SteppedClock.Overrun f w') ∧
      (∀ f m', run ⟨1, 2, 35, .monotonicClock⟩ id m = .error (.fault f) m' →
        f = .stalled ∨ SteppedClock.Overrun f m'.clock ∨
          ∃ sample, m'.histogram.room sample = .error f) ∧
      m.calibration.cyclesToNanos (word64 - 1) = .ok Signed.greatest := by
  let m : Meter SteppedClock :=
    { clock := .new 500000000 9223372036854775808, calibration := ⟨-5, -7, 3, -2, 0, true⟩
      histogram := .blank 50 (by decide) (Array.replicate 10 0), notices := [] }
  have past : SteppedClock.Past 1000000000 m.clock :=
    ⟨Int.le_refl _, by decide, by decide, by decide, by decide⟩
  have ranged : m.calibration.InRange := ⟨by decide, by decide, by decide, by decide, by decide⟩
  have onward : Onward SteppedClock.Past id ⟨1, 2, 35, .monotonicClock⟩ :=
    ⟨id, fun slept => absurd slept (by decide)⟩
  rcases faults_are_the_clocks SteppedClock.forward past (by decide) ranged with
    ⟨passes, waits, runs, saturating⟩
  refine ⟨m, rfl, rfl, passes _ rfl (by decide), waits _ _ (by decide),
    (runs _ _ (by decide) onward).2, ?_⟩
  rw [saturating.cyclesToNanos _ (by decide)]
  decide

end Jitter

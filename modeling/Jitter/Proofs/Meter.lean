import Jitter.Proofs.TurnLoops

/-! What an operation on a part of a meter does to the whole of it. -/

namespace Jitter.Meter

variable {ω α : Type} {act : Action ω α} {m m' : Meter ω} {a : α} {w : ω} {e : Failure}

theorem onInstrument_of_ok {act : Action (Instrument ω) α} {i : Instrument ω}
    (ran : act m.toInstrument = .ok a i) :
    onInstrument act m = .ok a { m with toInstrument := i } := by
  simp only [onInstrument, Action.within, ran]

theorem onClock_of_ok (ran : act m.clock = .ok a w) :
    onClock act m = .ok a { m with clock := w } := by
  simp only [onClock, onInstrument, Instrument.onClock, Action.within, ran]

theorem onClock_of_error (broke : act m.clock = .error e w) :
    onClock act m = .error e { m with clock := w } := by
  simp only [onClock, onInstrument, Instrument.onClock, Action.within, broke]

theorem onClock_eq_ok :
    onClock act m = .ok a m' ↔ ∃ w, act m.clock = .ok a w ∧ m' = { m with clock := w } := by
  cases ran : act m.clock with
  | ok b w =>
      rw [onClock_of_ok ran]
      constructor
      · intro ended
        cases ended
        exact ⟨w, rfl, rfl⟩
      · intro ended
        rcases ended with ⟨_, ⟨⟩, rfl⟩
        rfl
  | error e w => simp [onClock_of_error ran]

variable {sample : Nat}

theorem record_of_ok {h : Histogram} (taken : m.histogram.accumulate sample = .ok h) :
    record sample m = .ok () { m with histogram := h } := by
  simp only [Histogram.accumulate] at taken
  simp only [record]
  cases room : m.histogram.room sample with
  | error f => simp [room] at taken
  | ok _ =>
      simp only [room, Except.ok.injEq] at taken
      simp only [taken]

theorem record_of_error {f : Fault}
    (full : m.histogram.accumulate sample = .error f) :
    record sample m = .error (.fault f) m := by
  simp only [Histogram.accumulate] at full
  simp only [record]
  cases room : m.histogram.room sample with
  | ok _ => simp [room] at full
  | error g =>
      simp only [room, Except.error.injEq] at full
      rw [full]

theorem record_eq_ok :
    record sample m = .ok () m' ↔
      ∃ h, m.histogram.accumulate sample = .ok h ∧ m' = { m with histogram := h } := by
  simp only [record, Histogram.accumulate]
  cases m.histogram.room sample with
  | ok _ => simp [eq_comm]
  | error f => simp

variable [Clock ω] {op : Operation ω} {plan : RunPlan}

theorem discardOne_eq_ok :
    discardOne op plan m = .ok () m' ↔
      ∃ x w, Meter.sample op plan m.calibration m.clock = .ok x w ∧ m' = { m with clock := w } := by
  simp only [discardOne]
  rw [run_get_bind, bind_eq_ok]
  constructor
  · intro ended
    rcases ended with ⟨x, _, sampled, ⟨⟩⟩
    exact ⟨x, onClock_eq_ok.mp sampled⟩
  · intro ended
    rcases ended with ⟨x, sampled⟩
    exact ⟨x, m', onClock_eq_ok.mpr sampled, rfl⟩

theorem recordOne_eq_ok :
    recordOne op plan m = .ok () m' ↔
      ∃ x w h, Meter.sample op plan m.calibration m.clock = .ok x w ∧
        m.histogram.accumulate x = .ok h ∧ m' = { m with clock := w, histogram := h } := by
  simp only [recordOne]
  rw [run_get_bind, bind_eq_ok]
  constructor
  · intro ended
    rcases ended with ⟨x, _, sampled, recorded⟩
    rcases onClock_eq_ok.mp sampled with ⟨w, timed, rfl⟩
    rcases record_eq_ok.mp recorded with ⟨h, taken, rfl⟩
    exact ⟨x, w, h, timed, taken, rfl⟩
  · intro ended
    rcases ended with ⟨x, w, h, timed, taken, rfl⟩
    exact ⟨x, _, onClock_of_ok timed, record_of_ok taken⟩

theorem discardOne_of_error (broke : Meter.sample op plan m.calibration m.clock = .error e w) :
    discardOne op plan m = .error e { m with clock := w } := by
  rw [discardOne, run_get_bind, bind_of_error (onClock_of_error broke)]

theorem recordOne_of_error (broke : Meter.sample op plan m.calibration m.clock = .error e w) :
    recordOne op plan m = .error e { m with clock := w } := by
  rw [recordOne, run_get_bind, bind_of_error (onClock_of_error broke)]

theorem recordOne_of_full {f : Fault}
    (sampled : Meter.sample op plan m.calibration m.clock = .ok sample w)
    (full : m.histogram.accumulate sample = .error f) :
    recordOne op plan m = .error (.fault f) { m with clock := w } := by
  rw [recordOne, run_get_bind, bind_of_ok (onClock_of_ok sampled)]
  exact record_of_error full

end Jitter.Meter

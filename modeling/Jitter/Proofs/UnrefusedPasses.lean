import Jitter.Proofs.PassLoops
import Jitter.Proofs.Refusal

/-! A calibration is refused for its plan alone, and then nothing has been done. -/

namespace Jitter

namespace Unrefused

section

variable {σ τ α : Type}

theorem within {act : Action σ α} (clear : Unrefused (fun _ => True) act) (part : τ → σ)
    (put : τ → σ → τ) : Unrefused (fun _ => True) (act.within part put) := by
  refine fun t _ => ⟨fun _ _ _ => trivial, fun e t' broke => ?_⟩
  cases ran : act (part t) with
  | ok a s =>
      rw [Action.within_of_ok ran] at broke
      cases broke
  | error e s =>
      rw [Action.within_of_error ran] at broke
      cases broke
      exact (clear (part t) trivial).2 _ _ ran

theorem get_bind {P : σ → Prop} {next : σ → Action σ α} (rest : ∀ s, Unrefused P (next s)) :
    Unrefused P (get >>= next) := fun s holds => rest s s holds

theorem regardless (act : Action σ Unit) : Unrefused (fun _ => True) (Instrument.regardless act) := by
  refine fun w _ => ⟨fun _ _ _ => trivial, fun e w' broke => ?_⟩
  rw [Instrument.regardless] at broke
  cases ran : act w with
  | ok _ w₁ =>
      rw [ran] at broke
      cases broke
  | error e w₁ =>
      rw [ran] at broke
      cases e with
      | error e => cases broke
      | fault f => cases broke

theorem span {P : σ → Prop} {read : Action σ α} (one : Unrefused P read) (n : Nat) :
    Unrefused P (Clock.span read n) := by
  have again : ∀ last, Unrefused P (Clock.span.again read n last) := by
    induction n with
    | zero => exact .pure
    | succ n ih => exact fun _ => one.bind ih
  exact one.bind fun first => (again first).bind fun _ => .pure _

end

variable {ω α : Type} [Clock ω]

theorem aroundLoops {read : Action ω α} (one : Unrefused (fun _ => True) read) (loops : Nat) :
    Unrefused (fun _ => True) (Clock.aroundLoops read loops) :=
  one.bind fun _ => (modify fun _ _ => trivial).bind fun _ => one.bind fun _ => .pure _

theorem readMonotonic : Unrefused (fun _ : ω => True) Clock.readMonotonic :=
  .ofFaulty fun _ _ _ _ _ => trivial

theorem readCycles : Unrefused (fun _ : ω => True) Clock.readCycles :=
  .ofFaulty fun _ _ _ _ _ => trivial

end Unrefused

namespace Instrument

variable {ω α : Type} {p : CalibrationPlan}

theorem onClock_unrefused {act : Action ω α} (clear : Unrefused (fun _ => True) act) :
    Unrefused (fun _ : Instrument ω => True) (onClock act) := clear.within _ _

theorem refine_unrefused (f : Calibration → Calibration) :
    Unrefused (fun _ : Instrument ω => True) (refine f) := .modify fun _ _ => trivial

theorem calibrationNow_unrefused :
    Unrefused (fun _ : Instrument ω => True) calibrationNow := .get_bind fun _ => .pure _

variable [Clock ω]

theorem measureReadCost_unrefused :
    Unrefused (fun _ : Instrument ω => True) (measureReadCost p) :=
  (onClock_unrefused (Unrefused.readMonotonic.span _)).bind fun _ => (Unrefused.checked _).bind
    fun _ => (Unrefused.checked _).bind fun _ => refine_unrefused _

theorem measureFrequency_unrefused :
    Unrefused (fun _ : Instrument ω => True) (measureFrequency p) := by
  have cycles := onClock_unrefused (Unrefused.readCycles (ω := ω))
  have monotonic := onClock_unrefused (Unrefused.readMonotonic (ω := ω))
  refine calibrationNow_unrefused.bind fun c => cycles.bind fun _ => monotonic.bind fun _ =>
    (onClock_unrefused (.regardless _)).bind fun _ => cycles.bind fun _ => monotonic.bind fun _ =>
      (Unrefused.checked _).bind fun wall => ?_
  split
  · refine (Unrefused.checked _).bind fun hz => ?_
    split
    · exact refine_unrefused _
    · exact .pure ()
  · exact .pure ()

theorem measureCycleReadCost_unrefused :
    Unrefused (fun _ : Instrument ω => True) (measureCycleReadCost p) := by
  refine calibrationNow_unrefused.bind fun c => ?_
  split
  · exact (onClock_unrefused (Unrefused.readCycles.span _)).bind fun _ =>
      calibrationNow_unrefused.bind fun _ => (Unrefused.checked _).bind fun _ => refine_unrefused _
  · exact .pure ()

theorem measureLoopCost_unrefused :
    Unrefused (fun _ : Instrument ω => True) (measureLoopCost p) := by
  have inCycles : Unrefused (fun _ : Instrument ω => True) (timeLoopsInCycles p.loops) :=
    (onClock_unrefused (Unrefused.readCycles.aroundLoops _)).bind fun _ =>
      calibrationNow_unrefused.bind fun _ => (Unrefused.checked _).bind fun _ => .pure _
  have onTheClock : Unrefused (fun _ : Instrument ω => True) (timeLoops p.loops) :=
    (onClock_unrefused (Unrefused.readMonotonic.aroundLoops _)).bind fun _ =>
      (Unrefused.checked _).bind fun _ => calibrationNow_unrefused.bind fun _ => .pure _
  refine .get_bind fun i => ?_
  dsimp only
  split
  · exact inCycles.bind fun _ => (Unrefused.checked _).bind fun _ => refine_unrefused _
  · exact onTheClock.bind fun _ => (Unrefused.checked _).bind fun _ => refine_unrefused _

theorem pass_unrefused (p : CalibrationPlan) :
    Unrefused (fun _ : Instrument ω => True) (pass p) := by
  have counted : Unrefused (fun _ : Instrument ω => True) countPass :=
    calibrationNow_unrefused.bind fun _ => (Unrefused.checked _).bind fun _ => refine_unrefused _
  have last := (measureLoopCost_unrefused (p := p)).bind fun _ => counted
  refine measureReadCost_unrefused.bind fun _ => .get_bind fun i => ?_
  split
  · exact measureFrequency_unrefused.bind fun _ => measureCycleReadCost_unrefused.bind fun _ => last
  · exact last

variable {act : Action (Instrument ω) Unit} {i i' : Instrument ω} {e : Error}

omit [Clock ω] in
theorem eq_of_validate_refused (clear : Unrefused (fun _ => True) act)
    (broke : ((liftM p.validate : Action (Instrument ω) Unit) >>= fun _ => act) i =
      .error (.error e) i') : i' = i := by
  rcases bind_eq_error.mp broke with checked | ⟨_, i₁, _, later⟩
  · cases valid : p.validate with
    | ok _ =>
        rw [valid] at checked
        cases checked
    | error why =>
        rw [valid] at checked
        cases checked
        rfl
  · exact absurd later ((clear i₁ trivial).2 e i')

theorem calibrate_refused_eq (broke : calibrate p i = .error (.error e) i') : i' = i :=
  eq_of_validate_refused (pass_unrefused p) broke

theorem calibratePasses_refused_eq (broke : calibratePasses p i = .error (.error e) i') : i' = i :=
  eq_of_validate_refused ((pass_unrefused p).repeatedly p.passes) broke

end Instrument

theorem Meter.onInstrument_refused_eq {ω : Type} {act : Action (Instrument ω) Unit}
    (unchanged : ∀ {i i' : Instrument ω} {e : Error}, act i = .error (.error e) i' → i' = i)
    {m m' : Meter ω} {e : Error} (broke : onInstrument act m = .error (.error e) m') : m' = m := by
  cases ran : act m.toInstrument with
  | ok _ i =>
      rw [onInstrument_of_ok ran] at broke
      cases broke
  | error e i =>
      rw [onInstrument, Action.within_of_error ran] at broke
      cases broke
      rw [unchanged ran]

end Jitter

import Jitter.Host.Simulated
import Jitter.Program
import Jitter.Proofs.Effects
import Jitter.Proofs.Readiness

/-! What operations leave as it was: whatever the instruments, the processor and the schedule have nothing to
do with is the same after a measurement, also after one that broke off. -/

namespace Jitter

/-- What `view` shows is the same after `act`, whatever becomes of it. -/
def Keeps {ε σ α β : Type} (view : σ → β) (act : EStateM ε σ α) : Prop :=
  ∀ s, view (remains (act s)) = view s

namespace Keeps

section

variable {ε σ α β γ : Type} {view : σ → γ} {act : EStateM ε σ α} {next : α → EStateM ε σ β}

theorem pure (a : α) : Keeps view (pure a : EStateM ε σ α) := fun _ => rfl

theorem throw (e : ε) : Keeps view (throw e : EStateM ε σ α) := fun _ => rfl

theorem modify {f : σ → σ} (same : ∀ s, view (f s) = view s) :
    Keeps view (modify f : EStateM ε σ Unit) := same

theorem bind (first : Keeps view act) (rest : ∀ a, Keeps view (next a)) : Keeps view (act >>= next) := by
  intro s
  have now := first s
  cases ran : act s with
  | ok a s' =>
      rw [ran] at now
      rw [bind_of_ok ran]
      exact (rest a s').trans now
  | error e s' =>
      rw [ran] at now
      rw [bind_of_error ran]
      exact now

theorem get_bind {next : σ → EStateM ε σ β} (rest : ∀ s, Keeps view (next s)) :
    Keeps view (get >>= next) := fun s => rest s s

theorem comp {δ : Type} (kept : Keeps view act) (f : γ → δ) : Keeps (fun s => f (view s)) act :=
  fun s => congrArg f (kept s)

theorem repeatedly {act : EStateM ε σ Unit} (one : Keeps view act) (n : Nat) :
    Keeps view (repeatedly act n) := by
  induction n with
  | zero => exact pure ()
  | succ n ih => exact one.bind fun _ => ih

end

section

variable {σ τ α β γ : Type} {view : σ → γ}

theorem refusal (x : Except Error α) : Keeps view (liftM x : Action σ α) := by
  cases x with
  | ok a => exact pure a
  | error e => exact throw _

theorem checked (x : Checked α) : Keeps view (liftM x : Action σ α) := by
  cases x with
  | ok a => exact pure a
  | error f => exact throw _

theorem except (x : Except Failure α) : Keeps view (liftM x : Action σ α) := by
  cases x with
  | ok a => exact pure a
  | error e => exact throw _

theorem ofFaulty {act : EStateM Fault σ α} (kept : Keeps view act) :
    Keeps view (Action.ofFaulty act) := by
  intro s
  have now := kept s
  simp only [Action.ofFaulty]
  cases ran : act s with
  | ok a s' =>
      rw [ran] at now
      exact now
  | error f s' =>
      rw [ran] at now
      exact now

theorem within {part : τ → σ} {put : τ → σ → τ} {act : Action σ α} (kept : Keeps view act)
    (last : ∀ t s, part (put t s) = s) : Keeps (view ∘ part) (act.within part put) := by
  intro t
  have now := kept (part t)
  simp only [Action.within, Function.comp_apply]
  cases ran : act (part t) with
  | ok a s =>
      rw [ran] at now
      simpa [remains, last] using now
  | error e s =>
      rw [ran] at now
      simpa [remains, last] using now

theorem within_hidden {view : τ → γ} {part : τ → σ} {put : τ → σ → τ} (act : Action σ α)
    (hidden : ∀ t s, view (put t s) = view t) : Keeps view (act.within part put) := by
  intro t
  simp only [Action.within]
  cases act (part t) with
  | ok a s => exact hidden t s
  | error e s => exact hidden t s

theorem readUntil {read : Action σ α} (one : Keeps view read) (late : α → Bool) (fuel : Nat) :
    Keeps view (Clock.readUntil read late fuel) := by
  induction fuel with
  | zero => exact throw _
  | succ fuel ih =>
      refine one.bind fun now => ?_
      by_cases arrived : late now
      · rw [if_pos arrived]
        exact pure ()
      · rw [if_neg arrived]
        exact ih

theorem span {read : Action σ α} (one : Keeps view read) (n : Nat) :
    Keeps view (Clock.span read n) := by
  have again : ∀ n last, Keeps view (Clock.span.again read n last) := by
    intro n
    induction n with
    | zero => exact fun last => pure last
    | succ n ih => exact fun last => one.bind ih
  exact one.bind fun first => (again n first).bind fun last => pure _

end

end Keeps

/-- Neither reading the instruments nor spending time changes what `view` shows. -/
structure Clock.Spares {ω γ : Type} [Clock ω] (view : ω → γ) : Prop where
  monotonic : Keeps view (Clock.monotonic (ω := ω))
  cycles : Keeps view (Clock.cycles (ω := ω))
  sleep : ∀ us w, view (Clock.sleep us w) = view w
  idle : ∀ loops w, view (Clock.idle loops w) = view w

structure Host.Spares {ω γ : Type} [Host ω] (view : ω → γ) : Prop extends Clock.Spares view where
  pin : ∀ cpu, Keeps view (Host.pin (ω := ω) cpu)
  setFifo : ∀ priority, Keeps view (Host.setFifo (ω := ω) priority)

namespace Clock.Spares

variable {ω γ : Type} [Clock ω] {view : ω → γ}

theorem readMonotonic (spared : Spares view) : Keeps view (readMonotonic (ω := ω)) :=
  .ofFaulty spared.monotonic

theorem readCycles (spared : Spares view) : Keeps view (readCycles (ω := ω)) :=
  .ofFaulty spared.cycles

theorem aroundLoops {α : Type} {read : Action ω α} (spared : Spares view) (one : Keeps view read)
    (loops : Nat) : Keeps view (aroundLoops read loops) :=
  one.bind fun _ => (Keeps.modify (spared.idle loops)).bind fun _ => one.bind fun _ => .pure _

theorem onMonotonicClock (spared : Spares view) (c : Calibration) (ns : Int) :
    Keeps view (Spin.onMonotonicClock c ns : Action ω Unit) := by
  refine (Keeps.refusal _).bind fun _ => spared.readMonotonic.bind fun now => ?_
  by_cases arrived : Signed.saturate (now + Spin.compensated c.readCost ns) ≤ now
  · simp only [if_pos arrived]
    exact .pure ()
  · simp only [if_neg arrived]
    exact spared.readMonotonic.readUntil _ _

theorem onCycleCounter (spared : Spares view) (c : Calibration) (ns : Int) :
    Keeps view (Spin.onCycleCounter c ns : Action ω Unit) := by
  refine .get_bind fun w => ?_
  have counting : Keeps view (do
      let cycles ← c.nanosToCycles ns
      let stop := Unsigned.saturate word64 ((← Clock.readCycles) + cycles)
      Clock.readUntil Clock.readCycles (stop ≤ ·) Clock.patience : Action ω Unit) :=
    (Keeps.except _).bind fun _ => spared.readCycles.bind fun _ => spared.readCycles.readUntil _ _
  split
  · exact counting
  · exact .throw _

theorem wait (spared : Spares view) (c : Calibration) (timebase : Timebase) (ns : Int) :
    Keeps view (Spin.wait c timebase ns : Action ω Unit) := by
  simp only [Spin.wait]
  split
  · exact .pure ()
  · cases timebase with
    | cycleCounter => exact spared.onCycleCounter c ns
    | monotonicClock => exact spared.onMonotonicClock c ns

end Clock.Spares

namespace Instrument

variable {ω γ : Type} {view : ω → γ}

theorem onClock_keeps {α : Type} {act : Action ω α} (kept : Keeps view act) :
    Keeps (fun i : Instrument ω => view i.clock) (onClock act) :=
  kept.within fun _ _ => rfl

theorem refine_keeps (f : Calibration → Calibration) :
    Keeps (fun i : Instrument ω => view i.clock) (refine f) := .modify fun _ => rfl

theorem regardless_keeps {act : Action ω Unit} (kept : Keeps view act) :
    Keeps view (regardless act) := by
  intro w
  have now := kept w
  simp only [regardless]
  cases ran : act w with
  | ok a w' =>
      rw [ran] at now
      exact now
  | error e w' =>
      rw [ran] at now
      cases e with
      | error e => exact now
      | fault f => exact now

variable [Clock ω] (spared : Clock.Spares view) (p : CalibrationPlan)
include spared

theorem measureReadCost_keeps : Keeps (fun i : Instrument ω => view i.clock) (measureReadCost p) :=
  (onClock_keeps (spared.readMonotonic.span p.reads)).bind fun _ => (Keeps.checked _).bind fun _ =>
    (Keeps.checked _).bind fun _ => refine_keeps _

theorem measureFrequency_keeps :
    Keeps (fun i : Instrument ω => view i.clock) (measureFrequency p) := by
  have cycles := onClock_keeps spared.readCycles
  have monotonic := onClock_keeps spared.readMonotonic
  refine .get_bind fun i => cycles.bind fun _ => monotonic.bind fun _ =>
    (onClock_keeps (regardless_keeps (spared.wait _ _ _))).bind fun _ => cycles.bind fun _ =>
      monotonic.bind fun _ => (Keeps.checked _).bind fun wall => ?_
  split
  · refine (Keeps.checked _).bind fun hz => ?_
    split
    · exact refine_keeps _
    · exact .pure ()
  · exact .pure ()

theorem measureCycleReadCost_keeps :
    Keeps (fun i : Instrument ω => view i.clock) (measureCycleReadCost p) := by
  refine .get_bind fun i => ?_
  split
  · exact (onClock_keeps (spared.readCycles.span p.reads)).bind fun _ => .get_bind fun _ =>
      (Keeps.checked _).bind fun _ => refine_keeps _
  · exact .pure ()

theorem timeLoopsInCycles_keeps (loops : Nat) :
    Keeps (fun i : Instrument ω => view i.clock) (timeLoopsInCycles loops) :=
  (onClock_keeps (spared.aroundLoops spared.readCycles loops)).bind fun _ => .get_bind fun _ =>
    (Keeps.checked _).bind fun _ => .pure _

theorem timeLoops_keeps (loops : Nat) :
    Keeps (fun i : Instrument ω => view i.clock) (timeLoops loops) :=
  (onClock_keeps (spared.aroundLoops spared.readMonotonic loops)).bind fun _ =>
    (Keeps.checked _).bind fun _ => .get_bind fun _ => .pure _

theorem measureLoopCost_keeps :
    Keeps (fun i : Instrument ω => view i.clock) (measureLoopCost p) := by
  refine .get_bind fun i => ?_
  split
  · exact (timeLoopsInCycles_keeps spared _).bind fun _ => (Keeps.checked _).bind fun _ =>
      refine_keeps _
  · exact (timeLoops_keeps spared _).bind fun _ => (Keeps.checked _).bind fun _ => refine_keeps _

theorem pass_keeps : Keeps (fun i : Instrument ω => view i.clock) (pass p) := by
  have counted : Keeps (fun i : Instrument ω => view i.clock) (countPass (ω := ω)) :=
    .get_bind fun _ => (Keeps.checked _).bind fun _ => refine_keeps _
  have last := (measureLoopCost_keeps spared p).bind fun _ => counted
  refine (measureReadCost_keeps spared p).bind fun _ => .get_bind fun i => ?_
  split
  · exact (measureFrequency_keeps spared p).bind fun _ =>
      (measureCycleReadCost_keeps spared p).bind fun _ => last
  · exact last

end Instrument

namespace Meter

variable {ω γ : Type} {view : ω → γ}

theorem onInstrument_keeps {α : Type} {act : Action (Instrument ω) α}
    (kept : Keeps (fun i : Instrument ω => view i.clock) act) :
    Keeps (fun m : Meter ω => view m.clock) (onInstrument act) :=
  kept.within fun _ _ => rfl

theorem initHistogram_keeps (count : Nat) :
    Keeps (fun m : Meter ω => view m.clock) (initHistogram count) :=
  .get_bind fun _ => (Keeps.except _).bind fun _ => .modify fun _ => rfl

theorem record_keeps (sample : Nat) : Keeps (fun m : Meter ω => view m.clock) (record sample) := by
  intro m
  simp only [record]
  cases m.histogram.room sample <;> rfl

variable [Clock ω]

theorem ensureReady_keeps (plan : RunPlan) :
    Keeps (fun m : Meter ω => view m.clock) (ensureReady plan) := by
  intro m
  rw [ensureReady_eq]
  cases firstOf (obstacles plan m) <;> simp [remains]

variable {op : Operation ω} (spared : Clock.Spares view) (same : ∀ w, view (op w) = view w)
include spared

theorem calibratePasses_keeps (p : CalibrationPlan) :
    Keeps (fun m : Meter ω => view m.clock) (calibratePasses p) :=
  (Keeps.refusal _).bind fun _ =>
    (onInstrument_keeps (Instrument.pass_keeps spared p)).repeatedly _

theorem pace_keeps (c : Calibration) (timebase : Timebase) (pacing : Pacing) :
    Keeps view (pace c timebase pacing) := by
  cases pacing with
  | spin ns => exact spared.wait c timebase ns
  | sleep us => exact .modify (spared.sleep us)

include same

theorem elapsed_keeps (c : Calibration) (timebase : Timebase) : Keeps view (elapsed op c timebase) := by
  cases timebase with
  | cycleCounter =>
      exact spared.readCycles.bind fun _ => (Keeps.modify same).bind fun _ =>
        spared.readCycles.bind fun _ => .checked _
  | monotonicClock =>
      exact spared.readMonotonic.bind fun _ => (Keeps.modify same).bind fun _ =>
        spared.readMonotonic.bind fun _ => .checked _

theorem sample_keeps (plan : RunPlan) (c : Calibration) : Keeps view (sample op plan c) :=
  (elapsed_keeps spared same c _).bind fun _ => (pace_keeps spared c _ _).bind fun _ => .pure _

theorem turn_keeps (plan : RunPlan) (iteration samples : Nat) :
    Keeps (fun m : Meter ω => view m.clock) (turn op plan iteration samples) := by
  have sampled (c : Calibration) := onInstrument_keeps (Instrument.onClock_keeps
    (sample_keeps spared same plan c))
  refine .get_bind fun m => (sampled m.calibration).bind fun ns => ?_
  split
  · exact (record_keeps ns).bind fun _ => .checked _
  · exact .pure samples

theorem turns_keeps (plan : RunPlan) (remaining iteration samples : Nat) :
    Keeps (fun m : Meter ω => view m.clock) (turns op plan remaining iteration samples) := by
  induction remaining generalizing iteration samples with
  | zero => exact .pure samples
  | succ remaining ih =>
      exact (turn_keeps spared same plan iteration samples).bind fun counted => ih _ counted

theorem run_keeps (plan : RunPlan) : Keeps (fun m : Meter ω => view m.clock) (run plan op) :=
  (ensureReady_keeps plan).bind fun _ => (Keeps.refusal _).bind fun invocations =>
    (turns_keeps spared same plan invocations 0 0).bind fun _ => .pure _

end Meter

namespace Program

open CommandLine (Arguments)

variable {ω γ : Type} {view : ω → γ}

namespace Session

theorem onMeter_keeps {α : Type} {act : Action (Meter ω) α}
    (kept : Keeps (fun m : Meter ω => view m.clock) act) :
    Keeps (fun s : Session ω => view s.meter.clock) (onMeter act) :=
  kept.within fun _ _ => rfl

theorem report_keeps (a : Arguments) : Keeps (meter (ω := ω)) (report a) := by
  refine .get_bind fun s => ?_
  by_cases json : a.json
  · simp only [json]
    exact (Keeps.except _).bind fun _ => .modify fun _ => rfl
  · simp only [json]
    exact .within_hidden _ fun _ _ => rfl

theorem draw_keeps (a : Arguments) : Keeps (meter (ω := ω)) (draw a) := by
  simp only [draw]
  split
  · exact .get_bind fun s => (Keeps.checked _).bind fun _ => .within_hidden _ fun _ _ => rfl
  · exact .pure ()

variable [Clock ω]

theorem run_keeps (spared : Clock.Spares view) (a : Arguments) :
    Keeps (fun s : Session ω => view s.meter.clock) (run a) := by
  have measured : Keeps (fun m : Meter ω => view m.clock) (round a) :=
    (Meter.initHistogram_keeps _).bind fun _ =>
      (Meter.run_keeps spared (spared.idle a.busySpins) _).bind fun _ => .pure ()
  have calibrated := Meter.calibratePasses_keeps spared
    { CalibrationPlan.standard with passes := a.passes }
  have looped : Keeps (fun s : Session ω => view s.meter.clock) (loop a) :=
    (onMeter_keeps measured).bind fun _ => ((report_keeps a).comp fun m => view m.clock).bind fun _ =>
      (draw_keeps a).comp fun m => view m.clock
  exact (onMeter_keeps calibrated).bind fun _ => looped.repeatedly a.loops

end Session

variable [Host ω] (spared : Host.Spares view)
include spared

theorem prepare_keeps (a : Arguments) : Keeps view (prepare (ω := ω) a) := by
  have attempted {act : EStateM IoError ω Unit} (what : String) (kept : Keeps view act) :
      Keeps view (attempt what act) := by
    intro w
    have now := kept w
    simp only [attempt]
    cases ran : act w with
    | ok u w' =>
        rw [ran] at now
        exact now
    | error e w' =>
        rw [ran] at now
        exact now
  have scheduled : Keeps view (do
      if 0 ≤ a.fifoPriority then
        attempt s!"failed to set SCHED_FIFO priority {a.fifoPriority}"
          (Host.setFifo (ω := ω) a.fifoPriority)) := by
    split
    · exact attempted _ (spared.setFifo _)
    · exact .pure ()
  simp only [prepare]
  split
  · exact (attempted _ (spared.pin _)).bind fun _ => scheduled
  · exact scheduled

theorem session_keeps (a : Arguments) : Keeps view (session (ω := ω) a) := by
  intro w
  simp only [session]
  cases made : Meter.new w a.bucketWidth with
  | error e => rfl
  | ok m =>
      obtain ⟨h, -, rfl⟩ : ∃ h, Histogram.new a.bucketWidth = .ok h ∧ m = ⟨⟨w, .new⟩, h, []⟩ := by
        rcases except_bind_eq_ok.mp made with ⟨h, sized, ⟨⟩⟩
        exact ⟨h, sized, rfl⟩
      have kept : view (remains (Session.run a (.start ⟨⟨w, .new⟩, h, []⟩))).meter.clock = view w :=
        Session.run_keeps spared.toSpares a _
      cases ran : Session.run a (.start ⟨⟨w, .new⟩, h, []⟩) with
      | ok u s =>
          rw [ran] at kept
          simpa [ran, remains] using kept
      | error e s =>
          rw [ran] at kept
          simpa [ran, remains] using kept

theorem measure_keeps (a : Arguments) : Keeps view (measure (ω := ω) a) := by
  have measured := (prepare_keeps spared a).bind fun _ => session_keeps spared a
  simp only [measure]
  cases a.complaint with
  | none => exact measured
  | some text => exact (Keeps.throw _).bind fun _ => measured

end Program

namespace SimulatedHost

theorem onClock_spares {ε α : Type} (act : EStateM ε SteppedClock α) : Keeps files (onClock act) := by
  intro h
  simp only [onClock]
  cases act h.clock with
  | ok a clock => rfl
  | error e clock => rfl

theorem files_spared : Host.Spares files where
  monotonic := onClock_spares _
  cycles := onClock_spares _
  sleep _ _ := rfl
  idle _ _ := rfl
  pin cpu h := by
    by_cases there : cpu < h.processors
    · simp [Host.pin, there, remains]
    · simp [Host.pin, there, remains]
  setFifo _ _ := rfl

end SimulatedHost

end Jitter

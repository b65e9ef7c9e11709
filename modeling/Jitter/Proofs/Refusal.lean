import Jitter.Clock.Stepped
import Jitter.Proofs.RunTranscript

/-! Why a run is refused, and that it is not once it has begun. -/

namespace Jitter

section

variable {σ α β : Type}

/-- Where `P` holds `act` is not refused, and `P` holds after it. It may still break off. -/
def Unrefused (P : σ → Prop) (act : Action σ α) : Prop :=
  ∀ s, P s → (∀ a s', act s = .ok a s' → P s') ∧ ∀ e s', act s ≠ .error (.error e) s'

namespace Unrefused

variable {P : σ → Prop} {act : Action σ α} {next : α → Action σ β}

theorem pure (a : α) : Unrefused P (pure a) := by
  intro s holds
  constructor
  · intro _ _ broke
    cases broke
    exact holds
  · intro _ _ broke
    cases broke

theorem fault (f : Fault) : Unrefused P (throw (.fault f) : Action σ α) := by
  intro s _
  constructor
  · intro _ _ broke
    cases broke
  · intro _ _ broke
    cases broke

theorem modify {f : σ → σ} (stable : ∀ s, P s → P (f s)) : Unrefused P (modify f) := by
  intro s holds
  constructor
  · intro _ _ broke
    cases broke
    exact stable s holds
  · intro _ _ broke
    cases broke

theorem checked (x : Checked α) : Unrefused P (liftM x) := by
  intro s holds
  cases x with
  | ok a => exact pure a s holds
  | error f => exact fault f s holds

theorem except {x : Except Failure α} (clear : ∀ e, x ≠ .error (.error e)) :
    Unrefused P (liftM x) := by
  intro s holds
  cases x with
  | ok a => exact pure a s holds
  | error e =>
      cases e with
      | error e => exact absurd rfl (clear e)
      | fault f => exact fault f s holds

theorem ofFaulty {act : EStateM Fault σ α} (stable : ∀ s a s', act s = .ok a s' → P s → P s') :
    Unrefused P (Action.ofFaulty act) := by
  intro s holds
  constructor
  · intro a s' ran
    exact stable s a s' (Action.ofFaulty_eq_ok.mp ran) holds
  · intro e s' broke
    simp only [Action.ofFaulty] at broke
    cases ran : act s with
    | ok a t => simp [ran] at broke
    | error f t => simp [ran] at broke

theorem bind (first : Unrefused P act) (second : ∀ a, Unrefused P (next a)) :
    Unrefused P (act >>= next) := by
  intro s holds
  constructor
  · intro b t ran
    rcases bind_eq_ok.mp ran with ⟨a, s', now, later⟩
    exact (second a s' ((first s holds).1 a s' now)).1 b t later
  · intro e t broke
    rcases bind_eq_error.mp broke with now | ⟨a, s', now, later⟩
    · exact (first s holds).2 e t now
    · exact (second a s' ((first s holds).1 a s' now)).2 e t later

theorem repeatedly {act : Action σ Unit} (one : Unrefused P act) (n : Nat) :
    Unrefused P (repeatedly act n) := by
  induction n with
  | zero => exact pure ()
  | succ n ih => exact one.bind fun _ => ih

theorem readUntil {read : Action σ α} (one : Unrefused P read) (late : α → Bool) (fuel : Nat) :
    Unrefused P (Clock.readUntil read late fuel) := by
  induction fuel with
  | zero => exact fault .stalled
  | succ fuel ih =>
      refine one.bind fun now => ?_
      by_cases arrived : late now
      · rw [if_pos arrived]
        exact pure ()
      · rw [if_neg arrived]
        exact ih

end Unrefused

end

namespace Meter

variable {ω : Type}

theorem onClock_unrefused {α : Type} {P : ω → Prop} {act : Action ω α} (clear : Unrefused P act)
    (c : Calibration) :
    Unrefused (fun m : Meter ω => m.calibration = c ∧ P m.clock) (onClock act) := by
  intro m state
  rcases state with ⟨same, holds⟩
  cases ran : act m.clock with
  | ok a w =>
      rw [onClock_of_ok ran]
      constructor
      · intro _ _ broke
        cases broke
        exact ⟨same, (clear m.clock holds).1 a w ran⟩
      · intro _ _ broke
        cases broke
  | error e w =>
      rw [onClock_of_error ran]
      constructor
      · intro _ _ broke
        cases broke
      · intro e' _ broke
        cases broke
        exact (clear m.clock holds).2 e' w ran

theorem record_unrefused (P : ω → Prop) (c : Calibration) (x : Nat) :
    Unrefused (fun m : Meter ω => m.calibration = c ∧ P m.clock) (record x) := by
  intro m holds
  simp only [record]
  cases m.histogram.room x with
  | ok _ =>
      constructor
      · intro _ _ broke
        cases broke
        exact holds
      · intro _ _ broke
        cases broke
  | error f =>
      constructor
      · intro _ _ broke
        cases broke
      · intro _ _ broke
        cases broke

end Meter

variable {ω : Type} [Clock ω]

/-- Whether there is a cycle counter does not change while an operation is timed. -/
structure Steady (op : Meter.Operation ω) : Prop where
  call : ∀ w, Clock.hasCycleCounter (op w) = Clock.hasCycleCounter w
  sleep : ∀ us (w : ω), Clock.hasCycleCounter (Clock.sleep us w) = Clock.hasCycleCounter w
  monotonic : ∀ (w : ω) ns w', Clock.monotonic w = .ok ns w' →
    Clock.hasCycleCounter w' = Clock.hasCycleCounter w
  cycles : ∀ (w : ω) n w', Clock.cycles w = .ok n w' →
    Clock.hasCycleCounter w' = Clock.hasCycleCounter w

theorem readMonotonic_unrefused {op : Meter.Operation ω} (steady : Steady op) (b : Bool) :
    Unrefused (fun w : ω => Clock.hasCycleCounter w = b) Clock.readMonotonic :=
  .ofFaulty fun w ns w' shown holds => (steady.monotonic w ns w' shown).trans holds

theorem readCycles_unrefused {op : Meter.Operation ω} (steady : Steady op) (b : Bool) :
    Unrefused (fun w : ω => Clock.hasCycleCounter w = b) Clock.readCycles :=
  .ofFaulty fun w n w' shown holds => (steady.cycles w n w' shown).trans holds

theorem Calibration.readCost_of_ready {c : Calibration} {timebase : Timebase}
    (ready : c.gaps timebase = []) : c.requireReadCost = .ok () := by
  simp only [gaps] at ready
  by_cases cost : c.readCost = unmeasuredCost
  · simp [cost] at ready
  · rw [requireReadCost, if_neg cost]

theorem Calibration.frequency_of_ready {c : Calibration} (ready : c.gaps .cycleCounter = []) :
    c.requireFrequency = .ok () := by
  simp only [gaps] at ready
  by_cases frequency : c.hz = unmeasuredHz ∨ c.hz = 0
  · rcases List.append_eq_nil_iff.mp ready with ⟨-, counted⟩
    rcases List.append_eq_nil_iff.mp counted with ⟨known, -⟩
    rw [if_pos frequency] at known
    cases known
  · rw [requireFrequency, if_pos (c.hasFrequency_iff.mpr frequency)]

theorem Calibration.nanosToCycles_of_ready {c : Calibration} (ready : c.gaps .cycleCounter = [])
    (ns : Int) (e : Error) : c.nanosToCycles ns ≠ .error (.error e) := by
  intro refused
  simp only [nanosToCycles] at refused
  rw [frequency_of_ready ready] at refused
  cases scaling : Unsigned.mul word128 ns.toNat c.hz with
  | error f =>
      rw [scaling] at refused
      cases refused
  | ok scaled =>
      rw [scaling] at refused
      cases refused

theorem onMonotonicClock_unrefused {P : ω → Prop} (reads : Unrefused P Clock.readMonotonic)
    {c : Calibration} {timebase : Timebase} (ready : c.gaps timebase = []) (ns : Int) :
    Unrefused P (Spin.onMonotonicClock c ns) := by
  simp only [Spin.onMonotonicClock]
  rw [Calibration.readCost_of_ready ready]
  refine .bind (.pure ()) fun _ => .bind reads fun now => ?_
  by_cases arrived : Signed.saturate (now + Spin.compensated c.readCost ns) ≤ now
  · simp only [if_pos arrived]
    exact .pure ()
  · simp only [if_neg arrived]
    exact .readUntil reads _ _

theorem countUp_unrefused {P : ω → Prop} (reads : Unrefused P Clock.readCycles) {c : Calibration}
    (ready : c.gaps .cycleCounter = []) (ns : Int) : Unrefused P (Spin.countUp c ns) :=
  .bind (.except (Calibration.nanosToCycles_of_ready ready ns)) fun _ =>
    .bind reads fun _ => .readUntil reads _ _

theorem wait_unrefused {op : Meter.Operation ω} (steady : Steady op) {c : Calibration}
    {timebase : Timebase} {b : Bool} (ready : c.gaps timebase = [])
    (there : timebase = .cycleCounter → b = true) (ns : Int) :
    Unrefused (fun w : ω => Clock.hasCycleCounter w = b) (Spin.wait c timebase ns) := by
  intro w holds
  by_cases none : ns ≤ 0
  · rw [Spin.wait_of_nonpos none]
    exact Unrefused.pure () w holds
  · have some : 0 < ns := by omega
    cases timebase with
    | monotonicClock =>
        rw [Spin.wait_monotonicClock some]
        exact onMonotonicClock_unrefused (readMonotonic_unrefused steady b) ready ns w holds
    | cycleCounter =>
        have counter : Clock.hasCycleCounter w := holds.trans (there rfl)
        rw [Spin.wait_cycleCounter some, Spin.onCycleCounter_of_counter counter]
        exact countUp_unrefused (readCycles_unrefused steady b) ready ns w holds

namespace Meter

theorem elapsed_unrefused {P : ω → Prop} (ns : Unrefused P Clock.readMonotonic)
    (cycles : Unrefused P Clock.readCycles) {op : Operation ω} (call : ∀ w, P w → P (op w))
    (c : Calibration) (timebase : Timebase) : Unrefused P (elapsed op c timebase) := by
  have called : Unrefused P (modify op) := .modify call
  cases timebase with
  | cycleCounter =>
      exact .bind cycles fun first => .bind called fun _ => .bind cycles fun last => .checked _
  | monotonicClock =>
      exact .bind ns fun first => .bind called fun _ => .bind ns fun last => .checked _

theorem sample_unrefused {op : Operation ω} (steady : Steady op) {plan : RunPlan} {c : Calibration}
    {b : Bool} (ready : c.gaps plan.timebase = [])
    (there : plan.timebase = .cycleCounter → b = true) :
    Unrefused (fun w : ω => Clock.hasCycleCounter w = b) (sample op plan c) := by
  have timed := elapsed_unrefused (readMonotonic_unrefused steady b) (readCycles_unrefused steady b)
    (fun w holds => (steady.call w).trans holds) c plan.timebase
  refine .bind timed fun ns => .bind ?_ fun _ => .pure _
  cases plan.pacing with
  | spin ns => exact wait_unrefused steady ready there ns
  | sleep us => exact .modify fun w holds => (steady.sleep us w).trans holds

theorem loop_unrefused {op : Operation ω} (steady : Steady op) {plan : RunPlan} {c : Calibration}
    {b : Bool} (ready : c.gaps plan.timebase = [])
    (there : plan.timebase = .cycleCounter → b = true) :
    Unrefused (fun m : Meter ω => m.calibration = c ∧ Clock.hasCycleCounter m.clock = b)
      (loop op plan) := by
  have timed := onClock_unrefused (sample_unrefused steady ready there) c
  refine .bind (.repeatedly ?_ _) fun _ => .repeatedly ?_ _
  · intro m state
    rcases state with ⟨rfl, holds⟩
    exact (timed.bind fun _ => .pure ()) m ⟨rfl, holds⟩
  · intro m state
    rcases state with ⟨rfl, holds⟩
    exact (timed.bind fun x => record_unrefused (fun w => Clock.hasCycleCounter w = b) _ x) m
      ⟨rfl, holds⟩

theorem gaps_of_clear {plan : RunPlan} {m : Meter ω} (clear : objections plan m = []) :
    m.calibration.gaps plan.timebase = [] ∧
      (plan.timebase = .cycleCounter → Clock.hasCycleCounter m.clock = true) := by
  rcases List.append_eq_nil_iff.mp clear with ⟨obstacles, -⟩
  rcases List.append_eq_nil_iff.mp obstacles with ⟨early, -⟩
  rcases List.append_eq_nil_iff.mp early with ⟨counter, gaps⟩
  refine ⟨List.map_eq_nil_iff.mp gaps, fun counted => ?_⟩
  by_contra missing
  simp [counted, missing] at counter

theorem sized_of_clear {plan : RunPlan} {m : Meter ω} (clear : objections plan m = []) :
    m.histogram.count ≠ 0 := by
  rcases List.append_eq_nil_iff.mp clear with ⟨obstacles, -⟩
  rcases List.append_eq_nil_iff.mp obstacles with ⟨-, sized⟩
  intro none
  rw [if_pos none] at sized
  cases sized

/-- A meter after a refusal: a warning may have been given, and that is all. -/
def refused (plan : RunPlan) (m : Meter ω) : Meter ω :=
  if obstacles plan m = [] then m.warned else m

theorem run_of_objection {plan : RunPlan} {m : Meter ω} {e : Error}
    (first : (objections plan m).head? = some e) (op : Operation ω) :
    run plan op m = .error (.error e) (refused plan m) := by
  simp only [objections] at first
  rw [run_eq, refused]
  cases listed : obstacles plan m with
  | cons obstacle more =>
      rw [listed, List.cons_append, List.head?_cons, Option.some.injEq] at first
      subst first
      rfl
  | nil =>
      rw [listed, List.nil_append] at first
      cases excessive : plan.excess with
      | cons excess more =>
          rw [excessive, List.head?_cons, Option.some.injEq] at first
          subst first
          rfl
      | nil =>
          rw [excessive] at first
          cases first

theorem run_eq_ok {plan : RunPlan} {op : Operation ω} {m m' : Meter ω} {stats : RunStats} :
    run plan op m = .ok stats m' ↔
      objections plan m = [] ∧ loop op plan m.warned = .ok () m' ∧
        stats = ⟨plan.warmup + plan.measured, plan.measured⟩ := by
  cases listed : objections plan m with
  | cons objection more =>
      have first : (objections plan m).head? = some objection := by rw [listed, List.head?_cons]
      rw [run_of_objection first]
      simp
  | nil =>
      rw [run_of_clear listed, bind_eq_ok]
      constructor
      · intro ended
        rcases ended with ⟨_, _, looped, ⟨⟩⟩
        exact ⟨rfl, looped, rfl⟩
      · intro parts
        rcases parts with ⟨-, looped, rfl⟩
        exact ⟨(), m', looped, rfl⟩

theorem refused_logged (plan : RunPlan) (m : Meter ω) (log : List Event) :
    refused plan (m.logged log) = (refused plan m).logged log := by
  simp only [refused]
  rw [obstacles_logged, warned_logged]
  split
  · rfl
  · rfl

theorem refused_clock (plan : RunPlan) (m : Meter ω) : (refused plan m).clock = m.clock := by
  simp only [refused]
  split <;> simp

theorem refused_calibration (plan : RunPlan) (m : Meter ω) :
    (refused plan m).calibration = m.calibration := by
  simp only [refused]
  split <;> simp

theorem refused_instrument (plan : RunPlan) (m : Meter ω) :
    (refused plan m).toInstrument = m.toInstrument := by
  simp only [refused, warned]
  split
  · split <;> rfl
  · rfl

theorem refused_histogram (plan : RunPlan) (m : Meter ω) :
    (refused plan m).histogram = m.histogram := by
  simp only [refused]
  split <;> simp

theorem objection_of_run {plan : RunPlan} {op : Operation ω} (steady : Steady op) {m m' : Meter ω}
    {e : Error} (broke : run plan op m = .error (.error e) m') :
    (objections plan m).head? = some e ∧ m' = refused plan m := by
  cases listed : objections plan m with
  | nil =>
      rcases gaps_of_clear listed with ⟨ready, there⟩
      have begun : Unrefused
          (fun m' : Meter ω => m'.calibration = m.calibration ∧
            Clock.hasCycleCounter m'.clock = Clock.hasCycleCounter m.clock)
          (loop op plan >>= fun _ =>
            pure (⟨plan.warmup + plan.measured, plan.measured⟩ : RunStats)) :=
        (loop_unrefused steady ready there).bind fun _ => .pure _
      rw [run_of_clear listed] at broke
      exact absurd broke ((begun m.warned (by simp)).2 e m')
  | cons objection more =>
      have first : (objections plan m).head? = some objection := by rw [listed, List.head?_cons]
      rw [run_of_objection first] at broke
      cases broke
      exact ⟨rfl, rfl⟩

/-- A run is refused for the first of all objections to it, and for nothing else. Nothing has been
done by then: the instruments were not read, and the operation was not called. -/
theorem run_refused_iff (plan : RunPlan) (op : Operation ω) (m : Meter ω) (steady : Steady op) :
    (∀ e, (∃ m', run plan op m = .error (.error e) m') ↔ (objections plan m).head? = some e) ∧
      (∀ e m', run plan op m = .error (.error e) m' →
        m'.clock = m.clock ∧ m'.calibration = m.calibration ∧ m'.histogram = m.histogram ∧
          ∀ other log, run plan (Logged.watch other) (m.logged log) =
            .error (.error e) (m'.logged log)) ∧
      (objections plan m = [] → ∀ w : ω, Clock.hasCycleCounter w = Clock.hasCycleCounter m.clock →
        ∀ ns e w', Spin.wait m.calibration plan.timebase ns w ≠ .error (.error e) w') := by
  refine ⟨fun e => ⟨?_, fun first => ⟨_, run_of_objection first op⟩⟩, ?_, ?_⟩
  · intro state
    rcases state with ⟨m', broke⟩
    exact (objection_of_run steady broke).1
  · intro e m' broke
    rcases objection_of_run steady broke with ⟨first, rfl⟩
    refine ⟨refused_clock plan m, refused_calibration plan m, refused_histogram plan m, ?_⟩
    intro other log
    have same : (objections plan (m.logged log)).head? = some e := first
    rw [run_of_objection same, refused_logged]
  · intro clear w same ns e w' broke
    rcases gaps_of_clear clear with ⟨ready, there⟩
    exact (wait_unrefused steady ready there ns w same).2 e w' broke

theorem tick_counter {c c' : SteppedClock} {now : Int} (ticked : SteppedClock.tick c = .ok now c') :
    c'.counter = c.counter := by
  simp only [SteppedClock.tick] at ticked
  cases moved : Signed.add c.now c.step with
  | ok later =>
      simp only [moved] at ticked
      cases ticked
      rfl
  | error f => simp [moved] at ticked

theorem steppedClock_steady (op : Operation SteppedClock)
    (call : ∀ c, (op c).counter = c.counter) : Steady op where
  call := call
  sleep _ _ := rfl
  monotonic _ _ _ ticked := tick_counter ticked
  cycles := by
    intro c n c' shown
    rcases bind_eq_ok.mp shown with ⟨now, after, ticked, counted⟩
    rw [run_get_bind, SteppedClock.counted] at counted
    cases count : SteppedClock.cyclesAt after.frequency now with
    | ok n =>
        rw [count] at counted
        cases counted
        exact tick_counter ticked
    | error f =>
        rw [count] at counted
        cases counted

/-- Of two objections, a calibration that lacks a frequency and a histogram without buckets, the
first is told. -/
theorem uncalibrated_run_refused :
    ∃ m m' : Meter SteppedClock, ∃ plan : RunPlan,
      objections plan m =
        [.notCalibrated "cycle counter frequency",
          .invalidConfig "histogram must be initialized before a run"] ∧
      run plan (SteppedClock.advance 500) m =
        .error (.error (.notCalibrated "cycle counter frequency")) m' ∧
      m'.clock = m.clock := by
  let m : Meter SteppedClock :=
    { clock := .new 10 1000000000, calibration := .ofMeasurements 10 10 0 100
      histogram := .unsized, notices := [] }
  obtain ⟨iff, unchanged, -⟩ := run_refused_iff ⟨1, 2, 35, .cycleCounter⟩
    (SteppedClock.advance 500) m (steppedClock_steady _ fun _ => rfl)
  rcases (iff (.notCalibrated "cycle counter frequency")).mpr rfl with ⟨m', broke⟩
  exact ⟨m, m', _, rfl, broke, (unchanged _ _ broke).1⟩

end Meter

end Jitter

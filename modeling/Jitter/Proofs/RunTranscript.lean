import Jitter.Clock.Stepped
import Jitter.Proofs.Conversion
import Jitter.Proofs.Meter
import Jitter.Proofs.Readiness
import Jitter.Proofs.Spin
import Jitter.Proofs.Transcript
import Mathlib

/-! Everything that a measurement run does to its world, reading by reading. -/

namespace Jitter

def Reaches (target : Int) (readings : List Int) : Prop :=
  ∃ early last, readings = early ++ [last] ∧ (∀ r ∈ early, r < target) ∧ target ≤ last

def spinTarget (c : Calibration) (ns entry : Int) : Timebase → Int
  | .monotonicClock => Signed.saturate (entry + Spin.compensated c.readCost ns)
  | .cycleCounter =>
    min (entry + Unsigned.saturate word64 (ns.toNat * c.hz / nanosPerSecond)) (word64 - 1)

/-- The readings of a wait. On the clock the first of them may end it, on the counter it may not. -/
def SpinReadings (c : Calibration) (ns : Int) (timebase : Timebase) (readings : List Int) : Prop :=
  ∃ entry rest, readings = entry :: rest ∧
    Reaches (spinTarget c ns entry timebase)
      (match timebase with
      | .monotonicClock => entry :: rest
      | .cycleCounter => rest)

def Paused (c : Calibration) (plan : RunPlan) (events : List Event) : Prop :=
  if plan.pause < 0 then events = [.sleep (plan.pause.natAbs / 1000)]
  else if plan.pause = 0 then events = []
  else ∃ readings, events = readings.map (.read plan.timebase) ∧
    SpinReadings c plan.pause plan.timebase readings

/-- One turn of a run: a reading, a call, a reading and a pause. -/
structure Turn where
  first : Int
  last : Int
  pause : List Event

namespace Turn

def events (timebase : Timebase) (t : Turn) : List Event :=
  [.read timebase t.first, .call, .read timebase t.last] ++ t.pause

/-- Nanoseconds between the readings; a count that has gone back stands still. -/
def elapsed (c : Calibration) (timebase : Timebase) (t : Turn) : Int :=
  match timebase with
  | .monotonicClock => t.last - t.first
  | .cycleCounter =>
    min (((t.last - t.first).toNat * nanosPerSecond / c.hz : Nat) : Int) Signed.greatest

def sample (c : Calibration) (timebase : Timebase) (t : Turn) : Nat :=
  (max 0 (min (t.elapsed c timebase - c.overhead timebase) Signed.greatest)).toNat

end Turn

variable {ω : Type}

variable [Clock ω]

theorem onMonotonicClock_logs {c : Calibration} {ns : Int} {w w' : ω}
    (waited : Spin.onMonotonicClock c ns w = .ok () w') :
    ∃ readings,
      Logs (Spin.onMonotonicClock c ns) (Spin.onMonotonicClock c ns) w () w'
        (readings.map (.read .monotonicClock)) ∧
      SpinReadings c ns .monotonicClock readings := by
  rcases bind_eq_ok.mp waited with ⟨_, _, passed, rest⟩
  rcases Action.refusal_eq_ok.mp passed with ⟨known, rfl⟩
  rcases bind_eq_ok.mp rest with ⟨entry, v, shown, rest⟩
  by_cases arrived : Signed.saturate (entry + Spin.compensated c.readCost ns) ≤ entry
  · rw [if_pos arrived] at rest
    cases rest
    have logs : Logs (Spin.onMonotonicClock c ns) (Spin.onMonotonicClock c ns) w () w'
        ([] ++ ([Event.read .monotonicClock entry] ++ [])) := by
      refine .bind (.refusal known w) (.bind (.monotonic shown) ?_)
      rw [if_pos arrived, if_pos arrived]
      exact .silent rfl fun _ => rfl
    exact ⟨[entry], logs, entry, [], rfl, [], entry, rfl, by simp, arrived⟩
  · rw [if_neg arrived] at rest
    rcases readUntil_logs Logs.monotonic _ _ rest with ⟨early, last, spun, before, after⟩
    have logs : Logs (Spin.onMonotonicClock c ns) (Spin.onMonotonicClock c ns) w () w'
        ([] ++ ([Event.read .monotonicClock entry] ++
          (early ++ [last]).map (Event.read .monotonicClock))) := by
      refine .bind (.refusal known w) (.bind (.monotonic shown) ?_)
      rw [if_neg arrived, if_neg arrived]
      exact spun
    refine ⟨entry :: (early ++ [last]), logs, entry, _, rfl, entry :: early, last, rfl, ?_, ?_⟩
    · intro r member
      rcases List.mem_cons.mp member with rfl | member
      · exact Int.not_le.mp arrived
      · simpa [spinTarget] using before r member
    · simpa [spinTarget] using after

theorem onCycleCounter_logs {c : Calibration} {ns : Int} {w w' : ω}
    (waited : Spin.onCycleCounter c ns w = .ok () w') :
    ∃ readings,
      Logs (Spin.onCycleCounter c ns) (Spin.onCycleCounter c ns) w () w'
        (readings.map (.read .cycleCounter)) ∧
      SpinReadings c ns .cycleCounter readings := by
  by_cases there : Clock.hasCycleCounter w
  · rw [Spin.onCycleCounter_of_counter there] at waited
    rcases bind_eq_ok.mp waited with ⟨cycles, _, passed, rest⟩
    rcases Action.except_eq_ok.mp passed with ⟨known, rfl⟩
    rcases bind_eq_ok.mp rest with ⟨entry, v, shown, rest⟩
    rcases readUntil_logs Logs.cycles _ _ rest with ⟨early, last, spun, before, after⟩
    have counted : Logs (Spin.countUp c ns) (Spin.countUp c ns) w () w'
        ([] ++ ([Event.read .cycleCounter entry] ++
          (early ++ [last]).map fun n : Nat => Event.read .cycleCounter n)) :=
      .bind (.except known w) (.bind (.cycles shown) spun)
    have logs : Logs (Spin.onCycleCounter c ns) (Spin.onCycleCounter c ns) w () w'
        ([] ++ ([Event.read .cycleCounter entry] ++
          (early ++ [last]).map fun n : Nat => Event.read .cycleCounter n)) := by
      refine ⟨(Spin.onCycleCounter_of_counter there).trans counted.1, fun log => ?_⟩
      have thereLogged : Clock.hasCycleCounter (⟨w, log⟩ : Logged ω) := there
      exact (Spin.onCycleCounter_of_counter thereLogged).trans (counted.2 log)
    have target : spinTarget c ns entry .cycleCounter =
        (Unsigned.saturate word64 (entry + cycles) : Nat) := by
      rw [(Calibration.nanosToCycles_eq_ok.mp known).2.2]
      simp [spinTarget, Unsigned.saturate]
    refine ⟨entry :: (early ++ [last]).map fun n : Nat => (n : Int), ?_, entry, _, rfl,
      early.map fun n : Nat => (n : Int), last, by simp, ?_, ?_⟩
    · simpa [Function.comp_def] using logs
    · intro r member
      rcases List.mem_map.mp member with ⟨n, inside, rfl⟩
      rw [target]
      have short := before n inside
      simp only [decide_eq_false_iff_not] at short
      omega
    · rw [target]
      have reached := of_decide_eq_true after
      omega
  · rw [Spin.onCycleCounter_of_none there] at waited
    cases waited

theorem wait_logs {c : Calibration} {timebase : Timebase} {ns : Int} {w w' : ω} (some : 0 < ns)
    (waited : Spin.wait c timebase ns w = .ok () w') :
    ∃ readings,
      Logs (Spin.wait c timebase ns) (Spin.wait c timebase ns) w () w'
        (readings.map (.read timebase)) ∧
      SpinReadings c ns timebase readings := by
  cases timebase with
  | monotonicClock =>
      rw [Spin.wait_monotonicClock some] at waited
      rcases onMonotonicClock_logs waited with ⟨readings, logs, spun⟩
      refine ⟨readings, ⟨?_, fun log => ?_⟩, spun⟩
      · rw [Spin.wait_monotonicClock some, logs.1]
      · rw [Spin.wait_monotonicClock some, logs.2]
  | cycleCounter =>
      rw [Spin.wait_cycleCounter some] at waited
      rcases onCycleCounter_logs waited with ⟨readings, logs, spun⟩
      refine ⟨readings, ⟨?_, fun log => ?_⟩, spun⟩
      · rw [Spin.wait_cycleCounter some, logs.1]
      · rw [Spin.wait_cycleCounter some, logs.2]

namespace Meter

theorem pace_logs {c : Calibration} {plan : RunPlan} {w w' : ω}
    (paced : pace c plan.timebase plan.pacing w = .ok () w') :
    ∃ events,
      Logs (pace c plan.timebase plan.pacing) (pace c plan.timebase plan.pacing) w () w' events ∧
      Paused c plan events := by
  by_cases negative : plan.pause < 0
  · have pacing : plan.pacing = .sleep (plan.pause.natAbs / 1000) := if_neg (by omega)
    rw [pacing] at paced ⊢
    cases paced
    exact ⟨_, .sleep _ _, by rw [Paused, if_pos negative]⟩
  · have pacing : plan.pacing = .spin plan.pause := if_pos (by omega)
    rw [pacing] at paced ⊢
    simp only [pace] at paced ⊢
    by_cases zero : plan.pause = 0
    · have nonpos : plan.pause ≤ 0 := by omega
      rw [Spin.wait_of_nonpos nonpos] at paced
      cases paced
      refine ⟨[], .silent (Spin.wait_of_nonpos nonpos w) fun v => Spin.wait_of_nonpos nonpos v, ?_⟩
      rw [Paused, if_neg negative, if_pos zero]
    · rcases wait_logs (by omega) paced with ⟨readings, logs, spun⟩
      refine ⟨_, logs, ?_⟩
      rw [Paused, if_neg negative, if_neg zero]
      exact ⟨readings, rfl, spun⟩

theorem elapsed_logs {op : Operation ω} {c : Calibration} {timebase : Timebase} {ns : Int}
    {w w' : ω} (timed : elapsed op c timebase w = .ok ns w') :
    ∃ first last,
      Logs (elapsed op c timebase) (elapsed (Logged.watch op) c timebase) w ns w'
        [.read timebase first, .call, .read timebase last] ∧
      ∀ pause, ns = Turn.elapsed c timebase ⟨first, last, pause⟩ := by
  cases timebase with
  | cycleCounter =>
      rcases bind_eq_ok.mp timed with ⟨first, v, before, rest⟩
      rcases bind_eq_ok.mp rest with ⟨_, u, called, rest⟩
      cases called
      rcases bind_eq_ok.mp rest with ⟨last, _, after, rest⟩
      rcases Action.checked_eq_ok.mp rest with ⟨value, rfl⟩
      have logs : Logs (elapsed op c .cycleCounter) (elapsed (Logged.watch op) c .cycleCounter)
          w ns _ ([Event.read .cycleCounter first] ++ ([Event.call] ++
            ([Event.read .cycleCounter last] ++ []))) :=
        .bind (.cycles before) (.bind (.call op v) (.bind (.cycles after) (.checked value _)))
      refine ⟨first, last, logs, fun pause => ?_⟩
      rw [(Calibration.nanos_eq_ok.mp value).2.2]
      simp [Turn.elapsed]
  | monotonicClock =>
      rcases bind_eq_ok.mp timed with ⟨first, v, before, rest⟩
      rcases bind_eq_ok.mp rest with ⟨_, u, called, rest⟩
      cases called
      rcases bind_eq_ok.mp rest with ⟨last, _, after, rest⟩
      rcases Action.checked_eq_ok.mp rest with ⟨value, rfl⟩
      have logs : Logs (elapsed op c .monotonicClock)
          (elapsed (Logged.watch op) c .monotonicClock) w ns _
          ([Event.read .monotonicClock first] ++ ([Event.call] ++
            ([Event.read .monotonicClock last] ++ []))) :=
        .bind (.monotonic before) (.bind (.call op v) (.bind (.monotonic after) (.checked value _)))
      exact ⟨first, last, logs, fun _ => (Signed.sub_eq_ok.mp value).2⟩

theorem sample_logs {op : Operation ω} {plan : RunPlan} {c : Calibration} {x : Nat} {w w' : ω}
    (sampled : sample op plan c w = .ok x w') :
    ∃ turn : Turn,
      Logs (sample op plan c) (sample (Logged.watch op) plan c) w x w'
        (turn.events plan.timebase) ∧
      Paused c plan turn.pause ∧ x = turn.sample c plan.timebase := by
  rcases bind_eq_ok.mp sampled with ⟨ns, v, timed, rest⟩
  rcases bind_eq_ok.mp rest with ⟨_, u, paced, rest⟩
  cases rest
  rcases elapsed_logs timed with ⟨first, last, measuring, value⟩
  rcases pace_logs paced with ⟨pause, pausing, paused⟩
  have logs : Logs (sample op plan c) (sample (Logged.watch op) plan c) w _ w'
      ([Event.read plan.timebase first, .call, .read plan.timebase last] ++ (pause ++ [])) :=
    .bind measuring (.bind pausing (.silent rfl fun _ => rfl))
  refine ⟨⟨first, last, pause⟩, ?_, paused, ?_⟩
  · simpa [Turn.events] using logs
  · rw [sampleOf, Turn.sample, ← value pause, ← Signed.max_zero_saturate]
    omega

def logged (m : Meter ω) (log : List Event) : Meter (Logged ω) :=
  { clock := ⟨m.clock, log⟩, calibration := m.calibration, histogram := m.histogram
    notices := m.notices }

/-- `act` takes the meter through `turns`, and `keep` says what becomes of their samples. -/
structure Turns (plan : RunPlan) (keep : Histogram → Nat → Checked Histogram)
    (logging : Action (Meter (Logged ω)) Unit) (m m' : Meter ω) (turns : List Turn) : Prop where
  logs : ∀ log, logging (m.logged log) =
    .ok () (m'.logged (log ++ turns.flatMap (Turn.events plan.timebase)))
  paused : ∀ turn ∈ turns, Paused m.calibration plan turn.pause
  kept : (turns.map (Turn.sample m.calibration plan.timebase)).foldlM keep m.histogram =
    .ok m'.histogram
  calibration_eq : m'.calibration = m.calibration

def drop (h : Histogram) (_ : Nat) : Checked Histogram := .ok h

theorem discardOne_turn {op : Operation ω} {plan : RunPlan} {m m' : Meter ω}
    (discarded : discardOne op plan m = .ok () m') :
    ∃ turn, Turns plan drop (discardOne (Logged.watch op) plan) m m' [turn] := by
  rcases discardOne_eq_ok.mp discarded with ⟨x, w, sampled, rfl⟩
  rcases sample_logs sampled with ⟨turn, logs, paused, -⟩
  refine ⟨turn, fun log => ?_, by simpa using paused, rfl, rfl⟩
  exact discardOne_eq_ok.mpr ⟨x, _, logs.2 log, by simp [logged]⟩

theorem recordOne_turn {op : Operation ω} {plan : RunPlan} {m m' : Meter ω}
    (recorded : recordOne op plan m = .ok () m') :
    ∃ turn, Turns plan Histogram.accumulate (recordOne (Logged.watch op) plan) m m' [turn] := by
  rcases recordOne_eq_ok.mp recorded with ⟨x, w, h, sampled, taken, rfl⟩
  rcases sample_logs sampled with ⟨turn, logs, paused, rfl⟩
  refine ⟨turn, fun log => ?_, by simpa using paused, by simpa using taken, rfl⟩
  exact recordOne_eq_ok.mpr ⟨_, _, h, logs.2 log, taken, by simp [logged]⟩

omit [Clock ω] in
theorem repeatedly_turns {plan : RunPlan} {keep : Histogram → Nat → Checked Histogram}
    {act : Action (Meter ω) Unit} {logging : Action (Meter (Logged ω)) Unit}
    (one : ∀ {m m'}, act m = .ok () m' → ∃ turn, Turns plan keep logging m m' [turn]) (n : Nat)
    {m m' : Meter ω} (ran : repeatedly act n m = .ok () m') :
    ∃ turns, turns.length = n ∧ Turns plan keep (repeatedly logging n) m m' turns := by
  induction n generalizing m with
  | zero =>
      cases ran
      exact ⟨[], rfl, fun log => by simp [repeatedly], by simp, rfl, rfl⟩
  | succ n ih =>
      rcases bind_eq_ok.mp ran with ⟨_, v, now, later⟩
      rcases one now with ⟨turn, first⟩
      rcases ih later with ⟨turns, counted, rest⟩
      -- The later turns are told by the calibration after the first, which is the same.
      have same := first.calibration_eq
      refine ⟨turn :: turns, by simp [counted], fun log => ?_, ?_, ?_, ?_⟩
      · exact bind_eq_ok.mpr ⟨(), _, first.logs log, by simp [rest.logs]⟩
      · intro t member
        rcases List.mem_cons.mp member with rfl | member
        · exact first.paused t (by simp)
        · exact same ▸ rest.paused t member
      · rw [← List.singleton_append, List.map_append, List.foldlM_append, first.kept]
        exact same ▸ rest.kept
      · rw [rest.calibration_eq, same]

theorem drop_all (h : Histogram) (samples : List Nat) : samples.foldlM drop h = .ok h := by
  induction samples with
  | nil => rfl
  | cons x samples ih => exact ih

theorem obstacles_logged (plan : RunPlan) (m : Meter ω) (log : List Event) :
    obstacles plan (m.logged log) = obstacles plan m := rfl

omit [Clock ω] in
theorem warned_logged (m : Meter ω) (log : List Event) :
    (m.logged log).warned = m.warned.logged log := by
  simp only [warned]
  by_cases few : m.calibration.passes < recommendedPasses ∧ ¬m.calibration.preset
  · rw [if_pos few]
    exact if_pos few
  · rw [if_neg few]
    exact if_neg few

/-- A run is so many turns and nothing else: on each a reading, a call, a reading and a pause, all
readings on one instrument. The histogram takes in the samples of the turns after the warmup. -/
theorem run_transcript (plan : RunPlan) (op : Operation ω) (m m' : Meter ω) (stats : RunStats)
    (ran : run plan op m = .ok stats m') :
    ∃ turns : List Turn, turns.length = plan.warmup + plan.measured ∧
      (∀ log, run plan (Logged.watch op) (m.logged log) =
        .ok stats (m'.logged (log ++ turns.flatMap (Turn.events plan.timebase)))) ∧
      (∀ turn ∈ turns, Paused m.calibration plan turn.pause) ∧
      m.histogram.accumulateAll
        ((turns.drop plan.warmup).map (Turn.sample m.calibration plan.timebase)) =
          .ok m'.histogram ∧
      m'.calibration = m.calibration ∧
      stats = { invocations := plan.warmup + plan.measured, samples := plan.measured } := by
  rw [run_eq] at ran
  cases obstructed : firstOf (obstacles plan m) with
  | error e => simp [obstructed] at ran
  | ok _ =>
      cases excessive : firstOf plan.excess with
      | error e => simp [obstructed, excessive] at ran
      | ok _ =>
          simp only [obstructed, excessive] at ran
          rcases bind_eq_ok.mp ran with ⟨_, _, both, ending⟩
          cases ending
          rcases bind_eq_ok.mp both with ⟨_, v, warming, measuring⟩
          rcases repeatedly_turns discardOne_turn _ warming with ⟨early, warmups, first⟩
          rcases repeatedly_turns recordOne_turn _ measuring with ⟨late, samples, second⟩
          have same := first.calibration_eq
          have unchanged : v.histogram = m.histogram := by
            have kept := first.kept
            rw [drop_all, warned_histogram] at kept
            exact (Except.ok.inj kept).symm
          rw [warned_calibration] at same
          refine ⟨early ++ late, by simp [warmups, samples], fun log => ?_, ?_, ?_, ?_, rfl⟩
          · have all : loop (Logged.watch op) plan (m.logged log).warned =
                .ok ()
                  (m'.logged (log ++ (early ++ late).flatMap (Turn.events plan.timebase))) := by
              rw [warned_logged, loop]
              refine bind_eq_ok.mpr ⟨(), _, first.logs log, ?_⟩
              rw [second.logs, List.flatMap_append, List.append_assoc]
            rw [run_eq, obstacles_logged, obstructed, excessive]
            exact bind_of_ok all
          · intro turn member
            rcases List.mem_append.mp member with warmup | measured
            · exact warned_calibration m ▸ first.paused turn warmup
            · exact same ▸ second.paused turn measured
          · rw [← warmups, List.drop_left, ← unchanged, ← same]
            exact second.kept
          · rw [second.calibration_eq, same]

/-- Three turns that are paced on the counter make seven readings each. -/
theorem transcript_of_three_turns :
    ∃ (m m' : Meter SteppedClock) (turns : List Turn), turns.length = 3 ∧
      m'.clock.reads = 21 ∧ m'.histogram.buckets = #[0, 0, 2, 0] ∧
      ∀ log, run ⟨1, 2, 35, .cycleCounter⟩ (Logged.watch (SteppedClock.advance 500))
          (m.logged log) =
        .ok ⟨3, 2⟩ (m'.logged (log ++ turns.flatMap (Turn.events .cycleCounter))) := by
  let m : Meter SteppedClock :=
    { clock := .new 10 1000000000, calibration := .ofMeasurements 10 10 1000000000 100
      histogram := .blank 250 (by decide) (Array.replicate 4 0), notices := [] }
  let m' : Meter SteppedClock :=
    { clock := { SteppedClock.new 10 1000000000 with now := 1000001710, reads := 21 }
      calibration := m.calibration
      histogram :=
        { m.histogram with
          buckets := #[0, 0, 2, 0], least := 500, greatest := 500, total := 1000, samples := 2
          average := 500, average_eq := rfl }
      notices := [] }
  have ran : run ⟨1, 2, 35, .cycleCounter⟩ (SteppedClock.advance 500) m = .ok ⟨3, 2⟩ m' := by
    cbv
  rcases run_transcript _ _ m m' ⟨3, 2⟩ ran with ⟨turns, counted, logs, -⟩
  exact ⟨m, m', turns, counted, rfl, rfl, logs⟩

end Meter

end Jitter

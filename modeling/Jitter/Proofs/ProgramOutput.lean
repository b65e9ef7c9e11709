import Jitter.Host.Simulated
import Jitter.Proofs.PassLoops
import Jitter.Proofs.Sessions

/-! What the program prints: the text of all its runs as a whole, or none of it. -/

namespace Jitter.Program

open CommandLine (Arguments)
open ReportBuffer (standardCapacity bytes joined)
open Session (told drawn reported HoldsOneRun)

variable {ω : Type} [Host ω] {a : Arguments} {args : List String} {w : ω} {ms : List (Meter ω)}

/-- Every step up to the last run succeeds, and these are the meters after the runs. -/
inductive Measured (a : Arguments) (w : ω) (ms : List (Meter ω)) : Prop
  | intro {w' : ω} {fresh m : Meter ω} (prepared : prepare a w = .ok () w')
      (made : Meter.new w' a.bucketWidth = .ok fresh)
      (calibrated : Session.calibrate a fresh = .ok () m) (rounds : Session.Rounds a m ms)
      (all : ms.length = a.loops)

theorem Measured.length_eq (measured : Measured a w ms) : ms.length = a.loops := by
  cases measured
  assumption

omit [Host ω] in
theorem width_of_new {fresh : Meter ω} {width : Nat} (made : Meter.new w width = .ok fresh) :
    fresh.histogram.width = width := by
  rcases except_bind_eq_ok.mp made with ⟨h, sized, ⟨⟩⟩
  simp only [Histogram.new] at sized
  split at sized
  · cases sized
    rfl
  · cases sized

theorem calibrate_histogram {fresh m : Meter ω} (calibrated : Session.calibrate a fresh = .ok () m) :
    m.histogram = fresh.histogram := by
  rw [Session.calibrate, Meter.calibratePasses_eq_onInstrument] at calibrated
  rcases Action.within_eq_ok.mp calibrated with ⟨i, -, rfl⟩
  rfl

theorem Measured.hold (measured : Measured a w ms) (ranged : a.InRange) :
    ∀ m ∈ ms, HoldsOneRun a m := by
  cases measured with
  | intro _ made calibrated rounds _ =>
      exact rounds.hold ranged ((congrArg _ (calibrate_histogram calibrated)).trans (width_of_new made))

def Excessive (a : Arguments) (texts scripts : List String) : Prop :=
  a.json = false ∧ standardCapacity ≤ (String.join texts).utf8ByteSize ∨
    a.gnuplot.isSome ∧ standardCapacity ≤ (String.join scripts).utf8ByteSize

def shown (a : Arguments) (texts : List String) (reports : List Report) : String :=
  if a.json then Report.format.list.pretty reports ++ "\n" else String.join texts

variable {w' : ω} {fresh m : Meter ω} {ps qs : List Piece} {rs : List Report}

omit [Host ω] in
theorem start_roomy (m : Meter ω) : (Session.start m).Roomy standardCapacity where
  results_capacity := rfl
  plots_capacity := rfl
  results_short := Nat.zero_lt_succ _
  plots_short := Nat.zero_lt_succ _

omit [Host ω] in
theorem start_fits : (Session.start m).Fits standardCapacity ps qs ↔
    (joined ps).utf8ByteSize < standardCapacity ∧ (joined qs).utf8ByteSize < standardCapacity := by
  rw [ReportBuffer.utf8ByteSize_joined, ReportBuffer.utf8ByteSize_joined]
  simp [Session.Fits, Session.start, ReportBuffer.new, ReportBuffer.ofCapacity, ReportBuffer.length]

omit [Host ω] in
theorem output_added {texts scripts : List String} {reports : List Report} {last : Meter ω}
    (text : joined ps = if a.json then "" else String.join texts)
    (script : joined qs = if a.gnuplot.isSome then String.join scripts else "") :
    output a ((Session.start m).added last ps qs (if a.json then reports else [])) =
      if a.verbose < 0 then ⟨"", none⟩
      else ⟨shown a texts reports, a.gnuplot.map (·, String.join scripts)⟩ := by
  by_cases quiet : a.verbose < 0
  · simp [output, quiet]
  · have printed : (if a.json then Report.format.list.pretty (if a.json then reports else []) ++ "\n"
        else joined ps) = shown a texts reports := by
      rw [shown, text]
      by_cases json : a.json
      · simp [json]
      · simp [json]
    have saved : a.gnuplot.map (·, joined qs) = a.gnuplot.map (·, String.join scripts) := by
      rw [script]
      cases a.gnuplot with
      | none => rfl
      | some file => rfl
    simpa [output, quiet, Session.added, Session.start, ReportBuffer.extended, ReportBuffer.new,
      ReportBuffer.ofCapacity] using ⟨printed, saved⟩

theorem measure_of_prepared (accepted : a.complaint = none) (prepared : prepare a w = .ok () w') :
    measure a w = session a w' := by
  simp only [measure, accepted]
  exact bind_of_ok prepared

theorem session_of_fits (made : Meter.new w' a.bucketWidth = .ok fresh)
    (calibrated : Session.calibrate a fresh = .ok () m) (rounds : Session.Rounds a m ms)
    (all : ms.length = a.loops) (adds : Session.AddAll a ms ps qs rs)
    (fits : (Session.start m).Fits standardCapacity ps qs) :
    ∃ last, session a w' = .ok (output a ((Session.start m).added last ps qs rs)) last.clock := by
  obtain ⟨last, looped⟩ := Session.loops_of_room (start_roomy m) rounds adds fits
  have begun : Session.onMeter (Session.calibrate a) (.start fresh) = .ok () (.start m) :=
    Action.within_of_ok calibrated
  have ran : Session.run a (.start fresh) = .ok () ((Session.start m).added last ps qs rs) := by
    rw [all] at looped
    exact (bind_of_ok begun).trans looped
  refine ⟨last, ?_⟩
  simp only [session, made, ran]
  rfl

theorem session_of_excess (made : Meter.new w' a.bucketWidth = .ok fresh)
    (calibrated : Session.calibrate a fresh = .ok () m) (rounds : Session.Rounds a m ms)
    (all : ms.length = a.loops) (adds : Session.AddAll a ms ps qs rs)
    (full : ¬(Session.start m).Fits standardCapacity ps qs) :
    ∃ needed v, standardCapacity ≤ needed ∧
      session a w' = .error (.failed (.bufferExhausted standardCapacity needed)) v := by
  obtain ⟨needed, s, least, refused⟩ := Session.loops_of_excess (start_roomy m) rounds adds full
  have begun : Session.onMeter (Session.calibrate a) (.start fresh) = .ok () (.start m) :=
    Action.within_of_ok calibrated
  have broke : Session.run a (.start fresh) =
      .error (.error (.bufferExhausted standardCapacity needed)) s := by
    rw [all] at refused
    exact (bind_of_ok begun).trans refused
  refine ⟨needed, s.meter.clock, least, ?_⟩
  simp only [session, made, broke]
  rfl

theorem measure_outcome (accepted : a.complaint = none) (ranged : a.InRange)
    (measured : Measured a w ms) :
    ∃ texts scripts reports, ms.mapM (told a) = .ok texts ∧ ms.mapM (drawn a) = .ok scripts ∧
      ms.mapM (reported a) = .ok reports ∧
      (Excessive a texts scripts → ∃ needed v, standardCapacity ≤ needed ∧
        measure a w = .error (.failed (.bufferExhausted standardCapacity needed)) v) ∧
      (¬Excessive a texts scripts → ∃ v, measure a w = .ok
        (if a.verbose < 0 then ⟨"", none⟩
        else ⟨shown a texts reports, a.gnuplot.map (·, String.join scripts)⟩) v) := by
  obtain ⟨texts, scripts, reports, ps, qs, told, drawn, reported, adds, text, script⟩ :=
    Session.addAll_of_hold (measured.hold ranged) ranged
  cases measured with
  | @intro w' fresh m prepared made calibrated rounds all =>
      have excess : ¬(Session.start m).Fits standardCapacity ps qs ↔ Excessive a texts scripts := by
        rw [start_fits, text, script, Excessive, not_and_or, Nat.not_lt, Nat.not_lt]
        apply or_congr
        · by_cases json : a.json
          · simp [json, standardCapacity]
          · simp [json]
        · by_cases asked : a.gnuplot.isSome
          · simp [asked]
          · simp [asked, standardCapacity]
      refine ⟨texts, scripts, reports, told, drawn, reported, ?_, ?_⟩
      · rw [measure_of_prepared accepted prepared, ← excess]
        exact session_of_excess made calibrated rounds all adds
      · intro fits
        rw [← excess, not_not] at fits
        obtain ⟨last, ended⟩ := session_of_fits made calibrated rounds all adds fits
        refine ⟨last.clock, (measure_of_prepared accepted prepared).trans (ended.trans ?_)⟩
        rw [output_added text script]

theorem perform_of_ok {o : Output} {v : ω} (parsed : CommandLine.parse args = .ok a)
    (ended : measure a w = .ok o v) : perform args w = .ok o v := by
  simp only [perform, parsed, ended]

theorem execute_of_error {t : Trouble} {v : ω} (parsed : CommandLine.parse args = .ok a)
    (broke : measure a w = .error t v) : execute args w = (t.outcome, v) := by
  simp only [execute, perform, parsed, broke]

theorem stdout_of_ok {o : Output} {v : ω} (parsed : CommandLine.parse args = .ok a)
    (ended : measure a w = .ok o v) : (execute args w).1.stdout = o.text := by
  simp only [execute, perform_of_ok parsed ended]
  cases o.save v with
  | ok _ _ =>
      simp only [Output.outcome]
      split
      · rfl
      · rfl
  | error cause _ =>
      simp only [Output.outcome]
      split
      · rfl
      · rfl

/-- The texts of all runs are printed as a whole, unless they or their scripts are too much to be held.
Then nothing is printed, and nothing that the instruments leave alone is any different. -/
theorem text_whole_or_none (args : List String) (a : Arguments) (w : ω) (ms : List (Meter ω))
    (parsed : CommandLine.parse args = .ok a) (accepted : a.complaint = none)
    (plain : a.json = false) (measured : Measured a w ms) :
    ∃ texts scripts, ms.mapM (told a) = .ok texts ∧ ms.mapM (drawn a) = .ok scripts ∧
      ((∃ needed v, measure a w = .error (.failed (.bufferExhausted standardCapacity needed)) v) ↔
        standardCapacity ≤ (String.join texts).utf8ByteSize ∨
          a.gnuplot.isSome ∧ standardCapacity ≤ (String.join scripts).utf8ByteSize) ∧
      (∀ needed v, measure a w = .error (.failed (.bufferExhausted standardCapacity needed)) v →
        (execute args w).1.exit = 1 ∧ (execute args w).1.stdout = "" ∧
          ∀ (γ : Type) (view : ω → γ), Host.Spares view → view (execute args w).2 = view w) ∧
      ((∀ needed v, measure a w ≠ .error (.failed (.bufferExhausted standardCapacity needed)) v) →
        (execute args w).1.stdout = if 0 ≤ a.verbose then String.join texts else "") ∧
      ∀ m ∈ ms, HoldsOneRun a m ∧ ∃ r, reported a m = .ok r ∧
        told a m = .ok (a.title m.calibration ++ "\n" ++ joined r.lines) ∧
        r.summary.samples = a.samples ∧
        (0 < a.verbose → (r.buckets.map Bucket.count).sum + r.summary.overflow = a.samples) := by
  have ranged := CommandLine.parse_inRange parsed
  obtain ⟨texts, scripts, reports, told, drawn, -, full, room⟩ :=
    measure_outcome accepted ranged measured
  have excess : Excessive a texts scripts ↔ standardCapacity ≤ (String.join texts).utf8ByteSize ∨
      a.gnuplot.isSome ∧ standardCapacity ≤ (String.join scripts).utf8ByteSize := by
    simp [Excessive, plain]
  refine ⟨texts, scripts, told, drawn, ⟨?_, ?_⟩, ?_, ?_, ?_⟩
  · intro broke
    rcases broke with ⟨needed, v, broke⟩
    by_contra fits
    obtain ⟨v', ended⟩ := room (excess.not.mpr fits)
    rw [ended] at broke
    cases broke
  · intro large
    obtain ⟨needed, v, -, broke⟩ := full (excess.mpr large)
    exact ⟨needed, v, broke⟩
  · intro needed v broke
    have ended := execute_of_error parsed broke
    rw [ended]
    refine ⟨rfl, rfl, fun γ view spared => ?_⟩
    have kept := measure_keeps spared a w
    rwa [broke] at kept
  · intro unbroken
    have fits : ¬Excessive a texts scripts := by
      intro large
      obtain ⟨needed, v, -, broke⟩ := full large
      exact unbroken needed v broke
    obtain ⟨v, ended⟩ := room fits
    rw [stdout_of_ok parsed ended]
    by_cases quiet : a.verbose < 0
    · rw [if_pos quiet, if_neg (Int.not_le.mpr quiet)]
    · rw [if_neg quiet, if_pos (Int.not_lt.mp quiet)]
      simp [shown, plain]
  · intro m member
    have holds := measured.hold ranged m member
    obtain ⟨r, made, counted, summed⟩ := holds.reported_ok ranged
    refine ⟨holds, r, made, ?_, counted, summed⟩
    rw [Session.told, Session.lines_of_report made, ReportBuffer.textOf_values,
      ReportBuffer.joined_cons]
    rfl

def plainHost : SimulatedHost :=
  { clock := .withoutCycleCounter 1000, processors := 1, affinity := [0], files := ⟨[], []⟩ }

def twoRuns (verbose : Int) : Arguments :=
  { Arguments.standard with
    busySpins := 0, cpu := -1, description := "null", gnuplot := some "plot", buckets := 3, loops := 2
    samples := 1, pause := 0, timebase := .monotonicClock, warmup := 0, passes := 1, verbose }

def twoRunsAsked (verbose : String) : List String :=
  ["-B", "0", "-c", "-1", "-d", "null", "-g", "plot", "-b", "3", "-l", "2", "-n", "1", "-p", "0", "-t",
    "clock", "-w", "0", "--calibration-passes", "1", "-v", verbose]

def freshMeter : Meter SimulatedHost :=
  ⟨⟨plainHost, .new⟩, .blank 10 (Nat.zero_lt_succ _) #[], []⟩

def calibratedMeter : Meter SimulatedHost :=
  { freshMeter with
    clock := { plainHost with clock := { plainHost.clock with now := 1001004000, reads := 1003 } }
    calibration := { Calibration.new with readCost := 999, loopCost := 1001, passes := 1 } }

def meterAfter (runs : Nat) : Meter SimulatedHost :=
  { calibratedMeter with
    clock := { plainHost with
      clock := { plainHost.clock with now := 1001004000 + 2000 * runs, reads := 1003 + 2 * runs } }
    histogram :=
      { Histogram.blank 10 (Nat.zero_lt_succ _) #[1, 0, 0] with
        least := 1, greatest := 1, total := 1, samples := 1, average := 1, average_eq := rfl }
    notices := List.replicate runs .fewPasses }

def twoMeters : List (Meter SimulatedHost) := [meterAfter 1, meterAfter 2]

theorem twoRuns_calibrated : Session.calibrate (twoRuns 0) freshMeter = .ok () calibratedMeter := by
  decide +kernel

theorem twoRuns_first : Session.round (twoRuns 0) calibratedMeter = .ok () (meterAfter 1) := by
  decide +kernel

theorem twoRuns_second : Session.round (twoRuns 0) (meterAfter 1) = .ok () (meterAfter 2) := by
  decide +kernel

theorem twoRuns_measured (verbose : Int) (gnuplot : Option String) (json : Bool) :
    Measured { twoRuns verbose with gnuplot, json } plainHost twoMeters :=
  .intro rfl rfl twoRuns_calibrated (.more twoRuns_first (.more twoRuns_second (.done _))) rfl

def size (text : Except Failure String) : Option Nat := (text.map String.utf8ByteSize).toOption

theorem of_size {x : Except Failure String} {n : Nat} (sized : size x = some n) :
    ∃ text, x = .ok text ∧ text.utf8ByteSize = n := by
  cases x with
  | error e => cases sized
  | ok text => exact ⟨text, rfl, Option.some.inj sized⟩

theorem twoRuns_texts {verbose : Int} (brief : verbose ≤ 0) : ∃ text script,
    twoMeters.mapM (told (twoRuns verbose)) = .ok [text, text] ∧
      twoMeters.mapM (drawn (twoRuns verbose)) = .ok [script, script] ∧
      (String.join [text, text]).utf8ByteSize = 790 ∧
      (String.join [script, script]).utf8ByteSize = 792 := by
  have first : size (told (twoRuns 0) (meterAfter 1)) = some 395 := by decide +kernel
  have second : size (drawn (twoRuns 0) (meterAfter 1)) = some 396 := by decide +kernel
  obtain ⟨text, once, sized⟩ := of_size first
  obtain ⟨script, sketched, scaled⟩ := of_size second
  have same (m : Meter SimulatedHost) : told (twoRuns verbose) m = told (twoRuns 0) m := by
    have plain : ¬0 < (twoRuns verbose).verbose := Int.not_lt.mpr brief
    have usual : ¬0 < (twoRuns 0).verbose := by decide
    simp only [told, Session.lines, Histogram.reportPieces, if_neg plain, if_neg usual]
    rfl
  have again : told (twoRuns 0) (meterAfter 2) = .ok text := once
  have redrawn : drawn (twoRuns 0) (meterAfter 2) = .ok script := sketched
  refine ⟨text, script, ?_, ?_, ?_, ?_⟩
  · simp only [twoMeters, List.mapM_cons, same, once, again]
    rfl
  · change twoMeters.mapM (drawn (twoRuns 0)) = _
    simp only [twoMeters, List.mapM_cons, sketched, redrawn]
    rfl
  · simp [String.join_cons, sized]
  · simp [String.join_cons, scaled]

theorem two_runs_printed_whole :
    CommandLine.parse (twoRunsAsked "0") = .ok (twoRuns 0) ∧ (twoRuns 0).complaint = none ∧
      (twoRuns 0).json = false ∧ Measured (twoRuns 0) plainHost twoMeters ∧
      ∃ texts, twoMeters.mapM (told (twoRuns 0)) = .ok texts ∧
        (String.join texts).utf8ByteSize = 790 ∧
        (execute (twoRunsAsked "0") plainHost).1.stdout = String.join texts := by
  have parsed : CommandLine.parse (twoRunsAsked "0") = .ok (twoRuns 0) := by cbv
  have measured : Measured (twoRuns 0) plainHost twoMeters := twoRuns_measured 0 (some "plot") false
  obtain ⟨text, script, told, drawn, short, small⟩ := twoRuns_texts (Int.le_refl 0)
  obtain ⟨texts, scripts, told', drawn', excess, -, printed, -⟩ :=
    text_whole_or_none (twoRunsAsked "0") (twoRuns 0) plainHost twoMeters parsed rfl rfl measured
  obtain rfl : [text, text] = texts := Except.ok.inj (told.symm.trans told')
  obtain rfl : [script, script] = scripts := Except.ok.inj (drawn.symm.trans drawn')
  refine ⟨parsed, rfl, rfl, measured, _, told, short, printed fun needed v broke => ?_⟩
  rcases excess.mp ⟨needed, v, broke⟩ with large | ⟨-, large⟩
  · rw [short] at large
    exact absurd large (by decide)
  · rw [small] at large
    exact absurd large (by decide)

end Jitter.Program

import Jitter.Proofs.JsonShapes
import Jitter.Proofs.MeasuredRanges
import Jitter.Report.Format

/-! Reports, and all that is in them, are read back from their JSON as they were written. -/

namespace Jitter

open Json (Format double)
open Json.Reader (Numeral number_point toDigits_begins)
open Json.Shape (fits_nat fits_int64 fits_text fitFields_cons)

theorem Timebase.format_faithful : format.Faithful (fun _ => True) id where
  fits {t} _ := by
    cases t with
    | cycleCounter => exact List.mem_cons_self
    | monotonicClock => exact List.mem_cons_of_mem _ List.mem_cons_self
  decode_encode {t} _ := by
    cases t with
    | cycleCounter => decide
    | monotonicClock => decide

theorem RunPlan.format_faithful : format.Faithful InRange id where
  fits ranged := ⟨by decide,
    fitFields_cons (fits_nat ranged.warmup le_rfl) <|
    fitFields_cons (fits_nat ranged.measured le_rfl) <|
    fitFields_cons (fits_int64 ranged.pause) <|
    fitFields_cons (Timebase.format_faithful.fits trivial) trivial⟩
  decode_encode {p} _ := by
    have timebase := Timebase.format_faithful.decode_encode (a := p.timebase) trivial
    simp only [format, timebase]
    rfl

theorem CalibrationPlan.format_faithful : format.Faithful InRange id where
  fits ranged := ⟨by decide,
    fitFields_cons (fits_nat ranged.reads (by decide)) <|
    fitFields_cons (fits_int64 ranged.interval) <|
    fitFields_cons (fits_nat ranged.loops le_rfl) <|
    fitFields_cons (fits_nat ranged.passes (by decide)) trivial⟩
  decode_encode _ := rfl

def Calibration.written (c : Calibration) : Calibration := { c with preset := false }

theorem Calibration.format_faithful : format.Faithful InRange written where
  fits ranged := ⟨by decide,
    fitFields_cons (fits_int64 ranged.readCost) <|
    fitFields_cons (fits_int64 ranged.cycleReadCost) <|
    fitFields_cons (fits_nat ranged.hz le_rfl) <|
    fitFields_cons (fits_int64 ranged.loopCost) <|
    fitFields_cons (fits_nat ranged.passes (by decide)) trivial⟩
  decode_encode _ := rfl

theorem RunStats.format_faithful : format.Faithful InRange id where
  fits ranged := ⟨by decide,
    fitFields_cons (fits_nat ranged.invocations le_rfl) <|
    fitFields_cons (fits_nat ranged.samples le_rfl) trivial⟩
  decode_encode _ := rfl

theorem Bucket.format_faithful : format.Faithful InRange id where
  fits ranged := ⟨by decide,
    fitFields_cons (fits_nat ranged.index le_rfl) <|
    fitFields_cons (fits_nat ranged.low le_rfl) <|
    fitFields_cons (fits_nat ranged.high le_rfl) <|
    fitFields_cons (fits_nat ranged.count le_rfl) trivial⟩
  decode_encode _ := rfl

theorem Histogram.Summary.format_faithful : format.Faithful InRange id where
  fits ranged := ⟨by decide,
    fitFields_cons (fits_nat ranged.least le_rfl) <|
    fitFields_cons (fits_nat ranged.greatest le_rfl) <|
    fitFields_cons (fits_nat ranged.average le_rfl) <|
    fitFields_cons (fits_nat ranged.overflow le_rfl) <|
    fitFields_cons (fits_nat ranged.samples le_rfl) trivial⟩
  decode_encode _ := rfl

theorem Plot.pointFormat_faithful :
    pointFormat.Faithful (fun point => point.1 < word64 ∧ point.2 < word64) id where
  fits ranged := ⟨fits_nat ranged.1 le_rfl, fits_nat ranged.2 le_rfl, trivial⟩
  decode_encode _ := rfl

theorem Plot.format_faithful : format.Faithful InRange id where
  fits ranged := ⟨by decide,
    fitFields_cons (fits_text _) <|
    fitFields_cons (fits_nat ranged.width le_rfl) <|
    fitFields_cons (fits_nat ranged.top le_rfl) <|
    fitFields_cons (pointFormat_faithful.list.fits ranged.points) trivial⟩
  decode_encode {p} ranged := by
    have points := pointFormat_faithful.list.decode_encode ranged.points
    rw [List.map_id] at points
    simp only [format, points]
    rfl

/-! The shares of standard queries: no other doubles are in a report. -/

/-- The text of a double is that of a whole number, a point and these digits, and is read as it. -/
def Pointed (x : Float) (whole : Nat) (fraction : List Char) : Prop :=
  double x = Nat.toDigits 10 whole ++ '.' :: fraction ∧ fraction ≠ [] ∧
    fraction.all Char.isDigit = true ∧ Nat.ofDigitChars 10 fraction whole < word64 ∧
    Json.Reader.scale (Nat.ofDigitChars 10 fraction whole) (-fraction.length) = some x

instance pointedDecidable (x : Float) (whole : Nat) (fraction : List Char) :
    Decidable (Pointed x whole fraction) :=
  inferInstanceAs (Decidable (_ ∧ _ ∧ _ ∧ _ ∧ _))

theorem Pointed.numeral {x : Float} {whole : Nat} {fraction : List Char}
    (pointed : Pointed x whole fraction) : Numeral (double x) (.real x) := by
  obtain ⟨text, long, digits, word, scaled⟩ := pointed
  rw [text]
  constructor
  · obtain ⟨c, s, front, starts⟩ := toDigits_begins whole
    rw [front]
    exact ⟨c, _, rfl, starts⟩
  · intro rest ends
    rw [List.append_assoc, List.cons_append]
    exact number_point ends long (List.all_eq_true.mp digits) word scaled

theorem numeral_standard {p : Float} (standard : p ∈ Histogram.standardPercentiles) :
    Numeral (double p) (.real p) := by
  have pointed : ∀ p ∈ Histogram.standardPercentiles,
      ∃ shown ∈ [(90, ['0']), (99, ['0']), (99, ['9']), (99, ['9', '9']), (99, ['9', '9', '9'])],
        Pointed p shown.1 shown.2 := by
    decide +kernel
  obtain ⟨shown, -, pointed⟩ := pointed p standard
  exact pointed.numeral

theorem Percentile.format_faithful : format.Faithful Standard id where
  fits {p} standard := by
    have share : Json.Reader.Numeric (.real p.share) := numeral_standard standard.share
    have nanos := fits_nat standard.nanos le_rfl
    cases p with
    | below _ _ =>
      exact ⟨rfl, _, rfl, by decide, .cons ⟨rfl, rfl, share⟩ (.cons ⟨rfl, nanos⟩ .nil)⟩
    | overflow _ _ =>
      exact ⟨rfl, _, rfl, by decide, .cons ⟨rfl, rfl, share⟩ (.cons ⟨rfl, nanos⟩ .nil)⟩
  decode_encode {p} _ := by
    cases p with
    | below _ _ => rfl
    | overflow _ _ => rfl

def Report.written (r : Report) : Report := { r with calibration := r.calibration.written }

theorem Report.fitFields_buckets {bs : List Bucket} (ranged : ∀ b ∈ bs, b.InRange) :
    Json.Shape.FitFields [("buckets", .list Bucket.format.shape true)]
      (if bs.isEmpty then [] else [("buckets", Bucket.format.list.encode bs)]) := by
  cases bs with
  | nil => exact .inl ⟨rfl, trivial⟩
  | cons b bs =>
      exact fitFields_cons (Bucket.format_faithful.list.fits (a := b :: bs) ranged) trivial

theorem Report.format_faithful : format.Faithful InRange written where
  fits ranged := ⟨by decide,
    fitFields_cons (fits_text _) <|
    fitFields_cons (RunPlan.format_faithful.fits ranged.run) <|
    fitFields_cons (Calibration.format_faithful.fits ranged.calibration) <|
    fitFields_cons (fits_nat ranged.width le_rfl) <|
    fitFields_cons (fits_nat ranged.count le_rfl) <|
    fitFields_cons (Histogram.Summary.format_faithful.fits ranged.summary) <|
    fitFields_cons (Percentile.format_faithful.list.fits ranged.percentiles) <|
    fitFields_buckets ranged.buckets⟩
  decode_encode {r} ranged := by
    have run := RunPlan.format_faithful.decode_encode ranged.run
    have calibration := Calibration.format_faithful.decode_encode ranged.calibration
    have summary := Histogram.Summary.format_faithful.decode_encode ranged.summary
    have percentiles := Percentile.format_faithful.list.decode_encode ranged.percentiles
    have buckets := Bucket.format_faithful.list.decode_encode ranged.buckets
    rw [List.map_id] at percentiles buckets
    obtain ⟨title, plan, c, width, count, figures, shares, bs⟩ := r
    cases bs with
    | nil =>
        simp only [format, List.isEmpty_nil, if_true, List.append_nil, run, calibration, summary,
          percentiles]
        rfl
    | cons b bs =>
        simp only [format, List.isEmpty_cons, Bool.false_eq_true, if_false, List.cons_append,
          List.nil_append, run, calibration, summary, percentiles, buckets]
        rfl

theorem Report.calibration_of_new {title : String} {run : RunPlan} {c : Calibration} {h : Histogram}
    {verbose : Int} {r : Report} (made : new title run c h verbose = .ok r) : r.calibration = c := by
  rcases new_eq_ok.mp made with ⟨_, _, -, -, rfl⟩
  rfl

namespace Program

open CommandLine (Arguments)
open Session (reported)

variable {ω : Type} [Host ω] {a : Arguments} {w : ω} {ms : List (Meter ω)} {reports : List Report}

theorem Measured.reports_written (measured : Measured a w ms) (ranged : a.InRange)
    (counts : Counts ω) (made : ms.mapM (reported a) = .ok reports) :
    (∀ r ∈ reports, r.InRange) ∧ reports.map Report.written = reports := by
  have each : ∀ r ∈ reports, r.InRange ∧ r.written = r := by
    intro r member
    obtain ⟨m, present, told⟩ := mapM_member made member
    have advanced := measured.advanced counts m present
    have holds := measured.hold ranged m present
    have unset : m.calibration.preset = false := advanced.refined.preset_eq
    refine ⟨Report.new_inRange (runPlan_inRange ranged) (advanced.inRange ranged.passes)
      (holds.inRange ranged) told, ?_⟩
    rw [Report.written, Report.calibration_of_new told, Calibration.written, ← unset,
      ← Report.calibration_of_new told]
  refine ⟨fun r member => (each r member).1, ?_⟩
  calc
    reports.map Report.written = reports.map id :=
      List.map_congr_left fun r member => (each r member).2
    _ = reports := List.map_id _

theorem printed_reports_read {args : List String} {o : Output} {v : ω} (counts : Counts ω)
    (parsed : CommandLine.parse args = .ok a) (json : a.json = true) (loud : 0 ≤ a.verbose)
    (ended : measure a w = .ok o v) :
    ∃ ms reports, Measured a w ms ∧ ms.length = a.loops ∧ ms.mapM (reported a) = .ok reports ∧
      Report.format.list.read (execute args w).1.stdout = .ok reports := by
  have ranged := CommandLine.parse_inRange parsed
  obtain ⟨ms, texts, scripts, reports, measured, -, made, shown⟩ := output_of_ok ranged ended
  obtain ⟨within, written⟩ := measured.reports_written ranged counts made
  have restored := Report.format_faithful.list.restores (by decide) within
  rw [written] at restored
  refine ⟨ms, reports, measured, measured.length_eq, made, ?_⟩
  rw [stdout_of_ok parsed ended, shown, if_neg (Int.not_lt.mpr loud)]
  simp only [Program.shown, if_pos json]
  exact restored.2.2

end Program

/-- Whatever is written as JSON is read back, in either spacing, but for what tells that a calibration was
preset; and so are the reports that the program prints. -/
theorem json_read_back :
    (∀ (title : String) (run : RunPlan) (c : Calibration) (h : Histogram) (verbose : Int),
      run.InRange → c.InRange → h.InRange →
        (h.Bounded → ∃ r, Report.new title run c h verbose = .ok r) ∧
        ∀ r, Report.new title run c h verbose = .ok r →
          Report.format.read r.toJson = .ok { r with calibration := { c with preset := false } } ∧
          Report.format.Restores r { r with calibration := { c with preset := false } }) ∧
    (∀ p : Plot, p.InRange → Plot.format.Restores p p) ∧
    (∀ p : RunPlan, p.InRange → RunPlan.format.Restores p p) ∧
    (∀ p : CalibrationPlan, p.InRange → CalibrationPlan.format.Restores p p) ∧
    (∀ c : Calibration, c.InRange → Calibration.format.Restores c { c with preset := false }) ∧
    (∀ s : Histogram.Summary, s.InRange → Histogram.Summary.format.Restores s s) ∧
    (∀ s : RunStats, s.InRange → RunStats.format.Restores s s) ∧
    (∀ b : Bucket, b.InRange → Bucket.format.Restores b b) ∧
    (∀ reports : List Report, (∀ r ∈ reports, r.InRange) → Report.format.list.Restores reports
      (reports.map fun r => { r with calibration := { r.calibration with preset := false } })) ∧
    ∀ (ω : Type) [Host ω] (args : List String) (a : CommandLine.Arguments) (w v : ω)
      (o : Program.Output), Counts ω → CommandLine.parse args = .ok a → a.json = true →
        0 ≤ a.verbose → Program.measure a w = .ok o v →
        ∃ ms reports, Program.Measured a w ms ∧ ms.length = a.loops ∧
          ms.mapM (Program.Session.reported a) = .ok reports ∧
          Report.format.list.read (Program.execute args w).1.stdout = .ok reports := by
  refine ⟨fun title run c h verbose run_ranged c_ranged h_ranged =>
      ⟨fun bounded => Report.new_of_bounded bounded title run c verbose, fun r made => ?_⟩,
    fun _ => Plot.format_faithful.restores (by decide),
    fun _ => RunPlan.format_faithful.restores (by decide),
    fun _ => CalibrationPlan.format_faithful.restores (by decide),
    fun _ => Calibration.format_faithful.restores (by decide),
    fun _ => Histogram.Summary.format_faithful.restores (by decide),
    fun _ => RunStats.format_faithful.restores (by decide),
    fun _ => Bucket.format_faithful.restores (by decide),
    fun _ => Report.format_faithful.list.restores (by decide),
    fun _ _ _ _ _ _ _ counts parsed json loud ended =>
      Program.printed_reports_read counts parsed json loud ended⟩
  have restored := Report.format_faithful.restores (by decide)
    (Report.new_inRange run_ranged c_ranged h_ranged made)
  rw [Report.written, Report.calibration_of_new made] at restored
  exact ⟨restored.2.1, restored⟩

def fourSamples : Histogram :=
  { Histogram.blank Histogram.standardWidth Histogram.unsized.positive #[1, 0, 2] with
    overflow := 1, least := 3, greatest := word64 - 1, total := word64 + 44, samples := 4
    average := word64 / 4 + 11, average_eq := rfl }

theorem fourSamples_inRange : fourSamples.InRange := by
  refine ⟨by decide, by decide, fun i => ?_, by decide, by decide, by decide, by decide⟩
  match i with
  | 0 => decide
  | 1 => decide
  | 2 => decide
  | _ + 3 => exact Nat.zero_lt_succ _

def twoReports : CommandLine.Arguments :=
  { Program.twoRuns 0 with gnuplot := none, json := true }

def twoReportsAsked : List String :=
  ["-B", "0", "-c", "-1", "-d", "null", "-b", "3", "-l", "2", "-n", "1", "-p", "0", "-t", "clock",
    "-w", "0", "--calibration-passes", "1", "--json"]

theorem twoReports_end (ranged : twoReports.InRange) :
    ∃ o v, Program.measure twoReports Program.plainHost = .ok o v := by
  obtain ⟨texts, scripts, reports, -, -, -, -, room⟩ :=
    Program.measure_outcome rfl ranged (Program.twoRuns_measured 0 none true)
  have fits : ¬Program.Excessive twoReports texts scripts := by
    rintro (⟨text, -⟩ | ⟨drawn, -⟩)
    · cases text
    · cases drawn
  obtain ⟨v, ended⟩ := room fits
  exact ⟨_, v, ended⟩

def trickyTitle : String := "\"a\\ \x01\n é𝄞"

def presetCosts : Calibration := .ofMeasurements Signed.least 0 0 7

def endToEnd : Plot := ⟨trickyTitle, 10, word64 - 1, [(0, 1), (word64 - 1, 2)]⟩

/-- The same samples without buckets and with them, parts with numbers at the ends of their words, and a
program that prints two reports. -/
theorem tricky_reports_read_back :
    (∃ brief full,
      Report.new trickyTitle .standard presetCosts fourSamples 0 = .ok brief ∧
      Report.new trickyTitle .standard presetCosts fourSamples 1 = .ok full ∧
      brief.buckets = [] ∧ full.buckets = [⟨0, 0, 9, 1⟩, ⟨2, 20, 29, 2⟩] ∧
      Report.format.read brief.toJson =
        .ok { brief with calibration := ⟨Signed.least, 0, 0, 7, 0, false⟩ } ∧
      Report.format.read full.toJson =
        .ok { full with calibration := ⟨Signed.least, 0, 0, 7, 0, false⟩ } ∧
      Report.format.list.Restores [brief, full]
        [{ brief with calibration := { brief.calibration with preset := false } },
          { full with calibration := { full.calibration with preset := false } }]) ∧
    Plot.format.Restores endToEnd endToEnd ∧
    RunPlan.format.Restores ⟨0, word64 - 1, Signed.least, .monotonicClock⟩
      ⟨0, word64 - 1, Signed.least, .monotonicClock⟩ ∧
    CalibrationPlan.format.Restores .quick .quick ∧
    Calibration.format.Restores presetCosts ⟨Signed.least, 0, 0, 7, 0, false⟩ ∧
    Histogram.Summary.format.Restores fourSamples.summary fourSamples.summary ∧
    RunStats.format.Restores ⟨word64 - 1, 0⟩ ⟨word64 - 1, 0⟩ ∧
    Bucket.format.Restores ⟨2, 20, 29, 2⟩ ⟨2, 20, 29, 2⟩ ∧
    ∃ (ms : List (Meter SimulatedHost)) (reports : List Report), ms.length = 2 ∧
      ms.mapM (Program.Session.reported twoReports) = .ok reports ∧
      Report.format.list.read (Program.execute twoReportsAsked Program.plainHost).1.stdout =
        .ok reports := by
  obtain ⟨report, plot, run, plan, calibration, summary, stats, bucket, listed, program⟩ :=
    json_read_back
  have known : presetCosts.InRange := by
    constructor <;> decide
  have standard : RunPlan.standard.InRange := by
    constructor <;> decide
  have bounded : fourSamples.Bounded := ⟨by decide, by decide⟩
  have reported (verbose : Int) :=
    report trickyTitle .standard _ fourSamples verbose standard known fourSamples_inRange
  obtain ⟨brief, short⟩ := (reported 0).1 bounded
  obtain ⟨full, long⟩ := (reported 1).1 bounded
  refine ⟨⟨brief, full, short, long, ?_, ?_, ((reported 0).2 brief short).1,
      ((reported 1).2 full long).1, listed _ ?_⟩,
    plot _ ⟨by decide, by decide, by decide⟩, run _ ⟨by decide, by decide, by decide⟩,
    plan _ ⟨by decide, by decide, by decide, by decide⟩, calibration _ known,
    summary _ fourSamples_inRange.summary, stats _ ⟨by decide, by decide⟩,
    bucket _ ⟨by decide, by decide, by decide, by decide⟩, ?_⟩
  · rcases Report.new_eq_ok.mp short with ⟨_, buckets, -, rfl, rfl⟩
    rfl
  · rcases Report.new_eq_ok.mp long with ⟨_, buckets, -, bars, rfl⟩
    exact Except.ok.inj (bars.symm.trans rfl)
  · have first := Report.new_inRange standard known fourSamples_inRange short
    have second := Report.new_inRange standard known fourSamples_inRange long
    exact List.forall_mem_cons.mpr ⟨first, List.forall_mem_singleton.mpr second⟩
  · have parsed : CommandLine.parse twoReportsAsked = .ok twoReports := by cbv
    obtain ⟨o, v, ended⟩ := twoReports_end (CommandLine.parse_inRange parsed)
    obtain ⟨ms, reports, -, all, made, read⟩ := program SimulatedHost twoReportsAsked twoReports
      Program.plainHost v o SimulatedHost.counts parsed rfl (by decide) ended
    exact ⟨ms, reports, all, made, read⟩

end Jitter

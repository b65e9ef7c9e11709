import Jitter.Calibration.Plan
import Jitter.Json.Format
import Jitter.Report.Basic
import Jitter.Report.Buffer
import Jitter.Report.Plot

/-! The JSON forms of plans, calibrations, figures, plots and reports. -/

namespace Jitter

open Json (Format nat64 nat32 int64 ofNat toNat?)

namespace Timebase

def ofName? (s : String) : Option Timebase :=
  [cycleCounter, monotonicClock].find? (·.name = s)

def format : Format Timebase where
  shape := .choice [cycleCounter.name, monotonicClock.name]
  encode t := .str t.name
  decode
    | .str s => ofName? s
    | _ => none

end Timebase

def RunPlan.format : Format RunPlan where
  shape := .record [("warmup_count", nat64), ("measured_count", nat64),
    ("post_sample_pause_ns", int64), ("timebase", Timebase.format.shape)]
  encode p := .obj [("warmup_count", ofNat p.warmup), ("measured_count", ofNat p.measured),
    ("post_sample_pause_ns", .int p.pause), ("timebase", Timebase.format.encode p.timebase)]
  decode
    | .obj [(_, warmup), (_, measured), (_, .int pause), (_, timebase)] => do
      pure ⟨← toNat? warmup, ← toNat? measured, pause, ← Timebase.format.decode timebase⟩
    | _ => none

def CalibrationPlan.format : Format CalibrationPlan where
  shape := .record [("clock_reads", nat32), ("frequency_interval_ns", int64),
    ("loop_iterations", nat64), ("passes", nat32)]
  encode p := .obj [("clock_reads", ofNat p.reads), ("frequency_interval_ns", .int p.interval),
    ("loop_iterations", ofNat p.loops), ("passes", ofNat p.passes)]
  decode
    | .obj [(_, reads), (_, .int interval), (_, loops), (_, passes)] => do
      pure ⟨← toNat? reads, interval, ← toNat? loops, ← toNat? passes⟩
    | _ => none

/-- Whether the values were preset is not written. -/
def Calibration.format : Format Calibration where
  shape := .record [("gettime_cost_ns", int64), ("cycle_read_cost_ns", int64),
    ("cycles_per_sec", nat64), ("tight_loop_cost_ns", int64), ("passes", nat32)]
  encode c := .obj [("gettime_cost_ns", .int c.readCost),
    ("cycle_read_cost_ns", .int c.cycleReadCost), ("cycles_per_sec", ofNat c.hz),
    ("tight_loop_cost_ns", .int c.loopCost), ("passes", ofNat c.passes)]
  decode
    | .obj [(_, .int readCost), (_, .int cycleReadCost), (_, hz), (_, .int loopCost), (_, passes)] => do
      pure ⟨readCost, cycleReadCost, ← toNat? hz, loopCost, ← toNat? passes, false⟩
    | _ => none

def Histogram.Summary.format : Format Histogram.Summary where
  shape := .record [("min_ns", nat64), ("max_ns", nat64), ("average_ns", nat64),
    ("overflow_count", nat64), ("sample_count", nat64)]
  encode s := .obj [("min_ns", ofNat s.least), ("max_ns", ofNat s.greatest),
    ("average_ns", ofNat s.average), ("overflow_count", ofNat s.overflow),
    ("sample_count", ofNat s.samples)]
  decode
    | .obj [(_, least), (_, greatest), (_, average), (_, overflow), (_, samples)] => do
      pure ⟨← toNat? least, ← toNat? greatest, ← toNat? average, ← toNat? overflow, ← toNat? samples⟩
    | _ => none

def Percentile.format : Format Percentile where
  shape := .tagged "kind" [
    ("below", [("percentile", .double), ("bound_ns", .unsigned word64)]),
    ("overflow", [("percentile", .double), ("limit_ns", .unsigned word64)])]
  encode
    | .below p bound =>
      .obj [("kind", .str "below"), ("percentile", .real p), ("bound_ns", ofNat bound)]
    | .overflow p limit =>
      .obj [("kind", .str "overflow"), ("percentile", .real p), ("limit_ns", ofNat limit)]
  decode
    | .obj [(_, .str "below"), (_, .real p), (_, bound)] => do pure (.below p (← toNat? bound))
    | .obj [(_, .str "overflow"), (_, .real p), (_, limit)] => do pure (.overflow p (← toNat? limit))
    | _ => none

def RunStats.format : Format RunStats where
  shape := .record [("invocations", nat64), ("samples", nat64)]
  encode s := .obj [("invocations", ofNat s.invocations), ("samples", ofNat s.samples)]
  decode
    | .obj [(_, invocations), (_, samples)] => do pure ⟨← toNat? invocations, ← toNat? samples⟩
    | _ => none

def Bucket.format : Format Bucket where
  shape := .record [("index", nat64), ("low_ns", nat64), ("high_ns", nat64), ("count", nat64)]
  encode b := .obj [("index", ofNat b.index), ("low_ns", ofNat b.low), ("high_ns", ofNat b.high),
    ("count", ofNat b.count)]
  decode
    | .obj [(_, index), (_, low), (_, high), (_, count)] => do
      pure ⟨← toNat? index, ← toNat? low, ← toNat? high, ← toNat? count⟩
    | _ => none

def Plot.pointFormat : Format (Nat × Nat) where
  shape := .tuple [nat64, nat64]
  encode p := .arr [ofNat p.1, ofNat p.2]
  decode
    | .arr [index, count] => do pure (← toNat? index, ← toNat? count)
    | _ => none

def Plot.format : Format Plot where
  shape := .record [("title", .text), ("bucket_width_ns", nat64), ("y_high", nat64),
    ("points", Plot.pointFormat.list.shape)]
  encode p := .obj [("title", .str p.title), ("bucket_width_ns", ofNat p.width),
    ("y_high", ofNat p.top), ("points", Plot.pointFormat.list.encode p.points)]
  decode
    | .obj [(_, .str title), (_, width), (_, top), (_, points)] => do
      pure ⟨title, ← toNat? width, ← toNat? top, ← Plot.pointFormat.list.decode points⟩
    | _ => none

namespace Report

/-- The buckets are left out when there are none. -/
def format : Format Report where
  shape := .record [("title", .text), ("run", RunPlan.format.shape),
    ("calibration", Calibration.format.shape), ("bucket_width_ns", nat64), ("bucket_count", nat64),
    ("summary", Histogram.Summary.format.shape), ("percentiles", Percentile.format.list.shape),
    ("buckets", .list Bucket.format.shape true)]
  encode r := .obj ([("title", .str r.title), ("run", RunPlan.format.encode r.run),
    ("calibration", Calibration.format.encode r.calibration), ("bucket_width_ns", ofNat r.width),
    ("bucket_count", ofNat r.count), ("summary", Histogram.Summary.format.encode r.summary),
    ("percentiles", Percentile.format.list.encode r.percentiles)] ++
    if r.buckets.isEmpty then [] else [("buckets", Bucket.format.list.encode r.buckets)])
  decode
    | .obj ((_, .str title) :: (_, run) :: (_, calibration) :: (_, width) :: (_, count) ::
        (_, summary) :: (_, percentiles) :: rest) => do
      let buckets ←
        match rest with
        | [] => pure []
        | [(_, buckets)] => Bucket.format.list.decode buckets
        | _ => none
      pure ⟨title, ← RunPlan.format.decode run, ← Calibration.format.decode calibration,
        ← toNat? width, ← toNat? count, ← Histogram.Summary.format.decode summary,
        ← Percentile.format.list.decode percentiles, buckets⟩
    | _ => none

def toJson (r : Report) : String := format.pretty r

def pieces (r : Report) : Pieces := [pure (.plain r.toJson), pure (.plain "\n")]

end Report

end Jitter

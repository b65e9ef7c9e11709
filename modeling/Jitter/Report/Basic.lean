import Jitter.Calibration.Basic
import Jitter.Histogram.Buckets
import Jitter.Histogram.Percentile
import Jitter.Meter.Plan

/-! All that is told of one run. -/

namespace Jitter

structure Report where
  title : String
  run : RunPlan
  calibration : Calibration
  width : Nat
  count : Nat
  summary : Histogram.Summary
  percentiles : List Percentile
  buckets : List Bucket
  deriving DecidableEq, Repr

/-- The buckets are listed for a verbose report only. -/
def Report.new (title : String) (run : RunPlan) (calibration : Calibration) (h : Histogram)
    (verbose : Int) : Except Failure Report := do
  let percentiles ← Histogram.standardPercentiles.mapM h.percentile
  let buckets ← if 0 < verbose then h.nonemptyBuckets else pure []
  pure { title, run, calibration, width := h.width, count := h.count, summary := h.summary
         percentiles, buckets }

end Jitter

/-! Warnings that do not stop an operation. -/

namespace Jitter

inductive Notice where
  | fewPasses
  | percentileLost
  deriving DecidableEq, Repr

def Notice.message : Notice → String
  | fewPasses => "running with fewer calibration passes than recommended"
  | percentileLost => "percentile lost to histogram overflow"

end Jitter

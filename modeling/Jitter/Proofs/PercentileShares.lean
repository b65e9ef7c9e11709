import Jitter.Proofs.Percentile
import Jitter.Proofs.PercentileTargets

/-! The share of all samples that lies below the bound of a percentile: it may fall short by half a sample. -/

namespace Jitter.Histogram

open Rounding (percent unit percent_bounds target_bounds)

variable {h : Histogram} {width count : Nat} {samples : Multiset Nat} {p q : Float} {bound : Nat}

def sixSamples : List Step :=
  [.init 10, .accumulate 5, .accumulate 15, .accumulate 25, .accumulate 35, .accumulate 45,
    .accumulate 55]

def ofSixSamples : Histogram :=
  { blank 10 (by decide) #[1, 1, 1, 1, 1, 1, 0, 0, 0, 0] with
    least := 5, greatest := 55, total := 180, samples := 6, average := 30, average_eq := rfl }

theorem after_sixSamples : (blank 10 (by decide) #[]).after sixSamples = .ok ofSixSamples := by
  decide +kernel

end Jitter.Histogram

import Jitter.Histogram.Basic

/-! The buckets that hold samples, each with its range. -/

namespace Jitter

structure Bucket where
  index : Nat
  low : Nat
  high : Nat
  count : Nat
  deriving DecidableEq, Repr

namespace Histogram

def countsBelow (buckets : Array Nat) : Nat → List (Nat × Nat) → List (Nat × Nat)
  | 0, found => found
  | i + 1, found =>
    let n := buckets.getD i 0
    countsBelow buckets i (if n = 0 then found else (i, n) :: found)

def counts (h : Histogram) : List (Nat × Nat) := countsBelow h.buckets h.count []

def bucket (h : Histogram) (index count : Nat) : Checked Bucket := do
  let low ← Unsigned.mul word64 index h.width
  let next ← Unsigned.add word64 low h.width
  let high ← Unsigned.sub next 1
  pure { index, low, high, count }

def bucketStream (h : Histogram) : List (Checked Bucket) :=
  h.counts.map fun (i, n) => h.bucket i n

def nonemptyBuckets (h : Histogram) : Checked (List Bucket) :=
  h.counts.mapM fun (i, n) => h.bucket i n

end Histogram

end Jitter

import Jitter.Histogram.Basic

/-! The bound below which a share of all samples lies. -/

namespace Jitter

inductive Percentile where
  | below (percentile : Float) (bound : Nat)
  /-- Too many samples lie past the last bucket, which ends at `limit`. -/
  | overflow (percentile : Float) (limit : Nat)
  deriving DecidableEq, Repr

namespace Percentile

def share : Percentile → Float
  | below p _ => p
  | overflow p _ => p

def nanos : Percentile → Nat
  | below _ n => n
  | overflow _ n => n

def bound : Percentile → Option Nat
  | below _ n => some n
  | overflow _ _ => none

def isOverflow : Percentile → Bool
  | below _ _ => false
  | overflow _ _ => true

end Percentile

namespace Histogram

def standardPercentiles : List Float := [90.0, 99.0, 99.9, 99.99, 99.999]

def isPercentile (p : Float) : Bool := 0.0 < p && p ≤ 100.0

/-- How many of `samples` make up a percentile, a half rounded up. -/
def target (p : Float) (samples : Nat) : Nat :=
  (p / 100.0 * samples.toUInt64.toFloat + 0.5).toUInt64.toNat

/-- Takes buckets until they hold `target` samples, with so many still to take: the number taken of all
of them, and the samples in those. -/
def walk (target : Nat) (buckets : Array Nat) : Nat → Nat → Checked (Nat × Nat)
  | 0, running => pure (buckets.size, running)
  | left + 1, running =>
    let walked := buckets.size - (left + 1)
    if running < target then do
      walk target buckets left (← Unsigned.add word64 running (buckets.getD walked 0))
    else pure (walked, running)

def percentileAt (h : Histogram) (p : Float) (target : Nat) : Checked Percentile := do
  let (walked, running) ← walk target h.buckets h.count 0
  if target ≤ running then
    return .below p (← Unsigned.mul word64 walked h.width)
  else
    return .overflow p (← h.limit)

def percentile (h : Histogram) (p : Float) : Except Failure Percentile := do
  unless isPercentile p do
    throw (.error (.invalidPercentile p))
  h.percentileAt p (target p h.samples)

end Histogram

end Jitter

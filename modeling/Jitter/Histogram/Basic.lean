import Jitter.Failure

/-! Counts of samples in ranges of one width, with the running figures of all of them. -/

namespace Jitter

structure Histogram where
  width : Nat
  positive : 0 < width
  buckets : Array Nat
  isSized : Bool
  overflow : Nat
  least : Nat
  greatest : Nat
  total : Nat
  samples : Nat
  average : Nat
  isSized_eq : isSized = decide (0 < buckets.size)
  average_eq : average = if samples = 0 then 0 else total / samples % word64
  deriving DecidableEq, Repr

namespace Histogram

def blank (width : Nat) (positive : 0 < width) (buckets : Array Nat) : Histogram where
  width
  positive
  buckets
  isSized := 0 < buckets.size
  overflow := 0
  least := word64 - 1
  greatest := 0
  total := 0
  samples := 0
  average := 0
  isSized_eq := rfl
  average_eq := rfl

def standardWidth : Nat := 10

def standardCount : Nat := 800

def unsized : Histogram := blank standardWidth (by decide) #[]

instance : Inhabited Histogram := ⟨unsized⟩

def new (width : Nat) : Except Error Histogram :=
  if h : 0 < width then .ok (blank width h #[])
  else .error (.invalidConfig "bucket width must be non-zero")

def count (h : Histogram) : Nat := h.buckets.size

theorem isSized_iff (h : Histogram) : h.isSized ↔ 0 < h.count := by
  rw [h.isSized_eq, decide_eq_true_iff, count]

/-- Buckets of eight bytes that take up half of all addresses; there can not be as many. -/
def bucketLimit : Nat := 1152921504606846976

/-- Sizes a histogram the first time, and empties it every time. -/
def init (h : Histogram) (count : Nat) : Except Failure Histogram :=
  if count = 0 then .error (.error (.invalidConfig "bucket count must be non-zero"))
  else if h.isSized ∧ count ≠ h.count then .error (.error (.bucketCountMismatch h.count count))
  else if bucketLimit ≤ count then .error (.fault .capacityOverflow)
  else .ok (blank h.width h.positive (Array.replicate count 0))

def withBuckets (width count : Nat) : Except Failure Histogram := do
  (← new width).init count

def index (h : Histogram) (sample : Nat) : Nat := sample / h.width

def room (h : Histogram) (sample : Nat) : Checked Unit := do
  let _ ← Unsigned.add word64 (h.buckets.getD (h.index sample) h.overflow) 1
  let _ ← Unsigned.add word128 h.total sample
  let _ ← Unsigned.add word64 h.samples 1

def tally (h : Histogram) (sample : Nat) : Histogram :=
  if h.index sample < h.buckets.size then
    { h with
      buckets := h.buckets.modify (h.index sample) (· + 1)
      isSized_eq := by rw [h.isSized_eq, Array.size_modify] }
  else { h with overflow := h.overflow + 1 }

def insert (h : Histogram) (sample : Nat) : Histogram :=
  let h := h.tally sample
  { h with
    least := min h.least sample
    greatest := max h.greatest sample
    total := h.total + sample
    samples := h.samples + 1
    average := (h.total + sample) / (h.samples + 1) % word64
    average_eq := (if_neg (Nat.succ_ne_zero h.samples)).symm }

def accumulate (h : Histogram) (sample : Nat) : Checked Histogram :=
  match h.room sample with
  | .ok () => .ok (h.insert sample)
  | .error f => .error f

def accumulateAll (h : Histogram) (samples : List Nat) : Checked Histogram :=
  samples.foldlM accumulate h

def limit (h : Histogram) : Checked Nat := Unsigned.mul word64 h.count h.width

structure Summary where
  least : Nat
  greatest : Nat
  average : Nat
  overflow : Nat
  samples : Nat
  deriving DecidableEq, Repr

def summary (h : Histogram) : Summary :=
  ⟨h.least, h.greatest, h.average, h.overflow, h.samples⟩

end Histogram

end Jitter

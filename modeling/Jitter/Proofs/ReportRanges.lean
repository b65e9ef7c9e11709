import Jitter.Calibration.Plan
import Jitter.Proofs.Reporting

/-! Which numbers the parts of a report can hold, and that a report made of such parts holds no others. -/

namespace Jitter

structure RunPlan.InRange (p : RunPlan) : Prop where
  warmup : p.warmup < word64
  measured : p.measured < word64
  pause : Signed.Fits p.pause

structure CalibrationPlan.InRange (p : CalibrationPlan) : Prop where
  reads : p.reads < word32
  interval : Signed.Fits p.interval
  loops : p.loops < word64
  passes : p.passes < word32

structure Calibration.InRange (c : Calibration) : Prop where
  readCost : Signed.Fits c.readCost
  cycleReadCost : Signed.Fits c.cycleReadCost
  hz : c.hz < word64
  loopCost : Signed.Fits c.loopCost
  passes : c.passes < word32

structure RunStats.InRange (s : RunStats) : Prop where
  invocations : s.invocations < word64
  samples : s.samples < word64

structure Bucket.InRange (b : Bucket) : Prop where
  index : b.index < word64
  low : b.low < word64
  high : b.high < word64
  count : b.count < word64

structure Histogram.Summary.InRange (s : Summary) : Prop where
  least : s.least < word64
  greatest : s.greatest < word64
  average : s.average < word64
  overflow : s.overflow < word64
  samples : s.samples < word64

structure Histogram.InRange (h : Histogram) : Prop where
  width : h.width < word64
  count : h.count < word64
  buckets : ∀ i, h.buckets.getD i 0 < word64
  overflow : h.overflow < word64
  least : h.least < word64
  greatest : h.greatest < word64
  samples : h.samples < word64

structure Plot.InRange (p : Plot) : Prop where
  width : p.width < word64
  top : p.top < word64
  points : ∀ point ∈ p.points, point.1 < word64 ∧ point.2 < word64

structure Percentile.Standard (p : Percentile) : Prop where
  share : p.share ∈ Histogram.standardPercentiles
  nanos : p.nanos < word64

structure Report.InRange (r : Report) : Prop where
  run : r.run.InRange
  calibration : r.calibration.InRange
  width : r.width < word64
  count : r.count < word64
  summary : r.summary.InRange
  percentiles : ∀ p ∈ r.percentiles, p.Standard
  buckets : ∀ b ∈ r.buckets, b.InRange

theorem mapM_member {α β ε : Type} {f : α → Except ε β} {xs : List α} {bs : List β}
    (made : xs.mapM f = .ok bs) {b : β} (member : b ∈ bs) : ∃ x ∈ xs, f x = .ok b := by
  induction xs generalizing bs with
  | nil =>
      cases made
      cases member
  | cons x xs ih =>
      rw [List.mapM_cons] at made
      rcases except_bind_eq_ok.mp made with ⟨first, now, made⟩
      rcases except_bind_eq_ok.mp made with ⟨others, later, ⟨⟩⟩
      rcases List.mem_cons.mp member with rfl | after
      · exact ⟨x, List.mem_cons_self, now⟩
      · obtain ⟨y, present, same⟩ := ih later after
        exact ⟨y, List.mem_cons_of_mem x present, same⟩

namespace Histogram

variable {h : Histogram}

theorem InRange.summary (ranged : h.InRange) : h.summary.InRange where
  least := ranged.least
  greatest := ranged.greatest
  average := by
    simp only [Histogram.summary, h.average_eq]
    split
    · decide
    · exact Nat.mod_lt _ (by decide)
  overflow := ranged.overflow
  samples := ranged.samples

theorem percentile_share {p : Float} {answer : Percentile} (answered : h.percentile p = .ok answer) :
    answer.share = p ∧ answer.nanos < word64 := by
  obtain ⟨-, answered⟩ := percentile_eq_ok.mp answered
  rcases except_bind_eq_ok.mp answered with ⟨⟨walked, running⟩, -, answered⟩
  simp only at answered
  split at answered
  · rcases except_bind_eq_ok.mp answered with ⟨bound, word, ⟨⟩⟩
    obtain ⟨fits, rfl⟩ := Unsigned.mul_eq_ok.mp word
    exact ⟨rfl, fits⟩
  · rcases except_bind_eq_ok.mp answered with ⟨bound, word, ⟨⟩⟩
    obtain ⟨fits, rfl⟩ := Unsigned.mul_eq_ok.mp word
    exact ⟨rfl, fits⟩

theorem InRange.nonemptyBuckets (ranged : h.InRange) {bs : List Bucket}
    (made : h.nonemptyBuckets = .ok bs) : ∀ b ∈ bs, b.InRange := by
  intro b member
  obtain ⟨⟨index, n⟩, listed, bucket⟩ := mapM_member made member
  rcases mem_countsBelow.mp listed with absurdly | ⟨inside, counted, -⟩
  · cases absurdly
  · have same : n = h.buckets.getD index 0 := counted
    rcases except_bind_eq_ok.mp bucket with ⟨low, begun, bucket⟩
    rcases except_bind_eq_ok.mp bucket with ⟨next, ended, bucket⟩
    rcases except_bind_eq_ok.mp bucket with ⟨high, last, ⟨⟩⟩
    obtain ⟨fits, rfl⟩ := Unsigned.mul_eq_ok.mp begun
    obtain ⟨room, rfl⟩ := Unsigned.add_eq_ok.mp ended
    obtain ⟨-, rfl⟩ := Unsigned.sub_eq_ok.mp last
    exact ⟨inside.trans ranged.count, fits, Nat.lt_of_le_of_lt (Nat.sub_le _ _) room,
      same ▸ ranged.buckets index⟩

/-- The buckets end within a word, and a word can count what is in them. -/
structure Bounded (h : Histogram) : Prop where
  edges : h.count * h.width < word64
  counted : inFirst h.buckets h.count < word64

theorem inFirst_mono (buckets : Array Nat) {j k : Nat} (le : j ≤ k) :
    inFirst buckets j ≤ inFirst buckets k := by
  induction le with
  | refl => exact Nat.le_refl _
  | step _ ih => exact Nat.le_trans ih (Nat.le_add_right _ _)

theorem Bounded.edge_lt (bounded : h.Bounded) {k : Nat} (inside : k ≤ h.count) :
    k * h.width < word64 :=
  Nat.lt_of_le_of_lt (Nat.mul_le_mul_right _ inside) bounded.edges

theorem Bounded.percentileAt_ok (bounded : h.Bounded) (p : Float) (target : Nat) :
    ∃ answer, h.percentileAt p target = .ok answer := by
  have words : ∀ k ≤ h.buckets.size, inFirst h.buckets k < word64 := fun k inside =>
    Nat.lt_of_le_of_lt (inFirst_mono _ inside) bounded.counted
  obtain ⟨k, stop, walked⟩ := @walk_stops target _ words _ (Nat.le_refl _) (by simp)
  rw [Nat.sub_self] at walked
  have ended : walk target h.buckets h.count 0 = .ok (k, inFirst h.buckets k) := walked
  rw [percentileAt, ended]
  by_cases reached : target ≤ inFirst h.buckets k
  · refine ⟨.below p (k * h.width), (if_pos reached).trans ?_⟩
    rw [Unsigned.mul_of_lt (bounded.edge_lt stop.inside)]
    rfl
  · refine ⟨.overflow p (h.count * h.width), (if_neg reached).trans ?_⟩
    rw [limit, Unsigned.mul_of_lt bounded.edges]
    rfl

theorem Bounded.nonemptyBuckets_ok (bounded : h.Bounded) : ∃ bs, h.nonemptyBuckets = .ok bs := by
  apply mapM_ok
  intro listed member
  rcases mem_countsBelow.mp member with absurdly | ⟨inside, -, -⟩
  · cases absurdly
  · exact ⟨_, bucket_ok (bounded.edge_lt inside) _⟩

end Histogram

theorem Report.new_of_bounded {h : Histogram} (bounded : h.Bounded) (title : String) (run : RunPlan)
    (c : Calibration) (verbose : Int) : ∃ r, new title run c h verbose = .ok r := by
  refine new_of_parts (fun p standard => ?_) bounded.nonemptyBuckets_ok title run c verbose
  obtain ⟨answer, answered⟩ := bounded.percentileAt_ok p (Histogram.target p h.samples)
  have share := Histogram.standardPercentiles_valid p standard
  exact ⟨answer, Histogram.percentile_eq_ok.mpr ⟨share, answered⟩⟩

theorem Report.new_inRange {title : String} {run : RunPlan} {c : Calibration} {h : Histogram}
    {verbose : Int} {r : Report} (run_ranged : run.InRange) (c_ranged : c.InRange)
    (h_ranged : h.InRange) (made : Report.new title run c h verbose = .ok r) :
    r.InRange := by
  rcases Report.new_eq_ok.mp made with ⟨percentiles, buckets, resolved, listed, rfl⟩
  refine ⟨run_ranged, c_ranged, h_ranged.width, h_ranged.count, h_ranged.summary, ?_, ?_⟩
  · intro answer member
    obtain ⟨p, standard, answered⟩ := mapM_member resolved member
    obtain ⟨rfl, word⟩ := Histogram.percentile_share answered
    exact ⟨standard, word⟩
  · by_cases asked : 0 < verbose
    · rw [if_pos asked] at listed
      exact h_ranged.nonemptyBuckets listed
    · rw [if_neg asked] at listed
      rw [listed]
      exact fun _ absurdly => nomatch absurdly

end Jitter

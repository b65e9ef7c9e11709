import Jitter.Proofs.Meter
import Jitter.Proofs.Percentile
import Jitter.Proofs.PercentileTargets
import Jitter.Proofs.Readiness
import Jitter.Proofs.ReportWriting

/-! Reports on what runs can record: nothing in them is too large for a word, however far the buckets
reach. -/

namespace Jitter

namespace Meter

variable {ω : Type}

/-- What comes from `m` by taking in samples that fit a signed word. -/
def Records (m m' : Meter ω) : Prop :=
  ∃ xs : List Nat, (∀ x ∈ xs, (x : Int) ≤ Signed.greatest) ∧
    m.histogram.accumulateAll xs = .ok m'.histogram

theorem Records.of_eq {m m' : Meter ω} (same : m'.histogram = m.histogram) : Records m m' := by
  refine ⟨[], by simp, ?_⟩
  rw [same]
  rfl

theorem Records.trans {m m' m'' : Meter ω} (first : Records m m') (second : Records m' m'') :
    Records m m'' := by
  rcases first with ⟨xs, small, taken⟩
  rcases second with ⟨ys, later, rest⟩
  refine ⟨xs ++ ys, ?_, ?_⟩
  · intro x member
    rcases List.mem_append.mp member with member | member
    · exact small x member
    · exact later x member
  · rw [Histogram.accumulateAll, List.foldlM_append]
    exact except_bind_eq_ok.mpr ⟨_, taken, rest⟩

/-- Whatever becomes of `act`, it has at most recorded samples. -/
def Recording {α : Type} (act : Action (Meter ω) α) : Prop := ∀ m, Records m (remains (act m))

theorem Recording.bind {α β : Type} {act : Action (Meter ω) α} {next : α → Action (Meter ω) β}
    (first : Recording act) (second : ∀ a, Recording (next a)) : Recording (act >>= next) := by
  intro m
  have now := first m
  cases ran : act m with
  | ok a m' =>
      rw [ran] at now
      rw [bind_of_ok ran]
      exact now.trans (second a m')
  | error e m' =>
      rw [ran] at now
      rw [bind_of_error ran]
      exact now

theorem Recording.pure {α : Type} (a : α) : Recording (pure a : Action (Meter ω) α) :=
  fun _ => .of_eq rfl

theorem Recording.checked {α : Type} (x : Checked α) :
    Recording (liftM x : Action (Meter ω) α) := by
  intro m
  cases x with
  | ok a => exact .of_eq rfl
  | error f => exact .of_eq rfl

variable [Clock ω]

theorem sampleOf_le (elapsed overhead : Int) :
    (sampleOf elapsed overhead : Int) ≤ Signed.greatest := by
  simp only [sampleOf, Signed.saturate, Signed.least, Signed.greatest]
  omega

theorem sample_le {op : Operation ω} {plan : RunPlan} {c : Calibration} {x : Nat} {w w' : ω}
    (sampled : sample op plan c w = .ok x w') : (x : Int) ≤ Signed.greatest := by
  rcases bind_eq_ok.mp sampled with ⟨ns, v, _, rest⟩
  rcases bind_eq_ok.mp rest with ⟨_, u, _, ended⟩
  cases ended
  exact sampleOf_le _ _

omit [Clock ω] in
theorem record_recording {x : Nat} (small : (x : Int) ≤ Signed.greatest) :
    Recording (record (ω := ω) x) := by
  intro m
  rw [record]
  cases room : m.histogram.room x with
  | error f => exact .of_eq rfl
  | ok _ =>
      have taken : m.histogram.accumulate x = .ok (m.histogram.insert x) := by
        rw [Histogram.accumulate, room]
      refine ⟨[x], by simpa using small, ?_⟩
      rw [Histogram.accumulateAll, List.foldlM_cons, taken]
      rfl

theorem turn_recording (op : Operation ω) (plan : RunPlan) (iteration samples : Nat) :
    Recording (turn op plan iteration samples) := by
  intro m
  rw [turn, run_get_bind]
  cases sampled : sample op plan m.calibration m.clock with
  | error e w =>
      rw [bind_of_error (onClock_of_error sampled)]
      exact .of_eq rfl
  | ok x w =>
      rw [bind_of_ok (onClock_of_ok sampled)]
      split
      · exact ((record_recording (sample_le sampled)).bind fun _ => .checked _) { m with clock := w }
      · exact .of_eq rfl

theorem turns_recording (op : Operation ω) (plan : RunPlan) (remaining iteration samples : Nat) :
    Recording (turns op plan remaining iteration samples) := by
  induction remaining generalizing iteration samples with
  | zero => exact .pure samples
  | succ remaining ih =>
      exact (turn_recording op plan iteration samples).bind fun counted => ih _ counted

theorem ensureReady_recording (plan : RunPlan) : Recording (ensureReady (ω := ω) plan) := by
  intro m
  rw [ensureReady_eq]
  cases firstOf (obstacles plan m) with
  | ok _ => exact .of_eq (warned_histogram m)
  | error e => exact .of_eq rfl

theorem run_recording (plan : RunPlan) (op : Operation ω) : Recording (run plan op) := by
  refine (ensureReady_recording plan).bind fun _ => .bind ?counted fun invocations =>
    (turns_recording op plan invocations 0 0).bind fun _ => .pure _
  case counted =>
    intro m
    cases plan.iterations with
    | ok n => exact .of_eq rfl
    | error e => exact .of_eq rfl

end Meter

namespace Histogram

theorem edge_lt {width i x : Nat} (word : width < word64) (low : i * width ≤ x)
    (sampled : (x : Int) ≤ Signed.greatest) : (i + 1) * width < word64 := by
  rw [Nat.add_mul, Nat.one_mul]
  cases i with
  | zero => simpa using word
  | succ j =>
      have narrow : width ≤ (j + 1) * width := Nat.le_mul_of_pos_left _ (Nat.succ_pos j)
      simp only [Signed.greatest, word64] at *
      omega

variable {h : Histogram} {width count : Nat} {samples : Multiset Nat}

theorem Describes.edge_lt (d : Describes h width count samples) (word : width < word64)
    (sampled : ∀ x ∈ samples, (x : Int) ≤ Signed.greatest) {i : Nat} (inside : i < count)
    (some : h.buckets.getD i 0 ≠ 0) : (i + 1) * width < word64 := by
  rw [Array.getD_eq_getD_getElem?, d.bucket_eq i inside, Option.getD_some] at some
  obtain ⟨x, member, low, -⟩ := Multiset.countP_pos.mp (Nat.pos_of_ne_zero some)
  exact Histogram.edge_lt word low (sampled x member)

theorem Stop.last_bucket {target k : Nat} (stop : Stop h.buckets target (k + 1))
    (reached : target ≤ inFirst h.buckets (k + 1)) : h.buckets.getD k 0 ≠ 0 := by
  have early := stop.early k (Nat.lt_succ_self k)
  rw [inFirst] at reached
  omega

theorem Describes.percentileAt_ok (d : Describes h width count samples) (word : width < word64)
    (fewer : samples.card < word64) (sampled : ∀ x ∈ samples, (x : Int) ≤ Signed.greatest)
    (p : Float) {target : Nat} (most : target ≤ samples.card) :
    ∃ answer, h.percentileAt p target = .ok answer := by
  obtain ⟨k, stop, inside, answered⟩ := d.percentileAt_eq fewer p target
  rw [← d.inFirst_eq inside] at answered
  by_cases reached : target ≤ inFirst h.buckets k
  · have fits : k * width < word64 := by
      cases k with
      | zero => simp
      | succ i => exact d.edge_lt word sampled inside (stop.last_bucket reached)
    rw [answered, if_pos reached, Unsigned.mul_of_lt fits]
    exact ⟨_, rfl⟩
  -- No bucket is left, so a sample is past the last of them, which ends below it.
  · have ended : k = count := by
      have last : ¬k < h.buckets.size := fun short => reached (stop.late short)
      rw [d.size_eq] at last
      omega
    have fits : count * width < word64 := by
      by_contra large
      have below : samples.countP (· < count * width) = samples.card := by
        apply Multiset.countP_eq_card.mpr
        intro x member
        have small := sampled x member
        simp only [Signed.greatest, word64] at *
        omega
      rw [ended, d.inFirst_eq (Nat.le_refl _), below] at reached
      exact reached most
    rw [answered, if_neg reached, Unsigned.mul_of_lt fits]
    exact ⟨_, rfl⟩

theorem mem_countsBelow {buckets : Array Nat} {k : Nat} {found : List (Nat × Nat)}
    {listed : Nat × Nat} :
    listed ∈ countsBelow buckets k found ↔
      listed ∈ found ∨
        listed.1 < k ∧ listed.2 = buckets.getD listed.1 0 ∧ buckets.getD listed.1 0 ≠ 0 := by
  induction k generalizing found with
  | zero => simp [countsBelow]
  | succ k ih =>
      have last : listed ∈ (if buckets.getD k 0 = 0 then found else (k, buckets.getD k 0) :: found) ↔
          listed ∈ found ∨
            listed.1 = k ∧ listed.2 = buckets.getD listed.1 0 ∧ buckets.getD listed.1 0 ≠ 0 := by
        split
        · rename_i none
          refine ⟨.inl, ?_⟩
          rintro (early | ⟨rfl, -, some⟩)
          · exact early
          · exact absurd none some
        · rename_i some
          rw [List.mem_cons]
          constructor
          · rintro (rfl | early)
            · exact .inr ⟨rfl, rfl, some⟩
            · exact .inl early
          · rintro (early | ⟨rfl, counted, -⟩)
            · exact .inr early
            · exact .inl (Prod.ext rfl counted)
      simp only [countsBelow, ih, last, Nat.lt_succ_iff_lt_or_eq]
      tauto

theorem bucket_ok {i : Nat} (fits : (i + 1) * h.width < word64) (n : Nat) :
    h.bucket i n = .ok ⟨i, i * h.width, (i + 1) * h.width - 1, n⟩ := by
  rw [Nat.add_mul, Nat.one_mul] at fits ⊢
  have low : Unsigned.mul word64 i h.width = .ok (i * h.width) := Unsigned.mul_of_lt (by omega)
  have next : Unsigned.add word64 (i * h.width) h.width = .ok (i * h.width + h.width) :=
    Unsigned.add_of_lt fits
  have high : Unsigned.sub (i * h.width + h.width) 1 = .ok (i * h.width + h.width - 1) := by
    have positive := h.positive
    exact if_pos (by omega)
  refine except_bind_eq_ok.mpr ⟨_, low, except_bind_eq_ok.mpr ⟨_, next, ?_⟩⟩
  exact except_bind_eq_ok.mpr ⟨_, high, rfl⟩

end Histogram

theorem mapM_ok {α β ε : Type} {f : α → Except ε β} {xs : List α}
    (each : ∀ x ∈ xs, ∃ b, f x = .ok b) : ∃ bs, xs.mapM f = .ok bs := by
  induction xs with
  | nil => exact ⟨[], rfl⟩
  | cons x xs ih =>
      obtain ⟨b, now⟩ := each x List.mem_cons_self
      obtain ⟨bs, later⟩ := ih fun y member => each y (List.mem_cons_of_mem x member)
      rw [List.mapM_cons]
      exact ⟨b :: bs, except_bind_eq_ok.mpr ⟨b, now, except_bind_eq_ok.mpr ⟨bs, later, rfl⟩⟩⟩

theorem Report.new_of_parts {h : Histogram}
    (answered : ∀ p ∈ Histogram.standardPercentiles, ∃ answer, h.percentile p = .ok answer)
    (listed : ∃ buckets, h.nonemptyBuckets = .ok buckets) (title : String) (run : RunPlan)
    (c : Calibration) (verbose : Int) : ∃ r, new title run c h verbose = .ok r := by
  obtain ⟨percentiles, resolved⟩ := mapM_ok answered
  rcases listed with ⟨buckets, listed⟩
  by_cases asked : 0 < verbose
  · exact ⟨_, new_eq_ok.mpr ⟨percentiles, buckets, resolved, by rwa [if_pos asked], rfl⟩⟩
  · exact ⟨_, new_eq_ok.mpr ⟨percentiles, [], resolved, by rw [if_neg asked], rfl⟩⟩

theorem ReportBuffer.appendAll_values (ps : List Piece) (b : ReportBuffer) (f : Fault)
    (b' : ReportBuffer) : appendAll (ps.map .ok) b ≠ .error (.fault f) b' := by
  induction ps generalizing b with
  | nil => exact fun absurdly => nomatch absurdly
  | cons p ps ih =>
      rw [List.map_cons, appendAll_cons]
      split
      · exact ih _
      · exact fun absurdly => nomatch absurdly

namespace Histogram

theorem after_accumulate (h : Histogram) (xs : List Nat) :
    h.after (xs.map .accumulate) = h.accumulateAll xs := List.foldlM_map ..

variable {h : Histogram} {width count : Nat} {samples : Multiset Nat}

theorem Describes.percentile_ok (d : Describes h width count samples) (word : width < word64)
    (fewer : samples.card < 2 ^ 52) (sampled : ∀ x ∈ samples, (x : Int) ≤ Signed.greatest)
    {p : Float} (share : isPercentile p = true) : ∃ answer, h.percentile p = .ok answer := by
  have most : target p h.samples ≤ samples.card := by
    rw [d.samples_eq]
    exact Rounding.target_le share fewer
  obtain ⟨answer, answered⟩ := d.percentileAt_ok word (by simp only [word64]; omega) sampled p most
  exact ⟨answer, percentile_eq_ok.mpr ⟨share, answered⟩⟩

theorem Describes.nonemptyBuckets_ok (d : Describes h width count samples) (word : width < word64)
    (sampled : ∀ x ∈ samples, (x : Int) ≤ Signed.greatest) :
    ∃ buckets, h.nonemptyBuckets = .ok buckets := by
  apply mapM_ok
  intro listed member
  rcases mem_countsBelow.mp member with absurdly | ⟨inside, -, some⟩
  · cases absurdly
  · rw [Histogram.count, d.size_eq] at inside
    have fits := d.edge_lt word sampled inside some
    rw [← d.width_eq] at fits
    exact ⟨_, bucket_ok fits _⟩

/-- Reports on what runs can record have all their values, even when the last bucket ends past all
words. -/
theorem reports_without_overflow (width : Nat) (positive : 0 < width) (word : width < word64)
    (steps : List Step)
    (sampled : ∀ x : Nat, Step.accumulate x ∈ steps → (x : Int) ≤ Signed.greatest)
    (fewer : ∀ past, past <+: steps → (recent past).card < 2 ^ 52) :
    ∃ fresh h, new width = .ok fresh ∧ fresh.after steps = .ok h ∧
      (∀ p, isPercentile p = true →
        target p h.samples ≤ h.samples ∧ ∃ answer, h.percentile p = .ok answer) ∧
      (∃ buckets, h.nonemptyBuckets = .ok buckets) ∧
      (∀ title top, ∃ plot, Plot.ofHistogram h title top = .ok plot) ∧
      (∀ title run c verbose, ∃ report, Report.new title run c h verbose = .ok report) ∧
      (∀ verbose b f b', ReportBuffer.appendAll (h.reportPieces verbose) b ≠ .error (.fault f) b') ∧
      ∀ (ω : Type) [Clock ω] (plan : RunPlan) (op : Meter.Operation ω) (m : Meter ω),
        ∃ xs : List Nat, (∀ x ∈ xs, (x : Int) ≤ Signed.greatest) ∧
          m.histogram.after (xs.map .accumulate) =
            .ok (remains (Meter.run plan op m)).histogram := by
  have start : Describes (blank width positive #[]) width 0 0 := blank_describes width positive 0
  obtain ⟨h, reached, d⟩ := describes_after start steps
    (fun x member => by
      have small := sampled x member
      simp only [Signed.greatest, word64] at *
      omega)
    (fun past early => Nat.lt_trans (fewer past early) (by decide))
  have card := fewer steps (List.prefix_refl _)
  have small : ∀ x ∈ recent steps, (x : Int) ≤ Signed.greatest :=
    fun x member => sampled x (mem_recent member)
  have percentiles : ∀ p, isPercentile p = true → ∃ answer, h.percentile p = .ok answer :=
    fun p share => d.percentile_ok word card small share
  obtain ⟨buckets, listed⟩ := d.nonemptyBuckets_ok word small
  have report : ∀ title run c verbose, ∃ report, Report.new title run c h verbose = .ok report := by
    intro title run c verbose
    obtain ⟨answers, answered⟩ := mapM_ok fun p member =>
      percentiles p (standardPercentiles_valid p member)
    by_cases asked : 0 < verbose
    · exact ⟨_, Report.new_eq_ok.mpr ⟨answers, buckets, answered, by rwa [if_pos asked], rfl⟩⟩
    · exact ⟨_, Report.new_eq_ok.mpr ⟨answers, [], answered, by rw [if_neg asked], rfl⟩⟩
  refine ⟨_, h, dif_pos positive, reached, ?_, ⟨buckets, listed⟩, ?_, report, ?_, ?_⟩
  · intro p share
    refine ⟨Rounding.target_le share ?_, percentiles p share⟩
    rwa [d.samples_eq]
  · intro title top
    exact ⟨_, except_bind_eq_ok.mpr ⟨buckets, listed, rfl⟩⟩
  · intro verbose b f b'
    obtain ⟨made, told⟩ := report "" .standard .new verbose
    have pieces := (h.reportPieces_eq_iff verbose "" .standard .new _).mpr ⟨made, told, rfl⟩
    rw [pieces]
    exact ReportBuffer.appendAll_values _ _ _ _
  · intro ω _ plan op m
    rcases Meter.run_recording plan op m with ⟨xs, fit, taken⟩
    exact ⟨xs, fit, (after_accumulate m.histogram xs).trans taken⟩

/-- The last of eight buckets would end past all words. -/
theorem report_of_vast_buckets :
    ∃ fresh h report, new 4611686018427387904 = .ok fresh ∧
      fresh.after [.init 8, .accumulate 9223372036854775807, .accumulate 5] = .ok h ∧
      h.limit = .error .mulOverflow ∧ Report.new "vast" .standard .new h 1 = .ok report := by
  obtain ⟨fresh, h, made, reached, -, -, -, reports, -⟩ := reports_without_overflow
    4611686018427387904 (by decide) (by decide)
    [.init 8, .accumulate 9223372036854775807, .accumulate 5]
    (by
      intro x member
      simp at member
      simp only [Signed.greatest]
      omega)
    (fun past early =>
      Nat.lt_of_le_of_lt ((card_recent_le past).trans early.length_le) (by decide))
  obtain ⟨report, told⟩ := reports "vast" .standard .new 1
  refine ⟨fresh, h, report, made, reached, ?_, told⟩
  cases made
  cases reached
  rfl

end Histogram

end Jitter

import Jitter.Proofs.HistogramContents

/-! A histogram after any history of sizings and samples, refused sizings among them. -/

namespace Jitter.Histogram

inductive Step where
  | init (count : Nat)
  | accumulate (sample : Nat)
  deriving DecidableEq, Repr

/-- A sizing that is refused, or that breaks off, leaves the histogram as it was. -/
def perform (h : Histogram) : Step → Checked Histogram
  | .init count =>
    match h.init count with
    | .ok h => .ok h
    | .error _ => .ok h
  | .accumulate sample => h.accumulate sample

def after (h : Histogram) (steps : List Step) : Checked Histogram := steps.foldlM perform h

/-- The first number of buckets that can be had, and none before there is one. -/
def firstSize : List Step → Nat
  | [] => 0
  | .init count :: rest => if 0 < count ∧ count < bucketLimit then count else firstSize rest
  | .accumulate _ :: rest => firstSize rest

/-- The samples of a history, the last step first, back to the last sizing for `count` buckets. -/
def samplesSince (count : Nat) : List Step → List Nat
  | [] => []
  | .init k :: past => if 0 < count ∧ k = count then [] else samplesSince count past
  | .accumulate sample :: past => sample :: samplesSince count past

/-- The samples that count: all since the histogram was last emptied. -/
def recent (steps : List Step) : Multiset Nat := samplesSince (firstSize steps) steps.reverse

theorem after_append (h : Histogram) (past rest : List Step) :
    h.after (past ++ rest) = (h.after past).bind (after · rest) := by
  simp [after, List.foldlM_append, bind]

theorem firstSize_append (past rest : List Step) :
    firstSize (past ++ rest) = if 0 < firstSize past then firstSize past else firstSize rest := by
  induction past with
  | nil => rfl
  | cons step past ih =>
      cases step with
      | accumulate sample => exact ih
      | init count =>
          simp only [List.cons_append, firstSize, ih]
          by_cases sized : 0 < count ∧ count < bucketLimit
          · simp [sized]
          · simp [sized]

theorem firstSize_lt (steps : List Step) : firstSize steps < bucketLimit := by
  induction steps with
  | nil => decide
  | cons step rest ih =>
      cases step with
      | accumulate sample => exact ih
      | init count =>
          rw [firstSize]
          split
          · rename_i sized
            exact sized.2
          · exact ih

theorem mem_samplesSince {count sample : Nat} {past : List Step}
    (member : sample ∈ samplesSince count past) : Step.accumulate sample ∈ past := by
  induction past with
  | nil => cases member
  | cons step past ih =>
      cases step with
      | init k =>
          rw [samplesSince] at member
          split at member
          · cases member
          · exact List.mem_cons_of_mem _ (ih member)
      | accumulate other =>
          rw [samplesSince, List.mem_cons] at member
          rcases member with rfl | member
          · exact List.mem_cons_self
          · exact List.mem_cons_of_mem _ (ih member)

theorem mem_recent {sample : Nat} {steps : List Step} (member : sample ∈ recent steps) :
    Step.accumulate sample ∈ steps :=
  List.mem_reverse.mp (mem_samplesSince (Multiset.mem_coe.mp member))

theorem length_samplesSince_le (count : Nat) (past : List Step) :
    (samplesSince count past).length ≤ past.length := by
  induction past with
  | nil => rfl
  | cons step past ih =>
      cases step with
      | init k =>
          rw [samplesSince, List.length_cons]
          split
          · exact Nat.zero_le _
          · omega
      | accumulate sample => simpa [samplesSince] using ih

theorem card_recent_le (steps : List Step) : (recent steps).card ≤ steps.length := by
  simpa [recent] using length_samplesSince_le (firstSize steps) steps.reverse

theorem recent_accumulate (past : List Step) (sample : Nat) :
    recent (past ++ [.accumulate sample]) = sample ::ₘ recent past := by
  have size : firstSize (past ++ [.accumulate sample]) = firstSize past := by
    rw [firstSize_append]
    split
    · rfl
    · rename_i unsized
      exact (Nat.eq_zero_of_not_pos unsized).symm
  simp [recent, size, samplesSince]

variable {h : Histogram} {width count : Nat} {samples : Multiset Nat}

theorem init_zero (h : Histogram) :
    h.init 0 = .error (.error (.invalidConfig "bucket count must be non-zero")) := rfl

theorem Describes.init_other (d : Describes h width count samples) {k : Nat} (sized : 0 < count)
    (positive : 0 < k) (other : k ≠ count) :
    h.init k = .error (.error (.bucketCountMismatch count k)) := by
  have mismatch : h.isSized ∧ k ≠ h.count := by
    simp [h.isSized_iff, Histogram.count, d.size_eq, sized, other]
  rw [init, if_neg (by omega), if_pos mismatch, Histogram.count, d.size_eq]

theorem Describes.init_vast (d : Describes h width 0 samples) {k : Nat} (vast : bucketLimit ≤ k) :
    h.init k = .error (.fault .capacityOverflow) := by
  have unsized : ¬(h.isSized ∧ k ≠ h.count) := by
    simp [h.isSized_iff, Histogram.count, d.size_eq]
  have positive : k ≠ 0 := by
    intro zero
    rw [zero] at vast
    exact absurd vast (by decide)
  rw [init, if_neg positive, if_neg unsized, if_pos vast]

theorem Describes.init_accepted (d : Describes h width count samples) {k : Nat} (positive : 0 < k)
    (modest : k < bucketLimit) (fitting : count = 0 ∨ k = count) :
    ∃ emptied, h.init k = .ok emptied ∧ Describes emptied width k 0 := by
  have fits : ¬(h.isSized ∧ k ≠ h.count) := by
    simp only [h.isSized_iff, Histogram.count, d.size_eq]
    omega
  refine ⟨blank h.width h.positive (Array.replicate k 0), ?_, ?_⟩
  · rw [init, if_neg (by omega), if_neg fits, if_neg (by omega)]
  · simpa only [d.width_eq] using blank_describes h.width h.positive k

theorem perform_refused {k : Nat} {why : Failure} (refused : h.init k = .error why) :
    h.perform (.init k) = .ok h := by
  rw [perform, refused]

theorem perform_accepted {k : Nat} {emptied : Histogram} (accepted : h.init k = .ok emptied) :
    h.perform (.init k) = .ok emptied := by
  rw [perform, accepted]

theorem Describes.perform_init {past : List Step}
    (d : Describes h width (firstSize past) (recent past)) (k : Nat) :
    ∃ next, h.perform (.init k) = .ok next ∧
      Describes next width (firstSize (past ++ [.init k])) (recent (past ++ [.init k])) := by
  have limit := firstSize_lt past
  have since : recent (past ++ [.init k]) =
      samplesSince (firstSize (past ++ [.init k])) (.init k :: past.reverse) := by
    simp [recent]
  rw [since, samplesSince]
  by_cases sized : 0 < firstSize past
  · have kept : firstSize (past ++ [.init k]) = firstSize past := by
      rw [firstSize_append, if_pos sized]
    rw [kept]
    by_cases same : k = firstSize past
    · obtain ⟨emptied, accepted, empty⟩ :=
        d.init_accepted (same ▸ sized) (same ▸ limit) (.inr same)
      refine ⟨emptied, perform_accepted accepted, ?_⟩
      simpa [sized, same] using empty
    · refine ⟨h, ?_, by simpa [same, recent] using d⟩
      by_cases positive : 0 < k
      · exact perform_refused (d.init_other sized positive same)
      · obtain rfl : k = 0 := by omega
        exact perform_refused (init_zero h)
  · have unsized : firstSize past = 0 := by omega
    rw [unsized] at d
    by_cases sizes : 0 < k ∧ k < bucketLimit
    · have first : firstSize (past ++ [.init k]) = k := by
        rw [firstSize_append, if_neg sized, firstSize, if_pos sizes]
      rcases d.init_accepted sizes.1 sizes.2 (.inl rfl) with ⟨emptied, accepted, empty⟩
      refine ⟨emptied, perform_accepted accepted, ?_⟩
      simpa [first, sizes.1] using empty
    · have none : firstSize (past ++ [.init k]) = 0 := by
        rw [firstSize_append, if_neg sized, firstSize, if_neg sizes, firstSize]
      refine ⟨h, ?_, by simpa [none, recent, unsized] using d⟩
      by_cases positive : 0 < k
      · exact perform_refused (d.init_vast (by omega))
      · obtain rfl : k = 0 := by omega
        exact perform_refused (init_zero h)

theorem Describes.perform_accumulate {past : List Step} {x : Nat}
    (d : Describes h width (firstSize past) (recent past))
    (words : ∀ y, Step.accumulate y ∈ past ++ [.accumulate x] → y < word64)
    (fewer : (recent (past ++ [.accumulate x])).card < word64) :
    ∃ next, h.perform (.accumulate x) = .ok next ∧
      Describes next width (firstSize (past ++ [.accumulate x]))
        (recent (past ++ [.accumulate x])) := by
  have size : firstSize (past ++ [.accumulate x]) = firstSize past := by
    rw [firstSize_append]
    split
    · rfl
    · simp only [firstSize]
      omega
  have word : x < word64 := words x (by simp)
  rw [recent_accumulate, Multiset.card_cons] at fewer
  refine ⟨h.insert x, d.accumulate word (fun y member => words y ?_) fewer, ?_⟩
  · exact List.mem_append_left _ (mem_recent member)
  · rw [size, recent_accumulate]
    exact d.insert word

theorem describes_after {fresh : Histogram} (start : Describes fresh width 0 0) (steps : List Step)
    (words : ∀ x, Step.accumulate x ∈ steps → x < word64)
    (fewer : ∀ past, past <+: steps → (recent past).card < word64) :
    ∃ h, fresh.after steps = .ok h ∧ Describes h width (firstSize steps) (recent steps) := by
  -- A history is read from its end, so the step that is taken off is the last one.
  induction steps using List.reverseRecOn with
  | nil => exact ⟨fresh, rfl, start⟩
  | append_singleton past step ih =>
      obtain ⟨h, reached, d⟩ := ih
        (fun x member => words x (List.mem_append_left _ member))
        (fun before early => fewer before (early.trans (List.prefix_append past [step])))
      have last : fresh.after (past ++ [step]) = h.perform step := by
        rw [after_append, reached]
        exact List.foldlM_cons .. |>.trans (bind_pure _)
      rw [last]
      cases step with
      | init k => exact d.perform_init k
      | accumulate x =>
          exact d.perform_accumulate words (fewer _ (List.prefix_refl _))

theorem firstSize_stays {past : List Step} (sized : 0 < firstSize past) (rest : List Step) :
    firstSize (past ++ rest) = firstSize past := by
  rw [firstSize_append, if_pos sized]

/-- After any history the buckets are as many as were first accepted, all figures are those of the
samples since the histogram was last emptied, and a sizing that is refused changes none of them. -/
theorem history_determines_histogram (width : Nat) (positive : 0 < width) (steps : List Step)
    (words : ∀ x, Step.accumulate x ∈ steps → x < word64)
    (fewer : ∀ past, past <+: steps → (recent past).card < word64) :
    ∃ fresh h, new width = .ok fresh ∧ fresh.after steps = .ok h ∧
      Describes h width (firstSize steps) (recent steps) ∧
      h.average = (recent steps).sum / (recent steps).card ∧
      (∀ other, Describes other width (firstSize steps) (recent steps) → other = h) ∧
      (∀ past rest, steps = past ++ rest →
        ∃ before, fresh.after past = .ok before ∧ before.after rest = .ok h ∧
          (0 < before.count → h.count = before.count)) ∧
      (∀ k, k = 0 ∨ 0 < h.count ∧ k ≠ h.count →
        (∃ why, h.init k = .error (.error why)) ∧ h.perform (.init k) = .ok h) ∧
      (∀ k, 0 < k → h.count = 0 ∨ k = h.count →
        if k < bucketLimit then
          ∃ emptied, h.init k = .ok emptied ∧ h.perform (.init k) = .ok emptied ∧
            Describes emptied width k 0
        else h.init k = .error (.fault .capacityOverflow) ∧ h.perform (.init k) = .ok h) := by
  have start : Describes (blank width positive #[]) width 0 0 := blank_describes width positive 0
  rcases describes_after start steps words fewer with ⟨h, reached, d⟩
  refine ⟨blank width positive #[], h, dif_pos positive, reached, d, ?average, ?same, ?size,
    ?refused, ?accepted⟩
  case average => exact d.average_eq fun y member => words y (mem_recent member)
  case same => exact fun other e => e.unique d
  case size =>
    intro past rest parts
    subst parts
    obtain ⟨before, halfway, b⟩ := describes_after start past
      (fun x member => words x (List.mem_append_left _ member))
      (fun early prior => fewer early (prior.trans (List.prefix_append past rest)))
    refine ⟨before, halfway, ?_, ?_⟩
    · rw [after_append, halfway] at reached
      exact reached
    · intro sized
      rw [count, b.size_eq] at sized
      rw [count, count, d.size_eq, b.size_eq, firstSize_stays sized]
  case refused =>
    intro k reason
    have why : ∃ why, h.init k = .error (.error why) := by
      by_cases zero : k = 0
      · exact ⟨_, zero ▸ init_zero h⟩
      · rw [count, d.size_eq] at reason
        rcases reason.resolve_left zero with ⟨sized, other⟩
        exact ⟨_, d.init_other sized (Nat.pos_of_ne_zero zero) other⟩
    exact ⟨why, perform_refused why.choose_spec⟩
  case accepted =>
    intro k some fitting
    rw [count, d.size_eq] at fitting
    split
    · rename_i modest
      rcases d.init_accepted some modest fitting with ⟨emptied, accepted, empty⟩
      exact ⟨emptied, accepted, perform_accepted accepted, empty⟩
    · rename_i vast
      have unsized : firstSize steps = 0 := by
        have limit := firstSize_lt steps
        omega
      have breaks := (unsized ▸ d).init_vast (Nat.le_of_not_lt vast)
      exact ⟨breaks, perform_refused breaks⟩

/-- Samples before the first sizing, two refused sizings and a reset. -/
theorem history_with_a_reset :
    ∃ fresh h, new 10 = .ok fresh ∧
      fresh.after [.accumulate 5, .init 0, .init 3, .accumulate 7, .init 3, .accumulate 12, .init 4,
        .accumulate 35, .accumulate 12] = .ok h ∧
      h.buckets = #[0, 2, 0] ∧ h.overflow = 1 ∧ h.total = 59 ∧ h.average = 19 := by
  obtain ⟨fresh, h, made, reached, d, average, -⟩ := history_determines_histogram 10 (by decide)
    [.accumulate 5, .init 0, .init 3, .accumulate 7, .init 3, .accumulate 12, .init 4,
      .accumulate 35, .accumulate 12]
    (by
      intro x member
      simp at member
      simp only [word64]
      omega)
    (fun past early =>
      Nat.lt_of_le_of_lt ((card_recent_le past).trans early.length_le) (by decide))
  refine ⟨fresh, h, made, reached, ?_, d.overflow_eq, d.total_eq, average⟩
  apply Array.ext_getElem?
  intro i
  by_cases below : i < 3
  · rw [d.bucket_eq i below]
    interval_cases i <;> rfl
  · rw [Array.getElem?_eq_none (by rw [d.size_eq]; exact Nat.le_of_not_lt below),
      Array.getElem?_eq_none (Nat.le_of_not_lt below)]

end Jitter.Histogram

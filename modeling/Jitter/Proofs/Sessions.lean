import Jitter.Program
import Jitter.Proofs.ArgumentRanges
import Jitter.Proofs.Keeping
import Jitter.Proofs.RunReports

/-! What a session puts together, run by run: every run adds its own text or report, and its own script. -/

namespace Jitter

namespace ReportBuffer

variable {pieces : Pieces} {ps qs : List Piece} {b b' : ReportBuffer}

def textOf (pieces : Pieces) : Except Failure String := joined <$> pieces.mapM id

theorem mapM_values (ps : List Piece) :
    (ps.map .ok : Pieces).mapM id = .ok ps := by
  induction ps with
  | nil => rfl
  | cons p ps ih =>
      rw [List.map_cons, List.mapM_cons, ih]
      rfl

theorem textOf_values (ps : List Piece) : textOf (ps.map .ok) = .ok (joined ps) := by
  rw [textOf, mapM_values]
  rfl

theorem joined_append (ps qs : List Piece) : joined (ps ++ qs) = joined ps ++ joined qs := by
  simp [joined, String.join_append]

theorem extended_append (b : ReportBuffer) (ps qs : List Piece) :
    (b.extended ps ps).extended qs qs = b.extended (ps ++ qs) (ps ++ qs) := by
  simp [extended, joined_append, String.append_assoc]

theorem appendAll_of_excess (start : b.length < b.capacity)
    (full : b.capacity ≤ b.length + bytes ps) :
    ∃ needed b', b.capacity ≤ needed ∧
      appendAll (ps.map .ok) b = .error (.error (.bufferExhausted b.capacity needed)) b' := by
  have some : ps ≠ [] := by
    rintro rfl
    rw [bytes_nil] at full
    omega
  obtain ⟨j, least⟩ := exists_least_overfull some full
  exact ⟨_, _, least.1.2, appendAll_of_least least⟩

end ReportBuffer

theorem Plot.pieces_values (p : Plot) :
    p.pieces = (p.script.map Piece.plain).map .ok := by
  rw [Plot.pieces, List.map_map]
  rfl

namespace Program.Session

open CommandLine (Arguments)
open ReportBuffer (bytes joined textOf)

variable {ω : Type}

def told (a : Arguments) (m : Meter ω) : Except Failure String := textOf (lines a m)

def drawn (a : Arguments) (m : Meter ω) : Except Failure String := do
  textOf (← plotted a m).pieces

structure Adds (a : Arguments) (m : Meter ω) (ps qs : List Piece) (rs : List Report) : Prop where
  lines_eq : if a.json then ps = [] else lines a m = ps.map .ok
  reports_eq : if a.json then ∃ r, reported a m = .ok r ∧ rs = [r] else rs = []
  script_eq : if a.gnuplot.isSome then
    ∃ plot, plotted a m = .ok plot ∧ plot.pieces = qs.map .ok
    else qs = []

variable {a : Arguments} {s : Session ω} {m : Meter ω} {ps qs : List Piece} {rs : List Report}

theorem report_of_room (adds : Adds a s.meter ps qs rs)
    (room : s.results.length + bytes ps < s.results.capacity) :
    report a s =
      .ok () { s with results := s.results.extended ps ps, reports := s.reports ++ rs } := by
  have lines := adds.lines_eq
  have reports := adds.reports_eq
  simp only [report]
  rw [run_get_bind]
  by_cases json : a.json
  · simp only [if_pos json] at lines reports ⊢
    obtain ⟨r, made, rfl⟩ := reports
    rw [bind_of_ok (Action.except_eq_ok.mpr ⟨made, rfl⟩), lines, ReportBuffer.extended_nil]
    rfl
  · simp only [if_neg json] at lines reports ⊢
    rw [lines, reports, List.append_nil]
    exact Action.within_of_ok (ReportBuffer.appendAll_of_room (.inr room))

theorem report_of_excess (adds : Adds a s.meter ps qs rs)
    (start : s.results.length < s.results.capacity)
    (full : s.results.capacity ≤ s.results.length + bytes ps) :
    ∃ needed s', s.results.capacity ≤ needed ∧
      report a s = .error (.error (.bufferExhausted s.results.capacity needed)) s' := by
  have lines := adds.lines_eq
  by_cases json : a.json
  · simp only [if_pos json] at lines
    rw [lines, ReportBuffer.bytes_nil] at full
    omega
  · simp only [if_neg json] at lines
    obtain ⟨needed, b, least, refused⟩ := ReportBuffer.appendAll_of_excess start full
    refine ⟨needed, { s with results := b }, least, ?_⟩
    simp only [report]
    rw [run_get_bind]
    simp only [if_neg json, lines]
    exact Action.within_of_error refused

theorem draw_of_room (adds : Adds a s.meter ps qs rs)
    (room : s.plots.length + bytes qs < s.plots.capacity) :
    draw a s = .ok () { s with plots := s.plots.extended qs qs } := by
  have script := adds.script_eq
  simp only [draw]
  by_cases asked : a.gnuplot.isSome
  · simp only [if_pos asked] at script ⊢
    obtain ⟨plot, made, pieces⟩ := script
    rw [run_get_bind, Action.checked_bind_of_ok made, pieces]
    exact Action.within_of_ok (ReportBuffer.appendAll_of_room (.inr room))
  · simp only [if_neg asked] at script ⊢
    rw [script, ReportBuffer.extended_nil]
    rfl

theorem draw_of_excess (adds : Adds a s.meter ps qs rs)
    (start : s.plots.length < s.plots.capacity)
    (full : s.plots.capacity ≤ s.plots.length + bytes qs) :
    ∃ needed s', s.plots.capacity ≤ needed ∧
      draw a s = .error (.error (.bufferExhausted s.plots.capacity needed)) s' := by
  have script := adds.script_eq
  by_cases asked : a.gnuplot.isSome
  · simp only [if_pos asked] at script
    obtain ⟨plot, made, pieces⟩ := script
    obtain ⟨needed, b, least, refused⟩ := ReportBuffer.appendAll_of_excess start full
    refine ⟨needed, { s with plots := b }, least, ?_⟩
    simp only [draw, if_pos asked]
    rw [run_get_bind, Action.checked_bind_of_ok made, pieces]
    exact Action.within_of_error refused
  · simp only [if_neg asked] at script
    rw [script, ReportBuffer.bytes_nil] at full
    omega

inductive AddAll (a : Arguments) : List (Meter ω) → List Piece → List Piece → List Report → Prop
  | nil : AddAll a [] [] [] []
  | cons {m : Meter ω} {ms : List (Meter ω)} {ps qs ps' qs' : List Piece} {rs rs' : List Report}
      (now : Adds a m ps qs rs) (later : AddAll a ms ps' qs' rs') :
      AddAll a (m :: ms) (ps ++ ps') (qs ++ qs') (rs ++ rs')

variable [Clock ω] {ms : List (Meter ω)}

/-- The meters after each of some runs, one after the other. -/
inductive Rounds (a : Arguments) : Meter ω → List (Meter ω) → Prop
  | done (m : Meter ω) : Rounds a m []
  | more {m next : Meter ω} {ms : List (Meter ω)} (ran : round a m = .ok () next)
      (rest : Rounds a next ms) : Rounds a m (next :: ms)

omit [Clock ω] in
structure Roomy (capacity : Nat) (s : Session ω) : Prop where
  results_capacity : s.results.capacity = capacity
  plots_capacity : s.plots.capacity = capacity
  results_short : s.results.length < capacity
  plots_short : s.plots.length < capacity

omit [Clock ω] in
def Fits (capacity : Nat) (s : Session ω) (ps qs : List Piece) : Prop :=
  s.results.length + bytes ps < capacity ∧ s.plots.length + bytes qs < capacity

def added (s : Session ω) (last : Meter ω) (ps qs : List Piece) (rs : List Report) : Session ω :=
  ⟨last, s.results.extended ps ps, s.plots.extended qs qs, s.reports ++ rs⟩

variable {capacity : Nat} {last : Meter ω} {ps' qs' : List Piece}

omit [Clock ω] in
theorem Roomy.added (roomy : Roomy capacity s) (fits : Fits capacity s ps qs) :
    Roomy capacity (s.added last ps qs rs) where
  results_capacity := roomy.results_capacity
  plots_capacity := roomy.plots_capacity
  results_short := by
    rw [Session.added, ReportBuffer.extended_length]
    exact fits.1
  plots_short := by
    rw [Session.added, ReportBuffer.extended_length]
    exact fits.2

omit [Clock ω] in
theorem fits_append : Fits capacity s (ps ++ ps') (qs ++ qs') ↔
    Fits capacity s ps qs ∧ Fits capacity (s.added last ps qs rs) ps' qs' := by
  simp only [Fits, Session.added, ReportBuffer.extended_length, ReportBuffer.bytes_append]
  omega

theorem loop_of_room (roomy : Roomy capacity s) (ran : round a s.meter = .ok () m)
    (adds : Adds a m ps qs rs) (fits : Fits capacity s ps qs) :
    loop a s = .ok () (s.added m ps qs rs) := by
  have measured : onMeter (round a) s = .ok () { s with meter := m } := Action.within_of_ok ran
  have told := report_of_room (s := { s with meter := m }) adds (roomy.results_capacity ▸ fits.1)
  simp only [loop]
  rw [bind_of_ok measured, bind_of_ok told]
  exact draw_of_room (s := ⟨m, s.results.extended ps ps, s.plots, s.reports ++ rs⟩) adds
    (roomy.plots_capacity ▸ fits.2)

theorem loop_of_excess (roomy : Roomy capacity s) (ran : round a s.meter = .ok () m)
    (adds : Adds a m ps qs rs) (full : ¬Fits capacity s ps qs) :
    ∃ needed s', capacity ≤ needed ∧
      loop a s = .error (.error (.bufferExhausted capacity needed)) s' := by
  have measured : onMeter (round a) s = .ok () { s with meter := m } := Action.within_of_ok ran
  have results := roomy.results_capacity
  have plots := roomy.plots_capacity
  simp only [loop]
  rw [bind_of_ok measured]
  by_cases room : s.results.length + bytes ps < capacity
  · have told := report_of_room (s := { s with meter := m }) adds (results ▸ room)
    have space : ¬s.plots.length + bytes qs < capacity := fun space => full ⟨room, space⟩
    rw [bind_of_ok told]
    obtain ⟨needed, s', least, refused⟩ := draw_of_excess
      (s := ⟨m, s.results.extended ps ps, s.plots, s.reports ++ rs⟩) adds
      (plots ▸ roomy.plots_short) (plots ▸ Nat.le_of_not_lt space)
    rw [plots] at least refused
    exact ⟨needed, s', least, refused⟩
  · obtain ⟨needed, s', least, refused⟩ := report_of_excess (s := { s with meter := m }) adds
      (results ▸ roomy.results_short) (results ▸ Nat.le_of_not_lt room)
    rw [results] at least refused
    exact ⟨needed, s', least, bind_of_error refused⟩

theorem loops_of_room (roomy : Roomy capacity s) (rounds : Rounds a s.meter ms)
    (adds : AddAll a ms ps qs rs) (fits : Fits capacity s ps qs) :
    ∃ last, repeatedly (loop a) ms.length s = .ok () (s.added last ps qs rs) := by
  induction adds generalizing s with
  | nil =>
      refine ⟨s.meter, ?_⟩
      rw [added, ReportBuffer.extended_nil, ReportBuffer.extended_nil, List.append_nil]
      rfl
  | @cons m ms ps qs ps' qs' rs rs' now later ih =>
      cases rounds with
      | more ran rest =>
          obtain ⟨here, there⟩ : Fits capacity s ps qs ∧ Fits capacity (s.added m ps qs rs) ps' qs' :=
            fits_append.mp fits
          obtain ⟨last, ended⟩ := ih (roomy.added here) rest there
          refine ⟨last, (bind_of_ok (loop_of_room roomy ran now here)).trans (ended.trans ?_)⟩
          simp only [added, ReportBuffer.extended_append, List.append_assoc]

/-- Whatever the first runs leave room for, what does not fit as a whole is refused at some run. -/
theorem loops_of_excess (roomy : Roomy capacity s) (rounds : Rounds a s.meter ms)
    (adds : AddAll a ms ps qs rs) (full : ¬Fits capacity s ps qs) :
    ∃ needed s', capacity ≤ needed ∧
      repeatedly (loop a) ms.length s = .error (.error (.bufferExhausted capacity needed)) s' := by
  induction adds generalizing s with
  | nil => exact absurd ⟨roomy.results_short, roomy.plots_short⟩ full
  | @cons m ms ps qs ps' qs' rs rs' now later ih =>
      cases rounds with
      | more ran rest =>
          by_cases here : Fits capacity s ps qs
          · -- This run fits, so one of the later ones does not.
            have there : ¬Fits capacity (s.added m ps qs rs) ps' qs' :=
              fun there => full (fits_append.mpr ⟨here, there⟩)
            obtain ⟨needed, s', least, refused⟩ := ih (roomy.added here) rest there
            exact ⟨needed, s', least, (bind_of_ok (loop_of_room roomy ran now here)).trans refused⟩
          · obtain ⟨needed, s', least, refused⟩ := loop_of_excess roomy ran now here
            exact ⟨needed, s', least, bind_of_error refused⟩

/-- The histogram holds the samples of one run, and none from before it. -/
def HoldsOneRun (a : Arguments) (m : Meter ω) : Prop :=
  ∃ (positive : 0 < a.bucketWidth) (xs : List Nat), xs.length = a.samples ∧
    (∀ x ∈ xs, (x : Int) ≤ Signed.greatest) ∧
    (Histogram.blank a.bucketWidth positive (Array.replicate a.buckets 0)).accumulateAll xs =
      .ok m.histogram

omit [Clock ω] in
theorem HoldsOneRun.describes (holds : HoldsOneRun a m) (ranged : a.InRange) :
    ∃ xs : Multiset Nat, xs.card = a.samples ∧ (∀ x ∈ xs, (x : Int) ≤ Signed.greatest) ∧
      m.histogram.Describes a.bucketWidth a.buckets xs := by
  rcases holds with ⟨positive, xs, counted, small, taken⟩
  have words : ∀ x ∈ xs, x < word64 := by
    intro x member
    have bound := small x member
    simp only [Signed.greatest, word64] at *
    omega
  have fewer := ranged.samples
  obtain ⟨h, reached, described⟩ :=
    (Histogram.blank_describes a.bucketWidth positive a.buckets).accumulateAll words (by simp)
      (by rw [Multiset.card_zero, counted]; omega)
  rw [taken] at reached
  cases reached
  rw [add_zero] at described
  exact ⟨xs, by simp [counted], by simpa using small, described⟩

theorem round_holds {next : Meter ω} (ran : round a m = .ok () next)
    (width : m.histogram.width = a.bucketWidth) : HoldsOneRun a next := by
  rcases bind_eq_ok.mp ran with ⟨_, sized, emptied, ran⟩
  rcases bind_eq_ok.mp ran with ⟨stats, _, ran, ⟨⟩⟩
  rcases Meter.initHistogram_eq_ok.mp emptied with ⟨h, accepted, rfl⟩
  obtain ⟨-, -, -, rfl⟩ := Histogram.init_eq_ok.mp accepted
  obtain ⟨xs, counted, small, taken, -⟩ := Meter.run_samples ran
  have same : Histogram.blank m.histogram.width m.histogram.positive (Array.replicate a.buckets 0) =
      Histogram.blank a.bucketWidth (width ▸ m.histogram.positive) (Array.replicate a.buckets 0) := by
    simp only [Histogram.blank, width]
  rw [same] at taken
  exact ⟨_, xs, counted, small, taken⟩

theorem Rounds.hold (rounds : Rounds a m ms) (ranged : a.InRange)
    (width : m.histogram.width = a.bucketWidth) : ∀ m ∈ ms, HoldsOneRun a m := by
  induction rounds with
  | done m => exact fun _ absurdly => nomatch absurdly
  | @more m next ms ran rest ih =>
      have now := round_holds ran width
      obtain ⟨_, -, -, described⟩ := now.describes ranged
      intro m' member
      rcases List.mem_cons.mp member with rfl | member
      · exact now
      · exact ih described.width_eq m' member

omit [Clock ω] in
theorem HoldsOneRun.reported_ok (holds : HoldsOneRun a m) (ranged : a.InRange) :
    ∃ r, reported a m = .ok r ∧ r.summary.samples = a.samples ∧
      (0 < a.verbose → (r.buckets.map Bucket.count).sum + r.summary.overflow = a.samples) := by
  obtain ⟨xs, counted, small, described⟩ := holds.describes ranged
  rw [← counted]
  exact Report.new_ok described ranged.bucketWidth (counted ▸ ranged.samples) small _ _ _ _

omit [Clock ω] in
theorem HoldsOneRun.plotted_ok (holds : HoldsOneRun a m) (ranged : a.InRange) :
    ∃ plot, plotted a m = .ok plot := by
  obtain ⟨xs, -, small, described⟩ := holds.describes ranged
  obtain ⟨buckets, listed⟩ := described.nonemptyBuckets_ok ranged.bucketWidth small
  exact ⟨_, except_bind_eq_ok.mpr ⟨buckets, listed, rfl⟩⟩

omit [Clock ω] in
theorem lines_of_report {r : Report} (made : reported a m = .ok r) :
    lines a m = (.plain (a.title m.calibration ++ "\n") :: r.lines).map .ok := by
  rw [lines, (m.histogram.reportPieces_eq_iff _ _ _ _ _).mpr ⟨r, made, rfl⟩]
  rfl

omit [Clock ω] in
theorem HoldsOneRun.adds (holds : HoldsOneRun a m) (ranged : a.InRange) :
    ∃ text script r ps qs, told a m = .ok text ∧ drawn a m = .ok script ∧ reported a m = .ok r ∧
      Adds a m ps qs (if a.json then [r] else []) ∧ joined ps = (if a.json then "" else text) ∧
      joined qs = (if a.gnuplot.isSome then script else "") := by
  obtain ⟨r, made, -⟩ := holds.reported_ok ranged
  obtain ⟨plot, plotted⟩ := holds.plotted_ok ranged
  have lines := lines_of_report made
  have script := plot.pieces_values
  obtain ⟨ps, shown⟩ : ∃ ps, ps = Piece.plain (a.title m.calibration ++ "\n") :: r.lines := ⟨_, rfl⟩
  obtain ⟨qs, pictured⟩ : ∃ qs, qs = plot.script.map Piece.plain := ⟨_, rfl⟩
  rw [← shown] at lines
  rw [← pictured] at script
  refine ⟨joined ps, joined qs, r, if a.json then [] else ps, if a.gnuplot.isSome then qs else [],
    ?_, ?_, made, ⟨?_, ?_, ?_⟩, ?_, ?_⟩
  · rw [told, lines, ReportBuffer.textOf_values]
  · refine except_bind_eq_ok.mpr ⟨plot, mapError_eq_ok.mpr plotted, ?_⟩
    rw [script, ReportBuffer.textOf_values]
  · split
    · rfl
    · exact lines
  · split
    · exact ⟨r, made, rfl⟩
    · rfl
  · split
    · exact ⟨plot, plotted, script⟩
    · rfl
  · split
    · rfl
    · rfl
  · split
    · rfl
    · rfl

omit [Clock ω] in
theorem addAll_of_hold (all : ∀ m ∈ ms, HoldsOneRun a m) (ranged : a.InRange) :
    ∃ texts scripts reports ps qs, ms.mapM (told a) = .ok texts ∧ ms.mapM (drawn a) = .ok scripts ∧
      ms.mapM (reported a) = .ok reports ∧ AddAll a ms ps qs (if a.json then reports else []) ∧
      joined ps = (if a.json then "" else String.join texts) ∧
      joined qs = (if a.gnuplot.isSome then String.join scripts else "") := by
  induction ms with
  | nil => exact ⟨[], [], [], [], [], rfl, rfl, rfl, by simpa using AddAll.nil, by simp [joined],
      by simp [joined]⟩
  | cons m ms ih =>
      obtain ⟨text, script, r, ps, qs, told, drawn, made, now, shown, pictured⟩ :=
        (all m List.mem_cons_self).adds ranged
      obtain ⟨texts, scripts, reports, ps', qs', told', drawn', made', later, shown', pictured'⟩ :=
        ih fun m member => all m (List.mem_cons_of_mem _ member)
      refine ⟨text :: texts, script :: scripts, r :: reports, ps ++ ps', qs ++ qs', ?_, ?_, ?_, ?_,
        ?_, ?_⟩
      · rw [List.mapM_cons, told, told']
        rfl
      · rw [List.mapM_cons, drawn, drawn']
        rfl
      · rw [List.mapM_cons, made, made']
        rfl
      · have both := AddAll.cons now later
        by_cases json : a.json
        · simpa [json] using both
        · simpa [json] using both
      · rw [ReportBuffer.joined_append, shown, shown']
        split
        · rfl
        · exact (String.join_cons ..).symm
      · rw [ReportBuffer.joined_append, pictured, pictured']
        split
        · exact (String.join_cons ..).symm
        · rfl

theorem loop_round {s s' : Session ω} (looped : loop a s = .ok () s') :
    round a s.meter = .ok () s'.meter := by
  rcases bind_eq_ok.mp looped with ⟨_, measured, ran, looped⟩
  rcases bind_eq_ok.mp looped with ⟨_, reported, told, drawn⟩
  rcases Action.within_eq_ok.mp ran with ⟨m, measuring, rfl⟩
  have first := report_keeps a { s with meter := m }
  have second := draw_keeps a reported
  rw [told] at first
  rw [drawn] at second
  have same : s'.meter = m := second.trans first
  rw [same]
  exact measuring

theorem loops_rounds {n : Nat} {s s' : Session ω} (looped : repeatedly (loop a) n s = .ok () s') :
    ∃ ms, ms.length = n ∧ Rounds a s.meter ms := by
  induction n generalizing s with
  | zero => exact ⟨[], rfl, .done _⟩
  | succ n ih =>
      rcases bind_eq_ok.mp looped with ⟨_, t, now, later⟩
      obtain ⟨ms, counted, rounds⟩ := ih later
      exact ⟨t.meter :: ms, by rw [List.length_cons, counted], .more (loop_round now) rounds⟩

end Program.Session

end Jitter

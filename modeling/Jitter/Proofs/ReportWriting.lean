import Jitter.Proofs.Effects
import Jitter.Report.Format
import Jitter.Report.Text
import Mathlib

/-! What becomes of a buffer that a report is written to: it takes the whole of it, or it stops between
two of its pieces. -/

namespace Jitter

def Piece.bytes (p : Piece) : Nat := p.text.utf8ByteSize

namespace ReportBuffer

def bytes (ps : List Piece) : Nat := (ps.map Piece.bytes).sum

def joined (ps : List Piece) : String := String.join (ps.map Piece.text)

def extended (b : ReportBuffer) (ps noticed : List Piece) : ReportBuffer :=
  { b with text := b.text ++ joined ps, notices := b.notices ++ noticed.filterMap Piece.notice }

@[simp]
theorem bytes_nil : bytes [] = 0 := rfl

@[simp]
theorem bytes_cons (p : Piece) (ps : List Piece) : bytes (p :: ps) = p.bytes + bytes ps := by
  simp [bytes]

theorem bytes_append (ps qs : List Piece) : bytes (ps ++ qs) = bytes ps + bytes qs := by
  simp [bytes]

theorem joined_cons (p : Piece) (ps : List Piece) : joined (p :: ps) = p.text ++ joined ps := by
  simp [joined]

theorem utf8ByteSize_joined (ps : List Piece) : (joined ps).utf8ByteSize = bytes ps := by
  induction ps with
  | nil => rfl
  | cons p ps ih => rw [joined_cons, String.utf8ByteSize_append, ih, bytes_cons, Piece.bytes]

theorem extended_nil (b : ReportBuffer) : b.extended [] [] = b := by
  simp [extended, joined]

theorem extended_extended (b : ReportBuffer) (p : Piece) (ps noticed : List Piece) :
    (b.extended [p] [p]).extended ps noticed = b.extended (p :: ps) (p :: noticed) := by
  cases noticing : p.notice <;> simp [extended, joined, String.append_assoc, noticing]

@[simp]
theorem extended_length (b : ReportBuffer) (ps noticed : List Piece) :
    (b.extended ps noticed).length = b.length + bytes ps := by
  rw [extended, length, String.utf8ByteSize_append, utf8ByteSize_joined, length]

@[simp]
theorem extended_capacity (b : ReportBuffer) (ps noticed : List Piece) :
    (b.extended ps noticed).capacity = b.capacity := rfl

theorem appendPiece_eq (p : Piece) (b : ReportBuffer) :
    appendPiece p b =
      if b.length + p.bytes < b.capacity then .ok () (b.extended [p] [p])
      else .error (.error (.bufferExhausted b.capacity (b.length + p.bytes))) (b.extended [] [p]) := by
  have noted : appendPiece p b = append p.text (b.extended [] [p]) := by
    rcases p with ⟨text, _ | n⟩
    · simp [appendPiece, extended, joined]
    · simp only [extended, joined, List.map_nil, String.join_nil, String.append_empty]
      rfl
  have written : { b.extended [] [p] with text := (b.extended [] [p]).text ++ p.text } =
      b.extended [p] [p] := by simp [extended, joined]
  rw [noted, append, written, extended_length, extended_capacity, bytes_nil, Nat.add_zero]
  rfl

theorem appendAll_cons (p : Piece) (rest : Pieces) (b : ReportBuffer) :
    appendAll (.ok p :: rest) b =
      if b.length + p.bytes < b.capacity then appendAll rest (b.extended [p] [p])
      else .error (.error (.bufferExhausted b.capacity (b.length + p.bytes))) (b.extended [] [p]) := by
  have first : appendAll (.ok p :: rest) b = (appendPiece p >>= fun _ => appendAll rest) b := rfl
  rw [first]
  by_cases room : b.length + p.bytes < b.capacity
  · have taken : appendPiece p b = .ok () (b.extended [p] [p]) := by
      rw [appendPiece_eq, if_pos room]
    rw [bind_of_ok taken, if_pos room]
  · have refused : appendPiece p b = .error
        (.error (.bufferExhausted b.capacity (b.length + p.bytes))) (b.extended [] [p]) := by
      rw [appendPiece_eq, if_neg room]
    rw [bind_of_error refused, if_neg room]

theorem appendAll_of_room {ps : List Piece} {b : ReportBuffer}
    (room : ps = [] ∨ b.length + bytes ps < b.capacity) :
    appendAll (ps.map .ok) b = .ok () (b.extended ps ps) := by
  induction ps generalizing b with
  | nil =>
      rw [extended_nil]
      rfl
  | cons p ps ih =>
      have fits : b.length + bytes (p :: ps) < b.capacity := room.resolve_left (List.cons_ne_nil _ _)
      rw [bytes_cons] at fits
      rw [List.map_cons, appendAll_cons, if_pos (by omega), ih, extended_extended]
      right
      simp only [extended_length, extended_capacity, bytes_cons, bytes_nil]
      omega

theorem eq_extended_of_appendAll {ps : List Piece} {b b' : ReportBuffer}
    (taken : appendAll (ps.map .ok) b = .ok () b') : b' = b.extended ps ps := by
  induction ps generalizing b with
  | nil =>
      cases taken
      exact (extended_nil _).symm
  | cons p ps ih =>
      rw [List.map_cons, appendAll_cons] at taken
      split at taken
      · rw [ih taken, extended_extended]
      · cases taken

theorem appendAll_of_full {before after : List Piece} {p : Piece} {b : ReportBuffer}
    (room : before = [] ∨ b.length + bytes before < b.capacity)
    (full : b.capacity ≤ b.length + bytes (before ++ [p])) :
    appendAll ((before ++ p :: after).map .ok) b =
      .error (.error (.bufferExhausted b.capacity (b.length + bytes (before ++ [p]))))
        (b.extended before (before ++ [p])) := by
  induction before generalizing b with
  | nil =>
      simp only [List.nil_append, bytes_cons, bytes_nil, Nat.add_zero] at full ⊢
      rw [List.map_cons, appendAll_cons, if_neg (Nat.not_lt.mpr full)]
  | cons q before ih =>
      have fits : b.length + bytes (q :: before) < b.capacity :=
        room.resolve_left (List.cons_ne_nil _ _)
      simp only [List.cons_append, bytes_cons] at fits full ⊢
      rw [List.map_cons, appendAll_cons, if_pos (by omega), ih]
      · rw [extended_extended, extended_length, bytes_cons, bytes_nil, Nat.add_zero, Nat.add_assoc]
        rfl
      · right
        simp only [extended_length, extended_capacity, bytes_cons, bytes_nil]
        omega
      · simp only [extended_length, extended_capacity, bytes_cons, bytes_nil]
        omega

/-- The places of pieces that there is no room for, each after all those before it. -/
def Overfull (b : ReportBuffer) (ps : List Piece) : Set Nat :=
  {j | j < ps.length ∧ b.capacity ≤ b.length + bytes (ps.take (j + 1))}

theorem exists_least_overfull {ps : List Piece} {b : ReportBuffer} (some : ps ≠ [])
    (full : b.capacity ≤ b.length + bytes ps) : ∃ j, IsLeast (b.Overfull ps) j := by
  classical
  have last : ps.length - 1 + 1 = ps.length :=
    Nat.sub_add_cancel (List.length_pos_iff.mpr some)
  have overfull : ∃ j, j ∈ b.Overfull ps := by
    refine ⟨ps.length - 1, by omega, ?_⟩
    rw [last, List.take_length]
    exact full
  exact ⟨Nat.find overfull, Nat.find_spec overfull, fun j member => Nat.find_min' overfull member⟩

theorem appendAll_of_least {ps : List Piece} {b : ReportBuffer} {j : Nat}
    (least : IsLeast (b.Overfull ps) j) :
    appendAll (ps.map .ok) b =
      .error (.error (.bufferExhausted b.capacity (b.length + bytes (ps.take (j + 1)))))
        (b.extended (ps.take j) (ps.take (j + 1))) := by
  rcases least with ⟨⟨inside, full⟩, first⟩
  have cut : ps.take (j + 1) = ps.take j ++ [ps[j]] := List.take_succ_eq_append_getElem inside
  have parts : ps = ps.take j ++ ps[j] :: ps.drop (j + 1) := by simp
  have room : ps.take j = [] ∨ b.length + bytes (ps.take j) < b.capacity := by
    cases j with
    | zero => exact .inl rfl
    | succ i =>
        right
        apply Nat.lt_of_not_le
        intro early
        exact absurd (first ⟨Nat.lt_of_succ_lt inside, early⟩) (Nat.not_succ_le_self i)
  rw [cut] at full ⊢
  have stopped := @appendAll_of_full _ (ps.drop (j + 1)) _ _ room full
  rwa [← parts] at stopped

inductive Writer where
  | summary (h : Histogram)
  | percentile (h : Histogram) (p : Float)
  | details (h : Histogram)
  | report (h : Histogram) (verbose : Int)
  | plot (p : Plot)
  | json (r : Report)
  deriving DecidableEq, Repr

def Writer.pieces : Writer → Pieces
  | summary h => h.summaryPieces
  | percentile h p => h.percentilePieces p
  | details h => h.detailPieces
  | report h verbose => h.reportPieces verbose
  | plot p => p.pieces
  | json r => r.pieces

inductive Step where
  | append (text : String)
  | write (writer : Writer)
  | clear
  deriving DecidableEq, Repr

/-- Whatever a step comes to, the buffer remains. -/
def perform (b : ReportBuffer) : Step → ReportBuffer
  | .append text => remains (append text b)
  | .write writer => remains (appendAll writer.pieces b)
  | .clear => b.clear

def after (b : ReportBuffer) (steps : List Step) : ReportBuffer := steps.foldl perform b

/-- The text of a buffer never fills it, unless there is none. -/
structure Modest (capacity : Nat) (b : ReportBuffer) : Prop where
  capacity_eq : b.capacity = capacity
  room : b.text = "" ∨ b.length < capacity

variable {capacity : Nat} {b : ReportBuffer}

theorem Modest.append (modest : Modest capacity b) (text : String) :
    Modest capacity (remains (append text b)) := by
  rw [ReportBuffer.append]
  split
  · rename_i fits
    refine ⟨modest.capacity_eq, .inr ?_⟩
    simpa [remains, length, ← modest.capacity_eq] using fits
  · exact modest

theorem Modest.appendAll (modest : Modest capacity b) (pieces : Pieces) :
    Modest capacity (remains (appendAll pieces b)) := by
  induction pieces generalizing b with
  | nil => exact modest
  | cons piece rest ih =>
      cases piece with
      | error e => exact modest
      | ok p =>
          rw [appendAll_cons]
          split
          · rename_i fits
            apply ih
            refine ⟨modest.capacity_eq, .inr ?_⟩
            rw [extended_length, bytes_cons, bytes_nil, Nat.add_zero, ← modest.capacity_eq]
            exact fits
          · exact ⟨modest.capacity_eq, by simpa [remains, extended, joined, length] using modest.room⟩

theorem Modest.perform (modest : Modest capacity b) (step : Step) :
    Modest capacity (b.perform step) := by
  cases step with
  | append text => exact modest.append text
  | write writer => exact modest.appendAll writer.pieces
  | clear => exact ⟨modest.capacity_eq, .inl rfl⟩

theorem Modest.after (modest : Modest capacity b) (steps : List Step) :
    Modest capacity (b.after steps) := by
  induction steps generalizing b with
  | nil => exact modest
  | cons step steps ih => exact ih (modest.perform step)

end ReportBuffer

theorem map_eq_map_ok_iff {α β γ ε δ : Type} {f : α → Except ε γ} {value : α → Except δ β}
    {render : β → γ} (each : ∀ x c, f x = .ok c ↔ ∃ b, value x = .ok b ∧ c = render b)
    {xs : List α} {cs : List γ} :
    xs.map f = cs.map .ok ↔ ∃ bs, xs.mapM value = .ok bs ∧ cs = bs.map render := by
  induction xs generalizing cs with
  | nil =>
      rw [List.mapM_nil, List.map_nil, eq_comm, List.map_eq_nil_iff]
      constructor
      · intro none
        exact ⟨[], rfl, none⟩
      · intro collected
        rcases collected with ⟨_, ⟨⟩, rfl⟩
        rfl
  | cons x xs ih =>
      rw [List.mapM_cons]
      constructor
      · intro same
        cases cs with
        | nil => cases same
        | cons c cs =>
            rcases List.cons.inj same with ⟨now, later⟩
            rcases (each x c).mp now with ⟨b, here, rfl⟩
            rcases ih.mp later with ⟨bs, there, rfl⟩
            exact ⟨b :: bs, except_bind_eq_ok.mpr ⟨b, here, except_bind_eq_ok.mpr ⟨bs, there, rfl⟩⟩, rfl⟩
      · intro collected
        rcases collected with ⟨all, values, rfl⟩
        rcases except_bind_eq_ok.mp values with ⟨b, here, values⟩
        rcases except_bind_eq_ok.mp values with ⟨bs, there, ⟨⟩⟩
        have now := (each x (render b)).mpr ⟨b, here, rfl⟩
        have later := ih.mpr ⟨bs, there, rfl⟩
        rw [List.map_cons, List.map_cons, List.map_cons, now, later]

namespace Report

def lines (r : Report) : List Piece :=
  r.buckets.map Histogram.bucketPiece ++ [.plain r.summary.text] ++
    r.percentiles.map Histogram.percentilePieceOf

theorem new_eq_ok {title : String} {run : RunPlan} {c : Calibration} {h : Histogram} {verbose : Int}
    {r : Report} :
    new title run c h verbose = .ok r ↔
      ∃ percentiles buckets, Histogram.standardPercentiles.mapM h.percentile = .ok percentiles ∧
        (if 0 < verbose then h.nonemptyBuckets = .ok buckets else buckets = []) ∧
        r = { title, run, calibration := c, width := h.width, count := h.count
              summary := h.summary, percentiles, buckets } := by
  by_cases asked : 0 < verbose
  · simp only [new, if_pos asked]
    constructor
    · intro made
      rcases except_bind_eq_ok.mp made with ⟨percentiles, resolved, made⟩
      rcases except_bind_eq_ok.mp made with ⟨buckets, listed, ⟨⟩⟩
      exact ⟨percentiles, buckets, resolved, mapError_eq_ok.mp listed, rfl⟩
    · intro parts
      rcases parts with ⟨percentiles, buckets, resolved, listed, rfl⟩
      refine except_bind_eq_ok.mpr ⟨percentiles, resolved, ?_⟩
      exact except_bind_eq_ok.mpr ⟨buckets, mapError_eq_ok.mpr listed, rfl⟩
  · simp only [new, if_neg asked]
    constructor
    · intro made
      rcases except_bind_eq_ok.mp made with ⟨percentiles, resolved, ⟨⟩⟩
      exact ⟨percentiles, [], resolved, rfl, rfl⟩
    · intro parts
      rcases parts with ⟨percentiles, _, resolved, rfl, rfl⟩
      exact except_bind_eq_ok.mpr ⟨percentiles, resolved, rfl⟩

end Report

namespace Histogram

theorem detailPieces_eq_iff (h : Histogram) (ps : List Piece) :
    h.detailPieces = ps.map .ok ↔
      ∃ buckets, h.nonemptyBuckets = .ok buckets ∧ ps = buckets.map bucketPiece := by
  rw [detailPieces, bucketStream, List.map_map]
  apply map_eq_map_ok_iff
  intro counted p
  rw [Function.comp_apply, bind_pure_comp, except_map_eq_ok]
  exact exists_congr fun bucket => and_congr_left' mapError_eq_ok

theorem percentilePieces_eq_iff (h : Histogram) (shares : List Float) (ps : List Piece) :
    shares.flatMap h.percentilePieces = ps.map .ok ↔
      ∃ answers, shares.mapM h.percentile = .ok answers ∧ ps = answers.map percentilePieceOf := by
  have single : shares.flatMap h.percentilePieces =
      shares.map fun p => percentilePieceOf <$> h.percentile p := List.flatMap_pure_eq_map ..
  rw [single]
  exact map_eq_map_ok_iff fun _ _ => except_map_eq_ok

theorem reportPieces_eq_iff (h : Histogram) (verbose : Int) (title : String) (run : RunPlan)
    (c : Calibration) (ps : List Piece) :
    h.reportPieces verbose = ps.map .ok ↔
      ∃ report, Report.new title run c h verbose = .ok report ∧ ps = report.lines := by
  constructor
  · intro pieces
    rcases List.append_eq_map_iff.mp pieces with ⟨front, answers, rfl, fronted, answered⟩
    rcases List.map_eq_append_iff.mp fronted with ⟨details, summary, rfl, detailed, summed⟩
    rcases (h.percentilePieces_eq_iff _ _).mp answered.symm with ⟨percentiles, resolved, rfl⟩
    obtain ⟨buckets, listed, rfl⟩ : ∃ buckets,
        (if 0 < verbose then h.nonemptyBuckets = .ok buckets else buckets = []) ∧
          details = buckets.map bucketPiece := by
      by_cases asked : 0 < verbose
      · simp only [if_pos asked] at detailed ⊢
        exact (h.detailPieces_eq_iff _).mp detailed.symm
      · simp only [if_neg asked] at detailed ⊢
        exact ⟨[], rfl, List.map_eq_nil_iff.mp detailed⟩
    have told : summary = [.plain h.summary.text] := by
      cases summary with
      | nil => cases summed
      | cons p rest =>
          rcases List.cons.inj summed with ⟨⟨⟩, none⟩
          rw [List.map_eq_nil_iff.mp none]
    exact ⟨_, Report.new_eq_ok.mpr ⟨percentiles, buckets, resolved, listed, rfl⟩, by rw [told]; rfl⟩
  · intro made
    rcases made with ⟨report, made, rfl⟩
    rcases Report.new_eq_ok.mp made with ⟨percentiles, buckets, resolved, listed, rfl⟩
    have answered := (h.percentilePieces_eq_iff _ _).mpr ⟨percentiles, resolved, rfl⟩
    have detailed : (if 0 < verbose then h.detailPieces else []) =
        (buckets.map bucketPiece).map .ok := by
      by_cases asked : 0 < verbose
      · simp only [if_pos asked] at listed ⊢
        exact (h.detailPieces_eq_iff _).mpr ⟨buckets, listed, rfl⟩
      · simp only [if_neg asked] at listed ⊢
        rw [listed]
        rfl
    rw [reportPieces, answered, detailed, Report.lines, List.map_append, List.map_append]
    rfl

end Histogram

namespace ReportBuffer

/-- However a buffer was used before, a writer that has all its values adds all its pieces, or it is
rejected for the first piece that would fill the buffer and has added those before it. A text that
is not empty never fills a buffer. The text of a histogram is that of the report on it. -/
theorem written_whole_or_up_to_a_piece (capacity : Nat) (steps : List Step) (writer : Writer)
    (ps : List Piece) (values : writer.pieces = ps.map .ok) :
    ∃ b, (ofCapacity capacity).after steps = b ∧ b.capacity = capacity ∧
      (b.text = "" ∨ b.length < capacity) ∧
      ((∃ b', appendAll writer.pieces b = .ok () b') ↔
        ps = [] ∨ b.length + bytes ps < capacity) ∧
      (∀ b', appendAll writer.pieces b = .ok () b' → b'.text = b.text ++ joined ps) ∧
      (∀ e b', appendAll writer.pieces b = .error e b' → ∃ j,
        IsLeast {j | j < ps.length ∧ capacity ≤ b.length + bytes (ps.take (j + 1))} j ∧
          e = .error (.bufferExhausted capacity (b.length + bytes (ps.take (j + 1)))) ∧
          b'.text = b.text ++ joined (ps.take j)) ∧
      ∀ h verbose lines title run c,
        (Writer.report h verbose).pieces = lines.map .ok ↔
          ∃ report, Report.new title run c h verbose = .ok report ∧ lines = report.lines := by
  have start : Modest capacity (ofCapacity capacity) := ⟨rfl, .inl rfl⟩
  have modest := start.after steps
  generalize (ofCapacity capacity).after steps = b at modest
  obtain ⟨rfl, empty⟩ := modest
  refine ⟨b, rfl, rfl, empty, ?_⟩
  rw [values]
  have reports : ∀ h verbose lines title run c,
      (Writer.report h verbose).pieces = lines.map .ok ↔
        ∃ report, Report.new title run c h verbose = .ok report ∧ lines = report.lines :=
    fun h verbose lines title run c => h.reportPieces_eq_iff verbose title run c lines
  by_cases room : ps = [] ∨ b.length + bytes ps < b.capacity
  · have written := appendAll_of_room room
    refine ⟨⟨fun _ => room, fun _ => ⟨_, written⟩⟩, ?_, ?_, reports⟩
    · intro b' ended
      rw [written] at ended
      cases ended
      rfl
    · intro e b' broke
      rw [written] at broke
      cases broke
  · obtain ⟨some, full⟩ := not_or.mp room
    obtain ⟨j, least⟩ := exists_least_overfull some (Nat.le_of_not_lt full)
    have rejected := appendAll_of_least least
    refine ⟨⟨?_, fun fits => absurd fits room⟩, ?_, ?_, reports⟩
    · intro ended
      rcases ended with ⟨b', ended⟩
      rw [rejected] at ended
      cases ended
    · intro b' ended
      rw [rejected] at ended
      cases ended
    · intro e b' broke
      rw [rejected] at broke
      cases broke
      exact ⟨j, least, rfl, rfl⟩

/-- Of three buckets the second is too much for the buffer. -/
theorem second_bucket_rejected :
    ∃ (h : Histogram) (b b' : ReportBuffer),
      (ofCapacity 40).after [.write (.details h), .clear, .append "0123456789"] = b ∧
      appendAll (Writer.details h).pieces b = .error (.error (.bufferExhausted 40 42)) b' ∧
      b'.text = "0123456789bucket 0..9: 1\n" := by
  let h : Histogram :=
    { Histogram.blank 10 (by decide) #[1, 1, 2] with
      samples := 4, total := 85, average := 21, average_eq := rfl }
  let ps : List Piece := [.plain "bucket 0..9: 1\n", .plain "bucket 10..19: 1\n",
    .plain "bucket 20..29: 2\n"]
  have values : (Writer.details h).pieces = ps.map .ok := by cbv
  obtain ⟨b, used, -, -, fits, -, rejected, -⟩ := written_whole_or_up_to_a_piece 40
    [.write (.details h), .clear, .append "0123456789"] (.details h) ps values
  have text : b.text = "0123456789" := by
    rw [← used]
    cbv
  have length : b.length = 10 := by
    rw [ReportBuffer.length, text]
    cbv
  have whole : bytes ps = 49 := by cbv
  rw [length, whole] at fits
  rw [length] at rejected
  have second : IsLeast {j | j < ps.length ∧ 40 ≤ 10 + bytes (ps.take (j + 1))} 1 := by
    refine ⟨⟨by decide, by cbv⟩, fun j full => ?_⟩
    by_contra early
    obtain rfl : j = 0 := by omega
    exact absurd full.2 (by cbv)
  cases outcome : appendAll (Writer.details h).pieces b with
  | ok _ b' => exact absurd (fits.mp ⟨b', outcome⟩) (by simp [ps])
  | error e b' =>
      obtain ⟨j, least, rfl, written⟩ := rejected e b' outcome
      obtain rfl : j = 1 := least.unique second
      refine ⟨h, b, b', used, outcome.trans ?_, written.trans ?_⟩
      · cbv
      · rw [text]
        cbv

end ReportBuffer

end Jitter

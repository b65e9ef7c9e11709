import Jitter.Proofs.JsonTokens
import Jitter.Proofs.Sessions

/-! Scripts in a row tell which plots they draw. -/

namespace Jitter

/-- What is written can be told from whatever stands behind it. -/
def Delimited {α : Type} (write : α → List Char) : Prop :=
  ∀ a b s t, write a ++ s = write b ++ t → a = b ∧ s = t

namespace Delimited

variable {α : Type} {write : α → List Char} {close : List Char}

theorem flatMap_close (one : Delimited write) (apart : ∀ a s t, write a ++ s ≠ close ++ t) :
    Delimited fun items : List α => items.flatMap write ++ close := by
  intro items others s t same
  simp only [List.append_assoc] at same
  induction items generalizing others with
  | nil =>
      cases others with
      | nil => exact ⟨rfl, List.append_cancel_left same⟩
      | cons b others =>
          rw [List.flatMap_cons, List.append_assoc] at same
          exact absurd same.symm (apart b _ _)
  | cons a items ih =>
      rw [List.flatMap_cons, List.append_assoc] at same
      cases others with
      | nil => exact absurd same (apart a _ _)
      | cons b others =>
          rw [List.flatMap_cons, List.append_assoc] at same
          rcases one a b _ _ same with ⟨rfl, rest⟩
          rcases ih others rest with ⟨rfl, left⟩
          exact ⟨rfl, left⟩

theorem flatMap_injective (one : Delimited write) (some : ∀ a, write a ≠ []) :
    Function.Injective fun items : List α => items.flatMap write := by
  intro items others same
  induction items generalizing others with
  | nil =>
      cases others with
      | nil => rfl
      | cons b others => exact absurd (List.append_eq_nil_iff.mp same.symm).1 (some b)
  | cons a items ih =>
      cases others with
      | nil => exact absurd (List.append_eq_nil_iff.mp same).1 (some a)
      | cons b others =>
          rcases one a b _ _ same with ⟨rfl, rest⟩
          rw [ih rest]

end Delimited

namespace Plot

def number (close : Char) (n : Nat) : List Char := Nat.toDigits 10 n ++ [close]

theorem takeWhile_number {close : Char} (stop : close.isDigit = false) (n : Nat) (s : List Char) :
    (number close n ++ s).takeWhile Char.isDigit = Nat.toDigits 10 n := by
  rw [number, List.append_assoc, List.takeWhile_append_of_pos Json.Reader.isDigit_toDigits,
    List.singleton_append, List.takeWhile_cons_of_neg (by simp [stop]), List.append_nil]

theorem number_delimited {close : Char} (stop : close.isDigit = false) :
    Delimited (number close) := by
  intro m n s t same
  have digits : Nat.toDigits 10 m = Nat.toDigits 10 n := by
    rw [← takeWhile_number stop m s, same, takeWhile_number stop]
  have numbers : m = n := by
    rw [← Nat.ofDigitChars_ten_toDigits (n := m), digits, Nat.ofDigitChars_ten_toDigits]
  rw [numbers] at same
  exact ⟨numbers, List.append_cancel_left same⟩

def escapedChar (c : Char) : List Char :=
  if c = '\\' then ['\\', '\\']
  else if c = '"' then ['\\', '"']
  else if c = '\n' then ['\\', 'n']
  else [c]

theorem substitute_append (c : Char) (text s t : List Char) :
    substitute c text (s ++ t) = substitute c text s ++ substitute c text t := List.flatMap_append

/-- No substitution touches what another one has brought in, as backslashes go first. -/
theorem escapeTitle_eq (s : List Char) : escapeTitle s = s.flatMap escapedChar := by
  induction s with
  | nil => rfl
  | cons c s ih =>
      have one : escapeTitle [c] = escapedChar c := by
        simp only [escapeTitle, escapedChar]
        by_cases slash : c = '\\'
        · rw [slash]
          rfl
        · by_cases quote : c = '"'
          · rw [quote]
            rfl
          · by_cases line : c = '\n'
            · rw [line]
              rfl
            · simp [substitute, slash, quote, line]
      have split : escapeTitle ([c] ++ s) = escapeTitle [c] ++ escapeTitle s := by
        simp only [escapeTitle, substitute_append]
      rw [List.flatMap_cons, ← ih, ← one, ← split, List.singleton_append]

theorem escapedChar_cases (c : Char) :
    (∃ d, escapedChar c = ['\\', d] ∧
      (c = '\\' ∧ d = '\\' ∨ c = '"' ∧ d = '"' ∨ c = '\n' ∧ d = 'n')) ∨
      escapedChar c = [c] ∧ c ≠ '\\' ∧ c ≠ '"' := by
  simp only [escapedChar]
  by_cases slash : c = '\\'
  · simp [slash]
  · by_cases quote : c = '"'
    · simp [quote]
    · by_cases line : c = '\n'
      · simp [line]
      · simp [slash, quote, line]

theorem escapedChar_delimited : Delimited escapedChar := by
  intro c d s t same
  rcases escapedChar_cases c with ⟨x, first, pairs⟩ | ⟨first, slash, -⟩
  · rcases escapedChar_cases d with ⟨y, second, others⟩ | ⟨second, slash, -⟩
    · rw [first, second] at same
      simp only [List.cons_append, List.nil_append, List.cons.injEq, true_and] at same
      rcases same with ⟨rfl, rest⟩
      refine ⟨?_, rest⟩
      rcases pairs with ⟨rfl, rfl⟩ | ⟨rfl, rfl⟩ | ⟨rfl, rfl⟩
      · simp_all
      · simp_all
      · simp_all
    · rw [first, second] at same
      exact absurd (List.cons.inj same).1.symm slash
  · rcases escapedChar_cases d with ⟨y, second, -⟩ | ⟨second, -, -⟩
    · rw [first, second] at same
      exact absurd (List.cons.inj same).1 slash
    · rw [first, second] at same
      exact List.cons.inj same

theorem escapedChar_apart (c : Char) (s t : List Char) : escapedChar c ++ s ≠ ['"'] ++ t := by
  intro same
  rcases escapedChar_cases c with ⟨d, escaped, -⟩ | ⟨plain, -, quote⟩
  · rw [escaped] at same
    cases same
  · rw [plain] at same
    exact quote (List.cons.inj same).1

def quoted (title : List Char) : List Char := escapeTitle title ++ ['"']

theorem quoted_delimited : Delimited quoted := by
  intro p q s t same
  rw [quoted, quoted, escapeTitle_eq, escapeTitle_eq] at same
  exact escapedChar_delimited.flatMap_close escapedChar_apart p q s t same

def pointLine (point : Nat × Nat) : List Char := number ' ' point.1 ++ number '\n' point.2

theorem pointLine_delimited : Delimited pointLine := by
  intro p q s t same
  rw [pointLine, pointLine, List.append_assoc, List.append_assoc] at same
  rcases number_delimited rfl _ _ _ _ same with ⟨places, same⟩
  rcases number_delimited rfl _ _ _ _ same with ⟨counts, same⟩
  exact ⟨Prod.ext places counts, same⟩

def pointLines (points : List (Nat × Nat)) : List Char := points.flatMap pointLine ++ ['e', '\n']

theorem pointLines_delimited : Delimited pointLines := by
  apply pointLine_delimited.flatMap_close
  intro p s t same
  obtain ⟨c, digits, front, -⟩ := Json.Reader.toDigits_head p.1
  have digit : c.isDigit = true := Json.Reader.isDigit_toDigits c (front ▸ List.mem_cons_self)
  rw [pointLine, number, front] at same
  rw [(List.cons.inj same).1] at digit
  cases digit

theorem script_toList (p : Plot) :
    (String.join p.script).toList =
      "set title \"".toList ++ (quoted p.title.toList ++
        ("\nset xlabel \"latency (ns)\"\nset ylabel \"samples\"\nset logscale y\nset yrange [0.9:".toList ++
          (number ']' p.top ++ ("\nset style fill solid\nplot '-' using ($1*".toList ++
            (number ')' p.width ++ (":2 with boxes notitle\n".toList ++ pointLines p.points)))))) := by
  have told : ∀ s : String, toString s = s := fun _ => rfl
  have points : (p.points.map fun x => s!"{x.1} {x.2}\n").flatMap String.toList =
      p.points.flatMap pointLine := by
    rw [List.flatMap_map]
    apply List.flatMap_congr
    intro x _
    simp [pointLine, number, told]
  simpa [script, quoted, number, pointLines, told] using points

theorem script_delimited : Delimited fun p : Plot => (String.join p.script).toList := by
  intro p q s t same
  -- Fixed words and what the two plots say take turns, and are stripped in this order.
  simp only [script_toList, List.append_assoc] at same
  have same := List.append_cancel_left same
  rcases quoted_delimited _ _ _ _ same with ⟨titles, same⟩
  have same := List.append_cancel_left same
  rcases number_delimited rfl _ _ _ _ same with ⟨tops, same⟩
  have same := List.append_cancel_left same
  rcases number_delimited rfl _ _ _ _ same with ⟨widths, same⟩
  have same := List.append_cancel_left same
  rcases pointLines_delimited _ _ _ _ same with ⟨points, same⟩
  refine ⟨?_, same⟩
  cases p
  cases q
  simp only [Plot.mk.injEq]
  exact ⟨String.toList_injective titles, widths, tops, points⟩

theorem script_ne_nil (p : Plot) : (String.join p.script).toList ≠ [] := by
  rw [script_toList]
  exact List.cons_ne_nil _ _

theorem join_flatMap_script (ps : List Plot) :
    (String.join (ps.flatMap script)).toList =
      ps.flatMap fun p => (String.join p.script).toList := by
  simp only [String.toList_join, List.flatMap_assoc]

def drawAll (ps : List Plot) : Action ReportBuffer Unit :=
  ps.forM fun p => ReportBuffer.appendAll p.pieces

theorem joined_script (p : Plot) :
    ReportBuffer.joined (p.script.map Piece.plain) = String.join p.script := by
  simp [ReportBuffer.joined, Piece.plain, Function.comp_def]

theorem join_script_cons (p : Plot) (ps : List Plot) :
    String.join ((p :: ps).flatMap script) =
      String.join p.script ++ String.join (ps.flatMap script) := by
  rw [List.flatMap_cons, String.join_append]

theorem drawAll_of_room {ps : List Plot} {b : ReportBuffer}
    (room : b.length + (String.join (ps.flatMap script)).utf8ByteSize < b.capacity) :
    ∃ b', drawAll ps b = .ok () b' := by
  induction ps generalizing b with
  | nil => exact ⟨b, rfl⟩
  | cons p ps ih =>
      rw [join_script_cons, String.utf8ByteSize_append, ← joined_script,
        ReportBuffer.utf8ByteSize_joined] at room
      let next := b.extended (p.script.map .plain) (p.script.map .plain)
      have first : ReportBuffer.appendAll p.pieces b = .ok () next := by
        rw [pieces_values]
        exact ReportBuffer.appendAll_of_room (.inr (by omega))
      have left : next.length + (String.join (ps.flatMap script)).utf8ByteSize < next.capacity := by
        rw [ReportBuffer.extended_length, ReportBuffer.extended_capacity]
        omega
      rcases ih left with ⟨b', rest⟩
      exact ⟨b', (bind_of_ok first).trans rest⟩

theorem text_of_drawAll {ps : List Plot} {b b' : ReportBuffer} (drawn : drawAll ps b = .ok () b') :
    b'.text = b.text ++ String.join (ps.flatMap script) := by
  induction ps generalizing b with
  | nil =>
      cases drawn
      simp
  | cons p ps ih =>
      rcases bind_eq_ok.mp drawn with ⟨_, next, first, rest⟩
      have written : ReportBuffer.appendAll p.pieces b = .ok () next := first
      rw [pieces_values] at written
      rw [ih rest, ReportBuffer.eq_extended_of_appendAll written, join_script_cons,
        ReportBuffer.extended, joined_script, String.append_assoc]

/-- Scripts in a row split into plots in one way only, whatever their titles say. -/
theorem scripts_determine_plots (ps qs : List Plot) :
    (String.join (ps.flatMap script) = String.join (qs.flatMap script) ↔ ps = qs) ∧
      ∀ b b' c c' : ReportBuffer, b.text = c.text → drawAll ps b = .ok () b' →
        drawAll qs c = .ok () c' → (b'.text = c'.text ↔ ps = qs) := by
  have injective : String.join (ps.flatMap script) = String.join (qs.flatMap script) ↔ ps = qs := by
    constructor
    · intro same
      have texts := congrArg String.toList same
      rw [join_flatMap_script, join_flatMap_script] at texts
      exact script_delimited.flatMap_injective script_ne_nil texts
    · intro same
      rw [same]
  refine ⟨injective, fun b b' c c' start first second => ?_⟩
  rw [text_of_drawAll first, text_of_drawAll second, start, String.append_right_inj]
  exact injective

/-- A title that reads like the end of a script and the beginning of another one. -/
theorem script_in_a_title :
    ∃ (ps qs : List Plot) (b c : ReportBuffer), ps.length = 1 ∧ qs.length = 2 ∧
      drawAll ps .new = .ok () b ∧ drawAll qs .new = .ok () c ∧ b.text ≠ c.text := by
  let ps : List Plot := [⟨"a\"\ne\nset title \"b", 10, 1, [(0, 1)]⟩]
  let qs : List Plot := [⟨"a", 10, 1, []⟩, ⟨"b", 10, 1, [(0, 1)]⟩]
  have room : ReportBuffer.new.length + (String.join (ps.flatMap script)).utf8ByteSize <
      ReportBuffer.new.capacity := by decide +kernel
  have more : ReportBuffer.new.length + (String.join (qs.flatMap script)).utf8ByteSize <
      ReportBuffer.new.capacity := by decide +kernel
  rcases drawAll_of_room room with ⟨b, first⟩
  rcases drawAll_of_room more with ⟨c, second⟩
  have iff := (scripts_determine_plots ps qs).2 _ _ _ _ rfl first second
  exact ⟨ps, qs, b, c, rfl, rfl, first, second, fun same => absurd (iff.mp same) (by decide)⟩

end Plot

end Jitter

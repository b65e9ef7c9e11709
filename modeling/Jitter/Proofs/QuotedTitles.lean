import Jitter.Proofs.PlotScripts
import Mathlib.Algebra.Group.Nat.Even

/-! A title between quotes stays between them, and can be read back from its escapes. -/

namespace Jitter.Plot

def lastSlashes (s : List Char) : Nat := (s.reverse.takeWhile (· = '\\')).length

theorem lastSlashes_slash (s : List Char) : lastSlashes (s ++ ['\\']) = lastSlashes s + 1 := by
  simp [lastSlashes]

theorem lastSlashes_other {c : Char} (other : c ≠ '\\') (s : List Char) :
    lastSlashes (s ++ [c]) = 0 := by
  simp [lastSlashes, other]

/-- The text up to the quote that closes it, and what follows. A backslash takes the next character with
it. -/
def splitQuoted : List Char → Option (List Char × List Char)
  | [] | ['\\'] => none
  | '"' :: rest => some ([], rest)
  | '\\' :: c :: s => (splitQuoted s).map fun (text, rest) => ('\\' :: c :: text, rest)
  | c :: s => (splitQuoted s).map fun (text, rest) => (c :: text, rest)

/-- Reads escapes back; what no title is escaped to is refused. -/
def unescapeTitle : List Char → Option (List Char)
  | [] => some []
  | '\\' :: '\\' :: s => (unescapeTitle s).map ('\\' :: ·)
  | '\\' :: '"' :: s => (unescapeTitle s).map ('"' :: ·)
  | '\\' :: 'n' :: s => (unescapeTitle s).map ('\n' :: ·)
  | c :: s =>
    if c = '\\' ∨ c = '"' ∨ c = '\n' then none else (unescapeTitle s).map (c :: ·)

theorem escapedChar_no_newline (c : Char) : '\n' ∉ escapedChar c := by
  simp only [escapedChar]
  by_cases slash : c = '\\'
  · simp [slash]
  · by_cases quote : c = '"'
    · simp [quote]
    · by_cases line : c = '\n'
      · simp [line]
      · simp [slash, quote, line, Ne.symm line]

theorem lastSlashes_escaped (s : List Char) : Even (lastSlashes (s.flatMap escapedChar)) := by
  induction s using List.reverseRecOn with
  | nil => exact Even.zero
  | append_singleton s c ih =>
      rw [List.flatMap_append, List.flatMap_singleton]
      rcases escapedChar_cases c with ⟨d, escaped, -⟩ | ⟨plain, slash, -⟩
      · rw [escaped, ← List.singleton_append, ← List.append_assoc]
        by_cases double : d = '\\'
        · rw [double, lastSlashes_slash, lastSlashes_slash]
          exact ih.add (by decide : Even 2)
        · rw [lastSlashes_other double]
          exact Even.zero
      · rw [plain, lastSlashes_other slash]
        exact Even.zero

theorem lastSlashes_before_quote {s before after : List Char}
    (quote : s.flatMap escapedChar = before ++ '"' :: after) : Odd (lastSlashes before) := by
  induction s using List.reverseRecOn generalizing after with
  | nil => simp at quote
  | append_singleton s c ih =>
      rw [List.flatMap_append, List.flatMap_singleton] at quote
      rcases List.append_eq_append_iff.mp quote with ⟨within, rfl, here⟩ | ⟨left, earlier, here⟩
      case inl =>
        rcases escapedChar_cases c with ⟨d, escaped, -⟩ | ⟨plain, -, other⟩
        · rw [escaped] at here
          rcases within with _ | ⟨x, _ | ⟨y, within⟩⟩
          · cases here
          · cases here
            rw [lastSlashes_slash]
            exact (lastSlashes_escaped s).add_one
          · simp at here
        · rw [plain] at here
          rcases within with _ | ⟨x, within⟩
          · cases here
            exact absurd rfl other
          · simp at here
      case inr =>
        rcases left with _ | ⟨x, left⟩
        · exact absurd here.symm (by simpa using escapedChar_apart c [] after)
        · cases here
          exact ih earlier

theorem splitQuoted_escaped (s rest : List Char) :
    splitQuoted (s.flatMap escapedChar ++ '"' :: rest) = some (s.flatMap escapedChar, rest) := by
  induction s with
  | nil => rfl
  | cons c s ih =>
      rw [List.flatMap_cons, List.append_assoc]
      rcases escapedChar_cases c with ⟨d, escaped, -⟩ | ⟨plain, slash, quote⟩
      · rw [escaped]
        simp [splitQuoted, ih]
      · rw [plain]
        simp [splitQuoted, ih, slash]

theorem unescapeTitle_escaped (s : List Char) : unescapeTitle (s.flatMap escapedChar) = some s := by
  induction s with
  | nil => rfl
  | cons c s ih =>
      rw [List.flatMap_cons]
      by_cases slash : c = '\\'
      · simp [slash, escapedChar, unescapeTitle, ih]
      · by_cases quote : c = '"'
        · simp [quote, escapedChar, unescapeTitle, ih]
        · by_cases line : c = '\n'
          · simp [line, escapedChar, unescapeTitle, ih]
          · simp [slash, quote, line, escapedChar, unescapeTitle, ih]

/-- Three substitutions, one after the other, escape a title character by character: it holds no line
end, it neither closes its own quotes nor keeps them from closing, and it can be read back. -/
theorem title_stays_within_quotes (t : String) :
    escapeTitle t.toList = t.toList.flatMap escapedChar ∧
      '\n' ∉ escapeTitle t.toList ∧
      (∀ before after, escapeTitle t.toList = before ++ '"' :: after → Odd (lastSlashes before)) ∧
      ¬Odd (lastSlashes (escapeTitle t.toList)) ∧
      (∀ rest, splitQuoted (escapeTitle t.toList ++ '"' :: rest) =
        some (escapeTitle t.toList, rest)) ∧
      unescapeTitle (escapeTitle t.toList) = some t.toList := by
  refine ⟨escapeTitle_eq _, ?_⟩
  rw [escapeTitle_eq]
  refine ⟨?_, fun before after quote => lastSlashes_before_quote quote, ?_,
    splitQuoted_escaped _, unescapeTitle_escaped _⟩
  · intro line
    rcases List.mem_flatMap.mp line with ⟨c, -, member⟩
    exact escapedChar_no_newline c member
  · rw [Nat.not_odd_iff_even]
    exact lastSlashes_escaped _

end Jitter.Plot

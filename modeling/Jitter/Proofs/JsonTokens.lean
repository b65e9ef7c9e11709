import Jitter.Json.Nested
import Mathlib.Data.List.TakeWhile
import Mathlib.Tactic

/-! The tokens of a JSON text: what is printed is read back, whatever stands behind it. -/

namespace Jitter.Json.Reader

/-- A text that neither goes on with a number nor ends inside it. -/
def Ends : List Char → Prop
  | [] => True
  | c :: _ => c.isDigit = false ∧ c ≠ '.' ∧ c ≠ 'e' ∧ c ≠ 'E'

def Blank (s : List Char) : Prop := ∀ c ∈ s, isBlank c = true

theorem blank_nil : Blank [] := fun _ absurdly => nomatch absurdly

section

variable {α β : Type} {r : Reader α} {next : α → Reader β} {s t : List Char} {a : α}

theorem run_bind (ran : r s = .ok (a, t)) : (r >>= next) s = next a t := by
  change (r s >>= fun x => next x.1 x.2) = next a t
  rw [ran]
  rfl

theorem run_pure (a : α) (s : List Char) : (pure a : Reader α) s = .ok (a, s) := rfl

end

variable {blanks rest : List Char} {c : Char}

theorem visible_char (blank : Blank blanks) (shown : isBlank c = false) :
    visible (blanks ++ c :: rest) = .ok (some c, c :: rest) := by
  have left : (blanks ++ c :: rest).dropWhile isBlank = c :: rest := by
    rw [List.dropWhile_append_of_pos blank, List.dropWhile_cons_of_neg (by simp [shown])]
  simp only [visible, left]
  rfl

theorem visible_end (blank : Blank blanks) : visible blanks = .ok (none, []) := by
  have left : blanks.dropWhile isBlank = [] := List.dropWhile_eq_nil_iff.mpr blank
  simp only [visible, left]
  rfl

theorem present_char (blank : Blank blanks) (shown : isBlank c = false) :
    present (blanks ++ c :: rest) = .ok (c, c :: rest) :=
  run_bind (visible_char blank shown)

theorem present_here (shown : isBlank c = false) : present (c :: rest) = .ok (c, c :: rest) :=
  present_char blank_nil shown

theorem drop_char : drop (c :: rest) = .ok ((), rest) := rfl

theorem colon_char (blank : Blank blanks) : colon (blanks ++ ':' :: rest) = .ok ((), rest) := by
  have seen : present (blanks ++ ':' :: rest) = .ok (':', ':' :: rest) := present_char blank rfl
  rw [colon, run_bind seen]
  rfl

theorem closing_char (blank : Blank blanks) (shown : isBlank c = false) :
    closing c (blanks ++ c :: rest) = .ok ((), rest) := by
  rw [closing, run_bind (present_char blank shown), if_pos rfl]
  rfl

/-! Numbers. -/

def Stops (s : List Char) : Prop := s.head?.any Char.isDigit = false

theorem Ends.stops (ends : Ends rest) : Stops rest := by
  cases rest with
  | nil => rfl
  | cons c rest => exact ends.1

theorem le_ofDigitChars (s : List Char) (value : Nat) : value ≤ Nat.ofDigitChars 10 s value := by
  induction s generalizing value with
  | nil => exact Nat.le_refl _
  | cons c s ih =>
      rw [Nat.ofDigitChars_cons]
      exact Nat.le_trans (by omega) (ih _)

theorem digits_eq {s : List Char} (number : ∀ c ∈ s, c.isDigit = true) (stops : Stops rest)
    {value : Nat} (taken : Nat) (word : Nat.ofDigitChars 10 s value < word64) :
    digits value taken (s ++ rest) = (Nat.ofDigitChars 10 s value, taken + s.length, rest) := by
  induction s generalizing value taken with
  | nil =>
      cases rest with
      | nil => rfl
      | cons c rest =>
          have last : c.isDigit = false := stops
          have other : ¬(c.isDigit = true ∧ value * 10 + digitValue c < word64) := by simp [last]
          simp only [List.nil_append, digits, if_neg other]
          rfl
  | cons c s ih =>
      have next : value * 10 + digitValue c = 10 * value + (c.toNat - '0'.toNat) := by
        rw [digitValue, Nat.mul_comm]
      rw [Nat.ofDigitChars_cons, ← next] at word ⊢
      have first := number c List.mem_cons_self
      have fits := Nat.lt_of_le_of_lt (le_ofDigitChars s _) word
      rw [List.cons_append, digits, if_pos ⟨first, fits⟩,
        ih (fun d member => number d (List.mem_cons_of_mem _ member)) (taken + 1) word,
        List.length_cons]
      congr 2
      omega

theorem toDigits_head (n : Nat) : ∃ c s, Nat.toDigits 10 n = c :: s ∧ (c = '0' → n = 0) := by
  induction n using Nat.strong_induction_on with
  | _ n ih =>
      by_cases small : n < 10
      · refine ⟨_, [], Nat.toDigits_of_lt_base small, fun zero => ?_⟩
        interval_cases n <;> first | rfl | exact absurd zero (by decide)
      · obtain ⟨c, s, front, zero⟩ := ih (n / 10) (by omega)
        have whole := Nat.toDigits_of_base_le (by decide : 1 < 10) (Nat.le_of_not_lt small)
        rw [front] at whole
        refine ⟨c, s ++ [(n % 10).digitChar], whole, fun first => ?_⟩
        have none := zero first
        omega

theorem isDigit_toDigits {n : Nat} : ∀ c ∈ Nat.toDigits 10 n, c.isDigit = true :=
  fun _ => Nat.isDigit_of_mem_toDigits (by decide) (by decide)

theorem toDigits_begins (n : Nat) : ∃ c s, Nat.toDigits 10 n = c :: s ∧ startsNumber c = true := by
  obtain ⟨c, s, front, -⟩ := toDigits_head n
  have first : c.isDigit = true := isDigit_toDigits c (front ▸ List.mem_cons_self)
  exact ⟨c, s, front, by simp [startsNumber, first]⟩

theorem magnitude_toDigits {n : Nat} (word : n < word64) (stops : Stops rest) (negative : Bool) :
    magnitude negative (Nat.toDigits 10 n ++ rest) =
      match rest with
      | [] => .ok (wholeNumber negative n, [])
      | d :: after =>
        if d = '.' ∨ d = 'e' ∨ d = 'E' then pointPart negative n 0 rest
        else .ok (wholeNumber negative n, d :: after) := by
  have value : Nat.ofDigitChars 10 (Nat.toDigits 10 n) 0 = n := Nat.ofDigitChars_ten_toDigits
  have taken := digits_eq (isDigit_toDigits (n := n)) stops 0 (value.symm ▸ word)
  rw [value] at taken
  obtain ⟨c, s, front, zero⟩ := toDigits_head n
  have first : c.isDigit = true := isDigit_toDigits c (front ▸ List.mem_cons_self)
  rw [front, List.cons_append] at taken ⊢
  have plain : ¬(c = '0' ∧ (s ++ rest).head?.any Char.isDigit = true) := by
    rintro ⟨begun, more⟩
    rw [zero begun] at front
    obtain ⟨-, rfl⟩ := List.cons.inj (front.symm.trans (rfl : Nat.toDigits 10 0 = ['0']))
    rw [List.nil_append, stops] at more
    cases more
  rw [magnitude, if_neg plain, if_pos first, taken]
  cases rest with
  | nil => rfl
  | cons d rest =>
      have last : d.isDigit = false := stops
      simp [last]

theorem magnitude_whole {n : Nat} (word : n < word64) (ends : Ends rest) (negative : Bool) :
    magnitude negative (Nat.toDigits 10 n ++ rest) = .ok (wholeNumber negative n, rest) := by
  rw [magnitude_toDigits word ends.stops]
  cases rest with
  | nil => rfl
  | cons d rest =>
      obtain ⟨-, point, small, large⟩ := ends
      simp [point, small, large]

def Whole (n : Int) : Prop := Signed.least ≤ n ∧ n < word64

theorem number_toDigits (n : Nat) :
    number (Nat.toDigits 10 n ++ rest) = magnitude false (Nat.toDigits 10 n ++ rest) := by
  obtain ⟨c, s, front, -⟩ := toDigits_head n
  have first : c.isDigit = true := isDigit_toDigits c (front ▸ List.mem_cons_self)
  rw [front, List.cons_append, number]
  rintro s' ⟨⟩
  cases first

theorem number_integer {n : Int} (whole : Whole n) (ends : Ends rest) :
    number (integer n ++ rest) = .ok (.int n, rest) := by
  obtain ⟨least, most⟩ := whole
  have word : n.natAbs < word64 := by
    simp only [Signed.least, word64] at *
    omega
  by_cases negative : n < 0
  · have inside : ¬(n.natAbs = 0 ∨ -Signed.least < n.natAbs) := by
      simp only [Signed.least] at *
      omega
    have value : -(n.natAbs : Int) = n := by omega
    rw [integer, if_pos negative, List.cons_append, number, magnitude_whole word ends, wholeNumber,
      if_neg (by decide), if_neg inside, value]
  · have value : (n.natAbs : Int) = n := by omega
    rw [integer, if_neg negative, number_toDigits, magnitude_whole word ends, wholeNumber,
      if_pos (by decide), value]

theorem exponentPart_ends (negative : Bool) {value : Nat} {exponent : Int} {x : Float}
    (scaled : scale value exponent = some x) (ends : Ends rest) :
    exponentPart negative value exponent rest = .ok (signed negative x, rest) := by
  cases rest with
  | nil => simp only [exponentPart, scaled]
  | cons c rest =>
      obtain ⟨-, -, small, large⟩ := ends
      have plain : ¬(c = 'e' ∨ c = 'E') := by simp [small, large]
      simp only [exponentPart, if_neg plain, scaled]

theorem number_point {n : Nat} {fraction : List Char} {x : Float} (ends : Ends rest)
    (long : fraction ≠ []) (digit : ∀ c ∈ fraction, c.isDigit = true)
    (word : Nat.ofDigitChars 10 fraction n < word64)
    (scaled : scale (Nat.ofDigitChars 10 fraction n) (-fraction.length) = some x) :
    number (Nat.toDigits 10 n ++ '.' :: (fraction ++ rest)) = .ok (.real x, rest) := by
  have whole := Nat.lt_of_le_of_lt (le_ofDigitChars fraction n) word
  have taken := digits_eq digit ends.stops 0 word
  have left : skipDigits rest = rest := by
    cases rest with
    | nil => rfl
    | cons c rest => exact List.dropWhile_cons_of_neg (by simp [ends.1])
  obtain ⟨c, more, rfl⟩ := List.exists_cons_of_ne_nil long
  have first := digit c List.mem_cons_self
  have exponent : ((0 : Nat) : Int) - ((0 + (c :: more).length : Nat) : Int) =
      -((c :: more).length : Int) := by omega
  have point : Stops ('.' :: (c :: more ++ rest)) := rfl
  rw [number_toDigits, magnitude_toDigits whole point]
  simp only [true_or, if_true, pointPart]
  rw [List.cons_append] at taken ⊢
  simp only [first, if_true, taken]
  rw [left, exponent, exponentPart_ends false scaled ends]
  rfl

/-! Quoted text. -/

theorem hexUnit_control : ∀ n < 0x20,
    hexUnit '0' '0' (hexDigit (n / 16)) (hexDigit (n % 16)) = some n ∧ isTrailing n = false ∧
      isLeading n = false := by
  decide

theorem unquote_escape (s : List Char) :
    unquote (s.flatMap escape ++ '"' :: rest) = .ok (s, rest) := by
  induction s with
  | nil => rfl
  | cons c s ih =>
      rw [List.flatMap_cons, List.append_assoc]
      simp only [escape]
      split
      · simp [unquote, ih, unescape, Except.map, before]
      · simp [unquote, ih, unescape, Except.map, before]
      · simp [unquote, ih, unescape, Except.map, before]
      · simp [unquote, ih, unescape, Except.map, before]
      · simp [unquote, ih, unescape, Except.map, before]
      · simp [unquote, ih, unescape, Except.map, before]
      · simp [unquote, ih, unescape, Except.map, before]
      · rename_i quote slash _ _ _ _ _
        split
        · rename_i control
          obtain ⟨unit, trailing, leading⟩ := hexUnit_control c.toNat control
          simp [unquote, unit, trailing, leading, ih, Except.map, before, Char.ofNat_toNat]
        · rename_i plain
          have taken : ∀ t, unquote (c :: t) = (unquote t).map (before c) := by
            intro t
            rw [unquote, if_neg plain]
            · exact fun ended _ => slash ended
            · exact quote
            · exact fun _ _ _ _ _ ended _ => slash ended
            · exact fun _ ended _ => slash ended
            · exact fun _ _ ended _ => slash ended
          rw [List.singleton_append, taken, ih]
          rfl

end Jitter.Json.Reader

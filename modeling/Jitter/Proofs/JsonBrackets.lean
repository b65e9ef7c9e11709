import Jitter.Json.Shape
import Jitter.Proofs.JsonTokens

/-! Texts and lists: what is printed in quotes and in brackets is read back, in whatever spacing. -/

namespace Jitter.Json

structure Spacing.Plain (s : Spacing) : Prop where
  line_blank : ∀ depth, Reader.Blank (s.line depth)
  colon_eq : ∃ blanks, Reader.Blank blanks ∧ s.colon = ':' :: blanks

theorem Spacing.plain_compact : Spacing.compact.Plain where
  line_blank _ := Reader.blank_nil
  colon_eq := ⟨[], Reader.blank_nil, rfl⟩

theorem Spacing.plain_pretty : Spacing.pretty.Plain where
  line_blank depth c member := by
    rcases List.mem_cons.mp member with rfl | member
    · rfl
    · rw [List.eq_of_mem_replicate member]
      rfl
  colon_eq := ⟨[' '], by simp [Reader.Blank, Reader.isBlank], rfl⟩

namespace Reader

variable {α : Type} {r : Reader α} {t blanks rest : List Char} {a : α} {c : Char} {j v : Json}

/-- A text that begins neither with a blank nor as the end of a list. -/
def Begins (t : List Char) : Prop := ∃ c s, t = c :: s ∧ isBlank c = false ∧ c ≠ ']'

/-- Of all that begins with a text, a reader takes this text only, and gets its value. -/
structure Takes (r : Reader α) (t : List Char) (a : α) : Prop where
  begins : Begins t
  reads : ∀ {blanks rest}, Blank blanks → Ends rest → r (blanks ++ (t ++ rest)) = .ok (a, rest)

structure Numeral (t : List Char) (j : Json) : Prop where
  begins : ∃ c s, t = c :: s ∧ startsNumber c = true
  reads : ∀ {rest}, Ends rest → number (t ++ rest) = .ok (j, rest)

theorem blank_of_startsNumber (starts : startsNumber c = true) : isBlank c = false := by
  by_contra blank
  simp only [isBlank, Bool.or_eq_true, decide_eq_true_eq, Bool.not_eq_false] at blank
  rcases blank with ((rfl | rfl) | rfl) | rfl
  all_goals cases starts

theorem Numeral.present (numeral : Numeral t j) (blank : Blank blanks) :
    ∃ c, startsNumber c = true ∧ present (blanks ++ (t ++ rest)) = .ok (c, t ++ rest) := by
  obtain ⟨c, s, rfl, starts⟩ := numeral.begins
  exact ⟨c, starts, present_char blank (blank_of_startsNumber starts)⟩

theorem Numeral.visible (numeral : Numeral t j) : Begins t := by
  obtain ⟨c, s, rfl, starts⟩ := numeral.begins
  refine ⟨c, s, rfl, blank_of_startsNumber starts, ?_⟩
  rintro rfl
  cases starts

theorem takes_numberOf {kind : Scalar} (numeral : Numeral t j) (accepted : kind.accept j = some v) :
    Takes (numberOf kind) t v where
  begins := numeral.visible
  reads blank ends := by
    obtain ⟨c, starts, seen⟩ := numeral.present blank
    rw [numberOf, run_bind seen, if_pos starts, run_bind (numeral.reads ends), accepted]
    rfl

theorem takes_anyValue (numeral : Numeral t j) (depth : Nat) :
    Takes (anyValue Leaves.read (depth + 1)) t j where
  begins := numeral.visible
  reads blank ends := by
    obtain ⟨c, starts, seen⟩ := numeral.present blank
    rw [anyValue, run_bind seen]
    split
    · cases starts
    · cases starts
    · cases starts
    · cases starts
    · cases starts
    · cases starts
    · rw [if_pos starts]
      exact numeral.reads ends

theorem quotedText_escape (s : String) :
    quotedText (s.toList.flatMap escape ++ '"' :: rest) = .ok (s, rest) := by
  simp only [quotedText, unquote_escape]
  change Except.ok (String.ofList s.toList, rest) = _
  rw [String.ofList_toList]

theorem quoted_append (s : String) :
    quoted s ++ rest = '"' :: (s.toList.flatMap escape ++ '"' :: rest) := by
  simp [quoted]

theorem takes_text (s : String) : Takes text (quoted s) s where
  begins := ⟨_, _, rfl, rfl, by decide⟩
  reads blank _ := by
    rw [quoted_append, text, run_bind (present_char blank rfl), if_pos rfl, run_bind drop_char]
    exact quotedText_escape s

theorem takes_name {names : List String} {s : String} (known : s ∈ names) :
    Takes (name names) (quoted s) s where
  begins := (takes_text s).begins
  reads blank ends := by
    rw [name, run_bind ((takes_text s).reads blank ends), if_pos known]
    rfl

theorem Takes.here (takes : Takes r t a) (ends : Ends rest) : r (t ++ rest) = .ok (a, rest) :=
  takes.reads blank_nil ends

theorem Takes.map {β : Type} (takes : Takes r t a) (f : α → β) :
    Takes (do return f (← r)) t (f a) where
  begins := takes.begins
  reads blank ends := by
    rw [run_bind (takes.reads blank ends)]
    rfl

theorem takes_choice {names : List String} {s : String} (known : s ∈ names) :
    Takes (choice names) (quoted s) (.str s) where
  begins := (takes_text s).begins
  reads {blanks rest} blank ends := by
    have seen : present (blanks ++ (quoted s ++ rest)) = .ok ('"', quoted s ++ rest) := by
      rw [quoted_append]
      exact present_char blank rfl
    rw [choice, run_bind seen]
    exact ((takes_name known).map Json.str).here ends

/-! Lists. -/

theorem hasItem_first (blank : Blank blanks) (begins : Begins t) :
    hasItem true (blanks ++ (t ++ rest)) = .ok (true, t ++ rest) := by
  obtain ⟨c, s, rfl, shown, more⟩ := begins
  rw [hasItem, List.cons_append, run_bind (present_char blank shown)]
  split
  · exact absurd rfl more
  · rfl

theorem hasItem_next (blank : Blank blanks) (begins : Begins t) :
    hasItem false (',' :: (blanks ++ (t ++ rest))) = .ok (true, t ++ rest) := by
  obtain ⟨c, s, rfl, shown, more⟩ := begins
  rw [hasItem, run_bind (present_here rfl)]
  change (drop >>= fun _ => present >>= fun c => if c = ']' then fail .malformed else pure true) _ = _
  rw [run_bind drop_char, List.cons_append, run_bind (present_char blank shown), if_neg more]
  rfl

theorem hasItem_last (blank : Blank blanks) (first : Bool) :
    hasItem first (blanks ++ ']' :: rest) = .ok (false, ']' :: rest) := by
  rw [hasItem, run_bind (present_char blank rfl)]
  rfl

end Reader

open Reader

variable {s : Spacing} {level : Nat} {ending : Char} {rest : List Char}

def following (s : Spacing) (level : Nat) (ending : Char) (texts : List (List Char)) : List Char :=
  texts.flatMap (',' :: s.line (level + 1) ++ ·) ++ s.line level ++ [ending]

theorem enclosed_cons (opening : Char) (t : List Char) (texts : List (List Char)) :
    enclosed s level opening ending (t :: texts) ++ rest =
      opening :: (s.line (level + 1) ++ (t ++ (following s level ending texts ++ rest))) := by
  simp [enclosed, following]

theorem begins_enclosed {opening : Char} (shown : isBlank opening = false) (other : opening ≠ ']')
    (texts : List (List Char)) : Begins (enclosed s level opening ending texts) := by
  cases texts with
  | nil => exact ⟨_, _, rfl, shown, other⟩
  | cons t texts => exact ⟨_, _, rfl, shown, other⟩

theorem begins_arr (values : List Json) : Begins (print s level (.arr values)) := by
  rw [print]
  exact begins_enclosed rfl (by decide) _

theorem begins_obj (values : List (String × Json)) : Begins (print s level (.obj values)) := by
  rw [print]
  exact begins_enclosed rfl (by decide) _

theorem following_nil : following s level ending [] ++ rest = s.line level ++ ending :: rest := by
  simp [following]

theorem following_cons (t : List Char) (texts : List (List Char)) :
    following s level ending (t :: texts) ++ rest =
      ',' :: (s.line (level + 1) ++ (t ++ (following s level ending texts ++ rest))) := by
  simp [following]

theorem ends_blank {blanks : List Char} (blank : Blank blanks) (ends : Ends rest) :
    Ends (blanks ++ rest) := by
  cases blanks with
  | nil => exact ends
  | cons c blanks =>
      have first := blank c List.mem_cons_self
      simp only [isBlank, Bool.or_eq_true, decide_eq_true_eq] at first
      rcases first with ((rfl | rfl) | rfl) | rfl
      all_goals exact ⟨rfl, by decide, by decide, by decide⟩

theorem ends_following (plain : s.Plain) (closed : Ends [ending]) (texts : List (List Char)) :
    Ends (following s level ending texts ++ rest) := by
  cases texts with
  | nil =>
      rw [following_nil]
      exact ends_blank (plain.line_blank level) closed
  | cons t texts =>
      rw [following_cons]
      exact ⟨rfl, by decide, by decide, by decide⟩

namespace Reader

variable {item : Reader Json}

theorem ends_list (plain : s.Plain) (texts : List (List Char)) :
    Ends (following s level ']' texts ++ rest) :=
  ends_following plain ⟨rfl, by decide, by decide, by decide⟩ texts

theorem itemsFrom_following (plain : s.Plain) {values : List Json}
    (takes : ∀ j ∈ values, Takes item (print s (level + 1) j) j) {steps : List Char}
    (enough : values.length < steps.length) :
    itemsFrom item steps false (following s level ']' (printItems s (level + 1) values) ++ rest) =
      .ok (values, ']' :: rest) := by
  induction values generalizing steps with
  | nil =>
      cases steps with
      | nil => exact absurd enough (Nat.not_lt_zero _)
      | cons _ steps =>
          rw [printItems, following_nil, itemsFrom, run_bind (hasItem_last (plain.line_blank level) false)]
          rfl
  | cons j values ih =>
      cases steps with
      | nil => exact absurd enough (Nat.not_lt_zero _)
      | cons _ steps =>
          have taken := takes j List.mem_cons_self
          have later := ih (fun j member => takes j (List.mem_cons_of_mem _ member))
            (Nat.lt_of_succ_lt_succ enough)
          rw [printItems, following_cons, itemsFrom,
            run_bind (hasItem_next (plain.line_blank _) taken.begins), if_pos rfl,
            run_bind (taken.here (ends_list plain _)), run_bind later]
          rfl

theorem length_printItems (values : List Json) : (printItems s level values).length = values.length := by
  induction values with
  | nil => rfl
  | cons j values ih => rw [printItems, List.length_cons, ih, List.length_cons]

theorem following_long (texts : List (List Char)) :
    texts.length < (following s level ending texts ++ rest).length := by
  induction texts with
  | nil =>
      rw [following_nil]
      simp
  | cons t texts ih =>
      rw [following_cons]
      simp only [List.length_cons, List.length_append] at ih ⊢
      omega

theorem items_enclosed (plain : s.Plain) {values : List Json}
    (takes : ∀ j ∈ values, Takes item (print s (level + 1) j) j) :
    ∃ body, enclosed s level '[' ']' (printItems s (level + 1) values) ++ rest = '[' :: body ∧
      items item true body = .ok (values, ']' :: rest) := by
  cases values with
  | nil => exact ⟨']' :: rest, rfl, rfl⟩
  | cons j values =>
      refine ⟨_, enclosed_cons _ _ _, ?_⟩
      have taken := takes j List.mem_cons_self
      have long : values.length <
          (s.line (level + 1) ++ (print s (level + 1) j ++
            (following s level ']' (printItems s (level + 1) values) ++ rest))).length := by
        have more : (printItems s (level + 1) values).length <
            (following s level ']' (printItems s (level + 1) values) ++ rest).length :=
          following_long _
        rw [length_printItems] at more
        simp only [List.length_append] at more ⊢
        omega
      have later : itemsFrom item _ false
          (following s level ']' (printItems s (level + 1) values) ++ rest) = _ :=
        itemsFrom_following plain (fun j member => takes j (List.mem_cons_of_mem _ member)) long
      rw [items, stepsFor, itemsFrom,
        run_bind (hasItem_first (plain.line_blank _) taken.begins), if_pos rfl,
        run_bind (taken.here (ends_list plain _)), run_bind later]
      rfl

theorem takes_list (plain : s.Plain) {values : List Json}
    (takes : ∀ j ∈ values, Takes item (print s (level + 1) j) j) :
    Takes (do
        if (← present) = '[' then
          drop
          let values ← items item true
          drop
          return Json.arr values
        else wrongKind)
      (print s level (.arr values)) (.arr values) where
  begins := begins_arr values
  reads blank _ := by
    obtain ⟨body, opened, taken⟩ := items_enclosed plain takes
    rw [print, opened, run_bind (present_char blank rfl), if_pos rfl, run_bind drop_char,
      run_bind taken, run_bind drop_char]
    rfl

inductive TakeAll (s : Spacing) (level : Nat) : List (Reader Json) → List Json → Prop
  | nil : TakeAll s level [] []
  | cons {r : Reader Json} {j : Json} {rs : List (Reader Json)} {values : List Json}
      (takes : Takes r (print s level j) j) (rest : TakeAll s level rs values) :
      TakeAll s level (r :: rs) (j :: values)

theorem tupleOf_following (plain : s.Plain) {rs : List (Reader Json)} {values : List Json}
    (takes : TakeAll s (level + 1) rs values) :
    ∃ blanks, Blank blanks ∧
      tupleOf rs false (following s level ']' (printItems s (level + 1) values) ++ rest) =
        .ok (values, blanks ++ ']' :: rest) := by
  induction takes with
  | nil => exact ⟨_, plain.line_blank level, by rw [printItems, following_nil]; rfl⟩
  | @cons r j rs values taken _ ih =>
      obtain ⟨blanks, blank, later⟩ := ih
      refine ⟨blanks, blank, ?_⟩
      rw [printItems, following_cons, tupleOf,
        run_bind (hasItem_next (plain.line_blank _) taken.begins), if_pos rfl,
        run_bind (taken.here (ends_list plain _)), run_bind later]
      rfl

theorem tupleOf_enclosed (plain : s.Plain) {rs : List (Reader Json)} {values : List Json}
    (takes : TakeAll s (level + 1) rs values) :
    ∃ body blanks, enclosed s level '[' ']' (printItems s (level + 1) values) ++ rest = '[' :: body ∧
      Blank blanks ∧ tupleOf rs true body = .ok (values, blanks ++ ']' :: rest) := by
  cases takes with
  | nil => exact ⟨']' :: rest, [], rfl, blank_nil, rfl⟩
  | @cons r j rs values taken takes =>
      obtain ⟨blanks, blank, later⟩ := tupleOf_following plain takes
      refine ⟨_, blanks, enclosed_cons _ _ _, blank, ?_⟩
      rw [tupleOf, run_bind (hasItem_first (plain.line_blank _) taken.begins), if_pos rfl,
        run_bind (taken.here (ends_list plain _)), run_bind later]
      rfl

theorem takes_tuple (plain : s.Plain) {rs : List (Reader Json)} {values : List Json}
    (takes : TakeAll s (level + 1) rs values) :
    Takes (do
        if (← present) = '[' then
          drop
          let values ← tupleOf rs true
          closing ']'
          return Json.arr values
        else wrongKind)
      (print s level (.arr values)) (.arr values) where
  begins := begins_arr values
  reads blank _ := by
    obtain ⟨body, blanks, opened, left, taken⟩ := tupleOf_enclosed plain takes
    rw [print, opened, run_bind (present_char blank rfl), if_pos rfl, run_bind drop_char,
      run_bind taken, run_bind (closing_char left rfl)]
    rfl

end Reader

end Jitter.Json

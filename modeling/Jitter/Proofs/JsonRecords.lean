import Jitter.Proofs.JsonBrackets

/-! Records: what is printed under names is read back, in whatever spacing. -/

namespace Jitter.Json

namespace Reader

variable {s : Spacing} {level : Nat} {blanks rest : List Char} {j : Json}

theorem hasField_first {name : String} {more : List Char} (blank : Blank blanks) :
    hasField true (blanks ++ (quoted name ++ more)) =
      .ok (true, name.toList.flatMap escape ++ '"' :: more) := by
  rw [quoted_append, hasField, run_bind (present_char blank rfl)]
  rfl

theorem hasField_next {name : String} {more : List Char} (blank : Blank blanks) :
    hasField false (',' :: (blanks ++ (quoted name ++ more))) =
      .ok (true, name.toList.flatMap escape ++ '"' :: more) := by
  rw [quoted_append, hasField, run_bind (present_here rfl)]
  change (drop >>= fun _ => present >>= fun c => if c = '"' then _ else _) _ = _
  rw [run_bind drop_char, run_bind (present_char blank rfl), if_pos rfl, run_bind drop_char]
  rfl

theorem hasField_last (blank : Blank blanks) (first : Bool) :
    hasField first (blanks ++ '\x7d' :: rest) = .ok (false, '\x7d' :: rest) := by
  rw [hasField, run_bind (present_char blank rfl)]
  rfl

/-- A field is taken with its colon and its value, unless it was there before. -/
def Admits (s : Spacing) (level : Nat) (field : Field) (name : String) (j : Json) : Prop :=
  ∀ seen rest, name ∉ seen.map Prod.fst → Ends rest →
    field seen name (s.colon ++ (print s level j ++ rest)) = .ok (seen ++ [(name, j)], rest)

variable {field : Field} {seen values : List (String × Json)}

theorem ends_record (plain : s.Plain) (texts : List (List Char)) :
    Ends (following s level '\x7d' texts ++ rest) :=
  ends_following plain ⟨rfl, by decide, by decide, by decide⟩ texts

theorem length_printFields (values : List (String × Json)) :
    (printFields s level values).length = values.length := by
  induction values with
  | nil => rfl
  | cons entry values ih => rw [printFields, List.length_cons, ih, List.length_cons]

theorem fieldsFrom_following (plain : s.Plain)
    (admits : ∀ entry ∈ values, Admits s (level + 1) field entry.1 entry.2)
    (apart : ((seen ++ values).map Prod.fst).Nodup) {steps : List Char}
    (enough : values.length < steps.length) :
    fieldsFrom quotedText field steps false seen
        (following s level '\x7d' (printFields s (level + 1) values) ++ rest) =
      .ok (seen ++ values, '\x7d' :: rest) := by
  induction values generalizing seen steps with
  | nil =>
      cases steps with
      | nil => exact absurd enough (Nat.not_lt_zero _)
      | cons _ steps =>
          rw [printFields, following_nil, fieldsFrom,
            run_bind (hasField_last (plain.line_blank level) false), List.append_nil]
          rfl
  | cons entry values ih =>
      obtain ⟨name, j⟩ := entry
      cases steps with
      | nil => exact absurd enough (Nat.not_lt_zero _)
      | cons _ steps =>
          have fresh : name ∉ seen.map Prod.fst := by
            rw [List.map_append] at apart
            exact fun member => List.disjoint_of_nodup_append apart member List.mem_cons_self
          have later := ih (fun entry member => admits entry (List.mem_cons_of_mem _ member))
            (List.append_cons .. ▸ apart) (Nat.lt_of_succ_lt_succ enough)
          rw [printFields, following_cons, fieldsFrom, List.append_assoc, List.append_assoc,
            run_bind (hasField_next (plain.line_blank _)), if_pos rfl,
            run_bind (quotedText_escape name),
            run_bind (admits (name, j) List.mem_cons_self _ _ fresh (ends_record plain _)), later,
            ← List.append_cons]

theorem fields_enclosed (plain : s.Plain)
    (admits : ∀ entry ∈ values, Admits s (level + 1) field entry.1 entry.2)
    (apart : (values.map Prod.fst).Nodup) :
    ∃ body, enclosed s level '\x7b' '\x7d' (printFields s (level + 1) values) ++ rest = '\x7b' :: body ∧
      fields quotedText field body = .ok (values, '\x7d' :: rest) := by
  cases values with
  | nil => exact ⟨'\x7d' :: rest, rfl, rfl⟩
  | cons entry values =>
      obtain ⟨name, j⟩ := entry
      refine ⟨_, enclosed_cons _ _ _, ?_⟩
      have long : values.length <
          (s.line (level + 1) ++ (quoted name ++ (s.colon ++ (print s (level + 1) j ++
            (following s level '\x7d' (printFields s (level + 1) values) ++ rest))))).length := by
        have more : (printFields s (level + 1) values).length <
            (following s level '\x7d' (printFields s (level + 1) values) ++ rest).length :=
          following_long _
        rw [length_printFields] at more
        simp only [List.length_append] at more ⊢
        omega
      have later : fieldsFrom quotedText field _ false [(name, j)]
          (following s level '\x7d' (printFields s (level + 1) values) ++ rest) = _ :=
        fieldsFrom_following plain (fun entry member => admits entry (List.mem_cons_of_mem _ member))
          apart long
      rw [fields, stepsFor, fieldsFrom, List.append_assoc, List.append_assoc,
        run_bind (hasField_first (plain.line_blank _)), if_pos rfl,
        run_bind (quotedText_escape name),
        run_bind (admits (name, j) List.mem_cons_self _ _ List.not_mem_nil (ends_record plain _))]
      exact later

/-- Fields in the order of their slots; only slots that may be left empty are left so. -/
inductive Fill (s : Spacing) (level : Nat) : List Slot → List (String × Json) → Prop
  | done : Fill s level [] []
  | put {slot : Slot} {j : Json} {slots : List Slot} {values : List (String × Json)}
      (takes : Takes slot.value (print s level j) j) (rest : Fill s level slots values) :
      Fill s level (slot :: slots) ((slot.name, j) :: values)
  | skip {slot : Slot} {slots : List Slot} {values : List (String × Json)}
      (free : slot.omittable = true) (rest : Fill s level slots values) :
      Fill s level (slot :: slots) values

variable {slots : List Slot}

theorem Fill.sublist (fill : Fill s level slots values) :
    (values.map Prod.fst).Sublist (slots.map Slot.name) := by
  induction fill with
  | done => exact List.Sublist.refl _
  | put _ _ ih => exact ih.cons_cons _
  | skip _ _ ih => exact ih.cons _

theorem Fill.slot (fill : Fill s level slots values) {entry : String × Json} (member : entry ∈ values) :
    ∃ slot ∈ slots, slot.name = entry.1 ∧ Takes slot.value (print s level entry.2) entry.2 := by
  induction fill with
  | done => cases member
  | put takes _ ih =>
      rcases List.mem_cons.mp member with rfl | member
      · exact ⟨_, List.mem_cons_self, rfl, takes⟩
      · obtain ⟨slot, present, found⟩ := ih member
        exact ⟨slot, List.mem_cons_of_mem _ present, found⟩
  | skip _ _ ih =>
      obtain ⟨slot, present, found⟩ := ih member
      exact ⟨slot, List.mem_cons_of_mem _ present, found⟩

theorem find_slot (apart : (slots.map Slot.name).Nodup) {slot : Slot} (member : slot ∈ slots) :
    slots.find? (·.name = slot.name) = some slot := by
  induction slots with
  | nil => cases member
  | cons first slots ih =>
      obtain ⟨other, apart⟩ := List.nodup_cons.mp apart
      rcases List.mem_cons.mp member with rfl | later
      · rw [List.find?_cons_of_pos (by simp)]
      · have differs : first.name ≠ slot.name := fun same => other (same ▸ List.mem_map_of_mem later)
        rw [List.find?_cons_of_neg (by simpa using differs), ih apart later]

theorem lookup_of_not_mem {β : Type} {seen : List (String × β)} {name : String}
    (fresh : name ∉ seen.map Prod.fst) : seen.lookup name = none := by
  rw [List.lookup_eq_none_iff]
  intro entry member
  refine bne_iff_ne.mpr ?_
  rintro rfl
  exact fresh (List.mem_map_of_mem member)

theorem colon_plain (plain : s.Plain) :
    ∃ blanks, Blank blanks ∧ ∀ more, colon (s.colon ++ more) = .ok ((), blanks ++ more) := by
  obtain ⟨blanks, blank, same⟩ := plain.colon_eq
  refine ⟨blanks, blank, fun more => ?_⟩
  rw [same]
  exact colon_char blank_nil

theorem admits_recordField (plain : s.Plain) (apart : (slots.map Slot.name).Nodup)
    (fill : Fill s level slots values) {entry : String × Json} (member : entry ∈ values) :
    Admits s level (recordField slots) entry.1 entry.2 := by
  intro seen rest fresh ends
  obtain ⟨slot, present, same, takes⟩ := fill.slot member
  obtain ⟨blanks, blank, parted⟩ := colon_plain plain
  have found := find_slot apart present
  rw [same] at found
  simp only [recordField, found, lookup_of_not_mem fresh, Option.isSome_none, Bool.false_eq_true,
    if_false]
  rw [run_bind (parted _), run_bind (takes.reads blank ends)]
  rfl

theorem arrange_fill (apart : (slots.map Slot.name).Nodup) (fill : Fill s level slots values)
    (fresh : ∀ slot ∈ slots, slot.name ∉ seen.map Prod.fst) :
    arrange (seen ++ values) slots = some values := by
  induction fill generalizing seen with
  | done => rfl
  | @put slot j slots values _ fill ih =>
      obtain ⟨other, apart⟩ := List.nodup_cons.mp apart
      have found : (seen ++ (slot.name, j) :: values).lookup slot.name = some j := by
        rw [List.lookup_append, lookup_of_not_mem (fresh slot List.mem_cons_self)]
        simp
      have later : arrange (seen ++ [(slot.name, j)] ++ values) slots = some values := by
        refine ih apart fun next member => ?_
        rw [List.map_append, List.mem_append, not_or]
        refine ⟨fresh next (List.mem_cons_of_mem _ member), fun same => other ?_⟩
        have twice : next.name = slot.name := List.mem_singleton.mp same
        exact twice ▸ List.mem_map_of_mem member
      rw [← List.append_cons] at later
      rw [arrange]
      simp only [found, later]
      rfl
  | @skip slot slots values free fill ih =>
      obtain ⟨other, apart⟩ := List.nodup_cons.mp apart
      have absent : (seen ++ values).lookup slot.name = none := by
        refine lookup_of_not_mem ?_
        rw [List.map_append, List.mem_append, not_or]
        exact ⟨fresh slot List.mem_cons_self, fun member => other (fill.sublist.subset member)⟩
      rw [arrange]
      simp only [absent, free, if_true]
      exact ih apart fun slot member => fresh slot (List.mem_cons_of_mem _ member)

theorem takes_record (plain : s.Plain) (apart : (slots.map Slot.name).Nodup)
    (fill : Fill s (level + 1) slots values) :
    Takes (recordOf slots) (print s level (.obj values)) (.obj values) where
  begins := begins_obj values
  reads blank _ := by
    obtain ⟨body, opened, taken⟩ := fields_enclosed plain
      (fun _ member => admits_recordField plain apart fill member) (apart.sublist fill.sublist)
    have arranged : arrange ([] ++ values) slots = some values :=
      arrange_fill apart fill fun _ _ => List.not_mem_nil
    rw [List.nil_append] at arranged
    rw [print, opened, recordOf, run_bind (present_char blank rfl)]
    change (drop >>= fun _ => fields quotedText (recordField slots) >>= fun seen =>
      expect (arrange seen slots) >>= fun values => drop >>= fun _ => pure (Json.obj values)) _ = _
    rw [run_bind drop_char, run_bind taken, arranged]
    rfl

/-! Records of numbers under a tag. -/

def Numeric : Json → Prop
  | int n => Whole n
  | real x => Numeral (double x) (real x)
  | _ => False

theorem Numeric.numeral (numeric : Numeric j) : Numeral (print s level j) j := by
  cases j with
  | int n =>
      refine ⟨?_, number_integer numeric⟩
      rw [print, integer]
      split
      · exact ⟨_, _, rfl, rfl⟩
      · exact toDigits_begins n.natAbs
  | real x => exact numeric
  | null => cases numeric
  | bool _ => cases numeric
  | str _ => cases numeric
  | arr _ => cases numeric
  | obj _ => cases numeric

variable {tag which name : String} {names : List String} {depth : Nat}

theorem admits_tag (plain : s.Plain) (known : which ∈ names) :
    Admits s level (taggedField tag names depth) tag (.str which) := by
  intro seen rest fresh ends
  obtain ⟨blanks, blank, parted⟩ := colon_plain plain
  simp only [taggedField, lookup_of_not_mem fresh, Option.isSome_none, Bool.false_eq_true, if_false,
    if_true]
  rw [run_bind (parted _), print, run_bind ((takes_name known).reads blank ends)]
  rfl

theorem admits_number (plain : s.Plain) (other : name ≠ tag) (numeric : Numeric j) :
    Admits s level (taggedField tag names (depth + 1)) name j := by
  intro seen rest fresh ends
  obtain ⟨blanks, blank, parted⟩ := colon_plain plain
  simp only [taggedField, if_neg other, anyField]
  rw [run_bind (parted _), run_bind ((takes_anyValue numeric.numeral depth).reads blank ends)]
  rfl

def OfKinds (kinds : List (String × Scalar)) (values : List (String × Json)) : Prop :=
  List.Forall₂ (fun kind entry =>
    entry.1 = kind.1 ∧ kind.2.accept entry.2 = some entry.2 ∧ Numeric entry.2) kinds values

variable {kinds : List (String × Scalar)}

theorem OfKinds.names_eq (fits : OfKinds kinds values) : values.map Prod.fst = kinds.map Prod.fst := by
  induction fits with
  | nil => rfl
  | cons fit _ ih => rw [List.map_cons, List.map_cons, fit.1, ih]

theorem OfKinds.numeric (fits : OfKinds kinds values) : ∀ entry ∈ values, Numeric entry.2 := by
  induction fits with
  | nil => exact fun _ absurdly => nomatch absurdly
  | cons fit _ ih => exact List.forall_mem_cons.mpr ⟨fit.2.2, ih⟩

theorem acceptAll_values (fits : OfKinds kinds values) :
    acceptAll kinds (values.map Prod.snd) = some values := by
  induction fits with
  | nil => rfl
  | @cons kind entry kinds values fit _ ih =>
      obtain ⟨same, accepted, -⟩ := fit
      rw [List.map_cons, acceptAll, accepted, ih, ← same]
      rfl

theorem only_entry (apart : (seen.map Prod.fst).Nodup) {entry : String × Json} (member : entry ∈ seen) :
    only seen entry.1 = some entry.2 := by
  have alone : seen.filter (·.1 = entry.1) = [entry] := by
    induction seen with
    | nil => cases member
    | cons first seen ih =>
        obtain ⟨other, apart⟩ := List.nodup_cons.mp apart
        rcases List.mem_cons.mp member with rfl | later
        · have none : seen.filter (·.1 = entry.1) = [] := by
            refine List.filter_eq_nil_iff.mpr fun next present => ?_
            have differs : next.1 ≠ entry.1 := fun same => other (same ▸ List.mem_map_of_mem present)
            simpa using differs
          rw [List.filter_cons_of_pos (by simp), none]
        · have differs : first.1 ≠ entry.1 := fun same => other (same ▸ List.mem_map_of_mem later)
          rw [List.filter_cons_of_neg (by simpa using differs), ih apart later]
  simp only [only, alone]

theorem acceptNamed_values (apart : (seen.map Prod.fst).Nodup) (within : ∀ entry ∈ values, entry ∈ seen)
    (fits : OfKinds kinds values) : acceptNamed kinds seen = some values := by
  have found : kinds.mapM (fun kind => only seen kind.1) = some (values.map Prod.snd) := by
    induction fits with
    | nil => rfl
    | @cons kind entry kinds values fit _ ih =>
        have here := only_entry apart (within entry List.mem_cons_self)
        rw [fit.1] at here
        rw [List.mapM_cons, here, ih fun next member => within next (List.mem_cons_of_mem _ member)]
        rfl
  rw [acceptNamed, found]
  exact acceptAll_values fits

theorem takes_tagged (plain : s.Plain) {variants : List (String × List (String × Scalar))}
    (known : variants.lookup which = some kinds) (apart : (tag :: kinds.map Prod.fst).Nodup)
    (fits : OfKinds kinds values) :
    Takes (taggedOf tag variants (depth + 1)) (print s level (.obj ((tag, .str which) :: values)))
      (.obj ((tag, .str which) :: values)) where
  begins := begins_obj _
  reads blank _ := by
    have member : which ∈ variants.map Prod.fst := by
      by_contra absent
      rw [lookup_of_not_mem absent] at known
      cases known
    rw [← fits.names_eq] at apart
    have admits : ∀ entry ∈ (tag, Json.str which) :: values,
        Admits s (level + 1) (taggedField tag (variants.map Prod.fst) (depth + 1)) entry.1 entry.2 := by
      intro entry present
      rcases List.mem_cons.mp present with rfl | later
      · exact admits_tag plain member
      · have other : entry.1 ≠ tag := by
          rintro rfl
          exact (List.nodup_cons.mp apart).1 (List.mem_map_of_mem later)
        exact admits_number plain other (fits.numeric entry later)
    obtain ⟨body, opened, taken⟩ := fields_enclosed plain admits apart
    have tagged : ((tag, Json.str which) :: values).lookup tag = some (.str which) := by simp
    have accepted : (variants.lookup which).bind (acceptNamed · ((tag, .str which) :: values)) =
        some values := by
      rw [known]
      exact acceptNamed_values apart (fun _ => List.mem_cons_of_mem _) fits
    rw [print, opened, taggedOf, run_bind (present_char blank rfl)]
    change (drop >>= fun _ => fields quotedText _ >>= fun seen =>
      expect (seen.lookup tag) >>= fun j => _) _ = _
    rw [run_bind drop_char, run_bind taken, tagged]
    change (drop >>= fun _ => expect _ >>= fun values => pure (Json.obj ((tag, .str which) :: values))) _ = _
    rw [run_bind drop_char, accepted]
    rfl

end Reader

end Jitter.Json

import Jitter.Timebase
import Mathlib.Data.List.DropRight
import Mathlib.Data.List.Forall2

/-! The names of a timebase are read in either case of their letters and with white space around them. -/

namespace Jitter

namespace Text

def Padding (s : List Char) : Prop := ∀ c ∈ s, isBlank c = true

instance (s : List Char) : Decidable (Padding s) := List.decidableBAll (isBlank · = true) s

/-- A capital letter of ASCII; its small letter stands 32 places behind it. -/
def Capital (c : Char) : Prop := 'A' ≤ c ∧ c ≤ 'Z'

instance (c : Char) : Decidable (Capital c) := inferInstanceAs (Decidable (_ ∧ _))

def Recased (c d : Char) : Prop :=
  d = c ∨ (Capital c ∧ d.toNat = c.toNat + 32) ∨ (Capital d ∧ c.toNat = d.toNat + 32)

instance (c d : Char) : Decidable (Recased c d) := inferInstanceAs (Decidable (_ ∨ _ ∨ _))

/-- The text is `s` with letters in any case and white space around it. -/
def Respelled (s text : String) : Prop :=
  ∃ before within after : String, Padding before.toList ∧ Padding after.toList ∧
    List.Forall₂ Recased s.toList within.toList ∧ text = before ++ within ++ after

structure Plain (s : List Char) : Prop where
  first : ∀ c ∈ s.head?, isBlank c = false
  last : ∀ c ∈ s.getLast?, isBlank c = false
  lower : ∀ c ∈ s, ¬Capital c

variable {c d : Char} {s u v : List Char}

theorem trim_eq_rdropWhile (s : List Char) : trim s = (s.dropWhile isBlank).rdropWhile isBlank := rfl

theorem rdropWhile_padding (after : Padding v) : (s ++ v).rdropWhile isBlank = s.rdropWhile isBlank := by
  have reversed : ∀ c ∈ v.reverse, isBlank c = true := fun c member => after c (List.mem_reverse.mp member)
  rw [List.rdropWhile, List.reverse_append, List.dropWhile_append_of_pos reversed, List.rdropWhile]

theorem trim_padded (before : Padding u) (after : Padding v) : trim (u ++ s ++ v) = trim s := by
  rw [trim_eq_rdropWhile, trim_eq_rdropWhile, List.append_assoc, List.dropWhile_append_of_pos before,
    List.dropWhile_append]
  split
  -- White space alone is dropped from the front together with all that follows it.
  · rename_i blank
    rw [List.isEmpty_iff.mp blank, List.dropWhile_eq_nil_iff.mpr after]
  · exact rdropWhile_padding after

theorem exists_padding (s : List Char) : ∃ u v, Padding u ∧ Padding v ∧ s = u ++ trim s ++ v := by
  refine ⟨s.takeWhile isBlank, (s.dropWhile isBlank).rtakeWhile isBlank,
    fun c member => List.mem_takeWhile_imp member, fun c member => List.mem_rtakeWhile_imp member, ?_⟩
  rw [trim_eq_rdropWhile, List.append_assoc, List.rdropWhile_append_rtakeWhile,
    List.takeWhile_append_dropWhile]

theorem trim_of_visible (shown : isBlank c = false) : ∃ rest, trim (c :: s) = c :: rest := by
  have front : trim (c :: s) = (c :: s).rdropWhile isBlank := by
    rw [trim_eq_rdropWhile, List.dropWhile_cons_of_neg (by simp [shown])]
  rcases List.rdropWhile_prefix isBlank (c :: s) with ⟨dropped, whole⟩
  rw [← front] at whole
  cases trimmed : trim (c :: s) with
  | nil =>
      rw [front, List.rdropWhile_eq_nil_iff] at trimmed
      rw [trimmed c List.mem_cons_self] at shown
      cases shown
  | cons d rest =>
      rw [trimmed] at whole
      cases whole
      exact ⟨rest, rfl⟩

/-- What keeps blanks blank and the rest visible may come before trimming or after it. -/
theorem trim_map {f : Char → Char} (kept : ∀ c, isBlank (f c) = isBlank c) (s : List Char) :
    trim (s.map f) = (trim s).map f := by
  have same : isBlank ∘ f = isBlank := funext kept
  rw [trim, List.dropWhile_map, same, ← List.map_reverse, List.dropWhile_map, same, ← List.map_reverse,
    trim]

theorem head_trim (first : c ∈ (trim s).head?) : isBlank c = false := by
  have front := List.head?_dropWhile_not isBlank s
  rcases List.rdropWhile_prefix isBlank (s.dropWhile isBlank) with ⟨rest, whole⟩
  rw [← whole, ← trim_eq_rdropWhile, List.head?_append, first] at front
  exact front

theorem getLast_trim (last : c ∈ (trim s).getLast?) : isBlank c = false := by
  have front := List.head?_dropWhile_not isBlank (s.dropWhile isBlank).reverse
  rw [trim, List.getLast?_reverse] at last
  rw [last] at front
  exact front

theorem trim_of_plain (plain : Plain s) : trim s = s := by
  have first : s.dropWhile isBlank = s := by
    rcases s with _ | ⟨c, s⟩
    · rfl
    · exact List.dropWhile_cons_of_neg (by simp [plain.first c rfl])
  rw [trim_eq_rdropWhile, first, List.rdropWhile_eq_self_iff]
  intro filled
  simp [plain.last _ (List.getLast?_eq_some_getLast filled)]

theorem capital_iff : Capital c ↔ 65 ≤ c.toNat ∧ c.toNat ≤ 90 := Iff.rfl

theorem toLower_of_not_capital (small : ¬Capital c) : c.toLower = c := dif_neg small

theorem toNat_toLower (capital : Capital c) : c.toLower.toNat = c.toNat + 32 := by
  have bound : c.toNat ≤ 90 := capital.2
  calc c.toLower.toNat
    _ = (c.val + 32).toNat := congrArg Char.toNat (dif_pos capital)
    _ = (c.toNat + 32) % 2 ^ 32 := UInt32.toNat_add c.val 32
    _ = c.toNat + 32 := Nat.mod_eq_of_lt (by omega)

theorem not_capital_toLower (c : Char) : ¬Capital c.toLower := by
  by_cases capital : Capital c
  · have ⟨low, high⟩ := capital_iff.mp capital
    rw [capital_iff, toNat_toLower capital]
    omega
  · rwa [toLower_of_not_capital capital]

theorem recased_toLower (c : Char) : Recased c.toLower c := by
  by_cases capital : Capital c
  · exact .inr (.inr ⟨capital, toNat_toLower capital⟩)
  · exact .inl (toLower_of_not_capital capital).symm

theorem toLower_of_apart (capital : Capital c) (apart : d.toNat = c.toNat + 32) :
    c.toLower = d ∧ d.toLower = d := by
  have small : c.toLower = d := by rw [← Char.toNat_inj, toNat_toLower capital, apart]
  exact ⟨small, by rw [← small, toLower_of_not_capital (not_capital_toLower c)]⟩

theorem Recased.toLower_eq (recased : Recased c d) : d.toLower = c.toLower := by
  rcases recased with rfl | ⟨capital, apart⟩ | ⟨capital, apart⟩
  · rfl
  all_goals
    have ⟨lowered, kept⟩ := toLower_of_apart capital apart
    rw [lowered, kept]

theorem isBlank_of_letter (low : 65 ≤ c.toNat) (high : c.toNat ≤ 122) : isBlank c = false := by
  rw [Bool.eq_false_iff, Ne, isBlank]
  simp only [Bool.or_eq_true, Bool.and_eq_true, decide_eq_true_eq, beq_iff_eq]
  omega

/-- No letter of ASCII is blank, so that lowering shows or hides nothing from trimming. -/
theorem isBlank_toLower (c : Char) : isBlank c.toLower = isBlank c := by
  by_cases capital : Capital c
  · have number := toNat_toLower capital
    have ⟨low, high⟩ := capital_iff.mp capital
    rw [isBlank_of_letter (by omega) (by omega), isBlank_of_letter low (by omega)]
  · rw [toLower_of_not_capital capital]

end Text

namespace Timebase

open Text

def Named (t : Timebase) (text : String) : Prop := ∃ name ∈ t.aliases, Respelled name text

variable {t : Timebase} {s text : String} {e : UnknownTimebase}

theorem normalize_of_respelled (same : Respelled s text) : normalize text = normalize s := by
  rcases same with ⟨u, within, v, before, after, recased, rfl⟩
  have lowered : within.toList.map Char.toLower = s.toList.map Char.toLower := by
    rw [eq_comm, ← List.forall₂_eq_eq_eq, List.forall₂_map_left_iff, List.forall₂_map_right_iff]
    exact recased.imp fun _ _ pair => pair.toLower_eq.symm
  -- The letters agree only once they are lowered, so lowering goes inside trimming and out again.
  rw [normalize, String.toList_append, String.toList_append, trim_padded before after,
    ← trim_map isBlank_toLower, lowered, trim_map isBlank_toLower, normalize]

theorem respelled_normalize (text : String) : Respelled (normalize text) text := by
  rcases exists_padding text.toList with ⟨u, v, before, after, whole⟩
  refine ⟨String.ofList u, String.ofList (trim text.toList), String.ofList v, ?_, ?_, ?_, ?_⟩
  · rwa [String.toList_ofList]
  · rwa [String.toList_ofList]
  · rw [normalize, String.toList_ofList, String.toList_ofList, List.forall₂_map_left_iff,
      List.forall₂_same]
    exact fun c _ => recased_toLower c
  · rw [← String.ofList_append, ← String.ofList_append, ← whole, String.ofList_toList]

theorem plain_normalize (text : String) : Plain (normalize text).toList := by
  have lowered : (normalize text).toList = trim (text.toList.map Char.toLower) := by
    rw [normalize, String.toList_ofList, trim_map isBlank_toLower]
  refine ⟨fun c first => head_trim (lowered ▸ first), fun c last => getLast_trim (lowered ▸ last), ?_⟩
  intro c member
  rw [normalize, String.toList_ofList] at member
  rcases List.mem_map.mp member with ⟨d, -, rfl⟩
  exact not_capital_toLower d

theorem normalize_of_plain (plain : Plain s.toList) : normalize s = s := by
  have lower : s.toList.map Char.toLower = s.toList.map id :=
    List.map_congr_left fun c member => toLower_of_not_capital (plain.lower c member)
  rw [normalize, trim_of_plain plain, lower, List.map_id, String.ofList_toList]

theorem normalize_eq_iff : normalize text = s ↔ Plain s.toList ∧ Respelled s text := by
  constructor
  · rintro rfl
    exact ⟨plain_normalize text, respelled_normalize text⟩
  · rintro ⟨plain, same⟩
    rw [normalize_of_respelled same, normalize_of_plain plain]

theorem normalize_alias (t : Timebase) : ∀ name ∈ t.aliases, normalize name = name := by
  cases t <;> decide

theorem named_iff : t.Named text ↔ normalize text ∈ t.aliases := by
  constructor
  · rintro ⟨name, member, same⟩
    rwa [normalize_of_respelled same, normalize_alias t name member]
  · exact fun member => ⟨normalize text, member, respelled_normalize text⟩

theorem aliases_apart : ∀ name ∈ monotonicClock.aliases, name ∉ cycleCounter.aliases := by decide

theorem parse_of_normalize (named : normalize text ∈ t.aliases) : parse text = .ok t := by
  cases t with
  | cycleCounter => exact if_pos named
  | monotonicClock => exact (if_neg (aliases_apart _ named)).trans (if_pos named)

theorem parse_of_unknown (unknown : ∀ t : Timebase, normalize text ∉ t.aliases) :
    parse text = .error ⟨normalize text⟩ :=
  (if_neg (unknown cycleCounter)).trans (if_neg (unknown monotonicClock))

theorem parse_cases (text : String) :
    (∃ t : Timebase, normalize text ∈ t.aliases ∧ parse text = .ok t) ∨
      ((∀ t : Timebase, normalize text ∉ t.aliases) ∧ parse text = .error ⟨normalize text⟩) := by
  by_cases known : ∃ t : Timebase, normalize text ∈ t.aliases
  · rcases known with ⟨t, named⟩
    exact .inl ⟨t, named, parse_of_normalize named⟩
  · have unknown := not_exists.mp known
    exact .inr ⟨unknown, parse_of_unknown unknown⟩

theorem parse_eq_ok_iff : parse text = .ok t ↔ t.Named text := by
  rw [named_iff]
  constructor
  · intro done
    rcases parse_cases text with ⟨other, named, read⟩ | ⟨-, refused⟩
    · cases read.symm.trans done
      exact named
    · cases refused.symm.trans done
  · exact parse_of_normalize

theorem parse_eq_error_iff : parse text = .error e ↔
    Plain e.text.toList ∧ Respelled e.text text ∧ ∀ t : Timebase, e.text ∉ t.aliases := by
  rw [← and_assoc, ← normalize_eq_iff]
  constructor
  · intro done
    rcases parse_cases text with ⟨t, -, read⟩ | ⟨unknown, refused⟩
    · cases read.symm.trans done
    · cases refused.symm.trans done
      exact ⟨rfl, unknown⟩
  · rintro ⟨told, unknown⟩
    rw [← told] at unknown
    rw [parse_of_unknown unknown, told]

theorem named_apart (text : String) : ¬(cycleCounter.Named text ∧ monotonicClock.Named text) := by
  rintro ⟨counter, clock⟩
  exact aliases_apart _ (named_iff.mp clock) (named_iff.mp counter)

theorem named_of_name (same : Respelled t.name text) : t.Named text :=
  ⟨t.name, by cases t <;> decide, same⟩

/-- A text is read like every other spelling of it. What is read is a spelling of a name, of one timebase
only; what is refused is told back trimmed and lowered, which is no name. -/
theorem parse_ignores_padding_and_case :
    (∀ s text : String, Respelled s text → parse text = parse s) ∧
      (∀ text t, parse text = .ok t ↔ t.Named text) ∧
      (∀ text e, parse text = .error e ↔
        Plain e.text.toList ∧ Respelled e.text text ∧ ∀ t : Timebase, e.text ∉ t.aliases) ∧
      (∀ text, ¬(cycleCounter.Named text ∧ monotonicClock.Named text)) ∧
      ∀ (t : Timebase) (text : String), Respelled t.name text → parse text = .ok t := by
  refine ⟨?_, fun text t => parse_eq_ok_iff, fun text e => parse_eq_error_iff, named_apart, ?_⟩
  · intro s text same
    rw [parse, parse, normalize_of_respelled same]
  · exact fun t text same => parse_eq_ok_iff.mpr (named_of_name same)

theorem accented_text_refused_alike :
    Respelled "ÉtÉ  Clock" "\u2003ÉTÉ  cLOCK\u0085" ∧
      parse "\u2003ÉTÉ  cLOCK\u0085" = parse "ÉtÉ  Clock" ∧
      parse "ÉtÉ  Clock" = .error ⟨"ÉtÉ  clock"⟩ ∧
      Respelled monotonicClock.name "\u00A0Monotonic-CLOCK\n" ∧
      parse "\u00A0Monotonic-CLOCK\n" = .ok monotonicClock := by
  have accented : Respelled "ÉtÉ  Clock" "\u2003ÉTÉ  cLOCK\u0085" :=
    ⟨"\u2003", "ÉTÉ  cLOCK", "\u0085", by decide, by decide, by decide, by decide⟩
  have displayed : Respelled monotonicClock.name "\u00A0Monotonic-CLOCK\n" :=
    ⟨"\u00A0", "Monotonic-CLOCK", "\n", by decide, by decide, by decide, by decide⟩
  have ⟨plain, told⟩ := normalize_eq_iff.mp (by decide : normalize "ÉtÉ  Clock" = "ÉtÉ  clock")
  have unknown : ∀ t : Timebase, "ÉtÉ  clock" ∉ t.aliases := by
    intro t
    cases t <;> decide
  have ⟨alike, _, refused, _, named⟩ := parse_ignores_padding_and_case
  exact ⟨accented, alike _ _ accented, (refused _ ⟨"ÉtÉ  clock"⟩).mpr ⟨plain, told, unknown⟩, displayed,
    named _ _ displayed⟩

end Timebase

end Jitter

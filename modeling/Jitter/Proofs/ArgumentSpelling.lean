import Jitter.Proofs.Settings

/-! How an option is spelled, and that each spelling sets it. -/

namespace Jitter.CommandLine

namespace Item

theorem ofShort?_short {i : Item} {c : Char} (letter : i.declaration.short = some c) :
    ofShort? c = some i := by
  cases i <;> cases letter <;> decide

theorem short_ne_dash {i : Item} {c : Char} (letter : i.declaration.short = some c) : c ≠ '-' := by
  cases i <;> cases letter <;> decide

theorem ofLong?_long (i : Item) : ofLong? i.declaration.long = some i := by
  cases i <;> decide

theorem long_plain (i : Item) : i.declaration.long.toList ≠ [] ∧ '=' ∉ i.declaration.long.toList := by
  cases i <;> decide

end Item

/-- The arguments that set an option: its letter or its name, with the value attached or behind it. -/
inductive Spelled : Setting → List String → Prop
  | attached {s : Setting} {c : Char} {text : String} (letter : s.item.declaration.short = some c)
      (written : s.Written text) : Spelled s [String.ofList ('-' :: c :: text.toList)]
  | apart {s : Setting} {c : Char} {text : String} (letter : s.item.declaration.short = some c)
      (written : s.Written text) : Spelled s [String.ofList ['-', c], text]
  | long {s : Setting} {text : String} (written : s.Written text) :
      Spelled s ["--" ++ s.item.declaration.long, text]
  | equals {s : Setting} {text : String} (written : s.Written text) :
      Spelled s ["--" ++ s.item.declaration.long ++ "=" ++ text]
  | json : Spelled ⟨.json, true⟩ ["--json"]
  | debug : Spelled ⟨.debug, true⟩ ["--debug"]

namespace Progress

/-- An argument that is no value: what was met last is set first, whatever it was. -/
def Means (arg : String) (next : Progress → Except Stop Progress) : Prop :=
  arg ≠ "--" ∧ ∀ p : Progress, p.awaited = none → p.argument arg = p.resolve >>= next

def Suits (text : String) (item : Item) : Prop :=
  (text = "--" → item.greedy = true) ∧
    ∀ p : Progress, (p.expect item).argument text = .ok (p.supply item text)

variable {p : Progress} {s : Setting} {item : Item} {c : Char} {text arg : String}

theorem attachedTo_begins {dash : Bool} (begins : Begins dash text.toList) :
    attachedTo text.toList = some text := by
  cases whole : text.toList with
  | nil =>
      rw [whole] at begins
      exact begins.elim
  | cons c rest =>
      rw [whole] at begins
      rw [attachedTo, ← whole, String.ofList_toList]
      · rintro ⟨⟩
      · rintro _ ⟨⟩
        exact begins.1 rfl

theorem splitValue_name {name : List Char} (plain : '=' ∉ name) :
    splitValue name = (String.ofList name, none) := by
  have all : name.takeWhile (· ≠ '=') = name :=
    List.takeWhile_eq_self_iff.mpr fun c member => by simpa using ne_of_mem_of_not_mem member plain
  simp only [splitValue, all, List.drop_length]

theorem splitValue_attached {name value : List Char} (plain : '=' ∉ name) :
    splitValue (name ++ '=' :: value) = (String.ofList name, some (String.ofList value)) := by
  have front : (name ++ '=' :: value).takeWhile (· ≠ '=') = name := by
    rw [List.takeWhile_append_of_pos fun c member => by simpa using ne_of_mem_of_not_mem member plain,
      List.takeWhile_cons_of_neg (by simp), List.append_nil]
  simp only [splitValue, front, List.drop_left]

theorem readAll_argument {rest : List String} (apart : arg = "--" → p.awaited.any Item.greedy = true) :
    p.readAll (arg :: rest) = p.argument arg >>= fun q => q.readAll rest := by
  have other : ¬(arg = "--" ∧ ¬p.awaited.any Item.greedy = true) := by
    rintro ⟨lone, free⟩
    exact free (apart lone)
  simp only [readAll, if_neg other]

theorem dashed_letter {rest : List Char} (dash : c ≠ '-') :
    p.dashed ('-' :: c :: rest) = some (p.short (c :: rest)) := by
  rw [dashed]
  exact dash

theorem toList_long (item : Item) :
    ("--" ++ item.declaration.long).toList = '-' :: '-' :: item.declaration.long.toList := by
  rw [String.toList_append]
  rfl

theorem means_of_dashed {next : Progress → Except Stop Progress} {rest : List Char}
    (spelled : arg.toList = '-' :: c :: rest) (more : c = '-' → rest ≠ [])
    (read : ∀ p : Progress, p.dashed ('-' :: c :: rest) = some (p.resolve >>= next)) :
    Means arg next := by
  refine ⟨?_, fun p free => ?_⟩
  · rintro rfl
    rcases List.cons.inj spelled with ⟨-, same⟩
    rcases List.cons.inj same with ⟨rfl, rfl⟩
    exact more rfl rfl
  · simp only [argument, free, Option.any_none, Bool.false_eq_true, if_false, spelled, read,
      Option.getD_some]

theorem means_attached (letter : s.item.declaration.short = some c) (written : s.Written text) :
    Means (String.ofList ('-' :: c :: text.toList)) fun q => q.settle s.item text := by
  have dash := Item.short_ne_dash letter
  have value : attachedTo text.toList = some text := attachedTo_begins written.begins
  refine means_of_dashed String.toList_ofList (fun is => absurd is dash) fun p => ?_
  rw [dashed_letter dash]
  simp only [short, Item.ofShort?_short letter, written.takesValue, if_true, value, option]

theorem means_letter (letter : item.declaration.short = some c) (takes : item.takesValue = true) :
    Means (String.ofList ['-', c]) fun q => pure (q.expect item) := by
  have dash := Item.short_ne_dash letter
  refine means_of_dashed String.toList_ofList (fun is => absurd is dash) fun p => ?_
  rw [dashed_letter dash]
  simp only [short, Item.ofShort?_short letter, takes, if_true, attachedTo, option]

theorem means_long (takes : item.takesValue = true) :
    Means ("--" ++ item.declaration.long) fun q => pure (q.expect item) := by
  rcases item.long_plain with ⟨present, plain⟩
  refine means_of_dashed (toList_long item) (fun _ => present) fun p => ?_
  simp only [dashed, long, splitValue_name plain, String.ofList_toList, Item.ofLong?_long, takes, if_true,
    option]

theorem means_equals (takes : item.takesValue = true) :
    Means ("--" ++ item.declaration.long ++ "=" ++ text) fun q => q.settle item text := by
  rcases item.long_plain with ⟨-, plain⟩
  have spelled : ("--" ++ item.declaration.long ++ "=" ++ text).toList =
      '-' :: '-' :: (item.declaration.long.toList ++ '=' :: text.toList) := by
    simp [String.toList_append]
  refine means_of_dashed spelled (fun _ => by simp) fun p => ?_
  simp only [dashed, long, splitValue_attached plain, String.ofList_toList, Item.ofLong?_long, takes, if_true,
    option]

theorem means_switch (item : Item) (takes : item.takesValue = false)
    (other : item ≠ .help ∧ item ≠ .version) :
    Means ("--" ++ item.declaration.long) fun q => q.settle item "" := by
  rcases item.long_plain with ⟨present, plain⟩
  refine means_of_dashed (toList_long item) (fun _ => present) fun p => ?_
  simp only [dashed, long, splitValue_name plain, String.ofList_toList, Item.ofLong?_long, takes,
    Bool.false_eq_true, if_false, switch]
  cases item <;> first | rfl | exact absurd rfl other.1 | exact absurd rfl other.2

/-- A value that begins with `-` is not read as an option: what awaits it takes any text. -/
theorem suits_begins (begins : Begins item.greedy text.toList) : Suits text item := by
  refine ⟨?_, fun p => ?_⟩
  · rintro rfl
    exact begins.2 rfl
  · have plain : (p.expect item).plain text = .ok (p.supply item text) := rfl
    have awaited : (p.expect item).awaited.any Item.greedy = item.greedy := rfl
    rw [argument, awaited]
    split
    · exact plain
    · rename_i strict
      have undashed : (p.expect item).dashed text.toList = none := by
        cases whole : text.toList with
        | nil => rfl
        | cons c rest =>
            rw [whole] at begins
            have dash : c ≠ '-' := fun is => strict (begins.2 is)
            rw [dashed]
            · rintro _ ⟨⟩
              exact dash rfl
            · rintro _ _ ⟨⟩
              exact dash rfl
      rw [undashed, Option.getD_none, plain]

inductive Reads (s : Setting) : List String → Prop
  | whole {arg text : String} (sets : s.SetBy text) (means : Means arg fun q => q.settle s.item text) :
      Reads s [arg]
  | parts {arg text : String} (sets : s.SetBy text) (means : Means arg fun q => pure (q.expect s.item))
      (suits : Suits text s.item) : Reads s [arg, text]

end Progress

theorem Spelled.reads {s : Setting} {args : List String} (spelled : Spelled s args) (ranged : s.Ranged) :
    Progress.Reads s args := by
  cases spelled with
  | attached letter written =>
      exact .whole (written.setBy ranged) (Progress.means_attached letter written)
  | apart letter written =>
      exact .parts (written.setBy ranged) (Progress.means_letter letter written.takesValue)
        (Progress.suits_begins written.begins)
  | long written =>
      exact .parts (written.setBy ranged) (Progress.means_long written.takesValue)
        (Progress.suits_begins written.begins)
  | equals written => exact .whole (written.setBy ranged) (Progress.means_equals written.takesValue)
  | json => exact .whole Setting.json_setBy (Progress.means_switch .json rfl (by decide))
  | debug => exact .whole Setting.debug_setBy (Progress.means_switch .debug rfl (by decide))

end Jitter.CommandLine

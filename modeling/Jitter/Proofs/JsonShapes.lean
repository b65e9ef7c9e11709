import Jitter.Json.Format
import Jitter.Proofs.Effects
import Jitter.Proofs.JsonRecords

/-! Values that fit a shape: they are read back from their text, in whatever spacing it was printed. -/

namespace Jitter.Json

open Reader

namespace Shape

mutual

def depth : Shape → Nat
  | number _ | text | choice _ => 0
  | list item _ => item.depth + 1
  | tuple items => depthOfAll items + 1
  | record fields => depthOfFields fields + 1
  | tagged _ _ => 2

def depthOfAll : List Shape → Nat
  | [] => 0
  | shape :: rest => max shape.depth (depthOfAll rest)

def depthOfFields : List (String × Shape) → Nat
  | [] => 0
  | (_, shape) :: rest => max shape.depth (depthOfFields rest)

end

mutual

/-- A value that a shape describes, and that no reader of the shape takes for another. -/
def Fits : Shape → Json → Prop
  | number kind, j => kind.accept j = some j ∧ Numeric j
  | text, .str _ => True
  | choice names, .str s => s ∈ names
  | list item _, .arr values => ∀ j ∈ values, item.Fits j
  | tuple items, .arr values => FitAll items values
  | record fields, .obj values => (fields.map Prod.fst).Nodup ∧ FitFields fields values
  | tagged tag variants, .obj ((name, .str which) :: values) => name = tag ∧
      ∃ kinds, variants.lookup which = some kinds ∧ (tag :: kinds.map Prod.fst).Nodup ∧
        OfKinds kinds values
  | _, _ => False

def FitAll : List Shape → List Json → Prop
  | [], [] => True
  | shape :: rest, j :: values => shape.Fits j ∧ FitAll rest values
  | _, _ => False

def FitFields : List (String × Shape) → List (String × Json) → Prop
  | [], [] => True
  | [], _ :: _ => False
  | (name, shape) :: rest, values =>
    shape.omittable = true ∧ FitFields rest values ∨
      ∃ j more, values = (name, j) :: more ∧ shape.Fits j ∧ FitFields rest more

end

theorem names_slots (fields : List (String × Shape)) (depth : Nat) :
    (slots fields depth).map Slot.name = fields.map Prod.fst := by
  induction fields with
  | nil => rfl
  | cons field fields ih => rw [slots, List.map_cons, List.map_cons, ih]

variable {s : Spacing}

mutual

theorem takes_fit (plain : s.Plain) : ∀ {shape : Shape} {j : Json} {level deep : Nat},
    shape.depth ≤ deep → shape.Fits j → Takes (shape.reader deep) (print s level j) j
  | number _, _, _, _, _, fits => by
    rw [reader]
    exact takes_numberOf fits.2.numeral fits.1
  | text, .str t, _, _, _, _ => by
    rw [reader, print]
    exact (takes_text t).map Json.str
  | choice names, .str t, _, _, _, fits => by
    rw [reader, print]
    exact takes_choice fits
  | list item _, .arr values, _, deep, enough, fits => by
    rw [depth] at enough
    rw [reader]
    exact takes_list plain fun j member => takes_fit plain (by omega) (fits j member)
  | tuple items, .arr values, _, deep, enough, fits => by
    rw [depth] at enough
    rw [reader]
    exact takes_tuple plain (takeAll_fit plain (by omega) fits)
  | record fields, .obj values, _, deep, enough, fits => by
    rw [depth] at enough
    rw [reader]
    refine takes_record plain ?_ (fill_fit plain (by omega) fits.2)
    rw [names_slots]
    exact fits.1
  | tagged tag variants, .obj ((name, .str which) :: values), _, deep, enough, fits => by
    obtain ⟨rfl, kinds, known, apart, ofKinds⟩ := fits
    obtain ⟨deep, rfl⟩ := Nat.exists_eq_add_of_le' enough
    rw [reader]
    exact takes_tagged plain known apart ofKinds

theorem takeAll_fit (plain : s.Plain) : ∀ {shapes : List Shape} {values : List Json}
    {level deep : Nat}, depthOfAll shapes ≤ deep → FitAll shapes values →
    TakeAll s level (readers shapes deep) values
  | [], [], _, _, _, _ => .nil
  | _ :: _, _ :: _, _, _, enough, fits =>
    .cons (takes_fit plain (Nat.le_trans (Nat.le_max_left _ _) enough) fits.1)
      (takeAll_fit plain (Nat.le_trans (Nat.le_max_right _ _) enough) fits.2)

theorem fill_fit (plain : s.Plain) : ∀ {fields : List (String × Shape)}
    {values : List (String × Json)} {level deep : Nat}, depthOfFields fields ≤ deep →
    FitFields fields values → Fill s level (slots fields deep) values
  | [], [], _, _, _, _ => .done
  | (name, shape) :: fields, values, _, _, enough, fits => by
    rw [depthOfFields] at enough
    rw [FitFields] at fits
    rcases fits with ⟨free, fits⟩ | ⟨j, more, rfl, fit, fits⟩
    · exact .skip free (fill_fit plain (by omega) fits)
    · exact .put (takes_fit plain (by omega) fit) (fill_fit plain (by omega) fits)

end

variable {shape : Shape} {j : Json}

theorem readText_fit (plain : s.Plain) (shallow : shape.depth ≤ depthLimit) (fits : shape.Fits j)
    {blanks : List Char} (blank : Blank blanks) :
    shape.readText (String.ofList (print s 0 j ++ blanks)) = .ok j := by
  have ends : Ends (blanks ++ []) := ends_blank blank trivial
  rw [List.append_nil] at ends
  rw [readText, String.toList_ofList]
  exact except_bind_eq_ok.mpr ⟨_, (takes_fit plain shallow fits).here ends,
    except_bind_eq_ok.mpr ⟨_, visible_end blank, rfl⟩⟩

theorem fits_nat {word n : Nat} (fits : n < word) (small : word ≤ word64) :
    (number (.unsigned word)).Fits (ofNat n) := by
  have inside : (0 : Int) ≤ n ∧ (n : Int) < word := by omega
  have whole : Whole n := by
    simp only [Whole, Signed.least, word64] at *
    omega
  exact ⟨if_pos inside, whole⟩

theorem fits_int64 {n : Int} (fits : Signed.Fits n) : int64.Fits (.int n) := by
  have whole : Whole n := by
    simp only [Signed.Fits, Whole, Signed.least, Signed.greatest, word64] at *
    omega
  exact ⟨if_pos fits, whole⟩

theorem fits_text (t : String) : text.Fits (.str t) := trivial

theorem fitFields_cons {name : String} {fields : List (String × Shape)} {values : List (String × Json)}
    (fits : shape.Fits j) (rest : FitFields fields values) :
    FitFields ((name, shape) :: fields) ((name, j) :: values) :=
  .inr ⟨j, values, rfl, fits, rest⟩

end Shape

namespace Format

variable {α : Type} {f : Format α} {valid : α → Prop} {view : α → α} {a : α}

/-- What is written of a valid value fits the shape, and what is read of it is a view of the value. -/
structure Faithful (f : Format α) (valid : α → Prop) (view : α → α) : Prop where
  fits : ∀ {a}, valid a → f.shape.Fits (f.encode a)
  decode_encode : ∀ {a}, valid a → f.decode (f.encode a) = some (view a)

/-- Both texts of a value are read as another, also with the end of a line after them. -/
def Restores (f : Format α) (a b : α) : Prop :=
  f.read (f.compact a) = .ok b ∧ f.read (f.pretty a) = .ok b ∧ f.read (f.pretty a ++ "\n") = .ok b

theorem Faithful.restores (faithful : f.Faithful valid view) (shallow : f.shape.depth ≤ depthLimit)
    (ok : valid a) : f.Restores a (view a) := by
  have reads {s : Spacing} {blanks : List Char} (plain : s.Plain) (blank : Blank blanks) :
      f.read (String.ofList (print s 0 (f.encode a) ++ blanks)) = .ok (view a) := by
    refine except_bind_eq_ok.mpr
      ⟨f.encode a, Shape.readText_fit plain shallow (faithful.fits ok) blank, ?_⟩
    simp only [faithful.decode_encode ok]
    rfl
  refine ⟨?_, ?_, ?_⟩
  · have text := reads Spacing.plain_compact blank_nil
    rwa [List.append_nil] at text
  · have text := reads Spacing.plain_pretty blank_nil
    rwa [List.append_nil] at text
  · have line : Blank ['\n'] := by simp [Blank, isBlank]
    have text := reads Spacing.plain_pretty line
    rwa [String.ofList_append] at text

theorem Faithful.list (faithful : f.Faithful valid view) :
    f.list.Faithful (fun as => ∀ a ∈ as, valid a) (List.map view) where
  fits ok := by
    intro j member
    obtain ⟨a, present, rfl⟩ := List.mem_map.mp member
    exact faithful.fits (ok a present)
  decode_encode {as} ok := by
    change (as.map f.encode).mapM f.decode = some (as.map view)
    induction as with
    | nil => rfl
    | cons a as ih =>
        obtain ⟨first, later⟩ := List.forall_mem_cons.mp ok
        rw [List.map_cons, List.mapM_cons, faithful.decode_encode first, ih later]
        rfl

end Format

end Jitter.Json

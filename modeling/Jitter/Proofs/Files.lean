import Jitter.Host.Files
import Jitter.Proofs.Effects
import Mathlib.Tactic

/-! What is written to a file is read from it again. -/

namespace Jitter.FileTree

variable {t : FileTree} {place : List String} {text : String}

def put (t : FileTree) (place : List String) (text : String) : FileTree :=
  { t with nodes := (place, .regular text) :: t.nodes.filter (·.1 ≠ place) }

theorem node_put_self (inside : place ≠ []) : (t.put place text).node place = some (.regular text) := by
  simp [node, put, inside]

theorem lookup_filter {nodes : List (List String × FileNode)} {other : List String}
    (apart : other ≠ place) : (nodes.filter (·.1 ≠ place)).lookup other = nodes.lookup other := by
  induction nodes with
  | nil => rfl
  | cons entry nodes ih =>
      by_cases here : entry.1 = place
      · have skipped : (other == entry.1) = false := by simpa [here] using apart
        rw [List.filter_cons_of_neg (by simpa using here), ih, List.lookup_cons, skipped]
      · rw [List.filter_cons_of_pos (by simpa using here), List.lookup_cons, List.lookup_cons, ih]

theorem node_put_of_ne {other : List String} (apart : other ≠ place) :
    (t.put place text).node other = t.node other := by
  have skipped : (other == place) = false := by simpa using apart
  rw [node, node, put, List.lookup_cons, skipped]
  simp only [lookup_filter apart]

theorem find_put_of_ne {p : List String} {name : String} (apart : p ++ [name] ≠ place) :
    (t.put place text).find p name = t.find p name := by
  rw [find, find, node_put_of_ne apart]

theorem find_eq_ok {p : List String} {name : String} {node : Option FileNode} :
    t.find p name = .ok node ↔ name.utf8ByteSize ≤ nameLimit ∧ t.node (p ++ [name]) = node := by
  simp only [find]
  split
  · simp; omega
  · simp; omega

theorem entry_eq_ok {p : List String} {name : String} {node : Option FileNode}
    (found : t.entry p name = .ok (place, node)) :
    name.utf8ByteSize ≤ nameLimit ∧ place = p ++ [name] ∧ t.node place = node ∧
      ∀ refusal, node ≠ some (.directory refusal) := by
  simp only [entry] at found
  rcases except_bind_eq_ok.mp found with ⟨node', held, found⟩
  obtain ⟨short, held⟩ := find_eq_ok.mp held
  split at found
  · cases found
  · cases found
  · rename_i file _ _
    cases found
    exact ⟨short, rfl, held, file⟩

theorem entry_put {p : List String} {name : String} (short : name.utf8ByteSize ≤ nameLimit) :
    (t.put (p ++ [name]) text).entry p name = .ok (p ++ [name], some (.regular text)) := by
  have held : (t.put (p ++ [name]) text).find p name = .ok (some (.regular text)) :=
    find_eq_ok.mpr ⟨short, node_put_self (by simp)⟩
  simp only [entry, held]
  rfl

/-- A file is never on the way to another one. -/
theorem step_put {p q : List String} {name : String}
    (file : ∀ refusal, t.node place ≠ some (.directory refusal)) (entered : t.step p name = .ok q) :
    (t.put place text).step p name = .ok q := by
  by_cases apart : p ++ [name] = place
  · simp only [step] at entered ⊢
    split at entered
    · rename_i here
      rw [if_pos here]
      exact entered
    · rename_i here
      rw [if_neg here]
      split at entered
      · rename_i above
        rw [if_pos above]
        exact entered
      · rcases except_bind_eq_ok.mp entered with ⟨node, found, entered⟩
        obtain ⟨-, held⟩ := find_eq_ok.mp found
        rw [apart] at held
        split at entered
        · exact absurd held (file _)
        · cases entered
        · cases entered
  · simp only [step, find_put_of_ne apart]
    exact entered

theorem enter_put {path : String} {p : List String}
    (file : ∀ refusal, t.node place ≠ some (.directory refusal)) (entered : t.enter path = .ok p) :
    (t.put place text).enter path = .ok p := by
  simp only [enter] at entered ⊢
  have same : (t.put place text).here = t.here := rfl
  rw [same]
  generalize (if path.startsWith "/" then [] else t.here) = start at entered ⊢
  generalize (names path).dropLast = way at entered ⊢
  induction way generalizing start with
  | nil => exact entered
  | cons name rest ih =>
      rw [List.foldlM_cons] at entered ⊢
      rcases except_bind_eq_ok.mp entered with ⟨q, stepped, entered⟩
      exact except_bind_eq_ok.mpr ⟨q, step_put file stepped, ih q entered⟩

theorem locate_put {path : String} {node : Option FileNode}
    (located : t.locate path = .ok (place, node)) :
    (t.put place text).locate path = .ok (place, some (.regular text)) := by
  simp only [locate] at located ⊢
  split at located
  · cases located
  rename_i named
  rw [if_neg named]
  split at located
  · cases located
  rename_i short
  rw [if_neg short]
  rcases except_bind_eq_ok.mp located with ⟨p, entered, located⟩
  rcases except_bind_eq_ok.mp located with ⟨name, given, located⟩
  obtain ⟨brief, rfl, rfl, file⟩ := entry_eq_ok located
  exact except_bind_eq_ok.mpr ⟨p, enter_put file entered,
    except_bind_eq_ok.mpr ⟨name, given, entry_put brief⟩⟩

/-- Only a device does not hold what was written to it. -/
theorem read_write {path : String} {t' : FileTree} (written : t.write path text = .ok t')
    (file : ∀ place refusal, t.locate path ≠ .ok (place, some (.device refusal))) :
    t'.read path = some text := by
  simp only [write] at written
  rcases except_bind_eq_ok.mp written with ⟨⟨place, node⟩, located, written⟩
  have held : t' = t.put place text := by
    cases node with
    | none => exact (Except.ok.inj written).symm
    | some node =>
        cases node with
        | device refusal => exact absurd located (file place refusal)
        | directory => exact (Except.ok.inj written).symm
        | regular => exact (Except.ok.inj written).symm
  rw [held, read, locate_put located]

end Jitter.FileTree

import Jitter.Proofs.ArgumentSpelling
import Mathlib.Data.List.Nodup

/-! Whole command lines: neither the order of the options nor their spelling matters. -/

namespace Jitter.CommandLine

inductive Line : List Setting → List String → Prop
  | nil : Line [] []
  | cons {s : Setting} {choice : List Setting} {args line : List String} (spelled : Spelled s args)
      (rest : Line choice line) : Line (s :: choice) (args ++ line)

/-- The settings hold, and what they do not name is as it was. -/
structure Follow (choice : List Setting) (before after : Arguments) : Prop where
  held : ∀ s ∈ choice, after.entry s.item = s.value
  kept : ∀ i ∉ choice.map Setting.item, after.entry i = before.entry i

namespace Follow

variable {s : Setting} {choice choice' : List Setting} {a b c : Arguments}

theorem nil (a : Arguments) : Follow [] a a :=
  ⟨fun _ member => (List.not_mem_nil member).elim, fun _ _ => rfl⟩

theorem cons (other : s.item ∉ choice.map Setting.item)
    (entry : b.entry = Function.update a.entry s.item s.value) (later : Follow choice b c) :
    Follow (s :: choice) a c := by
  constructor
  · refine List.forall_mem_cons.mpr ⟨?_, later.held⟩
    rw [later.kept s.item other, entry, Function.update_self]
  · intro i missing
    rcases List.ne_and_not_mem_of_not_mem_cons missing with ⟨apart, missing⟩
    rw [later.kept i missing, entry, Function.update_of_ne apart]

theorem unique (first : Follow choice a b) (second : Follow choice' a c) (same : choice'.Perm choice) :
    c = b := by
  refine Arguments.entry_injective (funext fun i => ?_)
  by_cases named : i ∈ choice.map Setting.item
  · rcases List.mem_map.mp named with ⟨s, member, rfl⟩
    rw [first.held s member, second.held s (same.mem_iff.mpr member)]
  · have unnamed : i ∉ choice'.map Setting.item := fun member =>
      named ((same.map Setting.item).mem_iff.mp member)
    rw [first.kept i named, second.kept i unnamed]

end Follow

namespace Progress

variable {p q : Progress} {s : Setting} {choice : List Setting} {item : Item} {text arg : String}
  {args rest : List String}

theorem settle_fresh (sets : s.SetBy text) (fresh : s.item ∉ p.given) :
    ∃ a : Arguments, a.entry = Function.update p.arguments.entry s.item s.value ∧
      p.settle s.item text = .ok ⟨a, s.item :: p.given, none⟩ := by
  rcases sets p.arguments with ⟨a, set, entry⟩
  refine ⟨a, entry, ?_⟩
  simp only [settle, if_neg fresh, set]

theorem settle_pending (done : p.settle item text = .ok q) : q.pending = none := by
  simp only [settle] at done
  split at done
  · cases done
  · split at done
    · cases done
      rfl
    · cases done
    · cases done

theorem resolve_pending (done : p.resolve = .ok q) : q.pending = none := by
  simp only [resolve] at done
  split at done
  · cases done
    assumption
  · cases done
  · exact settle_pending done

theorem resolve_of_pending (free : p.pending = none) : p.resolve = .ok p := by
  simp only [resolve, free]

theorem awaited_of_pending (free : p.pending = none) : p.awaited = none := by
  simp only [awaited, free]

theorem resolve_bind_congr {α : Type} {f g : Progress → Except Stop α}
    (same : ∀ q : Progress, q.pending = none → f q = g q) : (p.resolve >>= f) = p.resolve >>= g := by
  cases done : p.resolve with
  | error e => rfl
  | ok q => exact same q (resolve_pending done)

theorem readAll_means {next : Progress → Except Stop Progress} (means : Means arg next)
    (free : p.awaited = none) :
    p.readAll (arg :: rest) = p.resolve >>= fun q => next q >>= fun r => r.readAll rest := by
  rcases means with ⟨apart, read⟩
  rw [readAll_argument fun lone => absurd lone apart, read p free, bind_assoc]

/-- What was met last may as well be set before the next option is read. -/
theorem readAll_resolve (line : Line choice args) (ranged : ∀ s ∈ choice, s.Ranged)
    (free : p.awaited = none) : p.readAll args = p.resolve >>= fun q => q.readAll args := by
  have first {arg : String} {more : List String} {next : Progress → Except Stop Progress}
      (means : Means arg next) :
      p.readAll (arg :: more) = p.resolve >>= fun q => q.readAll (arg :: more) := by
    rw [readAll_means means free]
    refine resolve_bind_congr fun q none => ?_
    rw [readAll_means means (awaited_of_pending none), resolve_of_pending none]
    rfl
  cases line with
  | nil =>
      calc
        p.readAll [] = p.resolve >>= pure := (bind_pure _).symm
        _ = p.resolve >>= fun q => q.readAll [] :=
          resolve_bind_congr fun q none => (resolve_of_pending none).symm
  | cons spelled rest =>
      cases spelled.reads (ranged _ List.mem_cons_self) with
      | whole _ means => exact first means
      | parts _ means _ => exact first means

theorem readAll_reads (reads : Reads s args) (line : Line choice rest) (ranged : ∀ s ∈ choice, s.Ranged)
    (free : p.pending = none) :
    ∃ text, s.SetBy text ∧
      p.readAll (args ++ rest) = p.settle s.item text >>= fun q => q.readAll rest := by
  have resolved := resolve_of_pending free
  have awaited := awaited_of_pending free
  cases reads with
  | @whole arg text sets means =>
      refine ⟨text, sets, ?_⟩
      rw [List.singleton_append, readAll_means means awaited, resolved]
      rfl
  | @parts arg text sets means suits =>
      refine ⟨text, sets, ?_⟩
      rcases suits with ⟨apart, taken⟩
      calc
        p.readAll ([arg, text] ++ rest) = (p.expect s.item).readAll (text :: rest) := by
          rw [List.cons_append, List.singleton_append, readAll_means means awaited, resolved]
          rfl
        _ = (p.supply s.item text).readAll rest := by
          rw [readAll_argument apart, taken]
          rfl
        _ = p.settle s.item text >>= fun q => q.readAll rest := readAll_resolve line ranged rfl

theorem readAll_distinct (line : Line choice args) (ranged : ∀ s ∈ choice, s.Ranged)
    (free : p.pending = none) (fresh : ∀ s ∈ choice, s.item ∉ p.given)
    (distinct : (choice.map Setting.item).Nodup) :
    ∃ q, p.readAll args = .ok q ∧ Follow choice p.arguments q.arguments := by
  induction line generalizing p with
  | nil => exact ⟨p, resolve_of_pending free, .nil p.arguments⟩
  | @cons s choice args line spelled rest ih =>
      rcases List.forall_mem_cons.mp ranged with ⟨now, later⟩
      rcases List.forall_mem_cons.mp fresh with ⟨unset, unsetLater⟩
      rcases List.nodup_cons.mp distinct with ⟨other, distinct⟩
      rcases readAll_reads (spelled.reads now) rest later free with ⟨text, sets, read⟩
      rcases settle_fresh sets unset with ⟨a, entry, settled⟩
      have freshLater : ∀ t ∈ choice, t.item ∉ s.item :: p.given := by
        intro t member given
        rcases List.mem_cons.mp given with same | given
        · exact other (List.mem_map.mpr ⟨t, member, same⟩)
        · exact unsetLater t member given
      rcases ih (p := ⟨a, s.item :: p.given, none⟩) later rfl freshLater distinct with ⟨q, done, follow⟩
      refine ⟨q, ?_, follow.cons other entry⟩
      rw [read, settled]
      exact done

theorem readAll_repeated (line : Line choice args) (ranged : ∀ s ∈ choice, s.Ranged)
    (free : p.pending = none) (once : p.given.Nodup)
    (twice : ∃ i, 2 ≤ (p.given ++ choice.map Setting.item).count i) :
    ∃ i, 2 ≤ (p.given ++ choice.map Setting.item).count i ∧ p.readAll args = .error (.repeated i) := by
  induction line generalizing p with
  | nil =>
      rcases twice with ⟨i, twice⟩
      rw [List.map_nil, List.append_nil] at twice
      have most := List.nodup_iff_count_le_one.mp once i
      omega
  | @cons s choice args line spelled rest ih =>
      rcases List.forall_mem_cons.mp ranged with ⟨now, later⟩
      rcases readAll_reads (spelled.reads now) rest later free with ⟨text, sets, read⟩
      by_cases given : s.item ∈ p.given
      · refine ⟨s.item, ?_, ?_⟩
        · have before := List.count_pos_iff.mpr given
          rw [List.count_append, List.map_cons, List.count_cons_self]
          omega
        · rw [read, settle, if_pos given]
          rfl
      · rcases settle_fresh sets given with ⟨a, -, settled⟩
        -- a step only moves an option from those to come to those given
        have moved (i : Item) : (s.item :: p.given ++ choice.map Setting.item).count i =
            (p.given ++ (s :: choice).map Setting.item).count i :=
          (List.perm_middle.count_eq i).symm
        simp only [← moved] at twice ⊢
        have unique := List.nodup_cons.mpr ⟨given, once⟩
        rcases ih (p := ⟨a, s.item :: p.given, none⟩) later rfl unique twice with ⟨i, twice, stopped⟩
        refine ⟨i, twice, ?_⟩
        rw [read, settled]
        exact stopped

end Progress

theorem parse_distinct {choice : List Setting} {line : List String} (spelled : Line choice line)
    (ranged : ∀ s ∈ choice, s.Ranged) (distinct : (choice.map Setting.item).Nodup) :
    ∃ a, parse line = .ok a ∧ Follow choice .standard a := by
  have fresh : ∀ s ∈ choice, s.item ∉ Progress.start.given := fun _ _ => List.not_mem_nil
  rcases Progress.readAll_distinct spelled ranged rfl fresh distinct with ⟨q, read, follow⟩
  refine ⟨q.arguments, ?_, follow⟩
  rw [parse, read]
  rfl

/-- A line of distinct options is read: each has the value given, any other its standard one, whatever the
order and the spelling. A line with an option given twice is refused, wherever the two stand. -/
theorem order_and_spelling_immaterial {choice : List Setting} {line : List String}
    (ranged : ∀ s ∈ choice, s.Ranged) (spelled : Line choice line) :
    ((choice.map Setting.item).Nodup →
        ∃ a, parse line = .ok a ∧ Follow choice .standard a ∧
          ∀ choice' line', choice'.Perm choice → Line choice' line' → parse line' = .ok a) ∧
      ∀ i, 2 ≤ (choice.map Setting.item).count i →
        ∃ j, 2 ≤ (choice.map Setting.item).count j ∧ parse line = .error (.repeated j) := by
  constructor
  · intro distinct
    rcases parse_distinct spelled ranged distinct with ⟨a, parsed, follow⟩
    refine ⟨a, parsed, follow, fun choice' line' same spelled' => ?_⟩
    have ranged' : ∀ s ∈ choice', s.Ranged := fun s member => ranged s (same.mem_iff.mp member)
    obtain ⟨b, parsed', follow'⟩ :=
      parse_distinct spelled' ranged' ((same.map Setting.item).nodup_iff.mpr distinct)
    rw [parsed', follow.unique follow' same]
  · intro i twice
    obtain ⟨j, repeated, stopped⟩ :=
      Progress.readAll_repeated (p := .start) spelled ranged rfl List.nodup_nil ⟨i, twice⟩
    refine ⟨j, repeated, ?_⟩
    rw [parse, stopped]
    rfl

theorem five_options_in_two_orders :
    (∃ a, parse ["-c", "-1", "-p-2000", "--timebase", " CLOCK", "--loops=007", "--json"] = .ok a ∧
        parse ["--json", "-l", "7", "-t2", "--pause", "-2000", "--cpu=-1"] = .ok a ∧
        a.cpu = -1 ∧ a.pause = -2000 ∧ a.timebase = .monotonicClock ∧ a.loops = 7 ∧ a.json = true ∧
        a.verbose = 0) ∧
      parse ["--cpu", "-1", "--json", "-c-1"] = .error (.repeated .cpu) := by
  have one : Digits ['1'] 1 := ⟨by decide, by simp, rfl⟩
  have twoThousand : Digits ['2', '0', '0', '0'] 2000 := ⟨by decide, by simp, rfl⟩
  have seven : Digits ['7'] 7 := ⟨by decide, by simp, rfl⟩
  have padded : Digits ['0', '0', '7'] 7 := ⟨by decide, by simp, rfl⟩
  have cpu : Setting.Written "-1" ⟨.cpu, -1⟩ := .minus one
  have pause : Setting.Written "-2000" ⟨.pause, -2000⟩ := .minus twoThousand
  have clock : Timebase.normalize " CLOCK" ∈ Timebase.monotonicClock.aliases := by decide
  have two : Timebase.normalize "2" ∈ Timebase.monotonicClock.aliases := by decide
  have loops : Setting.Written "7" ⟨.loops, (7 : Nat)⟩ := .plain seven
  have loopsPadded : Setting.Written "007" ⟨.loops, (7 : Nat)⟩ := .plain padded
  have first : Line
      [⟨.cpu, -1⟩, ⟨.pause, -2000⟩, ⟨.timebase, .monotonicClock⟩, ⟨.loops, (7 : Nat)⟩, ⟨.json, true⟩]
      ["-c", "-1", "-p-2000", "--timebase", " CLOCK", "--loops=007", "--json"] :=
    .cons (@Spelled.apart _ 'c' "-1" rfl cpu) <| .cons (@Spelled.attached _ 'p' "-2000" rfl pause) <|
      .cons (@Spelled.long ⟨.timebase, .monotonicClock⟩ " CLOCK" clock) <|
      .cons (@Spelled.equals _ "007" loopsPadded) <| .cons .json .nil
  have second : Line
      [⟨.json, true⟩, ⟨.loops, (7 : Nat)⟩, ⟨.timebase, .monotonicClock⟩, ⟨.pause, -2000⟩, ⟨.cpu, -1⟩]
      ["--json", "-l", "7", "-t2", "--pause", "-2000", "--cpu=-1"] :=
    .cons .json <| .cons (@Spelled.apart _ 'l' "7" rfl loops) <|
      .cons (@Spelled.attached ⟨.timebase, .monotonicClock⟩ 't' "2" rfl two) <|
      .cons (@Spelled.long _ "-2000" pause) <| .cons (@Spelled.equals _ "-1" cpu) .nil
  have again : Line [⟨.cpu, -1⟩, ⟨.json, true⟩, ⟨.cpu, -1⟩] ["--cpu", "-1", "--json", "-c-1"] :=
    .cons (@Spelled.long _ "-1" cpu) <| .cons .json <| .cons (@Spelled.attached _ 'c' "-1" rfl cpu) .nil
  constructor
  · obtain ⟨a, parsed, follow, indifferent⟩ :=
      (order_and_spelling_immaterial (by simp [Setting.Ranged, Signed.Fits, word32]) first).1 (by decide)
    have held := follow.held
    simp only [List.forall_mem_cons] at held
    rcases held with ⟨cpu, pause, timebase, loops, json, -⟩
    exact ⟨a, parsed, indifferent _ _ (List.reverse_perm _) second, cpu, pause, timebase, loops, json,
      follow.kept .verbose (by decide)⟩
  · obtain ⟨j, repeated, stopped⟩ :=
      (order_and_spelling_immaterial (by simp [Setting.Ranged]) again).2 .cpu (by decide)
    have only : j = .cpu := by
      cases j <;> first | rfl | exact absurd repeated (by decide)
    rw [stopped, only]

end Jitter.CommandLine

import Jitter.CommandLine.Parser
import Jitter.Proofs.Effects
import Mathlib.Tactic

/-! Every number on a command line that is read fits the word that it is kept in. -/

namespace Jitter.CommandLine

theorem magnitude_le {limit : Nat} {past : IntegerError} {s : List Char} {n m : Nat} (small : n ≤ limit)
    (read : magnitude limit past n s = .ok m) : m ≤ limit := by
  induction s generalizing n with
  | nil =>
      cases read
      exact small
  | cons c rest ih =>
      simp only [magnitude] at read
      split at read
      · cases read
      · split at read
        · cases read
        · rename_i fits
          exact ih (Nat.le_of_not_lt fits) read

theorem natural_lt {word : Nat} {s : List Char} {n : Nat} (positive : 0 < word)
    (read : natural word s = .ok n) : n < word := by
  simp only [natural] at read
  split at read
  · cases read
  · cases read
  · exact Nat.lt_of_le_pred positive (magnitude_le (Nat.zero_le _) read)
  · exact Nat.lt_of_le_pred positive (magnitude_le (Nat.zero_le _) read)

theorem integer_fits {s : List Char} {n : Int} (read : integer s = .ok n) : Signed.Fits n := by
  have nonneg {m : Except IntegerError Nat} (short : ∀ k, m = .ok k → k ≤ Signed.greatest.toNat)
      (read : m.map Int.ofNat = .ok n) : Signed.Fits n := by
    rcases except_map_eq_ok.mp read with ⟨k, made, rfl⟩
    have bound := short k made
    simp only [Signed.Fits, Signed.least, Signed.greatest, Int.ofNat_eq_natCast] at *
    omega
  simp only [integer] at read
  split at read
  · cases read
  · cases read
  · cases read
  · rcases except_map_eq_ok.mp read with ⟨_, made, rfl⟩
    rcases except_bind_eq_ok.mp made with ⟨k, digits, ⟨⟩⟩
    have bound := magnitude_le (Nat.zero_le _) digits
    simp only [Signed.Fits, Signed.least, Signed.greatest] at *
    omega
  · exact nonneg (fun k made => magnitude_le (Nat.zero_le _) made) read
  · exact nonneg (fun k made => magnitude_le (Nat.zero_le _) made) read

structure Arguments.InRange (a : Arguments) : Prop where
  busySpins : a.busySpins < word64
  cpu : Signed.least32 ≤ a.cpu ∧ a.cpu ≤ Signed.greatest32
  fifoPriority : Signed.least32 ≤ a.fifoPriority ∧ a.fifoPriority ≤ Signed.greatest32
  buckets : a.buckets < word64
  bucketWidth : a.bucketWidth < word64
  loops : a.loops < word32
  samples : a.samples < word64
  pause : Signed.Fits a.pause
  warmup : a.warmup < word64
  passes : a.passes < word32
  verbose : Signed.least32 ≤ a.verbose ∧ a.verbose ≤ Signed.greatest32

namespace Arguments

theorem standard_inRange : standard.InRange := by
  constructor <;> decide

theorem natural64_lt {s : String} {n : Nat} (read : natural64 s = .ok n) : n < word64 :=
  natural_lt (by decide) (mapError_eq_ok.mp read)

theorem between_bounds {least greatest : Int} {s : String} {n : Int}
    (read : between least greatest s = .ok n) : least ≤ n ∧ n ≤ greatest := by
  rcases except_bind_eq_ok.mp read with ⟨m, _, read⟩
  split at read
  · rename_i inside
    cases read
    exact inside
  · cases read

theorem natural32_lt {s : String} {n : Nat} (read : natural32 s = .ok n) : n < word32 := by
  rcases except_bind_eq_ok.mp read with ⟨m, between, ⟨⟩⟩
  have inside := between_bounds between
  simp only [word32] at *
  omega

theorem integer64_fits {s : String} {n : Int} (read : integer64 s = .ok n) : Signed.Fits n :=
  integer_fits (mapError_eq_ok.mp read)

theorem InRange.set {a a' : Arguments} (ranged : a.InRange) {s : String} {item : Item}
    (done : a.set s item = .ok a') : a'.InRange := by
  cases item with
  | busySpins =>
      rcases except_bind_eq_ok.mp done with ⟨n, read, ⟨⟩⟩
      exact { ranged with busySpins := natural64_lt read }
  | cpu =>
      rcases except_bind_eq_ok.mp done with ⟨n, read, ⟨⟩⟩
      exact { ranged with cpu := between_bounds read }
  | description =>
      cases done
      exact { ranged with }
  | fifoPriority =>
      rcases except_bind_eq_ok.mp done with ⟨n, read, ⟨⟩⟩
      exact { ranged with fifoPriority := between_bounds read }
  | gnuplot =>
      rcases except_bind_eq_ok.mp done with ⟨_, _, ⟨⟩⟩
      exact { ranged with }
  | buckets =>
      rcases except_bind_eq_ok.mp done with ⟨n, read, ⟨⟩⟩
      exact { ranged with buckets := natural64_lt read }
  | bucketWidth =>
      rcases except_bind_eq_ok.mp done with ⟨n, read, ⟨⟩⟩
      exact { ranged with bucketWidth := natural64_lt read }
  | loops =>
      rcases except_bind_eq_ok.mp done with ⟨n, read, ⟨⟩⟩
      exact { ranged with loops := natural32_lt read }
  | samples =>
      rcases except_bind_eq_ok.mp done with ⟨n, read, ⟨⟩⟩
      exact { ranged with samples := natural64_lt read }
  | pause =>
      rcases except_bind_eq_ok.mp done with ⟨n, read, ⟨⟩⟩
      exact { ranged with pause := integer64_fits read }
  | timebase =>
      rcases except_bind_eq_ok.mp done with ⟨_, _, ⟨⟩⟩
      exact { ranged with }
  | warmup =>
      rcases except_bind_eq_ok.mp done with ⟨n, read, ⟨⟩⟩
      exact { ranged with warmup := natural64_lt read }
  | passes =>
      rcases except_bind_eq_ok.mp done with ⟨n, read, ⟨⟩⟩
      exact { ranged with passes := natural32_lt read }
  | verbose =>
      rcases except_bind_eq_ok.mp done with ⟨n, read, ⟨⟩⟩
      exact { ranged with verbose := between_bounds read }
  | json =>
      cases done
      exact { ranged with }
  | debug =>
      cases done
      exact { ranged with }
  | help =>
      cases done
      exact ranged
  | version =>
      cases done
      exact ranged

end Arguments

namespace Progress

variable {p p' : Progress}

theorem settle_inRange {item : Item} {value : String} (ranged : p.arguments.InRange)
    (done : p.settle item value = .ok p') : p'.arguments.InRange := by
  simp only [settle] at done
  split at done
  · cases done
  · split at done
    · rename_i taken
      cases done
      exact ranged.set taken
    · cases done
    · cases done

theorem resolve_inRange (ranged : p.arguments.InRange) (done : p.resolve = .ok p') :
    p'.arguments.InRange := by
  simp only [resolve] at done
  split at done
  · cases done
    exact ranged
  · cases done
  · exact settle_inRange ranged done

theorem option_inRange {item : Item} {attached : Option String} (ranged : p.arguments.InRange)
    (done : p.option item attached = .ok p') : p'.arguments.InRange := by
  rcases except_bind_eq_ok.mp done with ⟨q, resolved, done⟩
  have between := resolve_inRange ranged resolved
  cases attached with
  | some value => exact settle_inRange between done
  | none =>
      cases done
      exact between

theorem switch_inRange {item : Item} (ranged : p.arguments.InRange)
    (done : p.switch item = .ok p') : p'.arguments.InRange := by
  rcases except_bind_eq_ok.mp done with ⟨q, resolved, done⟩
  have between := resolve_inRange ranged resolved
  split at done
  · cases done
  · cases done
  · exact settle_inRange between done

theorem long_inRange {s : List Char} (ranged : p.arguments.InRange) (done : p.long s = .ok p') :
    p'.arguments.InRange := by
  simp only [long] at done
  split at done
  · cases done
  · split at done
    · exact option_inRange ranged done
    · split at done
      · cases done
      · exact switch_inRange ranged done

theorem short_inRange {s : List Char} (ranged : p.arguments.InRange) (done : p.short s = .ok p') :
    p'.arguments.InRange := by
  induction s generalizing p with
  | nil =>
      cases done
      exact ranged
  | cons c rest ih =>
      simp only [short] at done
      split at done
      · cases done
      · split at done
        · exact option_inRange ranged done
        · rcases except_bind_eq_ok.mp done with ⟨q, switched, done⟩
          exact ih (switch_inRange ranged switched) done

theorem argument_inRange {s : String} (ranged : p.arguments.InRange) (done : p.argument s = .ok p') :
    p'.arguments.InRange := by
  have plain {p' : Progress} (done : p.plain s = .ok p') : p'.arguments.InRange := by
    simp only [Progress.plain] at done
    split at done
    · cases done
      exact ranged
    · cases done
  simp only [argument] at done
  split at done
  · exact plain done
  · simp only [dashed] at done
    split at done
    · exact long_inRange ranged done
    · exact short_inRange ranged done
    · exact plain done

theorem readAll_inRange {args : List String} (ranged : p.arguments.InRange)
    (done : p.readAll args = .ok p') : p'.arguments.InRange := by
  induction args generalizing p with
  | nil => exact resolve_inRange ranged done
  | cons s rest ih =>
      simp only [readAll] at done
      split at done
      · split at done
        · exact resolve_inRange ranged done
        · cases done
      · rcases except_bind_eq_ok.mp done with ⟨q, taken, done⟩
        exact ih (argument_inRange ranged taken) done

end Progress

theorem parse_inRange {args : List String} {a : Arguments} (parsed : parse args = .ok a) :
    a.InRange := by
  rcases except_bind_eq_ok.mp parsed with ⟨p, read, ⟨⟩⟩
  exact Progress.readAll_inRange Arguments.standard_inRange read

end Jitter.CommandLine

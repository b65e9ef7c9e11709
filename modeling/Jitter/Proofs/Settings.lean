import Jitter.CommandLine.Parser
import Jitter.Proofs.Numerals
import Jitter.Proofs.TimebaseNames

/-! Options with the values they are given: how these are written, and what setting one leaves alone. -/

namespace Jitter

namespace CommandLine

theorem begins_alias {t : Timebase} {name : String} (named : name ∈ t.aliases) :
    Begins false name.toList := by
  cases t with
  | cycleCounter =>
      simp only [Timebase.aliases, Timebase.name, List.mem_cons, List.not_mem_nil, or_false] at named
      rcases named with rfl | rfl | rfl | rfl <;> exact ⟨by decide, by decide⟩
  | monotonicClock =>
      simp only [Timebase.aliases, Timebase.name, List.mem_cons, List.not_mem_nil, or_false] at named
      rcases named with rfl | rfl | rfl | rfl | rfl <;> exact ⟨by decide, by decide⟩

/-- Neither `=` nor `-` is blank or a capital, so that the comparison would see it. -/
theorem begins_timebase {t : Timebase} {text : String} (named : Timebase.normalize text ∈ t.aliases) :
    Begins false text.toList := by
  have front := begins_alias named
  rw [Timebase.normalize, String.toList_ofList] at front
  cases whole : text.toList with
  | nil =>
      rw [whole] at front
      exact front
  | cons c rest =>
      have seen (shown : Text.isBlank c = false) : Begins false [c.toLower] := by
        rcases Text.trim_of_visible (s := rest) shown with ⟨after, trimmed⟩
        rw [whole, trimmed] at front
        exact front
      constructor
      · rintro rfl
        exact (seen rfl).1 rfl
      · rintro rfl
        exact (seen rfl).2 rfl

@[reducible]
def Item.Value : Item → Type
  | busySpins | buckets | bucketWidth | loops | samples | warmup | passes => Nat
  | cpu | fifoPriority | pause | verbose => Int
  | description => String
  | gnuplot => Option String
  | timebase => Timebase
  | json | debug => Bool
  | help | version => Unit

namespace Arguments

def entry (a : Arguments) : (i : Item) → i.Value
  | .busySpins => a.busySpins
  | .cpu => a.cpu
  | .description => a.description
  | .fifoPriority => a.fifoPriority
  | .gnuplot => a.gnuplot
  | .buckets => a.buckets
  | .bucketWidth => a.bucketWidth
  | .loops => a.loops
  | .samples => a.samples
  | .pause => a.pause
  | .timebase => a.timebase
  | .warmup => a.warmup
  | .passes => a.passes
  | .verbose => a.verbose
  | .json => a.json
  | .debug => a.debug
  | .help | .version => ()

theorem entry_injective : Function.Injective entry := by
  intro a b same
  have field (i : Item) : a.entry i = b.entry i := congrFun same i
  cases a
  cases b
  simp only [mk.injEq]
  exact ⟨field .busySpins, field .cpu, field .description, field .fifoPriority, field .gnuplot,
    field .buckets, field .bucketWidth, field .loops, field .samples, field .pause, field .timebase,
    field .warmup, field .passes, field .verbose, field .json, field .debug⟩

end Arguments

structure Setting where
  item : Item
  value : item.Value

namespace Setting

def Ranged : Setting → Prop
  | ⟨.busySpins, n⟩ | ⟨.buckets, n⟩ | ⟨.bucketWidth, n⟩ | ⟨.samples, n⟩ | ⟨.warmup, n⟩ => n < word64
  | ⟨.loops, n⟩ | ⟨.passes, n⟩ => n < word32
  | ⟨.cpu, n⟩ | ⟨.fifoPriority, n⟩ | ⟨.verbose, n⟩ => Signed.least32 ≤ n ∧ n ≤ Signed.greatest32
  | ⟨.pause, n⟩ => Signed.Fits n
  | _ => True

/-- A text for the value of an option that takes a number or a timebase. -/
def Written (text : String) : Setting → Prop
  | ⟨.busySpins, n⟩ | ⟨.buckets, n⟩ | ⟨.bucketWidth, n⟩ | ⟨.samples, n⟩ | ⟨.warmup, n⟩
  | ⟨.loops, n⟩ | ⟨.passes, n⟩ => Numeral text.toList n
  | ⟨.cpu, n⟩ | ⟨.fifoPriority, n⟩ | ⟨.verbose, n⟩ | ⟨.pause, n⟩ => SignedNumeral text.toList n
  | ⟨.timebase, t⟩ => Timebase.normalize text ∈ t.aliases
  | _ => False

def SetBy (text : String) (s : Setting) : Prop :=
  ∀ a : Arguments, ∃ b, a.set text s.item = .ok b ∧ b.entry = Function.update a.entry s.item s.value

variable {s : Setting} {text : String}

theorem set_read {α : Type} {read : Arguments.Value α} {value : α} {put : α → Arguments}
    {entry : (i : Item) → i.Value} (done : read = .ok value) (kept : (put value).entry = entry) :
    ∃ b, (do pure (put (← read))) = Except.ok b ∧ b.entry = entry :=
  ⟨put value, except_bind_eq_ok.mpr ⟨value, done, rfl⟩, kept⟩

open Arguments in
theorem Written.setBy (written : s.Written text) (ranged : s.Ranged) : s.SetBy text := by
  intro a
  rcases s with ⟨item, value⟩
  cases item with
  | busySpins | buckets | bucketWidth | samples | warmup =>
      exact set_read (natural64_numeral written ranged) (funext fun i => by cases i <;> rfl)
  | loops | passes =>
      exact set_read (natural32_numeral written ranged) (funext fun i => by cases i <;> rfl)
  | cpu | fifoPriority | verbose =>
      exact set_read (integer32_numeral written ranged) (funext fun i => by cases i <;> rfl)
  | pause => exact set_read (integer64_numeral written ranged) (funext fun i => by cases i <;> rfl)
  | timebase =>
      have read : timebaseOf text = .ok value := by
        rw [timebaseOf, Timebase.parse_of_normalize written]
        rfl
      exact set_read read (funext fun i => by cases i <;> rfl)
  | description | gnuplot | json | debug | help | version => exact written.elim

theorem json_setBy : SetBy text ⟨.json, true⟩ :=
  fun a => ⟨{ a with json := true }, rfl, funext fun i => by cases i <;> rfl⟩

theorem debug_setBy : SetBy text ⟨.debug, true⟩ :=
  fun a => ⟨{ a with debug := true }, rfl, funext fun i => by cases i <;> rfl⟩

theorem Written.takesValue (written : s.Written text) : s.item.takesValue = true := by
  rcases s with ⟨item, value⟩
  cases item with
  | description | gnuplot | json | debug | help | version => exact written.elim
  | _ => rfl

theorem Written.begins (written : s.Written text) : Begins s.item.greedy text.toList := by
  rcases s with ⟨item, value⟩
  cases item with
  | busySpins | buckets | bucketWidth | samples | warmup | loops | passes => exact Numeral.begins written
  | cpu | fifoPriority | verbose | pause => exact SignedNumeral.begins written
  | timebase => exact begins_timebase written
  | description | gnuplot | json | debug | help | version => exact written.elim

theorem exists_written (takes : s.item.takesValue = true)
    (other : s.item ≠ .description ∧ s.item ≠ .gnuplot) : ∃ text, s.Written text := by
  have unsigned (n : Nat) : Numeral (String.ofList (Nat.toDigits 10 n)).toList n := by
    rw [String.toList_ofList]
    exact .plain (digits_toDigits n)
  have signed (n : Int) : ∃ text : String, SignedNumeral text.toList n := by
    rcases exists_signedNumeral n with ⟨s, numeral⟩
    exact ⟨String.ofList s, by rwa [String.toList_ofList]⟩
  rcases s with ⟨item, value⟩
  cases item with
  | busySpins | buckets | bucketWidth | samples | warmup | loops | passes => exact ⟨_, unsigned value⟩
  | cpu | fifoPriority | verbose | pause => exact signed value
  | timebase =>
      refine ⟨Timebase.name value, ?_⟩
      change Timebase.normalize (Timebase.name value) ∈ Timebase.aliases value
      cases value <;> decide
  | description => exact absurd rfl other.1
  | gnuplot => exact absurd rfl other.2
  | json | debug | help | version => cases takes

end Setting

end CommandLine

end Jitter

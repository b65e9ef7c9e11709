import Jitter.Calibration.Pass
import Jitter.Proofs.Outcome
import Jitter.Proofs.Spin

/-! Operations on a clock, by what holds of their values on whatever world: nothing but the clock breaks
them off. -/

namespace Jitter

inductive ClockFailure (ω : Type) [Clock ω] : Failure → Prop
  /-- Two readings are too far apart. -/
  | apart : ClockFailure ω (.fault .subOverflow)
  /-- A wait has no end. -/
  | stalled : ClockFailure ω (.fault .stalled)
  | monotonic {w w' : ω} {f : Fault} (broke : Clock.monotonic w = .error f w') :
      ClockFailure ω (.fault f)
  | cycles {w w' : ω} {f : Fault} (broke : Clock.cycles w = .error f w') :
      ClockFailure ω (.fault f)

theorem ClockFailure.exists_fault {ω : Type} [Clock ω] {e : Failure} (failed : ClockFailure ω e) :
    ∃ f, e = .fault f := by
  cases failed with
  | apart => exact ⟨_, rfl⟩
  | stalled => exact ⟨_, rfl⟩
  | monotonic => exact ⟨_, rfl⟩
  | cycles => exact ⟨_, rfl⟩

def Counts (ω : Type) [Clock ω] : Prop := ∀ (w : ω) n w', Clock.cycles w = .ok n w' → n < word64

variable {ω : Type} [Clock ω]

/-- On whatever world, a value of `act` has the property `P`, and only the clock can break it off. -/
def Yields {α : Type} (act : Action ω α) (P : α → Prop) : Prop :=
  ∀ w, Ends act w (fun a _ => P a) fun e _ => ClockFailure ω e

namespace Yields

section

variable {α β : Type} {act : Action ω α} {next : α → Action ω β} {P Q : α → Prop} {R : β → Prop}

theorem pure {a : α} (holds : P a) : Yields (Pure.pure a : Action ω α) P := fun _ => holds

theorem stalled : Yields (throw (.fault .stalled) : Action ω α) P := fun _ => .stalled

theorem modify (f : ω → ω) : Yields (modify f : Action ω Unit) fun _ => True := fun _ => trivial

theorem bind (first : Yields act P) (rest : ∀ a, P a → Yields (next a) R) : Yields (act >>= next) R :=
  fun w => (first w).bind fun a s' holds => rest a holds s'

end

theorem monotonic : Yields (Clock.readMonotonic : Action ω Int) fun _ => True := by
  intro w
  cases shown : Clock.monotonic w with
  | ok ns w' => simp [Ends, Clock.readMonotonic, Action.ofFaulty, shown]
  | error f w' =>
      simp only [Ends, Clock.readMonotonic, Action.ofFaulty, shown]
      exact .monotonic shown

theorem cycles (counts : Counts ω) : Yields (Clock.readCycles : Action ω Nat) (· < word64) := by
  intro w
  cases shown : Clock.cycles w with
  | ok n w' =>
      simp only [Ends, Clock.readCycles, Action.ofFaulty, shown]
      exact counts w n w' shown
  | error f w' =>
      simp only [Ends, Clock.readCycles, Action.ofFaulty, shown]
      exact .cycles shown

variable {α : Type} {read : Action ω α} {P : α → Prop}

theorem span (one : Yields read P) (n : Nat) :
    Yields (Clock.span read n) fun both => P both.1 ∧ P both.2 := by
  have again : ∀ n last, P last → Yields (Clock.span.again read n last) P := by
    intro n
    induction n with
    | zero => exact fun last holds => .pure holds
    | succ n ih => exact fun last _ => one.bind ih
  exact one.bind fun first start => (again n first start).bind fun last holds => .pure ⟨start, holds⟩

theorem aroundLoops (one : Yields read P) (loops : Nat) :
    Yields (Clock.aroundLoops read loops) fun both => P both.1 ∧ P both.2 :=
  one.bind fun _ start => (modify _).bind fun _ _ => one.bind fun _ holds => .pure ⟨start, holds⟩

theorem readUntil (one : Yields read P) (late : α → Bool) (fuel : Nat) :
    Yields (Clock.readUntil read late fuel) fun _ => True := by
  induction fuel with
  | zero => exact .stalled
  | succ fuel ih =>
      refine one.bind fun now _ => ?_
      by_cases arrived : late now
      · rw [if_pos arrived]
        exact .pure trivial
      · rw [if_neg arrived]
        exact ih

theorem onMonotonicClock {c : Calibration} (known : c.requireReadCost = .ok ()) (ns : Int) :
    Yields (Spin.onMonotonicClock c ns : Action ω Unit) fun _ => True := by
  simp only [Spin.onMonotonicClock, known]
  refine .bind (P := fun _ => True) (.pure trivial) fun _ _ => monotonic.bind fun now _ => ?_
  by_cases arrived : Signed.saturate (now + Spin.compensated c.readCost ns) ≤ now
  · rw [if_pos arrived]
    exact .pure trivial
  · rw [if_neg arrived]
    exact monotonic.readUntil _ _

theorem wait {c : Calibration} (known : c.requireReadCost = .ok ()) (ns : Int) :
    Yields (Spin.wait c .monotonicClock ns : Action ω Unit) fun _ => True := by
  intro w
  by_cases none : ns ≤ 0
  · rw [Ends, Spin.wait_of_nonpos none]
    trivial
  · rw [Ends, Spin.wait_monotonicClock (Int.not_le.mp none)]
    exact onMonotonicClock known ns w

theorem regardless_wait (c : Calibration) (ns : Int) :
    Yields (Instrument.regardless (Spin.wait c .monotonicClock ns : Action ω Unit)) fun _ => True := by
  intro w
  rw [Ends, Instrument.regardless]
  cases known : c.requireReadCost with
  | ok _ =>
      have waited := wait (ω := ω) known ns w
      cases ended : Spin.wait c .monotonicClock ns w with
      | ok _ w' => trivial
      | error e w' =>
          have failed := waited.of_error ended
          obtain ⟨f, rfl⟩ := failed.exists_fault
          exact failed
  | error why =>
      -- Before the first reading there is nothing that the clock could break off.
      by_cases none : ns ≤ 0
      · rw [Spin.wait_of_nonpos none]
        trivial
      · rw [Spin.wait_of_unmeasured known (Int.not_le.mp none)]
        trivial

end Yields

end Jitter

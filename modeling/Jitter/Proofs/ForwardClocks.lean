import Jitter.Proofs.Conversion
import Jitter.Proofs.Readings

/-! Clocks that do not run backward, whatever their counters show, and operations that read them. -/

namespace Jitter

/-- Where `past t` holds of a world, no reading of its clock is before `t`. Counts are whatever words
there are, and where a reading has a fault that is the clock's `own`, and seen in the world. -/
structure Forward (ω : Type) [Clock ω] (past : Int → ω → Prop) (own : Fault → ω → Prop) : Prop where
  monotonic : ∀ {t w}, past t w →
    Ends Clock.monotonic w (fun ns w' => t ≤ ns ∧ ns ≤ Signed.greatest ∧ past ns w') own
  cycles : ∀ {t w}, past t w → Ends Clock.cycles w (fun n w' => n < word64 ∧ past t w') own
  idle : ∀ {t w} loops, past t w → past t (Clock.idle loops w)

/-- Failures for which no arithmetic is to blame: refusals, waits without end, and what a clock has of
its own. -/
inductive Excused {ω : Type} (own : Fault → ω → Prop) : Failure → ω → Prop
  | refused (e : Error) {w : ω} : Excused own (.error e) w
  | stalled {w : ω} : Excused own (.fault .stalled) w
  | own {f : Fault} {w : ω} (broke : own f w) : Excused own (.fault f) w

theorem Excused.fault {ω : Type} {own : Fault → ω → Prop} {f : Fault} {w : ω}
    (excused : Excused own (.fault f) w) : f = .stalled ∨ own f w := by
  cases excused with
  | stalled => exact .inl rfl
  | own broke => exact .inr broke

/-- What begins at `t` ends no earlier, with a value of which `shows` holds at that later time. -/
def Lasts {ω α : Type} (past : Int → ω → Prop) (own : Fault → ω → Prop) (act : Action ω α)
    (shows : Int → α → Prop) (t : Int) (w : ω) : Prop :=
  Ends act w (fun a w' => ∃ t', t ≤ t' ∧ shows t' a ∧ past t' w') (Excused own)

namespace Lasts

variable {ω α β : Type} {past : Int → ω → Prop} {own : Fault → ω → Prop} {act read : Action ω α}
  {next : α → Action ω β} {shows : Int → α → Prop} {tells : Int → β → Prop} {t : Int} {w : ω}

theorem pure {a : α} (here : past t w) (now : shows t a) :
    Lasts past own (Pure.pure a) shows t w := ⟨t, Int.le_refl t, now, here⟩

theorem of_modify {f : ω → ω} {shows : Int → Unit → Prop} (here : past t (f w)) (now : shows t ()) :
    Lasts past own (modify f) shows t w := ⟨t, Int.le_refl t, now, here⟩

theorem bind (first : Lasts past own act shows t w)
    (rest : ∀ t' a w', t ≤ t' → shows t' a → past t' w' → Lasts past own (next a) tells t' w') :
    Lasts past own (act >>= next) tells t w := by
  apply Ends.bind first
  intro a w' later
  rcases later with ⟨t', after, shown, here⟩
  apply Ends.mono (rest t' a w' after shown here)
  · intro b w'' last
    rcases last with ⟨t'', since, told, there⟩
    exact ⟨t'', Int.le_trans after since, told, there⟩
  · exact fun _ _ => id

theorem refusal_bind {x : Except Error α} (rest : ∀ a, x = .ok a → Lasts past own (next a) tells t w) :
    Lasts past own ((liftM x : Action ω α) >>= next) tells t w := by
  cases x with
  | ok a => exact rest a rfl
  | error e => exact .refused e

theorem except_bind {x : Except Failure α} (value : ∀ a, x = .ok a → Lasts past own (next a) tells t w)
    (excused : ∀ e, x = .error e → Excused own e w) :
    Lasts past own ((liftM x : Action ω α) >>= next) tells t w := by
  cases x with
  | ok a => exact value a rfl
  | error e => exact excused e rfl

def Always (past : Int → ω → Prop) (own : Fault → ω → Prop) (read : Action ω α)
    (shows : Int → α → Prop) : Prop :=
  ∀ t w, past t w → Lasts past own read shows t w

theorem span (always : Always past own read shows) (here : past t w) (n : Nat) :
    Lasts past own (Clock.span read n) (fun t' both =>
      shows t' both.2 ∧ ∃ t₁, t ≤ t₁ ∧ t₁ ≤ t' ∧ shows t₁ both.1) t w := by
  have again : ∀ n last t w, past t w → shows t last →
      Lasts past own (Clock.span.again read n last) shows t w := by
    intro n
    induction n with
    | zero => exact fun last t w here now => .pure here now
    | succ n ih =>
        intro last t w here now
        apply (always t w here).bind
        intro t' a w' _ shown there
        exact ih a t' w' there shown
  apply (always t w here).bind
  intro t₁ first w₁ after shown there
  apply (again n first t₁ w₁ there shown).bind
  intro t₂ last w₂ since later ended
  exact .pure ended ⟨later, t₁, after, since, shown⟩

theorem readUntil (always : Always past own read shows) (here : past t w) (late : α → Bool)
    (fuel : Nat) : Lasts past own (Clock.readUntil read late fuel) (fun _ _ => True) t w := by
  induction fuel generalizing t w with
  | zero => exact .stalled
  | succ fuel ih =>
      apply (always t w here).bind
      intro t' now w' _ _ there
      by_cases arrived : late now
      · rw [if_pos arrived]
        exact .pure there trivial
      · rw [if_neg arrived]
        exact ih there

variable [Clock ω]

theorem aroundLoops (forward : Forward ω past own) (always : Always past own read shows)
    (here : past t w) (loops : Nat) :
    Lasts past own (Clock.aroundLoops read loops) (fun t' both =>
      shows t' both.2 ∧ ∃ t₁, t ≤ t₁ ∧ t₁ ≤ t' ∧ shows t₁ both.1) t w := by
  apply (always t w here).bind
  intro t₁ first w₁ after shown there
  have idle : Lasts past own (modify (Clock.idle loops)) (fun t' _ => t' = t₁) t₁ w₁ :=
    .of_modify (forward.idle loops there) rfl
  apply idle.bind
  rintro _ _ w₂ _ rfl rested
  apply (always _ w₂ rested).bind
  intro t₂ last w₃ since later ended
  exact .pure ended ⟨later, _, after, since, shown⟩

theorem readMonotonic (forward : Forward ω past own) :
    Always past own Clock.readMonotonic fun t ns => ns = t ∧ ns ≤ Signed.greatest := by
  intro t w here
  have reading := forward.monotonic here
  cases shown : Clock.monotonic w with
  | ok ns w' =>
      rw [Ends, shown] at reading
      simp only [Lasts, Ends, Clock.readMonotonic, Action.ofFaulty, shown]
      exact ⟨ns, reading.1, ⟨rfl, reading.2.1⟩, reading.2.2⟩
  | error f w' =>
      rw [Ends, shown] at reading
      simp only [Lasts, Ends, Clock.readMonotonic, Action.ofFaulty, shown]
      exact .own reading

theorem readCycles (forward : Forward ω past own) :
    Always past own Clock.readCycles fun _ n => n < word64 := by
  intro t w here
  have reading := forward.cycles here
  cases shown : Clock.cycles w with
  | ok n w' =>
      rw [Ends, shown] at reading
      simp only [Lasts, Ends, Clock.readCycles, Action.ofFaulty, shown]
      exact ⟨t, Int.le_refl t, reading.1, reading.2⟩
  | error f w' =>
      rw [Ends, shown] at reading
      simp only [Lasts, Ends, Clock.readCycles, Action.ofFaulty, shown]
      exact .own reading

variable {c : Calibration} {ns : Int}

theorem onMonotonicClock (forward : Forward ω past own) (here : past t w) :
    Lasts past own (Spin.onMonotonicClock c ns) (fun _ _ => True) t w := by
  apply Lasts.refusal_bind
  intro _ _
  apply (readMonotonic forward t w here).bind
  intro t' now w' _ _ there
  by_cases arrived : Signed.saturate (now + Spin.compensated c.readCost ns) ≤ now
  · rw [if_pos arrived]
    exact .pure there trivial
  · rw [if_neg arrived]
    exact readUntil (readMonotonic forward) there _ _

theorem countUp (forward : Forward ω past own) (here : past t w) (word : c.hz < word64)
    (fits : ns ≤ Signed.greatest) :
    Lasts past own (Spin.countUp c ns) (fun _ _ => True) t w := by
  have converted := Calibration.nanosToCycles_eq word fits
  apply Lasts.except_bind
  · intro cycles _
    apply (readCycles forward t w here).bind
    intro t' entry w' _ _ there
    exact readUntil (readCycles forward) there _ _
  · intro e refused
    rw [converted] at refused
    split at refused
    · cases refused
    · cases refused
      exact .refused _

theorem onCycleCounter (forward : Forward ω past own) (here : past t w) (word : c.hz < word64)
    (fits : ns ≤ Signed.greatest) :
    Lasts past own (Spin.onCycleCounter c ns) (fun _ _ => True) t w := by
  by_cases there : Clock.hasCycleCounter w = true
  · rw [Lasts, Ends, Spin.onCycleCounter_of_counter there]
    exact countUp forward here word fits
  · rw [Lasts, Ends, Spin.onCycleCounter_of_none there]
    exact .refused _

theorem waitOnClock (forward : Forward ω past own) (here : past t w) :
    Lasts past own (Spin.wait c .monotonicClock ns) (fun _ _ => True) t w := by
  by_cases none : ns ≤ 0
  · rw [Lasts, Ends, Spin.wait_of_nonpos none]
    exact ⟨t, Int.le_refl t, trivial, here⟩
  · rw [Lasts, Ends, Spin.wait_monotonicClock (Int.not_le.mp none)]
    exact onMonotonicClock forward here

theorem wait (forward : Forward ω past own) (here : past t w) (word : c.hz < word64)
    (fits : ns ≤ Signed.greatest) (timebase : Timebase) :
    Lasts past own (Spin.wait c timebase ns) (fun _ _ => True) t w := by
  cases timebase with
  | monotonicClock => exact waitOnClock forward here
  | cycleCounter =>
      by_cases none : ns ≤ 0
      · rw [Lasts, Ends, Spin.wait_of_nonpos none]
        exact ⟨t, Int.le_refl t, trivial, here⟩
      · rw [Lasts, Ends, Spin.wait_cycleCounter (Int.not_le.mp none)]
        exact onCycleCounter forward here word fits

theorem regardless_wait (forward : Forward ω past own) (here : past t w) :
    Lasts past own (Instrument.regardless (Spin.wait c .monotonicClock ns)) (fun _ _ => True) t w := by
  rw [Lasts, Ends, Instrument.regardless]
  cases known : c.requireReadCost with
  | error why =>
      -- A wait that is refused has not read the clock.
      by_cases none : ns ≤ 0
      · rw [Spin.wait_of_nonpos none]
        exact ⟨t, Int.le_refl t, trivial, here⟩
      · rw [Spin.wait_of_unmeasured known (Int.not_le.mp none)]
        exact ⟨t, Int.le_refl t, trivial, here⟩
  | ok _ =>
      have waited : Lasts past own (Spin.wait c .monotonicClock ns) (fun _ _ => True) t w :=
        waitOnClock forward here
      cases ended : Spin.wait c .monotonicClock ns w with
      | ok _ w' =>
          have later := Ends.of_ok waited ended
          exact later
      | error e w' =>
          have failed := (Yields.wait known ns w).of_error ended
          rcases failed.exists_fault with ⟨f, rfl⟩
          have excused := Ends.of_error waited ended
          exact excused

end Lasts

end Jitter

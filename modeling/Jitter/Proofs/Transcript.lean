import Jitter.Meter.Run
import Jitter.Proofs.Effects
import Mathlib.Tactic

/-! Worlds that keep a log of what is done to them, and of what their instruments show. -/

namespace Jitter

inductive Event where
  | read (timebase : Timebase) (reading : Int)
  | call
  | sleep (us : Nat)
  deriving DecidableEq, Repr

structure Logged (ω : Type) where
  world : ω
  log : List Event
  deriving DecidableEq, Repr

namespace Logged

variable {ω α β : Type}

def note (event : α → Event) (read : EStateM Fault ω α) : EStateM Fault (Logged ω) α := fun w =>
  match read w.world with
  | .ok a world => .ok a ⟨world, w.log ++ [event a]⟩
  | .error f world => .error f ⟨world, w.log⟩

instance [Clock ω] : Clock (Logged ω) where
  monotonic := note (fun ns => .read .monotonicClock ns) Clock.monotonic
  cycles := note (fun n => .read .cycleCounter n) Clock.cycles
  hasCycleCounter w := Clock.hasCycleCounter w.world
  sleep us w := ⟨Clock.sleep us w.world, w.log ++ [.sleep us]⟩
  idle loops w := ⟨Clock.idle loops w.world, w.log⟩

def watch (op : Meter.Operation ω) : Meter.Operation (Logged ω) := fun w =>
  ⟨op w.world, w.log ++ [.call]⟩

end Logged

section

variable {ω α β : Type}

/-- `act` leads from `w` to `w'`, and `logged` does the same and writes down `events`. -/
def Logs (act : Action ω α) (logged : Action (Logged ω) α) (w : ω) (a : α) (w' : ω)
    (events : List Event) : Prop :=
  act w = .ok a w' ∧ ∀ log, logged ⟨w, log⟩ = .ok a ⟨w', log ++ events⟩

namespace Logs

variable {act : Action ω α} {logged : Action (Logged ω) α} {w w' w'' : ω} {a : α} {b : β}
  {events later : List Event} {next : α → Action ω β} {logged' : α → Action (Logged ω) β}

theorem bind (first : Logs act logged w a w' events)
    (second : Logs (next a) (logged' a) w' b w'' later) :
    Logs (act >>= next) (logged >>= logged') w b w'' (events ++ later) := by
  constructor
  · rw [bind_of_ok first.1, second.1]
  · intro log
    rw [bind_of_ok (first.2 log), second.2, List.append_assoc]

theorem silent (still : act w = .ok a w) (watched : ∀ v, logged v = .ok a v) :
    Logs act logged w a w [] :=
  ⟨still, fun log => by rw [List.append_nil, watched]⟩

theorem refusal {x : Except Error α} (value : x = .ok a) (w : ω) :
    Logs (liftM x) (liftM x) w a w [] :=
  silent (Action.refusal_eq_ok.mpr ⟨value, rfl⟩) fun _ => Action.refusal_eq_ok.mpr ⟨value, rfl⟩

theorem checked {x : Checked α} (value : x = .ok a) (w : ω) :
    Logs (liftM x) (liftM x) w a w [] :=
  silent (Action.checked_eq_ok.mpr ⟨value, rfl⟩) fun _ => Action.checked_eq_ok.mpr ⟨value, rfl⟩

theorem except {x : Except Failure α} (value : x = .ok a) (w : ω) :
    Logs (liftM x) (liftM x) w a w [] :=
  silent (Action.except_eq_ok.mpr ⟨value, rfl⟩) fun _ => Action.except_eq_ok.mpr ⟨value, rfl⟩

theorem call (op : Meter.Operation ω) (w : ω) :
    Logs (modify op) (modify (Logged.watch op)) w () (op w) [.call] :=
  ⟨rfl, fun _ => rfl⟩

variable [Clock ω]

theorem sleep (us : Nat) (w : ω) :
    Logs (modify (Clock.sleep us)) (modify (Clock.sleep us)) w () (Clock.sleep us w) [.sleep us] :=
  ⟨rfl, fun _ => rfl⟩

theorem monotonic {ns : Int} (shown : Clock.readMonotonic w = .ok ns w') :
    Logs Clock.readMonotonic Clock.readMonotonic w ns w' [.read .monotonicClock ns] := by
  refine ⟨shown, fun log => ?_⟩
  have raw := Action.ofFaulty_eq_ok.mp shown
  apply Action.ofFaulty_eq_ok.mpr
  simp only [Clock.monotonic, Logged.note, raw]

theorem cycles {n : Nat} (shown : Clock.readCycles w = .ok n w') :
    Logs Clock.readCycles Clock.readCycles w n w' [.read .cycleCounter n] := by
  refine ⟨shown, fun log => ?_⟩
  have raw := Action.ofFaulty_eq_ok.mp shown
  apply Action.ofFaulty_eq_ok.mpr
  simp only [Clock.cycles, Logged.note, raw]

end Logs

theorem readUntil_logs {read : Action ω α} {logged : Action (Logged ω) α} {event : α → Event}
    (each : ∀ {w a w'}, read w = .ok a w' → Logs read logged w a w' [event a]) (late : α → Bool)
    (fuel : Nat) {w w' : ω} (ended : Clock.readUntil read late fuel w = .ok () w') :
    ∃ early last,
      Logs (Clock.readUntil read late fuel) (Clock.readUntil logged late fuel) w () w'
        ((early ++ [last]).map event) ∧
      (∀ a ∈ early, late a = false) ∧ late last = true := by
  induction fuel generalizing w with
  | zero => cases ended
  | succ fuel ih =>
      rcases bind_eq_ok.mp ended with ⟨now, middle, shown, rest⟩
      by_cases arrived : late now
      · rw [if_pos arrived] at rest
        cases rest
        refine ⟨[], now, ?_, by simp, arrived⟩
        have done : Logs (if late now then pure () else Clock.readUntil read late fuel)
            (if late now then pure () else Clock.readUntil logged late fuel) w' () w' [] := by
          rw [if_pos arrived, if_pos arrived]
          exact Logs.silent rfl fun _ => rfl
        exact (each shown).bind done
      · rw [if_neg arrived] at rest
        rcases ih rest with ⟨early, last, logs, before, after⟩
        refine ⟨now :: early, last, ?_, ?_, after⟩
        · have more : Logs (if late now then pure () else Clock.readUntil read late fuel)
              (if late now then pure () else Clock.readUntil logged late fuel) middle () w'
              ((early ++ [last]).map event) := by
            simpa only [if_neg arrived] using logs
          exact (each shown).bind more
        · intro a member
          rcases List.mem_cons.mp member with rfl | member
          · exact Bool.eq_false_iff.mpr arrived
          · exact before a member

end

end Jitter

import Jitter.Meter.Run
import Jitter.Proofs.Effects

/-! The turns of a run, counted one by one, are those of its warmup and then those that are measured. -/

namespace Jitter.Meter

variable {ω : Type} [Clock ω]

def discardOne (op : Operation ω) (plan : RunPlan) : Action (Meter ω) Unit := do
  let c := (← get).calibration
  let _ ← onClock (sample op plan c)

def recordOne (op : Operation ω) (plan : RunPlan) : Action (Meter ω) Unit := do
  let c := (← get).calibration
  record (← onClock (sample op plan c))

def loop (op : Operation ω) (plan : RunPlan) : Action (Meter ω) Unit := do
  repeatedly (discardOne op plan) plan.warmup
  repeatedly (recordOne op plan) plan.measured

variable (op : Operation ω) {plan : RunPlan}

theorem turn_of_lt {iteration : Nat} (warming : iteration < plan.warmup) (samples : Nat) :
    turn op plan iteration samples = discardOne op plan >>= fun _ => pure samples := by
  simp only [turn, discardOne, if_neg (Nat.not_le_of_lt warming), bind_assoc, pure_bind]

theorem turn_of_le {iteration samples : Nat} (measuring : plan.warmup ≤ iteration)
    (fits : samples + 1 < word64) :
    turn op plan iteration samples = recordOne op plan >>= fun _ => pure (samples + 1) := by
  have counted : Unsigned.add word64 samples 1 = .ok (samples + 1) := if_pos fits
  simp only [turn, recordOne, if_pos measuring, counted, bind_assoc]
  rfl

theorem turns_of_warmup (n rest iteration samples : Nat) (warming : iteration + n ≤ plan.warmup) :
    turns op plan (n + rest) iteration samples =
      repeatedly (discardOne op plan) n >>= fun _ =>
        turns op plan rest (iteration + n) samples := by
  induction n generalizing iteration with
  | zero => simp only [Nat.zero_add, Nat.add_zero, repeatedly, pure_bind]
  | succ n ih =>
      -- Before the cut-off the iteration moves on and the count of samples stays.
      have early : iteration < plan.warmup := by omega
      have later := ih (iteration + 1) (by omega)
      rw [Nat.succ_add, turns, turn_of_lt op early, repeatedly]
      simp only [bind_assoc, pure_bind, later]
      rw [Nat.add_assoc, Nat.add_comm 1 n]

theorem turns_of_measured (n iteration samples : Nat) (measuring : plan.warmup ≤ iteration)
    (fits : samples + n < word64) :
    turns op plan n iteration samples =
      repeatedly (recordOne op plan) n >>= fun _ => pure (samples + n) := by
  induction n generalizing iteration samples with
  | zero => simp only [turns, repeatedly, pure_bind, Nat.add_zero]
  | succ n ih =>
      -- Past it nothing depends on the iteration any more, and both move on together.
      have room : samples + 1 < word64 := by omega
      have later := ih (iteration + 1) (samples + 1) (by omega) (by omega)
      rw [turns, turn_of_le op measuring room, repeatedly]
      simp only [bind_assoc, pure_bind, later]
      rw [Nat.add_assoc, Nat.add_comm 1 n]

/-- The count of samples is right at the end because every turn that records one adds to it. -/
theorem turns_eq_loop (counted : plan.warmup + plan.measured < word64) :
    turns op plan (plan.warmup + plan.measured) 0 0 =
      loop op plan >>= fun _ => pure plan.measured := by
  have late : plan.warmup ≤ 0 + plan.warmup := by omega
  rw [turns_of_warmup op plan.warmup plan.measured 0 0 (by omega), loop, bind_assoc]
  rw [turns_of_measured op plan.measured _ 0 late (by omega), Nat.zero_add]

end Jitter.Meter

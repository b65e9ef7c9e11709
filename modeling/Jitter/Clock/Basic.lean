import Jitter.Failure

/-! Instruments to read the time from, as operations on the world they are part of. -/

namespace Jitter

def nanosPerSecond : Nat := 1000000000

class Clock (ω : Type) where
  /-- Nanoseconds. -/
  monotonic : EStateM Fault ω Int
  cycles : EStateM Fault ω Nat
  hasCycleCounter : ω → Bool
  /-- Yields the processor for so many microseconds. -/
  sleep : Nat → ω → ω
  /-- Runs so many empty loops. -/
  idle : Nat → ω → ω

namespace Clock

def readMonotonic {ω : Type} [Clock ω] : Action ω Int := .ofFaulty monotonic

def readCycles {ω : Type} [Clock ω] : Action ω Nat := .ofFaulty cycles

/-- Reads once, and then `n` times more: the first and the last reading. -/
def span {ω α : Type} (read : Action ω α) (n : Nat) : Action ω (α × α) := do
  let first ← read
  let last ← again n first
  pure (first, last)
where
  again : Nat → α → Action ω α
    | 0, last => pure last
    | n + 1, _ => do again n (← read)

def aroundLoops {ω α : Type} [Clock ω] (read : Action ω α) (loops : Nat) : Action ω (α × α) := do
  let first ← read
  modify (idle loops)
  let last ← read
  pure (first, last)

def readUntil {ω α : Type} (read : Action ω α) (late : α → Bool) : Nat → Action ω Unit
  | 0 => throw (.fault .stalled)
  | fuel + 1 => do
    let now ← read
    if late now then pure () else readUntil read late fuel

/-- More readings than a clock has left that moves with each of them. -/
def patience : Nat := 9223372036854775807

def onFirst {ε α β γ : Type} (act : EStateM ε α γ) : EStateM ε (α × β) γ := fun (a, b) =>
  match act a with
  | .ok c a => .ok c (a, b)
  | .error e a => .error e (a, b)

instance {α β : Type} [Clock α] : Clock (α × β) where
  monotonic := onFirst monotonic
  cycles := onFirst cycles
  hasCycleCounter w := hasCycleCounter w.1
  sleep us w := (sleep us w.1, w.2)
  idle loops w := (idle loops w.1, w.2)

def onEither {ε α β γ : Type} (left : EStateM ε α γ) (right : EStateM ε β γ) : EStateM ε (α ⊕ β) γ
  | .inl a =>
    match left a with
    | .ok c a => .ok c (.inl a)
    | .error e a => .error e (.inl a)
  | .inr b =>
    match right b with
    | .ok c b => .ok c (.inr b)
    | .error e b => .error e (.inr b)

instance {α β : Type} [Clock α] [Clock β] : Clock (α ⊕ β) where
  monotonic := onEither monotonic monotonic
  cycles := onEither cycles cycles
  hasCycleCounter := Sum.elim hasCycleCounter hasCycleCounter
  sleep us := Sum.map (sleep us) (sleep us)
  idle loops := Sum.map (idle loops) (idle loops)

end Clock

end Jitter

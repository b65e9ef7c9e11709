import Jitter.Error
import Jitter.Word

/-! Operations that may be refused or break off, on a state that keeps what was done before. -/

namespace Jitter

inductive Failure where
  | error (error : Error)
  | fault (fault : Fault)
  deriving DecidableEq, Repr

def Failure.message : Failure → String
  | error e => e.message
  | fault f => f.message

/-- An operation on a `σ`; a failure keeps the state reached so far. -/
abbrev Action (σ : Type) := EStateM Failure σ

instance : MonadLift (Except Error) (Except Failure) := ⟨Except.mapError .error⟩

instance : MonadLift Checked (Except Failure) := ⟨Except.mapError .fault⟩

def Action.ofExcept {σ α : Type} : Except Failure α → Action σ α
  | .ok a => pure a
  | .error e => throw e

instance {σ : Type} : MonadLift (Except Failure) (Action σ) := ⟨Action.ofExcept⟩

def Action.ofFaulty {σ α : Type} (act : EStateM Fault σ α) : Action σ α := fun s =>
  match act s with
  | .ok a s => .ok a s
  | .error f s => .error (.fault f) s

instance {σ : Type} : MonadLift (EStateM Fault σ) (Action σ) := ⟨Action.ofFaulty⟩

def Action.within {σ τ α : Type} (part : τ → σ) (put : τ → σ → τ) (act : Action σ α) : Action τ α :=
  fun t =>
    match act (part t) with
    | .ok a s => .ok a (put t s)
    | .error e s => .error e (put t s)

def repeatedly {ε σ : Type} (act : EStateM ε σ Unit) : Nat → EStateM ε σ Unit
  | 0 => pure ()
  | n + 1 => do
    act
    repeatedly act n

end Jitter

import Jitter.Clock.Basic

/-! A clock whose readings advance by a written list of amounts. -/

namespace Jitter

/-- Amounts with the number of times that each is due; the last one is due for ever. -/
abbrev Tape := List (Nat × Int)

def Tape.next : Tape → Int × Tape
  | [] => (0, [])
  | [(n, d)] => (d, [(n, d)])
  | (0, _) :: rest => next rest
  | (n + 1, d) :: rest => (d, (n, d) :: rest)

structure ScriptedClock where
  ns : Int
  count : Nat
  nsTape : Tape
  countTape : Tape
  counter : Bool
  reads : Nat
  /-- The last one first. -/
  sleeps : List Nat
  deriving DecidableEq, Repr

namespace ScriptedClock

def shift (count : Nat) (amount : Int) : Nat := ((count + amount) % word64).toNat

def advance (ns : Int) (c : ScriptedClock) : ScriptedClock :=
  { c with ns := Signed.wrap (c.ns + ns), count := shift c.count ns }

instance : Clock ScriptedClock where
  monotonic c :=
    let (delta, nsTape) := c.nsTape.next
    let ns := Signed.wrap (c.ns + delta)
    .ok ns { c with ns, nsTape, reads := c.reads + 1 }
  cycles c :=
    let (delta, countTape) := c.countTape.next
    let count := shift c.count delta
    .ok count { c with count, countTape, reads := c.reads + 1 }
  hasCycleCounter c := c.counter
  sleep us c :=
    advance (Signed.saturate (Signed.wrap us * 1000)) { c with sleeps := us :: c.sleeps }
  idle _ := id

end ScriptedClock

end Jitter

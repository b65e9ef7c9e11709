import Jitter.Clock.Basic

/-! What is asked of the host besides the time. -/

namespace Jitter

class Host (ω : Type) extends Clock ω where
  /-- Keeps the process on one processor. -/
  pin : Nat → EStateM IoError ω Unit
  /-- Gives the process a place in the first-in first-out schedule. -/
  setFifo : Int → EStateM IoError ω Unit
  /-- Puts a text into a file, in place of what it held. -/
  write : String → String → EStateM IoError ω Unit

end Jitter

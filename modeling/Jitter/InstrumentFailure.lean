import Jitter.Errno
import Jitter.Text.Terminal

/-! An instrument that can not be read ends the process. -/

namespace Jitter.InstrumentFailure

def message (place call : String) (errno : Int) : String :=
  let (number, text) := Errno.describe errno
  "instrument failure at " ++ place ++ " " ++ call ++ "\n  errno=" ++ toString number ++ " (" ++
    text ++ ")"

def signal : Nat := 6

def lastWords (place call : String) (errno : Int) : String := message place call errno ++ "\n"

def loggedWords (place call : String) (errno : Int) : String :=
  Text.harmless (message place call errno) ++ "\n"

end Jitter.InstrumentFailure

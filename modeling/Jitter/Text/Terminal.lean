import Jitter.Text.Quoted

/-! A text that a terminal shows and does not obey. -/

namespace Jitter.Text

/-- Spells out a control that can begin or be part of a command to a terminal. -/
def spellControl (c : Char) : List Char :=
  match c with
  | '\x07' => "\\x07".toList
  | '\x08' => "\\x08".toList
  | '\x0c' => "\\x0c".toList
  | '\x1b' => "\\x1b".toList
  | '\x7f' => "\\x7f".toList
  | c => if 0x80 ≤ c.toNat && c.toNat ≤ 0x9F then spelled c else [c]

def harmless (s : String) : String := String.ofList (s.toList.flatMap spellControl)

end Jitter.Text

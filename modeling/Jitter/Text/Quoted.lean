import Jitter.Text.Invisible

/-! A text between double quotes, with escapes for what cannot be seen. -/

namespace Jitter.Text

def spelled (c : Char) : List Char := ['\\', 'u', '\x7b'] ++ Nat.toDigits 16 c.toNat ++ ['\x7d']

def escapeVisible (c : Char) : List Char :=
  match c with
  | '"' => ['\\', '"']
  | '\\' => ['\\', '\\']
  | '\n' => ['\\', 'n']
  | '\t' => ['\\', 't']
  | '\r' => ['\\', 'r']
  | '\x00' => ['\\', '0']
  | c => if isInvisible c then spelled c else [c]

def quoted (s : String) : String :=
  String.ofList (['"'] ++ s.toList.flatMap escapeVisible ++ ['"'])

end Jitter.Text

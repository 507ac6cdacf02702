import RecordHold.Text.Invisible
/-!
# Text.Quoted — text for diagnostics

A quoted text shows every character: quotes, backslashes and the common control characters as escapes, and what
would not show on its own by its number, as in `\u{301}`.
-/
namespace RecordHold

def quotedChar (c : Char) : List Char :=
  match c with
  | '\x00' => ['\\', '0']
  | '\t'   => ['\\', 't']
  | '\r'   => ['\\', 'r']
  | '\n'   => ['\\', 'n']
  | '"'    => ['\\', '"']
  | '\\'   => ['\\', '\\']
  | c      => if isInvisible c then '\\' :: 'u' :: '\x7b' :: Nat.toDigits 16 c.toNat ++ ['\x7d'] else [c]

def quoted (s : List Char) : List Char := '"' :: s.flatMap quotedChar ++ ['"']

end RecordHold

import SourceCookie.Text.Digits
import SourceCookie.Text.Visible

/-!
Texts in quotes, as messages show them. A quote or a backslash is escaped, and so is every character
that does not show on its own: some by a letter, the others by their code points.
-/

namespace SourceCookie.Quoted

def escape (c : Char) : List Char :=
  match c with
  | '\x00' => ['\x5c', '0']
  | '\t' => ['\x5c', 't']
  | '\n' => ['\x5c', 'n']
  | '\r' => ['\x5c', 'r']
  | '\x22' => ['\x5c', '\x22']
  | '\x5c' => ['\x5c', '\x5c']
  | c =>
    if Visible.isVisible c then [c]
    else ['\x5c', 'u', '\x7b'] ++ Digits.hexadecimal c.toNat ++ ['\x7d']

def render (s : String) : String :=
  String.ofList ('\x22' :: s.toList.flatMap escape ++ ['\x22'])

end SourceCookie.Quoted

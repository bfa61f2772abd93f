import SourceCookie.Text.CharClass

/-!
Blanks: the characters with the property White_Space.
-/

namespace SourceCookie

def CharClass.blank : CharClass := ⟨[
  (0x0009, 0x000d), (0x0020, 0x0020), (0x0085, 0x0085), (0x00a0, 0x00a0), (0x1680, 0x1680),
  (0x2000, 0x200a), (0x2028, 0x2029), (0x202f, 0x202f), (0x205f, 0x205f), (0x3000, 0x3000)]⟩

namespace Blank

def trimStart (s : List Char) : List Char :=
  s.dropWhile CharClass.blank.contains

def trim (s : List Char) : List Char :=
  (trimStart (trimStart s).reverse).reverse

end Blank

end SourceCookie

import SourceCookie.Text.Blank

/-!
How a regular expression is read. A mode may have blanks and comments passed over; a comment begins with
a number sign and ends with its line.
-/

namespace SourceCookie.Pattern

structure Mode where
  unicode : Bool := true
  ignoreCase : Bool := false
  spaced : Bool := false

def Mode.hasLiterals (m : Mode) : Bool := !(m.unicode && m.ignoreCase)

def dropComments (inComment : Bool) : List Char → List Char
  | [] => []
  | c :: s =>
    if inComment then dropComments (c != '\n') s
    else if c == '#' then dropComments true s
    else if CharClass.blank.contains c then dropComments false s
    else c :: s

theorem length_dropComments_le (inComment : Bool) (s : List Char)
    : (dropComments inComment s).length ≤ s.length := by
  induction s generalizing inComment with
  | nil => simp [dropComments]
  | cons c s ih => grind [dropComments]

def Mode.skip (m : Mode) (s : List Char) : List Char :=
  if m.spaced then dropComments false s else s

theorem Mode.length_skip_le (m : Mode) (s : List Char) : (m.skip s).length ≤ s.length := by
  unfold skip
  split
  . exact length_dropComments_le false s
  . exact Nat.le_refl _

/-- The first character that is neither a blank nor the first number sign. -/
def firstSign? (inComment : Bool) : List Char → Option Char
  | [] => none
  | c :: s =>
    if CharClass.blank.contains c then firstSign? inComment s
    else if c == '#' && !inComment then firstSign? true s
    else some c

/-- The character by which a hyphen before the text is told from a range; it may be in a comment. -/
def Mode.ahead? (m : Mode) (s : List Char) : Option Char :=
  if m.spaced then firstSign? false s else s.head?

end SourceCookie.Pattern

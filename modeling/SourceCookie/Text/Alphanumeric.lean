import SourceCookie.Text.Alphabetic
import SourceCookie.Text.Numeric

/-!
Letters and numbers of all scripts.
-/

namespace SourceCookie.CharClass

def isAlphanumeric (c : Char) : Bool :=
  alphabetic.contains c || numeric.contains c

end SourceCookie.CharClass

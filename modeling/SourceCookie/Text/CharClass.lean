/-!
Classes of characters, given by ranges of code points.
-/

namespace SourceCookie

structure CharClass where
  ranges : List (Nat × Nat)

def CharClass.contains (cls : CharClass) (c : Char) : Bool :=
  cls.ranges.any fun (first, last) => first ≤ c.toNat && c.toNat ≤ last

end SourceCookie

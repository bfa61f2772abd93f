/-!
Cutting texts at offsets that count bytes of UTF-8.
-/

namespace SourceCookie.Offset

def size (s : List Char) : Nat := s.foldr (·.utf8Size + ·) 0

def drop? : Nat → List Char → Option (List Char)
  | 0, s => some s
  | _ + 1, [] => none
  | n + 1, c :: s => if c.utf8Size ≤ n + 1 then drop? (n + 1 - c.utf8Size) s else none

def take? : Nat → List Char → Option (List Char)
  | 0, _ => some []
  | _ + 1, [] => none
  | n + 1, c :: s =>
    if c.utf8Size ≤ n + 1 then (take? (n + 1 - c.utf8Size) s).map (c :: ·) else none

def cut? (first last : Nat) (s : List Char) : Option (List Char) :=
  (drop? first s).bind (take? (last - first))

def withOffsets (first : Nat) : List Char → List (Nat × Char)
  | [] => []
  | c :: s => (first, c) :: withOffsets (first + c.utf8Size) s

end SourceCookie.Offset

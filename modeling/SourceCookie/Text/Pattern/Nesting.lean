/-!
How deeply the parts of a regular expression are nested. Single characters have depth zero; a group, a
class, and a repetition are one level deeper than what they hold, and so are several items in a row,
alternatives, and an operation on classes.
-/

namespace SourceCookie.Pattern

def nestLimit : Nat := 250

structure Nesting where
  size : Nat := 0
  items : Nat := 0
  left : Option Nat := none

namespace Nesting

def add (n : Nesting) (depth : Nat) : Nesting :=
  { n with size := n.size + 1, items := max n.items depth }

def repeatLast (n : Nesting) (depth : Nat) : Nesting :=
  { n with items := max n.items (depth + 1) }

def row (n : Nesting) : Nat :=
  if n.size ≤ 1 then n.items else n.items + 1

def depth (n : Nesting) : Nat :=
  match n.left with
  | some left => max left n.row + 1
  | none => n.row

def alternate (n : Nesting) : Nesting :=
  { left := some (max (n.left.getD 0) n.row) }

def operate (n : Nesting) : Nesting :=
  { left := some n.depth }

end Nesting

end SourceCookie.Pattern

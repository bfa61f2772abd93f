import SourceCookie.Text.Pattern.Item
import SourceCookie.Text.Pattern.Nesting

/-!
Classes of characters in brackets, which may be nested and combined by operations.
-/

namespace SourceCookie.Pattern

def readMember? (m : Mode) : List Char → Option (Item × List Char)
  | [] => none
  | '\x5c' :: s => do
    let (item, s) ← readEscape? m s
    match item with
    | .literal code => if m.unicode || code < 0x80 then some (item, s) else none
    | .characters => some (item, s)
    | _ => none
  | c :: s =>
    if m.hasLiterals && (m.unicode || c.toNat < 0x80) then some (.literal c.toNat, s) else none

def readRange? (m : Mode) (s : List Char) : Option (List Char) := do
  let (low, s) ← readMember? m s
  match m.skip s with
  | '-' :: s =>
    if m.ahead? s = some ']' ∨ m.ahead? s = some '-' then some ('-' :: s)
    else
      match low, ← readMember? m (m.skip s) with
      | .literal low, (.literal high, s) => if low ≤ high then some s else none
      | _, _ => none
  | s => some s

def asciiClasses : List String := [
  "alnum", "alpha", "ascii", "blank", "cntrl", "digit", "graph", "lower", "print", "punct", "space",
  "upper", "word", "xdigit"]

def readNamed? : List Char → Option (Bool × List Char)
  | ':' :: s =>
    let (negated, s) := match s with
      | '^' :: s => (true, s)
      | s => (false, s)
    let name := s.takeWhile (· != ':')
    match s.drop name.length with
    | ':' :: ']' :: s => if asciiClasses.contains (String.ofList name) then some (negated, s) else none
    | _ => none
  | _ => none

def openHyphens (m : Mode) (n : Nesting) (s : List Char) : Nesting × List Char :=
  match h : m.skip s with
  | '-' :: rest =>
    have : rest.length < s.length := by
      have := m.length_skip_le s
      simp only [h, List.length_cons] at this
      omega
    openHyphens m (n.add 0) rest
  | rest => (n, rest)
termination_by s.length

def openClass? (m : Mode) (s : List Char) : Option (Nesting × List Char) :=
  let (negated, s) := match m.skip s with
    | '^' :: s => (true, m.skip s)
    | s => (false, s)
  let (n, s) := match s with
    | ']' :: s => (Nesting.add {} 0, s)
    | s => openHyphens m {} s
  if (negated && !m.unicode) || (n.size != 0 && !m.hasLiterals) then none else some (n, s)

def readClass? (m : Mode) : Nat → Nesting → List Nesting → List Char → Option (Nat × List Char)
  | 0, _, _, _ => none
  | fuel + 1, n, outer, s =>
    match m.skip s with
    | [] => none
    | ']' :: s =>
      match outer with
      | [] => some (n.depth + 1, s)
      | around :: outer => readClass? m fuel (around.add (n.depth + 1)) outer s
    | '[' :: s =>
      match readNamed? s with
      | some (negated, s) =>
        if !m.hasLiterals || (negated && !m.unicode) then none else readClass? m fuel (n.add 0) outer s
      | none => do
        let (inner, s) ← openClass? m s
        readClass? m fuel inner (n :: outer) s
    | '&' :: '&' :: s | '-' :: '-' :: s | '~' :: '~' :: s => readClass? m fuel n.operate outer s
    | s => do readClass? m fuel (n.add 0) outer (← readRange? m s)

end SourceCookie.Pattern

import SourceCookie.Text.Alphanumeric
import SourceCookie.Text.Pattern.Bracket

/-!
Which texts are regular expressions. Counted repetitions do not occur, since a brace cannot be closed
where these texts stand. No tables of scripts are at hand: classes that need one, such as `\d`, and
letters of any case are refused unless they are restricted to ASCII by `(?-u)`. Borders of words in any
script can be written, but not searched for.
-/

namespace SourceCookie.Pattern

inductive Fault where
  | malformed
  | wordBorder
  deriving DecidableEq

def Fault.render : Fault → String
  | malformed => "error building NFA"
  | wordBorder =>
    "unsupported regex feature for DFAs: cannot build DFAs for regexes with Unicode word boundaries; "
      ++ "switch to ASCII word boundaries, or heuristically enable Unicode word boundaries or use a "
      ++ "different regex engine"

def readFlags? (negative : Bool) (seen : List Char) (m : Mode)
    : List Char → Option (Mode × List Char)
  | [] => none
  | ':' :: s => some (m, ':' :: s)
  | ')' :: s => some (m, ')' :: s)
  | '-' :: ':' :: _ | '-' :: ')' :: _ => none
  | '-' :: s => if negative then none else readFlags? true seen m s
  | c :: s =>
    if seen.contains c || !"imsUuRx".toList.contains c then none
    else
      let m := match c with
        | 'i' => { m with ignoreCase := !negative }
        | 'u' => { m with unicode := !negative }
        | 'x' => { m with spaced := !negative }
        | _ => m
      readFlags? negative (c :: seen) m s

def isNameStart (c : Char) : Bool :=
  c == '_' || CharClass.alphabetic.contains c

def isNameChar (c : Char) : Bool :=
  c == '_' || c == '.' || c == '[' || c == ']' || CharClass.isAlphanumeric c

def readName? (s : List Char) : Option (List Char × List Char) :=
  let name := s.takeWhile isNameChar
  match name, s.drop name.length with
  | c :: _, '>' :: s => if isNameStart c then some (name, s) else none
  | _, _ => none

structure Progress where
  mode : Mode := {}
  nesting : Nesting := {}
  outer : List (Mode × Nesting) := []
  names : List (List Char) := []
  last : Option Nat := none
  hasWordBorder : Bool := false

namespace Progress

def add (p : Progress) (depth : Nat) : Progress :=
  { p with nesting := p.nesting.add depth, last := some depth }

def openIn (p : Progress) (mode : Mode) : Progress :=
  { p with mode, nesting := {}, outer := (p.mode, p.nesting) :: p.outer, last := none }

def close? (p : Progress) : Option Progress :=
  match p.outer with
  | (mode, nesting) :: outer => some ({ p with mode, nesting, outer }.add (p.nesting.depth + 1))
  | [] => none

def fault? (p : Progress) : Option Fault :=
  if !p.outer.isEmpty || nestLimit < p.nesting.depth then some .malformed
  else if p.hasWordBorder then some .wordBorder
  else none

end Progress

def openGroup? (p : Progress) : List Char → Option (Progress × List Char)
  | '?' :: 'P' :: '<' :: s | '?' :: '<' :: s => do
    let (name, s) ← readName? s
    if p.names.contains name then none
    else some ({ p.openIn p.mode with names := name :: p.names }, s)
  | '?' :: ')' :: _ => none
  | '?' :: s =>
    match readFlags? false [] p.mode s with
    | some (mode, ':' :: s) => some (p.openIn mode, s)
    | some (mode, _ :: s) => some ({ p.add 0 with mode, last := none }, s)
    | _ => none
  | s => some (p.openIn p.mode, s)

def next? (p : Progress) : List Char → Option (Progress × List Char)
  | [] => none
  | '(' :: s => openGroup? p (p.mode.skip s)
  | ')' :: s => p.close?.map fun p => (p, s)
  | '|' :: s => some ({ p with nesting := p.nesting.alternate, last := none }, s)
  | '*' :: s | '+' :: s | '?' :: s => do
    let depth ← p.last
    let p := { p with nesting := p.nesting.repeatLast depth, last := some (depth + 1) }
    match s with
    | '?' :: s | s => return (p, s)
  | '\x7b' :: _ => none
  | '[' :: s => do
    let (n, s) ← openClass? p.mode s
    let (depth, s) ← readClass? p.mode (s.length + 1) n [] s
    return (p.add depth, s)
  | '\x5c' :: s => do
    let (item, s) ← readEscape? p.mode s
    match item with
    | .wordBorder => return ({ p.add 0 with hasWordBorder := true }, s)
    | _ => return (p.add 0, s)
  | '^' :: s | '$' :: s => some (p.add 0, s)
  | '.' :: s => if p.mode.unicode then some (p.add 0, s) else none
  | _ :: s => if p.mode.hasLiterals then some (p.add 0, s) else none

def read? : Nat → Progress → List Char → Option Progress
  | 0, _, _ => none
  | fuel + 1, p, s =>
    match p.mode.skip s with
    | [] => some p
    | s => do
      let (p, s) ← next? p s
      read? fuel p s

def fault? (s : List Char) : Option Fault :=
  match read? (s.length + 1) {} s with
  | some p => p.fault?
  | none => some .malformed

end SourceCookie.Pattern

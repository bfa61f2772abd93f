import SourceCookie.Config.Tree

/-!
Paths into a tree of settings, such as `policy.disabled_prefixes[0]`.
-/

namespace SourceCookie

inductive Path.Step where
  | member (name : String)
  | item (i : Int)
  deriving DecidableEq

structure Path where
  name : String
  steps : List Path.Step
  deriving DecidableEq

namespace Path

def isNameChar (c : Char) : Bool :=
  c.isAlphanum || c == ' ' || c == '_' || c == '-'

def readName? (s : List Char) : Option (String × List Char) :=
  match s.takeWhile isNameChar with
  | [] => none
  | name => some (String.ofList name, s.dropWhile isNameChar)

def isSpace (c : Char) : Bool :=
  c == ' ' || c == '\t'

def readNumber? (s : List Char) : Option (Int × List Char) :=
  let (negative, s) := match s with
    | '-' :: rest => (true, rest)
    | _ => (false, s)
  match Digits.span 10 s with
  | ([], _) => none
  | (digits, rest) =>
    let n := Digits.toNat 10 digits
    if negative then if n ≤ Nat.pow 2 63 then some (-(n : Int), rest) else none
    else if n < Nat.pow 2 63 then some (n, rest) else none

def readStep? : List Char → Option (Step × List Char)
  | '.' :: rest => (readName? rest).map fun (name, rest) => (.member name, rest)
  | '[' :: rest => do
    let (i, rest) ← readNumber? (rest.dropWhile isSpace)
    match rest.dropWhile isSpace with
    | ']' :: rest => return (.item i, rest)
    | _ => none
  | _ => none

def readSteps? : Nat → List Char → Option (List Step)
  | 0, _ => none
  | _ + 1, [] => some []
  | fuel + 1, s => do
    let (step, rest) ← readStep? s
    let steps ← readSteps? fuel rest
    return step :: steps

def parse? (s : List Char) : Option Path := do
  let (name, rest) ← readName? s
  let steps ← readSteps? (rest.length + 1) rest
  return ⟨name, steps⟩

/-- The path that a key stands for. A key that is no path is one name as a whole. -/
def ofKey (key : String) : Path :=
  (parse? key.toList).getD ⟨key, []⟩

end Path

namespace Tree

def setSteps (value : Tree) : Path.Step → List Path.Step → Tree → Tree
  | .member name, [], t => setMember name value t
  | .item i, [], t => changeItem i (fun _ => value) t
  | .member name, step :: steps, t =>
    changeMember name (fun old => setSteps value step steps (old.getD blank)) t
  | .item i, step :: steps, t => changeItem i (setSteps value step steps) t

def set (t : Tree) (path : Path) (value : Tree) : Tree :=
  setSteps value (.member path.name) path.steps t

def addSource (t : Tree) (source : List (String × Tree)) : Tree :=
  source.foldl (fun t (key, value) => t.set (.ofKey key) value) t

end Tree

end SourceCookie

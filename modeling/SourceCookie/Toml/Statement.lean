import SourceCookie.Toml.Document
import SourceCookie.Toml.Literal

/-!
The text of a settings file: statements, one a line, among comments and empty lines. Nesting is
limited: arrays and inline tables go less than 80 deep, and a dotted key has less than 80 parts.
-/

namespace SourceCookie.Toml

def nestingLimit : Nat := 80

def skipSpaces (s : List Char) : List Char := s.dropWhile isSpace

def skipComment : List Char → List Char
  | '#' :: rest => rest.dropWhile isPlain
  | s => s

def readNewline? : List Char → Option (List Char)
  | '\n' :: rest | '\r' :: '\n' :: rest => some rest
  | _ => none

def readLineEnd? (s : List Char) : Option (List Char) :=
  match skipComment (skipSpaces s) with
  | [] => some []
  | s => readNewline? s

def skipGaps : Nat → List Char → List Char
  | 0, s => s
  | fuel + 1, s =>
    match readNewline? (skipComment (skipSpaces s)) with
    | some rest => skipGaps fuel rest
    | none => skipSpaces s

def isKeyChar (c : Char) : Bool :=
  c.isAlphanum || c == '_' || c == '-'

def readKeyPart? (s : List Char) : Option (String × List Char) :=
  match s with
  | '\x22' :: rest => (readBasic? rest).map fun (text, rest) => (String.ofList text, rest)
  | '\x27' :: rest => (readLiteral? rest).map fun (text, rest) => (String.ofList text, rest)
  | s =>
    match s.takeWhile isKeyChar with
    | [] => none
    | name => some (String.ofList name, s.dropWhile isKeyChar)

def readKeyParts? : Nat → List Char → Option (List String × List Char)
  | 0, _ => none
  | fuel + 1, s => do
    let (part, s) ← readKeyPart? (skipSpaces s)
    match skipSpaces s with
    | '.' :: rest =>
      let (parts, rest) ← readKeyParts? fuel rest
      return (part :: parts, rest)
    | s => return ([part], s)

def readKey? (s : List Char) : Option ((List String × String) × List Char) := do
  let (parts, s) ← readKeyParts? nestingLimit s
  if nestingLimit ≤ parts.length then none
  else
    let key ← parts.getLast?
    return ((parts.dropLast, key), s)

def readItems? (item? : List Char → Option (Toml × List Char))
    : Nat → List Char → Option (List Toml × List Char)
  | 0, _ => none
  | fuel + 1, s =>
    match skipGaps s.length s with
    | ']' :: rest => some ([], rest)
    | s => do
      let (item, s) ← item? s
      match skipGaps s.length s with
      | ']' :: rest => return ([item], rest)
      | ',' :: rest =>
        let (items, rest) ← readItems? item? fuel rest
        return (item :: items, rest)
      | _ => none

def readPairs? (item? : List Char → Option (Toml × List Char))
    : Nat → List Char → Option (List (List String × String × Toml) × List Char)
  | 0, _ => none
  | fuel + 1, s => do
    let ((path, key), s) ← readKey? s
    let s ← skip? '=' s
    let (v, s) ← item? (skipSpaces s)
    match skipSpaces s with
    | '\x7d' :: rest => return ([(path, key, v)], rest)
    | ',' :: rest =>
      let (pairs, rest) ← readPairs? item? fuel rest
      return ((path, key, v) :: pairs, rest)
    | _ => none

def readValue? : Nat → List Char → Option (Toml × List Char)
  | 0, s => readScalar? s
  | depth + 1, s =>
    match s with
    | '[' :: rest =>
      (readItems? (readValue? depth) (rest.length + 1) rest).map fun (items, rest) =>
        (.array items, rest)
    | '\x7b' :: rest =>
      match skipSpaces rest with
      | '\x7d' :: rest => some (.table [], rest)
      | rest => do
        let (pairs, rest) ← readPairs? (readValue? depth) (rest.length + 1) rest
        return (← inlineTable? pairs, rest)
    | s => readScalar? s

def readAssign? (s : List Char) : Option (Statement × List Char) := do
  let ((path, key), s) ← readKey? s
  let s ← skip? '=' s
  let (v, s) ← readValue? (nestingLimit - 1) (skipSpaces s)
  return (.assign path key v, s)

def readStatement? (s : List Char) : Option (Statement × List Char) :=
  match s with
  | '[' :: '[' :: rest => do
    let ((path, key), s) ← readKey? rest
    let s ← skip? ']' s
    let s ← skip? ']' s
    return (.arrayHeader path key, s)
  | '[' :: rest => do
    let ((path, key), s) ← readKey? rest
    let s ← skip? ']' s
    return (.header path key, s)
  | s => readAssign? s

def readStatements? : Nat → List Char → Option (List Statement)
  | 0, _ => none
  | fuel + 1, s =>
    match readLineEnd? s with
    | some [] => some []
    | some rest => readStatements? fuel rest
    | none => do
      let (statement, s) ← readStatement? (skipSpaces s)
      let rest ← readLineEnd? s
      let statements ← readStatements? fuel rest
      return statement :: statements

def skipMark : List Char → List Char
  | '\ufeff' :: rest => rest
  | s => s

def parse? (s : List Char) : Option (List (String × Toml)) := do
  let s := skipMark s
  let members ← Document.ofStatements? (← readStatements? (s.length + 1) s)
  match ← unmark? (.table members) with
  | .table members => some members
  | _ => none

end SourceCookie.Toml

import SourceCookie.Config.LoadError
import SourceCookie.Config.Schema
import SourceCookie.Config.Tree

/-!
Settings out of a tree. Values are converted where that makes sense: numbers and truth values stand for
each other, texts may spell them, and every single value has a text. What the tree does not hold has
its default.
-/

namespace SourceCookie

namespace Tree

def found : Tree → Found
  | blank => .blank
  | scalar _ (.boolean b) => .boolean b
  | scalar _ (.integer n) => .integer n
  | scalar _ (.float x) => .float x
  | scalar _ (.text s) => .text s
  | list _ _ => .list
  | table _ _ => .table

def mismatch {α : Type} (t : Tree) (expected : Expected) (key : String) : Except LoadError α :=
  .error (.mismatch t.found expected key t.origin?)

def word? (s : String) : Option Bool :=
  if s = "true" ∨ s = "on" ∨ s = "yes" then some true
  else if s = "false" ∨ s = "off" ∨ s = "no" then some false
  else none

def natural? (s : List Char) : Option Nat :=
  let digits := match s with
    | '+' :: rest => rest
    | _ => s
  match Digits.decimal? digits with
  | some n => if n < UInt64.size then some n else none
  | none => none

def natural (t : Tree) (key : String) : Except LoadError Nat :=
  match t with
  | scalar _ (.boolean b) => .ok b.toNat
  | scalar _ (.integer n) => if 0 ≤ n then .ok n.toNat else t.mismatch .natural64 key
  | scalar _ (.float x) => .ok (x.toNatBelow UInt64.size)
  | scalar _ (.text s) =>
    match word? (LowerCase.render s) with
    | some b => .ok b.toNat
    | none =>
      match natural? s.toList with
      | some n => .ok n
      | none => t.mismatch .integer key
  | _ => t.mismatch .integer key

def naturalBelow (bound : Nat) (expected : Expected) (t : Tree) (key : String)
    : Except LoadError Nat := do
  let n ← t.natural key
  if n < bound then .ok n else .error (.mismatch (.natural n) expected key none)

def boolean (t : Tree) (key : String) : Except LoadError Bool :=
  match t with
  | scalar _ (.boolean b) => .ok b
  | scalar _ (.integer n) => .ok (n != 0)
  | scalar _ (.float x) => .ok x.isNonzero
  | scalar origin (.text s) =>
    let s := LowerCase.render s
    if s = "1" then .ok true
    else if s = "0" then .ok false
    else match word? s with
      | some b => .ok b
      | none => (scalar origin (.text s)).mismatch .boolean key
  | _ => t.mismatch .boolean key

def text (t : Tree) (key : String) : Except LoadError String :=
  match t with
  | scalar _ (.boolean b) => .ok (Found.boolText b)
  | scalar _ (.integer n) => .ok (toString n)
  | scalar _ (.float x) => .ok x.render
  | scalar _ (.text s) => .ok s
  | _ => t.mismatch .text key

def itemKey (key : String) (i : Nat) : String :=
  key ++ "[" ++ toString i ++ "]"

def memberKey (key name : String) : String :=
  key ++ "." ++ name

def textsFrom (key : String) (i : Nat) : List Tree → Except LoadError (List String)
  | [] => .ok []
  | t :: rest => do
    let s ← t.text (itemKey key i)
    let ss ← textsFrom key (i + 1) rest
    return s :: ss

def texts (t : Tree) (key : String) : Except LoadError (List String) :=
  match t with
  | list _ items => textsFrom key 0 items
  | _ => .error (.notList t.found)

def policyOfName (name : String) : Except LoadError UnmarkedPolicy :=
  match UnmarkedPolicy.ofName? (LowerCase.render name) with
  | some p => .ok p
  | none => .error (.unknownPolicy name)

def policy : Tree → Except LoadError UnmarkedPolicy
  | scalar _ (.text name) => policyOfName name
  | table _ [(name, _)] => policyOfName name
  | _ => .error .notPolicy

end Tree

def Kind.ofTree (t : Tree) (key : String) : (k : Kind) → Except LoadError k.Carrier
  | natural64 => do return .ofNat (← t.natural key)
  | natural32 => do return .ofNat (← t.naturalBelow UInt32.size .natural32 key)
  | natural8 => do return .ofNat (← t.naturalBelow UInt8.size .natural8 key)
  | flag => t.boolean key
  | text => t.text key
  | texts => t.texts key
  | unmarked => t.policy

def Setting.ofTree (s : Setting) (t : Tree) (key : String) (c : Config)
    : Except LoadError Config := do
  return s.put (← s.kind.ofTree t key) c

namespace Section

def ofItems (key : String) : Nat → List Setting → List Tree → Config → Except LoadError Config
  | i, s :: settings, t :: rest, c => do
    ofItems key (i + 1) settings rest (← s.ofTree t (Tree.itemKey key i) c)
  | _, _, _, c => .ok c

def ofMembers (key : String) (members : List (String × Tree))
    : List Setting → Config → Except LoadError Config
  | [], c => .ok c
  | s :: settings, c => do
    let c ← match members.lookup s.name with
      | some t => s.ofTree t (Tree.memberKey key s.name) c
      | none => .ok c
    ofMembers key members settings c

def ofTree (part : Section) (t : Tree) (c : Config) : Except LoadError Config :=
  match t with
  | .table _ members => ofMembers part.name members part.settings c
  | .list _ items => ofItems part.name 0 part.settings items c
  | _ => .error (.notSection t.found part.typeName)

end Section

namespace Config

def ofSections (members : List (String × Tree))
    : List Section → Config → Except LoadError Config
  | [], c => .ok c
  | part :: parts, c => do
    let c ← match members.lookup part.name with
      | some t => part.ofTree t c
      | none => .ok c
    ofSections members parts c

def ofTree (t : Tree) : Except LoadError Config :=
  ofSections t.asTable.2 sections {}

end Config

end SourceCookie

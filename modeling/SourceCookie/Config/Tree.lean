import SourceCookie.Keyed
import SourceCookie.Text.LowerCase
import SourceCookie.Toml.Value

/-!
Settings as a tree of values, put together from several sources. Each source sets values at paths;
tables are merged, anything else replaces what was there. A name under which a value is set is put in
lower case; tables among the items of a list come as a whole, with their names as they are.
-/

namespace SourceCookie

inductive Scalar where
  | boolean (b : Bool)
  | integer (n : Int)
  | float (x : Binary64)
  | text (s : String)
  deriving DecidableEq

/-- A tree of settings. Values know the source they come from, if one source set all of them. -/
inductive Tree where
  | blank
  | scalar (origin : String) (s : Scalar)
  | list (origin : Option String) (items : List Tree)
  | table (origin : Option String) (members : List (String × Tree))
  deriving Inhabited

namespace Tree

def origin? : Tree → Option String
  | blank => none
  | scalar origin _ => some origin
  | list origin _ => origin
  | table origin _ => origin

def empty : Tree := table none []

def asTable : Tree → Option String × List (String × Tree)
  | table origin members => (origin, members)
  | _ => (none, [])

def asList : Tree → Option String × List Tree
  | list origin items => (origin, items)
  | _ => (none, [])

def changeMember (name : String) (f : Option Tree → Tree) (t : Tree) : Tree :=
  let name := LowerCase.render name
  let (origin, members) := t.asTable
  table origin (Keyed.put name (f (members.lookup name)) members)

/--
Changes an item of a list; negative places count from the end. A list that has too few items is filled
up, on the side where they are missing.
-/
def changeItem (i : Int) (f : Tree → Tree) (t : Tree) : Tree :=
  let (origin, items) := t.asList
  if 0 ≤ i then
    list origin ((items ++ List.replicate (i.toNat + 1 - items.length) blank).modify i.toNat f)
  else
    list origin
      ((List.replicate (i.natAbs - items.length) blank ++ items).modify (items.length - i.natAbs) f)

mutual

/-- Sets a member: a table is merged into what is there, anything else replaces it. -/
def setMember (name : String) : Tree → Tree → Tree
  | table _ members, t => changeMember name (fun old => setMembers members (old.getD empty)) t
  | blank, t => changeMember name (fun _ => blank) t
  | scalar origin s, t => changeMember name (fun _ => scalar origin s) t
  | list origin items, t => changeMember name (fun _ => list origin items) t

def setMembers : List (String × Tree) → Tree → Tree
  | [], t => t
  | (name, value) :: rest, t => setMembers rest (setMember name value t)

end

mutual

def ofToml (origin : String) : Toml → Tree
  | .string s => scalar origin (.text s)
  | .integer n => scalar origin (.integer n)
  | .float x => scalar origin (.float x)
  | .boolean b => scalar origin (.boolean b)
  | .datetime d => scalar origin (.text (String.ofList d.render))
  | .array items => list (some origin) (ofTomlItems origin items)
  | .table members => table (some origin) (ofTomlMembers origin members)

def ofTomlItems (origin : String) : List Toml → List Tree
  | [] => []
  | item :: rest => ofToml origin item :: ofTomlItems origin rest

def ofTomlMembers (origin : String) : List (String × Toml) → List (String × Tree)
  | [] => []
  | (name, value) :: rest => (name, ofToml origin value) :: ofTomlMembers origin rest

end

end Tree

end SourceCookie

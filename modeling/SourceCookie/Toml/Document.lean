import SourceCookie.Keyed
import SourceCookie.Toml.Value

/-!
The tables of a settings file while it is read. A table comes into being in one of three ways, and the
way decides whether later statements may add to it: a header adds to tables that only stood between
other headers, dotted keys add only to tables that dotted keys made.
-/

namespace SourceCookie.Toml

inductive Statement where
  | assign (tables : List String) (key : String) (value : Toml)
  | header (tables : List String) (key : String)
  | arrayHeader (tables : List String) (key : String)

inductive Origin where
  | header
  | between
  | dotted
  deriving DecidableEq

inductive Item where
  | value (v : Toml)
  | table (origin : Origin) (members : List (String × Item))
  | tables (items : List (List (String × Item)))
  deriving Inhabited

namespace Item

abbrev Change := Origin → List (String × Item) → Option (Origin × List (String × Item))

/--
Makes a change at the end of a path of tables. Tables that are missing are made; of an array the last
table is meant. A path of dotted keys does not lead through a table that has a header.
-/
def change (viaDots : Bool) : List String → Change → Change
  | [], f, origin, members => f origin members
  | key :: path, f, origin, members => do
    let item ← match members.lookup key with
      | none =>
        let (o, inner) ← change viaDots path f (if viaDots then .dotted else .between) []
        some (table o inner)
      | some (value _) => none
      | some (table o inner) =>
        if viaDots && o == .header then none
        else
          let (o, inner) ← change viaDots path f o inner
          some (table o inner)
      | some (tables items) =>
        let last ← items.getLast?
        let (_, last) ← change viaDots path f .header last
        some (tables (items.dropLast ++ [last]))
    return (origin, Keyed.put key item members)

def assign (viaDots : Bool) (key : String) (v : Toml) : Change
  | origin, members =>
    if viaDots != (origin == .dotted) then none
    else if (members.lookup key).isSome then none
    else some (origin, Keyed.put key (value v) members)

/--
Gives a table a header: a new one, or one that stood between others so far. In both cases the table
comes after all others.
-/
def openTable (key : String) : Change
  | origin, members =>
    match members.lookup key with
    | none => some (origin, Keyed.put key (table .header []) members)
    | some (table .between inner) =>
      some (origin, Keyed.put key (table .header inner) (Keyed.erase key members))
    | some _ => none

def openElement (key : String) : Change
  | origin, members =>
    match members.lookup key with
    | none => some (origin, Keyed.put key (tables [[]]) members)
    | some (tables items) => some (origin, Keyed.put key (tables (items ++ [[]])) members)
    | some _ => none

def assignAt (path : List String) (key : String) (v : Toml) : Change :=
  change true path (assign (!path.isEmpty) key v)

mutual

def toToml : Item → Toml
  | value v => v
  | table _ members => .table (membersToToml members)
  | tables items => .array (tablesToToml items)

def membersToToml : List (String × Item) → List (String × Toml)
  | [] => []
  | (key, item) :: rest => (key, toToml item) :: membersToToml rest

def tablesToToml : List (List (String × Item)) → List Toml
  | [] => []
  | members :: rest => .table (membersToToml members) :: tablesToToml rest

end

end Item

structure Document where
  members : List (String × Item)
  current : List String

namespace Document

def empty : Document := ⟨[], []⟩

def change (d : Document) (f : Item.Change) : Option Document :=
  (f .header d.members).map fun (_, members) => { d with members }

def add (d : Document) : Statement → Option Document
  | .assign path key v => d.change (Item.change false d.current (Item.assignAt path key v))
  | .header path key => do
    let d ← d.change (Item.change false path (Item.openTable key))
    return { d with current := path ++ [key] }
  | .arrayHeader path key => do
    let d ← d.change (Item.change false path (Item.openElement key))
    return { d with current := path ++ [key] }

def ofStatements? (statements : List Statement) : Option (List (String × Toml)) := do
  let d ← statements.foldlM add empty
  return Item.membersToToml d.members

end Document

def inlineTable? (pairs : List (List String × String × Toml)) : Option Toml := do
  let (_, members) ← pairs.foldlM
    (fun (origin, members) (path, key, v) => Item.assignAt path key v origin members)
    (Origin.header, [])
  return .table (Item.membersToToml members)

end SourceCookie.Toml

import SourceCookie.Config.Schema
import SourceCookie.Text.Json

/-!
Settings as JSON. Writing gives an object of sections. Reading is strict about types: nothing is
converted, what is missing has its default, and unknown members are skipped. A section, or the whole,
may also be an array of its parts in order, of which the last ones may be missing.
-/

namespace SourceCookie

namespace UnmarkedPolicy

def ofJson? : Json → Option UnmarkedPolicy
  | .string name => ofName? name
  | .object [(name, .null)] => ofName? name
  | _ => none

end UnmarkedPolicy

namespace Kind

def ofJson? (j : Json) : (k : Kind) → Option k.Carrier
  | natural64 => (j.nat? UInt64.size).map .ofNat
  | natural32 => (j.nat? UInt32.size).map .ofNat
  | natural8 => (j.nat? UInt8.size).map .ofNat
  | flag => j.bool?
  | text => j.string?
  | texts =>
    match j with
    | .array items => items.mapM Json.string?
    | _ => none
  | unmarked => UnmarkedPolicy.ofJson? j

def toJson : (k : Kind) → k.Carrier → Json
  | natural64, n => .integer n.toNat
  | natural32, n => .integer n.toNat
  | natural8, n => .integer n.toNat
  | flag, b => .bool b
  | text, s => .string s
  | texts, items => .array (items.map .string)
  | unmarked, p => .string p.name

end Kind

structure Json.Part where
  name : String
  read? : Json → Config → Option Config

/-- Reads parts from an object by their names, or from an array by their places. -/
def Json.readParts? (parts : List Json.Part) (j : Json) (c : Config) : Option Config :=
  match j with
  | .object members =>
    parts.foldlM (fun c part =>
      match member? part.name members with
      | none => some c
      | some value => part.read? value c) c
  | .array items =>
    if parts.length < items.length then none
    else (parts.zip items).foldlM (fun c (part, value) => part.read? value c) c
  | _ => none

def Setting.jsonPart (s : Setting) : Json.Part :=
  ⟨s.name, fun j c => (s.kind.ofJson? j).map (s.put · c)⟩

def Section.jsonPart (s : Section) : Json.Part :=
  ⟨s.name, Json.readParts? (s.settings.map Setting.jsonPart)⟩

namespace Config

def ofJson? (j : Json) : Option Config :=
  Json.readParts? (sections.map Section.jsonPart) j {}

def toJson (c : Config) : Json :=
  .object (sections.map fun part =>
    (part.name, .object (part.settings.map fun s => (s.name, s.kind.toJson (s.get c)))))

end Config

end SourceCookie

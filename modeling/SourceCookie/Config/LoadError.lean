import SourceCookie.Error
import SourceCookie.Number.Binary64
import SourceCookie.Text.Quoted

/-!
Why settings cannot be loaded, and what is said about it.
-/

namespace SourceCookie

inductive Found where
  | boolean (b : Bool)
  | integer (n : Int)
  | natural (n : Nat)
  | float (x : Binary64)
  | text (s : String)
  | blank
  | list
  | table
  deriving DecidableEq

namespace Found

def boolText (b : Bool) : String := if b then "true" else "false"

def render : Found → String
  | boolean b => "boolean \x60" ++ boolText b ++ "\x60"
  | integer n => "64-bit integer \x60" ++ toString n ++ "\x60"
  | natural n => "64-bit unsigned integer \x60" ++ toString n ++ "\x60"
  | float x => "floating point \x60" ++ x.render ++ "\x60"
  | text s => "string " ++ Quoted.render s
  | blank => "unit value"
  | list => "sequence"
  | table => "map"

def pointed (x : Binary64) : String :=
  match x with
  | .finite .. =>
    let text := x.render
    if text.toList.contains '.' then text else text ++ ".0"
  | _ => x.render

def renderPlain : Found → String
  | integer n => "integer \x60" ++ toString n ++ "\x60"
  | natural n => "integer \x60" ++ toString n ++ "\x60"
  | float x => "floating point \x60" ++ pointed x ++ "\x60"
  | other => other.render

end Found

inductive Expected where
  | integer
  | natural64
  | natural32
  | natural8
  | boolean
  | text
  deriving DecidableEq

def Expected.render : Expected → String
  | integer => "an integer"
  | natural64 => "an unsigned 64 bit or less integer"
  | natural32 => "an unsigned 32 bit integer"
  | natural8 => "an unsigned 8 bit integer"
  | boolean => "a boolean"
  | text => "a string"

inductive LoadError where
  | malformedFile
  | missingFile (path : String)
  | unregisteredType (path : String)
  | mismatch (found : Found) (expected : Expected) (key : String) (origin : Option String)
  | notSection (found : Found) (typeName : String)
  | notList (found : Found)
  | unknownPolicy (name : String)
  | notPolicy
  | missingKey (key : String)
  | custom (text : String)
  deriving DecidableEq

namespace LoadError

def render : LoadError → String
  | malformedFile => "the file is malformed"
  | missingFile path => "configuration file \x22" ++ path ++ "\x22 not found"
  | unregisteredType path =>
    "configuration file \x22" ++ path ++ "\x22 is not of a registered file format"
  | mismatch found expected key origin =>
    "invalid type: " ++ found.render ++ ", expected " ++ expected.render ++ " for key \x60" ++ key
      ++ "\x60" ++ (match origin with
        | some origin => " in " ++ origin
        | none => "")
  | notSection found typeName =>
    "invalid type: " ++ found.renderPlain ++ ", expected struct " ++ typeName
  | notList found => "invalid type: " ++ found.renderPlain ++ ", expected a sequence"
  | unknownPolicy name => "enum UnmarkedPolicy does not have variant constructor " ++ name
  | notPolicy =>
    "value of enum UnmarkedPolicy should be represented by either string or table with exactly one key"
  | missingKey key => "configuration property " ++ Quoted.render key ++ " not found"
  | custom text => text

end LoadError

def NodeError.ofLoadError (e : LoadError) : NodeError := .config e.render

end SourceCookie

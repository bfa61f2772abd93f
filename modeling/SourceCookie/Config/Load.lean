import SourceCookie.Config.Environment
import SourceCookie.Config.Typed
import SourceCookie.Toml.Statement

/-!
Loading settings: a file, environment variables over it, and defaults below both.
-/

namespace SourceCookie

structure SettingsFile where
  name : String
  content : String

namespace SettingsFile

/-- Takes slashes, and dots that stand for the folder before them, off the end of a reversed path. -/
def dropTail : List Char → List Char
  | '/' :: path => dropTail path
  | '.' :: '/' :: path => dropTail path
  | path => path

def typedPath (path : String) : String :=
  String.ofList (dropTail path.toList.reverse).reverse ++ ".toml"

/-- Whether the last name on a path has the file type after something else. -/
def hasType (path : String) : Bool :=
  match path.toList.reverse with
  | 'l' :: 'm' :: 'o' :: 't' :: '.' :: c :: _ => c != '/'
  | _ => false

def fromRoot (folder path : String) : String :=
  if path.startsWith "/" then path
  else if folder.endsWith "/" then folder ++ path
  else folder ++ "/" ++ path

/-- The file at a path, which has to have the file type, or else at the path with the file type appended. -/
def find (files : String → Option SettingsFile) (folder path : String) : Except LoadError SettingsFile :=
  match files path with
  | some file => if hasType path then .ok file else .error (.unregisteredType (fromRoot folder path))
  | none => (files (typedPath path)).elim (.error (.missingFile path)) .ok

def wayFrom : List String → List String → List String
  | f :: folder, p :: path =>
    if f = p then wayFrom folder path else (f :: folder).map (fun _ => "..") ++ p :: path
  | folder, path => folder.map (fun _ => "..") ++ path

def nameFrom (folder path : String) : String :=
  let names (path : String) := (path.splitOn "/").filter fun name => name != "" && name != "."
  let all := if path.startsWith "/" then names path else names folder ++ names path
  "/".intercalate (wayFrom (names folder) all)

def source (f : SettingsFile) : Except LoadError (List (String × Tree)) :=
  match Toml.parse? f.content.toList with
  | some members => .ok (Tree.ofTomlMembers f.name members)
  | none => .error .malformedFile

end SettingsFile

namespace Config

def ofSources (file : SettingsFile) (env : List (String × String))
    : Except LoadError Config := do
  let source ← file.source
  ofTree ((Tree.empty.addSource source).addSource (Environment.source env))

def load (files : String → Option SettingsFile) (folder path : String) (env : List (String × String))
    : Except LoadError Config := do
  ofSources (← SettingsFile.find files folder path) env

end Config

end SourceCookie

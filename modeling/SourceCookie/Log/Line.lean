import SourceCookie.Log
import SourceCookie.Text.Json

/-!
Log records as lines, either of text or of JSON.
-/

namespace SourceCookie.Log

inductive Format where
  | text
  | json
  deriving DecidableEq

structure Style where
  format : Format
  threadIds : Bool
  deriving DecidableEq

namespace Value

def toJson : Value → Json
  | text s => .string s
  | number n => .integer n

end Value

namespace Record

def fieldsJson (r : Record) : Json :=
  .object (("message", .string r.message) :: r.fields.map fun (name, v) => (name, v.toJson))

def line (style : Style) (r : Record) : String :=
  match style.format with
  | .text =>
    let label := String.ofList (List.replicate (5 - r.level.label.length) ' ') ++ r.level.label
    label ++ (if style.threadIds then " ThreadId(01): " else " ") ++ r.render
  | .json =>
    let thread := if style.threadIds then [("threadId", Json.string "ThreadId(1)")] else []
    String.ofList
      (Json.object (("level", .string r.level.label) :: ("fields", r.fieldsJson) :: thread)).render

end Record

end SourceCookie.Log

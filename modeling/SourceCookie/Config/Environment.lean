import SourceCookie.Config.Path

/-!
Settings from environment variables. A name starts with `ipcookies_` in any case; in the rest of it two
underscores separate the parts of a path. A value is taken for a truth value or a number where it reads
as one.
-/

namespace SourceCookie.Environment

def lead : List Char := "ipcookies_".toList

def origin : String := "the environment"

def dotted : List Char → List Char
  | '_' :: '_' :: rest => '.' :: dotted rest
  | c :: rest => c :: dotted rest
  | [] => []

def key? (name : String) : Option String :=
  let name := (LowerCase.render name).toList
  if lead.isPrefixOf name then some (String.ofList (dotted (name.drop lead.length))) else none

def integer? (s : List Char) : Option Int :=
  let (negative, digits) := match s with
    | '-' :: rest => (true, rest)
    | '+' :: rest => (false, rest)
    | _ => (false, s)
  match Digits.decimal? digits with
  | none => none
  | some n =>
    if negative then if n ≤ Nat.pow 2 63 then some (-(n : Int)) else none
    else if n < Nat.pow 2 63 then some n else none

def scalar (s : String) : Scalar :=
  let lower := LowerCase.render s
  if lower = "true" then .boolean true
  else if lower = "false" then .boolean false
  else match integer? s.toList with
    | some n => .integer n
    | none =>
      match Binary64.parse? s.toList with
      | some x => .float x
      | none => .text s

def source (env : List (String × String)) : List (String × Tree) :=
  env.filterMap fun (name, value) =>
    (key? name).map fun key => (key, .scalar origin (scalar value))

end SourceCookie.Environment

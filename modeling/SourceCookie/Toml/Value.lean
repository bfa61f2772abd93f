import SourceCookie.Number.Binary64
import SourceCookie.Toml.Datetime

/-!
Values of a settings file: nested tables whose keys are distinct. A table whose first key is the mark of
datetimes stands for the datetime that is written there.
-/

namespace SourceCookie

inductive Toml where
  | string (s : String)
  | integer (n : Int)
  | float (x : Binary64)
  | boolean (b : Bool)
  | datetime (d : Toml.Datetime)
  | array (items : List Toml)
  | table (members : List (String × Toml))
  deriving Inhabited

namespace Toml

def datetimeMark : String := "$__toml_private_datetime"

def ofDatetimeText? : Toml → Option Toml
  | string s => (Datetime.parse? s.toList).map datetime
  | _ => none

mutual

/-- Puts datetimes in the place of the tables that stand for them, unless one is malformed. -/
def unmark? : Toml → Option Toml
  | array items => (unmarkItems? items).map array
  | table [] => some (table [])
  | table ((key, v) :: rest) =>
    if key = datetimeMark then ofDatetimeText? v
    else do
      let v ← unmark? v
      let rest ← unmarkMembers? rest
      return table ((key, v) :: rest)
  | v => some v

def unmarkItems? : List Toml → Option (List Toml)
  | [] => some []
  | v :: rest => do return (← unmark? v) :: (← unmarkItems? rest)

def unmarkMembers? : List (String × Toml) → Option (List (String × Toml))
  | [] => some []
  | (key, v) :: rest => do return (key, ← unmark? v) :: (← unmarkMembers? rest)

end

end Toml

end SourceCookie

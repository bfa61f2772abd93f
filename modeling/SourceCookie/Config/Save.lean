import SourceCookie.Config.Schema
import SourceCookie.Toml.Render

/-!
Settings as a file. The integers of a file have 64 bits with a sign, so a natural number of 64 bits may
be too large to be saved.
-/

namespace SourceCookie

inductive SaveError where
  | numberTooLarge
  deriving DecidableEq

def SaveError.render : SaveError → String
  | numberTooLarge => "out-of-range value for u64 type"

namespace Kind

def renderToml : (k : Kind) → k.Carrier → Except SaveError (List Char)
  | natural64, n =>
    if Nat.pow 2 63 ≤ n.toNat then .error .numberTooLarge else .ok (Digits.decimal n.toNat)
  | natural32, n => .ok (Digits.decimal n.toNat)
  | natural8, n => .ok (Digits.decimal n.toNat)
  | flag, b => .ok (Toml.renderBool b)
  | text, s => .ok (Toml.renderString s)
  | texts, items => .ok (Toml.renderStrings items)
  | unmarked, p => .ok (Toml.renderString p.name)

end Kind

def Setting.renderToml (s : Setting) (c : Config) : Except SaveError (List Char) := do
  return Toml.renderAssign s.name (← s.kind.renderToml (s.get c))

def Section.renderToml (s : Section) (c : Config) : Except SaveError (List Char) := do
  return Toml.renderTable s.name (← s.settings.mapM (·.renderToml c))

def Config.save (c : Config) : Except SaveError (List Char) := do
  return Toml.renderTables (← Config.sections.mapM (·.renderToml c))

end SourceCookie

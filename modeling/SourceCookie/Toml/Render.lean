import SourceCookie.Toml.Value

/-!
Settings files as they are written. A string takes the plainest of four forms that can hold it: in
double quotes, in single quotes where nothing is escaped, and the same two over several lines. Only a
string that fits none of them is escaped.
-/

namespace SourceCookie.Toml

inductive Style where
  | basic
  | literal
  | longBasic
  | longLiteral
  deriving DecidableEq

namespace Style

def isLong : Style → Bool
  | longBasic | longLiteral => true
  | _ => false

def quotes : Style → List Char
  | basic => ['\x22']
  | literal => ['\x27']
  | longBasic => ['\x22', '\x22', '\x22']
  | longLiteral => ['\x27', '\x27', '\x27']

end Style

def needsEscape (c : Char) : Bool :=
  (c < ' ' && c != '\t' && c != '\n') || c == '\x7f'

def longestRun (c : Char) (s : List Char) : Nat :=
  (s.foldl (fun (best, run) d =>
    if d = c then (max best (run + 1), run + 1) else (best, 0)) (0, 0)).1

def plainStyles (s : List Char) : List Style :=
  let doubles := longestRun '\x22' s
  let singles := longestRun '\x27' s
  let oneLine := !s.contains '\n'
  let noBackslash := !s.contains '\x5c'
  if s.any needsEscape then []
  else
    (if doubles = 0 && oneLine && noBackslash then [.basic] else [])
      ++ (if singles = 0 && oneLine then [.literal] else [])
      ++ (if doubles ≤ 2 && noBackslash then [.longBasic] else [])
      ++ (if singles ≤ 2 then [.longLiteral] else [])

def styleOf (s : List Char) : Style :=
  (plainStyles s).headD (if s.contains '\n' then .longBasic else .basic)

def codePointDigits (c : Char) : List Char :=
  (Digits.padded 4 (Digits.hexadecimal c.toNat)).map Char.toUpper

def escapeChar (long : Bool) (c : Char) : List Char :=
  match c with
  | '\x08' => ['\x5c', 'b']
  | '\t' => ['\x5c', 't']
  | '\n' => if long then ['\n'] else ['\x5c', 'n']
  | '\x0c' => ['\x5c', 'f']
  | '\r' => ['\x5c', 'r']
  | '\x5c' => ['\x5c', '\x5c']
  | c => if needsEscape c then '\x5c' :: 'u' :: codePointDigits c else [c]

/--
What stands in double quotes for a text. Over several lines, up to two double quotes in a row stand for
themselves; `run` is the number of those right before the text.
-/
def escapeText (long : Bool) : Nat → List Char → List Char
  | _, [] => []
  | run, c :: rest =>
    if c = '\x22' then
      if long && run < 2 then c :: escapeText long (run + 1) rest
      else '\x5c' :: c :: escapeText long 0 rest
    else escapeChar long c ++ escapeText long 0 rest

def renderStringAs (style : Style) (s : List Char) : List Char :=
  let body := match style with
    | .basic => escapeText false 0 s
    | .longBasic => escapeText true 0 s
    | .literal | .longLiteral => s
  let start := if style.isLong && s.contains '\n' then ['\n'] else []
  style.quotes ++ start ++ body ++ style.quotes

def renderString (s : String) : List Char :=
  renderStringAs (styleOf s.toList) s.toList

def renderStrings : List String → List Char
  | [] => ['[', ']']
  | [s] => '[' :: renderString s ++ [']']
  | items =>
    ['[', '\n'] ++ items.flatMap (fun s => "    ".toList ++ renderString s ++ [',', '\n']) ++ [']']

def renderBool (b : Bool) : List Char := (if b then "true" else "false").toList

def renderAssign (key : String) (value : List Char) : List Char :=
  key.toList ++ " = ".toList ++ value ++ ['\n']

def renderTable (name : String) (lines : List (List Char)) : List Char :=
  '[' :: name.toList ++ [']', '\n'] ++ lines.flatten

def renderTables (tables : List (List Char)) : List Char :=
  ['\n'].intercalate tables

end SourceCookie.Toml

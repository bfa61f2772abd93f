import SourceCookie.Text.Hex

/-!
Log records: a level, the part of the program that speaks, a message and named fields.
-/

namespace SourceCookie.Log

inductive Level where
  | error
  | warn
  | info
  | debug
  | trace
  deriving DecidableEq

namespace Level

def rank : Level → Nat
  | error => 1
  | warn => 2
  | info => 3
  | debug => 4
  | trace => 5

def name : Level → String
  | error => "error"
  | warn => "warn"
  | info => "info"
  | debug => "debug"
  | trace => "trace"

def label (l : Level) : String := l.name.toUpper

end Level

inductive Value where
  | text (s : String)
  | number (n : Nat)
  deriving DecidableEq

def Value.render : Value → String
  | text s => s
  | number n => toString n

structure Record where
  level : Level
  target : String
  message : String
  fields : List (String × Value) := []
  deriving DecidableEq

def messageChar (c : Char) : List Char :=
  if c == '\x1b' || c == '\x07' || c == '\x08' || c == '\x0c' || c == '\x7f' then
    "\x5cx".toList ++ Hex.encodeByte (.ofNat c.toNat)
  else if '\u0080' ≤ c && c ≤ '\u009f' then
    "\x5cu\x7b".toList ++ Hex.encodeByte (.ofNat c.toNat) ++ ['\x7d']
  else [c]

def Record.render (r : Record) : String :=
  r.fields.foldl (fun line field => line ++ " " ++ field.1 ++ "=" ++ field.2.render)
    (String.ofList (r.message.toList.flatMap messageChar))

end SourceCookie.Log

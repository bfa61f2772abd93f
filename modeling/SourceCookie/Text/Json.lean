import SourceCookie.Text.Digits

/-!
JSON values, as far as settings, events and log lines are exchanged in them.
-/

namespace SourceCookie

inductive Json where
  | null
  | bool (b : Bool)
  | integer (n : Int)
  | decimal (mantissa : Int) (places : Nat)
  | string (s : String)
  | array (items : List Json)
  | object (members : List (String × Json))
  deriving Inhabited

namespace Json

def member? (name : String) : List (String × Json) → Option Json
  | members => members.reverse.lookup name

def string? : Json → Option String
  | string s => some s
  | _ => none

def bool? : Json → Option Bool
  | bool b => some b
  | _ => none

def nat? (bound : Nat) : Json → Option Nat
  | integer n => if 0 ≤ n ∧ n < bound then some n.toNat else none
  | _ => none

def escape (c : Char) : List Char :=
  match c with
  | '\x22' => ['\x5c', '\x22']
  | '\x5c' => ['\x5c', '\x5c']
  | '\n' => ['\x5c', 'n']
  | '\r' => ['\x5c', 'r']
  | '\t' => ['\x5c', 't']
  | '\x08' => ['\x5c', 'b']
  | '\x0c' => ['\x5c', 'f']
  | c => if c < ' ' then '\x5c' :: 'u' :: Digits.padded 4 (Digits.hexadecimal c.toNat) else [c]

def quoted (s : String) : List Char :=
  '\x22' :: s.toList.flatMap escape ++ ['\x22']

def renderDecimal (mantissa : Int) (places : Nat) : List Char :=
  let digits := Digits.padded (places + 1) (Digits.decimal mantissa.natAbs)
  (if mantissa < 0 then ['-'] else []) ++ digits.take (digits.length - places)
    ++ if places = 0 then [] else '.' :: digits.drop (digits.length - places)

mutual

def render : Json → List Char
  | null => "null".toList
  | bool b => (if b then "true" else "false").toList
  | integer n => renderDecimal n 0
  | decimal mantissa places => renderDecimal mantissa places
  | string s => quoted s
  | array items => '[' :: renderItems items ++ [']']
  | object members => '\x7b' :: renderMembers members ++ ['\x7d']

def renderItems : List Json → List Char
  | [] => []
  | [item] => render item
  | item :: rest => render item ++ ',' :: renderItems rest

def renderMembers : List (String × Json) → List Char
  | [] => []
  | [(name, value)] => quoted name ++ ':' :: render value
  | (name, value) :: rest => quoted name ++ ':' :: render value ++ ',' :: renderMembers rest

end

end Json

end SourceCookie

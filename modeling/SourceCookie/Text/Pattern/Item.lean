import SourceCookie.Text.Digits
import SourceCookie.Text.Pattern.Mode

/-!
Single items of a regular expression: characters and escapes.
-/

namespace SourceCookie.Pattern

inductive Item where
  | literal (code : Nat)
  | characters
  | position
  | wordBorder

def isEscapable (c : Char) : Bool :=
  c.toNat < 0x80 && !c.isAlphanum

def readHex? (m : Mode) : Nat → Nat → List Char → Option (Nat × List Char)
  | 0, code, s => some (code, s)
  | digits + 1, code, s =>
    match m.skip s with
    | c :: s => do
      let value ← Digits.value? 16 c
      readHex? m digits (16 * code + value) s
    | [] => none

def readCode? (m : Mode) (digits limit : Nat) (s : List Char) : Option (Item × List Char) := do
  let (code, s) ← readHex? m digits 0 s
  if code.isValidChar ∧ code < limit ∧ m.hasLiterals then some (.literal code, s) else none

def readEscape? (m : Mode) : List Char → Option (Item × List Char)
  | [] => none
  | c :: s =>
    if c == 'x' then readCode? m 2 (if m.unicode then 0x100 else 0x80) s
    else if c == 'u' then readCode? m 4 0x110000 s
    else if c == 'U' then readCode? m 8 0x110000 s
    else if c == 'd' || c == 's' || c == 'w' then
      if m.unicode then none else some (.characters, s)
    else if c == 'A' || c == 'z' then some (.position, s)
    else if c == 'b' || c == 'B' || c == '<' || c == '>' then
      some (if m.unicode then .wordBorder else .position, s)
    else if !m.hasLiterals then none
    else match c with
      | 'a' => some (.literal 0x07, s)
      | 'f' => some (.literal 0x0C, s)
      | 't' => some (.literal 0x09, s)
      | 'n' => some (.literal 0x0A, s)
      | 'r' => some (.literal 0x0D, s)
      | 'v' => some (.literal 0x0B, s)
      | c => if isEscapable c then some (.literal c.toNat, s) else none

end SourceCookie.Pattern

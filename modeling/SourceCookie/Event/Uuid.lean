import SourceCookie.Text.Hex

/-!
Universally unique identifiers. They are written in groups of 8, 4, 4, 4 and 12 digits and read in
four forms: plain digits, groups, groups in braces, and groups after `urn:uuid:` in any case.
-/

namespace SourceCookie

structure Uuid where
  bytes : List UInt8
  length_bytes : bytes.length = 16
  deriving DecidableEq

namespace Uuid

def nil : Uuid := ⟨List.replicate 16 0, rfl⟩

instance : Inhabited Uuid := ⟨nil⟩

def render (u : Uuid) : List Char :=
  let digits := Hex.encode u.bytes
  digits.take 8 ++ '-' :: (digits.drop 8).take 4 ++ '-' :: (digits.drop 12).take 4
    ++ '-' :: (digits.drop 16).take 4 ++ '-' :: digits.drop 20

def ofDigits? (digits : List Char) : Option Uuid := do
  let bytes ← Hex.decode? digits
  if h : bytes.length = 16 then some ⟨bytes, h⟩ else none

def ungroup? (s : List Char) : Option (List Char) :=
  if s[8]? = some '-' ∧ s[13]? = some '-' ∧ s[18]? = some '-' ∧ s[23]? = some '-' then
    some (s.take 8 ++ (s.drop 9).take 4 ++ (s.drop 14).take 4 ++ (s.drop 19).take 4 ++ s.drop 24)
  else none

def ofGroups? (s : List Char) : Option Uuid :=
  if s.length = 36 then (ungroup? s).bind ofDigits? else none

def urnLead : List Char := "urn:uuid:".toList

def parse? (s : List Char) : Option Uuid :=
  if s.length = 32 then ofDigits? s
  else if s.length = 38 then
    if s.head? = some '\x7b' ∧ s.getLast? = some '\x7d' then ofGroups? (s.drop 1).dropLast else none
  else if urnLead.isPrefixOf (s.map Char.toLower) then ofGroups? (s.drop urnLead.length)
  else ofGroups? s

end Uuid

end SourceCookie

import SourceCookie.Net.Ipv6

/-!
Address prefixes, `address/length`. Host bits beyond the length are kept in the text and do not count
when the prefix is matched.
-/

namespace SourceCookie

inductive Prefix where
  | v4 (address : Ipv4) (length : Nat)
  | v6 (address : Ipv6) (length : Nat)
  deriving DecidableEq

namespace Prefix

def render : Prefix → List Char
  | v4 address length => address.render ++ '/' :: Digits.decimal length
  | v6 address length => address.render ++ '/' :: Digits.decimal length

def readLength? (maxDigits most : Nat) : List Char → Option (Nat × List Char)
  | '/' :: rest => Digits.Form.read? ⟨10, some maxDigits, most + 1, true⟩ rest
  | _ => none

def readV4? (s : List Char) : Option (Prefix × List Char) := do
  let (address, s) ← Ipv4.read? true s
  let (length, s) ← readLength? 2 32 s
  return (.v4 address length, s)

def readV6? (s : List Char) : Option (Prefix × List Char) := do
  let (address, s) ← Ipv6.read? .lenient s
  let (length, s) ← readLength? 3 128 s
  return (.v6 address length, s)

def parse? (s : List Char) : Option Prefix :=
  match readV4? s <|> readV6? s with
  | some (p, []) => some p
  | _ => none

def contains : Prefix → Ipv6 → Bool
  | v4 _ _, _ => false
  | v6 address length, ip => address.toNat >>> (128 - length) == ip.toNat >>> (128 - length)

def parseErrorText : String := "invalid IP address syntax"

end Prefix

end SourceCookie

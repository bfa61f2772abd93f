import SourceCookie.Text.Digits

/-!
IPv4 addresses and their dotted form.
-/

namespace SourceCookie

structure Ipv4 where
  a : UInt8
  b : UInt8
  c : UInt8
  d : UInt8
  deriving DecidableEq, Inhabited

namespace Ipv4

def toNat (ip : Ipv4) : Nat :=
  ((ip.a.toNat * 256 + ip.b.toNat) * 256 + ip.c.toNat) * 256 + ip.d.toNat

def render (ip : Ipv4) : List Char :=
  Digits.decimal ip.a.toNat ++ '.' :: Digits.decimal ip.b.toNat ++
    '.' :: Digits.decimal ip.c.toNat ++ '.' :: Digits.decimal ip.d.toNat

def octetForm (leadingZeros : Bool) : Digits.Form :=
  ⟨10, some 3, 256, leadingZeros⟩

def read? (leadingZeros : Bool) (s : List Char) : Option (Ipv4 × List Char) := do
  let octet := (octetForm leadingZeros).read?
  let dotted (s : List Char) : Option (Nat × List Char) :=
    match s with
    | '.' :: rest => octet rest
    | _ => none
  let (a, s) ← octet s
  let (b, s) ← dotted s
  let (c, s) ← dotted s
  let (d, s) ← dotted s
  return (⟨.ofNat a, .ofNat b, .ofNat c, .ofNat d⟩, s)

end Ipv4

end SourceCookie

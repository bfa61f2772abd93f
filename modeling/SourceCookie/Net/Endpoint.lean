import SourceCookie.Net.Ipv6

/-!
Addresses to listen at: an IP address with a port. An IPv6 address stands in brackets and may have a
numeric scope.
-/

namespace SourceCookie

inductive Endpoint where
  | v4 (address : Ipv4) (port : UInt16)
  | v6 (address : Ipv6) (scope : UInt32) (port : UInt16)
  deriving DecidableEq

namespace Endpoint

def render : Endpoint → List Char
  | v4 address port => address.render ++ ':' :: Digits.decimal port.toNat
  | v6 address scope port =>
    let scopeText := if scope = 0 then [] else '%' :: Digits.decimal scope.toNat
    '[' :: address.render ++ scopeText ++ ']' :: ':' :: Digits.decimal port.toNat

def readPort? : List Char → Option (UInt16 × List Char)
  | ':' :: rest => do
    let (port, rest) ← Digits.Form.read? ⟨10, none, UInt16.size, true⟩ rest
    return (.ofNat port, rest)
  | _ => none

def readScope : List Char → UInt32 × List Char
  | '%' :: rest =>
    match Digits.Form.read? ⟨10, none, UInt32.size, true⟩ rest with
    | some (scope, rest) => (.ofNat scope, rest)
    | none => (0, '%' :: rest)
  | s => (0, s)

def readV4? (s : List Char) : Option (Endpoint × List Char) := do
  let (address, s) ← Ipv4.read? false s
  let (port, s) ← readPort? s
  return (.v4 address port, s)

def readV6? : List Char → Option (Endpoint × List Char)
  | '[' :: s => do
    let (address, s) ← Ipv6.read? .strict s
    let (scope, s) := readScope s
    match s with
    | ']' :: s =>
      let (port, s) ← readPort? s
      return (.v6 address scope port, s)
    | _ => none
  | _ => none

def parse? (s : List Char) : Option Endpoint :=
  match readV4? s <|> readV6? s with
  | some (e, []) => some e
  | _ => none

def parseErrorText : String := "invalid socket address syntax"

end Endpoint

end SourceCookie

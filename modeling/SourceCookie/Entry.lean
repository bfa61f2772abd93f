import SourceCookie.Cookie
import SourceCookie.Timestamp

/-!
What a node knows about one peer it sends to: the cookie to attach, when it was last refreshed and
for how long it lasts, and the two flags that drive renewal.
-/

namespace SourceCookie

/-- A lifetime by the base-two logarithm of its seconds; 15 stands for a lifetime without end. -/
structure Lifetime where
  log2 : Fin 16
  deriving DecidableEq, Inhabited

namespace Lifetime

def infinite : Lifetime := ⟨15⟩

def infiniteLog2 : UInt8 := 15

def ofByte (b : UInt8) : Lifetime :=
  ⟨⟨b.toNat % 16, Nat.mod_lt _ (by decide)⟩⟩

def toNat (l : Lifetime) : Nat := l.log2.val

def seconds? (l : Lifetime) : Option Nat :=
  if l = infinite then none else some (Nat.pow 2 l.toNat)

end Lifetime

structure Entry where
  peer : Ipv6
  cookie : Cookie
  mtime : Timestamp
  lifetime : Lifetime
  disableCookies : Bool
  expectingSetCookie : Bool
  deriving DecidableEq, Inhabited

namespace Entry

def fresh (peer : Ipv6) (policyDisables : Bool) (cookie : Cookie) (now : Timestamp) : Entry where
  peer := peer
  cookie := cookie
  mtime := now
  lifetime := if policyDisables then .infinite else ⟨0⟩
  disableCookies := policyDisables
  expectingSetCookie := !policyDisables

def setCookie (e : Entry) (cookie : Cookie) : Entry := { e with cookie }

def touch (e : Entry) (now : Timestamp) : Entry := { e with mtime := now }

def setLifetime (e : Entry) (log2 : UInt8) : Entry := { e with lifetime := .ofByte log2 }

/-- Puts the entry at the very start of its renewal window. -/
def backdate (e : Entry) (now : Timestamp) : Entry :=
  { e with mtime := now.earlier (e.lifetime.seconds?.getD 0) }

def setDisable (e : Entry) (flag : Bool) : Entry := { e with disableCookies := flag }

def setExpecting (e : Entry) (flag : Bool) : Entry := { e with expectingSetCookie := flag }

end Entry

end SourceCookie

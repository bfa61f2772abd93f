import SourceCookie.Cookie

/-!
The two generations of keys that a node checks cookies with. After a rotation the outgoing key still
verifies, so a cookie handed out just before the rotation stays good for one more period.
-/

namespace SourceCookie

inductive Verification where
  | current
  | previous
  | invalid
  deriving DecidableEq

def Verification.isValid : Verification → Bool
  | invalid => false
  | _ => true

structure Engine where
  current : SecretKey
  previous : SecretKey
  /-- How often the keys were rotated. A counter of 64 bits holds this up to the rotation 2^64 - 1. -/
  epoch : Nat
  deriving DecidableEq

namespace Engine

def ofKeys? (current previous : SecretKey) : Option Engine :=
  if current = previous then none else some ⟨current, previous, 0⟩

def currentCookie (e : Engine) (peer : Ipv6) : Cookie :=
  .compute e.current peer

def check (e : Engine) (cookie : Cookie) (peer : Ipv6) : Verification :=
  if Cookie.compute e.current peer = cookie then .current
  else if Cookie.compute e.previous peer = cookie then .previous
  else .invalid

def verify (e : Engine) (cookie : Cookie) (peer : Ipv6) : Bool :=
  (e.check cookie peer).isValid

/--
Makes `drawn` the current key and the current key the previous one. The key is drawn afresh: whoever
rotates draws again until it differs from the current one.
-/
def rotate (e : Engine) (drawn : SecretKey) : Engine :=
  ⟨drawn, e.current, e.epoch + 1⟩

def render (e : Engine) : String :=
  "StatelessEngine \x7b current_secret: " ++ e.current.render ++ ", previous_secret: "
    ++ e.previous.render ++ ", rotation_epoch: " ++ toString e.epoch ++ " \x7d"

end Engine

end SourceCookie

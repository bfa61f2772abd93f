import SourceCookie.Digest.Hmac
import SourceCookie.Net.Ipv6
import SourceCookie.Secret
import SourceCookie.Text.Hex

/-!
Cookies: the 96 bits that a datagram carries as evidence of its source address. A responder keeps no
state for them; it computes the cookie that it expects from an address with a key of its own.
-/

namespace SourceCookie

structure Cookie where
  bytes : List UInt8
  length_bytes : bytes.length = 12
  deriving DecidableEq

namespace Cookie

def size : Nat := 12

def zero : Cookie := ⟨List.replicate 12 0, rfl⟩

instance : Inhabited Cookie := ⟨zero⟩

@[ext]
theorem ext {a b : Cookie} (h : a.bytes = b.bytes) : a = b := by
  cases a; cases b; simp_all

def ofBytes? (bytes : List UInt8) : Option Cookie :=
  if h : size ≤ bytes.length then some ⟨bytes.take 12, by simp [size] at *; omega⟩ else none

def ofSlice (bytes : List UInt8) (start : Nat) (h : start + 12 ≤ bytes.length) : Cookie where
  bytes := (bytes.drop start).take 12
  length_bytes := by simp; omega

def render (c : Cookie) : String := String.ofList (Hex.encode c.bytes)

def domainTag : List UInt8 := "ipcookie:v1".toUTF8.toList

/-- The cookie that the holder of `key` expects from `peer`. -/
def compute (key : SecretKey) (peer : Ipv6) : Cookie where
  bytes := (Hmac.authenticate key.expose.bytes (domainTag ++ peer.octets)).take 12
  length_bytes := by simp [Hmac.length_authenticate]

theorem length_render (c : Cookie) : c.render.length = 24 := by
  simp [render, Hex.length_encode, c.length_bytes]

theorem render_injective {a b : Cookie} (h : a.render = b.render) : a = b := by
  have digits : Hex.encode a.bytes = Hex.encode b.bytes := by
    simpa [render] using congrArg String.toList h
  have read := congrArg Hex.decode? digits
  rw [Hex.decode?_encode, Hex.decode?_encode] at read
  exact ext (Option.some.inj read)

end Cookie

end SourceCookie

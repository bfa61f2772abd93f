import SourceCookie.Digest.Sha256

/-!
Keyed digests: HMAC over SHA-256.
-/

namespace SourceCookie.Hmac

def blockLength : Nat := 64

def blockKey (key : List UInt8) : List UInt8 :=
  let short := if key.length ≤ blockLength then key else Sha256.digest key
  short ++ List.replicate (blockLength - short.length) 0

def authenticate (key message : List UInt8) : List UInt8 :=
  let block := blockKey key
  let inner := Sha256.digest (block.map (· ^^^ 0x36) ++ message)
  Sha256.digest (block.map (· ^^^ 0x5c) ++ inner)

theorem length_authenticate (key message : List UInt8)
    : (authenticate key message).length = 32 :=
  Sha256.length_digest _

end SourceCookie.Hmac

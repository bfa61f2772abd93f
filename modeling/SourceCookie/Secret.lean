/-!
Secrets: values that can be used but never show in a text.
-/

namespace SourceCookie

structure Secret (α : Type) where
  expose : α
  deriving DecidableEq

def Secret.render {α : Type} (_ : Secret α) : String := "[REDACTED]"

def keyLength : Nat := 32

structure Key where
  bytes : List UInt8
  length_bytes : bytes.length = keyLength
  deriving DecidableEq

def Key.ofBytes? (bytes : List UInt8) : Option Key :=
  if h : bytes.length = keyLength then some ⟨bytes, h⟩ else none

instance : Inhabited Key := ⟨⟨List.replicate keyLength 0, by simp⟩⟩

abbrev SecretKey := Secret Key

end SourceCookie

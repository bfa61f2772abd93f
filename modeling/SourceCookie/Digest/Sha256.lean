/-!
The SHA-256 digest of a byte string. Everything is recursion over lists, so a digest of a closed
byte string can be evaluated by the kernel.
-/

namespace SourceCookie.Sha256

structure State where
  a : UInt32
  b : UInt32
  c : UInt32
  d : UInt32
  e : UInt32
  f : UInt32
  g : UInt32
  h : UInt32
  deriving DecidableEq

/-- The first 32 bits of the fractional parts of the square roots of the first eight primes. -/
def State.initial : State :=
  ⟨0x6a09e667, 0xbb67ae85, 0x3c6ef372, 0xa54ff53a, 0x510e527f, 0x9b05688c, 0x1f83d9ab, 0x5be0cd19⟩

/-- The first 32 bits of the fractional parts of the cube roots of the first 64 primes. -/
def roundConstants : List UInt32 := [
  0x428a2f98, 0x71374491, 0xb5c0fbcf, 0xe9b5dba5, 0x3956c25b, 0x59f111f1, 0x923f82a4, 0xab1c5ed5,
  0xd807aa98, 0x12835b01, 0x243185be, 0x550c7dc3, 0x72be5d74, 0x80deb1fe, 0x9bdc06a7, 0xc19bf174,
  0xe49b69c1, 0xefbe4786, 0x0fc19dc6, 0x240ca1cc, 0x2de92c6f, 0x4a7484aa, 0x5cb0a9dc, 0x76f988da,
  0x983e5152, 0xa831c66d, 0xb00327c8, 0xbf597fc7, 0xc6e00bf3, 0xd5a79147, 0x06ca6351, 0x14292967,
  0x27b70a85, 0x2e1b2138, 0x4d2c6dfc, 0x53380d13, 0x650a7354, 0x766a0abb, 0x81c2c92e, 0x92722c85,
  0xa2bfe8a1, 0xa81a664b, 0xc24b8b70, 0xc76c51a3, 0xd192e819, 0xd6990624, 0xf40e3585, 0x106aa070,
  0x19a4c116, 0x1e376c08, 0x2748774c, 0x34b0bcb5, 0x391c0cb3, 0x4ed8aa4a, 0x5b9cca4f, 0x682e6ff3,
  0x748f82ee, 0x78a5636f, 0x84c87814, 0x8cc70208, 0x90befffa, 0xa4506ceb, 0xbef9a3f7, 0xc67178f2]

def rotateRight (w : UInt32) (amount : UInt32) : UInt32 :=
  (w >>> amount) ||| (w <<< (32 - amount))

def smallSigma0 (w : UInt32) : UInt32 := rotateRight w 7 ^^^ rotateRight w 18 ^^^ (w >>> 3)

def smallSigma1 (w : UInt32) : UInt32 := rotateRight w 17 ^^^ rotateRight w 19 ^^^ (w >>> 10)

def bigSigma0 (w : UInt32) : UInt32 := rotateRight w 2 ^^^ rotateRight w 13 ^^^ rotateRight w 22

def bigSigma1 (w : UInt32) : UInt32 := rotateRight w 6 ^^^ rotateRight w 11 ^^^ rotateRight w 25

def extend : Nat → List UInt32 → List UInt32
  | 0, ws => ws
  | n + 1, ws =>
    let w := smallSigma1 (ws.getD 1 0) + ws.getD 6 0 + smallSigma0 (ws.getD 14 0) + ws.getD 15 0
    extend n (w :: ws)

def schedule (block : List UInt32) : List UInt32 :=
  (extend 48 block.reverse).reverse

def State.round (s : State) (k w : UInt32) : State :=
  let choice := (s.e &&& s.f) ^^^ (~~~s.e &&& s.g)
  let majority := (s.a &&& s.b) ^^^ (s.a &&& s.c) ^^^ (s.b &&& s.c)
  let t1 := s.h + bigSigma1 s.e + choice + k + w
  let t2 := bigSigma0 s.a + majority
  ⟨t1 + t2, s.a, s.b, s.c, s.d + t1, s.e, s.f, s.g⟩

def State.rounds : State → List UInt32 → List UInt32 → State
  | s, k :: ks, w :: ws => (s.round k w).rounds ks ws
  | s, _, _ => s

def State.add (s t : State) : State :=
  ⟨s.a + t.a, s.b + t.b, s.c + t.c, s.d + t.d, s.e + t.e, s.f + t.f, s.g + t.g, s.h + t.h⟩

def State.compress (s : State) (block : List UInt32) : State :=
  s.add (s.rounds roundConstants (schedule block))

def words : List UInt8 → List UInt32
  | b3 :: b2 :: b1 :: b0 :: rest =>
    ((b3.toUInt32 <<< 24) ||| (b2.toUInt32 <<< 16) ||| (b1.toUInt32 <<< 8) ||| b0.toUInt32)
      :: words rest
  | _ => []

def wordBytes (w : UInt32) : List UInt8 :=
  [(w >>> 24).toUInt8, (w >>> 16).toUInt8, (w >>> 8).toUInt8, w.toUInt8]

def State.bytes (s : State) : List UInt8 :=
  [s.a, s.b, s.c, s.d, s.e, s.f, s.g, s.h].flatMap wordBytes

def lengthBytes (bytes : Nat) : List UInt8 :=
  let bits := UInt64.ofNat (8 * bytes)
  ([56, 48, 40, 32, 24, 16, 8, 0] : List UInt64).map fun shift => (bits >>> shift).toUInt8

def pad (message : List UInt8) : List UInt8 :=
  let zeros := (119 - message.length % 64) % 64
  message ++ 0x80 :: List.replicate zeros 0 ++ lengthBytes message.length

def State.absorb : Nat → State → List UInt32 → State
  | 0, s, _ => s
  | n + 1, s, ws => (s.compress (ws.take 16)).absorb n (ws.drop 16)

def digest (message : List UInt8) : List UInt8 :=
  let padded := words (pad message)
  (State.initial.absorb (padded.length / 16) padded).bytes

theorem length_digest (message : List UInt8) : (digest message).length = 32 := by
  simp [digest, State.bytes, wordBytes]

end SourceCookie.Sha256

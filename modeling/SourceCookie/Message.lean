import SourceCookie.Cookie

/-!
Control messages and their wire form of 32 bytes:

* byte 0 is the type and byte 1 the code; bytes 2 and 3 hold a checksum, which is written as zero and
  not looked at here;
* the low half of byte 4 is the lifetime exponent; its high half and bytes 5 to 7 are zero;
* bytes 8 to 19 are the echoed cookie and bytes 20 to 31 the requested one.
-/

namespace SourceCookie

inductive Code where
  | setCookie
  | notExpected
  deriving DecidableEq, Inhabited

namespace Code

def toByte : Code → UInt8
  | setCookie => 1
  | notExpected => 2

def ofByte? (b : UInt8) : Option Code :=
  if b = 1 then some setCookie else if b = 2 then some notExpected else none

theorem ofByte?_toByte (c : Code) : ofByte? c.toByte = some c := by
  cases c <;> rfl

end Code

structure Message where
  code : Code
  /-- The base-two logarithm of a lifetime in seconds; only its low half reaches the wire. -/
  lifetimeLog2 : UInt8
  echoed : Cookie
  requested : Cookie
  deriving DecidableEq

namespace Message

def wireType : UInt8 := 0x42

def wireLength : Nat := 32

def receiveRoom : Nat := 1500

def lifetimeMask : UInt8 := 0x0f

def setCookie (lifetimeLog2 : UInt8) (echoed requested : Cookie) : Message :=
  ⟨.setCookie, lifetimeLog2 &&& lifetimeMask, echoed, requested⟩

def notExpected (echoed : Cookie) : Message :=
  ⟨.notExpected, 0, echoed, .zero⟩

def encode (m : Message) : List UInt8 :=
  [wireType, m.code.toByte, 0, 0, m.lifetimeLog2 &&& lifetimeMask, 0, 0, 0]
    ++ m.echoed.bytes ++ m.requested.bytes

inductive DecodeError where
  | truncated (length : Nat)
  | wrongType (type : UInt8)
  | unknownCode (code : UInt8)
  | reservedBits
  deriving DecidableEq

def DecodeError.byteText (b : UInt8) : String :=
  "0x" ++ String.ofList (Hex.encodeByte b)

def DecodeError.render : DecodeError → String
  | truncated length =>
    "control message truncated: " ++ toString length ++ " bytes, need " ++ toString wireLength
  | wrongType type => "unexpected ICMPv6 type " ++ byteText type
  | unknownCode code => "unknown control message code " ++ byteText code
  | reservedBits => "reserved bits set in control message"

/-- Reads the message that a byte string starts with; what follows its 32 bytes is not looked at. -/
def decode (bytes : List UInt8) : Except DecodeError Message :=
  if h : bytes.length < wireLength then
    .error (.truncated bytes.length)
  else
    have long : 32 ≤ bytes.length := by simpa [wireLength] using h
    if bytes[0] ≠ wireType then
      .error (.wrongType bytes[0])
    else
      match Code.ofByte? bytes[1] with
      | none => .error (.unknownCode bytes[1])
      | some code =>
        if bytes[4] &&& ~~~lifetimeMask ≠ 0 ∨ bytes[5] ≠ 0 ∨ bytes[6] ≠ 0 ∨ bytes[7] ≠ 0 then
          .error .reservedBits
        else
          .ok {
            code
            lifetimeLog2 := bytes[4]
            echoed := .ofSlice bytes 8 (by omega)
            requested := .ofSlice bytes 20 (by omega)
          }

end Message

end SourceCookie

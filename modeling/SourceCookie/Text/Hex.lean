import SourceCookie.Text.Digits

/-!
Bytes written as pairs of lower-case hexadecimal digits, and read back in either case.
-/

namespace SourceCookie.Hex

def encodeByte (b : UInt8) : List Char :=
  [Nat.digitChar (b.toNat / 16), Nat.digitChar (b.toNat % 16)]

def encode (bytes : List UInt8) : List Char :=
  bytes.flatMap encodeByte

def decode? : List Char → Option (List UInt8)
  | [] => some []
  | [_] => none
  | h :: l :: rest => do
    let high ← Digits.value? 16 h
    let low ← Digits.value? 16 l
    let bytes ← decode? rest
    return UInt8.ofNat (16 * high + low) :: bytes

@[simp]
theorem encode_nil : encode [] = [] := rfl

theorem encode_cons (b : UInt8) (bytes : List UInt8)
    : encode (b :: bytes) = encodeByte b ++ encode bytes := rfl

theorem length_encode (bytes : List UInt8) : (encode bytes).length = 2 * bytes.length := by
  induction bytes with
  | nil => rfl
  | cons b bytes ih =>
    simp only [encode_cons, List.length_append, List.length_cons, ih, encodeByte]
    simp
    omega

theorem value?_digitChar (n : Nat) (h : n < 16) : Digits.value? 16 (Nat.digitChar n) = some n := by
  have all : ∀ i : Fin 16, Digits.value? 16 (Nat.digitChar i.val) = some i.val := by decide
  exact all ⟨n, h⟩

theorem decode?_encode (bytes : List UInt8) : decode? (encode bytes) = some bytes := by
  induction bytes with
  | nil => rfl
  | cons b bytes ih =>
    have lt := b.toNat_lt
    have high := value?_digitChar (b.toNat / 16) (by omega)
    have low := value?_digitChar (b.toNat % 16) (by omega)
    have whole : 16 * (b.toNat / 16) + b.toNat % 16 = b.toNat := by omega
    simp only [encode_cons, encodeByte, List.cons_append, List.nil_append, decode?, high, low, ih,
      Option.pure_def, Option.bind_eq_bind, Option.bind_some, whole, UInt8.ofNat_toNat]

end SourceCookie.Hex

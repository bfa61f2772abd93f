import SourceCookie.Message

/-!
Reading a message back from its wire form, and writing back what was read. A message comes back but for
the high half of the lifetime exponent, which is not sent; bytes come back but for the checksum, which is
not looked at, and for what follows the message.
-/

namespace SourceCookie

theorem Code.eq_toByte_of_ofByte? {b : UInt8} {code : Code} (h : Code.ofByte? b = some code)
    : b = code.toByte := by
  unfold ofByte? at h
  split at h
  . next hb =>
    injection h with hcode
    rw [hb, ← hcode]
    rfl
  . split at h
    . next hb =>
      injection h with hcode
      rw [hb, ← hcode]
      rfl
    . contradiction

namespace Cookie

theorem ofSlice_eq {bytes : List UInt8} {start : Nat} (h : start + 12 ≤ bytes.length)
    (before : List UInt8) (cookie : Cookie) (after : List UInt8)
    (hsplit : bytes = before ++ cookie.bytes ++ after) (hstart : before.length = start)
    : ofSlice bytes start h = cookie := by
  apply ext
  subst hsplit hstart
  simp only [ofSlice, List.append_assoc, List.drop_left]
  rw [← cookie.length_bytes, List.take_left]

end Cookie

namespace Message

def header (m : Message) : List UInt8 :=
  [wireType, m.code.toByte, 0, 0, m.lifetimeLog2 &&& lifetimeMask, 0, 0, 0]

theorem length_encode (m : Message) : m.encode.length = wireLength := by
  simp [encode, m.echoed.length_bytes, m.requested.length_bytes, wireLength]

theorem decode_encode (m : Message)
    : decode m.encode = .ok { m with lifetimeLog2 := m.lifetimeLog2 &&& lifetimeMask } := by
  unfold decode
  split
  . next hshort =>
    rw [length_encode] at hshort
    exact absurd hshort (Nat.lt_irrefl _)
  . next hlong =>
    have hcode : Code.ofByte? m.code.toByte = some m.code := Code.ofByte?_toByte m.code
    have hreserved : m.lifetimeLog2 &&& lifetimeMask &&& ~~~lifetimeMask = 0 := by
      have hmask : lifetimeMask &&& ~~~lifetimeMask = 0 := by decide
      rw [UInt8.and_assoc, hmask, UInt8.and_zero]
    simp only [encode, List.cons_append, List.nil_append, List.getElem_cons_zero,
      List.getElem_cons_succ, hcode, hreserved]
    simp only [ne_eq, not_true_eq_false, ↓reduceIte, or_self]
    congr 2
    . apply Cookie.ofSlice_eq _ m.header m.echoed m.requested.bytes rfl rfl
    . apply Cookie.ofSlice_eq _ (m.header ++ m.echoed.bytes) m.requested []
      . simp [header]
      . simp [header, m.echoed.length_bytes]

theorem decode_encode_setCookie (lifetimeLog2 : UInt8) (echoed requested : Cookie)
    : decode (setCookie lifetimeLog2 echoed requested).encode
        =
      .ok (setCookie lifetimeLog2 echoed requested) := by
  rw [decode_encode]
  simp [setCookie, UInt8.and_assoc]

theorem decode_encode_notExpected (echoed : Cookie)
    : decode (notExpected echoed).encode = .ok (notExpected echoed) := by
  rw [decode_encode]
  simp [notExpected]

theorem toNat_lt_of_reserved {b : UInt8} (h : b &&& ~~~lifetimeMask = 0) : b.toNat < 16 := by
  have hall : ∀ i : Fin 256, UInt8.ofNat i &&& ~~~lifetimeMask = 0 → i.val < 16 := by decide +kernel
  apply hall ⟨b.toNat, b.toNat_lt⟩
  rw [UInt8.ofNat_toNat]
  exact h

def wireForm (m : Message) (high low : UInt8) : List UInt8 :=
  [wireType, m.code.toByte, high, low, m.lifetimeLog2, 0, 0, 0] ++ m.echoed.bytes ++ m.requested.bytes

def clearChecksum (bytes : List UInt8) : List UInt8 :=
  (bytes.set 2 0).set 3 0

theorem and_lifetimeMask_of_reserved {b : UInt8} (h : b &&& ~~~lifetimeMask = 0)
    : b &&& lifetimeMask = b := by
  have hmask : lifetimeMask.toNat = 2 ^ 4 - 1 := rfl
  apply UInt8.toNat_inj.1
  rw [UInt8.toNat_and, hmask, Nat.and_two_pow_sub_one_eq_mod]
  exact Nat.mod_eq_of_lt (toNat_lt_of_reserved h)

theorem take_wireLength (bytes : List UInt8)
    : bytes.take wireLength = bytes.take 8 ++ (bytes.drop 8).take 12 ++ (bytes.drop 20).take 12 := by
  rw [show wireLength = 8 + 12 + 12 from rfl, List.take_add, List.take_add]

theorem take_eq_wireForm_of_decode {bytes : List UInt8} {m : Message} (hdecode : decode bytes = .ok m)
    : m.lifetimeLog2 &&& ~~~lifetimeMask = 0 ∧
      ∃ high low, bytes.take wireLength = m.wireForm high low := by
  unfold decode at hdecode
  split at hdecode
  . contradiction
  . next hlong =>
    have hlength : 32 ≤ bytes.length := Nat.le_of_not_lt hlong
    simp only at hdecode
    split at hdecode
    . contradiction
    . next htype =>
      split at hdecode
      . contradiction
      . next code hcode =>
        split at hdecode
        . contradiction
        . next hreserved =>
          simp only [not_or, ne_eq, Decidable.not_not] at hreserved htype
          obtain ⟨hlifetime, h5, h6, h7⟩ := hreserved
          injection hdecode with hm
          rw [← hm]
          refine ⟨hlifetime, bytes[2], bytes[3], ?_⟩
          have hhead : bytes.take 8
              =
            [bytes[0], bytes[1], bytes[2], bytes[3], bytes[4], bytes[5], bytes[6], bytes[7]] := by
            simp (disch := omega) [List.take_add_one]
          rw [take_wireLength, hhead, htype, Code.eq_toByte_of_ofByte? hcode, h5, h6, h7]
          rfl

theorem toNat_lifetimeLog2_lt_of_decode {bytes : List UInt8} {m : Message}
    (hdecode : decode bytes = .ok m)
    : m.lifetimeLog2.toNat < 16 :=
  toNat_lt_of_reserved (take_eq_wireForm_of_decode hdecode).1

theorem encode_eq_clearChecksum_of_decode {bytes : List UInt8} {m : Message}
    (hdecode : decode bytes = .ok m)
    : m.encode = clearChecksum (bytes.take wireLength) := by
  obtain ⟨hreserved, high, low, htake⟩ := take_eq_wireForm_of_decode hdecode
  rw [htake]
  unfold encode
  rw [and_lifetimeMask_of_reserved hreserved]
  rfl

theorem getElem?_clearChecksum (bytes : List UInt8) {i : Nat} (h2 : i ≠ 2) (h3 : i ≠ 3)
    : (clearChecksum bytes)[i]? = bytes[i]? := by
  unfold clearChecksum
  rw [List.getElem?_set_ne h3.symm, List.getElem?_set_ne h2.symm]

theorem decode_encode_of_decode {bytes : List UInt8} {m : Message} (hdecode : decode bytes = .ok m)
    : decode m.encode = .ok m := by
  rw [decode_encode, and_lifetimeMask_of_reserved (take_eq_wireForm_of_decode hdecode).1]

theorem getElem?_encode_of_decode {bytes : List UInt8} {m : Message} (hdecode : decode bytes = .ok m)
    {i : Nat} (hi : i < wireLength) (h2 : i ≠ 2) (h3 : i ≠ 3)
    : m.encode[i]? = bytes[i]? := by
  rw [encode_eq_clearChecksum_of_decode hdecode, getElem?_clearChecksum _ h2 h3, List.getElem?_take,
    if_pos hi]

def SameButChecksum (bytes bytes' : List UInt8) : Prop :=
  ∀ i, i < wireLength → i ≠ 2 → i ≠ 3 → bytes[i]? = bytes'[i]?

theorem encode_eq_encode_of_sameButChecksum {bytes bytes' : List UInt8} {m m' : Message}
    (hdecode : decode bytes = .ok m) (hdecode' : decode bytes' = .ok m')
    (hsame : SameButChecksum bytes bytes')
    : m.encode = m'.encode := by
  apply List.ext_getElem?
  intro i
  rcases Nat.lt_or_ge i wireLength with hi | hi
  . by_cases h2 : i = 2
    . rw [h2]
      rfl
    . by_cases h3 : i = 3
      . rw [h3]
        rfl
      . rw [getElem?_encode_of_decode hdecode hi h2 h3, getElem?_encode_of_decode hdecode' hi h2 h3]
        exact hsame i hi h2 h3
  . rw [List.getElem?_eq_none (by rw [length_encode]; exact hi),
      List.getElem?_eq_none (by rw [length_encode]; exact hi)]

theorem eq_iff_sameButChecksum_of_decode {bytes bytes' : List UInt8} {m m' : Message}
    (hdecode : decode bytes = .ok m) (hdecode' : decode bytes' = .ok m')
    : m = m' ↔ SameButChecksum bytes bytes' := by
  constructor
  . rintro rfl i hi h2 h3
    rw [← getElem?_encode_of_decode hdecode hi h2 h3, getElem?_encode_of_decode hdecode' hi h2 h3]
  . intro hsame
    have hread := decode_encode_of_decode hdecode
    rw [encode_eq_encode_of_sameButChecksum hdecode hdecode' hsame, decode_encode_of_decode hdecode'] at hread
    injection hread with heq
    exact heq.symm

theorem decode_encode_and_encode_of_decode
    : (∀ m : Message,
        decode m.encode = .ok { m with lifetimeLog2 := m.lifetimeLog2 &&& lifetimeMask }) ∧
      (∀ lifetimeLog2 echoed requested,
        decode (setCookie lifetimeLog2 echoed requested).encode
          =
        .ok (setCookie lifetimeLog2 echoed requested)) ∧
      (∀ echoed, decode (notExpected echoed).encode = .ok (notExpected echoed)) ∧
      (∀ bytes m, decode bytes = .ok m → m.encode = clearChecksum (bytes.take wireLength)) ∧
      (∀ bytes bytes' m m', decode bytes = .ok m → decode bytes' = .ok m' →
        (m = m' ↔ SameButChecksum bytes bytes')) := by
  refine ⟨decode_encode, decode_encode_setCookie, decode_encode_notExpected, ?_, ?_⟩
  . intro bytes m hdecode
    exact encode_eq_clearChecksum_of_decode hdecode
  . intro bytes bytes' m m' hdecode hdecode'
    exact eq_iff_sameButChecksum_of_decode hdecode hdecode'

def longAnswer : List UInt8 :=
  [0x42, 1, 0xde, 0xad, 8, 0, 0, 0] ++ List.replicate 12 3 ++ List.replicate 12 4
    ++ [0, 0, 0, 0xff, 0, 0, 0, 0]

theorem decode_encode_and_encode_of_decode_longAnswer
    : ∃ m, decode longAnswer = .ok m ∧ decode m.encode = .ok m ∧
        m.encode = clearChecksum (longAnswer.take wireLength) ∧
        SameButChecksum longAnswer m.encode := by
  obtain ⟨hmasked, _, _, hwritten, hsame⟩ := decode_encode_and_encode_of_decode
  have hread : decode longAnswer
      =
    .ok (setCookie 8 ⟨List.replicate 12 3, rfl⟩ ⟨List.replicate 12 4, rfl⟩) := rfl
  have hback := hmasked (setCookie 8 ⟨List.replicate 12 3, rfl⟩ ⟨List.replicate 12 4, rfl⟩)
  exact ⟨_, hread, hback, hwritten _ _ hread, (hsame _ _ _ _ hread hback).1 rfl⟩

end Message

end SourceCookie

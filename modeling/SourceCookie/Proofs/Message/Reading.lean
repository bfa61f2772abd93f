import SourceCookie.Proofs.Message

/-!
Which byte strings are messages, and what is wrong with the others. A string with several faults is refused
for the first of them in a fixed order, and nothing but the 32 bytes less the checksum is looked at. The
reading is also given with every access as it is made, to show that none of them can go wrong.
-/

namespace SourceCookie

namespace Message

def SetsReserved (bytes : List UInt8) : Prop :=
  (∃ b, bytes[4]? = some b ∧ 16 ≤ b.toNat) ∨ ∃ i b, 5 ≤ i ∧ i < 8 ∧ bytes[i]? = some b ∧ b ≠ 0

/-- What a byte string is read as. The faults come in the order in which they are looked for, each with
what was found in order before it. -/
inductive Reading (bytes : List UInt8) : Except DecodeError Message → Prop where
  | truncated (short : bytes.length < 32) : Reading bytes (.error (.truncated bytes.length))
  | wrongType {b : UInt8} (long : 32 ≤ bytes.length) (type : bytes[0]? = some b) (wrong : b ≠ 0x42)
    : Reading bytes (.error (.wrongType b))
  | unknownCode {b : UInt8} (long : 32 ≤ bytes.length) (type : bytes[0]? = some 0x42)
    (code : bytes[1]? = some b) (unknown : b ≠ 1 ∧ b ≠ 2)
    : Reading bytes (.error (.unknownCode b))
  | reservedBits (long : 32 ≤ bytes.length) (type : bytes[0]? = some 0x42)
    (code : bytes[1]? = some 1 ∨ bytes[1]? = some 2) (reserved : SetsReserved bytes)
    : Reading bytes (.error .reservedBits)
  | message {m : Message} (long : 32 ≤ bytes.length) (type : bytes[0]? = some 0x42)
    (code : bytes[1]? = some m.code.toByte) (clear : ¬ SetsReserved bytes)
    (lifetime : bytes[4]? = some m.lifetimeLog2) (echoed : m.echoed.bytes = (bytes.drop 8).take 12)
    (requested : m.requested.bytes = (bytes.drop 20).take 12)
    : Reading bytes (.ok m)

section Accesses

inductive AccessFault where
  | outOfBounds (place : Nat)
  | shortCookie (start : Nat)
  deriving DecidableEq

def tryByte (bytes : List UInt8) (i : Nat) : Except AccessFault UInt8 :=
  match bytes[i]? with
  | some b => .ok b
  | none => .error (.outOfBounds i)

def trySlice (bytes : List UInt8) (start stop : Nat) : Except AccessFault (List UInt8) :=
  if stop ≤ bytes.length then .ok ((bytes.take stop).drop start) else .error (.outOfBounds stop)

def tryCookie (bytes : List UInt8) (start stop : Nat) : Except AccessFault Cookie := do
  match Cookie.ofBytes? (← trySlice bytes start stop) with
  | some cookie => return cookie
  | none => .error (.shortCookie start)

def tryDecode (bytes : List UInt8) : Except AccessFault (Except DecodeError Message) := do
  if bytes.length < wireLength then
    return .error (.truncated bytes.length)
  let type ← tryByte bytes 0
  if type ≠ wireType then
    return .error (.wrongType type)
  let codeByte ← tryByte bytes 1
  match Code.ofByte? codeByte with
  | none => return .error (.unknownCode codeByte)
  | some code =>
    let lifetime ← tryByte bytes 4
    let zeros ← trySlice bytes 5 8
    if lifetime &&& ~~~lifetimeMask ≠ 0 ∨ ∃ b ∈ zeros, b ≠ 0 then
      return .error .reservedBits
    let echoed ← tryCookie bytes 8 20
    let requested ← tryCookie bytes 20 32
    return .ok ⟨code, lifetime &&& lifetimeMask, echoed, requested⟩

end Accesses

variable {bytes bytes' : List UInt8} {m : Message} {r : Except DecodeError Message}

section Bytes

theorem and_not_lifetimeMask_eq_zero_iff {b : UInt8} : b &&& ~~~lifetimeMask = 0 ↔ b.toNat < 16 := by
  refine ⟨toNat_lt_of_reserved, fun hlt => ?_⟩
  have hall : ∀ i : Fin 256, i.val < 16 → UInt8.ofNat i &&& ~~~lifetimeMask = 0 := by decide +kernel
  have hb := hall ⟨b.toNat, b.toNat_lt⟩ hlt
  rw [UInt8.ofNat_toNat] at hb
  exact hb

theorem setsReserved_iff (h : 31 < bytes.length)
    : SetsReserved bytes
        ↔
      bytes[4] &&& ~~~lifetimeMask ≠ 0 ∨ bytes[5] ≠ 0 ∨ bytes[6] ≠ 0 ∨ bytes[7] ≠ 0 := by
  unfold SetsReserved
  rw [ne_eq, and_not_lifetimeMask_eq_zero_iff, Nat.not_lt]
  constructor
  . rintro (⟨b, hb, hhigh⟩ | ⟨i, b, hfrom, hto, hb, hne⟩)
    . obtain ⟨_, rfl⟩ := List.getElem?_eq_some_iff.1 hb
      exact Or.inl hhigh
    . obtain ⟨_, rfl⟩ := List.getElem?_eq_some_iff.1 hb
      obtain rfl | rfl | rfl : i = 5 ∨ i = 6 ∨ i = 7 := by omega
      . exact Or.inr (Or.inl hne)
      . exact Or.inr (Or.inr (Or.inl hne))
      . exact Or.inr (Or.inr (Or.inr hne))
  . rintro (hhigh | h5 | h6 | h7)
    . exact Or.inl ⟨bytes[4], List.getElem?_eq_getElem _, hhigh⟩
    . exact Or.inr ⟨5, bytes[5], by decide, by decide, List.getElem?_eq_getElem _, h5⟩
    . exact Or.inr ⟨6, bytes[6], by decide, by decide, List.getElem?_eq_getElem _, h6⟩
    . exact Or.inr ⟨7, bytes[7], by decide, by decide, List.getElem?_eq_getElem _, h7⟩

theorem ofByte?_eq_none_iff {b : UInt8} : Code.ofByte? b = none ↔ b ≠ 1 ∧ b ≠ 2 := by
  unfold Code.ofByte?
  split
  . next h => simp [h]
  . next h => split <;> simp_all

theorem drop_take_eq (bytes : List UInt8) {start stop : Nat} (h : stop = start + 12)
    : (bytes.take stop).drop start = (bytes.drop start).take 12 := by
  rw [List.drop_take, h, Nat.add_sub_cancel_left]

end Bytes

section Decoding

theorem reading_decode (bytes : List UInt8) : Reading bytes (decode bytes) := by
  unfold decode
  split
  . next hshort => exact .truncated hshort
  . next hlong =>
    have hlength : 32 ≤ bytes.length := Nat.le_of_not_lt hlong
    simp only
    split
    . next htype => exact .wrongType hlength (List.getElem?_eq_getElem _) htype
    . next htype =>
      rw [ne_eq, Decidable.not_not] at htype
      have hfirst : bytes[0]? = some 0x42 := by
        rw [List.getElem?_eq_getElem (by omega), htype]
        rfl
      split
      . next hcode =>
        exact .unknownCode hlength hfirst (List.getElem?_eq_getElem _) (ofByte?_eq_none_iff.1 hcode)
      . next code hcode =>
        have hsecond : bytes[1]? = some code.toByte := by
          rw [List.getElem?_eq_getElem (by omega), Code.eq_toByte_of_ofByte? hcode]
        split
        . next hreserved =>
          refine .reservedBits hlength hfirst ?_ ((setsReserved_iff hlength).2 hreserved)
          cases code with
          | setCookie => exact Or.inl hsecond
          | notExpected => exact Or.inr hsecond
        . next hclear =>
          exact .message hlength hfirst hsecond (mt (setsReserved_iff hlength).1 hclear)
            (List.getElem?_eq_getElem _) rfl rfl

theorem decode_of_long (h : 31 < bytes.length)
    : decode bytes
        =
      if bytes[0] ≠ wireType then .error (.wrongType bytes[0])
      else match Code.ofByte? bytes[1] with
        | none => .error (.unknownCode bytes[1])
        | some code =>
          if bytes[4] &&& ~~~lifetimeMask ≠ 0 ∨ bytes[5] ≠ 0 ∨ bytes[6] ≠ 0 ∨ bytes[7] ≠ 0 then
            .error .reservedBits
          else
            .ok ⟨code, bytes[4], .ofSlice bytes 8 (by omega), .ofSlice bytes 20 (by omega)⟩ :=
  dif_neg (Nat.not_lt.2 h)

theorem Reading.decode_eq (h : Reading bytes r) : decode bytes = r := by
  -- what a case knows of the bytes decides every test before its answer
  cases h with
  | truncated short => exact dif_pos short
  | wrongType long type wrong =>
    obtain ⟨_, rfl⟩ := List.getElem?_eq_some_iff.1 type
    have hwrong : bytes[0] ≠ wireType := wrong
    rw [decode_of_long long, if_pos hwrong]
  | unknownCode long type code unknown =>
    obtain ⟨_, (htype : bytes[0] = wireType)⟩ := List.getElem?_eq_some_iff.1 type
    obtain ⟨_, rfl⟩ := List.getElem?_eq_some_iff.1 code
    rw [decode_of_long long, if_neg (not_not_intro htype), ofByte?_eq_none_iff.2 unknown]
  | reservedBits long type code reserved =>
    obtain ⟨_, (htype : bytes[0] = wireType)⟩ := List.getElem?_eq_some_iff.1 type
    obtain ⟨known, hcode⟩ : ∃ known, Code.ofByte? bytes[1] = some known := by
      rcases code with code | code
      . obtain ⟨_, hbyte⟩ := List.getElem?_eq_some_iff.1 code
        exact ⟨.setCookie, by rw [hbyte]; rfl⟩
      . obtain ⟨_, hbyte⟩ := List.getElem?_eq_some_iff.1 code
        exact ⟨.notExpected, by rw [hbyte]; rfl⟩
    rw [decode_of_long long, if_neg (not_not_intro htype), hcode]
    exact if_pos ((setsReserved_iff long).1 reserved)
  | @message m long type code clear lifetime echoed requested =>
    obtain ⟨_, (htype : bytes[0] = wireType)⟩ := List.getElem?_eq_some_iff.1 type
    obtain ⟨_, hbyte⟩ := List.getElem?_eq_some_iff.1 code
    obtain ⟨_, hlifetime⟩ := List.getElem?_eq_some_iff.1 lifetime
    have hcode : Code.ofByte? bytes[1] = some m.code := by rw [hbyte, Code.ofByte?_toByte]
    rw [decode_of_long long, if_neg (not_not_intro htype), hcode]
    have hechoed : .ofSlice bytes 8 (by omega) = m.echoed := Cookie.ext echoed.symm
    have hrequested : .ofSlice bytes 20 (by omega) = m.requested := Cookie.ext requested.symm
    rw [hechoed, hrequested]
    show (if _ then _ else _) = _
    rw [if_neg (mt (setsReserved_iff long).2 clear), hlifetime]

theorem decode_eq_iff_reading : decode bytes = r ↔ Reading bytes r := by
  constructor
  . rintro rfl
    exact reading_decode bytes
  . exact Reading.decode_eq

end Decoding

section Accesses

theorem tryByte_eq {i : Nat} (h : i < bytes.length) : tryByte bytes i = .ok bytes[i] := by
  unfold tryByte
  rw [List.getElem?_eq_getElem h]

theorem trySlice_eq {start stop : Nat} (h : stop ≤ bytes.length)
    : trySlice bytes start stop = .ok ((bytes.take stop).drop start) :=
  if_pos h

theorem tryCookie_eq {start stop : Nat} (hstop : stop = start + 12) (h : start + 12 ≤ bytes.length)
    : tryCookie bytes start stop = .ok (.ofSlice bytes start h) := by
  have hslice : ((bytes.take stop).drop start).length = 12 := by simp; omega
  have hcookie : Cookie.ofBytes? ((bytes.take stop).drop start) = some (.ofSlice bytes start h) := by
    unfold Cookie.ofBytes?
    rw [dif_pos (Nat.le_of_eq hslice.symm : Cookie.size ≤ _), Option.some_inj]
    apply Cookie.ext
    show ((bytes.take stop).drop start).take 12 = _
    rw [drop_take_eq bytes hstop, List.take_take]
    rfl
  unfold tryCookie
  rw [trySlice_eq (by omega)]
  show (match Cookie.ofBytes? _ with | some cookie => _ | none => _) = _
  rw [hcookie]
  rfl

theorem exists_mem_slice_iff (h : 31 < bytes.length)
    : (∃ b ∈ (bytes.take 8).drop 5, b ≠ 0) ↔ bytes[5] ≠ 0 ∨ bytes[6] ≠ 0 ∨ bytes[7] ≠ 0 := by
  have htake : bytes.take 8
      =
    [bytes[0], bytes[1], bytes[2], bytes[3], bytes[4], bytes[5], bytes[6], bytes[7]] := by
    simp (disch := omega) [List.take_add_one]
  rw [htake]
  simp

theorem tryDecode_eq (bytes : List UInt8) : tryDecode bytes = .ok (decode bytes) := by
  unfold tryDecode
  split
  . next hshort => rw [(Reading.truncated hshort).decode_eq]; rfl
  . next hlong =>
    have hlength : 32 ≤ bytes.length := Nat.le_of_not_lt hlong
    -- each access stays within the 32 bytes that are there
    rw [decode_of_long hlength, tryByte_eq (by omega), tryByte_eq (by omega), tryByte_eq (by omega),
      trySlice_eq (by omega), tryCookie_eq rfl (by omega), tryCookie_eq rfl (by omega)]
    simp only [bind, Except.bind, pure, Except.pure, exists_mem_slice_iff hlength]
    by_cases htype : bytes[0] = wireType
    . rw [if_neg (not_not_intro htype), if_neg (not_not_intro htype)]
      cases Code.ofByte? bytes[1] with
      | none => rfl
      | some code =>
        simp only
        split
        . rfl
        . next hclear =>
          have hlifetime : bytes[4] &&& ~~~lifetimeMask = 0 :=
            Decidable.not_not.1 (not_or.1 hclear).1
          rw [and_lifetimeMask_of_reserved hlifetime]
    . rw [if_pos htype, if_pos htype]

end Accesses

section Ignored

theorem SameButChecksum.symm (h : SameButChecksum bytes bytes') : SameButChecksum bytes' bytes :=
  fun i hi h2 h3 => (h i hi h2 h3).symm

theorem SameButChecksum.setsReserved (h : SameButChecksum bytes bytes') (hsets : SetsReserved bytes)
    : SetsReserved bytes' := by
  rcases hsets with ⟨b, hb, hhigh⟩ | ⟨i, b, hfrom, hto, hb, hne⟩
  . rw [h 4 (by decide) (by decide) (by decide)] at hb
    exact Or.inl ⟨b, hb, hhigh⟩
  . rw [h i (by simp only [wireLength]; omega) (by omega) (by omega)] at hb
    exact Or.inr ⟨i, b, hfrom, hto, hb, hne⟩

theorem SameButChecksum.take_drop_eq (h : SameButChecksum bytes bytes') {start : Nat}
    (hfrom : 4 ≤ start) (hto : start + 12 ≤ wireLength)
    : (bytes.drop start).take 12 = (bytes'.drop start).take 12 := by
  apply List.ext_getElem?
  intro i
  rw [List.getElem?_take, List.getElem?_take]
  split
  . next hi =>
    rw [List.getElem?_drop, List.getElem?_drop]
    exact h (start + i) (by omega) (by omega) (by omega)
  . rfl

theorem Reading.of_same (h : Reading bytes r) (hsame : SameButChecksum bytes bytes')
    (hlength : min bytes.length wireLength = min bytes'.length wireLength)
    : Reading bytes' r := by
  simp only [wireLength] at hlength
  have h0 := hsame 0 (by decide) (by decide) (by decide)
  have h1 := hsame 1 (by decide) (by decide) (by decide)
  cases h with
  | truncated short =>
    rw [show bytes.length = bytes'.length by omega] at short ⊢
    exact .truncated short
  | wrongType long type wrong => exact .wrongType (by omega) (h0 ▸ type) wrong
  | unknownCode long type code unknown =>
    exact .unknownCode (by omega) (h0 ▸ type) (h1 ▸ code) unknown
  | reservedBits long type code reserved =>
    exact .reservedBits (by omega) (h0 ▸ type) (h1 ▸ code) (hsame.setsReserved reserved)
  | message long type code clear lifetime echoed requested =>
    have h4 := hsame 4 (by decide) (by decide) (by decide)
    rw [hsame.take_drop_eq (by decide) (by decide)] at echoed requested
    exact .message (by omega) (h0 ▸ type) (h1 ▸ code) (mt hsame.symm.setsReserved clear) (h4 ▸ lifetime)
      echoed requested

end Ignored

theorem decode_eq_iff_reading_and_tryDecode_eq (bytes : List UInt8)
    : (∀ r, decode bytes = r ↔ Reading bytes r) ∧
      tryDecode bytes = .ok (decode bytes) ∧
      ∀ bytes', min bytes.length wireLength = min bytes'.length wireLength →
        SameButChecksum bytes bytes' → decode bytes = decode bytes' := by
  refine ⟨fun r => decode_eq_iff_reading, tryDecode_eq bytes, fun bytes' hlength hsame => ?_⟩
  exact ((reading_decode bytes).of_same hsame hlength).decode_eq.symm

def faulty (high low : UInt8) (rest : List UInt8) : List UInt8 :=
  [0x42, 7, high, low, 0x18, 0, 9, 0] ++ List.replicate 24 5 ++ rest

theorem decode_eq_iff_reading_and_tryDecode_eq_faulty
    : decode (faulty 1 2 [3, 4]) = .error (.unknownCode 7) ∧
      tryDecode (faulty 1 2 [3, 4]) = .ok (.error (.unknownCode 7)) ∧
      SameButChecksum (faulty 1 2 [3, 4]) (faulty 0 0 []) ∧
      decode (faulty 0 0 []) = .error (.unknownCode 7) := by
  obtain ⟨hreading, haccesses, hignored⟩ := decode_eq_iff_reading_and_tryDecode_eq (faulty 1 2 [3, 4])
  have hread : decode (faulty 1 2 [3, 4]) = .error (.unknownCode 7) :=
    (hreading _).2 (.unknownCode (by decide) rfl rfl (by decide))
  have hsame : SameButChecksum (faulty 1 2 [3, 4]) (faulty 0 0 []) := by
    unfold SameButChecksum wireLength
    decide
  rw [hread] at haccesses hignored
  exact ⟨hread, haccesses, hsame, (hignored (faulty 0 0 []) rfl hsame).symm⟩

end Message

end SourceCookie

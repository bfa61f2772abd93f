import SourceCookie.Proofs.Engine

/-!
The keys of an engine over a run of rotations. The key of an epoch is the previous one of the next epoch
and gone after that, so a cookie is good for its own epoch and the next one; later it verifies only where
a later key gives the same cookie.
-/

namespace SourceCookie

namespace Engine

section Check

variable {e : Engine} {cookie : Cookie} {peer : Ipv6}

theorem check_eq_current_iff : e.check cookie peer = .current ↔ cookie = .compute e.current peer := by
  unfold check
  grind

theorem check_eq_previous_iff
    : e.check cookie peer = .previous
        ↔
      cookie ≠ .compute e.current peer ∧ cookie = .compute e.previous peer := by
  unfold check
  grind

theorem check_eq_invalid_iff
    : e.check cookie peer = .invalid
        ↔
      cookie ≠ .compute e.current peer ∧ cookie ≠ .compute e.previous peer := by
  unfold check
  grind

theorem verify_iff
    : e.verify cookie peer = true
        ↔
      cookie = .compute e.current peer ∨ cookie = .compute e.previous peer := by
  have hvalid : e.verify cookie peer = true ↔ e.check cookie peer ≠ .invalid := by
    unfold verify Verification.isValid
    cases e.check cookie peer <;> simp
  rw [hvalid, ne_eq, check_eq_invalid_iff, Decidable.not_and_iff_not_or_not, Decidable.not_not,
    Decidable.not_not]

end Check

def rotateAll (e : Engine) (drawn : List SecretKey) : Engine := drawn.foldl rotate e

def inEpoch (e : Engine) (drawn : List SecretKey) (n : Nat) : Engine := e.rotateAll (drawn.take n)

variable {e : Engine} {drawn : List SecretKey} {n : Nat}

theorem inEpoch_succ (h : n < drawn.length)
    : e.inEpoch drawn (n + 1) = (e.inEpoch drawn n).rotate drawn[n] := by
  unfold inEpoch rotateAll
  rw [List.take_succ_eq_append_getElem h, List.foldl_append]
  rfl

theorem epoch_inEpoch (h : n ≤ drawn.length) : (e.inEpoch drawn n).epoch = e.epoch + n := by
  induction n with
  | zero => rfl
  | succ n ih =>
    rw [inEpoch_succ h]
    show (e.inEpoch drawn n).epoch + 1 = _
    rw [ih (Nat.le_of_succ_le h), Nat.add_assoc]

theorem toNat_ofNat_epoch_inEpoch (hstart : e.epoch = 0) (h : n ≤ drawn.length)
    (hlength : drawn.length < UInt64.size)
    : (UInt64.ofNat (e.inEpoch drawn n).epoch).toNat = n := by
  rw [epoch_inEpoch h, hstart, Nat.zero_add, UInt64.toNat_ofNat']
  exact Nat.mod_eq_of_lt (Nat.lt_of_le_of_lt h hlength)

theorem current_inEpoch_succ (h : n < drawn.length) : (e.inEpoch drawn (n + 1)).current = drawn[n] := by
  rw [inEpoch_succ h]
  rfl

theorem previous_inEpoch_succ (h : n < drawn.length)
    : (e.inEpoch drawn (n + 1)).previous = (e.inEpoch drawn n).current := by
  rw [inEpoch_succ h]
  rfl

theorem current_ne_previous_inEpoch (hstart : e.current ≠ e.previous)
    (hfresh : ∀ n (h : n < drawn.length), drawn[n] ≠ (e.inEpoch drawn n).current)
    (h : n ≤ drawn.length)
    : (e.inEpoch drawn n).current ≠ (e.inEpoch drawn n).previous := by
  cases n with
  | zero => exact hstart
  | succ n =>
    rw [current_inEpoch_succ h, previous_inEpoch_succ h]
    exact hfresh n h

theorem eq_of_ofKeys? {current previous : SecretKey} (h : ofKeys? current previous = some e)
    : current ≠ previous ∧ e = ⟨current, previous, 0⟩ := by
  unfold ofKeys? at h
  split at h
  . contradiction
  . next hne =>
    injection h with he
    exact ⟨hne, he.symm⟩

theorem keys_inEpoch_and_verify_iff {current previous : SecretKey}
    (hmade : ofKeys? current previous = some e)
    (hfresh : ∀ n (h : n < drawn.length), drawn[n] ≠ (e.inEpoch drawn n).current)
    : ofKeys? current current = none ∧
      (e.inEpoch drawn 0).current = current ∧ (e.inEpoch drawn 0).previous = previous ∧
      (∀ n, n ≤ drawn.length →
        (e.inEpoch drawn n).epoch = n ∧
        (drawn.length < UInt64.size → (UInt64.ofNat (e.inEpoch drawn n).epoch).toNat = n) ∧
        (e.inEpoch drawn n).current ≠ (e.inEpoch drawn n).previous ∧
        ∀ cookie peer,
          ((e.inEpoch drawn n).check cookie peer = .current
            ↔
          cookie = .compute (e.inEpoch drawn n).current peer) ∧
          ((e.inEpoch drawn n).check cookie peer = .previous
            ↔
          cookie ≠ .compute (e.inEpoch drawn n).current peer ∧
            cookie = .compute (e.inEpoch drawn n).previous peer) ∧
          ((e.inEpoch drawn n).check cookie peer = .invalid
            ↔
          cookie ≠ .compute (e.inEpoch drawn n).current peer ∧
            cookie ≠ .compute (e.inEpoch drawn n).previous peer)) ∧
      (∀ n (h : n < drawn.length),
        (e.inEpoch drawn (n + 1)).current = drawn[n] ∧
        (e.inEpoch drawn (n + 1)).previous = (e.inEpoch drawn n).current) ∧
      (∀ n, n ≤ drawn.length → ∀ peer,
        (e.inEpoch drawn n).verify ((e.inEpoch drawn n).currentCookie peer) peer = true ∧
        (n < drawn.length →
          (e.inEpoch drawn (n + 1)).verify ((e.inEpoch drawn n).currentCookie peer) peer = true) ∧
        ∀ k, n ≤ k → k < drawn.length →
          ((e.inEpoch drawn (k + 1)).verify ((e.inEpoch drawn n).currentCookie peer) peer = true
            ↔
          (e.inEpoch drawn n).currentCookie peer = .compute (e.inEpoch drawn (k + 1)).current peer ∨
            (e.inEpoch drawn n).currentCookie peer = .compute (e.inEpoch drawn k).current peer)) := by
  obtain ⟨hne, he⟩ := eq_of_ofKeys? hmade
  have hstart : e.current ≠ e.previous := by
    rw [he]
    exact hne
  refine ⟨if_pos rfl, ?_, ?_, ?_, ?_, ?_⟩
  . rw [he]
    rfl
  . rw [he]
    rfl
  . intro n h
    have hzero : e.epoch = 0 := by rw [he]
    refine ⟨?_, toNat_ofNat_epoch_inEpoch hzero h, current_ne_previous_inEpoch hstart hfresh h, ?_⟩
    . rw [epoch_inEpoch h, hzero, Nat.zero_add]
    . intro cookie peer
      exact ⟨check_eq_current_iff, check_eq_previous_iff, check_eq_invalid_iff⟩
  . intro n h
    exact ⟨current_inEpoch_succ h, previous_inEpoch_succ h⟩
  . intro n _ peer
    refine ⟨?_, ?_, ?_⟩
    . rw [verify_iff]
      exact Or.inl rfl
    . intro h
      rw [inEpoch_succ h]
      apply verify_rotate_currentCookie
    . intro k _ h
      rw [verify_iff, previous_inEpoch_succ h]

def recurringKeys : List SecretKey := [.uniform 3, .uniform 1]

theorem keys_inEpoch_and_verify_iff_recurringKeys
    : ofKeys? (.uniform 1) (.uniform 2) = some ⟨.uniform 1, .uniform 2, 0⟩ ∧
      (∀ n (h : n < recurringKeys.length),
        recurringKeys[n] ≠ (inEpoch ⟨.uniform 1, .uniform 2, 0⟩ recurringKeys n).current) ∧
      (inEpoch ⟨.uniform 1, .uniform 2, 0⟩ recurringKeys 2).epoch = 2 ∧
      (inEpoch ⟨.uniform 1, .uniform 2, 0⟩ recurringKeys 2).previous = .uniform 3 ∧
      ∀ peer,
        (inEpoch ⟨.uniform 1, .uniform 2, 0⟩ recurringKeys 2).verify (.compute (.uniform 1) peer) peer
          =
        true := by
  have hmade : ofKeys? (.uniform 1) (.uniform 2) = some ⟨.uniform 1, .uniform 2, 0⟩ := by decide
  have hfresh : ∀ n (h : n < recurringKeys.length),
      recurringKeys[n] ≠ (inEpoch ⟨.uniform 1, .uniform 2, 0⟩ recurringKeys n).current := by
    decide
  obtain ⟨_, _, _, hepoch, hkeys, hverify⟩ := keys_inEpoch_and_verify_iff hmade hfresh
  refine ⟨hmade, hfresh, (hepoch 2 (by decide)).1, ?_, ?_⟩
  . rw [(hkeys 1 (by decide)).2, (hkeys 0 (by decide)).1]
    rfl
  . intro peer
    exact ((hverify 0 (by decide) peer).2.2 1 (by decide) (by decide)).2 (Or.inl rfl)

end Engine

end SourceCookie

import SourceCookie.Engine

/-!
What rotations do to the cookies of an engine: the epoch tells how far two engines of one line are apart,
and a cookie stays good for one rotation.
-/

namespace SourceCookie

def SecretKey.uniform (b : UInt8) : SecretKey := ⟨⟨List.replicate keyLength b, by simp⟩⟩

namespace Engine

instance : Inhabited Engine := ⟨⟨default⟩, ⟨⟨List.replicate keyLength 1, by simp⟩⟩, 0⟩

variable {e e' e'' : Engine} {peer : Ipv6}

theorem verify_rotate_currentCookie (e : Engine) (drawn : SecretKey) (peer : Ipv6)
    : (e.rotate drawn).verify (e.currentCookie peer) peer = true := by
  unfold verify check rotate currentCookie
  split
  . rfl
  . simp [Verification.isValid]

inductive Rotated (e : Engine) : Engine → Prop where
  | refl : Rotated e e
  | rotate {e' : Engine} (h : Rotated e e') (drawn : SecretKey) : Rotated e (e'.rotate drawn)

namespace Rotated

theorem trans (h : Rotated e e') (h' : Rotated e' e'') : Rotated e e'' := by
  induction h' with
  | refl => exact h
  | rotate _ drawn ih => exact ih.rotate drawn

theorem epoch_le (h : Rotated e e') : e.epoch ≤ e'.epoch := by
  induction h with
  | refl => exact Nat.le_refl _
  | rotate _ drawn ih => exact Nat.le_succ_of_le ih

theorem eq_of_epoch_eq (h : Rotated e e') (hepoch : e'.epoch = e.epoch) : e' = e := by
  cases h with
  | refl => rfl
  | rotate h drawn =>
    have hle := h.epoch_le
    simp only [Engine.rotate] at hepoch
    omega

theorem previous_eq (h : Rotated e e') (hepoch : e'.epoch = e.epoch + 1) : e'.previous = e.current := by
  cases h with
  | refl => omega
  | rotate h drawn =>
    simp only [Engine.rotate, Nat.add_right_cancel_iff] at hepoch ⊢
    rw [h.eq_of_epoch_eq hepoch]

theorem add_two_le_of_check_eq_invalid (h : Rotated e e')
    (hinvalid : e'.check (e.currentCookie peer) peer = .invalid)
    : e.epoch + 2 ≤ e'.epoch := by
  have hle := h.epoch_le
  unfold check currentCookie at hinvalid
  -- in its own epoch the cookie is current, and in the next one it is the previous one
  by_cases hsame : e'.epoch = e.epoch
  . rw [h.eq_of_epoch_eq hsame] at hinvalid
    simp at hinvalid
  . by_cases hnext : e'.epoch = e.epoch + 1
    . rw [h.previous_eq hnext] at hinvalid
      split at hinvalid
      . simp at hinvalid
      . simp at hinvalid
    . omega

end Rotated

end Engine

end SourceCookie

import SourceCookie.Node.Prepare
import SourceCookie.Proofs.Renewal.Table

/-!
Datagrams that come at one time. The first of them may move an entry on; what it leaves behind rests, and
the others find it as it is. Only with no time at all for an answer does an entry that has just asked for a
new cookie give up at once.
-/

namespace SourceCookie

namespace Entry

variable {e e' : Entry} {now : Timestamp} {timing : Timing} {t : Transition}

def burst (now : Timestamp) (timing : Timing) : Nat → Entry → List SendDecision × Entry
  | 0, e => ([], e)
  | n + 1, e =>
    let (transition, e) := e.evaluate now timing
    let (decisions, last) := burst now timing n e
    (⟨transition, e.outbound⟩ :: decisions, last)

def Rests (e : Entry) (now : Timestamp) (timing : Timing) : Prop :=
  e.evaluate now timing = (.unchanged, e)

structure Armed (e : Entry) (now : Nat) : Prop where
  ends : e.lifetime ≠ .infinite
  due : e.mtime.toNat + 2 ^ e.lifetime.toNat = now
  enabled : e.disableCookies = false
  awaiting : e.expectingSetCookie = true

section Rows

variable {n : Nat}

theorem Row.armed (h : e.Row n timing .renewalArmed e') : e'.Armed n := by
  cases h with
  | due enabled band _ refreshed =>
    have hends := (add_le_of_exactBand_ne (by rw [band]; nofun)).1
    exact ⟨hends, refreshed, enabled, rfl⟩
  | overdue enabled band _ refreshed =>
    have hends := (add_le_of_exactBand_ne (by rw [band]; nofun)).1
    exact ⟨hends, refreshed, enabled, rfl⟩

theorem Armed.row_unchanged (h : e.Armed n) (hrecover : 0 < timing.recover.toNat)
    : e.Row n timing .unchanged e := by
  refine .awaited h.enabled ?_ h.awaiting
  rw [exactBand_of_le h.ends (Nat.le_of_eq h.due), h.due, if_pos (Nat.lt_add_of_pos_right hrecover)]

theorem Armed.row_fallbackEntered (h : e.Armed now.toNat) (hrecover : timing.recover.toNat = 0)
    (hfallback : timing.fallbackLog2 < Lifetime.infiniteLog2)
    : e.Row now.toNat timing .fallbackEntered
        { e with mtime := now, lifetime := .ofByte timing.fallbackLog2, disableCookies := true } := by
  refine .unanswered h.enabled ?_ h.awaiting rfl (Lifetime.toNat_ofByte_of_lt hfallback)
  rw [exactBand_of_le h.ends (Nat.le_of_eq h.due), h.due, hrecover, Nat.add_zero, if_neg (Nat.lt_irrefl _)]

theorem exactBand_of_refreshed {r : Nat} (h : e.mtime.toNat = n) : e.exactBand n r = .stillValid := by
  apply exactBand_of_lt
  rw [h]
  exact Nat.lt_add_of_pos_right (Nat.two_pow_pos _)

theorem Row.row_unchanged (h : e.Row n timing t e')
    (hwaits : ¬ (timing.recover.toNat = 0 ∧ t = .renewalArmed))
    : e'.Row n timing .unchanged e' := by
  cases h with
  | inFallback disabled band => exact .inFallback disabled band
  | valid enabled band => exact .valid enabled band
  | awaited enabled band awaiting => exact .awaited enabled band awaiting
  | fallbackOver _ _ refreshed => exact .valid rfl (exactBand_of_refreshed refreshed)
  | unanswered _ _ _ refreshed => exact .inFallback rfl (exactBand_of_refreshed refreshed)
  | due enabled band idle refreshed =>
    have hrow : e.Row n timing .renewalArmed _ := .due enabled band idle refreshed
    exact hrow.armed.row_unchanged (Nat.pos_of_ne_zero fun hzero => hwaits ⟨hzero, rfl⟩)
  | overdue enabled band idle refreshed =>
    have hrow : e.Row n timing .renewalArmed _ := .overdue enabled band idle refreshed
    exact hrow.armed.row_unchanged (Nat.pos_of_ne_zero fun hzero => hwaits ⟨hzero, rfl⟩)

end Rows

theorem Rests.burst_eq (h : e.Rests now timing) (n : Nat)
    : e.burst now timing n = (List.replicate n ⟨.unchanged, e.outbound⟩, e) := by
  induction n with
  | zero => rfl
  | succ n ih =>
    unfold burst
    rw [h]
    simp only [ih]
    rfl

section Instant

variable (hfallback : timing.fallbackLog2 < Lifetime.infiniteLog2)
  (hretry : timing.retryLog2 < Lifetime.infiniteLog2) (hnow : now.toNat < Timestamp.last)
include hfallback hretry hnow

theorem rests_evaluate (hwaits : ¬ (timing.recover.toNat = 0 ∧ (e.evaluate now timing).1 = .renewalArmed))
    : (e.evaluate now timing).2.Rests now timing := by
  have hrow := (evaluation e now timing).row hnow hfallback hretry
  exact (hrow.row_unchanged hwaits).evaluate_eq hnow hfallback hretry

theorem evaluate_of_armed (hrecover : timing.recover.toNat = 0)
    (harmed : (e.evaluate now timing).1 = .renewalArmed)
    : ((e.evaluate now timing).2.evaluate now timing).1 = .fallbackEntered := by
  have hrow := (evaluation e now timing).row hnow hfallback hretry
  rw [harmed] at hrow
  rw [(hrow.armed.row_fallbackEntered hrecover hfallback).evaluate_eq hnow hfallback hretry]

theorem rests_evaluate_iff_and_burst_eq (e : Entry)
    : let t := (e.evaluate now timing).1
      let e' := (e.evaluate now timing).2
      (e'.evaluate now timing = (.unchanged, e') ↔ ¬ (timing.recover.toNat = 0 ∧ t = .renewalArmed)) ∧
        (timing.recover.toNat = 0 ∧ t = .renewalArmed → (e'.evaluate now timing).1 = .fallbackEntered) ∧
        (1 ≤ timing.recover.toNat → ∀ n,
          e.burst now timing (n + 1)
            =
          (⟨t, e'.outbound⟩ :: List.replicate n ⟨.unchanged, e'.outbound⟩, e')) := by
  intro t e'
  have hrests := rests_evaluate (e := e) hfallback hretry hnow
  have hgives : timing.recover.toNat = 0 ∧ t = .renewalArmed →
      (e'.evaluate now timing).1 = .fallbackEntered :=
    fun ⟨hrecover, harmed⟩ => evaluate_of_armed hfallback hretry hnow hrecover harmed
  refine ⟨⟨?_, hrests⟩, hgives, ?_⟩
  . intro hunchanged hexception
    have hfell := hgives hexception
    rw [hunchanged] at hfell
    contradiction
  . intro hrecover n
    have hwaits : ¬ (timing.recover.toNat = 0 ∧ t = .renewalArmed) := by omega
    show (⟨t, e'.outbound⟩ :: (e'.burst now timing n).1, (e'.burst now timing n).2) = _
    rw [(hrests hwaits).burst_eq n]

end Instant

theorem rests_evaluate_iff_and_burst_eq_overdue
    : let e : Entry := { Entry.fresh default false .zero 0 with lifetime := ⟨6⟩, expectingSetCookie := false }
      let patient : Timing := ⟨3, 8, 3⟩
      let hasty : Timing := ⟨0, 8, 3⟩
      e.burst 10000 patient 3
          =
        ([⟨.renewalArmed, .withCookie .zero⟩, ⟨.unchanged, .withCookie .zero⟩,
          ⟨.unchanged, .withCookie .zero⟩], { e with mtime := 9936, expectingSetCookie := true }) ∧
        ((e.evaluate 10000 hasty).2.evaluate 10000 hasty).1 = .fallbackEntered := by
  intro e patient hasty
  have hnow : (10000 : Timestamp).toNat < Timestamp.last := by decide
  have hfallback : patient.fallbackLog2 < Lifetime.infiniteLog2 := by decide
  have hfallback' : hasty.fallbackLog2 < Lifetime.infiniteLog2 := by decide
  have hpatient := rests_evaluate_iff_and_burst_eq hfallback (by decide) hnow e
  have hhasty := rests_evaluate_iff_and_burst_eq hfallback' (by decide) hnow e
  exact ⟨hpatient.2.2 (by decide) 2, hhasty.2.1 ⟨by decide, by decide⟩⟩

end Entry

end SourceCookie

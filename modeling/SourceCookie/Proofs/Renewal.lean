import Mathlib.Algebra.Group.Nat.Defs
import SourceCookie.Renewal

/-!
What one evaluation of an entry can do, with the condition under which it does it. Facts about
evaluations are read off this list and not off the definition.
-/

namespace SourceCookie

namespace Lifetime

theorem seconds?_infinite : infinite.seconds? = none := rfl

theorem toNat_ofByte (b : UInt8) : (ofByte b).toNat = b.toNat % 16 := rfl

theorem eq_infinite_iff {l : Lifetime} : l = infinite ↔ l.toNat = 15 := by
  obtain ⟨log2⟩ := l
  simp only [infinite, toNat, mk.injEq, Fin.ext_iff]
  rfl

theorem seconds?_of_ne_infinite {l : Lifetime} (h : l ≠ infinite)
    : l.seconds? = some (2 ^ l.toNat) := by
  unfold seconds?
  rw [if_neg h]
  rfl

theorem seconds?_le_of_ne_infinite {l : Lifetime} (h : l ≠ infinite)
    : ∃ seconds, l.seconds? = some seconds ∧ seconds ≤ 2 ^ 14 := by
  refine ⟨_, seconds?_of_ne_infinite h, ?_⟩
  apply Nat.pow_le_pow_right (by decide)
  have hne := mt eq_infinite_iff.2 h
  have hlt : l.toNat < 16 := l.log2.isLt
  omega

theorem toNat_lt_of_lt_infiniteLog2 {b : UInt8} (h : b < infiniteLog2) : b.toNat < 15 := by
  rw [UInt8.lt_iff_toNat_lt] at h
  exact h

theorem toNat_ofByte_of_lt {b : UInt8} (h : b < infiniteLog2) : (ofByte b).toNat = b.toNat := by
  have hlt := toNat_lt_of_lt_infiniteLog2 h
  rw [toNat_ofByte]
  omega

theorem ofByte_ne_infinite {b : UInt8} (h : b < infiniteLog2) : ofByte b ≠ infinite := by
  rw [ne_eq, eq_infinite_iff, toNat_ofByte_of_lt h]
  exact Nat.ne_of_lt (toNat_lt_of_lt_infiniteLog2 h)

theorem seconds?_ofByte {b : UInt8} (h : b < infiniteLog2)
    : (ofByte b).seconds? = some (2 ^ b.toNat) := by
  rw [seconds?_of_ne_infinite (ofByte_ne_infinite h), toNat_ofByte_of_lt h]

end Lifetime

namespace Entry

variable {e : Entry} {now : Timestamp} {recover : UInt64} {timing : Timing}

def Due (e : Entry) (now : Timestamp) : Prop :=
  ∃ seconds, e.lifetime.seconds? = some seconds ∧ e.mtime.later seconds ≤ now

theorem band_eq_stillValid_iff : e.band now recover = .stillValid ↔ ¬ e.Due now := by
  unfold band Due
  split
  . next hnone => simp [hnone]
  . next seconds hsome =>
    simp only [hsome, Option.some.injEq, exists_eq_left']
    split
    . next hlt => simp [UInt64.not_le.2 hlt]
    . next hge => split <;> simp [UInt64.not_lt.1 hge]

theorem due_of_band_ne (h : e.band now recover ≠ .stillValid) : e.Due now :=
  Classical.not_not.1 (mt band_eq_stillValid_iff.2 h)

theorem Due.mtime_add_le (hdue : e.Due now) (hnow : now.toNat < Timestamp.last)
    : ∃ seconds, e.lifetime.seconds? = some seconds ∧ e.mtime.toNat + seconds ≤ now.toNat := by
  obtain ⟨seconds, hseconds, hle⟩ := hdue
  rw [UInt64.le_iff_toNat_le, Timestamp.toNat_later] at hle
  exact ⟨seconds, hseconds, by omega⟩

theorem not_due_of_infinite {e : Entry} (h : e.lifetime = .infinite) (now : Timestamp)
    : ¬ e.Due now := by
  rintro ⟨seconds, hseconds, _⟩
  rw [h, Lifetime.seconds?_infinite] at hseconds
  simp at hseconds

theorem band_eq_pastRenewTime_iff
    : e.band now recover = .pastRenewTime
        ↔
      ∃ seconds, e.lifetime.seconds? = some seconds ∧
        e.mtime.later seconds ≤ now ∧ (e.mtime.later seconds).later recover.toNat ≤ now := by
  unfold band
  split
  . next hnone => simp [hnone]
  . next seconds hsome =>
    simp only [hsome, Option.some.injEq, exists_eq_left']
    split
    . next hlt => simp [UInt64.not_le.2 hlt]
    . next hge =>
      have hle : e.mtime.later seconds ≤ now := UInt64.not_lt.1 hge
      split
      . next hlt => simp [hlt]
      . next hpast => simp [hle, UInt64.not_lt.1 hpast]

theorem band_eq_pastRenewTime_of_le {seconds : Nat} (hseconds : e.lifetime.seconds? = some seconds)
    (hle : min (e.mtime.toNat + seconds + recover.toNat) Timestamp.last ≤ now.toNat)
    : e.band now recover = .pastRenewTime := by
  rw [band_eq_pastRenewTime_iff]
  refine ⟨seconds, hseconds, ?_, ?_⟩
  . rw [UInt64.le_iff_toNat_le, Timestamp.toNat_later]
    omega
  . rw [UInt64.le_iff_toNat_le, Timestamp.toNat_later, Timestamp.toNat_later]
    omega

theorem due_le_of_band_eq (hnow : now.toNat < Timestamp.last) (past : e.band now recover = .pastRenewTime)
    : ∃ seconds, e.lifetime.seconds? = some seconds ∧
        e.mtime.toNat + seconds + recover.toNat ≤ now.toNat := by
  obtain ⟨seconds, hseconds, _, hpast⟩ := band_eq_pastRenewTime_iff.1 past
  rw [UInt64.le_iff_toNat_le, Timestamp.toNat_later, Timestamp.toNat_later] at hpast
  exact ⟨seconds, hseconds, by omega⟩

inductive Evaluation (e : Entry) (now : Timestamp) (timing : Timing) : Transition → Entry → Prop where
  | unchanged
    (rest : e.band now timing.recover = .stillValid ∨
      e.band now timing.recover = .renewTime ∧ e.disableCookies = false ∧
        e.expectingSetCookie = true)
    : Evaluation e now timing .unchanged e
  | retried (due : e.band now timing.recover ≠ .stillValid) (disabled : e.disableCookies = true)
    : Evaluation e now timing .retryCookies
        (((e.setDisable false).touch now).setLifetime timing.retryLog2)
  | armed (due : e.band now timing.recover ≠ .stillValid) (enabled : e.disableCookies = false)
    (idle : e.expectingSetCookie = false)
    : Evaluation e now timing .renewalArmed ((e.setExpecting true).backdate now)
  | fellBack (past : e.band now timing.recover = .pastRenewTime)
    (enabled : e.disableCookies = false) (awaiting : e.expectingSetCookie = true)
    : Evaluation e now timing .fallbackEntered
        (((e.setDisable true).touch now).setLifetime timing.fallbackLog2)

theorem evaluation (e : Entry) (now : Timestamp) (timing : Timing)
    : Evaluation e now timing (e.evaluate now timing).1 (e.evaluate now timing).2 := by
  unfold evaluate
  split
  . next hband => exact .unchanged (Or.inl hband)
  . next hdisabled hdue => exact .retried hdue hdisabled
  . next hband henabled hawaiting => exact .unchanged (Or.inr ⟨hband, henabled, hawaiting⟩)
  . next hband henabled hawaiting => exact .fellBack hband henabled hawaiting
  . next henabled hidle hdue => exact .armed hdue henabled hidle

theorem evaluate_of_disabled_of_due (hdisabled : e.disableCookies = true) (hdue : e.Due now)
    (timing : Timing)
    : e.evaluate now timing
        =
      (.retryCookies, ((e.setDisable false).touch now).setLifetime timing.retryLog2) := by
  unfold evaluate
  cases hband : e.band now timing.recover with
  | stillValid => exact absurd hdue (band_eq_stillValid_iff.1 hband)
  | renewTime => simp only [hdisabled]
  | pastRenewTime => simp only [hdisabled]

theorem evaluate_of_infinite (hinfinite : e.lifetime = .infinite) (now : Timestamp) (timing : Timing)
    : e.evaluate now timing = (.unchanged, e) := by
  unfold evaluate
  rw [band_eq_stillValid_iff.2 (not_due_of_infinite hinfinite now)]

namespace Evaluation

variable {t : Transition} {e' : Entry}

theorem peer_eq (h : Evaluation e now timing t e') : e'.peer = e.peer := by
  cases h <;> rfl

theorem cookie_eq (h : Evaluation e now timing t e') : e'.cookie = e.cookie := by
  cases h <;> rfl

theorem eq_of_infinite (h : e.Evaluation now timing t e') (hinfinite : e.lifetime = .infinite)
    : e' = e := by
  have hvalid : e.band now timing.recover = .stillValid :=
    band_eq_stillValid_iff.2 (not_due_of_infinite hinfinite now)
  cases h with
  | unchanged => rfl
  | retried due => exact absurd hvalid due
  | armed due => exact absurd hvalid due
  | fellBack past => simp [hvalid] at past

end Evaluation

theorem le_due_backdate {seconds : Nat} (hseconds : e.lifetime.seconds? = some seconds)
    : now.toNat ≤ (e.backdate now).mtime.toNat + seconds := by
  simp only [backdate, hseconds, Option.getD_some, Timestamp.toNat_earlier]
  omega

end Entry

def Outbound.cookie? : Outbound → Option Cookie
  | plain => none
  | withCookie cookie => some cookie

theorem Entry.outbound_eq_plain_iff {e : Entry} : e.outbound = .plain ↔ e.disableCookies = true := by
  unfold outbound
  split
  . next h => simp [h]
  . next h => simp [h]

theorem Entry.cookie?_outbound (e : Entry)
    : e.outbound.cookie? = if e.disableCookies then none else some e.cookie := by
  unfold outbound
  split <;> rfl

end SourceCookie

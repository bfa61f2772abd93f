import SourceCookie.Node.Prepare
import SourceCookie.Proofs.Renewal.Table
import SourceCookie.Proofs.Run

/-!
The life of an entry whose peer says nothing. It goes from one stage to the next, each of which lasts for
a time of its own, and a stage is left with the first datagram that comes when its time is over. A cookie
is attached in all stages but one, and it is the same cookie throughout.
-/

namespace SourceCookie

inductive Stage where
  | created
  /-- The peer gave a new cookie, for 2^lifetimeLog2 seconds. -/
  | renewed (lifetimeLog2 : Nat)
  | armed
  | fellBack
  | retried
  deriving DecidableEq

namespace Stage

def duration (timing : Timing) : Stage → Nat
  | created => 1 + timing.recover.toNat
  | renewed lifetimeLog2 => 2 ^ lifetimeLog2
  | armed => timing.recover.toNat
  | fellBack => 2 ^ timing.fallbackLog2.toNat
  | retried => 2 ^ timing.retryLog2.toNat + timing.recover.toNat

def change : Stage → Transition
  | created | armed | retried => .fallbackEntered
  | renewed _ => .renewalArmed
  | fellBack => .retryCookies

def next : Stage → Stage
  | created | armed | retried => fellBack
  | renewed _ => armed
  | fellBack => retried

def outbound (cookie : Cookie) : Stage → Outbound
  | fellBack => .plain
  | _ => .withCookie cookie

def decisions (timing : Timing) (cookie : Cookie)
    : (stage : Stage) → (since : Nat) → List Timestamp → List SendDecision
  | _, _, [] => []
  | stage, since, now :: times =>
    if now.toNat < since + stage.duration timing then
      ⟨.unchanged, stage.outbound cookie⟩ :: decisions timing cookie stage since times
    else
      ⟨stage.change, stage.next.outbound cookie⟩ :: decisions timing cookie stage.next now.toNat times

end Stage

def InFallback (ds : List SendDecision) : Prop :=
  ∃ before d after, ds = before ++ d :: after ∧ d.transition = .fallbackEntered ∧
    ∀ d' ∈ after, d'.transition ≠ .retryCookies

theorem not_inFallback_nil : ¬ InFallback [] := by
  rintro ⟨before, d, after, hsplit, _⟩
  simp at hsplit

theorem inFallback_cons {d : SendDecision} {ds : List SendDecision}
    : InFallback (d :: ds)
        ↔
      InFallback ds ∨ d.transition = .fallbackEntered ∧ ∀ d' ∈ ds, d'.transition ≠ .retryCookies := by
  constructor
  . rintro ⟨before, d', after, hsplit, hfell, hsince⟩
    cases before with
    | nil =>
      rw [List.nil_append, List.cons.injEq] at hsplit
      rw [hsplit.1, hsplit.2]
      exact Or.inr ⟨hfell, hsince⟩
    | cons first before =>
      rw [List.cons_append, List.cons.injEq] at hsplit
      exact Or.inl ⟨before, d', after, hsplit.2, hfell, hsince⟩
  . rintro (⟨before, d', after, hsplit, hfell, hsince⟩ | ⟨hfell, hsince⟩)
    . exact ⟨d :: before, d', after, by rw [hsplit, List.cons_append], hfell, hsince⟩
    . exact ⟨[], d, ds, rfl, hfell, hsince⟩

namespace Stage

def LeadsToFallback (stage : Stage) (ds : List SendDecision) : Prop :=
  InFallback ds ∨ (stage = fellBack ∧ ∀ d ∈ ds, d.transition ≠ .retryCookies)

variable {stage : Stage} {cookie : Cookie} {ds : List SendDecision} {outbound : Outbound}

theorem leadsToFallback_iff (h : stage ≠ fellBack) : stage.LeadsToFallback ds ↔ InFallback ds := by
  simp [LeadsToFallback, h]

theorem leadsToFallback_nil : stage.LeadsToFallback [] ↔ stage = fellBack := by
  simp [LeadsToFallback, not_inFallback_nil]

theorem leadsToFallback_cons_unchanged
    : stage.LeadsToFallback (⟨.unchanged, outbound⟩ :: ds) ↔ stage.LeadsToFallback ds := by
  simp [LeadsToFallback, inFallback_cons]

theorem leadsToFallback_cons_change
    : stage.LeadsToFallback (⟨stage.change, outbound⟩ :: ds) ↔ stage.next.LeadsToFallback ds := by
  cases stage <;> simp [LeadsToFallback, inFallback_cons, change, next]

theorem outbound_eq_plain_iff : stage.outbound cookie = .plain ↔ stage = fellBack := by
  cases stage <;> simp [Stage.outbound]

theorem outbound_eq_plain_or
    : stage.outbound cookie = .plain ∨ stage.outbound cookie = .withCookie cookie := by
  cases stage <;> simp [Stage.outbound]

theorem throughout_decisions (timing : Timing) (stage : Stage) (since : Nat) (times : List Timestamp)
    : Throughout
        (fun before d =>
          (d.outbound = .plain ↔ stage.LeadsToFallback (before ++ [d])) ∧
          (d.outbound = .plain ∨ d.outbound = .withCookie cookie))
        (stage.decisions timing cookie since times) := by
  induction times generalizing stage since with
  | nil => exact throughout_nil
  | cons now times ih =>
    unfold decisions
    split
    . rw [throughout_cons]
      simp only [List.nil_append, List.cons_append, leadsToFallback_cons_unchanged, leadsToFallback_nil]
      exact ⟨⟨outbound_eq_plain_iff, outbound_eq_plain_or⟩, ih stage since⟩
    . rw [throughout_cons]
      simp only [List.nil_append, List.cons_append, leadsToFallback_cons_change, leadsToFallback_nil]
      exact ⟨⟨outbound_eq_plain_iff, outbound_eq_plain_or⟩, ih stage.next now.toNat⟩

theorem next_eq_fellBack (h : stage.change = .fallbackEntered) : stage.next = fellBack := by
  cases stage <;> simp [change, next] at h ⊢

theorem outbound_eq_withCookie (h : stage.change = .fallbackEntered)
    : stage.outbound cookie = .withCookie cookie := by
  cases stage <;> simp [change, Stage.outbound] at h ⊢

end Stage

namespace Entry

variable {e : Entry} {timing : Timing} {stage : Stage} {since : Nat} {now : Timestamp}

theorem due_restart {flag : Bool} {b : UInt8} (hb : b < Lifetime.infiniteLog2)
    : (((e.setDisable flag).touch now).setLifetime b).mtime.toNat
        + 2 ^ (((e.setDisable flag).touch now).setLifetime b).lifetime.toNat
        =
      now.toNat + 2 ^ b.toNat := by
  rw [← Lifetime.toNat_ofByte_of_lt hb]
  rfl

inductive InStage (e : Entry) (timing : Timing) (since : Nat) : Stage → Prop where
  | renewed (ends : e.lifetime ≠ .infinite) (enabled : e.disableCookies = false)
    (idle : e.expectingSetCookie = false) (refreshed : e.mtime.toNat = since)
    : InStage e timing since (.renewed e.lifetime.toNat)
  | fellBack (ends : e.lifetime ≠ .infinite) (disabled : e.disableCookies = true)
    (awaiting : e.expectingSetCookie = true)
    (due : e.mtime.toNat + 2 ^ e.lifetime.toNat = since + Stage.fellBack.duration timing)
    : InStage e timing since .fellBack
  | waiting {stage : Stage} (ends : e.lifetime ≠ .infinite) (enabled : e.disableCookies = false)
    (awaiting : e.expectingSetCookie = true) (change : stage.change = .fallbackEntered)
    (due : e.mtime.toNat + 2 ^ e.lifetime.toNat + timing.recover.toNat = since + stage.duration timing)
    : InStage e timing since stage

namespace InStage

theorem outbound_eq (h : e.InStage timing since stage) : e.outbound = stage.outbound e.cookie := by
  unfold Entry.outbound
  cases h with
  | renewed _ enabled => rw [enabled]; rfl
  | fellBack _ disabled => rw [disabled]; rfl
  | waiting _ enabled _ change => rw [enabled, Stage.outbound_eq_withCookie change]; rfl

theorem row_unchanged {n : Nat} (h : e.InStage timing since stage) (hlt : n < since + stage.duration timing)
    : e.Row n timing .unchanged e := by
  cases h with
  | renewed _ enabled _ refreshed =>
    apply Row.valid enabled
    apply exactBand_of_lt
    rw [refreshed]
    exact hlt
  | fellBack _ disabled _ due =>
    apply Row.inFallback disabled
    apply exactBand_of_lt
    rw [due]
    exact hlt
  | waiting ends enabled awaiting _ due =>
    rw [← due] at hlt
    rcases Nat.lt_or_ge n (e.mtime.toNat + 2 ^ e.lifetime.toNat) with hvalid | hrenew
    . exact .valid enabled (exactBand_of_lt hvalid)
    . refine .awaited enabled ?_ awaiting
      rw [exactBand_of_le ends hrenew, if_pos hlt]

theorem row_change (h : e.InStage timing since stage) (hle : since + stage.duration timing ≤ now.toNat)
    (hfallback : timing.fallbackLog2 < Lifetime.infiniteLog2)
    (hretry : timing.retryLog2 < Lifetime.infiniteLog2)
    : ∃ e', e.Row now.toNat timing stage.change e' ∧ e'.cookie = e.cookie ∧
        e'.InStage timing now.toNat stage.next := by
  cases h with
  | renewed ends enabled idle refreshed =>
    have hover : e.mtime.toNat + 2 ^ e.lifetime.toNat ≤ now.toNat := by
      rw [refreshed]
      exact hle
    have hrefreshed := toNat_mtime_backdate ends hover
    refine ⟨(e.setExpecting true).backdate now, ?_, rfl, ?_⟩
    . have hband := exactBand_of_le (r := timing.recover.toNat) ends hover
      split at hband
      . exact .due enabled hband idle hrefreshed
      . exact .overdue enabled hband idle hrefreshed
    . have hdue : _ + timing.recover.toNat = _ := congrArg (· + timing.recover.toNat) hrefreshed
      exact .waiting ends enabled rfl rfl hdue
  | fellBack ends disabled awaiting due =>
    rw [← due] at hle
    refine ⟨((e.setDisable false).touch now).setLifetime timing.retryLog2, ?_, rfl, ?_⟩
    . refine .fallbackOver disabled ?_ rfl (Lifetime.toNat_ofByte_of_lt hretry)
      rw [exactBand_of_le ends hle]
      split
      . exact Or.inl rfl
      . exact Or.inr rfl
    . refine .waiting (Lifetime.ofByte_ne_infinite hretry) rfl awaiting rfl ?_
      rw [due_restart hretry, Nat.add_assoc]
      rfl
  -- fallback comes after each of the stages that wait
  | waiting ends enabled awaiting change due =>
    rw [← due] at hle
    refine ⟨((e.setDisable true).touch now).setLifetime timing.fallbackLog2, ?_, rfl, ?_⟩
    . rw [change]
      refine .unanswered enabled ?_ awaiting rfl (Lifetime.toNat_ofByte_of_lt hfallback)
      rw [exactBand_of_le ends (by omega), if_neg (by omega)]
    . rw [Stage.next_eq_fellBack change]
      exact .fellBack (Lifetime.ofByte_ne_infinite hfallback) rfl awaiting (due_restart hfallback)

end InStage

end Entry

end SourceCookie

import SourceCookie.Proofs.Config
import SourceCookie.Proofs.Message
import SourceCookie.Proofs.Node.Step

/-!
Why no cookie is attached for good. Whoever sets the lifetime of an entry, the node itself or the peer, an
entry with cookies has one that ends; and an entry is never refreshed ahead of the clock. So a cookie that
has been attached for long enough is either asked to be renewed or given up.
-/

namespace SourceCookie

namespace Entry

variable {e e' : Entry} {now : Timestamp} {timing : Timing} {t : Transition}

def Ends (e : Entry) : Prop := e.disableCookies = false → e.lifetime ≠ .infinite

theorem Evaluation.ends (h : e.Evaluation now timing t e') (hends : e.Ends)
    (hretry : timing.retryLog2 < Lifetime.infiniteLog2)
    : e'.Ends := by
  cases h with
  | unchanged => exact hends
  | retried =>
    intro _
    apply Lifetime.ofByte_ne_infinite hretry
  | armed due enabled =>
    intro _
    exact hends enabled
  | fellBack =>
    intro henabled
    simp [setDisable, touch, setLifetime] at henabled

theorem ends_accept (e : Entry) {m : Message} (h : m.lifetimeLog2.toNat < 16) (now : Timestamp)
    : (e.accept m now).Ends := by
  intro henabled
  rw [ne_eq, e.lifetime_accept_eq_infinite_iff h]
  have hflag : (e.accept m now).disableCookies = e.disableCookies := rfl
  simp [← hflag, henabled]

theorem Evaluation.mtime_le (h : e.Evaluation now timing t e')
    : e'.mtime = e.mtime ∨ e'.mtime ≤ now := by
  cases h with
  | unchanged => exact Or.inl rfl
  | retried => exact Or.inr (UInt64.le_refl now)
  | armed =>
    apply Or.inr
    simp only [backdate, UInt64.le_iff_toNat_le, Timestamp.toNat_earlier]
    omega
  | fellBack => exact Or.inr (UInt64.le_refl now)

theorem evaluate_of_enabled_of_past (henabled : e.disableCookies = false) (hends : e.Ends)
    (hpast : e.mtime.toNat + 2 ^ 14 + timing.recover.toNat ≤ now.toNat)
    : (e.evaluate now timing).1
        =
      if e.expectingSetCookie then .fallbackEntered else .renewalArmed := by
  obtain ⟨seconds, hseconds, hbound⟩ := Lifetime.seconds?_le_of_ne_infinite (hends henabled)
  have hband : e.band now timing.recover = .pastRenewTime := by
    apply band_eq_pastRenewTime_of_le hseconds
    omega
  unfold evaluate
  rw [hband, henabled]
  cases e.expectingSetCookie with
  | true => rfl
  | false => rfl

end Entry

namespace Node

variable {n : Node} {peer : Ipv6} {o : Occasion} {os : List Occasion} {before after : Option Entry}

theorem EntryStep.ends (hstep : n.EntryStep peer o before after)
    (hretry : n.settings.timing.retryLog2 < Lifetime.infiniteLog2) (hbefore : ∀ e ∈ before, e.Ends)
    : ∀ e ∈ after, e.Ends := by
  cases hstep with
  | created =>
    rintro e ⟨⟩
    simp [Entry.Ends, Entry.fresh, Lifetime.eq_infinite_iff, Lifetime.toNat]
  | evaluated asked evaluation =>
    rintro e ⟨⟩
    exact evaluation.ends (hbefore _ rfl) hretry
  | updated received decoded =>
    rintro e ⟨⟩
    apply Entry.ends_accept
    exact Message.toNat_lifetimeLog2_lt_of_decode decoded
  | evicted => simp
  | kept => exact hbefore

theorem EntryStep.mtime_le {now : Timestamp} (hstep : n.EntryStep peer o before after) (hnow : o.now ≤ now)
    (hbefore : ∀ e ∈ before, e.mtime ≤ now)
    : ∀ e ∈ after, e.mtime ≤ now := by
  cases hstep with
  | created =>
    rintro e ⟨⟩
    exact hnow
  | evaluated asked evaluation =>
    rintro e ⟨⟩
    rcases evaluation.mtime_le with hsame | hle
    . rw [hsame]
      exact hbefore _ rfl
    . exact UInt64.le_trans hle hnow
  | updated =>
    rintro e ⟨⟩
    exact hnow
  | evicted => simp
  | kept => exact hbefore

theorem forall_mem_toList_run (id : Uuid) (c : Config) (engine : Engine) (os : List Occasion)
    {P : Entry → Prop}
    (hstep : ∀ (n : Node) peer before after, ∀ o ∈ os, n.settings = .ofConfig c →
      n.EntryStep peer o before after → (∀ e ∈ before, P e) → ∀ e ∈ after, P e)
    : ∀ e ∈ ((create id c engine).run os).cache.toList, P e := by
  have hlookup : ∀ peer, ∀ e ∈ ((create id c engine).run os).cache.lookup? peer, P e := by
    intro peer
    induction os using List.reverseRecOn with
    | nil => simp [run]
    | append_singleton os o ih =>
      have h := wellFormed_run (wellFormed_create id c engine) os
      rw [run_concat]
      apply hstep _ peer _ _ o (by simp) (settings_run _ os) (entryStep h peer o)
      apply ih
      intro n peer before after o ho
      exact hstep n peer before after o (List.mem_append_left _ ho)
  intro e he
  have h := wellFormed_run (wellFormed_create id c engine) os
  exact hlookup e.peer e (h.lookup?_eq_some_iff.2 ⟨he, rfl⟩)

theorem evaluated_of_past_and_mtime_le (id : Uuid) (c : Config) (engine : Engine)
    (hvalid : c.validate = .ok ()) (os : List Occasion)
    : (∀ e ∈ ((create id c engine).run os).cache.toList, e.disableCookies = false →
        (∃ seconds, e.lifetime.seconds? = some seconds ∧ seconds ≤ 2 ^ 14) ∧
        ∀ now : Timestamp, e.mtime.toNat + 2 ^ 14 + c.protocol.tRecoverSeconds.toNat ≤ now.toNat →
          (((create id c engine).run os).prepare e.peer now).answer.transition
            =
          if e.expectingSetCookie then .fallbackEntered else .renewalArmed) ∧
      ∀ now : Timestamp, (os.map Occasion.now ++ [now]).Pairwise (· ≤ ·) →
        ∀ e ∈ ((create id c engine).run os).cache.toList, e.mtime ≤ now := by
  constructor
  . intro e he henabled
    have hends : e.Ends := by
      refine forall_mem_toList_run id c engine os ?_ e he
      intro n peer before after o _ hsettings hstep
      apply hstep.ends
      rw [hsettings]
      exact Config.value_lt_of_validate hvalid .retry
    refine ⟨Lifetime.seconds?_le_of_ne_infinite (hends henabled), ?_⟩
    intro now hpast
    have h := wellFormed_run (wellFormed_create id c engine) os
    have hlookup := h.lookup?_eq_some_iff.2 ⟨he, rfl⟩
    rw [(prepare_of_lookup?_eq_some hlookup now).1, settings_run]
    exact Entry.evaluate_of_enabled_of_past henabled hends hpast
  . intro now hclock
    apply forall_mem_toList_run
    intro n peer before after o ho _ hstep
    apply hstep.mtime_le
    rw [List.pairwise_append] at hclock
    exact hclock.2.2 o.now (List.mem_map_of_mem ho) now (by simp)

theorem evaluated_of_past_and_mtime_le_firstContact
    : Config.validate { cache := ⟨1⟩ } = .ok () ∧
      ∃ e ∈ ((create default { cache := ⟨1⟩ } default).run [⟨2, .up, .prepare default⟩]).cache.toList,
        e.disableCookies = false ∧
        e.mtime.toNat + 2 ^ 14 + (3 : UInt64).toNat ≤ (16389 : Timestamp).toNat ∧
        (((create default { cache := ⟨1⟩ } default).run [⟨2, .up, .prepare default⟩]).prepare e.peer
            16389).answer.transition
          =
        .fallbackEntered ∧
        ([(2 : Timestamp)] ++ [2]).Pairwise (· ≤ ·) ∧ e.mtime ≤ 2 := by
  have hvalid : Config.validate { cache := ⟨1⟩ } = .ok () := by decide
  have hclock : ([(2 : Timestamp)] ++ [2]).Pairwise (· ≤ ·) := by decide
  obtain ⟨hdue, hmtime⟩ :=
    evaluated_of_past_and_mtime_le default { cache := ⟨1⟩ } default hvalid [⟨2, .up, .prepare default⟩]
  have he : Entry.fresh default false ((default : Engine).currentCookie default) 2
      ∈ ((create default { cache := ⟨1⟩ } default).run [⟨2, .up, .prepare default⟩]).cache.toList := by
    exact List.mem_cons_self
  exact ⟨hvalid, _, he, rfl, by decide, (hdue _ he rfl).2 16389 (by decide), hclock, hmtime 2 hclock _ he⟩

end Node

end SourceCookie

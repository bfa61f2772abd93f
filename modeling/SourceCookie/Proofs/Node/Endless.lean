import SourceCookie.Proofs.Config
import SourceCookie.Proofs.Message
import SourceCookie.Proofs.Node.Step

/-!
How long fallback lasts. The lifetimes that a node sets itself all end, and an entry with cookies takes
over none from its peer that does not. An entry in fallback is without cookies, though, so it takes over
whatever the peer asks for: fallback is for good exactly from when the peer asks for that until it sends
another cookie.
-/

namespace SourceCookie

namespace Entry

variable {e e' : Entry} {now : Timestamp} {timing : Timing} {t : Transition}

theorem Evaluation.lifetime_eq_infinite_iff (h : e.Evaluation now timing t e')
    (hfallback : timing.fallbackLog2 < Lifetime.infiniteLog2)
    (hretry : timing.retryLog2 < Lifetime.infiniteLog2)
    : e'.lifetime = .infinite ↔ e.lifetime = .infinite := by
  have hdue : e.band now timing.recover ≠ .stillValid → e.lifetime ≠ .infinite := by
    intro hband hinfinite
    exact hband (band_eq_stillValid_iff.2 (not_due_of_infinite hinfinite now))
  cases h with
  | unchanged => rfl
  | retried due =>
    have hset := Lifetime.ofByte_ne_infinite hretry
    simp [setLifetime, hset, hdue due]
  | armed => rfl
  | fellBack past =>
    have hset := Lifetime.ofByte_ne_infinite hfallback
    simp [setLifetime, hset, hdue (by simp [past])]

theorem due_of_add_le (hends : e.lifetime ≠ .infinite) (hle : e.mtime.toNat + 2 ^ 14 ≤ now.toNat)
    : e.Due now := by
  obtain ⟨seconds, hseconds, hbound⟩ := Lifetime.seconds?_le_of_ne_infinite hends
  refine ⟨seconds, hseconds, ?_⟩
  rw [UInt64.le_iff_toNat_le, Timestamp.toNat_later]
  omega

end Entry

namespace Node

variable {n : Node} {peer : Ipv6} {o : Occasion} {os : List Occasion}

def TakesEndless (n : Node) (peer : Ipv6) (o : Occasion) : Prop :=
  n.TakesCookie peer o ∧
    ∃ e bytes m, n.cache.lookup? peer = some e ∧ e.disableCookies = true ∧
      o.operation = .handleDatagram peer bytes ∧ Message.decode bytes = .ok m ∧
      m.lifetimeLog2 = Lifetime.infiniteLog2

/-- The last new cookie of the entry of now came for good, while the entry was without cookies. -/
def MadeEndless (n : Node) (os : List Occasion) (peer : Ipv6) : Prop :=
  Since next (TakesEndless · peer ·) (KeepsCookie · peer ·) n os

theorem madeEndless_concat
    : n.MadeEndless (os ++ [o]) peer
        ↔
      (n.run os).TakesEndless peer o ∨ (n.MadeEndless os peer ∧ (n.run os).KeepsCookie peer o) := by
  unfold MadeEndless
  rw [since_concat, ← run_eq_foldl]

theorem takesEndless_iff_lifetime_accept {e : Entry} {m : Message} {bytes : List UInt8}
    (he : n.cache.lookup? peer = some e) (received : o.operation = .handleDatagram peer bytes)
    (decoded : Message.decode bytes = .ok m) (takes : n.TakesCookie peer o)
    : n.TakesEndless peer o ↔ (e.accept m o.now).lifetime = .infinite := by
  rw [e.lifetime_accept_eq_infinite_iff (Message.toNat_lifetimeLog2_lt_of_decode decoded)]
  have hinfinite : m.lifetimeLog2.toNat = 15 ↔ m.lifetimeLog2 = Lifetime.infiniteLog2 := by
    rw [← UInt8.toNat_inj]
    rfl
  rw [hinfinite]
  constructor
  . rintro ⟨_, e', bytes', m', he', hdisabled, received', decoded', hendless⟩
    rw [he] at he'
    injection he' with he'
    rw [received] at received'
    injection received' with _ hbytes
    rw [← hbytes, decoded] at decoded'
    injection decoded' with hm
    rw [he', hm]
    exact ⟨hendless, hdisabled⟩
  . rintro ⟨hendless, hdisabled⟩
    exact ⟨takes, e, bytes, m, he, hdisabled, received, decoded, hendless⟩

theorem not_takesEndless (h : ¬ n.TakesCookie peer o) : ¬ n.TakesEndless peer o := by
  rintro ⟨takes, _⟩
  exact h takes

theorem EntryStep.infinite_iff {before after : Option Entry} (hstep : n.EntryStep peer o before after)
    (hbefore : n.cache.lookup? peer = before) (hpolicy : n.policyDisables peer = false)
    (hfallback : n.settings.timing.fallbackLog2 < Lifetime.infiniteLog2)
    (hretry : n.settings.timing.retryLog2 < Lifetime.infiniteLog2)
    : (∃ e, after = some e ∧ e.lifetime = .infinite)
        ↔
      n.TakesEndless peer o ∨
        ((∃ e, before = some e ∧ e.lifetime = .infinite) ∧ after.isSome ∧
          ¬ n.TakesCookie peer o) := by
  cases hstep with
  | created asked =>
    have htakes := not_takesCookie_of_prepare (n := n) asked peer
    simp [not_takesEndless htakes, Entry.fresh, hpolicy, Lifetime.eq_infinite_iff, Lifetime.toNat]
  | evaluated asked evaluation =>
    have htakes := not_takesCookie_of_prepare (n := n) asked peer
    simp [not_takesEndless htakes, htakes, evaluation.lifetime_eq_infinite_iff hfallback hretry]
  | updated received decoded _ _ takes =>
    simp [takes, takesEndless_iff_lifetime_accept hbefore received decoded takes]
  | evicted asked =>
    have htakes := not_takesCookie_of_prepare (n := n) asked peer
    simp [not_takesEndless htakes]
  | kept _ _ takesNone => cases before <;> simp [not_takesEndless takesNone, takesNone]

theorem infinite_iff_madeEndless (id : Uuid) (c : Config) (engine : Engine)
    (hvalid : c.validate = .ok ()) (hpolicy : (create id c engine).policyDisables peer = false)
    (os : List Occasion)
    : (∃ e, ((create id c engine).run os).cache.lookup? peer = some e ∧ e.lifetime = .infinite)
        ↔
      (create id c engine).MadeEndless os peer := by
  induction os using List.reverseRecOn with
  | nil => simp [run, MadeEndless, not_since_nil]
  | append_singleton os o ih =>
    have hstep := entryStep (wellFormed_run (wellFormed_create id c engine) os) peer o
    rw [← policyDisables_run _ os] at hpolicy
    have hiff := hstep.infinite_iff rfl hpolicy
    rw [settings_run] at hiff
    rw [run_concat, madeEndless_concat, ← ih]
    exact hiff (Config.value_lt_of_validate hvalid .fallback) (Config.value_lt_of_validate hvalid .retry)

theorem infinite_and_retries_iff_madeEndless (id : Uuid) (c : Config) (engine : Engine)
    (hvalid : c.validate = .ok ()) (hpolicy : (create id c engine).policyDisables peer = false)
    (os : List Occasion) {e : Entry}
    (he : ((create id c engine).run os).cache.lookup? peer = some e)
    : (e.lifetime = .infinite ↔ (create id c engine).MadeEndless os peer) ∧
      ∀ now : Timestamp, e.disableCookies = true → e.mtime.toNat + 2 ^ 14 ≤ now.toNat →
        (((create id c engine).run os).prepare peer now).answer
          =
        if e.lifetime = .infinite then ⟨.unchanged, .plain⟩
        else ⟨.retryCookies, .withCookie e.cookie⟩ := by
  constructor
  . rw [← infinite_iff_madeEndless id c engine hvalid hpolicy os, he]
    simp
  . intro now hdisabled hle
    rw [(prepare_of_lookup?_eq_some he now).1]
    split
    . next hinfinite =>
      rw [Entry.evaluate_of_infinite hinfinite]
      simp [Entry.outbound_eq_plain_iff.2 hdisabled]
    . next hends =>
      rw [Entry.evaluate_of_disabled_of_due hdisabled (Entry.due_of_add_le hends hle)]
      rfl

theorem infinite_and_retries_iff_madeEndless_silent
    : Config.validate { cache := ⟨1⟩ } = .ok () ∧
      (create default { cache := ⟨1⟩ } default).policyDisables default = false ∧
      ∃ e, ((create default { cache := ⟨1⟩ } default).run
          [⟨0, .up, .prepare default⟩, ⟨4, .up, .prepare default⟩]).cache.lookup? default = some e ∧
        e.disableCookies = true ∧ e.mtime.toNat + 2 ^ 14 ≤ (16388 : Timestamp).toNat ∧
        (e.lifetime = .infinite ↔ (create default { cache := ⟨1⟩ } default).MadeEndless
          [⟨0, .up, .prepare default⟩, ⟨4, .up, .prepare default⟩] default) ∧
        (((create default { cache := ⟨1⟩ } default).run
            [⟨0, .up, .prepare default⟩, ⟨4, .up, .prepare default⟩]).prepare default 16388).answer
          =
        if e.lifetime = .infinite then ⟨.unchanged, .plain⟩
        else ⟨.retryCookies, .withCookie e.cookie⟩ := by
  have hvalid : Config.validate { cache := ⟨1⟩ } = .ok () := by decide
  have hpolicy : (create default { cache := ⟨1⟩ } default).policyDisables default = false := by decide
  have he : ((create default { cache := ⟨1⟩ } default).run
      [⟨0, .up, .prepare default⟩, ⟨4, .up, .prepare default⟩]).cache.lookup? default
      =
    some ⟨default, (default : Engine).currentCookie default, 4, ⟨8⟩, true, true⟩ := by
    decide +kernel
  have h := infinite_and_retries_iff_madeEndless _ _ _ hvalid hpolicy _ he
  exact ⟨hvalid, hpolicy, _, he, rfl, by decide, h.1, h.2 16388 rfl (by decide)⟩

def lateEndlessAnswer (engine : Engine) (peer : Ipv6) (cookie : Cookie) : List Occasion :=
  [⟨0, .up, .prepare peer⟩, ⟨4, .up, .prepare peer⟩,
    ⟨4, .up, .handleDatagram peer (Message.setCookie 15 (engine.currentCookie peer) cookie).encode⟩]

theorem prepare_eq_unchanged_of_lateEndlessAnswer
    : Config.validate { cache := ⟨1⟩ } = .ok () ∧
      (create default { cache := ⟨1⟩ } default).policyDisables default = false ∧
      ∃ e, ((create default { cache := ⟨1⟩ } default).run
          (lateEndlessAnswer default default .zero)).cache.lookup? default = some e ∧
        e.disableCookies = true ∧ e.lifetime = .infinite ∧
        e.mtime.toNat + 2 ^ 14 ≤ (16388 : Timestamp).toNat ∧
        (((create default { cache := ⟨1⟩ } default).run
            (lateEndlessAnswer default default .zero)).prepare default 16388).answer
          =
        ⟨.unchanged, .plain⟩ := by
  have he : ((create default { cache := ⟨1⟩ } default).run
      (lateEndlessAnswer default default .zero)).cache.lookup? default
      =
    some ⟨default, .zero, 4, .infinite, true, false⟩ := by
    decide +kernel
  refine ⟨by decide, by decide, _, he, rfl, rfl, by decide, ?_⟩
  rw [(prepare_of_lookup?_eq_some he 16388).1, Entry.evaluate_of_infinite rfl]
  rfl

end Node

end SourceCookie

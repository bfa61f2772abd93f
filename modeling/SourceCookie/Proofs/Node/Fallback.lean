import SourceCookie.Proofs.Node.Step

/-!
Fallback comes only after a datagram with a cookie had no answer for as long as an answer may take.
The times that an entry holds say nothing about datagrams, as they are rewritten by whatever happens to
it; what they keep to is that an entry that awaits a new cookie is due no earlier than the last datagram
that made it wait.
-/

namespace SourceCookie

namespace Node

variable {n : Node} {peer : Ipv6} {o : Occasion}

theorem SendsCookie.of_answer (asked : o.operation = .prepare peer) {t : Transition} {e : Entry}
    (answered : (n.step o).answer = .decision ⟨t, e.outbound⟩) (enabled : e.disableCookies = false)
    : n.SendsCookie peer o := by
  refine ⟨asked, t, e.cookie, ?_⟩
  rw [answered]
  unfold Entry.outbound
  simp [enabled]

def SendsBeforeDue (peer : Ipv6) (e : Entry) (n : Node) (o : Occasion) : Prop :=
  n.SendsCookie peer o ∧
    ∀ seconds, e.lifetime.seconds? = some seconds → o.now.toNat ≤ e.mtime.toNat + seconds

theorem sendsBeforeDue_since (id : Uuid) (c : Config) (engine : Engine) (os : List Occasion) {e : Entry}
    (he : ((create id c engine).run os).cache.lookup? peer = some e)
    (henabled : e.disableCookies = false) (hawaiting : e.expectingSetCookie = true)
    : Since next (SendsBeforeDue peer e) (KeepsCookie · peer ·) (create id c engine) os := by
  induction os using List.reverseRecOn generalizing e with
  | nil => simp [run] at he
  | append_singleton os o ih =>
    have hstep := entryStep (wellFormed_run (wellFormed_create id c engine) os) peer o
    have hkeeps : ((create id c engine).run os).KeepsEntry peer o := by
      simp [KeepsEntry, ← run_concat, he]
    rw [run_concat] at he
    rw [he] at hstep
    rw [since_concat, ← run_eq_foldl]
    generalize hbefore : ((create id c engine).run os).cache.lookup? peer = before at hstep
    -- what leaves the entry waiting has either sent a cookie itself or not touched the entry
    cases hstep with
    | created asked answered =>
      refine Or.inl ⟨.of_answer asked answered henabled, ?_⟩
      intro seconds _
      simp [Entry.fresh]
    | evaluated asked evaluation answered =>
      have hsends := SendsCookie.of_answer asked answered henabled
      cases evaluation with
      | unchanged =>
        exact Or.inr ⟨ih hbefore henabled hawaiting, hkeeps, not_takesCookie_of_prepare asked peer⟩
      | retried =>
        refine Or.inl ⟨hsends, ?_⟩
        intro seconds _
        simp [Entry.touch, Entry.setLifetime]
      | @armed due enabled idle =>
        refine Or.inl ⟨hsends, ?_⟩
        intro seconds hseconds
        exact Entry.le_due_backdate hseconds
      | fellBack => simp [Entry.setDisable, Entry.touch, Entry.setLifetime] at henabled
    | updated => simp [Entry.accept, Entry.setExpecting] at hawaiting
    | kept _ notAsked takesNone =>
      exact Or.inr ⟨ih hbefore henabled hawaiting, hkeeps, takesNone⟩

theorem evaluation_of_fallbackEntered (h : n.cache.WellFormed) {now : Timestamp} {link : Link}
    {outbound : Outbound}
    (hfell : (n.step ⟨now, link, .prepare peer⟩).answer = .decision ⟨.fallbackEntered, outbound⟩)
    : ∃ e, n.cache.lookup? peer = some e ∧ e.band now n.settings.timing.recover = .pastRenewTime ∧
        e.disableCookies = false ∧ e.expectingSetCookie = true := by
  have hstep := entryStep h peer ⟨now, link, .prepare peer⟩
  generalize n.cache.lookup? peer = before at hstep
  generalize (n.next ⟨now, link, .prepare peer⟩).cache.lookup? peer = after at hstep
  cases hstep with
  | created _ answered => simp [hfell] at answered
  | @evaluated e _ t _ evaluation answered =>
    rw [hfell] at answered
    injection answered with heq
    injection heq with ht _
    subst ht
    cases evaluation with
    | fellBack past enabled awaiting => exact ⟨e, rfl, past, enabled, awaiting⟩
  | updated received => simp at received
  | evicted asked ne =>
    injection asked with heq
    exact absurd heq.symm ne
  | kept _ notAsked _ => simp at notAsked

theorem sendsCookie_since_of_fallbackEntered (id : Uuid) (c : Config) (engine : Engine)
    (os : List Occasion) {now : Timestamp} (hnow : now.toNat < Timestamp.last) (link : Link)
    {outbound : Outbound}
    (hfell : (((create id c engine).run os).step ⟨now, link, .prepare peer⟩).answer
      =
      .decision ⟨.fallbackEntered, outbound⟩)
    : Since next
        (fun n o => n.SendsCookie peer o ∧
          o.now.toNat + c.protocol.tRecoverSeconds.toNat ≤ now.toNat)
        (KeepsCookie · peer ·)
        (create id c engine) os := by
  have h := wellFormed_run (wellFormed_create id c engine) os
  obtain ⟨e, he, past, enabled, awaiting⟩ := evaluation_of_fallbackEntered h hfell
  have hrecover : (create id c engine).settings.timing.recover = c.protocol.tRecoverSeconds := rfl
  rw [settings_run, hrecover] at past
  obtain ⟨seconds, hseconds, hdue⟩ := Entry.due_le_of_band_eq hnow past
  apply (sendsBeforeDue_since id c engine os he enabled awaiting).imp
  rintro n o ⟨hsends, hbefore⟩
  have hsent := hbefore seconds hseconds
  exact ⟨hsends, by omega⟩

theorem sendsCookie_since_of_fallbackEntered_silent
    : (4 : Timestamp).toNat < Timestamp.last ∧
      (((create default { cache := ⟨1⟩ } default).run
        [⟨0, .up, .prepare default⟩]).step ⟨4, .up, .prepare default⟩).answer
        =
      .decision ⟨.fallbackEntered, .plain⟩ ∧
      Since next (fun n o => n.SendsCookie default o ∧ o.now.toNat + 3 ≤ 4)
        (KeepsCookie · default ·)
        (create default { cache := ⟨1⟩ } default) [⟨0, .up, .prepare default⟩] := by
  have hnow : (4 : Timestamp).toNat < Timestamp.last := by decide
  have hfell : (((create default { cache := ⟨1⟩ } default).run
      [⟨0, .up, .prepare default⟩]).step ⟨4, .up, .prepare default⟩).answer
      =
    .decision ⟨.fallbackEntered, .plain⟩ := by
    decide
  exact ⟨hnow, hfell, sendsCookie_since_of_fallbackEntered _ _ _ _ hnow .up hfell⟩

end Node

end SourceCookie

import SourceCookie.Proofs.Node.Step

/-!
The decision about a datagram and the table that it leaves. The datagram goes out as the one entry of its
peer says after the decision, a peer without an entry gets one at the end of the table, and nothing else
of the table changes but that its oldest entry leaves when there is no room.
-/

namespace SourceCookie

namespace Entry

variable {e e' : Entry} {now : Timestamp} {timing : Timing} {t : Transition}

theorem outbound_eq_withCookie_iff {cookie : Cookie}
    : e.outbound = .withCookie cookie ↔ e.disableCookies = false ∧ e.cookie = cookie := by
  unfold outbound
  cases e.disableCookies <;> simp

theorem Evaluation.eq_update (h : e.Evaluation now timing t e')
    : (∀ disabled, t ≠ .created disabled) ∧
      ∃ mtime lifetime disableCookies expectingSetCookie,
        e' = { e with mtime, lifetime, disableCookies, expectingSetCookie } := by
  refine ⟨?_, ?_⟩
  . intro disabled
    cases h <;> simp
  . cases h <;> exact ⟨_, _, _, _, rfl⟩

end Entry

namespace Node

variable {n : Node} {peer : Ipv6} {before after : List Entry} {e : Entry}

theorem prepare_of_absent (h : n.cache.WellFormed) (habsent : ∀ e ∈ n.cache.toList, e.peer ≠ peer)
    (now : Timestamp)
    : (n.prepare peer now).answer.transition = .created (n.policyDisables peer) ∧
      (n.prepare peer now).node.cache.toList
        =
      (if n.cache.toList.length = n.cache.capacity then n.cache.toList.tail else n.cache.toList)
        ++ [.fresh peer (n.policyDisables peer) (n.engine.currentCookie peer) now] := by
  have hnone := h.lookup?_eq_none_iff.2 habsent
  obtain ⟨hanswer, hnode⟩ := prepare_of_lookup?_eq_none h hnone now
  rw [hanswer, hnode]
  exact ⟨rfl, h.toList_insert_eq_ite hnone⟩

theorem prepare_of_present (h : n.cache.WellFormed) (hsplit : n.cache.toList = before ++ e :: after)
    (now : Timestamp)
    : (∀ disabled, (n.prepare e.peer now).answer.transition ≠ .created disabled) ∧
      ∃ mtime lifetime disableCookies expectingSetCookie,
        (n.prepare e.peer now).node.cache.toList
          =
        before ++ { e with mtime, lifetime, disableCookies, expectingSetCookie } :: after := by
  have he : n.cache.lookup? e.peer = some e := by
    rw [h.lookup?_eq_some_iff, hsplit]
    simp
  obtain ⟨hanswer, hnode⟩ := prepare_of_lookup?_eq_some he now
  obtain ⟨hcreated, mtime, lifetime, disableCookies, expectingSetCookie, hupdate⟩ :=
    (e.evaluation now n.settings.timing).eq_update
  rw [hanswer, hnode]
  refine ⟨hcreated, mtime, lifetime, disableCookies, expectingSetCookie, ?_⟩
  rw [h.toList_modify_of_split hsplit, hupdate]

theorem prepare_run_agrees_with_table (id : Uuid) (c : Config) (engine : Engine) (os : List Occasion)
    (peer : Ipv6) (now : Timestamp)
    : let n := (create id c engine).run os
      ∃ e,
        (n.prepare peer now).node.cache.toList.filter (·.peer = peer) = [e] ∧
        (∀ cookie, (n.prepare peer now).answer.outbound = .withCookie cookie
          ↔
          e.disableCookies = false ∧ e.cookie = cookie) ∧
        ((n.prepare peer now).answer.outbound = .plain ↔ e.disableCookies = true) ∧
        (∃ cache, (n.prepare peer now).node = { n with cache }) ∧
        ((∀ e₀ ∈ n.cache.toList, e₀.peer ≠ peer) →
          (n.prepare peer now).answer.transition = .created (n.policyDisables peer) ∧
          e = .fresh peer (n.policyDisables peer) (n.engine.currentCookie peer) now ∧
          (n.prepare peer now).node.cache.toList
            =
          (if n.cache.toList.length = n.cache.capacity then n.cache.toList.tail else n.cache.toList)
            ++ [e]) ∧
        ∀ before e₀ after, n.cache.toList = before ++ e₀ :: after → e₀.peer = peer →
          (∀ disabled, (n.prepare peer now).answer.transition ≠ .created disabled) ∧
          (∃ mtime lifetime disableCookies expectingSetCookie,
            e = { e₀ with mtime, lifetime, disableCookies, expectingSetCookie }) ∧
          (n.prepare peer now).node.cache.toList = before ++ e :: after := by
  intro n
  have h : n.cache.WellFormed := wellFormed_run (wellFormed_create id c engine) os
  obtain ⟨e, he, hout⟩ := lookup?_prepare h peer now
  have h' := wellFormed_prepare h peer now
  obtain ⟨hmem, rfl⟩ := h'.lookup?_eq_some_iff.1 he
  obtain ⟨before', after', hsplit'⟩ := List.append_of_mem hmem
  have hfilter := h'.filter_peer_toList hsplit'
  rw [hout]
  refine ⟨e, hfilter, fun cookie => Entry.outbound_eq_withCookie_iff, Entry.outbound_eq_plain_iff,
    n.prepare_eq_update _ now, ?_, ?_⟩
  . intro habsent
    obtain ⟨htransition, hlist⟩ := prepare_of_absent h habsent now
    have hnew := lookup?_prepare_of_lookup?_eq_none h (h.lookup?_eq_none_iff.2 habsent) now
    rw [he, Option.some.injEq] at hnew
    rw [← hnew] at hlist
    exact ⟨htransition, hnew, hlist⟩
  . intro before e₀ after hsplit hpeer
    rw [← hpeer] at h' hfilter ⊢
    obtain ⟨hcreated, mtime, lifetime, disableCookies, expectingSetCookie, hlist⟩ :=
      prepare_of_present h hsplit now
    have hfilter' := h'.filter_peer_toList hlist
    rw [hfilter, List.singleton_inj] at hfilter'
    rw [← hfilter'] at hlist
    exact ⟨hcreated, ⟨_, _, _, _, hfilter'⟩, hlist⟩

end Node

end SourceCookie

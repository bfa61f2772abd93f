import SourceCookie.Proofs.Message
import SourceCookie.Proofs.Node.Step

/-!
What traffic from outside can do to a node. It makes no entry, drops none and moves none, and it turns no
cookies on or off. All that it can do is to renew an entry, and that takes a message from the peer itself
which echoes the cookie that the entry holds.
-/

namespace SourceCookie

def Occasion.Inbound (o : Occasion) : Prop :=
  (∃ source cookie, o.operation = .inspect source cookie) ∨
    ∃ source bytes, o.operation = .handleDatagram source bytes

namespace Node

variable {n : Node} {o : Occasion}

structure Renews (n : Node) (peer : Ipv6) (e : Entry) (m : Message) (o : Occasion) : Prop where
  received : ∃ bytes, o.operation = .handleDatagram peer bytes ∧ Message.decode bytes = .ok m
  code : m.code = .setCookie
  held : n.cache.lookup? peer = some e
  echo : e.cookie = m.echoed

theorem Renews.next_eq {peer : Ipv6} {e : Entry} {m : Message} (h : n.Renews peer e m o)
    : n.next o = { n with cache := n.cache.modify peer (·.accept m o.now) } := by
  obtain ⟨bytes, received, decoded⟩ := h.received
  unfold next step
  rw [received]
  exact (handleDatagram_of_echo h.held decoded h.code h.echo o.link o.now).2

theorem renews_or_of_inbound (hin : o.Inbound)
    : (∃ peer e m, n.Renews peer e m o) ∨ ∃ reports, n.next o = { n with forgedReports := reports } := by
  unfold next step
  rcases hin with ⟨source, cookie, hinspect⟩ | ⟨source, bytes, hreceived⟩
  . rw [hinspect]
    exact Or.inr ⟨n.forgedReports, rfl⟩
  . rw [hreceived]
    rcases n.handleDatagram_cases o.link source bytes o.now with
      ⟨m, e, hdecode, hcode, he, hecho, _, _⟩ | ⟨_, reports, hnode⟩
    . exact Or.inl ⟨source, e, m, ⟨bytes, hreceived, hdecode⟩, hcode, he, hecho⟩
    . exact Or.inr ⟨reports, hnode⟩

/-- What no inbound traffic changes: the keys, the room in the table, the peers in the order in which
their entries were made, and whether each of them is without cookies. -/
structure SameStanding (n n' : Node) : Prop where
  engine_eq : n'.engine = n.engine
  capacity_eq : n'.cache.capacity = n.cache.capacity
  peers_eq : n'.cache.toList.map (fun e => (e.peer, e.disableCookies))
    = n.cache.toList.map fun e => (e.peer, e.disableCookies)

theorem SameStanding.refl (n : Node) : SameStanding n n := ⟨rfl, rfl, rfl⟩

theorem SameStanding.trans {n n' n'' : Node} (h : SameStanding n n') (h' : SameStanding n' n'')
    : SameStanding n n'' :=
  ⟨h'.engine_eq.trans h.engine_eq, h'.capacity_eq.trans h.capacity_eq, h'.peers_eq.trans h.peers_eq⟩

theorem sameStanding_next (h : n.cache.WellFormed) (hin : o.Inbound) : SameStanding n (n.next o) := by
  rcases renews_or_of_inbound (n := n) hin with ⟨peer, e, m, hrenews⟩ | ⟨reports, hnext⟩
  . rw [hrenews.next_eq]
    refine ⟨rfl, by simp [Cache.capacity], ?_⟩
    rw [h.toList_modify, List.map_map]
    apply List.map_congr_left
    intro e _
    simp only [Function.comp_apply]
    split <;> rfl
  . rw [hnext]
    exact ⟨rfl, rfl, rfl⟩

theorem Renews.lookup?_next (h : n.cache.WellFormed) {peer : Ipv6} {e : Entry} {m : Message}
    (hrenews : n.Renews peer e m o)
    : (∃ lifetime,
        (n.next o).cache.lookup? peer
          =
        some { e with cookie := m.requested, mtime := o.now, lifetime, expectingSetCookie := false } ∧
        lifetime.toNat
          =
        if m.lifetimeLog2.toNat = 15 ∧ e.disableCookies = false then 14 else m.lifetimeLog2.toNat) ∧
      ∀ other, other ≠ peer → (n.next o).cache.lookup? other = n.cache.lookup? other := by
  obtain ⟨bytes, _, decoded⟩ := hrenews.received
  have hlifetime := e.toNat_lifetime_accept (Message.toNat_lifetimeLog2_lt_of_decode decoded) o.now
  rw [hrenews.next_eq]
  constructor
  . refine ⟨_, ?_, hlifetime⟩
    rw [Cache.lookup?_modify_self, hrenews.held]
    rfl
  . intro other hne
    exact h.lookup?_modify_of_ne hne _

theorem sameStanding_and_renews_of_inbound (h : n.cache.WellFormed) (os : List Occasion)
    (hin : ∀ o ∈ os, o.Inbound)
    : SameStanding n (n.run os) ∧
      Along next (fun n o =>
        (∀ peer e m, n.Renews peer e m o →
          (∃ lifetime,
            (n.next o).cache.lookup? peer
              =
            some { e with cookie := m.requested, mtime := o.now, lifetime, expectingSetCookie := false } ∧
            lifetime.toNat
              =
            if m.lifetimeLog2.toNat = 15 ∧ e.disableCookies = false then 14
            else m.lifetimeLog2.toNat) ∧
          ∀ other, other ≠ peer → (n.next o).cache.lookup? other = n.cache.lookup? other) ∧
        ((∀ peer e m, ¬ n.Renews peer e m o) →
          (n.next o).engine = n.engine ∧ (n.next o).cache = n.cache)) n os := by
  constructor
  . induction os using List.reverseRecOn with
    | nil => exact SameStanding.refl n
    | append_singleton os o ih =>
      rw [run_concat]
      have hbefore := ih (fun o ho => hin o (List.mem_append_left _ ho))
      exact hbefore.trans (sameStanding_next (wellFormed_run h os) (hin o (by simp)))
  . apply along_of_invariant (fun n : Node => n.cache.WellFormed) _ h
    intro n o ho hn
    refine ⟨⟨?_, ?_⟩, wellFormed_step hn o⟩
    . intro peer e m hrenews
      exact hrenews.lookup?_next hn
    . intro hnone
      rcases renews_or_of_inbound (n := n) (hin o ho) with ⟨peer, e, m, hrenews⟩ | ⟨reports, hnext⟩
      . exact absurd hrenews (hnone peer e m)
      . rw [hnext]
        exact ⟨rfl, rfl⟩

def unanswered : Node := (create default { cache := ⟨1⟩ } default).run [⟨0, .up, .prepare default⟩]

def endlessAnswer : Message := .setCookie 15 (Engine.currentCookie default default) .zero

theorem sameStanding_and_renews_of_inbound_endlessAnswer
    : unanswered.cache.WellFormed ∧
      (∀ o ∈ [(⟨7, .up, .handleDatagram default endlessAnswer.encode⟩ : Occasion)], o.Inbound) ∧
      unanswered.SameStanding
        (unanswered.run [⟨7, .up, .handleDatagram default endlessAnswer.encode⟩]) ∧
      ∃ e lifetime, unanswered.cache.lookup? default = some e ∧
        (unanswered.next ⟨7, .up, .handleDatagram default endlessAnswer.encode⟩).cache.lookup? default
          =
        some { e with cookie := .zero, mtime := 7, lifetime, expectingSetCookie := false } ∧
        lifetime.toNat = 14 := by
  have h : unanswered.cache.WellFormed := wellFormed_run (wellFormed_create _ _ _) _
  have hin : ∀ o ∈ [(⟨7, .up, .handleDatagram default endlessAnswer.encode⟩ : Occasion)], o.Inbound := by
    simp [Occasion.Inbound]
  have hheld : unanswered.cache.lookup? default
      =
    some (.fresh default false (Engine.currentCookie default default) 0) :=
    lookup?_prepare_of_lookup?_eq_none (wellFormed_create _ _ _) (Cache.lookup?_empty _ _) 0
  have hrenews : unanswered.Renews default (.fresh default false (Engine.currentCookie default default) 0)
      endlessAnswer ⟨7, .up, .handleDatagram default endlessAnswer.encode⟩ :=
    ⟨⟨_, rfl, Message.decode_encode_setCookie _ _ _⟩, rfl, hheld, rfl⟩
  have hinbound := sameStanding_and_renews_of_inbound h _ hin
  obtain ⟨lifetime, hlookup, hlog⟩ := (hinbound.2.1.1 _ _ _ hrenews).1
  exact ⟨h, hin, hinbound.1, _, lifetime, hheld, hlookup, hlog⟩

end Node

end SourceCookie
